import DeviceBus.Transport.Network
import Mathlib.Logic.Basic

/-!
# What operations do to the other sockets

The holder of a socket may read from it, let go of its halves and close it.  Whatever it does, the other
end of the connection learns no more than that the stream is over, and no third socket learns anything:
`Network.Recedes` is the relation that all those operations keep.  The two operations that add something
are described beside it: writing (`Network.Delivers`) adds bytes at the other end, and connecting
(`Network.join`) adds a pair of sockets.

* `recedes_dropWriter`, `recedes_dropReader`, `recedes_close`, `recedes_take`: the operations of a holder.
* `delivers_write`: a write that succeeds adds a piece of its bytes at the other end, which is not closed.
* `Honest`: a stream that has ended has no writer any more, which all of them keep.
-/

namespace DeviceBus

namespace Network

/-! ## Sockets -/

theorem peerOf_eq (id : Nat) : @Eq Nat (peerOf id) (if id % 2 = 0 then id + 1 else id - 1) := rfl

theorem peerOf_mod_two (id : Nat) : @Eq Nat (peerOf id % 2) (1 - id % 2) := by
  have hpeer := peerOf_eq id
  generalize peerOf id = peer at *
  split at hpeer <;> omega

@[simp] theorem peerOf_peerOf (id : SocketId) : peerOf (peerOf id) = id := by
  have hfirst := peerOf_eq id
  have hsecond := peerOf_eq (peerOf id)
  generalize peerOf (peerOf id) = twice at *
  generalize peerOf id = once at *
  show @Eq Nat twice id
  split at hfirst <;> split at hsecond <;> omega

theorem peerOf_injective {first second : SocketId} (h : peerOf first = peerOf second) :
    first = second := by
  rw [← peerOf_peerOf first, h, peerOf_peerOf]

theorem peerOf_ne (id : SocketId) : peerOf id ≠ id := by
  intro heq
  have hparity := peerOf_mod_two id
  rw [heq] at hparity
  omega

theorem peerOf_of_even {id : Nat} (h : id % 2 = 0) : peerOf id = id + 1 := if_pos h

/-- Sockets that come in pairs have their other end among them. -/
theorem peerOf_lt {count id : Nat} (hpaired : count % 2 = 0) (h : id < count) :
    @LT.lt Nat _ (peerOf id) count := by
  have hpeer := peerOf_eq id
  generalize peerOf id = peer at *
  split at hpeer <;> omega

theorem lt_or_eq_of_lt_add_two {count id : Nat} (h : id < count + 2) :
    id < count ∨ id = count ∨ id = count + 1 := by omega

/-- A socket that was never made is closed and its stream is over. -/
theorem socket_of_size_le {net : Network} {id : SocketId} (h : net.sockets.size ≤ id) :
    net.socket id = { readHeld := false, writeHeld := false, finished := true } := by
  rw [socket, Array.getElem?_eq_none h, Option.getD_none]

theorem lt_size_of_readHeld {net : Network} {id : SocketId} (h : (net.socket id).readHeld = true) :
    id < net.sockets.size := by
  by_cases hlt : id < net.sockets.size
  · exact hlt
  · rw [socket_of_size_le (Nat.le_of_not_lt hlt)] at h
    cases h

theorem lt_size_of_writeHeld {net : Network} {id : SocketId} (h : (net.socket id).writeHeld = true) :
    id < net.sockets.size := by
  by_cases hlt : id < net.sockets.size
  · exact hlt
  · rw [socket_of_size_le (Nat.le_of_not_lt hlt)] at h
    cases h

@[simp] theorem size_modify (net : Network) (id : SocketId) (change : Socket → Socket) :
    (net.modify id change).sockets.size = net.sockets.size := by
  simp [modify]

@[simp] theorem files_modify (net : Network) (id : SocketId) (change : Socket → Socket) :
    (net.modify id change).files = net.files := rfl

@[simp] theorem routes_modify (net : Network) (id : SocketId) (change : Socket → Socket) :
    (net.modify id change).routes = net.routes := rfl

@[simp] theorem listeners_modify (net : Network) (id : SocketId) (change : Socket → Socket) :
    (net.modify id change).listeners = net.listeners := rfl

theorem socket_modify_of_ne {net : Network} {id other : SocketId} (h : other ≠ id)
    (change : Socket → Socket) : (net.modify id change).socket other = net.socket other := by
  simp [modify, socket, Array.getElem?_modify, Ne.symm h]

theorem socket_modify_self {net : Network} {id : SocketId} (h : id < net.sockets.size)
    (change : Socket → Socket) : (net.modify id change).socket id = change (net.socket id) := by
  simp [modify, socket, Array.getElem?_modify, Array.getElem?_eq_getElem h]

theorem modify_of_size_le {net : Network} {id : SocketId} (h : net.sockets.size ≤ id)
    (change : Socket → Socket) : net.modify id change = net := by
  have hsame : net.sockets.modify id change = net.sockets := by
    apply Array.ext_getElem?
    intro other
    rw [Array.getElem?_modify]
    split
    · rename_i heq
      rw [← heq, Array.getElem?_eq_none h, Option.map_none]
    · rfl
  rw [modify, hsame]

/-! ## The holder of a socket -/

/-- What may become of a network when the holder of a socket uses it without writing: its own socket is
read empty or let go, and the other end may learn that the stream is over. -/
structure Recedes (id : SocketId) (before after : Network) : Prop where
  files : after.files = before.files
  routes : after.routes = before.routes
  listeners : after.listeners = before.listeners
  size : after.sockets.size = before.sockets.size
  others : ∀ other, other ≠ id → other ≠ peerOf id → after.socket other = before.socket other
  incoming : (after.socket id).incoming = (before.socket id).incoming ∨
    (after.socket id).incoming = .empty
  finished : (after.socket id).finished = (before.socket id).finished
  broken : (after.socket id).broken = true → (before.socket id).broken = true
  readHeld : (after.socket id).readHeld = true → (before.socket id).readHeld = true
  writeHeld : (after.socket id).writeHeld = true → (before.socket id).writeHeld = true
  peerIncoming : (after.socket (peerOf id)).incoming = (before.socket (peerOf id)).incoming
  peerReadHeld : (after.socket (peerOf id)).readHeld = (before.socket (peerOf id)).readHeld
  peerWriteHeld : (after.socket (peerOf id)).writeHeld = (before.socket (peerOf id)).writeHeld
  peerStays : (before.socket (peerOf id)).finished = true → (after.socket (peerOf id)).finished = true
  peerFinished : (after.socket (peerOf id)).finished = true →
    (before.socket (peerOf id)).finished = true ∨ (after.socket id).writeHeld = false
  peerBroken : (after.socket (peerOf id)).broken = true →
    (before.socket (peerOf id)).broken = true ∨ (after.socket (peerOf id)).finished = true

namespace Recedes

variable {id : SocketId} {before between after : Network}

theorem refl (id : SocketId) (net : Network) : Recedes id net net where
  files := rfl
  routes := rfl
  listeners := rfl
  size := rfl
  others _ _ _ := rfl
  incoming := .inl rfl
  finished := rfl
  broken h := h
  readHeld h := h
  writeHeld h := h
  peerIncoming := rfl
  peerReadHeld := rfl
  peerWriteHeld := rfl
  peerStays h := h
  peerFinished h := .inl h
  peerBroken h := .inl h

/-- A socket that is closed stays closed. -/
theorem isClosed (h : Recedes id before after) (hclosed : (before.socket id).isClosed = true) :
    (after.socket id).isClosed = true := by
  simp only [Socket.isClosed, Bool.and_eq_true, Bool.not_eq_true'] at hclosed ⊢
  refine ⟨Bool.eq_false_iff.2 fun hheld => ?_, Bool.eq_false_iff.2 fun hheld => ?_⟩
  · rw [h.readHeld hheld] at hclosed
    cases hclosed.1
  · rw [h.writeHeld hheld] at hclosed
    cases hclosed.2

theorem trans (first : Recedes id before between) (second : Recedes id between after) :
    Recedes id before after where
  files := second.files.trans first.files
  routes := second.routes.trans first.routes
  listeners := second.listeners.trans first.listeners
  size := second.size.trans first.size
  others other hne hpeer := (second.others other hne hpeer).trans (first.others other hne hpeer)
  incoming := by
    rcases second.incoming with hsame | hempty
    · rw [hsame]
      exact first.incoming
    · exact .inr hempty
  finished := second.finished.trans first.finished
  broken h := first.broken (second.broken h)
  readHeld h := first.readHeld (second.readHeld h)
  writeHeld h := first.writeHeld (second.writeHeld h)
  peerIncoming := second.peerIncoming.trans first.peerIncoming
  peerReadHeld := second.peerReadHeld.trans first.peerReadHeld
  peerWriteHeld := second.peerWriteHeld.trans first.peerWriteHeld
  peerStays h := second.peerStays (first.peerStays h)
  peerFinished h := by
    rcases second.peerFinished h with hbetween | hdropped
    · rcases first.peerFinished hbetween with hbefore | hdropped
      · exact .inl hbefore
      · refine .inr (Bool.eq_false_iff.2 fun hheld => ?_)
        rw [second.writeHeld hheld] at hdropped
        cases hdropped
    · exact .inr hdropped
  peerBroken h := by
    rcases second.peerBroken h with hbetween | hover
    · rcases first.peerBroken hbetween with hbefore | hover
      · exact .inl hbefore
      · exact .inr (second.peerStays hover)
    · exact .inr hover

end Recedes

/-- A change of a socket's own part that takes nothing back. -/
theorem recedes_modify {net : Network} {id : SocketId} {change : Socket → Socket}
    (h : ∀ socket, ((change socket).incoming = socket.incoming ∨ (change socket).incoming = .empty) ∧
      (change socket).finished = socket.finished ∧
      ((change socket).broken = true → socket.broken = true) ∧
      ((change socket).readHeld = true → socket.readHeld = true) ∧
      ((change socket).writeHeld = true → socket.writeHeld = true)) :
    Recedes id net (net.modify id change) := by
  by_cases hin : id < net.sockets.size
  · have hpeer : (net.modify id change).socket (peerOf id) = net.socket (peerOf id) :=
      socket_modify_of_ne (peerOf_ne id) change
    obtain ⟨hincoming, hfinished, hbroken, hread, hwrite⟩ := h (net.socket id)
    constructor <;> try rw [socket_modify_self hin]
    case others => exact fun other hne _ => socket_modify_of_ne hne change
    case size => exact size_modify _ _ _
    all_goals simp_all
  · rw [modify_of_size_le (Nat.le_of_not_lt hin)]
    exact .refl id net

/-- Telling the other end that the stream is over, once the half for writing is let go. -/
theorem recedes_modify_peer {net : Network} {id : SocketId} (reset : Bool)
    (hwriter : (net.socket id).writeHeld = false) :
    Recedes id net (net.modify (peerOf id) fun peer =>
      { peer with finished := true, broken := peer.broken || reset }) := by
  by_cases hin : peerOf id < net.sockets.size
  · have hown : (net.modify (peerOf id) fun peer =>
        { peer with finished := true, broken := peer.broken || reset }).socket id = net.socket id :=
      socket_modify_of_ne (peerOf_ne id).symm _
    constructor <;> try rw [socket_modify_self hin]
    case others => exact fun other _ hne => socket_modify_of_ne hne _
    case size => exact size_modify _ _ _
    all_goals simp_all
  · rw [modify_of_size_le (Nat.le_of_not_lt hin)]
    exact .refl id net

theorem recedes_settleClosed (net : Network) (id : SocketId) : Recedes id net (net.settleClosed id) := by
  unfold settleClosed
  dsimp only
  split
  · rename_i hclosed
    have hempty : Recedes id net (net.modify id fun socket => { socket with incoming := .empty }) :=
      recedes_modify fun socket => ⟨.inr rfl, rfl, fun h => h, fun h => h, fun h => h⟩
    have hstill : ((net.modify id fun socket => { socket with incoming := .empty }).socket id).isClosed =
        true := by
      by_cases hin : id < net.sockets.size
      · rw [socket_modify_self hin]
        exact hclosed
      · rw [modify_of_size_le (Nat.le_of_not_lt hin)]
        exact hclosed
    refine hempty.trans (recedes_modify_peer _ ?_)
    simpa using (Bool.and_eq_true_iff.1 hstill).2
  · exact .refl id net

theorem recedes_dropWriter (net : Network) (id : SocketId) : Recedes id net (net.dropWriter id) := by
  unfold dropWriter
  split
  · rename_i hheld
    have hin := lt_size_of_writeHeld hheld
    have hdropped : Recedes id net (net.modify id fun socket => { socket with writeHeld := false }) :=
      recedes_modify fun socket => ⟨.inl rfl, rfl, fun h => h, fun h => h, nofun⟩
    refine (hdropped.trans ?_).trans (recedes_settleClosed _ id)
    have hgone : ((net.modify id fun socket => { socket with writeHeld := false }).socket id).writeHeld =
        false := by
      rw [socket_modify_self hin]
    simpa using recedes_modify_peer false hgone
  · exact .refl id net

theorem recedes_dropReader (net : Network) (id : SocketId) : Recedes id net (net.dropReader id) := by
  unfold dropReader
  split
  · have hdropped : Recedes id net (net.modify id fun socket => { socket with readHeld := false }) :=
      recedes_modify fun socket => ⟨.inl rfl, rfl, fun h => h, nofun, fun h => h⟩
    exact hdropped.trans (recedes_settleClosed _ id)
  · exact .refl id net

theorem recedes_close (net : Network) (id : SocketId) : Recedes id net (net.close id) := by
  unfold close
  split
  · exact .refl id net
  · have hdropped : Recedes id net
        (net.modify id fun socket => { socket with readHeld := false, writeHeld := false }) :=
      recedes_modify fun socket => ⟨.inl rfl, rfl, fun h => h, nofun, nofun⟩
    exact hdropped.trans (recedes_settleClosed _ id)

theorem recedes_take (net : Network) (id : SocketId) : Recedes id net (net.take id).2 := by
  unfold take
  dsimp only
  split
  · exact recedes_modify fun socket => ⟨.inr rfl, rfl, fun h => h, fun h => h, fun h => h⟩
  · split
    · exact recedes_modify fun socket => ⟨.inl rfl, rfl, nofun, fun h => h, fun h => h⟩
    · split <;> exact .refl id net

/-- Everything that a socket can have to offer. -/
inductive Taken (net : Network) (id : SocketId) : Frame.Supply × Network → Prop where
  | bytes {after : Network} (recedes : Recedes id net after)
      (empty : (after.socket id).incoming = .empty) :
      Taken net id (.bytes (net.socket id).incoming, after)
  | broken {after : Network} {fault : SystemFault} (recedes : Recedes id net after)
      (empty : (net.socket id).incoming = .empty) (broken : (net.socket id).broken = true) :
      Taken net id (.broken fault, after)
  | ended (empty : (net.socket id).incoming = .empty) (finished : (net.socket id).finished = true) :
      Taken net id (.ended, net)
  | nothing (empty : (net.socket id).incoming = .empty) (whole : (net.socket id).broken = false)
      (unfinished : (net.socket id).finished = false) : Taken net id (.nothing, net)

theorem taken_take (net : Network) (id : SocketId) : Taken net id (net.take id) := by
  have hrecedes := recedes_take net id
  unfold take at hrecedes ⊢
  dsimp only at hrecedes ⊢
  split at hrecedes
  · rename_i hsome
    rw [if_pos hsome]
    refine .bytes hrecedes ?_
    have hin : id < net.sockets.size := by
      by_cases hlt : id < net.sockets.size
      · exact hlt
      · rw [socket_of_size_le (Nat.le_of_not_lt hlt)] at hsome
        exact absurd rfl hsome
    rw [socket_modify_self hin]
  · rename_i hnone
    rw [if_neg hnone]
    have hempty : (net.socket id).incoming = .empty := ByteArray.size_eq_zero_iff.1 (not_not.1 hnone)
    split at hrecedes
    · rename_i hbroken
      rw [if_pos hbroken]
      exact .broken hrecedes hempty hbroken
    · rename_i hwhole
      rw [if_neg hwhole]
      split
      · rename_i hfinished
        exact .ended hempty hfinished
      · rename_i hunfinished
        exact .nothing hempty (Bool.eq_false_iff.2 hwhole) (Bool.eq_false_iff.2 hunfinished)

/-- Bytes come from a socket only if some have arrived. -/
theorem incoming_ne_of_take {net after : Network} {id : SocketId} {piece : ByteArray}
    (h : net.take id = (.bytes piece, after)) : (net.socket id).incoming ≠ .empty := by
  intro hempty
  rw [take, hempty, if_neg (not_not.2 ByteArray.size_empty)] at h
  split at h
  · cases h
  · split at h <;> cases h

/-- The only fault of a socket is that its connection was reset. -/
theorem fault_of_take {net after : Network} {id : SocketId} {fault : SystemFault}
    (h : net.take id = (.broken fault, after)) : fault = .system .connectionReset := by
  unfold take at h
  dsimp only at h
  split at h
  · cases h
  · split at h
    · cases h
      rfl
    · split at h <;> cases h

/-- After closing a socket it is closed. -/
theorem isClosed_close (net : Network) (id : SocketId) : ((net.close id).socket id).isClosed = true := by
  unfold close
  split
  · assumption
  · have hdropped := recedes_settleClosed
      (net.modify id fun socket => { socket with readHeld := false, writeHeld := false }) id
    have hclosed : ((net.modify id fun socket =>
        { socket with readHeld := false, writeHeld := false }).socket id).isClosed = true := by
      by_cases hin : id < net.sockets.size
      · rw [socket_modify_self hin]
        rfl
      · rw [modify_of_size_le (Nat.le_of_not_lt hin), socket_of_size_le (Nat.le_of_not_lt hin)]
        rfl
    exact hdropped.isClosed hclosed

/-- Letting go of the half for writing leaves a reader what it has to read. -/
theorem socket_dropWriter {net : Network} {id : SocketId} (h : (net.socket id).readHeld = true) :
    (net.dropWriter id).socket id = { net.socket id with writeHeld := false } := by
  have hin := lt_size_of_readHeld h
  unfold dropWriter
  split
  · have hown : (((net.modify id fun socket => { socket with writeHeld := false }).modify (peerOf id)
        fun peer => { peer with finished := true }).socket id) =
          { net.socket id with writeHeld := false } := by
      rw [socket_modify_of_ne (peerOf_ne id).symm, socket_modify_self hin]
    unfold settleClosed
    dsimp only
    rw [if_neg (by rw [hown]; simp [Socket.isClosed, h])]
    exact hown
  · rename_i hgone
    rw [← Bool.eq_false_iff.2 hgone]

/-- Letting go of the half for reading leaves a writer what it has. -/
theorem socket_dropReader {net : Network} {id : SocketId} (h : (net.socket id).writeHeld = true) :
    (net.dropReader id).socket id = { net.socket id with readHeld := false } := by
  have hin := lt_size_of_writeHeld h
  unfold dropReader
  split
  · have hown : (net.modify id fun socket => { socket with readHeld := false }).socket id =
        { net.socket id with readHeld := false } := socket_modify_self hin _
    unfold settleClosed
    dsimp only
    rw [if_neg (by rw [hown]; simp [Socket.isClosed, h])]
    exact hown
  · rename_i hgone
    rw [← Bool.eq_false_iff.2 hgone]

/-- Reading lets go of nothing. -/
theorem held_take (net : Network) (id : SocketId) :
    ((net.take id).2.socket id).readHeld = (net.socket id).readHeld ∧
      ((net.take id).2.socket id).writeHeld = (net.socket id).writeHeld := by
  have hmodify : ∀ change : Socket → Socket,
      (∀ socket, (change socket).readHeld = socket.readHeld ∧
        (change socket).writeHeld = socket.writeHeld) →
      ((net.modify id change).socket id).readHeld = (net.socket id).readHeld ∧
        ((net.modify id change).socket id).writeHeld = (net.socket id).writeHeld := by
    intro change hchange
    by_cases hin : id < net.sockets.size
    · rw [socket_modify_self hin]
      exact hchange _
    · rw [modify_of_size_le (Nat.le_of_not_lt hin)]
      exact ⟨rfl, rfl⟩
  unfold take
  dsimp only
  split
  · exact hmodify _ fun _ => ⟨rfl, rfl⟩
  · split
    · exact hmodify _ fun _ => ⟨rfl, rfl⟩
    · split <;> exact ⟨rfl, rfl⟩

/-! ## Writing -/

/-- A piece of bytes is added at the other end of a socket, and that is all. -/
structure Delivers (id : SocketId) (piece : ByteArray) (before after : Network) : Prop where
  files : after.files = before.files
  routes : after.routes = before.routes
  listeners : after.listeners = before.listeners
  size : after.sockets.size = before.sockets.size
  others : ∀ other, other ≠ peerOf id → after.socket other = before.socket other
  peer : after.socket (peerOf id) =
    { before.socket (peerOf id) with incoming := (before.socket (peerOf id)).incoming ++ piece }

/-- A write that succeeds adds a piece of its bytes at the other end, which is not closed. -/
theorem delivers_write {net after : Network} {id : SocketId} {bytes : ByteArray} {offset count : Nat}
    (h : net.write id bytes offset = .ok (count, after)) :
    (net.socket (peerOf id)).isClosed = false ∧ count ≤ bytes.size - offset ∧
      Delivers id (bytes.extract offset (offset + count)) net after := by
  unfold write room at h
  dsimp only at h
  cases hclosed : (net.socket (peerOf id)).isClosed with
  | true => simp [hclosed] at h
  | false =>
      simp only [hclosed, Bool.false_eq_true, if_false, Except.ok.injEq, Prod.mk.injEq] at h
      obtain ⟨rfl, rfl⟩ := h
      have hin : peerOf id < net.sockets.size := by
        by_cases hlt : peerOf id < net.sockets.size
        · exact hlt
        · rw [socket_of_size_le (Nat.le_of_not_lt hlt)] at hclosed
          cases hclosed
      exact ⟨rfl, Nat.min_le_right _ _,
        { files := rfl
          routes := rfl
          listeners := rfl
          size := size_modify _ _ _
          others := fun other hne => socket_modify_of_ne hne _
          peer := socket_modify_self hin _ }⟩

/-- A write that succeeds writes as much as there is room for. -/
theorem count_of_write {net after : Network} {id : SocketId} {bytes : ByteArray} {offset count : Nat}
    (h : net.write id bytes offset = .ok (count, after)) :
    count = min (capacity - (net.socket (peerOf id)).incoming.size) (bytes.size - offset) := by
  unfold write room at h
  dsimp only at h
  cases hclosed : (net.socket (peerOf id)).isClosed with
  | true => simp [hclosed] at h
  | false =>
      simp only [hclosed, Bool.false_eq_true, if_false, Except.ok.injEq, Prod.mk.injEq] at h
      exact h.1.symm

/-- A write fails only where the other end is closed. -/
theorem writeHeld_of_write_error {net : Network} {id : SocketId} {bytes : ByteArray} {offset : Nat}
    {fault : SystemFault} (h : net.write id bytes offset = .error fault) :
    (net.socket (peerOf id)).writeHeld = false := by
  unfold write room at h
  dsimp only at h
  cases hclosed : (net.socket (peerOf id)).isClosed with
  | true =>
      simp only [Socket.isClosed, Bool.and_eq_true, Bool.not_eq_true'] at hclosed
      exact hclosed.2
  | false => simp [hclosed] at h

/-! ## Connecting -/

/-- A new connection to a listener: its far end is given to whoever connects, and its near end waits. -/
def join (net : Network) (id : ListenerId) : Network :=
  { net with
    sockets := (net.sockets.push {}).push {}
    listeners := net.listeners.modify id fun listener =>
      { listener with waiting := listener.waiting ++ [net.sockets.size + 1] } }

/-- There is nobody behind the last listener, so a connection that joins nobody changes none. -/
theorem join_size (net : Network) :
    net.join net.listeners.size = { net with sockets := (net.sockets.push {}).push {} } := by
  have hsame : net.listeners.modify net.listeners.size (fun listener =>
      { listener with waiting := listener.waiting ++ [net.sockets.size + 1] }) = net.listeners := by
    refine Array.ext_getElem? fun other => ?_
    rw [Array.getElem?_modify]
    split
    · rename_i hsize
      rw [← hsize, Array.getElem?_size]
      rfl
    · rfl
  rw [join, hsame]

/-- A connection joins the listener to which the address leads, or none here. -/
theorem connect_eq_ok {net after : Network} {url : Url} {far : SocketId}
    (h : net.connect url = .ok (far, after)) :
    ∃ id, (net.destination url = .ok (some id) ∨
        net.destination url = .ok none ∧ net.listeners.size ≤ id) ∧
      far = net.sockets.size ∧ after = net.join id := by
  unfold connect at h
  split at h
  · cases h
  · rename_i place hplace
    injection h with h
    injection h with hfar hafter
    cases place with
    | some id => exact ⟨id, .inl hplace, hfar.symm, hafter.symm⟩
    | none =>
        exact ⟨net.listeners.size, .inr ⟨hplace, Nat.le_refl _⟩, hfar.symm,
          hafter.symm.trans net.join_size.symm⟩

/-- Whoever is led to a listener joins it. -/
theorem connect_of_destination {net : Network} {url : Url} {id : ListenerId}
    (h : net.destination url = .ok (some id)) :
    net.connect url = .ok (net.sockets.size, net.join id) := by
  rw [connect, h]
  rfl

@[simp] theorem size_join (net : Network) (id : ListenerId) :
    (net.join id).sockets.size = net.sockets.size + 2 := by
  simp [join]

theorem socket_join_of_lt {net : Network} {other : SocketId} (h : other < net.sockets.size)
    (id : ListenerId) : (net.join id).socket other = net.socket other := by
  have hne : other ≠ net.sockets.size := Nat.ne_of_lt h
  have hne' : other ≠ net.sockets.size + 1 := Nat.ne_of_lt (Nat.lt_succ_of_lt h)
  simp [join, socket, Array.getElem?_push, hne, hne']

theorem socket_join_far (net : Network) (id : ListenerId) :
    (net.join id).socket net.sockets.size = {} := by
  simp only [join, socket]
  rw [Array.getElem?_push, if_neg (by simp), Array.getElem?_push_size]
  rfl

theorem socket_join_near (net : Network) (id : ListenerId) :
    (net.join id).socket (net.sockets.size + 1) = {} := by
  simp [join, socket, Array.getElem_push]

/-- Sockets that were not there before have nothing to read. -/
theorem incoming_join_of_size_le {net : Network} {other : Nat} (h : net.sockets.size ≤ other)
    (id : ListenerId) : ((net.join id).socket other).incoming = .empty := by
  by_cases hin : other < net.sockets.size + 2
  · rcases lt_or_eq_of_lt_add_two hin with hold | rfl | rfl
    · exact absurd h (Nat.not_le_of_lt hold)
    · rw [socket_join_far]
    · rw [socket_join_near]
  · rw [socket_of_size_le (by rw [size_join]; exact Nat.le_of_not_lt hin)]

/-- The connections that wait at a listener. -/
def waitingAt (net : Network) (id : ListenerId) : List SocketId :=
  ((net.listener? id).map Listener.waiting).getD []

/-- A new connection waits at its listener, behind the others. -/
theorem waitingAt_join {net : Network} {id : ListenerId} (h : id < net.listeners.size) :
    waitingAt (net.join id) id = waitingAt net id ++ [net.sockets.size + 1] := by
  simp [waitingAt, listener?, join, Array.getElem_modify, h]

theorem waitingAt_join_of_size_le {net : Network} {id : ListenerId} (h : net.listeners.size ≤ id)
    (other : ListenerId) : waitingAt (net.join id) other = waitingAt net other := by
  have hsame : (net.join id).listeners[other]? = net.listeners[other]? := by
    simp only [join, Array.getElem?_modify]
    split
    · rename_i heq
      rw [← heq, Array.getElem?_eq_none h, Option.map_none]
    · rfl
  simp only [waitingAt, listener?, hsame]

theorem waitingAt_join_of_ne {net : Network} {id other : ListenerId} (h : other ≠ id) :
    waitingAt (net.join id) other = waitingAt net other := by
  simp [waitingAt, listener?, join, Array.getElem?_modify, Ne.symm h]

/-- Accepting takes the connection that has waited longest, and changes nothing else. -/
theorem accept_eq_some {net after : Network} {id : ListenerId} {near : SocketId}
    (h : net.accept id = some (near, after)) :
    waitingAt net id = near :: waitingAt after id ∧
      (∀ other, other ≠ id → waitingAt after other = waitingAt net other) ∧
      after.sockets = net.sockets ∧ after.listeners.size = net.listeners.size := by
  unfold accept at h
  split at h
  · rename_i url chosen waiting rest isOpen hlistener
    cases h
    have hfound : net.listeners[id]? = some ⟨url, chosen, near :: rest, isOpen⟩ := hlistener
    obtain ⟨hinside, -⟩ := Array.getElem?_eq_some_iff.1 hfound
    refine ⟨?_, ?_, rfl, Array.size_modify⟩
    · simp [waitingAt, listener?, Array.getElem?_modify, hfound]
    · intro other hne
      simp [waitingAt, listener?, Array.getElem?_modify, Ne.symm hne]
  · cases h

/-- Nothing is accepted exactly where nothing waits. -/
theorem accept_eq_none_iff (net : Network) (id : ListenerId) :
    net.accept id = none ↔ waitingAt net id = [] := by
  unfold accept waitingAt
  split
  · rename_i hlistener
    simp [hlistener]
  · rename_i hnone
    cases hlistener : net.listener? id with
    | none => simp
    | some listener =>
        obtain ⟨url, chosen, waiting, isOpen⟩ := listener
        cases waiting with
        | nil => simp
        | cons near rest => exact absurd hlistener (hnone url chosen near rest isOpen)

/-! ## Listening -/

/-- Making a path free changes files only. -/
theorem prepare_eq (net : Network) (path : String) :
    ∃ files, (net.prepare path).2 = { net with files } := by
  unfold prepare
  dsimp only
  split
  · exact ⟨net.files, rfl⟩
  · rename_i files _
    split
    · split
      · rename_i removed _
        exact ⟨removed, rfl⟩
      · exact ⟨files, rfl⟩
    · exact ⟨files, rfl⟩

/-- A listener that was made is the last one, is open, and nothing waits at it. -/
theorem bind_eq_ok {net after : Network} {url : Url} {id : ListenerId}
    (h : net.bind url = (.ok id, after)) :
    id = net.listeners.size ∧ after.sockets = net.sockets ∧
      ∃ listener : Listener, listener.waiting = [] ∧ listener.isOpen = true ∧
        after.listeners = net.listeners.push listener := by
  cases url with
  | tcp address =>
      unfold bind bindTcp at h
      dsimp only at h
      repeat' split at h
      all_goals cases h
      all_goals exact ⟨rfl, rfl, _, rfl, rfl, rfl⟩
  | ipc path =>
      obtain ⟨files, hfiles⟩ := prepare_eq net path
      simp only [bind] at h
      split at h
      · cases h
      · rename_i between hprepare
        rw [hprepare] at hfiles
        dsimp only at hfiles
        subst hfiles
        split at h
        · cases h
        · cases h
          exact ⟨rfl, rfl, _, rfl, rfl, rfl⟩

/-! ## What holds of every socket -/

namespace Recedes

variable {id other : SocketId} {before after : Network}

theorem incoming_of_ne (h : Recedes id before after) (hne : other ≠ id) :
    (after.socket other).incoming = (before.socket other).incoming := by
  by_cases hpeer : other = peerOf id
  · rw [hpeer]
    exact h.peerIncoming
  · rw [h.others other hne hpeer]

theorem readHeld_of_ne (h : Recedes id before after) (hne : other ≠ id) :
    (after.socket other).readHeld = (before.socket other).readHeld := by
  by_cases hpeer : other = peerOf id
  · rw [hpeer]
    exact h.peerReadHeld
  · rw [h.others other hne hpeer]

theorem writeHeld_of_ne (h : Recedes id before after) (hne : other ≠ id) :
    (after.socket other).writeHeld = (before.socket other).writeHeld := by
  by_cases hpeer : other = peerOf id
  · rw [hpeer]
    exact h.peerWriteHeld
  · rw [h.others other hne hpeer]

/-- A stream that is over stays over. -/
theorem stays (h : Recedes id before after) (hfinished : (before.socket other).finished = true) :
    (after.socket other).finished = true := by
  by_cases hown : other = id
  · rw [hown, h.finished, ← hown]
    exact hfinished
  · by_cases hpeer : other = peerOf id
    · rw [hpeer] at hfinished ⊢
      exact h.peerStays hfinished
    · rw [h.others other hown hpeer]
      exact hfinished

/-- Nothing arrives. -/
theorem incoming_or (h : Recedes id before after) (other : SocketId) :
    (after.socket other).incoming = (before.socket other).incoming ∨
      (after.socket other).incoming = .empty := by
  by_cases hown : other = id
  · rw [hown]
    exact h.incoming
  · exact .inl (h.incoming_of_ne hown)

end Recedes

/-- Every socket but the other end stays as it is, and that one only has more to read. -/
theorem Delivers.socket_eq {id : SocketId} {piece : ByteArray} {before after : Network}
    (h : Delivers id piece before after) (other : SocketId) :
    after.socket other =
      { before.socket other with incoming := (after.socket other).incoming } := by
  by_cases hpeer : other = peerOf id
  · rw [hpeer, h.peer]
  · rw [h.others other hpeer]

/-- The sockets come in pairs, a stream that is over has no writer any more, and a connection that was reset
is over. -/
structure Honest (net : Network) : Prop where
  paired : net.sockets.size % 2 = 0
  writer : ∀ id, (net.socket id).writeHeld = true → (net.socket (peerOf id)).finished = false
  reset : ∀ id, (net.socket id).broken = true → (net.socket id).finished = true

namespace Honest

variable {before after : Network}

/-- A network without sockets. -/
theorem of_empty (h : before.sockets = #[]) : before.Honest := by
  have hnone : ∀ id : Nat, before.socket id = { readHeld := false, writeHeld := false, finished := true } :=
    fun id => socket_of_size_le (by rw [h]; exact Nat.zero_le id)
  exact {
    paired := by rw [h]; rfl
    writer := fun id => by rw [hnone id]; nofun
    reset := fun id => by rw [hnone id]; nofun }

theorem of_sockets (hhonest : before.Honest) (h : after.sockets = before.sockets) : after.Honest where
  paired := by rw [h]; exact hhonest.paired
  writer := by
    simp only [socket, h]
    exact hhonest.writer
  reset := by
    simp only [socket, h]
    exact hhonest.reset

theorem of_recedes (hhonest : before.Honest) {id : SocketId} (h : Recedes id before after) :
    after.Honest where
  paired := by rw [h.size]; exact hhonest.paired
  writer := by
    intro other hheld
    -- only who holds a half for writing can end the stream at the other end
    by_cases hown : other = id
    · subst hown
      have hbefore := hhonest.writer other (h.writeHeld hheld)
      refine Bool.eq_false_iff.2 fun hfinished => ?_
      rcases h.peerFinished hfinished with hover | hdropped
      · rw [hbefore] at hover
        cases hover
      · rw [hheld] at hdropped
        cases hdropped
    · rw [h.writeHeld_of_ne hown] at hheld
      have hbefore := hhonest.writer other hheld
      by_cases hpeer : peerOf other = id
      · rw [hpeer] at hbefore ⊢
        rw [h.finished]
        exact hbefore
      · have hne : peerOf other ≠ peerOf id := by
          intro heq
          apply hown
          rw [← peerOf_peerOf other, heq, peerOf_peerOf]
        rw [h.others _ hpeer hne]
        exact hbefore
  reset := by
    intro other hbroken
    by_cases hown : other = id
    · subst hown
      rw [h.finished]
      exact hhonest.reset other (h.broken hbroken)
    · by_cases hpeer : other = peerOf id
      · subst hpeer
        rcases h.peerBroken hbroken with hbefore | hover
        · exact h.peerStays (hhonest.reset _ hbefore)
        · exact hover
      · rw [h.others other hown hpeer] at hbroken ⊢
        exact hhonest.reset other hbroken

theorem of_delivers (hhonest : before.Honest) {id : SocketId} {piece : ByteArray}
    (h : Delivers id piece before after) : after.Honest where
  paired := by rw [h.size]; exact hhonest.paired
  writer := by
    intro other hheld
    rw [h.socket_eq] at hheld ⊢
    exact hhonest.writer other hheld
  reset := by
    intro other hbroken
    rw [h.socket_eq] at hbroken ⊢
    exact hhonest.reset other hbroken

theorem of_join (hhonest : before.Honest) (id : ListenerId) : (before.join id).Honest where
  paired := by
    have hpaired := hhonest.paired
    rw [size_join]
    omega
  writer := by
    intro other hheld
    have hin := lt_size_of_writeHeld hheld
    rw [size_join] at hin
    rcases lt_or_eq_of_lt_add_two hin with hold | rfl | rfl
    · rw [socket_join_of_lt hold] at hheld
      rw [socket_join_of_lt (peerOf_lt hhonest.paired hold)]
      exact hhonest.writer other hheld
    · rw [peerOf_of_even hhonest.paired, socket_join_near]
    · rw [← peerOf_of_even hhonest.paired, peerOf_peerOf, socket_join_far]
  reset := by
    intro other hbroken
    by_cases hin : other < before.sockets.size + 2
    · rcases lt_or_eq_of_lt_add_two hin with hold | rfl | rfl
      · rw [socket_join_of_lt hold] at hbroken ⊢
        exact hhonest.reset other hbroken
      · rw [socket_join_far] at hbroken
        cases hbroken
      · rw [socket_join_near] at hbroken
        cases hbroken
    · rw [socket_of_size_le (by rw [size_join]; exact Nat.le_of_not_lt hin)]

end Honest

end Network

end DeviceBus
