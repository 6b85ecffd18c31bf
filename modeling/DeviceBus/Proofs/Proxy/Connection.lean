import DeviceBus.Proofs.Proxy.Exchange
import DeviceBus.Proofs.Transport.Stream
import Mathlib.Data.List.Forall2

/-!
# The book of a connection

What goes in and out of a proxy is accounted for connection by connection, at any moment.

* `FrontBook`: what has arrived at a connection of the front is the frames that its pump has broadcast and
  what the pump has not read yet.
* `BackBook`: what a pump at the back was handed is a growing choice of the log behind its start; taken,
  skipped and unread bodies add up to those broadcast since; and what has arrived at the subscriber is what
  was handed, but for the rest of the frame that is being written.
* `Attended`: a pump at the back goes on as long as its subscriber is there.
* `Proxy.acceptPublisher_eq_some`, `Proxy.acceptSubscriber_eq_some`: what accepting a connection comes to.
* `FrontBook.of_pumpPublisher`, `BackBook.kept_of_pumpSubscriber`: a step of a pump keeps its book.
* `FrontBook.of_moves`, `BackBook.of_moves`, `Attended.of_moves`, `Waiting.of_moves`: so does whatever
  happens at another socket.
-/

namespace DeviceBus

open Network (peerOf peerOf_injective)

/-! ## Receiving a broadcast -/

/-- Everything that a receiver can get. -/
inductive Received (fanout : Fanout) (cursor : Fanout.Cursor) :
    Fanout.Receipt × Fanout.Cursor → Prop where
  /-- too many bodies are unread: it goes on with the oldest of the most recent ones -/
  | lagged {missed : Nat} (lag : Fanout.capacity < fanout.unread cursor)
      (oldest : cursor.next + missed = fanout.log.size - Fanout.capacity) :
      Received fanout cursor (.lagged missed,
        { cursor with next := cursor.next + missed, skipped := cursor.skipped + missed })
  | body {body : ByteArray} (found : fanout.log[cursor.next]? = some body) :
      Received fanout cursor
        (.body body, { cursor with next := cursor.next + 1, taken := cursor.taken + 1 })
  | nothing (read : fanout.log.size ≤ cursor.next) : Received fanout cursor (.nothing, cursor)

theorem received_receive (fanout : Fanout) (cursor : Fanout.Cursor) :
    Received fanout cursor (fanout.receive cursor) := by
  unfold Fanout.receive
  split
  · rename_i hlag
    refine .lagged hlag ?_
    simp only [Fanout.unread] at *
    omega
  · split
    · rename_i body hfound
      exact .body hfound
    · rename_i hnone
      exact .nothing (Array.getElem?_eq_none_iff.1 hnone)

/-! ## The books of one connection -/

/-- The book of a connection at the front: `arrived` are the bytes that have arrived at its near end, and
`sent` the bodies that its pump has broadcast. -/
structure FrontBook (net : Network) (isCancelled : Bool) (arrived : List UInt8)
    (sent : List ByteArray) (pump : FrontPump) : Prop where
  running : pump.isRunning = true → pump.stream.Reads net arrived sent
  ended : pump.isRunning = false →
    (net.socket pump.stream.socket).isClosed = true ∧ sent <+: Frame.complete arrived ∧
      (pump.stream.isOver = true ∧ sent = Frame.complete arrived ∨
        pump.stream.isOver = false ∧ isCancelled = true)

/-- What has arrived at a subscriber: all frames that its pump was handed, but for the rest of the one that
is being written. -/
inductive Wired (arrived : List UInt8) (handed : List ByteArray) : Option (ByteArray × Nat) → Prop where
  | whole (h : arrived = handed.flatMap bytesOf) : Wired arrived handed none
  | writing {before : List ByteArray} {frame : ByteArray} {written : Nat}
      (last : handed = before ++ [frame]) (inside : written < frame.size)
      (h : arrived = before.flatMap bytesOf ++ (bytesOf frame).take written) :
      Wired arrived handed (some (frame, written))

/-- The book of a connection at the back: `started` is the size of the log when it was accepted, `handed`
the frames that its pump was handed, and `arrived` the bytes that have arrived at its far end. -/
structure BackBook (net : Network) (log : Array ByteArray) (started : Nat) (handed : List ByteArray)
    (arrived : List UInt8) (pump : BackPump) : Prop where
  bound : pump.cursor.next ≤ log.size
  count : started + pump.cursor.taken + pump.cursor.skipped = pump.cursor.next
  handedAt : ∃ positions : List Nat,
    positions.Sublist (List.range' started (pump.cursor.next - started)) ∧
    positions.length = pump.cursor.taken ∧
    List.Forall₂ (fun position frame =>
      ∃ body, log[position]? = some body ∧ Frame.encode body = .ok frame) positions handed
  wired : pump.isRunning = true → Wired arrived handed pump.sending
  held : pump.isRunning = true → (net.socket pump.stream.socket).readHeld = true ∧
    (net.socket pump.stream.socket).writeHeld = true

/-- The book of what a connection at the back sends to the proxy: `arrived` are the bytes that have arrived
at its near end.  Unless the subscriber writes something, which the proxy has no use for, its pump ends
only when it is cancelled or the subscriber has let go of its half for writing. -/
structure Attended (net : Network) (isCancelled : Bool) (arrived : List UInt8) (pump : BackPump) :
    Prop where
  running : pump.isRunning = true → ∃ bodies, pump.stream.Reads net arrived bodies
  ended : pump.isRunning = false → isCancelled = true ∨ arrived ≠ [] ∨
    (net.socket (peerOf pump.stream.socket)).writeHeld = false

/-- A connection that was not accepted yet: nothing of it was read, and nothing was written to it. -/
structure Waiting (net : Network) (arrived : SocketId → List UInt8) (near : SocketId) : Prop where
  unread : arrived near = bytesOf (net.socket near).incoming
  silent : arrived (peerOf near) = []
  readHeld : (net.socket near).readHeld = true
  writeHeld : (net.socket near).writeHeld = true

/-! ## What keeps them -/

/-- What the holder of a socket does: it uses it without writing, or it adds a piece of bytes at the other
end, which is not closed. -/
inductive Moves (id : SocketId) (net : Network) : ByteArray → Network → Prop where
  | recedes {net' : Network} (h : net.Recedes id net') : Moves id net .empty net'
  | delivers {piece : ByteArray} {net' : Network} (h : net.Delivers id piece net')
      (isOpen : (net.socket (peerOf id)).isClosed = false)
      (held : (net.socket id).writeHeld = true) : Moves id net piece net'

/-- Nothing arrives where a socket stays as it is. -/
theorem arrivedBetween_of_socket_eq {net net' : Network} {other : SocketId}
    (h : net'.socket other = net.socket other) : Exchange.arrivedBetween net net' other = [] := by
  rw [Exchange.arrivedBetween, h, ← length_bytesOf, List.drop_length]

/-- Nothing arrives where nothing is to be read afterwards. -/
theorem arrivedBetween_of_empty {net net' : Network} {other : SocketId}
    (h : (net'.socket other).incoming = .empty) : Exchange.arrivedBetween net net' other = [] := by
  rw [Exchange.arrivedBetween, h, bytesOf_empty, List.drop_nil]

/-- Nothing arrives where nobody writes. -/
theorem arrivedBetween_of_recedes {net net' : Network} {id : SocketId} (h : net.Recedes id net')
    (other : SocketId) : Exchange.arrivedBetween net net' other = [] := by
  rcases h.incoming_or other with hsame | hempty
  · rw [Exchange.arrivedBetween, hsame, ← length_bytesOf, List.drop_length]
  · exact arrivedBetween_of_empty hempty

namespace Moves

variable {net net' : Network} {id other : SocketId} {piece : ByteArray}

theorem size (h : Moves id net piece net') : net'.sockets.size = net.sockets.size := by
  cases h with
  | recedes h => exact h.size
  | delivers h => exact h.size

theorem listeners (h : Moves id net piece net') : net'.listeners = net.listeners := by
  cases h with
  | recedes h => exact h.listeners
  | delivers h => exact h.listeners

theorem honest (h : Moves id net piece net') (hhonest : net.Honest) : net'.Honest := by
  cases h with
  | recedes h => exact hhonest.of_recedes h
  | delivers h => exact hhonest.of_delivers h

theorem arrivedBetween_of_ne (h : Moves id net piece net') (hne : other ≠ peerOf id) :
    Exchange.arrivedBetween net net' other = [] := by
  cases h with
  | recedes h => exact arrivedBetween_of_recedes h other
  | delivers h => exact arrivedBetween_of_socket_eq (h.others other hne)

/-- Nothing arrives at a socket that was not made yet. -/
theorem arrivedBetween_of_size_le (h : Moves id net piece net') (hsize : net.sockets.size ≤ other) :
    Exchange.arrivedBetween net net' other = [] := by
  have hbefore := Network.socket_of_size_le hsize
  rw [← h.size] at hsize
  rw [Exchange.arrivedBetween, hbefore, Network.socket_of_size_le hsize]
  rfl

/-- A half for writing that was let go stays so. -/
theorem writeHeld (h : Moves id net piece net') (hheld : (net'.socket other).writeHeld = true) :
    (net.socket other).writeHeld = true := by
  cases h with
  | recedes h =>
      by_cases hown : other = id
      · rw [hown] at hheld ⊢
        exact h.writeHeld hheld
      · rw [h.writeHeld_of_ne hown] at hheld
        exact hheld
  | delivers h =>
      rw [h.socket_eq] at hheld
      exact hheld

/-- Nobody lets go of a half for writing but who holds it. -/
theorem writeHeld_of_ne (h : Moves id net piece net') (hne : other ≠ id) :
    (net'.socket other).writeHeld = (net.socket other).writeHeld := by
  cases h with
  | recedes h => exact h.writeHeld_of_ne hne
  | delivers h => rw [h.socket_eq]

/-- Nothing arrives at a socket that is closed, and it stays closed. -/
theorem isClosed_of_ne (h : Moves id net piece net') (hne : other ≠ id)
    (hclosed : (net.socket other).isClosed = true) :
    (net'.socket other).isClosed = true ∧ Exchange.arrivedBetween net net' other = [] := by
  cases h with
  | recedes h =>
      rw [Socket.isClosed, h.readHeld_of_ne hne, h.writeHeld_of_ne hne]
      exact ⟨hclosed, arrivedBetween_of_recedes h other⟩
  | delivers h isOpen =>
      -- who writes has found the other end open
      by_cases hpeer : other = peerOf id
      · rw [← hpeer, hclosed] at isOpen
        cases isOpen
      · rw [h.others other hpeer]
        exact ⟨hclosed, arrivedBetween_of_socket_eq (h.others other hpeer)⟩

theorem arrivedBetween_peer (h : Moves id net piece net') :
    Exchange.arrivedBetween net net' (peerOf id) = bytesOf piece := by
  cases h with
  | recedes h =>
      rw [Exchange.arrivedBetween, h.peerIncoming, ← length_bytesOf, List.drop_length, bytesOf_empty]
  | delivers h => rw [Exchange.arrivedBetween, h.peer, bytesOf_append, ← length_bytesOf, List.drop_left]

end Moves

/-- Whatever happens at another socket keeps the book of a stream. -/
theorem Stream.Reads.of_moves {net net' : Network} {arrived : List UInt8} {bodies : List ByteArray}
    {stream : Stream} (h : stream.Reads net arrived bodies) (hhonest : net.Honest) {id : SocketId}
    {piece : ByteArray} (hmoves : Moves id net piece net') (hne : stream.socket ≠ id) :
    stream.Reads net' (arrived ++ Exchange.arrivedBetween net net' stream.socket) bodies := by
  cases hmoves with
  | recedes hrecedes =>
      rw [arrivedBetween_of_recedes hrecedes, List.append_nil]
      exact h.of_same (hrecedes.incoming_of_ne hne) hrecedes.stays
  | delivers hdelivers isOpen held =>
      by_cases hpeer : stream.socket = peerOf id
      · have hincoming : (net'.socket stream.socket).incoming =
            (net.socket stream.socket).incoming ++ piece := by
          rw [hpeer, hdelivers.peer]
        rw [hpeer, (Moves.delivers hdelivers isOpen held).arrivedBetween_peer]
        exact h.of_append hincoming (by rw [hpeer]; exact hhonest.writer id held)
      · have hsame := hdelivers.others _ hpeer
        rw [arrivedBetween_of_socket_eq hsame, List.append_nil]
        exact h.of_same (by rw [hsame]) (by rw [hsame]; exact fun h => h)

namespace FrontBook

variable {net net' : Network} {isCancelled : Bool} {arrived : List UInt8} {sent : List ByteArray}
  {pump : FrontPump} {id : SocketId}

theorem sent_begins (h : FrontBook net isCancelled arrived sent pump)
    (hfits : ∀ body ∈ sent, body.size ≤ Frame.maxLength) : sent <+: Frame.complete arrived := by
  cases hrunning : pump.isRunning with
  | true =>
      rw [(h.running hrunning).complete_eq hfits]
      exact List.prefix_append _ _
  | false => exact (h.ended hrunning).2.1

/-- The book depends on no more of the network than what its near end has to offer. -/
theorem of_same (h : FrontBook net isCancelled arrived sent pump)
    (hincoming : (net'.socket pump.stream.socket).incoming = (net.socket pump.stream.socket).incoming)
    (hstays : (net.socket pump.stream.socket).finished = true →
      (net'.socket pump.stream.socket).finished = true)
    (hclosed : (net.socket pump.stream.socket).isClosed = true →
      (net'.socket pump.stream.socket).isClosed = true) :
    FrontBook net' isCancelled arrived sent pump where
  running hrunning := (h.running hrunning).of_same hincoming hstays
  ended hended := by
    obtain ⟨hwasClosed, hrest⟩ := h.ended hended
    exact ⟨hclosed hwasClosed, hrest⟩

/-- What happens to other sockets does not touch the book. -/
theorem of_socket_eq (h : FrontBook net isCancelled arrived sent pump)
    (hsame : net'.socket pump.stream.socket = net.socket pump.stream.socket) :
    FrontBook net' isCancelled arrived sent pump :=
  h.of_same (by rw [hsame]) (by rw [hsame]; exact fun h => h) (by rw [hsame]; exact fun h => h)

theorem of_cancel (h : FrontBook net isCancelled arrived sent pump) :
    FrontBook net true arrived sent pump where
  running := h.running
  ended hended := by
    obtain ⟨hclosed, hbegins, hover⟩ := h.ended hended
    exact ⟨hclosed, hbegins, hover.imp_right fun hcancelled => ⟨hcancelled.1, rfl⟩⟩

/-- Whatever happens at another socket keeps the book. -/
theorem of_moves (h : FrontBook net isCancelled arrived sent pump) (hhonest : net.Honest)
    {piece : ByteArray} (hmoves : Moves id net piece net') (hne : pump.stream.socket ≠ id) :
    FrontBook net' isCancelled (arrived ++ Exchange.arrivedBetween net net' pump.stream.socket)
      sent pump where
  running hrunning := (h.running hrunning).of_moves hhonest hmoves hne
  ended hended := by
    obtain ⟨hclosed, hrest⟩ := h.ended hended
    obtain ⟨hstill, hnothing⟩ := hmoves.isClosed_of_ne hne hclosed
    rw [hnothing, List.append_nil]
    exact ⟨hstill, hrest⟩

/-- A pump that is cancelled ends. -/
theorem of_end (h : FrontBook net isCancelled arrived sent pump) (hrunning : pump.isRunning = true)
    (hfits : ∀ body ∈ sent, body.size ≤ Frame.maxLength) :
    FrontBook (net.close pump.stream.socket) true arrived sent { pump with isRunning := false } where
  running := nofun
  ended _ := ⟨Network.isClosed_close _ _, h.sent_begins hfits,
    .inr ⟨(h.running hrunning).live.going, rfl⟩⟩

/-- Bytes were moved from the socket to the decoder. -/
theorem of_hungry (h : FrontBook net isCancelled arrived sent pump) (hrunning : pump.isRunning = true)
    {stream : Stream} (hlive : stream.Live net') (hsame : stream.unread net' = pump.stream.unread net) :
    FrontBook net' isCancelled arrived sent { pump with stream } where
  running _ := (h.running hrunning).of_hungry hlive hsame
  ended hended := by
    rw [hrunning] at hended
    cases hended

/-- A frame was read and broadcast. -/
theorem of_frame (h : FrontBook net isCancelled arrived sent pump) (hrunning : pump.isRunning = true)
    {stream : Stream} (hlive : stream.Live net) {body : ByteArray}
    (hsplit : pump.stream.unread net = Frame.bytes body ++ stream.unread net) :
    FrontBook net isCancelled arrived (sent ++ [body]) { pump with stream } where
  running _ := (h.running hrunning).of_frame hlive hsplit
  ended hended := by
    rw [hrunning] at hended
    cases hended

/-- The stream is over: all its frames were broadcast. -/
theorem of_over (h : FrontBook net isCancelled arrived sent pump) (hrunning : pump.isRunning = true)
    (hfits : ∀ body ∈ sent, body.size ≤ Frame.maxLength) {stream : Stream} (hover : stream.isOver = true)
    (hnone : Frame.complete (pump.stream.unread net) = []) :
    FrontBook (net'.close stream.socket) isCancelled arrived sent
      { pump with stream, isRunning := false } where
  running := nofun
  ended _ := by
    have hall : sent = Frame.complete arrived := by
      rw [(h.running hrunning).complete_eq hfits, hnone, List.append_nil]
    exact ⟨Network.isClosed_close _ _, hall ▸ List.prefix_refl _, .inl ⟨hover, hall⟩⟩

end FrontBook

namespace BackBook

variable {net net' : Network} {log : Array ByteArray} {started : Nat} {handed : List ByteArray}
  {arrived : List UInt8} {pump : BackPump}

/-- The book of a connection that was just accepted. -/
theorem of_accept {near : SocketId} {fanout : Fanout} (hread : (net.socket near).readHeld = true)
    (hwrite : (net.socket near).writeHeld = true) (harrived : arrived = []) :
    BackBook net fanout.log fanout.log.size [] arrived
      { stream := { socket := near }, cursor := fanout.subscribe } where
  bound := Nat.le_refl _
  count := rfl
  handedAt := ⟨[], List.nil_sublist _, rfl, .nil⟩
  wired _ := .whole harrived
  held _ := ⟨hread, hwrite⟩

/-- The book depends on no more of the network than that its near end is held. -/
theorem of_held (h : BackBook net log started handed arrived pump)
    (hread : (net'.socket pump.stream.socket).readHeld = (net.socket pump.stream.socket).readHeld)
    (hwrite : (net'.socket pump.stream.socket).writeHeld = (net.socket pump.stream.socket).writeHeld) :
    BackBook net' log started handed arrived pump where
  bound := h.bound
  count := h.count
  handedAt := h.handedAt
  wired := h.wired
  held hrunning := by
    rw [hread, hwrite]
    exact h.held hrunning

/-- Who uses another socket without writing does not touch the book. -/
theorem of_recedes (h : BackBook net log started handed arrived pump) {id : SocketId}
    (hrecedes : net.Recedes id net') (hne : pump.stream.socket ≠ id) :
    BackBook net' log started handed arrived pump :=
  h.of_held (hrecedes.readHeld_of_ne hne) (hrecedes.writeHeld_of_ne hne)

/-- Nothing that is written anywhere lets go of the near end. -/
theorem of_delivers (h : BackBook net log started handed arrived pump) {id : SocketId}
    {piece : ByteArray} (hdelivers : net.Delivers id piece net') :
    BackBook net' log started handed arrived pump :=
  h.of_held (by rw [hdelivers.socket_eq]) (by rw [hdelivers.socket_eq])

/-- Whatever happens at another socket keeps the book: only the near end of a connection sends anything to
its far end. -/
theorem of_moves (h : BackBook net log started handed arrived pump) {id : SocketId} {piece : ByteArray}
    (hmoves : Moves id net piece net') (hne : pump.stream.socket ≠ id) :
    BackBook net' log started handed
      (arrived ++ Exchange.arrivedBetween net net' (peerOf pump.stream.socket)) pump := by
  have hpeer : peerOf pump.stream.socket ≠ peerOf id := fun heq => hne (peerOf_injective heq)
  rw [hmoves.arrivedBetween_of_ne hpeer, List.append_nil]
  cases hmoves with
  | recedes hrecedes => exact h.of_recedes hrecedes hne
  | delivers hdelivers => exact h.of_delivers hdelivers

/-- Bodies that are broadcast are unread by everybody. -/
theorem of_broadcast (h : BackBook net log started handed arrived pump) (bodies : Array ByteArray) :
    BackBook net (log ++ bodies) started handed arrived pump where
  bound := by
    rw [Array.size_append]
    exact Nat.le_add_right_of_le h.bound
  count := h.count
  handedAt := by
    obtain ⟨positions, hsublist, hlength, hframes⟩ := h.handedAt
    refine ⟨positions, hsublist, hlength, hframes.imp ?_⟩
    rintro position frame ⟨body, hbody, hframe⟩
    obtain ⟨hinside, -⟩ := Array.getElem?_eq_some_iff.1 hbody
    refine ⟨body, ?_, hframe⟩
    rw [Array.getElem?_append_left hinside]
    exact hbody
  wired := h.wired
  held := h.held

/-- A pump ends. -/
theorem of_end (h : BackBook net log started handed arrived pump) (stream : Stream) :
    BackBook net' log started handed arrived
      { pump with stream, sending := none, isRunning := false } where
  bound := h.bound
  count := h.count
  handedAt := h.handedAt
  wired := nofun
  held := nofun

/-- A pump reads from its connection. -/
theorem of_stream (h : BackBook net log started handed arrived pump) {stream : Stream}
    (hsocket : stream.socket = pump.stream.socket)
    (hread : (net'.socket pump.stream.socket).readHeld = (net.socket pump.stream.socket).readHeld)
    (hwrite : (net'.socket pump.stream.socket).writeHeld = (net.socket pump.stream.socket).writeHeld) :
    BackBook net' log started handed arrived { pump with stream } where
  bound := h.bound
  count := h.count
  handedAt := h.handedAt
  wired := h.wired
  held hrunning := by
    show (net'.socket stream.socket).readHeld = true ∧ (net'.socket stream.socket).writeHeld = true
    rw [hsocket, hread, hwrite]
    exact h.held hrunning

/-- A pump that has fallen behind skips bodies. -/
theorem of_lagged (h : BackBook net log started handed arrived pump) {missed : Nat}
    (hmissed : pump.cursor.next + missed ≤ log.size) :
    BackBook net log started handed arrived
      { pump with cursor :=
        { pump.cursor with
          next := pump.cursor.next + missed
          skipped := pump.cursor.skipped + missed } } where
  bound := hmissed
  count := by
    have hcount := h.count
    dsimp only
    omega
  handedAt := by
    obtain ⟨positions, hsublist, hlength, hframes⟩ := h.handedAt
    refine ⟨positions, hsublist.trans ?_, hlength, hframes⟩
    -- what is skipped only makes the range longer
    exact List.range'_sublist_right.2 (by dsimp only; omega)
  wired := h.wired
  held := h.held

/-- A pump takes the next body and is handed its frame. -/
theorem of_body (h : BackBook net log started handed arrived pump) (hidle : pump.sending = none)
    {body frame : ByteArray} (hbody : log[pump.cursor.next]? = some body)
    (hframe : Frame.encode body = .ok frame) :
    BackBook net log started (handed ++ [frame]) arrived
      { pump with
        cursor := { pump.cursor with next := pump.cursor.next + 1, taken := pump.cursor.taken + 1 }
        sending := some (frame, 0) } where
  bound := by
    obtain ⟨hinside, -⟩ := Array.getElem?_eq_some_iff.1 hbody
    exact hinside
  count := by
    have hcount := h.count
    dsimp only
    omega
  handedAt := by
    obtain ⟨positions, hsublist, hlength, hframes⟩ := h.handedAt
    have hcount := h.count
    refine ⟨positions ++ [pump.cursor.next], ?_, by simp [hlength], ?_⟩
    -- the place of the pump comes behind all that it has taken
    · have hrange : List.range' started (pump.cursor.next + 1 - started) =
          List.range' started (pump.cursor.next - started) ++ [pump.cursor.next] := by
        rw [show pump.cursor.next + 1 - started = pump.cursor.next - started + 1 by omega,
          List.range'_concat, Nat.one_mul, show started + (pump.cursor.next - started) =
            pump.cursor.next by omega]
      dsimp only
      rw [hrange]
      exact hsublist.append (List.Sublist.refl _)
    · exact List.rel_append hframes (.cons ⟨body, hbody, hframe⟩ .nil)
  wired hrunning := by
    have hwired := h.wired hrunning
    rw [hidle] at hwired
    cases hwired with
    | whole harrived =>
        refine .writing rfl (Frame.size_pos_of_encode hframe) ?_
        rw [List.take_zero, List.append_nil]
        exact harrived
  held := h.held

/-- A pump writes a piece of the frame that it was handed. -/
theorem of_write (h : BackBook net log started handed arrived pump) (hrunning : pump.isRunning = true)
    {frame : ByteArray} {written count : Nat} (hsending : pump.sending = some (frame, written))
    (hcount : count ≤ frame.size - written)
    (hdelivers : net.Delivers pump.stream.socket (frame.extract written (written + count)) net') :
    BackBook net' log started handed (arrived ++ bytesOf (frame.extract written (written + count)))
      { pump with
        sending := if written + count = frame.size then none else some (frame, written + count) } := by
  have hwired := h.wired hrunning
  rw [hsending] at hwired
  cases hwired with
  | @writing before _ _ last inside harrived =>
      -- the piece goes on where the frame was cut
      have hpiece : arrived ++ bytesOf (frame.extract written (written + count)) =
          before.flatMap bytesOf ++ (bytesOf frame).take (written + count) := by
        rw [harrived, bytesOf_extract, List.append_assoc, List.take_add, Nat.add_sub_cancel_left]
      have hkept := h.of_delivers hdelivers
      refine { hkept with wired := fun _ => ?_ }
      dsimp only
      split
      · rename_i hdone
        refine .whole ?_
        rw [hpiece, hdone, last, List.flatMap_append, List.flatMap_singleton, ← length_bytesOf,
          List.take_length]
      · rename_i hmore
        exact .writing last (by omega) hpiece

end BackBook

namespace Attended

variable {net net' : Network} {isCancelled : Bool} {arrived : List UInt8} {pump : BackPump}

/-- The book depends on no more of the network than what the near end has to offer and whether the
subscriber may still write. -/
theorem of_same (h : Attended net isCancelled arrived pump)
    (hincoming : (net'.socket pump.stream.socket).incoming = (net.socket pump.stream.socket).incoming)
    (hstays : (net.socket pump.stream.socket).finished = true →
      (net'.socket pump.stream.socket).finished = true)
    (hheld : (net'.socket (peerOf pump.stream.socket)).writeHeld =
      (net.socket (peerOf pump.stream.socket)).writeHeld) : Attended net' isCancelled arrived pump where
  running hrunning := by
    obtain ⟨bodies, hreads⟩ := h.running hrunning
    exact ⟨bodies, hreads.of_same hincoming hstays⟩
  ended hended := by
    rw [hheld]
    exact h.ended hended

theorem of_cancel (h : Attended net isCancelled arrived pump) : Attended net true arrived pump where
  running := h.running
  ended _ := .inl rfl

/-- Whatever happens at another socket keeps the book. -/
theorem of_moves (h : Attended net isCancelled arrived pump) (hhonest : net.Honest) {id : SocketId}
    {piece : ByteArray} (hmoves : Moves id net piece net') (hne : pump.stream.socket ≠ id) :
    Attended net' isCancelled (arrived ++ Exchange.arrivedBetween net net' pump.stream.socket) pump where
  running hrunning := by
    obtain ⟨bodies, hreads⟩ := h.running hrunning
    exact ⟨bodies, hreads.of_moves hhonest hmoves hne⟩
  ended hended := by
    rcases h.ended hended with hcancelled | hspoken | hgone
    · exact .inl hcancelled
    · exact .inr (.inl fun hnone => hspoken (List.append_eq_nil_iff.1 hnone).1)
    · refine .inr (.inr (Bool.eq_false_iff.2 fun hheld => ?_))
      rw [hmoves.writeHeld hheld] at hgone
      cases hgone

/-- Why the stream of a subscriber is over. -/
theorem reason_of_over {stream : Stream} {bodies : List ByteArray} (h : stream.Reads net arrived bodies)
    (hhonest : net.Honest)
    (hcause : Frame.Malformed (stream.unread net) ∨ (net.socket stream.socket).broken = true ∨
      (net.socket stream.socket).finished = true) :
    arrived ≠ [] ∨ (net.socket (peerOf stream.socket)).writeHeld = false := by
  rcases hcause with hmalformed | hover
  · refine .inl fun hnone => ?_
    have hunread := h.account
    rw [hnone] at hunread
    rw [(List.append_eq_nil_iff.1 hunread.symm).2] at hmalformed
    -- where nothing has arrived there is no length that could be too large
    exact absurd hmalformed.1 (by decide)
  -- a stream is over or reset only after its writer has gone
  · have hfinished := hover.elim (hhonest.reset _) id
    refine .inr (Bool.eq_false_iff.2 fun hheld => ?_)
    have hgoing := hhonest.writer _ hheld
    rw [Network.peerOf_peerOf, hfinished] at hgoing
    cases hgoing

/-- A pump that ends for a reason. -/
theorem of_end {stream : Stream}
    (hreason : isCancelled = true ∨ arrived ≠ [] ∨ (net.socket (peerOf stream.socket)).writeHeld = false) :
    Attended (net.close stream.socket) isCancelled arrived
      { pump with stream, sending := none, isRunning := false } where
  running := nofun
  ended _ := by
    refine hreason.imp_right (Or.imp_right fun hgone => ?_)
    show ((net.close stream.socket).socket (peerOf stream.socket)).writeHeld = false
    rw [(Network.recedes_close net stream.socket).writeHeld_of_ne (Network.peerOf_ne _)]
    exact hgone

end Attended

theorem Waiting.of_same {net net' : Network} {arrived : SocketId → List UInt8} {near : SocketId}
    (h : Waiting net arrived near)
    (hincoming : (net'.socket near).incoming = (net.socket near).incoming)
    (hread : (net'.socket near).readHeld = (net.socket near).readHeld)
    (hwrite : (net'.socket near).writeHeld = (net.socket near).writeHeld) :
    Waiting net' arrived near where
  unread := by rw [hincoming]; exact h.unread
  silent := h.silent
  readHeld := by rw [hread]; exact h.readHeld
  writeHeld := by rw [hwrite]; exact h.writeHeld

/-- Whatever happens at another socket leaves a connection waiting. -/
theorem Waiting.of_moves {net net' : Network} {arrived : SocketId → List UInt8} {near id : SocketId}
    {piece : ByteArray} (h : Waiting net arrived near) (hmoves : Moves id net piece net')
    (hne : near ≠ id) :
    Waiting net' (fun other => arrived other ++ Exchange.arrivedBetween net net' other) near where
  unread := by
    by_cases hpeer : near = peerOf id
    · rw [h.unread, hpeer, hmoves.arrivedBetween_peer]
      cases hmoves with
      | recedes hrecedes => rw [hrecedes.peerIncoming, bytesOf_empty, List.append_nil]
      | delivers hdelivers => rw [hdelivers.peer, bytesOf_append]
    · rw [h.unread, hmoves.arrivedBetween_of_ne hpeer, List.append_nil]
      cases hmoves with
      | recedes hrecedes => rw [hrecedes.incoming_of_ne hne]
      | delivers hdelivers => rw [hdelivers.others near hpeer]
  silent := by
    have hpeer : peerOf near ≠ peerOf id := fun heq => hne (peerOf_injective heq)
    rw [h.silent, hmoves.arrivedBetween_of_ne hpeer, List.append_nil]
  readHeld := by
    cases hmoves with
    | recedes hrecedes => rw [hrecedes.readHeld_of_ne hne]; exact h.readHeld
    | delivers hdelivers => rw [hdelivers.socket_eq]; exact h.readHeld
  writeHeld := by
    cases hmoves with
    | recedes hrecedes => rw [hrecedes.writeHeld_of_ne hne]; exact h.writeHeld
    | delivers hdelivers => rw [hdelivers.socket_eq]; exact h.writeHeld

/-! ## Accepting a connection -/

namespace Proxy

variable {proxy proxy' : Proxy} {net net' : Network}

/-- The publisher that is accepted is the first one that waits.  It is attached and gets a pump, and the
proxy lets go of its half for writing to it. -/
theorem acceptPublisher_eq_some (h : proxy.acceptPublisher net = some (proxy', net')) :
    ∃ near between, net.accept proxy.front = some (near, between) ∧
      proxy' = { proxy with
        publishers := proxy.publishers.push { stream := { socket := near } }
        attached := { proxy.attached with publishers := proxy.attached.publishers + 1 } } ∧
      net' = between.dropWriter near := by
  unfold acceptPublisher letInPublisher at h
  split at h
  · cases h
  · obtain ⟨⟨near, between⟩, haccept, heq⟩ := Option.map_eq_some_iff.1 h
    cases heq
    exact ⟨near, between, haccept, rfl, rfl⟩

/-- The subscriber that is accepted is the first one that waits.  It is attached, and its pump starts behind
the log. -/
theorem acceptSubscriber_eq_some (h : proxy.acceptSubscriber net = some (proxy', net')) :
    ∃ near, net.accept proxy.back = some (near, net') ∧
      proxy' = { proxy with
        subscribers := proxy.subscribers.push
          { stream := { socket := near }, cursor := proxy.fanout.subscribe }
        attached := { proxy.attached with subscribers := proxy.attached.subscribers + 1 } } := by
  unfold acceptSubscriber letInSubscriber at h
  split at h
  · cases h
  · obtain ⟨⟨near, after⟩, haccept, heq⟩ := Option.map_eq_some_iff.1 h
    cases heq
    exact ⟨near, haccept, rfl⟩

end Proxy

/-! ## One step of a pump -/

/-- A step of a pump at the front keeps its book: it broadcasts what the book says that it has sent more,
and it uses no other socket. -/
theorem FrontBook.of_pumpPublisher {proxy proxy' : Proxy} {net net' : Network} {index : Nat}
    {arrived : List UInt8} {sent : List ByteArray} {pump : FrontPump}
    (h : FrontBook net proxy.isCancelled arrived sent pump)
    (hpump : proxy.publishers[index]? = some pump)
    (hfits : ∀ body ∈ sent, body.size ≤ Frame.maxLength)
    (hstep : proxy.pumpPublisher net index = some (proxy', net')) :
    ∃ (pump' : FrontPump) (bodies : List ByteArray) (attached : Attached),
      pump'.stream.socket = pump.stream.socket ∧
      proxy' = { proxy with
        publishers := proxy.publishers.setIfInBounds index pump'
        attached
        fanout := ⟨proxy.fanout.log ++ bodies.toArray⟩ } ∧
      net.Recedes pump.stream.socket net' ∧
      (∀ body ∈ bodies, body.size ≤ Frame.maxLength) ∧
      FrontBook net' proxy.isCancelled arrived (sent ++ bodies) pump' := by
  -- a step that reads no frame broadcasts the empty list
  have hquiet : ∀ (pump' : FrontPump) (attached : Attached),
      { proxy.setPublisher index pump' with attached } =
        { proxy with
          publishers := proxy.publishers.setIfInBounds index pump'
          attached
          fanout := ⟨proxy.fanout.log ++ ([] : List ByteArray).toArray⟩ } := by
    intro pump' attached
    simp [Proxy.setPublisher]
  unfold Proxy.pumpPublisher at hstep
  rw [hpump] at hstep
  dsimp only at hstep
  split at hstep
  · cases hstep
  · rename_i hrunning
    have hrunning : pump.isRunning = true := by simpa using hrunning
    split at hstep
    · rename_i hcancelled
      cases hstep
      refine ⟨{ pump with isRunning := false }, [], _, rfl, hquiet _ _, Network.recedes_close _ _, nofun, ?_⟩
      rw [List.append_nil, hcancelled]
      exact h.of_end hrunning hfits
    · have hstepped := Stream.stepped_step (h.running hrunning).live
      generalize pump.stream.step net = result at hstep hstepped
      cases hstepped with
      | idle => cases hstep
      | hungry live socket same recedes =>
          cases hstep
          refine ⟨_, [], proxy.attached, socket, hquiet _ _, recedes, nofun, ?_⟩
          rw [List.append_nil]
          exact h.of_hungry hrunning live same
      | @frame body _ live socket fits split =>
          cases hstep
          refine ⟨_, [body], proxy.attached, socket, ?_, .refl _ _, ?_, h.of_frame hrunning live split⟩
          · simp [Proxy.setPublisher, Fanout.broadcast]
          · intro other hmem
            rw [List.mem_singleton.1 hmem]
            exact fits
      | @ends _ stream after yields isOver socket recedes noFrame _ =>
          -- a clean end and a fault come to the same
          have hend : (proxy', net') = proxy.endPublisher after index { pump with stream } := by
            rcases yields with rfl | ⟨fault, rfl⟩ <;> exact (Option.some.inj hstep).symm
          cases hend
          refine ⟨_, [], _, socket, hquiet _ _, ?_, nofun, ?_⟩
          · refine recedes.trans ?_
            rw [← socket]
            exact Network.recedes_close _ _
          · rw [List.append_nil]
            exact h.of_over hrunning hfits isOver noFrame

/-- A step of a pump at the back that keeps its books: they count the frame that the pump was handed and
the bytes that it has written.  Its cursor stays or receives once, and without a frame to write nothing is
written. -/
structure BackKept (proxy : Proxy) (net : Network) (index started : Nat) (handed : List ByteArray)
    (arrived near : List UInt8) (pump : BackPump) (proxy' : Proxy) (net' : Network) (pump' : BackPump)
    (piece : ByteArray) : Prop where
  socket : pump'.stream.socket = pump.stream.socket
  result : ∃ attached, proxy' = { proxy.setSubscriber index pump' with attached }
  moves : Moves pump.stream.socket net piece net'
  silent : pump.sending = none → piece = .empty
  cursor : pump'.cursor = pump.cursor ∨ pump'.cursor = (proxy.fanout.receive pump.cursor).2
  attended : Attended net' proxy.isCancelled near pump'
  book : BackBook net' proxy.fanout.log started
    (handed ++ Exchange.newFrame pump.sending pump'.sending) (arrived ++ bytesOf piece) pump'

namespace BackBook

variable {proxy proxy' : Proxy} {net net' : Network} {index started : Nat} {handed : List ByteArray}
  {arrived near : List UInt8} {pump : BackPump}

/-- A step that hands over no frame and writes nothing. -/
theorem kept_of_recedes {pump' : BackPump}
    (hresult : ∃ attached, proxy' = { proxy.setSubscriber index pump' with attached })
    (hsocket : pump'.stream.socket = pump.stream.socket)
    (hrecedes : net.Recedes pump.stream.socket net')
    (hnew : Exchange.newFrame pump.sending pump'.sending = [])
    (hcursor : pump'.cursor = pump.cursor ∨ pump'.cursor = (proxy.fanout.receive pump.cursor).2)
    (hattended : Attended net' proxy.isCancelled near pump')
    (h : BackBook net' proxy.fanout.log started handed arrived pump') :
    BackKept proxy net index started handed arrived near pump proxy' net' pump' .empty where
  socket := hsocket
  result := hresult
  moves := .recedes hrecedes
  silent _ := rfl
  cursor := hcursor
  attended := hattended
  book := by
    rw [hnew, bytesOf_empty, List.append_nil, List.append_nil]
    exact h

theorem newFrame_none (sending : Option (ByteArray × Nat)) : Exchange.newFrame sending none = [] := by
  cases sending <;> rfl

/-- A pump that ends closes its connection. -/
theorem kept_of_end (h : BackBook net proxy.fanout.log started handed arrived pump) {stream : Stream}
    {after : Network} (hsocket : stream.socket = pump.stream.socket)
    (hrecedes : net.Recedes pump.stream.socket after)
    (hreason : proxy.isCancelled = true ∨ near ≠ [] ∨
      (after.socket (peerOf stream.socket)).writeHeld = false)
    (hend : proxy.endSubscriber after index { pump with stream } = (proxy', net')) :
    ∃ pump' piece,
      BackKept proxy net index started handed arrived near pump proxy' net' pump' piece := by
  cases hend
  refine ⟨_, _, kept_of_recedes ⟨_, rfl⟩ hsocket (hrecedes.trans ?_) (newFrame_none _) (.inl rfl)
    (Attended.of_end hreason) (h.of_end stream)⟩
  show after.Recedes pump.stream.socket (after.close stream.socket)
  rw [← hsocket]
  exact Network.recedes_close _ _

theorem kept_of_nextForSubscriber
    (h : BackBook net proxy.fanout.log started handed arrived pump)
    (hattended : Attended net proxy.isCancelled near pump) (hhonest : net.Honest)
    (hrunning : pump.isRunning = true) (hidle : pump.sending = none)
    (hfits : ∀ body ∈ proxy.fanout.log.toList, body.size ≤ Frame.maxLength)
    (hstep : proxy.nextForSubscriber net index pump = some (proxy', net')) :
    ∃ pump' piece,
      BackKept proxy net index started handed arrived near pump proxy' net' pump' piece := by
  obtain ⟨bodies, hreads⟩ := hattended.running hrunning
  -- whatever a subscriber sends is read and thrown away
  have hgoes : ∀ {yield : Frame.Yield} {stream : Stream} {after : Network} {read : List ByteArray},
      pump.stream.step net = some (yield, stream, after) → stream.Reads after near read →
      BackKept proxy net index started handed arrived near pump
        (proxy.setSubscriber index { pump with stream }) after { pump with stream } .empty := by
    intro yield stream after read hread hreads
    have hsocket := (Stream.step_network hread).1
    have hheld : (after.socket pump.stream.socket).readHeld =
          (net.socket pump.stream.socket).readHeld ∧
        (after.socket pump.stream.socket).writeHeld =
          (net.socket pump.stream.socket).writeHeld := by
      rcases (Stream.step_network hread).2 with rfl | rfl
      · exact ⟨rfl, rfl⟩
      · exact Network.held_take _ _
    exact kept_of_recedes ⟨_, rfl⟩ hsocket (Stream.recedes_step hread) (by simp [hidle, Exchange.newFrame])
      (.inl rfl) { running := fun _ => ⟨read, hreads⟩, ended := by rw [hrunning]; nofun }
      (h.of_stream hsocket hheld.1 hheld.2)
  unfold Proxy.nextForSubscriber at hstep
  have hstepped := Stream.stepped_step hreads.live
  generalize hread : pump.stream.step net = result at hstep hstepped
  cases hstepped with
  | hungry live socket same recedes =>
      cases hstep
      exact ⟨_, _, hgoes hread (hreads.of_hungry live same)⟩
  | frame live socket fits split =>
      cases hstep
      exact ⟨_, _, hgoes hread (hreads.of_frame live split)⟩
  | @ends yield stream after yields isOver socket recedes noFrame cause =>
      have hend : proxy.endSubscriber after index { pump with stream } = (proxy', net') := by
        rcases yields with rfl | ⟨fault, rfl⟩ <;> exact Option.some.inj hstep
      refine h.kept_of_end socket recedes (.inr ?_) hend
      -- the stream is over because the subscriber has written something or has left
      rw [socket, recedes.peerWriteHeld]
      exact Attended.reason_of_over hreads hhonest cause
  | idle =>
      dsimp only at hstep
      have hreceived := received_receive proxy.fanout pump.cursor
      generalize hresult : proxy.fanout.receive pump.cursor = result at hstep hreceived
      cases hreceived with
      | nothing => cases hstep
      | lagged lag oldest =>
          cases hstep
          have hlagged := h.of_lagged (Nat.le_trans (Nat.le_of_eq oldest) (Nat.sub_le _ _))
          exact ⟨_, _, kept_of_recedes ⟨_, rfl⟩ rfl (.refl _ _) (by rw [hidle]; rfl) (.inr (by rw [hresult]))
            { hattended with } hlagged⟩
      | @body body found =>
          have hmem : body ∈ proxy.fanout.log.toList :=
            Array.mem_toList_iff.2 (Array.mem_of_getElem? found)
          cases hframe : Frame.encode body with
          | error fault =>
              -- what was broadcast came in a frame, so it fits into one
              have hsize := hfits body hmem
              simp only [Frame.encode] at hframe
              split at hframe
              · omega
              · cases hframe
          | ok frame =>
              dsimp only at hstep
              rw [hframe] at hstep
              cases hstep
              have htaken := h.of_body hidle found hframe
              exact ⟨{ pump with
                cursor :=
                  { pump.cursor with next := pump.cursor.next + 1, taken := pump.cursor.taken + 1 }
                sending := some (frame, 0) }, .empty, {
                socket := rfl
                result := ⟨_, rfl⟩
                moves := .recedes (.refl _ _)
                silent := fun _ => rfl
                cursor := .inr (by rw [hresult])
                attended := { hattended with }
                book := by
                  rw [hidle, bytesOf_empty, List.append_nil]
                  exact htaken }⟩

theorem kept_of_writeToSubscriber
    (h : BackBook net proxy.fanout.log started handed arrived pump)
    (hattended : Attended net proxy.isCancelled near pump) (hrunning : pump.isRunning = true)
    {frame : ByteArray} {written : Nat}
    (hsending : pump.sending = some (frame, written))
    (hstep : proxy.writeToSubscriber net index pump frame written = some (proxy', net')) :
    ∃ pump' piece,
      BackKept proxy net index started handed arrived near pump proxy' net' pump' piece := by
  unfold Proxy.writeToSubscriber at hstep
  cases hwrite : net.write pump.stream.socket frame written with
  | error fault =>
      rw [hwrite] at hstep
      exact h.kept_of_end rfl (.refl _ _) (.inr (.inr (Network.writeHeld_of_write_error hwrite)))
        (Option.some.inj hstep)
  | ok found =>
      obtain ⟨count, after⟩ := found
      obtain ⟨hopen, hcount, hdelivers⟩ := Network.delivers_write hwrite
      have hmoves := Moves.delivers hdelivers hopen (h.held hrunning).2
      have hbook := h.of_write hrunning hsending hcount hdelivers
      have hnear := hdelivers.others pump.stream.socket (Network.peerOf_ne _).symm
      have hstill : Attended after proxy.isCancelled near pump :=
        hattended.of_same (by rw [hnear]) (by rw [hnear]; exact fun h => h) (by rw [hdelivers.peer])
      rw [hwrite] at hstep
      dsimp only at hstep
      split at hstep
      · rename_i hdone
        cases hstep
        rw [if_pos hdone] at hbook
        exact ⟨{ pump with sending := none }, _, {
          socket := rfl
          result := ⟨_, rfl⟩
          moves := hmoves
          silent := by rw [hsending]; nofun
          cursor := .inl rfl
          attended := { hstill with }
          book := by
            rw [newFrame_none, List.append_nil]
            exact hbook }⟩
      · rename_i hmore
        split at hstep
        · cases hstep
        · cases hstep
          rw [if_neg hmore] at hbook
          exact ⟨{ pump with sending := some (frame, written + count) }, _, {
            socket := rfl
            result := ⟨_, rfl⟩
            moves := hmoves
            silent := by rw [hsending]; nofun
            cursor := .inl rfl
            attended := { hstill with }
            book := by
              rw [hsending]
              simpa [Exchange.newFrame] using hbook }⟩

/-- A step of a pump at the back keeps its books. -/
theorem kept_of_pumpSubscriber
    (h : BackBook net proxy.fanout.log started handed arrived pump)
    (hattended : Attended net proxy.isCancelled near pump) (hhonest : net.Honest)
    (hpump : proxy.subscribers[index]? = some pump)
    (hfits : ∀ body ∈ proxy.fanout.log.toList, body.size ≤ Frame.maxLength)
    (hstep : proxy.pumpSubscriber net index = some (proxy', net')) :
    ∃ pump' piece,
      BackKept proxy net index started handed arrived near pump proxy' net' pump' piece := by
  unfold Proxy.pumpSubscriber at hstep
  rw [hpump] at hstep
  dsimp only at hstep
  split at hstep
  · cases hstep
  · rename_i hrunning
    have hrunning : pump.isRunning = true := by simpa using hrunning
    split at hstep
    · rename_i hcancelled
      exact h.kept_of_end rfl (.refl _ _) (.inl hcancelled) (Option.some.inj hstep)
    · split at hstep
      · rename_i hidle
        exact h.kept_of_nextForSubscriber hattended hhonest hrunning hidle hfits hstep
      · rename_i frame written hsending
        exact h.kept_of_writeToSubscriber hattended hrunning hsending hstep

end BackBook

end DeviceBus
