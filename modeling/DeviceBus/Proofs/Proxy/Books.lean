import DeviceBus.Proofs.Proxy.Connection

/-!
# The books of a proxy

All books of a proxy hold together at every moment, whatever the order of events, because no two of its
connections share a socket: what happens at one of them leaves the books of the others alone.

* `Exchange.Roster`: the near ends of a proxy's connections, waiting or accepted, are all different.
* `Exchange.Books`: the roster, the log and the book of every connection.
* `Exchange.books_step`, `Exchange.books_run`: every event keeps them.
* `Exchange.books_start`: they begin when the proxy is bound.
-/

namespace DeviceBus

open Network (peerOf peerOf_injective waitingAt)

/-- A property of every element of an array and its index. -/
def EachAt {α : Type} (items : Array α) (property : Nat → α → Prop) : Prop :=
  ∀ index item, items[index]? = some item → property index item

namespace EachAt

variable {α : Type} {items : Array α} {property property' : Nat → α → Prop}

theorem imp (h : EachAt items property)
    (himp : ∀ index item, items[index]? = some item → property index item → property' index item) :
    EachAt items property' :=
  fun index item hitem => himp index item hitem (h index item hitem)

/-- One element is replaced. -/
theorem set (h : EachAt items property) {index : Nat} {item : α} (hitem : property' index item)
    (hothers : ∀ other old, other ≠ index → items[other]? = some old → property other old →
      property' other old) : EachAt (items.setIfInBounds index item) property' := by
  intro other found hfound
  rw [Array.getElem?_setIfInBounds] at hfound
  by_cases hsame : index = other
  · subst hsame
    rw [if_pos rfl] at hfound
    split at hfound
    · cases hfound
      exact hitem
    · cases hfound
  · rw [if_neg hsame] at hfound
    exact hothers other found (Ne.symm hsame) hfound (h other found hfound)

/-- One more element is added. -/
theorem push (h : EachAt items property) {item : α} (hitem : property' items.size item)
    (hothers : ∀ other old, items[other]? = some old → property other old → property' other old) :
    EachAt (items.push item) property' := by
  intro other found hfound
  rw [Array.getElem?_push] at hfound
  split at hfound
  · rename_i hsame
    subst hsame
    cases hfound
    exact hitem
  · exact hothers other found hfound (h other found hfound)

end EachAt

/-- A proxy is bound when both of its listeners are. -/
theorem Proxy.bind_eq_ok_iff {net net' : Network} {front back : Url} {proxy : Proxy} :
    Proxy.bind net front back = (.ok proxy, net') ↔
      ∃ frontId between backId, net.bind front = (.ok frontId, between) ∧
        between.bind back = (.ok backId, net') ∧ proxy = { front := frontId, back := backId } := by
  unfold Proxy.bind
  constructor
  · intro h
    split at h
    · cases h
    · rename_i frontId between hfront
      split at h
      · cases h
      · rename_i backId after hback
        cases h
        exact ⟨frontId, between, backId, hfront, hback, rfl⟩
  · rintro ⟨frontId, between, backId, hfront, hback, rfl⟩
    rw [hfront]
    dsimp only
    rw [hback]

/-- Where nothing is bound yet, a proxy gets the first two listeners. -/
theorem Proxy.fst_bind_fresh :
    (Proxy.bind { files := .fresh } (.tcp "localhost:5000") (.tcp "localhost:5001")).1 =
      .ok { front := 0, back := 1 } := by
  have hfront : (Network.bind { files := .fresh } (.tcp "localhost:5000")).1 = .ok 0 := by
    decide +kernel
  have hback : ((Network.bind { files := .fresh } (.tcp "localhost:5000")).2.bind
      (.tcp "localhost:5001")).1 = .ok 1 := by
    decide +kernel
  rw [Proxy.bind_eq_ok_iff.2 ⟨0, _, 1, Prod.ext hfront rfl, Prod.ext hback rfl, rfl⟩]

namespace Exchange

/-! ## The roster -/

/-- The near ends of the connections that a proxy has accepted at its front. -/
def frontEnds (proxy : Proxy) : List SocketId := proxy.publishers.toList.map (·.stream.socket)

/-- The near ends of the connections that a proxy has accepted at its back. -/
def backEnds (proxy : Proxy) : List SocketId := proxy.subscribers.toList.map (·.stream.socket)

/-- The near ends of all connections of a proxy: those that it has accepted and those that wait. -/
def nearEnds (proxy : Proxy) (net : Network) : List SocketId :=
  frontEnds proxy ++ backEnds proxy ++ waitingAt net proxy.front ++ waitingAt net proxy.back

/-- What keeps the connections of a proxy apart: its two listeners are different, and the near ends of its
connections are different sockets with odd numbers. -/
structure Roster (proxy : Proxy) (net : Network) : Prop where
  honest : net.Honest
  apart : proxy.front ≠ proxy.back
  front : proxy.front < net.listeners.size
  back : proxy.back < net.listeners.size
  distinct : (nearEnds proxy net).Nodup
  near : ∀ id : Nat, id ∈ nearEnds proxy net → id % 2 = 1 ∧ id < net.sockets.size

theorem getElem?_frontEnds {proxy : Proxy} {index : Nat} {pump : FrontPump}
    (h : proxy.publishers[index]? = some pump) :
    (frontEnds proxy)[index]? = some pump.stream.socket := by
  rw [frontEnds, List.getElem?_map, Array.getElem?_toList, h]
  rfl

theorem getElem?_backEnds {proxy : Proxy} {index : Nat} {pump : BackPump}
    (h : proxy.subscribers[index]? = some pump) :
    (backEnds proxy)[index]? = some pump.stream.socket := by
  rw [backEnds, List.getElem?_map, Array.getElem?_toList, h]
  rfl

/-- Replacing an element by one that looks the same in some respect changes nothing in that respect. -/
theorem map_toList_set {α β : Type} {items : Array α} {f : α → β} {index : Nat} {old new : α}
    (hold : items[index]? = some old) (hsame : f new = f old) :
    (items.setIfInBounds index new).toList.map f = items.toList.map f := by
  rw [Array.toList_setIfInBounds, List.map_set, hsame]
  apply List.ext_getElem?
  intro other
  rw [List.getElem?_set]
  split
  · rename_i heq
    rw [← heq, List.getElem?_map, Array.getElem?_toList, hold]
    obtain ⟨hinside, -⟩ := Array.getElem?_eq_some_iff.1 hold
    simp [hinside]
  · rfl

/-- Different places of a list without repetitions hold different elements. -/
theorem ne_of_getElem?_of_nodup {α : Type} {list : List α} (h : list.Nodup) {i j : Nat} {a b : α}
    (hi : list[i]? = some a) (hj : list[j]? = some b) (hne : i ≠ j) : a ≠ b := by
  rintro rfl
  obtain ⟨hlt, -⟩ := List.getElem?_eq_some_iff.1 hi
  exact hne ((List.getElem?_inj hlt h).1 (hi.trans hj.symm))

namespace Roster

variable {proxy proxy' : Proxy} {net net' : Network}

theorem front_ne_front (h : Roster proxy net) {i j : Nat} {p q : FrontPump}
    (hp : proxy.publishers[i]? = some p) (hq : proxy.publishers[j]? = some q) (hne : i ≠ j) :
    p.stream.socket ≠ q.stream.socket := by
  have hdistinct := h.distinct
  simp only [nearEnds, List.nodup_append] at hdistinct
  exact ne_of_getElem?_of_nodup hdistinct.1.1.1 (getElem?_frontEnds hp) (getElem?_frontEnds hq) hne

theorem back_ne_back (h : Roster proxy net) {i j : Nat} {p q : BackPump}
    (hp : proxy.subscribers[i]? = some p) (hq : proxy.subscribers[j]? = some q) (hne : i ≠ j) :
    p.stream.socket ≠ q.stream.socket := by
  have hdistinct := h.distinct
  simp only [nearEnds, List.nodup_append] at hdistinct
  exact ne_of_getElem?_of_nodup hdistinct.1.1.2.1 (getElem?_backEnds hp) (getElem?_backEnds hq) hne

theorem front_ne_back (h : Roster proxy net) {i j : Nat} {p : FrontPump} {q : BackPump}
    (hp : proxy.publishers[i]? = some p) (hq : proxy.subscribers[j]? = some q) :
    p.stream.socket ≠ q.stream.socket := by
  have hdistinct := h.distinct
  simp only [nearEnds, List.nodup_append] at hdistinct
  exact hdistinct.1.1.2.2 _ (List.mem_of_getElem? (getElem?_frontEnds hp)) _
    (List.mem_of_getElem? (getElem?_backEnds hq))

/-- What is in the roster as accepted does not wait. -/
theorem waiting_ne_front (h : Roster proxy net) {i : Nat} {p : FrontPump} {id : SocketId}
    (hp : proxy.publishers[i]? = some p)
    (hid : id ∈ waitingAt net proxy.front ++ waitingAt net proxy.back) : id ≠ p.stream.socket := by
  have hdistinct := h.distinct
  rw [nearEnds, List.append_assoc, List.nodup_append] at hdistinct
  refine Ne.symm (hdistinct.2.2 _ ?_ _ hid)
  exact List.mem_append_left _ (List.mem_of_getElem? (getElem?_frontEnds hp))

theorem waiting_ne_back (h : Roster proxy net) {i : Nat} {p : BackPump} {id : SocketId}
    (hp : proxy.subscribers[i]? = some p)
    (hid : id ∈ waitingAt net proxy.front ++ waitingAt net proxy.back) : id ≠ p.stream.socket := by
  have hdistinct := h.distinct
  rw [nearEnds, List.append_assoc, List.nodup_append] at hdistinct
  refine Ne.symm (hdistinct.2.2 _ ?_ _ hid)
  exact List.mem_append_right _ (List.mem_of_getElem? (getElem?_backEnds hp))

/-- Far ends have even numbers, so no near end is one. -/
theorem ne_far (h : Roster proxy net) {id : SocketId} (hid : id ∈ nearEnds proxy net)
    (connection : Nat) : id ≠ 2 * connection := by
  rintro rfl
  have hodd := (h.near _ hid).1
  omega

theorem mem_of_front {proxy : Proxy} {net : Network} {index : Nat} {pump : FrontPump}
    (hpump : proxy.publishers[index]? = some pump) : pump.stream.socket ∈ nearEnds proxy net := by
  rw [nearEnds, List.append_assoc, List.append_assoc]
  exact List.mem_append_left _ (List.mem_of_getElem? (getElem?_frontEnds hpump))

theorem mem_of_back {proxy : Proxy} {net : Network} {index : Nat} {pump : BackPump}
    (hpump : proxy.subscribers[index]? = some pump) : pump.stream.socket ∈ nearEnds proxy net := by
  rw [nearEnds, List.append_assoc]
  exact List.mem_append_left _ (List.mem_append_right _ (List.mem_of_getElem? (getElem?_backEnds hpump)))

theorem mem_of_waiting {proxy : Proxy} {net : Network} {id : SocketId}
    (hid : id ∈ waitingAt net proxy.front ++ waitingAt net proxy.back) : id ∈ nearEnds proxy net := by
  rw [nearEnds, List.append_assoc]
  exact List.mem_append_right _ hid

/-- A roster may be put in another order. -/
theorem of_perm (h : Roster proxy net) (hhonest : net'.Honest)
    (hperm : (nearEnds proxy' net').Perm (nearEnds proxy net)) (hfront : proxy'.front = proxy.front)
    (hback : proxy'.back = proxy.back) (hlisteners : net'.listeners.size = net.listeners.size)
    (hsize : net'.sockets.size = net.sockets.size) : Roster proxy' net' where
  honest := hhonest
  apart := by rw [hfront, hback]; exact h.apart
  front := by rw [hfront, hlisteners]; exact h.front
  back := by rw [hback, hlisteners]; exact h.back
  distinct := hperm.nodup_iff.2 h.distinct
  near id hid := by
    rw [hsize]
    exact h.near id (hperm.mem_iff.1 hid)

/-- Whatever a holder of a socket does, the roster stays the same. -/
theorem of_moves (h : Roster proxy net) {id : SocketId} {piece : ByteArray}
    (hmoves : Moves id net piece net') (hfront : proxy'.front = proxy.front)
    (hback : proxy'.back = proxy.back) (hfrontEnds : frontEnds proxy' = frontEnds proxy)
    (hbackEnds : backEnds proxy' = backEnds proxy) : Roster proxy' net' := by
  have hwaiting : ∀ id, waitingAt net' id = waitingAt net id := by
    intro id
    simp only [waitingAt, Network.listener?, hmoves.listeners]
  have hnear : nearEnds proxy' net' = nearEnds proxy net := by
    rw [nearEnds, nearEnds, hfront, hback, hfrontEnds, hbackEnds, hwaiting, hwaiting]
  exact h.of_perm (hmoves.honest h.honest) (by rw [hnear]) hfront hback
    (by rw [hmoves.listeners]) hmoves.size

theorem peerOf_even (h : Roster proxy net) {id : SocketId} (hid : id ∈ nearEnds proxy net) :
    @Eq Nat (peerOf id % 2) 0 := by
  have hodd := (h.near _ hid).1
  have hparity := Network.peerOf_mod_two id
  omega

/-- Near ends have odd numbers, so none is the far end of another. -/
theorem peerOf_ne (h : Roster proxy net) {id other : SocketId} (hid : id ∈ nearEnds proxy net)
    (hother : other ∈ nearEnds proxy net) : peerOf id ≠ other := by
  have heven := h.peerOf_even hid
  have hodd := (h.near _ hother).1
  rintro rfl
  omega

/-- A connection is added to the roster, or to a listener that is none of the proxy's. -/
theorem nearEnds_join (h : Roster proxy net) (id : ListenerId) :
    (nearEnds proxy (net.join id)).Perm (nearEnds proxy net) ∨
      (nearEnds proxy (net.join id)).Perm ((net.sockets.size + 1) :: nearEnds proxy net) := by
  by_cases hfront : proxy.front = id
  · refine .inr ?_
    subst hfront
    rw [nearEnds, nearEnds, Network.waitingAt_join h.front,
      Network.waitingAt_join_of_ne (Ne.symm h.apart), List.perm_iff_count]
    intro near
    simp only [List.count_append, List.count_cons, List.count_nil]
    omega
  · by_cases hback : proxy.back = id
    · refine .inr ?_
      subst hback
      rw [nearEnds, nearEnds, Network.waitingAt_join h.back, Network.waitingAt_join_of_ne hfront,
        List.perm_iff_count]
      intro near
      simp only [List.count_append, List.count_cons, List.count_nil]
      omega
    · refine .inl ?_
      rw [nearEnds, nearEnds, Network.waitingAt_join_of_ne hfront,
        Network.waitingAt_join_of_ne hback]

/-- Whoever connects anywhere, the roster goes on. -/
theorem of_join (h : Roster proxy net) (id : ListenerId) : Roster proxy (net.join id) where
  honest := h.honest.of_join id
  apart := h.apart
  front := by simpa [Network.join] using h.front
  back := by simpa [Network.join] using h.back
  distinct := by
    rcases h.nearEnds_join id with hperm | hperm
    · exact hperm.nodup_iff.2 h.distinct
    · -- the new socket comes after all that there were
      refine hperm.nodup_iff.2 (List.nodup_cons.2 ⟨fun hmem => ?_, h.distinct⟩)
      have hold := h.near _ hmem
      omega
  near := by
    intro near hnear
    rw [Network.size_join]
    have heven := h.honest.paired
    rcases h.nearEnds_join id with hperm | hperm
    · have hold := h.near near (hperm.mem_iff.1 hnear)
      omega
    · rcases List.mem_cons.1 (hperm.mem_iff.1 hnear) with hnew | hmem
      · have hnew : @Eq Nat near (net.sockets.size + 1) := hnew
        omega
      · have hold := h.near near hmem
        omega

end Roster

/-! ## All books -/

/-- All books of a proxy. -/
structure Books (exchange : Exchange) : Prop where
  roster : Roster exchange.proxy exchange.net
  fresh : ∀ id, exchange.net.sockets.size ≤ id → exchange.journal.arrived id = []
  log : exchange.proxy.fanout.log.toList = exchange.journal.broadcasts.map Prod.snd
  origin : ∀ entry ∈ exchange.journal.broadcasts, entry.1 < exchange.proxy.publishers.size
  fits : ∀ entry ∈ exchange.journal.broadcasts, entry.2.size ≤ Frame.maxLength
  publishers : EachAt exchange.proxy.publishers fun index pump =>
    FrontBook exchange.net exchange.proxy.isCancelled
      (exchange.journal.arrived pump.stream.socket) (sentBy exchange.journal index) pump
  subscribers : EachAt exchange.proxy.subscribers fun index pump =>
    BackBook exchange.net exchange.proxy.fanout.log (exchange.journal.started index)
      (exchange.journal.handed index) (exchange.journal.arrived (peerOf pump.stream.socket)) pump
  attended : EachAt exchange.proxy.subscribers fun _ pump =>
    Attended exchange.net exchange.proxy.isCancelled (exchange.journal.arrived pump.stream.socket) pump
  idle : ∀ index, exchange.proxy.subscribers.size ≤ index → exchange.journal.handed index = []
  waiting : ∀ id ∈ waitingAt exchange.net exchange.proxy.front ++
    waitingAt exchange.net exchange.proxy.back, Waiting exchange.net exchange.journal.arrived id

theorem handedOver_of_same {before after : Proxy} {index : Nat}
    (h : after.subscribers[index]? = before.subscribers[index]?) :
    handedOver before after index = [] := by
  rw [handedOver, h]
  cases before.subscribers[index]?.bind BackPump.sending <;> rfl

/-- A pump that has nothing to write was handed nothing. -/
theorem handedOver_of_none {before after : Proxy} {index : Nat}
    (h : after.subscribers[index]?.bind BackPump.sending = none) : handedOver before after index = [] := by
  rw [handedOver, h]
  exact BackBook.newFrame_none _

/-- Where the pumps at the back stay as they are, none is handed anything. -/
theorem handed_note (journal : Journal) (event : Event) {proxy proxy' : Proxy} (net net' : Network)
    (h : proxy'.subscribers = proxy.subscribers) :
    (note journal event proxy net proxy' net').handed = journal.handed := by
  funext index
  simp only [note]
  rw [handedOver_of_same (by rw [h]), List.append_nil]

theorem started_note (journal : Journal) (event : Event) {proxy : Proxy} (net : Network)
    (proxy' : Proxy) (net' : Network) {index : Nat} {pump : BackPump}
    (h : proxy.subscribers[index]? = some pump) :
    (note journal event proxy net proxy' net').started index = journal.started index := by
  obtain ⟨hindex, -⟩ := Array.getElem?_eq_some_iff.1 h
  exact if_pos hindex

theorem sentBy_note (journal : Journal) (event : Event) (proxy : Proxy) (net : Network)
    (proxy' : Proxy) (net' : Network) (index : Nat) :
    sentBy (note journal event proxy net proxy' net') index =
      sentBy journal index ++ ((broadcastBy proxy proxy' event).filter (·.1 = index)).map Prod.snd := by
  simp [sentBy, note]

/-- An event that broadcasts nothing leaves the list of broadcasts as it is. -/
theorem broadcasts_note (journal : Journal) {event : Event} {proxy proxy' : Proxy} (net net' : Network)
    (h : broadcastBy proxy proxy' event = []) :
    (note journal event proxy net proxy' net').broadcasts = journal.broadcasts := by
  simp only [note, h, List.append_nil]

theorem sentBy_note_of_silent (journal : Journal) {event : Event} {proxy proxy' : Proxy}
    (net net' : Network) (h : broadcastBy proxy proxy' event = []) :
    sentBy (note journal event proxy net proxy' net') = sentBy journal := by
  funext index
  rw [sentBy, broadcasts_note _ _ _ h]
  rfl

/-- Nothing arrives by a connection that is made. -/
theorem arrivedBetween_join (net : Network) (id : ListenerId) (other : SocketId) :
    arrivedBetween net (net.join id) other = [] := by
  by_cases hin : other < net.sockets.size
  · exact arrivedBetween_of_socket_eq (Network.socket_join_of_lt hin id)
  · exact arrivedBetween_of_empty (Network.incoming_join_of_size_le (Nat.le_of_not_lt hin) id)

namespace Books

variable {exchange : Exchange} {proxy' : Proxy} {net' : Network} {event : Event}

/-- An event that broadcasts nothing leaves the books of the log right: the log holds what was broadcast,
by pumps that exist, and everything in it fits a frame. -/
theorem logs_note (h : exchange.Books) (event : Event) (proxy' : Proxy) (net' : Network)
    (hquiet : broadcastBy exchange.proxy proxy' event = [])
    (hlog : proxy'.fanout = exchange.proxy.fanout)
    (hsize : exchange.proxy.publishers.size ≤ proxy'.publishers.size) :
    proxy'.fanout.log.toList =
      (note exchange.journal event exchange.proxy exchange.net proxy' net').broadcasts.map Prod.snd ∧
    (∀ entry ∈ (note exchange.journal event exchange.proxy exchange.net proxy' net').broadcasts,
      entry.1 < proxy'.publishers.size) ∧
    ∀ entry ∈ (note exchange.journal event exchange.proxy exchange.net proxy' net').broadcasts,
      entry.2.size ≤ Frame.maxLength := by
  rw [broadcasts_note _ _ _ hquiet, hlog]
  exact ⟨h.log, fun entry hentry => Nat.lt_of_lt_of_le (h.origin entry hentry) hsize, h.fits⟩

theorem sent_fits (h : exchange.Books) (index : Nat) :
    ∀ body ∈ sentBy exchange.journal index, body.size ≤ Frame.maxLength := by
  intro body hmem
  obtain ⟨entry, hentry, rfl⟩ := List.mem_map.1 hmem
  exact h.fits entry (List.mem_of_mem_filter hentry)

theorem log_fits (h : exchange.Books) :
    ∀ body ∈ exchange.proxy.fanout.log.toList, body.size ≤ Frame.maxLength := by
  intro body hmem
  rw [h.log] at hmem
  obtain ⟨entry, hentry, rfl⟩ := List.mem_map.1 hmem
  exact h.fits entry hentry

/-- A pump that does not exist has broadcast nothing. -/
theorem sentBy_eq_nil (h : exchange.Books) {index : Nat}
    (hindex : exchange.proxy.publishers.size ≤ index) : sentBy exchange.journal index = [] := by
  rw [sentBy, List.map_eq_nil_iff, List.filter_eq_nil_iff]
  intro entry hentry
  have horigin := h.origin entry hentry
  simp only [decide_eq_true_eq]
  omega

/-- What happens at one socket leaves all connections waiting that have another one. -/
theorem waiting_of_moves (h : exchange.Books) {id : SocketId} {piece : ByteArray}
    (hmoves : Moves id exchange.net piece net') (hfront : proxy'.front = exchange.proxy.front)
    (hback : proxy'.back = exchange.proxy.back)
    (hne : ∀ other ∈ waitingAt exchange.net exchange.proxy.front ++
      waitingAt exchange.net exchange.proxy.back, other ≠ id) :
    ∀ other ∈ waitingAt net' proxy'.front ++ waitingAt net' proxy'.back,
      Waiting net' (fun other => exchange.journal.arrived other ++
        arrivedBetween exchange.net net' other) other := by
  intro other hother
  rw [hfront, hback] at hother
  simp only [waitingAt, Network.listener?, hmoves.listeners] at hother
  exact (h.waiting other hother).of_moves hmoves (hne other hother)

theorem fresh_of_moves (h : exchange.Books) {id : SocketId} {piece : ByteArray}
    (hmoves : Moves id exchange.net piece net') {other : SocketId}
    (hother : net'.sockets.size ≤ other) :
    exchange.journal.arrived other ++ arrivedBetween exchange.net net' other = [] := by
  rw [hmoves.size] at hother
  rw [h.fresh other hother, hmoves.arrivedBetween_of_size_le hother, List.append_nil]

/-- The books after somebody outside has used a far end. -/
theorem of_far (h : exchange.Books) {connection : Nat} {piece : ByteArray} (deed : Deed)
    (hmoves : Moves (2 * connection) exchange.net piece net') :
    Books ⟨exchange.proxy, net', note exchange.journal (.far connection deed) exchange.proxy
      exchange.net exchange.proxy net'⟩ where
  roster := h.roster.of_moves hmoves rfl rfl rfl rfl
  fresh _ hother := h.fresh_of_moves hmoves hother
  log := (h.logs_note (.far connection deed) _ net' rfl rfl (Nat.le_refl _)).1
  origin := (h.logs_note (.far connection deed) _ net' rfl rfl (Nat.le_refl _)).2.1
  fits := (h.logs_note (.far connection deed) _ net' rfl rfl (Nat.le_refl _)).2.2
  publishers := h.publishers.imp fun index pump hpump hbook => by
    rw [sentBy_note_of_silent _ _ _ rfl]
    exact hbook.of_moves h.roster.honest hmoves (h.roster.ne_far (Roster.mem_of_front hpump) _)
  subscribers := h.subscribers.imp fun index pump hpump hbook => by
    rw [handed_note _ _ _ _ rfl, started_note _ _ _ _ _ hpump]
    exact hbook.of_moves hmoves (h.roster.ne_far (Roster.mem_of_back hpump) _)
  attended := h.attended.imp fun index pump hpump hbook =>
    hbook.of_moves h.roster.honest hmoves (h.roster.ne_far (Roster.mem_of_back hpump) _)
  idle index hindex := by
    rw [handed_note _ _ _ _ rfl]
    exact h.idle index hindex
  waiting := h.waiting_of_moves hmoves rfl rfl fun other hother =>
    h.roster.ne_far (Roster.mem_of_waiting hother) connection

/-- A step of a pump at the front, with what its book says about it. -/
theorem pumpPublisher_spec (h : exchange.Books) {index : Nat}
    (hstep : exchange.proxy.pumpPublisher exchange.net index = some (proxy', net')) :
    ∃ (pump pump' : FrontPump) (bodies : List ByteArray) (attached : Attached),
      exchange.proxy.publishers[index]? = some pump ∧
      pump'.stream.socket = pump.stream.socket ∧
      proxy' = { exchange.proxy with
        publishers := exchange.proxy.publishers.setIfInBounds index pump'
        attached
        fanout := ⟨exchange.proxy.fanout.log ++ bodies.toArray⟩ } ∧
      exchange.net.Recedes pump.stream.socket net' ∧
      (∀ body ∈ bodies, body.size ≤ Frame.maxLength) ∧
      FrontBook net' exchange.proxy.isCancelled (exchange.journal.arrived pump.stream.socket)
        (sentBy exchange.journal index ++ bodies) pump' := by
  cases hpump : exchange.proxy.publishers[index]? with
  | some pump =>
      obtain ⟨pump', bodies, attached, hspec⟩ :=
        (h.publishers index pump hpump).of_pumpPublisher hpump (h.sent_fits index) hstep
      exact ⟨pump, pump', bodies, attached, rfl, hspec⟩
  | none => simp [Proxy.pumpPublisher, hpump] at hstep

/-- A step of a pump at the back, with what its books say about it. -/
theorem pumpSubscriber_spec (h : exchange.Books) {index : Nat}
    (hstep : exchange.proxy.pumpSubscriber exchange.net index = some (proxy', net')) :
    ∃ (pump pump' : BackPump) (piece : ByteArray),
      exchange.proxy.subscribers[index]? = some pump ∧
      BackKept exchange.proxy exchange.net index (exchange.journal.started index)
        (exchange.journal.handed index) (exchange.journal.arrived (peerOf pump.stream.socket))
        (exchange.journal.arrived pump.stream.socket) pump proxy' net' pump' piece := by
  cases hpump : exchange.proxy.subscribers[index]? with
  | some pump =>
      obtain ⟨pump', piece, hkept⟩ := (h.subscribers index pump hpump).kept_of_pumpSubscriber
        (h.attended index pump hpump) h.roster.honest hpump h.log_fits hstep
      exact ⟨pump, pump', piece, rfl, hkept⟩
  | none => simp [Proxy.pumpSubscriber, hpump] at hstep

/-- The books after a step of a pump at the front. -/
theorem of_pumpPublisher (h : exchange.Books) {index : Nat}
    (hstep : exchange.proxy.pumpPublisher exchange.net index = some (proxy', net')) :
    Books ⟨proxy', net', note exchange.journal (.pumpPublisher index) exchange.proxy exchange.net
      proxy' net'⟩ := by
  obtain ⟨pump, pump', bodies, attached, hpump, hsocket, hproxy, hrecedes, hfits, hbook⟩ :=
    h.pumpPublisher_spec hstep
  have hmoves := Moves.recedes hrecedes
  have hsubscribers : proxy'.subscribers = exchange.proxy.subscribers := by rw [hproxy]
  have hpublishers : proxy'.publishers = exchange.proxy.publishers.setIfInBounds index pump' := by
    rw [hproxy]
  have hlog : proxy'.fanout.log = exchange.proxy.fanout.log ++ bodies.toArray := by rw [hproxy]
  have hfront : proxy'.front = exchange.proxy.front := by rw [hproxy]
  have hback : proxy'.back = exchange.proxy.back := by rw [hproxy]
  have hcancelled : proxy'.isCancelled = exchange.proxy.isCancelled := by rw [hproxy]
  have hbroadcast : broadcastBy exchange.proxy proxy' (.pumpPublisher index) =
      bodies.map fun body => (index, body) := by
    simp [broadcastBy, hlog]
  -- a pump broadcasts under its own number, so no other list grows
  have hsent : ∀ other, sentBy (note exchange.journal (.pumpPublisher index) exchange.proxy exchange.net
      proxy' net') other = sentBy exchange.journal other ++ if other = index then bodies else [] := by
    intro other
    rw [sentBy_note, hbroadcast]
    by_cases hsame : other = index
    · simp [hsame, List.filter_map, Function.comp_def]
    · simp [hsame, Ne.symm hsame, List.filter_map, Function.comp_def]
  exact {
    roster := h.roster.of_moves hmoves hfront hback
      (by rw [frontEnds, hpublishers]; exact map_toList_set hpump hsocket)
      (by rw [backEnds, hsubscribers]; rfl)
    fresh := fun _ hother => h.fresh_of_moves hmoves hother
    log := by
      simp [note, hbroadcast, hlog, h.log, Function.comp_def]
    origin := by
      intro entry hentry
      simp only [hpublishers, Array.size_setIfInBounds]
      rcases List.mem_append.1 hentry with hold | hnew
      · exact h.origin entry hold
      · rw [hbroadcast] at hnew
        obtain ⟨body, -, rfl⟩ := List.mem_map.1 hnew
        obtain ⟨hinside, -⟩ := Array.getElem?_eq_some_iff.1 hpump
        exact hinside
    fits := by
      intro entry hentry
      rcases List.mem_append.1 hentry with hold | hnew
      · exact h.fits entry hold
      · rw [hbroadcast] at hnew
        obtain ⟨body, hbody, rfl⟩ := List.mem_map.1 hnew
        exact hfits body hbody
    publishers := by
      dsimp only
      rw [hpublishers, hcancelled]
      refine h.publishers.set ?_ fun other old hne hold hold' => ?_
      · rw [hsent, if_pos rfl, hsocket]
        have hnothing := hmoves.arrivedBetween_of_ne (Network.peerOf_ne pump.stream.socket).symm
        simp only [note, hnothing, List.append_nil]
        exact hbook
      · rw [hsent, if_neg hne, List.append_nil]
        exact hold'.of_moves h.roster.honest hmoves (h.roster.front_ne_front hold hpump hne)
    subscribers := by
      dsimp only
      rw [hsubscribers, hlog, handed_note _ _ _ _ hsubscribers]
      refine h.subscribers.imp fun other old hold hbook => ?_
      rw [started_note _ _ _ _ _ hold]
      exact (hbook.of_broadcast _).of_moves hmoves (h.roster.front_ne_back hpump hold).symm
    attended := by
      dsimp only
      rw [hsubscribers, hcancelled]
      exact h.attended.imp fun other old hold hbook =>
        hbook.of_moves h.roster.honest hmoves (h.roster.front_ne_back hpump hold).symm
    idle := by
      dsimp only
      rw [hsubscribers, handed_note _ _ _ _ hsubscribers]
      exact h.idle
    waiting := h.waiting_of_moves hmoves hfront hback fun other hother =>
      h.roster.waiting_ne_front hpump hother }

/-- The books after a step of a pump at the back. -/
theorem of_pumpSubscriber (h : exchange.Books) {index : Nat}
    (hstep : exchange.proxy.pumpSubscriber exchange.net index = some (proxy', net')) :
    Books ⟨proxy', net', note exchange.journal (.pumpSubscriber index) exchange.proxy exchange.net
      proxy' net'⟩ := by
  obtain ⟨pump, pump', piece, hpump, hkept⟩ := h.pumpSubscriber_spec hstep
  obtain ⟨hsocket, ⟨attached, hproxy⟩, hmoves, -, -, hattended, hbook⟩ := hkept
  have hpublishers : proxy'.publishers = exchange.proxy.publishers := by rw [hproxy]; rfl
  have hsubscribers : proxy'.subscribers = exchange.proxy.subscribers.setIfInBounds index pump' := by
    rw [hproxy]
    rfl
  have hlog : proxy'.fanout = exchange.proxy.fanout := by rw [hproxy]; rfl
  have hfront : proxy'.front = exchange.proxy.front := by rw [hproxy]; rfl
  have hback : proxy'.back = exchange.proxy.back := by rw [hproxy]; rfl
  have hcancelled : proxy'.isCancelled = exchange.proxy.isCancelled := by rw [hproxy]; rfl
  -- nobody but this pump is handed anything
  have hhanded : ∀ other, (note exchange.journal (.pumpSubscriber index) exchange.proxy exchange.net
      proxy' net').handed other = exchange.journal.handed other ++
        if other = index then newFrame pump.sending pump'.sending else [] := by
    intro other
    simp only [note]
    obtain ⟨hinside, -⟩ := Array.getElem?_eq_some_iff.1 hpump
    by_cases hsame : other = index
    · subst hsame
      rw [handedOver, hsubscribers, hpump, Array.getElem?_setIfInBounds_self_of_lt hinside, if_pos rfl]
      rfl
    · rw [handedOver_of_same, if_neg hsame]
      rw [hsubscribers, Array.getElem?_setIfInBounds_ne (Ne.symm hsame)]
  have hlogs := h.logs_note (.pumpSubscriber index) proxy' net' rfl hlog
    (Nat.le_of_eq (by rw [hpublishers]))
  exact {
    roster := h.roster.of_moves hmoves hfront hback
      (by rw [frontEnds, hpublishers]; rfl)
      (by rw [backEnds, hsubscribers]; exact map_toList_set hpump hsocket)
    fresh := fun _ hother => h.fresh_of_moves hmoves hother
    log := hlogs.1
    origin := hlogs.2.1
    fits := hlogs.2.2
    publishers := by
      dsimp only
      rw [hpublishers, hcancelled, sentBy_note_of_silent _ _ _ rfl]
      exact h.publishers.imp fun other old hold hbook =>
        hbook.of_moves h.roster.honest hmoves (h.roster.front_ne_back hold hpump)
    subscribers := by
      dsimp only
      rw [hsubscribers, hlog]
      refine h.subscribers.set ?_ fun other old hne hold hold' => ?_
      · rw [hhanded, if_pos rfl, hsocket, started_note _ _ _ _ _ hpump]
        simp only [note, hmoves.arrivedBetween_peer]
        exact hbook
      · rw [hhanded, if_neg hne, List.append_nil, started_note _ _ _ _ _ hold]
        exact hold'.of_moves hmoves (h.roster.back_ne_back hold hpump hne)
    attended := by
      dsimp only
      rw [hsubscribers, hcancelled]
      refine h.attended.set ?_ fun other old hne hold hold' => ?_
      · have hnothing := hmoves.arrivedBetween_of_ne (Network.peerOf_ne pump.stream.socket).symm
        rw [hsocket]
        simp only [note, hnothing, List.append_nil]
        exact hattended
      · exact hold'.of_moves h.roster.honest hmoves (h.roster.back_ne_back hold hpump hne)
    idle := by
      intro other hother
      simp only [hsubscribers, Array.size_setIfInBounds] at hother
      obtain ⟨hinside, -⟩ := Array.getElem?_eq_some_iff.1 hpump
      rw [hhanded, if_neg (by omega), List.append_nil]
      exact h.idle other hother
    waiting := h.waiting_of_moves hmoves hfront hback fun other hother =>
      h.roster.waiting_ne_back hpump hother }

end Books

/-! ## Accepting a connection -/

/-- A connection is accepted at one of the listeners of a proxy: it waited there and waits no more, and nothing is
done with it but that halves of it are let go. -/
structure Accepts (exchange : Exchange) (near : SocketId) (net' : Network) : Prop where
  waits : (waitingAt exchange.net exchange.proxy.front ++ waitingAt exchange.net exchange.proxy.back).Perm
    (near :: (waitingAt net' exchange.proxy.front ++ waitingAt net' exchange.proxy.back))
  listeners : net'.listeners.size = exchange.net.listeners.size
  recedes : ∃ between : Network, between.sockets = exchange.net.sockets ∧ between.Recedes near net'

namespace Accepts

variable {exchange : Exchange} {proxy' : Proxy} {net' : Network} {near : SocketId}

/-- The first connection that waits is accepted. -/
theorem of_accept (hroster : Roster exchange.proxy exchange.net) {listener : ListenerId} {between : Network}
    (haccept : exchange.net.accept listener = some (near, between))
    (hlistener : listener = exchange.proxy.front ∨ listener = exchange.proxy.back)
    (hrecedes : between.Recedes near net') : Accepts exchange near net' := by
  obtain ⟨hwaits, hothers, hsockets, hlisteners⟩ := Network.accept_eq_some haccept
  have hafter : ∀ id, waitingAt net' id = waitingAt between id := fun id => by
    simp only [waitingAt, Network.listener?, hrecedes.listeners]
  refine ⟨?_, by rw [hrecedes.listeners, hlisteners], between, hsockets, hrecedes⟩
  rw [hafter, hafter]
  rcases hlistener with rfl | rfl
  · rw [hwaits, hothers exchange.proxy.back (Ne.symm hroster.apart)]
    exact List.Perm.refl _
  · rw [hwaits, hothers exchange.proxy.front hroster.apart]
    exact List.perm_middle

theorem mem_waiting (h : Accepts exchange near net') :
    near ∈ waitingAt exchange.net exchange.proxy.front ++ waitingAt exchange.net exchange.proxy.back :=
  h.waits.mem_iff.2 List.mem_cons_self

/-- What the sockets but that of the connection have to read, and which halves of them are held, stays the same. -/
theorem of_ne (h : Accepts exchange near net') {id : SocketId} (hne : id ≠ near) :
    (net'.socket id).incoming = (exchange.net.socket id).incoming ∧
      (net'.socket id).readHeld = (exchange.net.socket id).readHeld ∧
      (net'.socket id).writeHeld = (exchange.net.socket id).writeHeld := by
  obtain ⟨between, hsockets, hrecedes⟩ := h.recedes
  have hsocket : between.socket id = exchange.net.socket id := by simp only [Network.socket, hsockets]
  rw [hrecedes.incoming_of_ne hne, hrecedes.readHeld_of_ne hne, hrecedes.writeHeld_of_ne hne, hsocket]
  exact ⟨rfl, rfl, rfl⟩

/-- A stream that is over stays over. -/
theorem stays (h : Accepts exchange near net') {id : SocketId}
    (hfinished : (exchange.net.socket id).finished = true) : (net'.socket id).finished = true := by
  obtain ⟨between, hsockets, hrecedes⟩ := h.recedes
  refine hrecedes.stays ?_
  rw [Network.socket, hsockets]
  exact hfinished

theorem size (h : Accepts exchange near net') : net'.sockets.size = exchange.net.sockets.size := by
  obtain ⟨between, hsockets, hrecedes⟩ := h.recedes
  rw [hrecedes.size, hsockets]

/-- Nothing arrives. -/
theorem arrived_append (h : Accepts exchange near net') (id : SocketId) :
    exchange.journal.arrived id ++ arrivedBetween exchange.net net' id = exchange.journal.arrived id := by
  obtain ⟨between, hsockets, hrecedes⟩ := h.recedes
  have hnothing := arrivedBetween_of_recedes hrecedes id
  rw [arrivedBetween, Network.socket, hsockets] at hnothing
  rw [arrivedBetween, Network.socket, hnothing, List.append_nil]

/-- The proxy has the connections that it had, in another order, if the new one is that of a pump now. -/
theorem roster (h : Accepts exchange near net') (hbooks : exchange.Books)
    (hfront : proxy'.front = exchange.proxy.front) (hback : proxy'.back = exchange.proxy.back)
    (hends : (frontEnds proxy' ++ backEnds proxy').Perm
      (near :: (frontEnds exchange.proxy ++ backEnds exchange.proxy))) : Roster proxy' net' := by
  obtain ⟨between, hsockets, hrecedes⟩ := h.recedes
  refine hbooks.roster.of_perm ((hbooks.roster.honest.of_sockets hsockets).of_recedes hrecedes) ?_ hfront hback
    h.listeners h.size
  rw [nearEnds, nearEnds, hfront, hback, List.append_assoc (_ ++ _), List.append_assoc (_ ++ _)]
  have hpumps := hends.append_right (waitingAt net' exchange.proxy.front ++ waitingAt net' exchange.proxy.back)
  have hwaits := h.waits.append_left (frontEnds exchange.proxy ++ backEnds exchange.proxy)
  exact (hpumps.trans List.perm_middle.symm).trans hwaits.symm

/-- Nothing has arrived by connections that do not exist. -/
theorem fresh (h : Accepts exchange near net') (hbooks : exchange.Books) (id : SocketId)
    (hid : net'.sockets.size ≤ id) : exchange.journal.arrived id = [] := by
  rw [h.size] at hid
  exact hbooks.fresh id hid

/-- The pumps at the front keep their books. -/
theorem publishers (h : Accepts exchange near net') (hbooks : exchange.Books) :
    EachAt exchange.proxy.publishers fun index pump =>
      FrontBook net' exchange.proxy.isCancelled (exchange.journal.arrived pump.stream.socket)
        (sentBy exchange.journal index) pump :=
  hbooks.publishers.imp fun _ pump hpump hbook => by
    have hne := (hbooks.roster.waiting_ne_front hpump h.mem_waiting).symm
    obtain ⟨hincoming, hread, hwrite⟩ := h.of_ne hne
    refine hbook.of_same hincoming h.stays fun hclosed => ?_
    rw [Socket.isClosed, hread, hwrite]
    exact hclosed

/-- The pumps at the back keep their books of what they write. -/
theorem subscribers (h : Accepts exchange near net') (hbooks : exchange.Books) :
    EachAt exchange.proxy.subscribers fun index pump =>
      BackBook net' exchange.proxy.fanout.log (exchange.journal.started index)
        (exchange.journal.handed index) (exchange.journal.arrived (peerOf pump.stream.socket)) pump :=
  hbooks.subscribers.imp fun _ pump hpump hbook => by
    obtain ⟨-, hread, hwrite⟩ := h.of_ne (hbooks.roster.waiting_ne_back hpump h.mem_waiting).symm
    exact hbook.of_held hread hwrite

/-- And they keep those of what they read. -/
theorem attended (h : Accepts exchange near net') (hbooks : exchange.Books) :
    EachAt exchange.proxy.subscribers fun _ pump =>
      Attended net' exchange.proxy.isCancelled (exchange.journal.arrived pump.stream.socket) pump :=
  hbooks.attended.imp fun _ pump hpump hbook => by
    have hne := (hbooks.roster.waiting_ne_back hpump h.mem_waiting).symm
    have hpeer := hbooks.roster.peerOf_ne (Roster.mem_of_back hpump) (Roster.mem_of_waiting h.mem_waiting)
    exact hbook.of_same (h.of_ne hne).1 h.stays (h.of_ne hpeer).2.2

/-- The others go on waiting. -/
theorem waiting (h : Accepts exchange near net') (hbooks : exchange.Books) {id : SocketId}
    (hid : id ∈ waitingAt net' exchange.proxy.front ++ waitingAt net' exchange.proxy.back) :
    Waiting net' exchange.journal.arrived id := by
  have hne : id ≠ near := by
    -- a socket waits only once
    have hdistinct := hbooks.roster.distinct
    rw [nearEnds, List.append_assoc] at hdistinct
    have honce := h.waits.nodup_iff.1 (List.nodup_append.1 hdistinct).2.1
    rintro rfl
    exact (List.nodup_cons.1 honce).1 hid
  obtain ⟨hincoming, hread, hwrite⟩ := h.of_ne hne
  exact (hbooks.waiting id (h.waits.mem_iff.2 (List.mem_cons_of_mem _ hid))).of_same hincoming hread hwrite

/-- The books after a connection was accepted, if the pumps of the proxy have theirs. -/
theorem books (h : Accepts exchange near net') (hbooks : exchange.Books) {event : Event}
    (hquiet : broadcastBy exchange.proxy proxy' event = []) (hfront : proxy'.front = exchange.proxy.front)
    (hback : proxy'.back = exchange.proxy.back) (hlog : proxy'.fanout = exchange.proxy.fanout)
    (hsize : exchange.proxy.publishers.size ≤ proxy'.publishers.size)
    (hends : (frontEnds proxy' ++ backEnds proxy').Perm
      (near :: (frontEnds exchange.proxy ++ backEnds exchange.proxy)))
    (hpublishers : EachAt proxy'.publishers fun index pump =>
      FrontBook net' proxy'.isCancelled (exchange.journal.arrived pump.stream.socket)
        (sentBy exchange.journal index) pump)
    (hsubscribers : EachAt proxy'.subscribers fun index pump =>
      BackBook net' proxy'.fanout.log
        ((note exchange.journal event exchange.proxy exchange.net proxy' net').started index)
        ((note exchange.journal event exchange.proxy exchange.net proxy' net').handed index)
        (exchange.journal.arrived (peerOf pump.stream.socket)) pump)
    (hattended : EachAt proxy'.subscribers fun _ pump =>
      Attended net' proxy'.isCancelled (exchange.journal.arrived pump.stream.socket) pump)
    (hidle : ∀ index, proxy'.subscribers.size ≤ index →
      (note exchange.journal event exchange.proxy exchange.net proxy' net').handed index = []) :
    Books ⟨proxy', net', note exchange.journal event exchange.proxy exchange.net proxy' net'⟩ := by
  have harrived : (note exchange.journal event exchange.proxy exchange.net proxy' net').arrived =
      exchange.journal.arrived := funext h.arrived_append
  have hlogs := hbooks.logs_note event proxy' net' hquiet hlog hsize
  exact {
    roster := h.roster hbooks hfront hback hends
    fresh := by
      dsimp only
      rw [harrived]
      exact h.fresh hbooks
    log := hlogs.1
    origin := hlogs.2.1
    fits := hlogs.2.2
    publishers := by
      dsimp only
      rw [harrived, sentBy_note_of_silent _ _ _ hquiet]
      exact hpublishers
    subscribers := by
      dsimp only
      rw [harrived]
      exact hsubscribers
    attended := by
      dsimp only
      rw [harrived]
      exact hattended
    idle := hidle
    waiting := by
      dsimp only
      rw [harrived, hfront, hback]
      exact fun _ => h.waiting hbooks }

end Accepts

namespace Books

variable {exchange : Exchange} {proxy' : Proxy} {net' : Network} {event : Event}

/-- The books after a publisher was accepted. -/
theorem of_acceptPublisher (h : exchange.Books)
    (hstep : exchange.proxy.acceptPublisher exchange.net = some (proxy', net')) :
    Books ⟨proxy', net', note exchange.journal .acceptPublisher exchange.proxy exchange.net
      proxy' net'⟩ := by
  obtain ⟨near, between, haccept, hproxy, rfl⟩ := Proxy.acceptPublisher_eq_some hstep
  have hpublishers : proxy'.publishers =
      exchange.proxy.publishers.push { stream := { socket := near } } := by rw [hproxy]
  have hsubscribers : proxy'.subscribers = exchange.proxy.subscribers := by rw [hproxy]
  have hlog : proxy'.fanout = exchange.proxy.fanout := by rw [hproxy]
  have hfront : proxy'.front = exchange.proxy.front := by rw [hproxy]
  have hback : proxy'.back = exchange.proxy.back := by rw [hproxy]
  have hcancelled : proxy'.isCancelled = exchange.proxy.isCancelled := by rw [hproxy]
  have haccepts := Accepts.of_accept h.roster haccept (.inl rfl) (Network.recedes_dropWriter between near)
  have hends : (frontEnds proxy' ++ backEnds proxy').Perm
      (near :: (frontEnds exchange.proxy ++ backEnds exchange.proxy)) := by
    simp only [frontEnds, backEnds, hpublishers, hsubscribers, Array.toList_push, List.map_append,
      List.map_cons, List.map_nil, List.append_assoc, List.singleton_append]
    exact List.perm_middle
  have hwaiting := h.waiting near haccepts.mem_waiting
  -- what waits to be read stays when the proxy lets go of its half for writing
  have hnear : ((between.dropWriter near).socket near).incoming =
      (exchange.net.socket near).incoming := by
    have hsocket : between.socket near = exchange.net.socket near := by
      simp only [Network.socket, (Network.accept_eq_some haccept).2.2.1]
    rw [Network.socket_dropWriter (by rw [hsocket]; exact hwaiting.readHeld), hsocket]
  refine haccepts.books h rfl hfront hback hlog ?_ hends ?_ ?_ ?_ ?_
  · rw [hpublishers, Array.size_push]
    exact Nat.le_succ _
  · rw [hpublishers, hcancelled]
    refine (haccepts.publishers h).push ?_ fun _ _ _ hbook => hbook
    rw [h.sentBy_eq_nil (Nat.le_refl _)]
    refine {
      running := fun _ => ⟨Stream.live_start _ _, ?_⟩
      ended := fun hended => absurd hended.symm Bool.false_ne_true }
    rw [hwaiting.unread, Stream.unread, hnear]
    rfl
  · rw [hsubscribers, hlog, handed_note _ _ _ _ hsubscribers]
    refine (haccepts.subscribers h).imp fun _ _ hold hbook => ?_
    rw [started_note _ _ _ _ _ hold]
    exact hbook
  · rw [hsubscribers, hcancelled]
    exact haccepts.attended h
  · rw [hsubscribers, handed_note _ _ _ _ hsubscribers]
    exact h.idle

/-- The books after a subscriber was accepted. -/
theorem of_acceptSubscriber (h : exchange.Books)
    (hstep : exchange.proxy.acceptSubscriber exchange.net = some (proxy', net')) :
    Books ⟨proxy', net', note exchange.journal .acceptSubscriber exchange.proxy exchange.net
      proxy' net'⟩ := by
  obtain ⟨near, haccept, hproxy⟩ := Proxy.acceptSubscriber_eq_some hstep
  have hpublishers : proxy'.publishers = exchange.proxy.publishers := by rw [hproxy]
  have hsubscribers : proxy'.subscribers = exchange.proxy.subscribers.push
      { stream := { socket := near }, cursor := exchange.proxy.fanout.subscribe } := by rw [hproxy]
  have hlog : proxy'.fanout = exchange.proxy.fanout := by rw [hproxy]
  have hfront : proxy'.front = exchange.proxy.front := by rw [hproxy]
  have hback : proxy'.back = exchange.proxy.back := by rw [hproxy]
  have hcancelled : proxy'.isCancelled = exchange.proxy.isCancelled := by rw [hproxy]
  have haccepts := Accepts.of_accept h.roster haccept (.inr rfl) (.refl near net')
  have hends : (frontEnds proxy' ++ backEnds proxy').Perm
      (near :: (frontEnds exchange.proxy ++ backEnds exchange.proxy)) := by
    simp only [frontEnds, backEnds, hpublishers, hsubscribers, Array.toList_push, List.map_append,
      List.map_cons, List.map_nil, ← List.append_assoc]
    exact List.perm_append_singleton _ _
  have hwaiting := h.waiting near haccepts.mem_waiting
  have hnear : net'.socket near = exchange.net.socket near := by
    simp only [Network.socket, (Network.accept_eq_some haccept).2.2.1]
  -- a pump that was just started has nothing to write
  have hhanded : (note exchange.journal .acceptSubscriber exchange.proxy exchange.net
      proxy' net').handed = exchange.journal.handed := by
    funext index
    simp only [note]
    by_cases hnew : index = exchange.proxy.subscribers.size
    · rw [handedOver_of_none (by rw [hsubscribers, hnew, Array.getElem?_push_size]; rfl),
        List.append_nil]
    · rw [handedOver_of_same (by rw [hsubscribers, Array.getElem?_push, if_neg hnew]),
        List.append_nil]
  have hstarted : (note exchange.journal .acceptSubscriber exchange.proxy exchange.net
      proxy' net').started exchange.proxy.subscribers.size = exchange.proxy.fanout.log.size := by
    simp only [note, hlog, Nat.lt_irrefl, if_false]
  refine haccepts.books h rfl hfront hback hlog (Nat.le_of_eq (by rw [hpublishers])) hends ?_ ?_ ?_ ?_
  · rw [hpublishers, hcancelled]
    exact haccepts.publishers h
  · rw [hsubscribers, hlog, hhanded]
    refine (haccepts.subscribers h).push ?_ fun _ _ hold hbook => ?_
    · rw [hstarted, h.idle _ (Nat.le_refl _)]
      exact BackBook.of_accept (by rw [hnear]; exact hwaiting.readHeld)
        (by rw [hnear]; exact hwaiting.writeHeld) hwaiting.silent
    · rw [started_note _ _ _ _ _ hold]
      exact hbook
  · rw [hsubscribers, hcancelled]
    refine (haccepts.attended h).push ?_ fun _ _ _ hbook => hbook
    exact {
      running := fun _ => ⟨[], .start (by rw [hnear]; exact hwaiting.unread)⟩
      ended := fun hended => absurd hended.symm Bool.false_ne_true }
  · rw [hsubscribers, hhanded, Array.size_push]
    exact fun index hindex => h.idle index (Nat.le_of_succ_le hindex)

/-- What waits after somebody has connected waited before, or is the new connection. -/
theorem mem_waitingAt_join {net : Network} {id listener : ListenerId} {near : SocketId}
    (h : near ∈ waitingAt (net.join id) listener) :
    near ∈ waitingAt net listener ∨ near = net.sockets.size + 1 := by
  by_cases hsame : listener = id
  · subst hsame
    by_cases hin : listener < net.listeners.size
    · rw [Network.waitingAt_join hin, List.mem_append, List.mem_singleton] at h
      exact h
    · rw [Network.waitingAt_join_of_size_le (Nat.le_of_not_lt hin)] at h
      exact .inl h
  · rw [Network.waitingAt_join_of_ne hsame] at h
    exact .inl h

/-- A new connection waits with nothing read, and leaves those alone that wait already. -/
theorem waiting_join (h : exchange.Books) {id : ListenerId} {near : SocketId}
    (hnear : near ∈ waitingAt (exchange.net.join id) exchange.proxy.front ++
      waitingAt (exchange.net.join id) exchange.proxy.back) :
    Waiting (exchange.net.join id) exchange.journal.arrived near := by
  have hcases : near ∈ waitingAt exchange.net exchange.proxy.front ++
      waitingAt exchange.net exchange.proxy.back ∨ near = exchange.net.sockets.size + 1 := by
    rcases List.mem_append.1 hnear with hmem | hmem
    · exact (mem_waitingAt_join hmem).imp_left (List.mem_append_left _)
    · exact (mem_waitingAt_join hmem).imp_left (List.mem_append_right _)
  rcases hcases with hmem | rfl
  · have hsame := Network.socket_join_of_lt (h.roster.near near (Roster.mem_of_waiting hmem)).2 id
    exact (h.waiting near hmem).of_same (by rw [hsame]) (by rw [hsame]) (by rw [hsame])
  · have hpeer : peerOf (exchange.net.sockets.size + 1) = exchange.net.sockets.size := by
      rw [← Network.peerOf_of_even h.roster.honest.paired, Network.peerOf_peerOf]
    have hnew := Network.socket_join_near exchange.net id
    exact {
      unread := by
        rw [hnew, h.fresh _ (Nat.le_succ _)]
        rfl
      silent := by rw [hpeer, h.fresh _ (Nat.le_refl _)]
      readHeld := by rw [hnew]
      writeHeld := by rw [hnew] }

/-- The books after somebody has connected to a listener. -/
theorem of_join (h : exchange.Books) (id : ListenerId) :
    Books ⟨exchange.proxy, exchange.net.join id, note exchange.journal (.join id) exchange.proxy
      exchange.net exchange.proxy (exchange.net.join id)⟩ := by
  -- the sockets that there were stay as they are
  have hold : ∀ near : Nat, near ∈ nearEnds exchange.proxy exchange.net →
      (exchange.net.join id).socket near = exchange.net.socket near :=
    fun near hnear => Network.socket_join_of_lt (h.roster.near near hnear).2 id
  have harrived : ∀ other, exchange.journal.arrived other ++
      arrivedBetween exchange.net (exchange.net.join id) other = exchange.journal.arrived other := by
    intro other
    rw [arrivedBetween_join, List.append_nil]
  have hlogs := h.logs_note (.join id) exchange.proxy (exchange.net.join id) rfl rfl (Nat.le_refl _)
  exact {
    roster := h.roster.of_join id
    fresh := by
      intro other hother
      dsimp only at hother
      rw [Network.size_join] at hother
      simp only [note, harrived]
      exact h.fresh other (Nat.le_of_add_right_le hother)
    log := hlogs.1
    origin := hlogs.2.1
    fits := hlogs.2.2
    publishers := by
      rw [sentBy_note_of_silent _ _ _ rfl]
      simp only [note, harrived]
      exact h.publishers.imp fun other pump hpump hbook =>
        hbook.of_socket_eq (hold _ (Roster.mem_of_front hpump))
    subscribers := by
      dsimp only
      rw [handed_note _ _ _ _ rfl]
      refine h.subscribers.imp fun other pump hpump hbook => ?_
      have hsame := hold _ (Roster.mem_of_back hpump)
      rw [started_note _ _ _ _ _ hpump]
      simp only [note, harrived]
      exact hbook.of_held (by rw [hsame]) (by rw [hsame])
    attended := by
      simp only [note, harrived]
      refine h.attended.imp fun other pump hpump hbook => ?_
      have hnear : pump.stream.socket ∈ nearEnds exchange.proxy exchange.net := Roster.mem_of_back hpump
      have hsame := hold _ hnear
      have hfar : (exchange.net.join id).socket (peerOf pump.stream.socket) =
          exchange.net.socket (peerOf pump.stream.socket) :=
        Network.socket_join_of_lt (Network.peerOf_lt h.roster.honest.paired (h.roster.near _ hnear).2) id
      exact hbook.of_same (by rw [hsame]) (by rw [hsame]; exact fun h => h) (by rw [hfar])
    idle := by
      dsimp only
      rw [handed_note _ _ _ _ rfl]
      exact h.idle
    waiting := by
      simp only [note, harrived]
      exact fun near hnear => h.waiting_join hnear }

/-- The books after the proxy was cancelled. -/
theorem of_cancel (h : exchange.Books) :
    Books ⟨{ exchange.proxy with isCancelled := true }, exchange.net, note exchange.journal .cancel
      exchange.proxy exchange.net { exchange.proxy with isCancelled := true } exchange.net⟩ := by
  have harrived : ∀ other, exchange.journal.arrived other ++
      arrivedBetween exchange.net exchange.net other = exchange.journal.arrived other := by
    intro other
    rw [arrivedBetween_of_socket_eq rfl, List.append_nil]
  have hsame : ({ exchange.proxy with isCancelled := true } : Proxy).subscribers =
    exchange.proxy.subscribers := rfl
  have hlogs := h.logs_note .cancel { exchange.proxy with isCancelled := true } exchange.net rfl rfl
    (Nat.le_refl _)
  exact {
    roster := { h.roster with }
    fresh := by
      simp only [note, harrived]
      exact h.fresh
    log := hlogs.1
    origin := hlogs.2.1
    fits := hlogs.2.2
    publishers := by
      rw [sentBy_note_of_silent _ _ _ rfl]
      simp only [note, harrived]
      exact h.publishers.imp fun other pump hpump hbook => hbook.of_cancel
    subscribers := by
      dsimp only
      rw [handed_note _ _ _ _ hsame]
      refine h.subscribers.imp fun other pump hpump hbook => ?_
      rw [started_note _ _ _ _ _ hpump]
      simp only [note, harrived]
      exact hbook
    attended := by
      simp only [note, harrived]
      exact h.attended.imp fun other pump hpump hbook => hbook.of_cancel
    idle := by
      dsimp only
      rw [handed_note _ _ _ _ hsame]
      exact h.idle
    waiting := by
      simp only [note, harrived]
      exact h.waiting }

end Books

/-! ## Runs -/

/-- Whoever holds a far end uses it without writing, or adds something at the near end. -/
theorem exists_moves_perform (net : Network) (far : SocketId) (deed : Deed) :
    ∃ piece, Moves far net piece (deed.perform net far) := by
  cases deed with
  | write bytes offset =>
      simp only [Deed.perform]
      split
      · rename_i hheld
        split
        · rename_i count after hwrite
          obtain ⟨hopen, -, hdelivers⟩ := Network.delivers_write hwrite
          exact ⟨_, .delivers hdelivers hopen hheld⟩
        · exact ⟨_, .recedes (.refl _ _)⟩
      · exact ⟨_, .recedes (.refl _ _)⟩
  | take => exact ⟨_, .recedes (Network.recedes_take net far)⟩
  | dropWriter => exact ⟨_, .recedes (Network.recedes_dropWriter net far)⟩
  | dropReader => exact ⟨_, .recedes (Network.recedes_dropReader net far)⟩
  | close => exact ⟨_, .recedes (Network.recedes_close net far)⟩

/-- Every event keeps the books. -/
theorem books_step {exchange : Exchange} (h : exchange.Books) (event : Event) :
    (exchange.step event).Books := by
  unfold step
  split
  · exact h
  · rename_i proxy' net' hnext
    cases event with
    | acceptPublisher => exact h.of_acceptPublisher hnext
    | acceptSubscriber => exact h.of_acceptSubscriber hnext
    | pumpPublisher index => exact h.of_pumpPublisher hnext
    | pumpSubscriber index => exact h.of_pumpSubscriber hnext
    | cancel =>
        cases hnext
        exact h.of_cancel
    | join id =>
        cases hnext
        exact h.of_join id
    | far connection deed =>
        cases hnext
        obtain ⟨piece, hmoves⟩ := exists_moves_perform exchange.net (2 * connection) deed
        exact h.of_far deed hmoves

/-- The books are right after every run. -/
theorem books_run {exchange : Exchange} (h : exchange.Books) (events : List Event) :
    (exchange.run events).Books :=
  List.foldlRecOn (motive := Books) events step h fun _ h event _ => books_step h event

/-- The books of a proxy that was just bound are empty. -/
theorem books_start {net net' : Network} {front back : Url} {proxy : Proxy} (hhonest : net.Honest)
    (h : Proxy.bind net front back = (.ok proxy, net')) : (start proxy net').Books := by
  obtain ⟨frontId, between, backId, hfront, hback, rfl⟩ := Proxy.bind_eq_ok_iff.1 h
  obtain ⟨hfrontId, hsockets, first, hfirst, -, hlisteners⟩ := Network.bind_eq_ok hfront
  obtain ⟨hbackId, hsockets', second, hsecond, -, hlisteners'⟩ := Network.bind_eq_ok hback
  rw [hlisteners, Array.size_push] at hbackId
  have hsize : net'.listeners.size = net.listeners.size + 2 := by
    rw [hlisteners', hlisteners, Array.size_push, Array.size_push]
  have hfrontId : @Eq Nat frontId net.listeners.size := hfrontId
  have hbackId : @Eq Nat backId (net.listeners.size + 1) := hbackId
  -- both listeners are new, so nobody waits at them yet
  have hnone : nearEnds { front := frontId, back := backId } net' = [] := by
    have hat : net'.listener? frontId = some first ∧ net'.listener? backId = some second := by
      refine ⟨?_, ?_⟩
      · rw [Network.listener?, hlisteners', hlisteners, hfrontId,
          Array.getElem?_push_lt (by rw [Array.size_push]; exact Nat.lt_succ_self _), Array.getElem_push_eq]
      · rw [Network.listener?, hlisteners', hlisteners, hbackId, ← Array.size_push first,
          Array.getElem?_push_size]
    have hwaiting : waitingAt net' frontId = [] ∧ waitingAt net' backId = [] := by
      simp only [waitingAt, hat, Option.map_some, Option.getD_some, hfirst, hsecond, and_self]
    simp only [nearEnds, hwaiting]
    rfl
  exact {
    roster := {
      honest := hhonest.of_sockets (hsockets'.trans hsockets)
      apart := by
        intro heq
        have heq : @Eq Nat frontId backId := heq
        omega
      front := by
        show @LT.lt Nat _ frontId net'.listeners.size
        rw [hsize]
        omega
      back := by
        show @LT.lt Nat _ backId net'.listeners.size
        rw [hsize]
        omega
      distinct := by
        show (nearEnds { front := frontId, back := backId } net').Nodup
        rw [hnone]
        exact List.nodup_nil
      near := by
        show ∀ id : Nat, id ∈ nearEnds { front := frontId, back := backId } net' → _
        rw [hnone]
        exact fun id hid => absurd hid List.not_mem_nil }
    fresh := fun _ _ => rfl
    log := rfl
    origin := fun entry hentry => absurd hentry List.not_mem_nil
    fits := fun entry hentry => absurd hentry List.not_mem_nil
    publishers := fun _ _ hfound => by cases hfound
    subscribers := fun _ _ hfound => by cases hfound
    attended := fun _ _ hfound => by cases hfound
    idle := fun _ _ => rfl
    waiting := by
      intro id hid
      have hmem : id ∈ nearEnds { front := frontId, back := backId } net' := by
        rw [nearEnds, List.append_assoc]
        exact List.mem_append_right _ hid
      rw [hnone] at hmem
      cases hmem }

end Exchange

end DeviceBus
