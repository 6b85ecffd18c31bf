import DeviceBus.Proofs.Device.Endpoints

/-!
# Stopping and starting again

A subscriber may stop to receive and start again on the same connection, as often as it likes and at any
moment: between two reads, in the middle of a frame, or with whole frames read and not yet handed on.  Bytes
go on arriving in pieces all the while.  This module follows one connection through all of that and keeps
account of the bodies that each of the receive loops has consumed.

* `ReceiveLoop.consumes_of_step`: the body that a step of a loop consumes is the first one that is left.
* `Reception`: a subscriber on one connection, with what has arrived and what its loops have consumed.
* `Reception.InOrder`, `Reception.inOrder_step`: whoever has the reader has all that is not consumed yet.
* `Reception.takes_next`: a loop that goes on consumes the first body that is left.
* `Reception.stopping_loses_nothing`: the bodies of all loops, one after the other, are those of the stream.
-/

namespace DeviceBus

variable {η : Type}

namespace ReceiveLoop

section Steps

variable {loop : ReceiveLoop η} {subscription : Subscription η} {behaviour : Behaviour η}
  {stopped : Bool} {net : Network} {next : Step η} {arrived : List UInt8} {bodies : List ByteArray}

/-- The body that a step consumes is the first one that was not consumed before, and a loop that still has its
reader afterwards has everything behind it. -/
theorem consumes_of_step (hreads : loop.stream.Reads net arrived bodies)
    (hfits : ∀ body ∈ bodies, body.size ≤ Frame.maxLength)
    (hstep : loop.step subscription behaviour stopped net = some next) :
    (∀ body, loop.taken stopped net = some body →
        body.size ≤ Frame.maxLength ∧ bodies ++ [body] <+: Frame.complete arrived) ∧
      (next.loop.KeepsReader →
        next.loop.stream.Reads next.net arrived (bodies ++ (loop.taken stopped net).toList)) := by
  obtain ⟨hended, ⟨hcancelled, rfl⟩ | ⟨hrunning, yield, stream, after, hread, rfl⟩⟩ := step_cases hstep
  · rw [taken_of_cancelled hcancelled, Option.toList_none, List.append_nil]
    refine ⟨fun _ htaken => ?_, fun _ => hreads⟩
    cases htaken
  · rw [taken_of_read hended hrunning hread]
    have hstepped := Stream.stepped_step hreads.live
    rw [hread] at hstepped
    cases hstepped with
    | hungry live socket same recedes =>
        refine ⟨fun _ htaken => ?_, fun _ => ?_⟩
        · cases htaken
        · simpa [react, Frame.Yield.body?] using hreads.of_hungry live same
    | @frame body stream live socket fits split =>
        refine ⟨fun taken htaken => ?_, fun hkeeps => ?_⟩
        · obtain rfl := Option.some.inj htaken
          refine ⟨fits, ?_⟩
          rw [hreads.complete_eq hfits, split, Frame.complete_append_frame fits,
            List.prefix_append_right_inj]
          exact ⟨_, rfl⟩
        · cases hcrash : (subscription.deliver behaviour loop.target body).crash with
          | none => simpa [react, hcrash, Frame.Yield.body?] using hreads.of_frame live split
          | some reason => simp [react, KeepsReader, hcrash] at hkeeps
    | ends yields isOver socket recedes noFrame cause =>
        rcases yields with rfl | ⟨fault, rfl⟩
        · exact ⟨fun _ htaken => (by cases htaken), fun hkeeps => (by cases hkeeps)⟩
        · exact ⟨fun _ htaken => (by cases htaken), fun hkeeps => (by cases hkeeps)⟩

theorem socket_of_step (hstep : loop.step subscription behaviour stopped net = some next) :
    next.loop.stream.socket = loop.stream.socket ∧ next.net.sockets.size = net.sockets.size := by
  obtain ⟨-, ⟨-, rfl⟩ | ⟨-, yield, stream, after, hread, rfl⟩⟩ := step_cases hstep
  · exact ⟨rfl, rfl⟩
  · have hsocket := (Stream.step_network hread).1
    have hsize := (Stream.recedes_step hread).size
    cases yield with
    | hungry => exact ⟨hsocket, hsize⟩
    | finished => exact ⟨hsocket, hsize⟩
    | failed fault => exact ⟨hsocket, hsize⟩
    | frame body =>
        refine ⟨hsocket, ?_⟩
        simp only [react]
        split
        · rw [(Network.recedes_dropReader _ _).size, hsize]
        · exact hsize

end Steps

end ReceiveLoop

namespace Subscriber

/-- What starting to receive comes to: it is refused, or the reader goes to a new loop. -/
theorem arm_cases (subscriber : Subscriber η) (target : Target η) (stopped : Bool) :
    (∃ error, subscriber.arm target stopped = (.error error, subscriber)) ∨
      ∃ stream, subscriber.reader = some stream ∧ subscriber.arm target stopped =
        (.ok (), { subscriber with reader := none, receive := some { stream, target } }) := by
  unfold arm
  split
  · exact .inl ⟨_, rfl⟩
  · split
    · exact .inl ⟨_, rfl⟩
    · rename_i stream hreader
      exact .inr ⟨stream, hreader, rfl⟩

/-- What stopping comes to: there was no loop, or its reader comes back, or the connection is lost. -/
theorem stop_cases {subscriber : Subscriber η} (h : subscriber.Coherent) (net : Network) :
    subscriber.stop net = (.ok .canceled, subscriber, net) ∨
      (∃ loop, subscriber.receive = some loop ∧ loop.KeepsReader ∧ subscriber.stop net =
        (.ok .canceled, { subscriber with receive := none, reader := some loop.stream }, net)) ∨
      ((subscriber.stop net).2.2.sockets.size = net.sockets.size ∧
        (subscriber.stop net).2.1.reader = none ∧ (subscriber.stop net).2.1.receive = none) := by
  unfold stop
  split
  · exact .inl rfl
  · rename_i loop hloop
    have hreader := h.reader_of_receive hloop
    have hlose : ∀ after, (({ subscriber with receive := none }).lose after).2.sockets.size =
        after.sockets.size := by
      intro after
      unfold lose dropLink
      dsimp only
      split
      · exact (Network.recedes_dropWriter _ _).size
      · rfl
    dsimp only
    split
    · rename_i hkeeps
      exact .inr (.inl ⟨loop, hloop, hkeeps, rfl⟩)
    · refine .inr (.inr ⟨?_, hreader, rfl⟩)
      rw [hlose, (Network.recedes_dropReader _ _).size]
    · exact .inr (.inr ⟨hlose net, hreader, rfl⟩)

end Subscriber

/-! ## A subscriber on one connection -/

/-- A subscriber on one connection. -/
structure Reception (η : Type) where
  subscriber : Subscriber η
  net : Network
  /-- the socket of the connection -/
  socket : SocketId
  /-- every byte that has arrived at it -/
  arrived : List UInt8 := []
  /-- the bodies that each receive loop has consumed, the latest loop first -/
  loops : List (List ByteArray) := []
  /-- what stopping has answered so far -/
  stops : List (Except BusError ReceiveOutcome) := []

namespace Reception

/-- What happens to a subscriber on a connection: traffic, a call of its owner, the wish to stop that reaches
the loop before it is collected, or a step of the loop. -/
inductive Event (η : Type) where
  | traffic (traffic : Traffic)
  | arm (target : Target η) (stopped : Bool)
  | cancel
  | stop
  | task (behaviour : Behaviour η) (stopped : Bool)
  | addTopic (head method : String) (handler : η)
  | subscribePrefix (text : String)

/-- A subscriber that has just dialled. -/
def start (subscriber : Subscriber η) (net : Network) : Reception η :=
  { subscriber := (subscriber.dial net).2.1
    net := (subscriber.dial net).2.2
    socket := net.sockets.size }

/-- Enter a body that was consumed, if there is one, for the latest loop. -/
def enter : Option ByteArray → List (List ByteArray) → List (List ByteArray)
  | none, loops => loops
  | some body, [] => [[body]]
  | some body, bodies :: earlier => (bodies ++ [body]) :: earlier

/-- All bodies that were consumed, by one loop after the other. -/
def consumed (reception : Reception η) : List ByteArray := reception.loops.reverse.flatten

/-- A step of a receive loop. -/
def work (reception : Reception η) (behaviour : Behaviour η) (stopped : Bool) (loop : ReceiveLoop η) :
    Reception η :=
  match loop.step reception.subscriber.subscription behaviour stopped reception.net with
  | none => reception
  | some next =>
      { reception with
        subscriber :=
          { reception.subscriber with receive := some next.loop, subscription := next.subscription }
        net := next.net
        loops := enter (loop.taken stopped reception.net) reception.loops }

/-- One event. -/
def step (reception : Reception η) : Event η → Reception η
  | .traffic traffic =>
      { reception with
        net := reception.net.carry reception.socket traffic
        arrived := reception.arrived ++ reception.net.brought reception.socket traffic }
  | .arm target stopped =>
      let (result, subscriber) := reception.subscriber.arm target stopped
      { reception with
        subscriber
        loops := if result.isOk then [] :: reception.loops else reception.loops }
  | .cancel => { reception with subscriber := reception.subscriber.cancel }
  | .stop =>
      let (result, subscriber, net) := reception.subscriber.stop reception.net
      { reception with subscriber, net, stops := reception.stops ++ [result] }
  | .task behaviour stopped =>
      match reception.subscriber.receive with
      | none => reception
      | some loop => reception.work behaviour stopped loop
  | .addTopic head method handler =>
      { reception with subscriber := (reception.subscriber.addTopic head method handler).2 }
  | .subscribePrefix text => { reception with subscriber := reception.subscriber.subscribePrefix text }

/-- Some events, one after the other. -/
def run (reception : Reception η) (events : List (Event η)) : Reception η := events.foldl step reception

theorem flatten_enter (taken : Option ByteArray) (loops : List (List ByteArray)) :
    (enter taken loops).reverse.flatten = loops.reverse.flatten ++ taken.toList := by
  cases taken with
  | none => simp [enter]
  | some body => cases loops <;> simp [enter]

/-- Whoever has the reader, the subscriber or its loop, reads from the connection and has everything that was
not consumed yet; and the subscriber is connected as long as it was only stopped by its own wish. -/
structure InOrder (reception : Reception η) : Prop where
  coherent : reception.subscriber.Coherent
  exists_socket : reception.socket < reception.net.sockets.size
  reader : ∀ stream, reception.subscriber.reader = some stream → stream.socket = reception.socket ∧
    stream.Reads reception.net reception.arrived reception.consumed
  receive : ∀ loop, reception.subscriber.receive = some loop → loop.stream.socket = reception.socket ∧
    (loop.KeepsReader → loop.stream.Reads reception.net reception.arrived reception.consumed)
  fits : ∀ body ∈ reception.consumed, body.size ≤ Frame.maxLength
  begins : reception.consumed <+: Frame.complete reception.arrived
  connected : (∀ result ∈ reception.stops, result = .ok .canceled) →
    reception.subscriber.state = .connected

theorem inOrder_start {subscriber : Subscriber η} {net : Network} (hcoherent : subscriber.Coherent)
    (hdial : (subscriber.dial net).1 = .ok ()) : InOrder (start subscriber net) := by
  have hafter := Subscriber.coherent_dial hcoherent net
  have hreceive := Subscriber.receive_dial subscriber net
  obtain ⟨id, hlink, hreader, hstate, hnet⟩ : ∃ id,
      (subscriber.dial net).2.1.link = some net.sockets.size ∧
      (subscriber.dial net).2.1.reader = some { socket := net.sockets.size } ∧
      (subscriber.dial net).2.1.state = .connected ∧ (subscriber.dial net).2.2 = net.join id := by
    unfold Subscriber.dial at hdial ⊢
    split at hdial
    · cases hdial
    · rename_i hopened
      rw [if_neg hopened]
      split at hdial
      · cases hdial
      · rename_i socket after hconnect
        obtain ⟨id, -, rfl, rfl⟩ := Network.connect_eq_ok hconnect
        exact ⟨id, rfl, rfl, rfl, rfl⟩
  have hnone : (subscriber.dial net).2.1.receive = none := by
    have hexclusive := hafter.connected hstate
    rw [hreader] at hexclusive
    simpa using hexclusive
  exact {
    coherent := hafter
    exists_socket := by
      show net.sockets.size < (subscriber.dial net).2.2.sockets.size
      rw [hnet, Network.size_join]
      omega
    reader := fun stream hstream => by
      obtain rfl := Option.some.inj (hreader.symm.trans hstream)
      refine ⟨rfl, Stream.Reads.start ?_⟩
      show [] = bytesOf ((subscriber.dial net).2.2.socket net.sockets.size).incoming
      rw [hnet, Network.socket_join_far, bytesOf_empty]
    receive := fun loop hloop => by
      cases hnone.symm.trans hloop
    fits := by simp [consumed, start]
    begins := List.nil_prefix
    connected := fun _ => hstate }

namespace InOrder

variable {reception : Reception η}

/-- What changes nothing but filters and topics. -/
theorem of_same (h : InOrder reception) {subscriber : Subscriber η}
    (hstate : subscriber.state = reception.subscriber.state)
    (hlink : subscriber.link = reception.subscriber.link)
    (hreader : subscriber.reader = reception.subscriber.reader)
    (hreceive : subscriber.receive = reception.subscriber.receive) :
    InOrder { reception with subscriber } where
  coherent := h.coherent.congr hstate hlink hreader (congrArg Option.isSome hreceive)
  exists_socket := h.exists_socket
  reader stream hstream := h.reader stream (hreader.symm.trans hstream)
  receive loop hloop := h.receive loop (hreceive.symm.trans hloop)
  fits := h.fits
  begins := h.begins
  connected hstops := hstate.trans (h.connected hstops)

theorem traffic (h : InOrder reception) (traffic : Traffic) :
    InOrder (reception.step (.traffic traffic)) where
  coherent := h.coherent
  exists_socket := Network.lt_size_carry h.exists_socket traffic
  reader stream hstream := by
    obtain ⟨hsocket, hreads⟩ := h.reader stream hstream
    refine ⟨hsocket, ?_⟩
    have hin : stream.socket < reception.net.sockets.size := hsocket ▸ h.exists_socket
    have hcarried := hreads.carry hin traffic
    rw [hsocket] at hcarried
    exact hcarried
  receive loop hloop := by
    obtain ⟨hsocket, hreads⟩ := h.receive loop hloop
    refine ⟨hsocket, fun hkeeps => ?_⟩
    have hin : loop.stream.socket < reception.net.sockets.size := hsocket ▸ h.exists_socket
    have hcarried := (hreads hkeeps).carry hin traffic
    rw [hsocket] at hcarried
    exact hcarried
  fits := h.fits
  begins := h.begins.trans (Frame.complete_begins _ _)
  connected := h.connected

/-- Starting a loop gives the reader to it as it is. -/
theorem arm (h : InOrder reception) (target : Target η) (stopped : Bool) :
    InOrder (reception.step (.arm target stopped)) := by
  have hcoherent := Subscriber.coherent_arm h.coherent target stopped
  rcases Subscriber.arm_cases reception.subscriber target stopped with
    ⟨error, harm⟩ | ⟨stream, hreader, harm⟩
  · rw [step, harm]
    exact h
  · rw [harm] at hcoherent
    rw [step, harm]
    -- a loop that has just started has consumed nothing
    have hconsumed : ([] :: reception.loops).reverse.flatten = reception.consumed := by
      simp [consumed]
    exact {
      coherent := hcoherent
      exists_socket := h.exists_socket
      reader := fun _ hnone => by cases hnone
      receive := fun loop hloop => by
        obtain rfl := Option.some.inj hloop
        obtain ⟨hsocket, hreads⟩ := h.reader stream hreader
        refine ⟨hsocket, fun _ => ?_⟩
        show stream.Reads _ _ ([] :: reception.loops).reverse.flatten
        rw [hconsumed]
        exact hreads
      fits := by
        show ∀ body ∈ ([] :: reception.loops).reverse.flatten, _
        rw [hconsumed]
        exact h.fits
      begins := by
        show ([] :: reception.loops).reverse.flatten <+: _
        rw [hconsumed]
        exact h.begins
      connected := h.connected }

theorem cancel (h : InOrder reception) : InOrder (reception.step .cancel) where
  coherent := h.coherent.congr rfl rfl rfl (Option.isSome_map ..)
  exists_socket := h.exists_socket
  reader := h.reader
  receive loop hloop := by
    obtain ⟨old, hold, rfl⟩ := Option.map_eq_some_iff.1 hloop
    exact h.receive old hold
  fits := h.fits
  begins := h.begins
  connected := h.connected

/-- Stopping a loop gives its reader back as it is, or the connection is lost, and stopping says so. -/
theorem stop (h : InOrder reception) : InOrder (reception.step .stop) := by
  have hcoherent := Subscriber.coherent_stop h.coherent reception.net
  have hstate := h.coherent.state_stop_iff reception.net
  have hstops : (∀ result ∈ reception.stops ++ [(reception.subscriber.stop reception.net).1],
      result = .ok .canceled) → (reception.subscriber.stop reception.net).2.1.state = .connected := by
    intro hall
    refine hstate.2 ⟨h.connected fun result hresult => hall result (List.mem_append_left _ hresult), ?_⟩
    exact .inr (hall _ (by simp))
  rcases Subscriber.stop_cases h.coherent reception.net with
    hstop | ⟨loop, hloop, hkeeps, hstop⟩ | ⟨hsize, hreader, hreceive⟩
  · rw [hstop] at hstops
    rw [step, hstop]
    exact { h with connected := hstops }
  · rw [hstop] at hcoherent hstops
    rw [step, hstop]
    obtain ⟨hsocket, hreads⟩ := h.receive loop hloop
    exact {
      coherent := hcoherent
      exists_socket := h.exists_socket
      reader := fun stream hstream => by
        obtain rfl := Option.some.inj hstream
        exact ⟨hsocket, hreads hkeeps⟩
      receive := fun _ hnone => by cases hnone
      fits := h.fits
      begins := h.begins
      connected := hstops }
  · exact {
      coherent := hcoherent
      exists_socket := hsize ▸ h.exists_socket
      reader := fun _ hsome => by cases hreader.symm.trans hsome
      receive := fun _ hsome => by cases hreceive.symm.trans hsome
      fits := h.fits
      begins := h.begins
      connected := hstops }

/-- A step of a loop consumes the first body that is left, or none. -/
theorem work (h : InOrder reception) {loop : ReceiveLoop η}
    (hloop : reception.subscriber.receive = some loop) (behaviour : Behaviour η) (stopped : Bool) :
    InOrder (reception.work behaviour stopped loop) := by
  obtain ⟨hsocket, hreads⟩ := h.receive loop hloop
  rw [Reception.work]
  split
  · exact h
  · rename_i next hstep
    have hgoing := hreads (ReceiveLoop.keepsReader_of_going (ReceiveLoop.ended_of_step hstep))
    obtain ⟨hsame, hsize⟩ := ReceiveLoop.socket_of_step hstep
    have hconsumed := flatten_enter (loop.taken stopped reception.net) reception.loops
    obtain ⟨htaken, hafter⟩ := ReceiveLoop.consumes_of_step hgoing h.fits hstep
    exact {
      coherent := h.coherent.congr rfl rfl rfl (by rw [hloop]; rfl)
      exists_socket := hsize ▸ h.exists_socket
      reader := fun stream hstream => by
        cases (h.coherent.reader_of_receive hloop).symm.trans hstream
      receive := fun loop' hloop' => by
        obtain rfl := Option.some.inj hloop'
        refine ⟨hsame.trans hsocket, fun hkeeps => ?_⟩
        show next.loop.stream.Reads _ _ (enter _ _).reverse.flatten
        rw [hconsumed]
        exact hafter hkeeps
      fits := by
        show ∀ body ∈ (enter _ _).reverse.flatten, _
        rw [hconsumed]
        intro body hbody
        rcases List.mem_append.1 hbody with hold | hnew
        · exact h.fits body hold
        · exact (htaken body (Option.mem_toList.1 hnew)).1
      begins := by
        show (enter _ _).reverse.flatten <+: _
        rw [hconsumed]
        cases hfound : loop.taken stopped reception.net with
        | none =>
            rw [Option.toList_none, List.append_nil]
            exact h.begins
        | some body =>
            exact (htaken body hfound).2
      connected := h.connected }

end InOrder

/-- Whatever happens, everything stays in order. -/
theorem inOrder_step {reception : Reception η} (h : InOrder reception) (event : Event η) :
    InOrder (reception.step event) := by
  cases event with
  | traffic traffic => exact h.traffic traffic
  | arm target stopped => exact h.arm target stopped
  | cancel => exact h.cancel
  | stop => exact h.stop
  | task behaviour stopped =>
      rw [step]
      split
      · exact h
      · rename_i loop hloop
        exact h.work hloop behaviour stopped
  | addTopic head method handler =>
      rw [step]
      unfold Subscriber.addTopic
      split
      · exact h
      · exact h.of_same rfl rfl rfl rfl
  | subscribePrefix text => exact h.of_same rfl rfl rfl rfl

theorem inOrder_run {reception : Reception η} (h : InOrder reception) (events : List (Event η)) :
    InOrder (reception.run events) :=
  List.foldlRecOn (motive := InOrder) events step h fun _ h event _ => inOrder_step h event


theorem run_cons (reception : Reception η) (event : Event η) (events : List (Event η)) :
    reception.run (event :: events) = (reception.step event).run events := rfl

/-- The bodies that are left begin with the first one that was not consumed. -/
theorem InOrder.complete_unread {reception : Reception η} (h : InOrder reception) {stream : Stream}
    (hreads : stream.Reads reception.net reception.arrived reception.consumed) {body : ByteArray}
    (hbody : (Frame.complete reception.arrived)[reception.consumed.length]? = some body) :
    ∃ rest, Frame.complete (stream.unread reception.net) = body :: rest := by
  rw [hreads.complete_eq h.fits, List.getElem?_append_right (Nat.le_refl _), Nat.sub_self] at hbody
  cases hleft : Frame.complete (stream.unread reception.net) with
  | nil => simp [hleft] at hbody
  | cons first rest =>
      rw [hleft, List.getElem?_cons_zero] at hbody
      exact ⟨rest, by rw [Option.some.inj hbody]⟩

/-- A step of a loop that is to go on, from the step of its stream. -/
theorem step_task {reception : Reception η} {loop : ReceiveLoop η}
    (hloop : reception.subscriber.receive = some loop) (hended : loop.ended = none)
    (hcancelled : loop.isCancelled = false) (behaviour : Behaviour η) {yield : Frame.Yield}
    {stream : Stream} {after : Network}
    (hread : loop.stream.step reception.net = some (yield, stream, after)) :
    let next := loop.react reception.subscriber.subscription behaviour stream after yield
    reception.step (.task behaviour false) =
      { reception with
        subscriber :=
          { reception.subscriber with receive := some next.loop, subscription := next.subscription }
        net := next.net
        loops := enter yield.body? reception.loops } := by
  have hrunning : (loop.isCancelled || false) = false := by rw [hcancelled]; rfl
  have hstep : loop.step reception.subscriber.subscription behaviour false reception.net =
      some (loop.react reception.subscriber.subscription behaviour stream after yield) := by
    rw [ReceiveLoop.step_eq, hended, hrunning, hread]
    rfl
  rw [step, hloop]
  dsimp only
  rw [work, hstep, ReceiveLoop.taken_of_read hended hrunning hread]

/-- A loop that goes on consumes the first body that is left, after the few steps that its stream needs. -/
theorem takes_next_within (bound : Nat) {reception : Reception η} (h : InOrder reception)
    {loop : ReceiveLoop η} (hloop : reception.subscriber.receive = some loop) (hended : loop.ended = none)
    (hcancelled : loop.isCancelled = false) (hbound : loop.stream.stepsBefore ≤ bound) {body : ByteArray}
    (hbody : (Frame.complete reception.arrived)[reception.consumed.length]? = some body)
    (behaviour : Behaviour η) :
    ∃ count ≤ bound + 1, (reception.run (List.replicate count (.task behaviour false))).loops =
      enter (some body) reception.loops := by
  -- induction on the steps that the stream needs; one that cuts off nothing needs fewer afterwards
  induction bound using Nat.strongRecOn generalizing reception loop with
  | _ bound ih =>
      have hreads := (h.receive loop hloop).2 (ReceiveLoop.keepsReader_of_going hended)
      obtain ⟨rest, hleft⟩ := h.complete_unread hreads hbody
      have hafter := inOrder_step h (.task behaviour false)
      rcases Stream.step_of_complete hreads.live hleft with
        ⟨stream, hread⟩ | ⟨stream, after, hread, hcloser⟩
      · refine ⟨1, by omega, ?_⟩
        rw [List.replicate_one, run_cons, step_task hloop hended hcancelled behaviour hread]
        rfl
      · rw [step_task hloop hended hcancelled behaviour hread] at hafter
        obtain ⟨count, hcount, hloops⟩ :=
          ih stream.stepsBefore (by omega) hafter rfl hended hcancelled (Nat.le_refl _) hbody
        refine ⟨count + 1, by omega, ?_⟩
        rw [List.replicate_succ, run_cons, step_task hloop hended hcancelled behaviour hread]
        exact hloops

/-- A loop that goes on consumes the first body that is left within three steps. -/
theorem takes_next {reception : Reception η} (h : InOrder reception) {loop : ReceiveLoop η}
    (hloop : reception.subscriber.receive = some loop) (hended : loop.ended = none)
    (hcancelled : loop.isCancelled = false) {body : ByteArray}
    (hbody : (Frame.complete reception.arrived)[reception.consumed.length]? = some body)
    (behaviour : Behaviour η) :
    ∃ count ≤ 3, (reception.run (List.replicate count (.task behaviour false))).loops =
      enter (some body) reception.loops :=
  takes_next_within 2 h hloop hended hcancelled loop.stream.stepsBefore_le hbody behaviour

/-- The next loop begins with the first body that is left. -/
theorem next_loop_takes_next {reception : Reception η} (h : InOrder reception)
    (hstate : reception.subscriber.state = .connected) (hidle : reception.subscriber.receive = none)
    (target : Target η) {body : ByteArray}
    (hbody : (Frame.complete reception.arrived)[reception.consumed.length]? = some body)
    (behaviour : Behaviour η) :
    ∃ count ≤ 3,
      (reception.run (.arm target false :: List.replicate count (.task behaviour false))).loops =
        [body] :: reception.loops := by
  have harmed := h.arm target false
  have hok := (h.coherent.arm_eq_ok_iff target false).2 ⟨hstate, hidle⟩
  rcases Subscriber.arm_cases reception.subscriber target false with
    ⟨error, harm⟩ | ⟨stream, hreader, harm⟩
  · rw [harm] at hok
    cases hok
  · rw [step, harm] at harmed
    have hconsumed : ([] :: reception.loops).reverse.flatten.length = reception.consumed.length := by
      simp [consumed]
    obtain ⟨count, hcount, hloops⟩ := takes_next harmed rfl rfl rfl
      (by rw [← hbody, ← hconsumed]; rfl) behaviour
    refine ⟨count, hcount, ?_⟩
    rw [run_cons, step, harm]
    exact hloops

/-- **Stopping loses nothing.**  Let a subscriber of any past dial, and let bytes arrive in any pieces while
it starts and stops to receive at any moments.  Then at every moment:

* the bodies that its loops have consumed, one loop after the other, are the first ones of the stream;
* whoever has the reader, the bytes that have arrived are the frames of those bodies and what is unread;
* the next step of a loop hands on nothing but the body that it consumes, and that is the first body of the
  stream that was not consumed before;
* as long as stopping has always answered that the loop was cancelled, the subscriber is connected, and it has
  the reader or its loop does;
* a loop that was not told to stop, and a new loop where there is none, consumes the first body that is left
  within three steps. -/
theorem stopping_loses_nothing {url : Url} {signal : Option String} {past : List (Subscriber.Event η)}
    {net : Network}
    (hdial : (((Subscriber.Life.create url signal).run past).subscriber.dial net).1 = .ok ())
    (events : List (Event η)) :
    let reception := (start ((Subscriber.Life.create url signal).run past).subscriber net).run events
    let subscriber := reception.subscriber
    let left := (Frame.complete reception.arrived)[reception.consumed.length]?
    reception.consumed <+: Frame.complete reception.arrived ∧
    (∀ stream, (subscriber.reader = some stream ∨
        ∃ loop, subscriber.receive = some loop ∧ loop.KeepsReader ∧ loop.stream = stream) →
      reception.arrived = reception.consumed.flatMap Frame.bytes ++ stream.unread reception.net) ∧
    (∀ loop behaviour stopped next, subscriber.receive = some loop →
      loop.step subscriber.subscription behaviour stopped reception.net = some next →
        next.call = (loop.taken stopped reception.net).bind (fun body =>
          (subscriber.subscription.deliver behaviour loop.target body).call) ∧
        ∀ body, loop.taken stopped reception.net = some body → left = some body) ∧
    ((∀ result ∈ reception.stops, result = .ok .canceled) →
      subscriber.state = .connected ∧ subscriber.reader.isSome = !subscriber.receive.isSome) ∧
    (∀ body behaviour, left = some body →
      (∀ loop, subscriber.receive = some loop → loop.ended = none → loop.isCancelled = false →
        ∃ count ≤ 3, (reception.run (List.replicate count (.task behaviour false))).loops =
          enter (some body) reception.loops) ∧
      (∀ target, subscriber.state = .connected → subscriber.receive = none →
        ∃ count ≤ 3,
          (reception.run (.arm target false :: List.replicate count (.task behaviour false))).loops =
            [body] :: reception.loops)) := by
  intro reception subscriber left
  have hcoherent := (Subscriber.Life.sound_run url signal past).coherent
  have h : InOrder reception := inOrder_run (inOrder_start hcoherent hdial) events
  refine ⟨h.begins, ?_, ?_, ?_, ?_⟩
  · rintro stream (hreader | ⟨loop, hloop, hkeeps, rfl⟩)
    · exact (h.reader stream hreader).2.account
    · exact ((h.receive loop hloop).2 hkeeps).account
  · intro loop behaviour stopped next hloop hstep
    refine ⟨ReceiveLoop.call_of_step hstep, fun body htaken => ?_⟩
    have hgoing := ReceiveLoop.keepsReader_of_going (ReceiveLoop.ended_of_step hstep)
    have hreads := (h.receive loop hloop).2 hgoing
    obtain ⟨rest, hrest⟩ := ((ReceiveLoop.consumes_of_step hreads h.fits hstep).1 body htaken).2
    show (Frame.complete reception.arrived)[reception.consumed.length]? = some body
    rw [← hrest]
    simp
  · intro hstops
    exact ⟨h.connected hstops, h.coherent.connected (h.connected hstops)⟩
  · intro body behaviour hleft
    refine ⟨fun loop hloop hended hcancelled => ?_, fun target hstate hidle => ?_⟩
    · exact takes_next h hloop hended hcancelled hleft behaviour
    · exact next_loop_takes_next h hstate hidle target hleft behaviour

/-- Somebody listens at the back, by a path and on the network. -/
def backNetwork : Network :=
  let net : Network := { files := .fresh, routes := Network.loopback }
  ((net.bind (.ipc "/back")).2.bind (.tcp "127.0.0.1:5001")).2

/-- A subscriber that can dial. -/
def readySubscriber : Subscriber Nat :=
  ((Subscriber.Life.create (.tcp "localhost:5001") none).run
    [.call .openUp false backNetwork]).subscriber

/-- Two stops, the first one in the middle of a frame and the second one with a frame in the buffer. -/
def stopsInside (behaviour : Behaviour Nat) : List (Event Nat) :=
  [.subscribePrefix "a", .traffic (.bytes ⟨#[0, 0, 0, 5, 97, 47]⟩), .arm (.direct 7) false,
    .task behaviour false, .task behaviour false, .stop,
    .traffic (.bytes ⟨#[109, 0, 1, 0, 0, 0, 1, 98, 0, 0, 0]⟩), .arm (.direct 8) false,
    .task behaviour false, .task behaviour false, .cancel, .task behaviour false, .stop]

/-- The subscriber after both stops. -/
def stoppedInside (behaviour : Behaviour Nat) : Reception Nat :=
  (start readySubscriber backNetwork).run (stopsInside behaviour)

theorem stopping_loses_nothing_inside :
    let behaviour : Behaviour Nat := fun _ _ => .finish .succeeded
    let reception := stoppedInside behaviour
    (readySubscriber.dial backNetwork).1 = .ok () ∧
      reception.loops = [[⟨#[97, 47, 109, 0, 1]⟩], []] ∧
      reception.consumed <+: Frame.complete reception.arrived ∧
      reception.subscriber.state = .connected ∧
      ∃ count ≤ 3,
        (reception.run (.arm .routed false :: List.replicate count (.task behaviour false))).loops =
          [⟨#[98]⟩] :: reception.loops := by
  intro behaviour
  have hdial : (readySubscriber.dial backNetwork).1 = .ok () := by decide +kernel
  obtain ⟨hbegins, -, -, hconnected, hnext⟩ := stopping_loses_nothing hdial (stopsInside behaviour)
  rw [← readySubscriber, ← stoppedInside] at hbegins hconnected hnext
  have hloops : (stoppedInside behaviour).loops = [[⟨#[97, 47, 109, 0, 1]⟩], []] := by decide +kernel
  have hstate := (hconnected (by decide +kernel)).1
  have hidle : (stoppedInside behaviour).subscriber.receive = none := by decide +kernel
  have harrived : (stoppedInside behaviour).arrived =
      Frame.bytes ⟨#[97, 47, 109, 0, 1]⟩ ++ (Frame.bytes ⟨#[98]⟩ ++ [0, 0, 0]) := by decide +kernel
  have hleft : (Frame.complete (stoppedInside behaviour).arrived)[
      (stoppedInside behaviour).consumed.length]? = some ⟨#[98]⟩ := by
    rw [harrived, Frame.complete_append_frame (by decide), Frame.complete_append_frame (by decide),
      consumed, hloops]
    rfl
  exact ⟨hdial, hloops, hbegins, hstate, (hnext _ behaviour hleft).2 .routed hstate hidle⟩

end Reception

end DeviceBus
