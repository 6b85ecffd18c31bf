import DeviceBus.Proofs.Receive
import DeviceBus.Proofs.Runs
import DeviceBus.Proofs.Transport.Stream

/-!
# Receiving any traffic

A receive loop meets whatever arrives at its connection: bodies that nobody subscribed to, bodies that are no
messages, and handlers that fail.  Filters and topics come in addition while it is at work.  This module
follows a loop through all of that and keeps account of the bodies that it consumes, each with the filters and
topics that it met.

* `Receiving`: a loop at a connection, with what has arrived, what it has consumed and whom it has called.
* `Receiving.Sound`, `Receiving.sound_run`: the bodies that were consumed are the first ones that arrived, and
  a loop that ended did so for a reason.
* `Receiving.run_excused`: whether handlers fail makes no difference to anything.
* `Receiving.deliveries`: the calls are those bodies that a filter accepts and that are messages, in order.
-/

namespace DeviceBus

variable {η : Type}

/-! ## Deliveries, one at a time -/

/-- Whom a message goes to. -/
def Target.callFor (target : Target η) (registry : Registry η) (message : Message) : Option (Call η) :=
  match target with
  | .direct handler => some ⟨handler, message⟩
  | .routed => (registry.handlerFor? message).map fun handler => ⟨handler, message⟩

/-- The same registrations, and success in the end. -/
def Reaction.excused : Reaction η → Reaction η
  | .finish _ => .finish .succeeded
  | .register head method handler next =>
      .register head method handler fun result => (next result).excused

theorem Reaction.run_excused (reaction : Reaction η) (registry : Registry η) :
    reaction.excused.run registry = (.succeeded, (reaction.run registry).2) := by
  induction reaction generalizing registry with
  | finish verdict => rfl
  | register head method handler next ih => exact ih _ _

namespace Behaviour

/-- No handler crashes: each succeeds or reports an error. -/
def Calm (behaviour : Behaviour η) : Prop :=
  ∀ handler message registry reason, ((behaviour handler message).run registry).1 ≠ .crashed reason

/-- The same handlers, but each succeeds. -/
def excused (behaviour : Behaviour η) : Behaviour η :=
  fun handler message => (behaviour handler message).excused

end Behaviour

namespace Subscription

variable {behaviour : Behaviour η}

/-- A body calls whom its message goes to, if it is accepted. -/
theorem call_deliver (subscription : Subscription η) (behaviour : Behaviour η) (target : Target η)
    (body : ByteArray) :
    (subscription.deliver behaviour target body).call =
      (subscription.accepted? body).bind (target.callFor subscription.registry) := by
  unfold deliver
  cases subscription.accepted? body with
  | none => rfl
  | some message =>
      cases target with
      | direct handler => rfl
      | routed => simp only [deliverRouted, Registry.called_dispatch, Option.bind_some, Target.callFor]

/-- A handler that fails changes as much as one that succeeds. -/
theorem deliver_excused (hcalm : behaviour.Calm) (subscription : Subscription η) (target : Target η)
    (body : ByteArray) :
    (subscription.deliver behaviour target body).crash = none ∧
      subscription.deliver behaviour.excused target body =
        subscription.deliver behaviour target body := by
  unfold deliver
  cases subscription.accepted? body with
  | none => exact ⟨rfl, rfl⟩
  | some message =>
      cases target with
      | direct handler =>
          have hverdict := hcalm handler message subscription.registry
          simp only [deliverDirect, Behaviour.excused, Reaction.run_excused]
          generalize (behaviour handler message).run subscription.registry = answer at hverdict
          obtain ⟨verdict, registry⟩ := answer
          cases verdict with
          | succeeded => simp
          | failed error => simp
          | crashed reason => exact absurd rfl (hverdict reason)
      | routed =>
          simp only [deliverRouted, Registry.dispatch]
          cases subscription.registry.handlerFor? message with
          | none => exact ⟨rfl, rfl⟩
          | some handler =>
              have hverdict := hcalm handler message subscription.registry
              simp only [Behaviour.excused, Reaction.run_excused]
              generalize (behaviour handler message).run subscription.registry = answer at hverdict
              obtain ⟨verdict, registry⟩ := answer
              cases verdict with
              | succeeded => exact ⟨rfl, rfl⟩
              | failed error => exact ⟨rfl, rfl⟩
              | crashed reason => exact absurd rfl (hverdict reason)

end Subscription

/-! ## A loop at a connection -/

/-- A body that a loop has consumed, and the filters and topics that were there by then. -/
structure Consumption (η : Type) where
  body : ByteArray
  subscription : Subscription η

/-- Whom a body that was consumed has called. -/
def Consumption.call? (target : Target η) (consumption : Consumption η) : Option (Call η) :=
  (consumption.subscription.accepted? consumption.body).bind
    (target.callFor consumption.subscription.registry)

/-- A receive loop at a connection. -/
structure Receiving (η : Type) where
  loop : ReceiveLoop η
  subscription : Subscription η
  net : Network
  /-- every byte that the stream of the loop had not cut off at first or that has arrived since -/
  arrived : List UInt8
  history : List (Consumption η) := []
  calls : List (Call η) := []

namespace Receiving

/-- What happens to a loop: traffic at its connection or elsewhere, filters and topics that are added, the wish
to stop, or a step of its own.  In a step the loop may also learn that the whole process stops. -/
inductive Event (η : Type) where
  | traffic (traffic : Traffic)
  | addFilter (filter : ByteArray)
  | register (head method : String) (handler : Option η)
  | cancel
  | task (behaviour : Behaviour η) (stopped : Bool)

namespace Event

/-- The handlers do not crash. -/
def Calm : Event η → Prop
  | .task behaviour _ => behaviour.Calm
  | _ => True

/-- The loop is told to stop. -/
def Cancels : Event η → Prop
  | .cancel => True
  | .task _ stopped => stopped = true
  | _ => False

/-- The filter that is added, if one is. -/
def filter? : Event η → Option ByteArray
  | .addFilter filter => some filter
  | _ => none

/-- The same, but every handler succeeds. -/
def excused : Event η → Event η
  | .task behaviour stopped => .task behaviour.excused stopped
  | event => event

end Event

/-- A loop that begins to receive from a stream. -/
def start (stream : Stream) (target : Target η) (subscription : Subscription η) (net : Network) :
    Receiving η where
  loop := { stream, target }
  subscription := subscription
  net := net
  arrived := stream.unread net

/-- A loop after a step in which it took a body or none. -/
def advanced (receiving : Receiving η) (next : ReceiveLoop.Step η) (taken : List ByteArray) :
    Receiving η where
  loop := next.loop
  subscription := next.subscription
  net := next.net
  arrived := receiving.arrived
  history := receiving.history ++ taken.map fun body => ⟨body, receiving.subscription⟩
  calls := receiving.calls ++ next.call.toList

/-- One event. -/
def step (receiving : Receiving η) : Event η → Receiving η
  | .traffic traffic =>
      let socket := receiving.loop.stream.socket
      { receiving with
        net := receiving.net.carry socket traffic
        arrived := receiving.arrived ++ receiving.net.brought socket traffic }
  | .addFilter filter =>
      let filters := receiving.subscription.filters.add filter
      { receiving with subscription := { receiving.subscription with filters } }
  | .register head method handler =>
      let registry := (receiving.subscription.registry.add head method handler).2
      { receiving with subscription := { receiving.subscription with registry } }
  | .cancel => { receiving with loop := { receiving.loop with isCancelled := true } }
  | .task behaviour stopped =>
      match receiving.loop.step receiving.subscription behaviour stopped receiving.net with
      | none => receiving
      | some next => receiving.advanced next (receiving.loop.taken stopped receiving.net).toList

/-- Some events, one after the other. -/
def run (receiving : Receiving η) (events : List (Event η)) : Receiving η := events.foldl step receiving

/-- The bodies that were consumed. -/
def bodies (receiving : Receiving η) : List ByteArray := receiving.history.map Consumption.body

/-- Nothing more will arrive. -/
def ended (receiving : Receiving η) : Bool :=
  (receiving.net.socket receiving.loop.stream.socket).finished

/-- The reason of an outcome: a loop is closed at the end of its stream, and it fails with the fault of the
stream or because the connection was reset; both come after every body that arrived. -/
def Explains (receiving : Receiving η) : ReceiveOutcome → Prop
  | .canceled => True
  | .closed => receiving.ended = true ∧
      Frame.due true receiving.arrived = receiving.bodies.map .frame ++ [.finished]
  | .failed error => ∃ fault, error = .transport "recv" fault ∧
      (Frame.due receiving.ended receiving.arrived = receiving.bodies.map .frame ++ [.failed fault] ∨
        fault = .system .connectionReset ∧ receiving.ended = true ∧
          Frame.complete receiving.arrived = receiving.bodies)

/-- What holds of a loop at a connection at all times. -/
structure Sound (receiving : Receiving η) : Prop where
  exists_socket : receiving.loop.stream.socket < receiving.net.sockets.size
  reset : (receiving.net.socket receiving.loop.stream.socket).broken = true → receiving.ended = true
  fits : ∀ body ∈ receiving.bodies, body.size ≤ Frame.maxLength
  begins : receiving.bodies <+: Frame.complete receiving.arrived
  going : receiving.loop.ended = none →
    receiving.loop.stream.Reads receiving.net receiving.arrived receiving.bodies
  explains : ∀ loopEnd, receiving.loop.ended = some loopEnd →
    ∃ outcome, loopEnd = .returned outcome ∧ receiving.Explains outcome

theorem sound_start {stream : Stream} {net : Network} (hlive : stream.Live net)
    (hsocket : stream.socket < net.sockets.size)
    (hreset : (net.socket stream.socket).broken = true → (net.socket stream.socket).finished = true)
    (target : Target η) (subscription : Subscription η) :
    Sound (start stream target subscription net) where
  exists_socket := hsocket
  reset := hreset
  fits := fun _ hnone => absurd hnone List.not_mem_nil
  begins := List.nil_prefix
  going := fun _ => ⟨hlive, rfl⟩
  explains := fun _ hended => absurd hended.symm (Option.some_ne_none _)

section Steps

variable {receiving : Receiving η}

/-- What a reason says stays true, whatever arrives. -/
theorem Explains.traffic {outcome : ReceiveOutcome} (h : receiving.Explains outcome)
    (hin : receiving.loop.stream.socket < receiving.net.sockets.size) (traffic : Traffic) :
    (receiving.step (.traffic traffic)).Explains outcome := by
  -- behind the end nothing arrives
  have hbehind : receiving.ended = true →
      (receiving.step (.traffic traffic)).ended = true ∧
        (receiving.step (.traffic traffic)).arrived = receiving.arrived := by
    intro hended
    obtain ⟨-, hstays, hnothing⟩ := Network.carry_of_finished hin hended traffic
    refine ⟨hstays, ?_⟩
    show _ ++ _ = _
    rw [hnothing, List.append_nil]
  cases outcome with
  | canceled => trivial
  | closed =>
      obtain ⟨hended, hdue⟩ := h
      obtain ⟨hstays, harrived⟩ := hbehind hended
      refine ⟨hstays, ?_⟩
      rw [harrived]
      exact hdue
  | failed error =>
      obtain ⟨fault, herror, hdue | ⟨hfault, hended, hall⟩⟩ := h
      · refine ⟨fault, herror, .inl ?_⟩
        cases hended : receiving.ended with
        | true =>
            obtain ⟨hstays, harrived⟩ := hbehind hended
            rw [hended] at hdue
            rw [hstays, harrived]
            exact hdue
        | false =>
            rw [hended] at hdue
            have hmalformed : Frame.Malformed (Frame.rest receiving.arrived) :=
              @Frame.malformed_of_failed fault _ (by rw [hdue]; simp)
            exact (Frame.due_append_of_malformed hmalformed _ _ false).trans hdue
      · obtain ⟨hstays, harrived⟩ := hbehind hended
        refine ⟨fault, herror, .inr ⟨hfault, hstays, ?_⟩⟩
        rw [harrived]
        exact hall

theorem Sound.traffic (h : Sound receiving) (traffic : Traffic) :
    Sound (receiving.step (.traffic traffic)) where
  exists_socket := Network.lt_size_carry h.exists_socket traffic
  reset := Network.finished_of_broken_carry h.exists_socket h.reset traffic
  fits := h.fits
  begins := h.begins.trans (Frame.complete_begins _ _)
  going hended := (h.going hended).carry h.exists_socket traffic
  explains loopEnd hended := by
    obtain ⟨outcome, hreturned, hexplains⟩ := h.explains loopEnd hended
    exact ⟨outcome, hreturned, hexplains.traffic h.exists_socket traffic⟩

section Reads

variable {stream : Stream} {after : Network} {yield : Frame.Yield} {next : ReceiveLoop.Step η}
  {taken : List ByteArray}

theorem bodies_advanced (receiving : Receiving η) (next : ReceiveLoop.Step η) (taken : List ByteArray) :
    (receiving.advanced next taken).bodies = receiving.bodies ++ taken := by
  simp [bodies, advanced, Function.comp_def]

theorem ended_advanced (hread : receiving.loop.stream.step receiving.net = some (yield, stream, after))
    (hstream : next.loop.stream = stream) (hnet : next.net = after) :
    (receiving.advanced next taken).ended = receiving.ended := by
  show (next.net.socket next.loop.stream.socket).finished = _
  rw [hnet, hstream, (Stream.step_network hread).1]
  exact (Stream.recedes_step hread).finished

/-- A step of the stream of a loop keeps everything in order that does not concern the stream. -/
theorem Sound.advanced (h : Sound receiving)
    (hread : receiving.loop.stream.step receiving.net = some (yield, stream, after))
    (hstream : next.loop.stream = stream) (hnet : next.net = after)
    (fits : ∀ body ∈ taken, body.size ≤ Frame.maxLength)
    (begins : receiving.bodies ++ taken <+: Frame.complete receiving.arrived)
    (going : next.loop.ended = none → stream.Reads after receiving.arrived (receiving.bodies ++ taken))
    (explains : ∀ loopEnd, next.loop.ended = some loopEnd →
      ∃ outcome, loopEnd = .returned outcome ∧ (receiving.advanced next taken).Explains outcome) :
    Sound (receiving.advanced next taken) where
  exists_socket := by
    show next.loop.stream.socket < next.net.sockets.size
    rw [hnet, hstream, (Stream.step_network hread).1, (Stream.recedes_step hread).size]
    exact h.exists_socket
  reset hbroken := by
    rw [ended_advanced hread hstream hnet]
    have hbroken : (next.net.socket next.loop.stream.socket).broken = true := hbroken
    rw [hnet, hstream, (Stream.step_network hread).1] at hbroken
    exact h.reset ((Stream.recedes_step hread).broken hbroken)
  fits := by
    rw [bodies_advanced]
    exact fun body hbody => (List.mem_append.1 hbody).elim (h.fits body) (fits body)
  begins := by
    rw [bodies_advanced]
    exact begins
  going hended := by
    rw [bodies_advanced]
    show next.loop.stream.Reads next.net _ _
    rw [hnet, hstream]
    exact going hended
  explains := explains

end Reads

/-- At the end of a stream what was due is what was consumed, and the verdict. -/
theorem Sound.due_of_over (h : Sound receiving) (hgoing : receiving.loop.ended = none) {stream : Stream}
    (hover : Stream.Over receiving.net receiving.loop.stream stream)
    (noFrame : Frame.complete (receiving.loop.stream.unread receiving.net) = []) :
    Frame.due receiving.ended receiving.arrived = receiving.bodies.map .frame ++
      [Frame.verdict (receiving.loop.stream.unread receiving.net)] := by
  rw [(h.going hgoing).account, Frame.due_append_frames h.fits noFrame, if_pos]
  cases hover with
  | spoilt malformed reader => exact .inr (malformed.append _)
  | ended empty finished phase => exact .inl finished

section Ends

variable {behaviour : Behaviour η} {yield : Frame.Yield} {stream : Stream} {after : Network}

/-- A loop whose stream is over returns, and hands nothing on. -/
theorem react_of_ends (yields : yield = .finished ∨ ∃ fault, yield = .failed fault) :
    (receiving.loop.react receiving.subscription behaviour stream after yield).loop.stream = stream ∧
      (receiving.loop.react receiving.subscription behaviour stream after yield).net = after ∧
      (receiving.loop.react receiving.subscription behaviour stream after yield).loop.ended ≠ none ∧
      yield.body? = none := by
  rcases yields with rfl | ⟨fault, rfl⟩
  · exact ⟨rfl, rfl, Option.some_ne_none _, rfl⟩
  · exact ⟨rfl, rfl, Option.some_ne_none _, rfl⟩

/-- What a loop whose stream is over returns has a reason: the verdict on what is left, or the reset of the
connection. -/
theorem Sound.explains_of_ends (h : Sound receiving) (hgoing : receiving.loop.ended = none)
    (hread : receiving.loop.stream.step receiving.net = some (yield, stream, after))
    (yields : yield = .finished ∨ ∃ fault, yield = .failed fault) (isOver : stream.isOver = true)
    (noFrame : Frame.complete (receiving.loop.stream.unread receiving.net) = []) {loopEnd : LoopEnd}
    (hloopEnd : (receiving.loop.react receiving.subscription behaviour stream after yield).loop.ended =
      some loopEnd) :
    ∃ outcome, loopEnd = .returned outcome ∧ (receiving.advanced
      (receiving.loop.react receiving.subscription behaviour stream after yield) []).Explains outcome := by
  obtain ⟨hstream, hnet, -, -⟩ := @react_of_ends _ receiving behaviour _ stream after yields
  have hended := @ended_advanced _ _ _ _ _ _ [] hread hstream hnet
  have hbodies := receiving.bodies_advanced
    (receiving.loop.react receiving.subscription behaviour stream after yield) []
  rw [List.append_nil] at hbodies
  rcases Stream.verdict_of_step (h.going hgoing).live hread isOver with
    ⟨-, hverdict, hlast⟩ | ⟨hbroken, rfl⟩
  · have hdue := h.due_of_over hgoing hlast noFrame
    rw [← hverdict] at hdue
    rcases yields with rfl | ⟨fault, rfl⟩
    · have hfinished : receiving.ended = true :=
        @Frame.ended_of_finished _ receiving.arrived (by rw [hdue]; simp)
      rw [hfinished] at hdue
      refine ⟨.closed, (Option.some.inj hloopEnd).symm, hended.trans hfinished, ?_⟩
      rw [hbodies]
      exact hdue
    · refine ⟨_, (Option.some.inj hloopEnd).symm, fault, rfl, .inl ?_⟩
      rw [hbodies, hended]
      exact hdue
  · refine ⟨_, (Option.some.inj hloopEnd).symm, _, rfl, .inr ⟨rfl, hended.trans (h.reset hbroken), ?_⟩⟩
    rw [hbodies]
    show Frame.complete receiving.arrived = receiving.bodies
    rw [(h.going hgoing).complete_eq h.fits, noFrame, List.append_nil]

end Ends

/-- The reaction to what the stream of a loop came up with keeps everything in order. -/
theorem Sound.react (h : Sound receiving) {behaviour : Behaviour η} (hcalm : behaviour.Calm)
    (hgoing : receiving.loop.ended = none) {yield : Frame.Yield} {stream : Stream} {after : Network}
    (hread : receiving.loop.stream.step receiving.net = some (yield, stream, after)) :
    Sound (receiving.advanced
      (receiving.loop.react receiving.subscription behaviour stream after yield)
      yield.body?.toList) := by
  have hreads := h.going hgoing
  have hstepped := Stream.stepped_step hreads.live
  rw [hread] at hstepped
  cases hstepped with
  | hungry live socket same recedes =>
      refine h.advanced hread rfl rfl (fun _ hnone => absurd hnone List.not_mem_nil) ?_ ?_ ?_
      · exact (List.append_nil _).symm ▸ h.begins
      · exact fun _ => (List.append_nil _).symm ▸ hreads.of_hungry live same
      · intro loopEnd hended
        exact absurd (hgoing.symm.trans hended).symm (Option.some_ne_none _)
  | @frame body stream live socket fits split =>
      have hcrash := (Subscription.deliver_excused hcalm receiving.subscription receiving.loop.target
        body).1
      have hnet : (receiving.loop.react receiving.subscription behaviour stream receiving.net
          (.frame body)).net = receiving.net := by
        rw [ReceiveLoop.react, hcrash]
        rfl
      refine h.advanced hread rfl hnet ?_ ?_ ?_ ?_
      · exact fun other hother => List.mem_singleton.1 hother ▸ fits
      · rw [hreads.complete_eq h.fits, split, Frame.complete_append_frame fits,
          List.prefix_append_right_inj]
        exact ⟨_, rfl⟩
      · exact fun _ => hreads.of_frame live split
      · intro loopEnd hended
        rw [ReceiveLoop.react, hcrash] at hended
        exact absurd hended.symm (Option.some_ne_none _)
  | ends yields isOver socket recedes noFrame cause =>
      obtain ⟨hstream, hnet, hreturns, hnone⟩ := @react_of_ends _ receiving behaviour _ stream after yields
      rw [hnone, Option.toList_none]
      refine h.advanced hread hstream hnet (fun _ hnothing => absurd hnothing List.not_mem_nil) ?_ ?_ ?_
      · rw [List.append_nil]
        exact h.begins
      · exact fun hgoes => absurd hgoes hreturns
      · exact fun loopEnd hloopEnd => h.explains_of_ends hgoing hread yields isOver noFrame hloopEnd

/-- Whatever happens, everything stays in order. -/
theorem sound_step (h : Sound receiving) {event : Event η} (hcalm : event.Calm) :
    Sound (receiving.step event) := by
  cases event with
  | traffic traffic => exact h.traffic traffic
  | addFilter filter => exact ⟨h.exists_socket, h.reset, h.fits, h.begins, h.going, h.explains⟩
  | register head method handler => exact ⟨h.exists_socket, h.reset, h.fits, h.begins, h.going, h.explains⟩
  | cancel => exact ⟨h.exists_socket, h.reset, h.fits, h.begins, h.going, h.explains⟩
  | task behaviour stopped =>
      rw [step]
      split
      · exact h
      · rename_i next hstep
        obtain ⟨hgoing, ⟨hcancelled, rfl⟩ | ⟨hrunning, yield, stream, after, hread, rfl⟩⟩ :=
          ReceiveLoop.step_cases hstep
        · rw [ReceiveLoop.taken_of_cancelled hcancelled, Option.toList_none]
          have hbodies := receiving.bodies_advanced
            ⟨receiving.loop.finish .canceled, receiving.subscription, none, receiving.net⟩ []
          rw [List.append_nil] at hbodies
          refine ⟨h.exists_socket, h.reset, hbodies ▸ h.fits, hbodies ▸ h.begins, ?_, ?_⟩
          · exact fun hgoes => absurd hgoes (Option.some_ne_none _)
          · exact fun loopEnd hover => ⟨.canceled, (Option.some.inj hover).symm, trivial⟩
        · rw [ReceiveLoop.taken_of_read hgoing hrunning hread]
          exact h.react hcalm hgoing hread

theorem sound_run (h : Sound receiving) {events : List (Event η)}
    (hcalm : ∀ event ∈ events, event.Calm) : Sound (receiving.run events) :=
  List.foldlRecOn (motive := Sound) events step h fun _ h event hmem => sound_step h (hcalm event hmem)

/-! ## Whom a loop calls -/

/-- The calls are those of the bodies that were consumed. -/
def Booked (target : Target η) (receiving : Receiving η) : Prop :=
  receiving.loop.target = target ∧
    receiving.calls = receiving.history.filterMap (Consumption.call? target)

theorem booked_step {target : Target η} (h : Booked target receiving) (event : Event η) :
    Booked target (receiving.step event) := by
  cases event with
  | traffic traffic => exact h
  | addFilter filter => exact h
  | register head method handler => exact h
  | cancel => exact h
  | task behaviour stopped =>
      obtain ⟨htarget, hcalls⟩ := h
      rw [step]
      split
      · exact ⟨htarget, hcalls⟩
      · rename_i next hstep
        have hcall := ReceiveLoop.call_of_step hstep
        refine ⟨?_, ?_⟩
        · obtain ⟨-, ⟨-, rfl⟩ | ⟨-, yield, stream, after, -, rfl⟩⟩ := ReceiveLoop.step_cases hstep
          · exact htarget
          · cases yield <;> exact htarget
        · show receiving.calls ++ _ = (receiving.history ++ _).filterMap _
          rw [hcalls, List.filterMap_append, hcall]
          cases receiving.loop.taken stopped receiving.net with
          | none => rfl
          | some body =>
              have hbody : (receiving.subscription.deliver behaviour receiving.loop.target body).call =
                  Consumption.call? target ⟨body, receiving.subscription⟩ := by
                rw [Subscription.call_deliver, htarget]
                rfl
              rw [Option.bind_some, hbody, Option.toList_some, List.map_singleton,
                List.filterMap_cons]
              cases Consumption.call? target ⟨body, receiving.subscription⟩ <;> rfl

/-- Filters come in addition, and none goes. -/
theorem filters_step (receiving : Receiving η) (event : Event η) :
    (receiving.step event).subscription.filters.accepted =
      receiving.subscription.filters.accepted ++ event.filter?.toList := by
  cases event with
  | traffic traffic => exact (List.append_nil _).symm
  | addFilter filter => rfl
  | register head method handler => exact (List.append_nil _).symm
  | cancel => exact (List.append_nil _).symm
  | task behaviour stopped =>
      have hnone : (Event.task behaviour stopped).filter? = none := rfl
      rw [hnone, Option.toList_none, List.append_nil, step]
      split
      · rfl
      · rename_i next hstep
        exact congrArg Filters.accepted (ReceiveLoop.filters_of_step hstep)

theorem filters_run (receiving : Receiving η) (events : List (Event η)) :
    (receiving.run events).subscription.filters.accepted =
      receiving.subscription.filters.accepted ++ events.filterMap Event.filter? :=
  foldl_leaves (·.subscription.filters.accepted) filters_step receiving events

/-- Every filter that a body met is still there. -/
def FiltersStay (receiving : Receiving η) : Prop :=
  ∀ consumption ∈ receiving.history, consumption.subscription.filters.accepted <+:
    receiving.subscription.filters.accepted

theorem filtersStay_step (h : FiltersStay receiving) (event : Event η) :
    FiltersStay (receiving.step event) := by
  intro consumption hmem
  rw [filters_step]
  refine List.IsPrefix.trans ?_ (List.prefix_append _ _)
  cases event with
  | traffic traffic => exact h consumption hmem
  | addFilter filter => exact h consumption hmem
  | register head method handler => exact h consumption hmem
  | cancel => exact h consumption hmem
  | task behaviour stopped =>
      rw [step] at hmem
      split at hmem
      · exact h consumption hmem
      · rcases List.mem_append.1 hmem with hold | hnew
        · exact h consumption hold
        · obtain ⟨body, -, rfl⟩ := List.mem_map.1 hnew
          exact List.prefix_rfl

/-- Without a filter nobody is called. -/
theorem calls_of_no_filter {target : Target η} (hbooked : Booked target receiving)
    (hstay : FiltersStay receiving) (hnone : receiving.subscription.filters.accepted = []) :
    receiving.calls = [] := by
  rw [hbooked.2, List.filterMap_eq_nil_iff]
  intro consumption hmem
  have hfilters := hstay consumption hmem
  rw [hnone, List.prefix_nil] at hfilters
  rw [Consumption.call?, Subscription.accepted?, Filters.accepts, hfilters]
  rfl

/-! ## Handlers that fail -/

theorem step_excused {behaviour : Behaviour η} (hcalm : behaviour.Calm) (stopped : Bool) :
    receiving.step (.task behaviour.excused stopped) = receiving.step (.task behaviour stopped) := by
  have hsame : receiving.loop.step receiving.subscription behaviour.excused stopped receiving.net =
      receiving.loop.step receiving.subscription behaviour stopped receiving.net := by
    rw [ReceiveLoop.step_eq, ReceiveLoop.step_eq]
    have hreact : ∀ yield stream after,
        receiving.loop.react receiving.subscription behaviour.excused stream after yield =
          receiving.loop.react receiving.subscription behaviour stream after yield := by
      intro yield stream after
      cases yield with
      | hungry => rfl
      | finished => rfl
      | failed fault => rfl
      | frame body =>
          rw [ReceiveLoop.react, (Subscription.deliver_excused hcalm _ _ _).2]
          rfl
    simp only [hreact]
  rw [step, hsame]
  rfl

/-- Whether handlers succeed or fail makes no difference to anything. -/
theorem run_excused (receiving : Receiving η) {events : List (Event η)}
    (hcalm : ∀ event ∈ events, event.Calm) :
    receiving.run (events.map Event.excused) = receiving.run events := by
  induction events generalizing receiving with
  | nil => rfl
  | cons event events ih =>
      have hfirst : receiving.step event.excused = receiving.step event := by
        cases event with
        | traffic traffic => rfl
        | addFilter filter => rfl
        | register head method handler => rfl
        | cancel => rfl
        | task behaviour stopped => exact step_excused (hcalm _ List.mem_cons_self) stopped
      show (receiving.step event.excused).run (events.map Event.excused) = (receiving.step event).run events
      rw [hfirst]
      exact ih _ fun other hother => hcalm other (List.mem_cons_of_mem _ hother)

/-! ## Why a loop stops -/

/-- A loop was told to stop, and perhaps it has. -/
def Stopping (receiving : Receiving η) : Prop :=
  receiving.loop.isCancelled = true ∨ receiving.loop.ended = some (.returned .canceled)

theorem stopping_step {event : Event η} (h : Stopping (receiving.step event)) :
    Stopping receiving ∨ event.Cancels := by
  cases event with
  | traffic traffic => exact .inl h
  | addFilter filter => exact .inl h
  | register head method handler => exact .inl h
  | cancel => exact .inr trivial
  | task behaviour stopped =>
      rw [step] at h
      split at h
      · exact .inl h
      · rename_i next hstep
        obtain ⟨hgoing, ⟨hcancelled, rfl⟩ | ⟨-, yield, stream, after, -, rfl⟩⟩ :=
          ReceiveLoop.step_cases hstep
        · exact ((Bool.or_eq_true _ _).mp hcancelled).imp .inl id
        · refine .inl (h.imp ?_ ?_)
          · cases yield <;> exact id
          · intro hended
            cases yield with
            | hungry => exact hended
            | finished => cases hended
            | failed fault => cases hended
            | frame body =>
                obtain ⟨reason, -, hcrashed⟩ := Option.map_eq_some_iff.1 hended
                cases hcrashed

theorem stopping_run {events : List (Event η)} (h : Stopping (receiving.run events)) :
    Stopping receiving ∨ ∃ event ∈ events, event.Cancels := by
  induction events generalizing receiving with
  | nil => exact .inl h
  | cons event events ih =>
      rcases ih h with hfirst | ⟨other, hother, hcancels⟩
      · exact (stopping_step hfirst).imp_right fun hcancels => ⟨event, List.mem_cons_self, hcancels⟩
      · exact .inr ⟨other, List.mem_cons_of_mem _ hother, hcancels⟩

/-! ## Bodies that have arrived -/

/-- A step of a loop that is to go on, from the step of its stream. -/
theorem step_task (hgoing : receiving.loop.ended = none) (hcancelled : receiving.loop.isCancelled = false)
    (behaviour : Behaviour η) {yield : Frame.Yield} {stream : Stream} {after : Network}
    (hread : receiving.loop.stream.step receiving.net = some (yield, stream, after)) :
    receiving.step (.task behaviour false) =
      receiving.advanced (receiving.loop.react receiving.subscription behaviour stream after yield)
        yield.body?.toList := by
  have hrunning : (receiving.loop.isCancelled || false) = false := by rw [hcancelled]; rfl
  have hstep : receiving.loop.step receiving.subscription behaviour false receiving.net =
      some (receiving.loop.react receiving.subscription behaviour stream after yield) := by
    rw [ReceiveLoop.step_eq, hgoing, hrunning, hread]
    rfl
  rw [step, hstep]
  dsimp only
  rw [ReceiveLoop.taken_of_read hgoing hrunning hread]

/-- A loop that is at work, with what it has consumed. -/
structure Works (receiving after : Receiving η) (history : List (Consumption η)) : Prop where
  sound : Sound after
  going : after.loop.ended = none
  running : after.loop.isCancelled = false
  arrived : after.arrived = receiving.arrived
  history : after.history = history

/-- A loop that goes on consumes the first body that is left within three steps, whatever it is, and still goes
on. -/
theorem Sound.takes_next (h : Sound receiving) (hgoing : receiving.loop.ended = none)
    (hcancelled : receiving.loop.isCancelled = false) {behaviour : Behaviour η} (hcalm : behaviour.Calm)
    {body : ByteArray} (hbody : (Frame.complete receiving.arrived)[receiving.bodies.length]? = some body) :
    ∃ count ≤ 3, Works receiving (receiving.run (List.replicate count (.task behaviour false)))
      (receiving.history ++ [⟨body, receiving.subscription⟩]) := by
  suffices hwithin : ∃ count ≤ receiving.loop.stream.stepsBefore + 1,
      Works receiving (receiving.run (List.replicate count (.task behaviour false)))
        (receiving.history ++ [⟨body, receiving.subscription⟩]) by
    obtain ⟨count, hcount, hworks⟩ := hwithin
    exact ⟨count, Nat.le_trans hcount (Nat.succ_le_succ receiving.loop.stream.stepsBefore_le), hworks⟩
  -- induction on the steps that the stream needs; one that cuts off nothing needs fewer afterwards
  induction hbound : receiving.loop.stream.stepsBefore using Nat.strongRecOn generalizing receiving with
  | _ bound ih =>
      have hreads := h.going hgoing
      obtain ⟨rest, hleft⟩ : ∃ rest,
          Frame.complete (receiving.loop.stream.unread receiving.net) = body :: rest := by
        rw [hreads.complete_eq h.fits, List.getElem?_append_right (Nat.le_refl _), Nat.sub_self] at hbody
        cases hleft : Frame.complete (receiving.loop.stream.unread receiving.net) with
        | nil =>
            rw [hleft] at hbody
            cases hbody
        | cons first rest =>
            rw [hleft, List.getElem?_cons_zero] at hbody
            exact ⟨rest, by rw [Option.some.inj hbody]⟩
      rcases Stream.step_of_complete hreads.live hleft with
        ⟨stream, hread⟩ | ⟨stream, after, hread, hcloser⟩
      · refine ⟨1, Nat.succ_le_succ (Nat.zero_le _), ?_⟩
        have hafter := h.react hcalm hgoing hread
        show Works receiving (receiving.step (.task behaviour false)) _
        rw [step_task hgoing hcancelled behaviour hread]
        refine ⟨hafter, ?_, hcancelled, rfl, rfl⟩
        show Option.map _ _ = none
        rw [(Subscription.deliver_excused hcalm _ _ _).1]
        rfl
      · have hafter := h.react hcalm hgoing hread
        have hstep := step_task hgoing hcancelled behaviour hread
        obtain ⟨count, hcount, hworks⟩ := ih stream.stepsBefore (hbound ▸ hcloser) hafter hgoing hcancelled
          (by rw [bodies_advanced]; exact (List.append_nil receiving.bodies).symm ▸ hbody) rfl
        refine ⟨count + 1, by omega, ?_⟩
        show Works receiving
          ((receiving.step (.task behaviour false)).run (List.replicate count (.task behaviour false))) _
        rw [hstep]
        have hhistory := hworks.history
        refine ⟨hworks.sound, hworks.going, hworks.running, hworks.arrived, hhistory.trans ?_⟩
        show (receiving.history ++ []) ++ _ = _
        rw [List.append_nil]
        rfl

/-- A loop that goes on consumes all bodies that have arrived, and still goes on. -/
theorem Sound.takes_all (h : Sound receiving) (hgoing : receiving.loop.ended = none)
    (hcancelled : receiving.loop.isCancelled = false) {behaviour : Behaviour η} (hcalm : behaviour.Calm) :
    ∃ count, let after := receiving.run (List.replicate count (.task behaviour false))
      after.bodies = Frame.complete receiving.arrived ∧ after.loop.ended = none := by
  -- induction on how many are left
  induction hleft : (Frame.complete receiving.arrived).length - receiving.bodies.length
    generalizing receiving with
  | zero =>
      exact ⟨0, h.begins.eq_of_length_le (by omega), hgoing⟩
  | succ left ih =>
      have hinside : receiving.bodies.length < (Frame.complete receiving.arrived).length := by omega
      obtain ⟨first, -, hworks⟩ := h.takes_next hgoing hcancelled hcalm (List.getElem?_eq_getElem hinside)
      have hbodies : (receiving.run (List.replicate first (.task behaviour false))).bodies.length =
          receiving.bodies.length + 1 := by
        simp only [bodies, hworks.history, List.length_map, List.length_append, List.length_singleton]
      obtain ⟨count, hall, hstill⟩ := ih hworks.sound hworks.going hworks.running
        (by rw [hworks.arrived, hbodies]; omega)
      refine ⟨first + count, ?_⟩
      rw [← List.replicate_append_replicate, run, List.foldl_append, ← run, ← run]
      rw [hworks.arrived] at hall
      exact ⟨hall, hstill⟩

end Steps

/-- **Receiving any traffic.**  Let a loop begin to receive from a stream, and let any bytes arrive, filters and
topics come in addition, the loop be told to stop and its handlers succeed or fail, in any order.  Then at every
moment:

* the bodies that were consumed are the first ones that arrived, in their order and each once;
* the calls are those of the bodies that were consumed, where one that is accepted calls its handler with its
  message and any other one nobody;
* a body is accepted as a message exactly if some filter that was there by then is a prefix of it and it is the
  body of that message; the filters are those of the beginning and all that were added;
* with every handler that failed made to succeed instead, everything would be the same;
* a loop that goes on consumes the first body that is left within three steps, and all of them after some more,
  whatever they are, and still goes on;
* a loop that ended was told to stop, or is closed at the end of its stream, or failed with its stream, and in
  the last two cases after all bodies that arrived;
* without a filter nobody is called. -/
theorem deliveries {stream : Stream} {net : Network} (hlive : stream.Live net)
    (hsocket : stream.socket < net.sockets.size)
    (hreset : (net.socket stream.socket).broken = true → (net.socket stream.socket).finished = true)
    (target : Target η) (subscription : Subscription η) (events : List (Event η))
    (hcalm : ∀ event ∈ events, event.Calm) :
    let receiving := (start stream target subscription net).run events
    let arrived := Frame.complete receiving.arrived
    receiving.bodies <+: arrived ∧
    receiving.calls = receiving.history.filterMap (fun consumption =>
      (consumption.subscription.accepted? consumption.body).bind fun message =>
        target.callFor consumption.subscription.registry message) ∧
    (∀ consumption ∈ receiving.history, ∀ message,
      consumption.subscription.accepted? consumption.body = some message ↔
        (∃ filter ∈ consumption.subscription.filters.accepted,
          bytesOf filter <+: bytesOf consumption.body) ∧
        Message.decode consumption.body = .ok message) ∧
    receiving.subscription.filters.accepted =
      subscription.filters.accepted ++ events.filterMap Event.filter? ∧
    (start stream target subscription net).run (events.map Event.excused) = receiving ∧
    (receiving.loop.ended = none → receiving.loop.isCancelled = false → ∀ behaviour : Behaviour η,
      behaviour.Calm →
      (∀ body, arrived[receiving.bodies.length]? = some body → ∃ count ≤ 3,
        (receiving.run (List.replicate count (.task behaviour false))).history =
          receiving.history ++ [⟨body, receiving.subscription⟩]) ∧
      ∃ count, let after := receiving.run (List.replicate count (.task behaviour false))
        after.bodies = arrived ∧ after.loop.ended = none) ∧
    (∀ loopEnd, receiving.loop.ended = some loopEnd →
      (loopEnd = .returned .canceled ∧ ∃ event ∈ events, event.Cancels) ∨
      (loopEnd = .returned .closed ∧ receiving.ended = true ∧
        Frame.due true receiving.arrived = receiving.bodies.map .frame ++ [.finished]) ∨
      ∃ fault, loopEnd = .returned (.failed (.transport "recv" fault)) ∧
        (Frame.due receiving.ended receiving.arrived = receiving.bodies.map .frame ++ [.failed fault] ∨
          fault = .system .connectionReset ∧ receiving.ended = true ∧ arrived = receiving.bodies)) ∧
    (receiving.subscription.filters.accepted = [] → receiving.calls = []) := by
  intro receiving arrived
  have h : Sound receiving := sound_run (sound_start hlive hsocket hreset target subscription) hcalm
  have hbooked : Booked target receiving :=
    List.foldlRecOn (motive := Booked target) events step ⟨rfl, rfl⟩ fun _ h event _ => booked_step h event
  have hstay : FiltersStay receiving :=
    List.foldlRecOn (motive := FiltersStay) events step (fun _ hnone => absurd hnone List.not_mem_nil)
      fun _ h event _ => filtersStay_step h event
  refine ⟨h.begins, hbooked.2, ?_, filters_run _ events, run_excused _ hcalm, ?_, ?_,
    calls_of_no_filter hbooked hstay⟩
  · intro consumption _ message
    rw [Subscription.accepted?_eq_some_iff, Filters.accepts_iff]
  · intro hgoing hcancelled behaviour hbehaviour
    refine ⟨fun body hbody => ?_, h.takes_all hgoing hcancelled hbehaviour⟩
    obtain ⟨count, hcount, hworks⟩ := h.takes_next hgoing hcancelled hbehaviour hbody
    exact ⟨count, hcount, hworks.history⟩
  · intro loopEnd hended
    obtain ⟨outcome, rfl, hexplains⟩ := h.explains loopEnd hended
    cases outcome with
    | canceled =>
        refine .inl ⟨rfl, (stopping_run (.inr hended)).resolve_left ?_⟩
        rintro (hcancelled | hcanceled)
        · exact Bool.noConfusion hcancelled
        · exact absurd hcanceled.symm (Option.some_ne_none _)
    | closed => exact .inr (.inl ⟨rfl, hexplains⟩)
    | failed error =>
        obtain ⟨fault, rfl, hcause⟩ := hexplains
        exact .inr (.inr ⟨fault, rfl, hcause⟩)

/-- Two sockets that are connected. -/
def quietNetwork : Network := { files := .fresh, sockets := #[{}, {}] }

/-- A handler that reports an error whatever comes. -/
def rejecting : Behaviour Nat := fun _ _ => .finish (.failed .closed)

/-- A message that nobody subscribed to yet, a body that is no message, one that is, and one that begins
otherwise; then the end. -/
def mixedEvents : List (Event Nat) :=
  [.traffic (.bytes ⟨#[0, 0, 0, 3, 97, 0, 1, 0, 0]⟩), .task rejecting false, .task rejecting false,
    .addFilter ⟨#[97]⟩, .traffic (.bytes ⟨#[0, 1, 97, 0, 0, 0, 3, 97, 0, 2, 0, 0, 0, 2, 98, 0]⟩),
    .task rejecting false, .task rejecting false, .task rejecting false, .task rejecting false,
    .traffic (.ends false), .task rejecting false, .task rejecting false, .task rejecting false,
    .task rejecting false]

theorem deliveries_mixed :
    let receiving := (start { socket := 0 } (.direct 7) {} quietNetwork).run mixedEvents
    receiving.bodies.length = 4 ∧ receiving.bodies <+: Frame.complete receiving.arrived ∧
      receiving.calls.map Call.message = [⟨"a", ⟨#[2]⟩⟩] ∧
      receiving.loop.ended = some (.returned .closed) ∧
      (start { socket := 0 } (.direct 7) {} quietNetwork).run (mixedEvents.map Event.excused) =
        receiving := by
  intro receiving
  have hrejecting : rejecting.Calm := fun _ _ _ _ hcrashed => Verdict.noConfusion hcrashed
  have hcalm : ∀ event ∈ mixedEvents, event.Calm := by
    simp [mixedEvents, Event.Calm, hrejecting]
  obtain ⟨hbegins, -, -, -, hexcused, -⟩ :=
    @deliveries Nat { socket := 0 } quietNetwork (Stream.live_start _ _) (by decide) (by decide) (.direct 7) {}
      mixedEvents hcalm
  exact ⟨by decide +kernel, hbegins, by decide +kernel, by decide +kernel, hexcused⟩

end Receiving

end DeviceBus
