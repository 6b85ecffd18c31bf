import DeviceBus.Proofs.Message
import DeviceBus.Receive

/-!
# Steps of a receive loop

A step of a loop is either its end on request or a step of its stream followed by a reaction to what the
stream came up with.  `ReceiveLoop.react` is that reaction, and `ReceiveLoop.step_eq` takes a step apart.
A body is delivered in one place only, so what a handler does to the subscription is settled by
`Subscription.deliver`.

`ReceiveLoop.taken` is the body that a step consumes, and `ReceiveLoop.call_of_step` tells whom it calls.

Other threads go on between any two of the things that a step does.  `ReceiveLoop.step_eq_poll` takes it apart into
the check of the token, the poll of the stream, and the handing on of what that took; `Phase` is where a loop stands
among them.
-/

namespace DeviceBus

/-- The handler of a message is that of the first entry that answers to it. -/
theorem Registry.handlerFor?_eq {η : Type} (registry : Registry η) (message : Message) :
    registry.handlerFor? message =
      (registry.entries.find? (Entry.answersTo message.head message.method)).bind Entry.handler := by
  rw [List.find?_eq_bind_findIdx?_getElem?, Option.bind_assoc]
  rfl

/-- Routing calls the handler of the message, whatever that handler does. -/
@[simp] theorem Registry.called_dispatch {η : Type} (registry : Registry η) (behaviour : Behaviour η)
    (message : Message) : (registry.dispatch behaviour message).called = registry.handlerFor? message := by
  unfold dispatch
  split <;> simp [*]

/-- A message that resolves to nothing leaves everything as it was. -/
theorem Registry.dispatch_of_none {η : Type} {registry : Registry η} {message : Message}
    (h : registry.handlerFor? message = none) (behaviour : Behaviour η) :
    registry.dispatch behaviour message = ⟨none, .notFound, registry⟩ := by
  rw [dispatch, h]

/-- A message that resolves to a handler runs it once. -/
theorem Registry.dispatch_of_some {η : Type} {registry : Registry η} {message : Message} {handler : η}
    (h : registry.handlerFor? message = some handler) (behaviour : Behaviour η) :
    registry.dispatch behaviour message =
      ⟨some handler, .ofVerdict ((behaviour handler message).run registry).1,
        ((behaviour handler message).run registry).2⟩ := by
  rw [dispatch, h]

/-- The handlers register no topics: each does nothing but end. -/
def Behaviour.Quiet {η : Type} (behaviour : Behaviour η) : Prop :=
  ∀ handler message, ∃ verdict, behaviour handler message = .finish verdict

namespace Subscription

variable {η : Type}

/-- A body delivered to a handler that registers nothing leaves the subscription as it was. -/
theorem subscription_deliver {behaviour : Behaviour η} (hquiet : behaviour.Quiet)
    (subscription : Subscription η) (target : Target η) (body : ByteArray) :
    (subscription.deliver behaviour target body).subscription = subscription := by
  unfold deliver
  split
  · rfl
  · rename_i message _
    split
    · rename_i handler
      obtain ⟨verdict, hverdict⟩ := hquiet handler message
      simp [deliverDirect, hverdict, Reaction.run]
    · simp only [deliverRouted, Registry.dispatch]
      split
      · rfl
      · rename_i handler _
        obtain ⟨verdict, hverdict⟩ := hquiet handler message
        simp [hverdict, Reaction.run]

/-- What handlers register are topics, not filters. -/
theorem filters_deliver (subscription : Subscription η) (behaviour : Behaviour η) (target : Target η)
    (body : ByteArray) :
    (subscription.deliver behaviour target body).subscription.filters = subscription.filters := by
  unfold deliver
  split
  · rfl
  · split <;> rfl

/-- A body is accepted as a message exactly if it is the body of that message and begins with a filter. -/
theorem accepted?_eq_some_iff (subscription : Subscription η) (body : ByteArray) (message : Message) :
    subscription.accepted? body = some message ↔
      subscription.filters.accepts body = true ∧ Message.decode body = .ok message := by
  unfold accepted?
  split
  · cases Message.decode body <;> simp [Except.toOption, *]
  · simp [*]

end Subscription

namespace ReceiveLoop

variable {η : Type}

/-- What a loop does with what its stream came up with. -/
def react (loop : ReceiveLoop η) (subscription : Subscription η) (behaviour : Behaviour η)
    (stream : Stream) (net : Network) : Frame.Yield → Step η
  | .hungry => ⟨{ loop with stream }, subscription, none, net⟩
  | .finished => ⟨{ loop with stream }.finish .closed, subscription, none, net⟩
  | .failed fault =>
      ⟨{ loop with stream }.finish (.failed (.transport "recv" fault)), subscription, none, net⟩
  | .frame body =>
      let delivery := subscription.deliver behaviour loop.target body
      { loop := { loop with stream, ended := delivery.crash.map LoopEnd.crashed }
        subscription := delivery.subscription
        call := delivery.call
        net := if delivery.crash.isSome then net.dropReader stream.socket else net }

/-- A step of a loop that is to go on is a step of its stream and the reaction to it. -/
theorem step_eq (loop : ReceiveLoop η) (subscription : Subscription η) (behaviour : Behaviour η)
    (stopped : Bool) (net : Network) :
    loop.step subscription behaviour stopped net =
      if loop.ended.isSome then none
      else if loop.isCancelled || stopped then some ⟨loop.finish .canceled, subscription, none, net⟩
      else (loop.stream.step net).map fun (yield, stream, net) =>
        loop.react subscription behaviour stream net yield := by
  unfold step
  split
  · rfl
  · rename_i hgoing
    have hnone : loop.ended = none := by simpa using hgoing
    split
    · rfl
    · cases hstep : loop.stream.step net with
      | none => rfl
      | some found =>
          obtain ⟨yield, stream, after⟩ := found
          cases yield with
          | hungry => rfl
          | finished => rfl
          | failed fault => rfl
          | frame body =>
              cases hcrash : (subscription.deliver behaviour loop.target body).crash <;>
                simp [react, hcrash, hnone]

/-- Only a loop that has not ended takes a step; it is its end on request, or the reaction to what its stream
came up with. -/
theorem step_cases {loop : ReceiveLoop η} {subscription : Subscription η} {behaviour : Behaviour η}
    {stopped : Bool} {net : Network} {next : Step η}
    (hstep : loop.step subscription behaviour stopped net = some next) :
    loop.ended = none ∧
      ((loop.isCancelled || stopped) = true ∧ next = ⟨loop.finish .canceled, subscription, none, net⟩ ∨
        (loop.isCancelled || stopped) = false ∧ ∃ yield stream after,
          loop.stream.step net = some (yield, stream, after) ∧
            next = loop.react subscription behaviour stream after yield) := by
  rw [step_eq] at hstep
  split at hstep
  · cases hstep
  · rename_i hgoing
    refine ⟨by simpa using hgoing, ?_⟩
    split at hstep
    · rename_i hcause
      exact .inl ⟨hcause, (Option.some.inj hstep).symm⟩
    · rename_i hrunning
      obtain ⟨⟨yield, stream, after⟩, hread, hreact⟩ := Option.map_eq_some_iff.1 hstep
      exact .inr ⟨Bool.eq_false_iff.2 hrunning, yield, stream, after, hread, hreact.symm⟩

end ReceiveLoop

variable {η : Type}

/-! ## What a step of a loop consumes -/

/-- The body of a frame. -/
def Frame.Yield.body? : Frame.Yield → Option ByteArray
  | .frame body => some body
  | _ => none

namespace ReceiveLoop

/-- The body that the next step of a loop consumes, if the loop goes on and its stream has one for it. -/
def taken (loop : ReceiveLoop η) (stopped : Bool) (net : Network) : Option ByteArray :=
  if loop.ended.isSome then none
  else if loop.isCancelled || stopped then none
  else (loop.stream.step net).bind fun (yield, _) => yield.body?

section Steps

variable {loop : ReceiveLoop η} {subscription : Subscription η} {behaviour : Behaviour η}
  {stopped : Bool} {net : Network} {next : Step η}

/-- A loop that was told to stop consumes nothing more. -/
theorem taken_of_cancelled (h : (loop.isCancelled || stopped) = true) : loop.taken stopped net = none := by
  rw [taken, if_pos h, ite_self]

/-- A loop that is to go on consumes what its stream cuts off. -/
theorem taken_of_read (hended : loop.ended = none) (hrunning : (loop.isCancelled || stopped) = false)
    {yield : Frame.Yield} {stream : Stream} {after : Network}
    (hread : loop.stream.step net = some (yield, stream, after)) :
    loop.taken stopped net = yield.body? := by
  rw [taken, hended, hrunning, hread]
  rfl

/-- What a step hands on is the body that it consumes, and nothing else. -/
theorem call_of_step (hstep : loop.step subscription behaviour stopped net = some next) :
    next.call = (loop.taken stopped net).bind fun body =>
      (subscription.deliver behaviour loop.target body).call := by
  obtain ⟨hended, ⟨hcancelled, rfl⟩ | ⟨hrunning, yield, stream, after, hread, rfl⟩⟩ := step_cases hstep
  · rw [taken_of_cancelled hcancelled]
    rfl
  · rw [taken_of_read hended hrunning hread]
    cases yield <;> rfl

/-- A step changes filters and topics as delivering a body does, if at all. -/
theorem subscription_of_step (hstep : loop.step subscription behaviour stopped net = some next) :
    next.subscription = subscription ∨
      ∃ body, next.subscription = (subscription.deliver behaviour loop.target body).subscription := by
  obtain ⟨-, ⟨-, rfl⟩ | ⟨-, yield, stream, after, -, rfl⟩⟩ := step_cases hstep
  · exact .inl rfl
  · cases yield with
    | hungry => exact .inl rfl
    | finished => exact .inl rfl
    | failed fault => exact .inl rfl
    | frame body => exact .inr ⟨body, rfl⟩

/-- A step adds no filter and takes none away. -/
theorem filters_of_step (hstep : loop.step subscription behaviour stopped net = some next) :
    next.subscription.filters = subscription.filters := by
  obtain hsame | ⟨body, hdelivered⟩ := subscription_of_step hstep
  · rw [hsame]
  · rw [hdelivered]
    exact subscription.filters_deliver behaviour loop.target body

end Steps

end ReceiveLoop

/-! ## Checking, polling and handing on -/

namespace Subscription

/-- A delivery calls a handler with the message of the body, or nobody. -/
theorem decode_of_deliver {subscription : Subscription η} {behaviour : Behaviour η} {target : Target η}
    {body : ByteArray} {call : Call η}
    (h : (subscription.deliver behaviour target body).call = some call) :
    Message.decode body = .ok call.message := by
  unfold deliver at h
  split at h
  · cases h
  · rename_i message haccepted
    have hdecoded := ((subscription.accepted?_eq_some_iff body message).1 haccepted).2
    split at h
    · cases h
      exact hdecoded
    · obtain ⟨handler, -, rfl⟩ := Option.map_eq_some_iff.1 h
      exact hdecoded

/-- Only a handler that was called crashes. -/
theorem exists_call_of_crash {subscription : Subscription η} {behaviour : Behaviour η} {target : Target η}
    {body : ByteArray} {reason : String}
    (h : (subscription.deliver behaviour target body).crash = some reason) :
    ∃ call, (subscription.deliver behaviour target body).call = some call := by
  unfold deliver at h ⊢
  split at h
  · cases h
  · rename_i message _
    split at h
    · exact ⟨_, rfl⟩
    · simp only [deliverRouted, Registry.dispatch] at h ⊢
      cases hhandler : subscription.registry.handlerFor? message with
      | none =>
          rw [hhandler] at h
          cases h
      | some handler => exact ⟨_, rfl⟩

end Subscription

namespace ReceiveLoop

/-- Where a loop stands. -/
inductive Phase where
  /-- it waits, and checks its token before anything else -/
  | waiting
  /-- its token was not cancelled when it checked, and it polls its stream -/
  | polling
  /-- it has taken a body, and is to hand it on -/
  | holding (body : ByteArray)
  deriving DecidableEq

/-- The check of the token: a loop that was cancelled ends. -/
def check (loop : ReceiveLoop η) (stopped : Bool) : ReceiveLoop η :=
  if loop.isCancelled || stopped then loop.finish .canceled else loop

/-- What a loop has come to by a poll. -/
structure Polled (η : Type) where
  loop : ReceiveLoop η
  phase : Phase
  net : Network

/-- What a loop makes of what its stream came up with.  It goes on polling until there is a body, or the stream
is over, or has nothing to offer. -/
def notice (loop : ReceiveLoop η) (stream : Stream) (net : Network) : Frame.Yield → Polled η
  | .hungry => ⟨{ loop with stream }, .polling, net⟩
  | .finished => ⟨{ loop with stream }.finish .closed, .waiting, net⟩
  | .failed fault => ⟨{ loop with stream }.finish (.failed (.transport "recv" fault)), .waiting, net⟩
  | .frame body => ⟨{ loop with stream }, .holding body, net⟩

/-- A step of a poll, `none` where the stream has nothing to offer. -/
def poll (loop : ReceiveLoop η) (net : Network) : Option (Polled η) :=
  (loop.stream.step net).map fun (yield, stream, net) => loop.notice stream net yield

/-- Hand on a body that was taken. -/
def hand (loop : ReceiveLoop η) (subscription : Subscription η) (behaviour : Behaviour η)
    (body : ByteArray) (net : Network) : Step η :=
  loop.react subscription behaviour loop.stream net (.frame body)

/-- The step that a poll comes to, with what it took handed on at once. -/
def Polled.complete (polled : Polled η) (subscription : Subscription η) (behaviour : Behaviour η) : Step η :=
  match polled.phase with
  | .holding body => polled.loop.hand subscription behaviour body polled.net
  | .waiting | .polling => ⟨polled.loop, subscription, none, polled.net⟩

/-- A step of a loop is the check of its token, a step of a poll, and handing on what that took. -/
theorem step_eq_poll (loop : ReceiveLoop η) (subscription : Subscription η) (behaviour : Behaviour η)
    (stopped : Bool) (net : Network) :
    loop.step subscription behaviour stopped net =
      if loop.ended.isSome then none
      else if (loop.check stopped).ended.isSome then
        some ⟨loop.check stopped, subscription, none, net⟩
      else (loop.poll net).map fun polled => polled.complete subscription behaviour := by
  rw [step_eq, check]
  split
  · rfl
  · rename_i hgoing
    split
    · rfl
    · rw [poll]
      cases loop.stream.step net with
      | none => rfl
      | some found =>
          obtain ⟨yield, stream, after⟩ := found
          cases yield <;> rfl

/-- A loop that was cancelled ends where it checks. -/
theorem check_of_cancelled {loop : ReceiveLoop η} {stopped : Bool}
    (h : (loop.isCancelled || stopped) = true) : loop.check stopped = loop.finish .canceled := by
  rw [check, if_pos h]

/-- A check changes nothing but the end of a loop. -/
theorem stream_check (loop : ReceiveLoop η) (stopped : Bool) :
    (loop.check stopped).stream = loop.stream := by
  unfold check
  split <;> rfl

/-- Everything that handing on a body can come to. -/
inductive Handed (loop : ReceiveLoop η) (body : ByteArray) (net : Network) : Step η → Prop where
  /-- a handler was called, or nobody, and the loop goes on -/
  | calm {subscription : Subscription η} {call : Option (Call η)}
      (decoded : ∀ made ∈ call, Message.decode body = .ok made.message) :
      Handed loop body net ⟨loop, subscription, call, net⟩
  /-- the handler that was called crashed -/
  | crashed {subscription : Subscription η} {call : Call η} (reason : String)
      (decoded : Message.decode body = .ok call.message) :
      Handed loop body net
        ⟨{ loop with ended := some (.crashed reason) }, subscription, some call,
          net.dropReader loop.stream.socket⟩

theorem handed_hand {loop : ReceiveLoop η} (hended : loop.ended = none) (subscription : Subscription η)
    (behaviour : Behaviour η) (body : ByteArray) (net : Network) :
    Handed loop body net (loop.hand subscription behaviour body net) := by
  have hdecoded : ∀ made ∈ (subscription.deliver behaviour loop.target body).call,
      Message.decode body = .ok made.message :=
    fun made hmade => Subscription.decode_of_deliver hmade
  have hcalled : ∀ reason, (subscription.deliver behaviour loop.target body).crash = some reason →
      ∃ call, (subscription.deliver behaviour loop.target body).call = some call :=
    fun reason hcrash => Subscription.exists_call_of_crash hcrash
  rw [hand, react]
  generalize subscription.deliver behaviour loop.target body = delivery at hdecoded hcalled
  obtain ⟨call, crash, subscription⟩ := delivery
  cases crash with
  | none =>
      have hsame : { loop with ended := none } = loop := by rw [← hended]
      simp only [Option.map_none, Option.isSome_none, Bool.false_eq_true, if_false, hsame]
      exact .calm hdecoded
  | some reason =>
      obtain ⟨made, hmade⟩ := hcalled reason rfl
      dsimp only at hmade
      subst hmade
      exact .crashed reason (hdecoded made rfl)

end ReceiveLoop

end DeviceBus
