import DeviceBus.Proofs.Receive
import DeviceBus.Proofs.Registry.Lookup
import DeviceBus.Proofs.Runs
import DeviceBus.Proofs.Subscriber.Lifecycle
import DeviceBus.Proofs.Topic
import Mathlib.Data.List.Find

/-!
# Which handler a body reaches

On its way to a handler a body passes a filter that compares bytes, a decoder, a cut at the first slash
and a lookup that looks for the head anywhere in a topic.  None of these tests topics for equality.
Together they do, as long as no head of a registered topic occurs in another topic.

* `registrations`: the topics that the calls of a run have registered, oldest first.
* `listsExactly_run`: filters and registry of a subscriber are those of its registrations.
* `answersTo_entry_iff`, `ListsExactly.handlerFor?_eq`: on topics whose heads are apart the lookup finds the first
  entry with that topic.
* `routed_delivery`: a body calls the handler of the first registration of its topic, and no other one.
-/

namespace DeviceBus

namespace Subscriber

variable {η : Type}

/-! ## Registrations -/

/-- A topic that was registered together with its handler. -/
structure Registration (η : Type) where
  head : String
  method : String
  handler : η

namespace Registration

/-- The topic of a registration. -/
def topic (registration : Registration η) : String :=
  Topic.compose registration.head registration.method

/-- The entry that a registration leaves in the registry. -/
def entry (registration : Registration η) : Registry.Entry η :=
  ⟨registration.method, registration.topic, some registration.handler⟩

/-- The filter that a registration leaves behind. -/
def filter (registration : Registration η) : ByteArray := registration.topic.toByteArray

end Registration

/-- What an event registers: the topic of a call that adds one, if it may be registered. -/
def Event.registration? : Event η → Option (Registration η)
  | .call (.addTopic head method handler) _ _ =>
      if Topic.fault? head method = none then some ⟨head, method, handler⟩ else none
  | _ => none

/-- The registrations of a run, the first one first. -/
def registrations (events : List (Event η)) : List (Registration η) :=
  events.filterMap Event.registration?

/-- An event that registers topics by a call or not at all: no prefix is subscribed to, and no handler
registers anything. -/
def Event.RegistersByCall : Event η → Prop
  | .call (.subscribePrefix _) _ _ => False
  | .task behaviour _ _ => behaviour.Quiet
  | _ => True

/-- No head occurs in the topic of a registration with another head. -/
def HeadsApart (registered : List (Registration η)) : Prop :=
  ∀ first ∈ registered, ∀ second ∈ registered, first.head ≠ second.head →
    ¬ first.head.toList <:+: second.topic.toList

/-- Filters and registry come from some registrations, one entry and one filter for each. -/
structure ListsExactly (subscription : Subscription η) (registered : List (Registration η)) :
    Prop where
  entries : subscription.registry.entries = registered.map Registration.entry
  filters : subscription.filters.accepted = registered.map Registration.filter
  faultless : ∀ registration ∈ registered,
    Topic.fault? registration.head registration.method = none

/-! ## Which events change a subscription -/

theorem subscription_openUp (subscriber : Subscriber η) :
    subscriber.openUp.2.subscription = subscriber.subscription := by
  unfold openUp
  split <;> rfl

theorem subscription_dial (subscriber : Subscriber η) (net : Network) :
    (subscriber.dial net).2.1.subscription = subscriber.subscription := by
  unfold dial
  split
  · rfl
  · split <;> rfl

theorem subscription_dialRetrying (subscriber : Subscriber η) (net : Network) (later : List Network) :
    (subscriber.dialRetrying net later).2.1.subscription = subscriber.subscription := by
  obtain ⟨last, hlast⟩ := exists_dialRetrying_eq_dial subscriber net later
  rw [hlast]
  exact subscription_dial subscriber last

theorem subscription_arm (subscriber : Subscriber η) (target : Target η) (stopped : Bool) :
    (subscriber.arm target stopped).2.subscription = subscriber.subscription := by
  unfold arm
  split
  · rfl
  · split <;> rfl

theorem subscription_stop (subscriber : Subscriber η) (net : Network) :
    (subscriber.stop net).2.1.subscription = subscriber.subscription := by
  unfold stop
  split
  · rfl
  · split <;> rfl

theorem subscription_close (subscriber : Subscriber η) (net : Network) :
    (subscriber.close net).2.1.subscription = subscriber.subscription := by
  have hstop := subscription_stop subscriber net
  unfold close
  split
  · rfl
  · split
    · rename_i heq
      rw [heq] at hstop
      exact hstop
    · rename_i heq
      rw [heq] at hstop
      exact hstop

theorem subscription_advance (subscriber : Subscriber η) {behaviour : Behaviour η}
    (hquiet : behaviour.Quiet) (stopped : Bool) (net : Network) :
    (subscriber.advance behaviour stopped net).subscription = subscriber.subscription := by
  unfold advance
  split
  · rfl
  · split
    · rfl
    · rename_i next hstep
      obtain hsame | ⟨body, hdelivered⟩ := ReceiveLoop.subscription_of_step hstep
      · exact hsame
      · exact hdelivered.trans (Subscription.subscription_deliver hquiet _ _ body)

/-! ## Filters and registry of a run -/

/-- Adding a topic registers it with its handler and subscribes to it, if it may be registered, and changes
nothing otherwise. -/
theorem addTopic_cases (subscriber : Subscriber η) (head method : String) (handler : η) :
    (Topic.fault? head method = none ∧
        ∃ index, subscriber.addTopic head method handler =
          (.ok index,
            { subscriber with
              subscription :=
                { filters := subscriber.subscription.filters.add (Topic.compose head method).toByteArray
                  registry := subscriber.subscription.registry.push head method (some handler) } })) ∨
      ((∃ fault, Topic.fault? head method = some fault) ∧
        ∃ error, subscriber.addTopic head method handler = (.error error, subscriber)) := by
  unfold addTopic
  obtain ⟨hfault, hadd⟩ | ⟨fault, hfault, hadd⟩ :=
    subscriber.subscription.registry.add_cases head method (some handler)
  · rw [hadd]
    exact .inl ⟨hfault, _, rfl⟩
  · rw [hadd]
    exact .inr ⟨⟨fault, hfault⟩, _, rfl⟩

theorem listsExactly_addTopic {subscriber : Subscriber η} {registered : List (Registration η)}
    (h : ListsExactly subscriber.subscription registered) (head method : String) (handler : η)
    (stopped : Bool) (net : Network) :
    ListsExactly (subscriber.addTopic head method handler).2.subscription
      (registered ++ (Event.call (.addTopic head method handler) stopped net).registration?.toList) := by
  rw [Event.registration?]
  obtain ⟨hfault, index, hadd⟩ | ⟨⟨fault, hfault⟩, error, hadd⟩ :=
    subscriber.addTopic_cases head method handler
  · rw [hadd, if_pos hfault, Option.toList_some]
    constructor
    · simp [Registry.push, h.entries, Registration.entry, Registration.topic]
    · simp [Filters.add, h.filters, Registration.filter, Registration.topic]
    · intro registration hmem
      rcases List.mem_append.1 hmem with hold | hnew
      · exact h.faultless registration hold
      · obtain rfl := List.mem_singleton.1 hnew
        exact hfault
  · rw [hadd, hfault, if_neg (Option.some_ne_none fault), Option.toList_none, List.append_nil]
    exact h

/-- An event adds what it registers to the filters and to the registry, and nothing else. -/
theorem listsExactly_step {life : Life η} {registered : List (Registration η)} {event : Event η}
    (h : ListsExactly life.subscriber.subscription registered) (hcalls : event.RegistersByCall) :
    ListsExactly (life.step event).subscriber.subscription
      (registered ++ event.registration?.toList) := by
  have hsame : ∀ {after : Subscriber η}, after.subscription = life.subscriber.subscription →
      ListsExactly after.subscription (registered ++ []) := by
    intro after hafter
    rw [hafter, List.append_nil]
    exact h
  cases event with
  | call operation stopped net =>
      cases operation with
      | openUp => exact hsame (subscription_openUp _)
      | dial => exact hsame (subscription_dial _ net)
      | addTopic head method handler => exact listsExactly_addTopic h head method handler stopped net
      | subscribePrefix text => exact hcalls.elim
      | arm target => exact hsame (subscription_arm _ target stopped)
      | stop => exact hsame (subscription_stop _ net)
      | close => exact hsame (subscription_close _ net)
  | dialRetrying net later => exact hsame (subscription_dialRetrying _ net later)
  | task behaviour stopped net => exact hsame (subscription_advance _ hcalls stopped net)

/-- After a run in which topics are registered by calls only, filters and registry are those of its
registrations. -/
theorem listsExactly_run (url : Url) (signal : Option String) {events : List (Event η)}
    (hcalls : ∀ event ∈ events, event.RegistersByCall) :
    ListsExactly ((Life.create url signal).run events).subscriber.subscription
      (registrations events) := by
  -- the registrations so far grow along the run, so they are an accumulator of the induction
  suffices h : ∀ (life : Life η) (registered : List (Registration η)),
      ListsExactly life.subscriber.subscription registered →
        ListsExactly (life.run events).subscriber.subscription
          (registered ++ registrations events) by
    simpa using h (Life.create url signal) [] ⟨rfl, rfl, by simp⟩
  induction events with
  | nil =>
      intro life registered h
      rw [registrations, List.filterMap_nil, List.append_nil]
      exact h
  | cons event events ih =>
      intro life registered h
      have hstep := listsExactly_step h (hcalls event List.mem_cons_self)
      have hrest := ih (fun later hmem => hcalls later (List.mem_cons_of_mem _ hmem)) _ _ hstep
      rw [registrations, filterMap_cons_eq_append, ← List.append_assoc]
      exact hrest

/-! ## From four tests to equality -/

/-- A filter of registered topics accepts a body exactly if the topic in it extends a registered one. -/
theorem ListsExactly.accepts_encode_iff {subscription : Subscription η}
    {registered : List (Registration η)} (h : ListsExactly subscription registered)
    (message : Message) :
    subscription.filters.accepts message.encode = true ↔
      ∃ registration ∈ registered, registration.topic.toList <+: message.topic.toList := by
  rw [Filters.accepts_iff, h.filters]
  simp only [List.mem_map, exists_exists_and_eq_and]
  refine exists_congr fun registration => and_congr_right fun hmem => ?_
  obtain ⟨-, ⟨hhead, hmethod⟩, -⟩ :=
    (Topic.fault?_eq_none_iff _ _).1 (h.faultless registration hmem)
  refine Message.prefix_encode_iff ?_
  rw [Registration.topic, Topic.toList_compose]
  simp [hhead, hmethod]

/-- Where a topic extends a registered one and heads are apart, an entry answers to it exactly if it is
the entry of that topic: its head can only be the one that was extended. -/
theorem answersTo_entry_iff {registered : List (Registration η)} (happart : HeadsApart registered)
    (hfaultless : ∀ registration ∈ registered,
      Topic.fault? registration.head registration.method = none)
    {extended registration : Registration η} (hextended : extended ∈ registered)
    (hmem : registration ∈ registered) {message : Message}
    (hbegins : extended.topic.toList <+: message.topic.toList) :
    registration.entry.answersTo message.head message.method = true ↔
      registration.topic = message.topic := by
  obtain ⟨-, -, ⟨hslash, -⟩, -⟩ := (Topic.fault?_eq_none_iff _ _).1 (hfaultless _ hextended)
  obtain ⟨-, -, ⟨hslash', -⟩, -⟩ := (Topic.fault?_eq_none_iff _ _).1 (hfaultless _ hmem)
  have hhead : message.head = extended.head := Topic.head_eq_of_begins hslash hbegins
  rw [Registry.Entry.answersTo, Bool.and_eq_true, decide_eq_true_iff, occursIn_iff_isInfix]
  show registration.method = message.method ∧ message.head.toList <:+: registration.topic.toList ↔ _
  constructor
  · rintro ⟨hmethod, hoccurs⟩
    -- the head of the message is that of the topic it extends, which occurs in no other topic
    have hsame : extended.head = registration.head := by
      by_contra hne
      rw [hhead] at hoccurs
      exact happart extended hextended registration hmem hne hoccurs
    -- a topic with a slash is put together again from its two parts
    have hcut : '/' ∈ message.topic.toList := by
      apply hbegins.subset
      rw [Registration.topic, Topic.toList_compose]
      simp
    calc registration.topic
        = Topic.compose message.head message.method := by
          rw [Registration.topic, hmethod, ← hsame, ← hhead]
      _ = message.topic := Topic.compose_head_method hcut
  · intro htopic
    have hmethod : message.method = registration.method := by
      rw [Message.method, ← htopic]
      exact Topic.method_compose _ hslash'
    have hsame : message.head = registration.head := by
      rw [Message.head, ← htopic]
      exact Topic.head_compose _ hslash'
    refine ⟨hmethod.symm, ?_⟩
    rw [hsame, Registration.topic, Topic.toList_compose]
    exact (List.prefix_append _ _).isInfix

/-- The handler of a message whose topic extends a registered one is that of the first registration of
its topic. -/
theorem ListsExactly.handlerFor?_eq {subscription : Subscription η}
    {registered : List (Registration η)} (h : ListsExactly subscription registered)
    (happart : HeadsApart registered) {message : Message} {extended : Registration η}
    (hextended : extended ∈ registered)
    (hbegins : extended.topic.toList <+: message.topic.toList) :
    subscription.registry.handlerFor? message =
      (registered.find? (·.topic = message.topic)).map Registration.handler := by
  have hfind : registered.find? (Registry.Entry.answersTo message.head message.method ∘
      Registration.entry) = registered.find? (·.topic = message.topic) := by
    apply List.find?_congr
    intro registration hmem
    rw [Bool.eq_iff_iff, decide_eq_true_iff]
    exact answersTo_entry_iff happart h.faultless hextended hmem hbegins
  rw [Registry.handlerFor?_eq, h.entries, List.find?_map, hfind]
  cases registered.find? (·.topic = message.topic) <;> rfl

/-- The call that a body leads to: that of the first registration of its topic, if it has one. -/
theorem ListsExactly.call_deliver {subscription : Subscription η}
    {registered : List (Registration η)} (h : ListsExactly subscription registered)
    (happart : HeadsApart registered) (behaviour : Behaviour η) (body : ByteArray) (call : Call η) :
    (subscription.deliver behaviour .routed body).call = some call ↔
      Message.decode body = .ok call.message ∧
        ∃ registration, registered.find? (·.topic = call.message.topic) = some registration ∧
          registration.handler = call.handler := by
  unfold Subscription.deliver
  cases haccepted : subscription.accepted? body with
  | none =>
      refine iff_of_false nofun ?_
      rintro ⟨hdecode, registration, hfound, -⟩
      -- a registration of the topic would have left a filter that accepts the body
      obtain ⟨-, rfl⟩ := (Message.decode_eq_ok_iff _ _).1 hdecode
      have htopic : registration.topic = call.message.topic := by
        simpa using List.find?_some hfound
      have haccepts : subscription.filters.accepts call.message.encode = true := by
        rw [h.accepts_encode_iff]
        exact ⟨registration, List.mem_of_find?_eq_some hfound, htopic ▸ List.prefix_refl _⟩
      rw [(subscription.accepted?_eq_some_iff _ _).2 ⟨haccepts, hdecode⟩] at haccepted
      cases haccepted
  | some message =>
      obtain ⟨haccepts, hdecode⟩ := (subscription.accepted?_eq_some_iff _ _).1 haccepted
      obtain ⟨-, rfl⟩ := (Message.decode_eq_ok_iff _ _).1 hdecode
      obtain ⟨extended, hextended, hbegins⟩ := (h.accepts_encode_iff message).1 haccepts
      simp only [Subscription.deliverRouted, Registry.called_dispatch, hdecode,
        h.handlerFor?_eq happart hextended hbegins, Option.map_map, Option.map_eq_some_iff,
        Except.ok.injEq]
      constructor
      · rintro ⟨registration, hfound, rfl⟩
        exact ⟨rfl, registration, hfound, rfl⟩
      · rintro ⟨rfl, registration, hfound, hhandler⟩
        exact ⟨registration, hfound, by rw [Function.comp_apply, hhandler]⟩

/-- **Exact routed delivery.**  A subscriber goes through any events in which its topics are registered by
calls, in any number and order, and no head of a registration occurs in the topic of one with another
head.  Then for every body, whatever its bytes and whatever the handlers do:

* delivering it calls a handler exactly if it is the body of a message and the topic of that message is
  one of those registered;
* the call is then that of the first registration of that very topic, with that message;
* and the step of a routed loop that receives the body makes this one call, or none. -/
theorem routed_delivery (url : Url) (signal : Option String) (events : List (Event η))
    (hcalls : ∀ event ∈ events, event.RegistersByCall) (happart : HeadsApart (registrations events))
    (behaviour : Behaviour η) (body : ByteArray) :
    let subscription := ((Life.create url signal).run events).subscriber.subscription
    let delivery := subscription.deliver behaviour .routed body
    (delivery.call.isSome = true ↔
      ∃ message, Message.decode body = .ok message ∧
        ∃ registration ∈ registrations events, registration.topic = message.topic) ∧
    (∀ call, delivery.call = some call ↔
      Message.decode body = .ok call.message ∧
        ∃ registration, (registrations events).find? (·.topic = call.message.topic) =
          some registration ∧ registration.handler = call.handler) ∧
    (∀ (loop : ReceiveLoop η) (net net' : Network) (stream : Stream),
      loop.target = .routed → loop.ended = none → loop.isCancelled = false →
      loop.stream.step net = some (.frame body, stream, net') →
      ∃ next, loop.step subscription behaviour false net = some next ∧ next.call = delivery.call) := by
  intro subscription delivery
  have hlists : ListsExactly subscription (registrations events) := listsExactly_run url signal hcalls
  have hcall := hlists.call_deliver happart behaviour body
  refine ⟨?_, hcall, ?_⟩
  · rw [Option.isSome_iff_exists]
    constructor
    · rintro ⟨call, hmade⟩
      obtain ⟨hdecode, registration, hfound, -⟩ := (hcall call).1 hmade
      exact ⟨call.message, hdecode, registration, List.mem_of_find?_eq_some hfound,
        by simpa using List.find?_some hfound⟩
    · rintro ⟨message, hdecode, registration, hmem, htopic⟩
      cases hfound : (registrations events).find? (·.topic = message.topic) with
      | none =>
          have hother := List.find?_eq_none.1 hfound registration hmem
          simp [htopic] at hother
      | some first => exact ⟨⟨first.handler, message⟩, (hcall _).2 ⟨hdecode, first, hfound, rfl⟩⟩
  · intro loop net net' stream htarget hgoing hcancelled hstep
    refine ⟨loop.react subscription behaviour stream net' (.frame body), ?_, ?_⟩
    · simp [loop.step_eq, hgoing, hcancelled, hstep]
    · show (subscription.deliver behaviour loop.target body).call = delivery.call
      rw [htarget]

/-- Two topics share their method, and one of them is registered twice: a message for it calls the first of
its handlers. -/
theorem routed_delivery_shared_method :
    let net : Network := { files := .fresh }
    let events : List (Event Nat) :=
      [.call (.addTopic "hal" "report" 1) false net, .call (.addTopic "kvs" "report" 2) false net,
        .call (.addTopic "kvs" "report" 3) false net]
    let subscriber := ((Life.create (.ipc "/run/back.sock") none).run events).subscriber
    let message : Message := ⟨"kvs/report", "ok".toByteArray⟩
    (subscriber.subscription.deliver (fun _ _ => .finish .succeeded) .routed message.encode).call =
      some ⟨2, message⟩ := by
  intro net events subscriber message
  have hregistered : registrations events =
      [⟨"hal", "report", 1⟩, ⟨"kvs", "report", 2⟩, ⟨"kvs", "report", 3⟩] := by
    have hhal : Topic.fault? "hal" "report" = none := by
      rw [Topic.fault?_eq_none_iff]
      decide
    have hkvs : Topic.fault? "kvs" "report" = none := by
      rw [Topic.fault?_eq_none_iff]
      decide
    simp [events, registrations, Event.registration?, hhal, hkvs]
  have hcalls : ∀ event ∈ events, event.RegistersByCall := by
    simp [events, Event.RegistersByCall]
  have happart : HeadsApart (registrations events) := by
    have hhal : ¬ "hal".toList <:+: (Topic.compose "kvs" "report").toList := by
      rw [Topic.toList_compose]
      decide
    have hkvs : ¬ "kvs".toList <:+: (Topic.compose "hal" "report").toList := by
      rw [Topic.toList_compose]
      decide
    rw [hregistered, HeadsApart]
    simpa [Registration.topic] using ⟨hhal, hkvs⟩
  have hsendable : message.Sendable := by
    unfold Message.Sendable
    decide
  have hdelivery := routed_delivery (.ipc "/run/back.sock") none events hcalls happart
    (fun _ _ => .finish .succeeded) message.encode
  refine (hdelivery.2.1 ⟨2, message⟩).2 ⟨Message.decode_encode hsendable, ⟨"kvs", "report", 2⟩, ?_, rfl⟩
  have hhal : Topic.compose "hal" "report" ≠ "kvs/report" := by decide
  have hkvs : Topic.compose "kvs" "report" = "kvs/report" := by decide
  rw [hregistered]
  simp [Registration.topic, message, hhal, hkvs]

end Subscriber

end DeviceBus
