import DeviceBus.Proofs.Runs
import DeviceBus.Proofs.Subscriber.Routing

/-!
# What the filters select

A filter is compared with the bytes of a whole body, topic, terminator and payload.  If it holds no zero byte it
cannot reach over the terminator, so it is the topic alone that decides.  The filters of a subscriber are the
topics that it has added and the texts that it has subscribed to, in their order: they are never taken back, and
what is refused leaves none behind.

* `Filters.accepts_encode_iff`: what filters without zero bytes accept.
* `beginsWith_head_iff`: what a head with a slash accepts.
* `filters_step`, `filters_run`: the filters of a subscriber after any events.
* `filters_select_by_topic`: all of that together.
-/

namespace DeviceBus

/-- Filters without zero bytes accept a message exactly if one of them begins its topic. -/
theorem Filters.accepts_encode_iff {filters : Filters}
    (hfree : ∀ filter ∈ filters.accepted, (0 : UInt8) ∉ bytesOf filter) (message : Message) :
    filters.accepts message.encode = true ↔
      ∃ filter ∈ filters.accepted, bytesOf filter <+: bytesOf message.topic.toByteArray := by
  rw [accepts_iff]
  exact exists_congr fun filter => and_congr_right fun hmem =>
    Message.bytes_prefix_encode_iff (hfree filter hmem) message

namespace Subscriber

variable {η : Type}

/-- A head with a slash behind it begins exactly the messages that have this head and a slash. -/
theorem beginsWith_head_iff {head : String} (hslash : '/' ∉ head.toList) (hzero : '\x00' ∉ head.toList)
    (message : Message) :
    beginsWith (head ++ "/").toByteArray message.encode = true ↔
      message.head = head ∧ '/' ∈ message.topic.toList := by
  have hfree : '\x00' ∉ (head ++ "/").toList := by simp [hzero]
  rw [beginsWith_iff, Message.prefix_encode_iff hfree, Topic.begins_iff hslash, Message.head]

/-! ## The filters of a subscriber -/

/-- The filter that an event leaves behind, if it does: the topic that is added, if it may be registered, or the
text that is subscribed to. -/
def Event.filter? : Event η → Option ByteArray
  | .call (.addTopic head method _) _ _ =>
      if Topic.fault? head method = none then some (Topic.compose head method).toByteArray else none
  | .call (.subscribePrefix text) _ _ => some text.toByteArray
  | _ => none

theorem filters_addTopic (subscriber : Subscriber η) (head method : String) (handler : η)
    (stopped : Bool) (net : Network) :
    (subscriber.addTopic head method handler).2.subscription.filters.accepted =
      subscriber.subscription.filters.accepted ++
        (Event.call (.addTopic head method handler) stopped net).filter?.toList := by
  rw [Event.filter?]
  obtain ⟨hfault, index, hadd⟩ | ⟨⟨fault, hfault⟩, error, hadd⟩ :=
    subscriber.addTopic_cases head method handler
  · rw [hadd, if_pos hfault]
    rfl
  · rw [hadd, hfault, if_neg (Option.some_ne_none fault), Option.toList_none, List.append_nil]

/-- A receive task adds no filter and takes none away, whatever its handlers do. -/
theorem filters_advance (subscriber : Subscriber η) (behaviour : Behaviour η) (stopped : Bool)
    (net : Network) :
    (subscriber.advance behaviour stopped net).subscription.filters =
      subscriber.subscription.filters := by
  unfold advance
  split
  · rfl
  · split
    · rfl
    · rename_i next hstep
      exact ReceiveLoop.filters_of_step hstep

/-- An event adds its filter behind the others, and changes nothing else about them. -/
theorem filters_step (life : Life η) (event : Event η) :
    (life.step event).subscriber.subscription.filters.accepted =
      life.subscriber.subscription.filters.accepted ++ event.filter?.toList := by
  have hsame : ∀ {after : Subscriber η},
      after.subscription.filters = life.subscriber.subscription.filters →
        after.subscription.filters.accepted =
          life.subscriber.subscription.filters.accepted ++ [] := by
    intro after hafter
    rw [hafter, List.append_nil]
  have hkept : ∀ {after : Subscriber η}, after.subscription = life.subscriber.subscription →
      after.subscription.filters.accepted =
        life.subscriber.subscription.filters.accepted ++ [] :=
    fun hafter => hsame (congrArg Subscription.filters hafter)
  cases event with
  | call operation stopped net =>
      cases operation with
      | openUp => exact hkept (subscription_openUp _)
      | dial => exact hkept (subscription_dial _ net)
      | addTopic head method handler => exact filters_addTopic _ head method handler stopped net
      | subscribePrefix text => rfl
      | arm target => exact hkept (subscription_arm _ target stopped)
      | stop => exact hkept (subscription_stop _ net)
      | close => exact hkept (subscription_close _ net)
  | dialRetrying net later => exact hkept (subscription_dialRetrying _ net later)
  | task behaviour stopped net => exact hsame (filters_advance _ behaviour stopped net)

/-- The filters after some events are those from before and those that the events leave behind. -/
theorem filters_run (life : Life η) (events : List (Event η)) :
    (life.run events).subscriber.subscription.filters.accepted =
      life.subscriber.subscription.filters.accepted ++ events.filterMap Event.filter? :=
  foldl_leaves (·.subscriber.subscription.filters.accepted) filters_step life events

/-- A topic that was added passes the filters with any payload, whatever comes after. -/
theorem accepts_of_addTopic {life : Life η} {head method : String} {handler : η} {index : Nat}
    (hanswer : (life.subscriber.addTopic head method handler).1 = .ok index) (stopped : Bool)
    (net : Network) (later : List (Event η)) (payload : ByteArray) :
    ((life.step (.call (.addTopic head method handler) stopped net)).run
      later).subscriber.subscription.filters.accepts (Message.of head method payload).encode = true := by
  have hfault : Topic.fault? head method = none := by
    obtain ⟨hfault, -⟩ | ⟨-, error, hadd⟩ := life.subscriber.addTopic_cases head method handler
    · exact hfault
    · rw [hadd] at hanswer
      cases hanswer
  rw [Filters.accepts_iff, filters_run, filters_step, Event.filter?, if_pos hfault, Option.toList_some]
  refine ⟨(Topic.compose head method).toByteArray, ?_, ?_⟩
  · exact List.mem_append_left _ (List.mem_append_right _ (List.mem_singleton_self _))
  · rw [Message.bytesOf_encode]
    exact List.prefix_append _ _

/-- **Filters select by topic.**  Filters that hold no zero bytes accept a message exactly if one of them begins
the topic, byte by byte, and so whatever the payload is.  For a subscriber after any events, among them the
adding of topics, accepted or not, and subscriptions to texts:

* its filters are the topics that were accepted and the texts that were subscribed to, in their order;
* a topic that is accepted passes them from then on, with any payload, and one that is refused changes nothing;
* subscribing to a head without zero characters and slashes, with a slash behind it, lets exactly those messages
  pass in addition that have this head and a slash in their topic. -/
theorem filters_select_by_topic (url : Url) (signal : Option String) (events : List (Event η)) :
    let life := (Life.create url signal).run events
    let subscriber := life.subscriber
    (∀ filters : Filters, (∀ filter ∈ filters.accepted, (0 : UInt8) ∉ bytesOf filter) →
      ∀ message : Message,
        (filters.accepts message.encode = true ↔
          ∃ filter ∈ filters.accepted, bytesOf filter <+: bytesOf message.topic.toByteArray) ∧
        ∀ payload, filters.accepts (Message.mk message.topic payload).encode =
          filters.accepts message.encode) ∧
    subscriber.subscription.filters.accepted = events.filterMap Event.filter? ∧
    (∀ head method handler,
      (∀ index, (subscriber.addTopic head method handler).1 = .ok index →
        ∀ stopped net later payload,
          ((life.step (.call (.addTopic head method handler) stopped net)).run
            later).subscriber.subscription.filters.accepts
              (Message.of head method payload).encode = true) ∧
      (∀ error, (subscriber.addTopic head method handler).1 = .error error →
        (subscriber.addTopic head method handler).2 = subscriber)) ∧
    (∀ head : String, '/' ∉ head.toList → '\x00' ∉ head.toList → ∀ message : Message,
      (Filters.accepts ⟨[(head ++ "/").toByteArray]⟩ message.encode = true ↔
        message.head = head ∧ '/' ∈ message.topic.toList) ∧
      ((subscriber.subscribePrefix (head ++ "/")).subscription.filters.accepts message.encode = true ↔
        subscriber.subscription.filters.accepts message.encode = true ∨
          message.head = head ∧ '/' ∈ message.topic.toList)) := by
  intro life subscriber
  refine ⟨fun filters hfree message => ?_, filters_run _ events, fun head method handler => ⟨?_, ?_⟩,
    fun head hslash hzero message => ?_⟩
  · refine ⟨Filters.accepts_encode_iff hfree message, fun payload => ?_⟩
    rw [Bool.eq_iff_iff, Filters.accepts_encode_iff hfree, Filters.accepts_encode_iff hfree]
  · intro index hanswer
    exact accepts_of_addTopic hanswer
  · intro error hanswer
    obtain ⟨-, index, hadd⟩ | ⟨-, fault, hadd⟩ := subscriber.addTopic_cases head method handler
    · rw [hadd] at hanswer
      cases hanswer
    · rw [hadd]
  · have hbegins := beginsWith_head_iff hslash hzero message
    refine ⟨?_, ?_⟩
    · rw [← hbegins]
      simp [Filters.accepts]
    · rw [← hbegins, subscribePrefix]
      show (Filters.add _ _).accepts _ = true ↔ _
      rw [Filters.accepts_add, Bool.or_eq_true]

end Subscriber

end DeviceBus
