import DeviceBus.Proofs.Publisher.Lifecycle
import Mathlib.Data.List.Induction

/-!
# Addresses on the wire

A message is addressed by a head and a method.  They are joined into one topic, which ends at the first zero
byte of the body and is split at its first slash by whoever receives it.  What may be published is what can be
told apart again.  A topic that was registered is another way to say the same.

* `Publisher.decode_of_validate`: the body of a message gives back its head, its method and its payload.
* `Publisher.Call.addition?`, `Publisher.Life.registry_run`: the registry of a publisher is what the calls of
  its owner have added.
* `Publisher.messageTo_registered`: the message for an index is that for the pair that was registered there.
* `Publisher.addressing_survives`: the three together, for every publisher after every run of calls.
-/

namespace DeviceBus.Publisher

/-! ## Topics -/

theorem messageTo_of_validate {head method : String} (h : Topic.validate head method = .ok ())
    (publisher : Publisher) (payload : ByteArray) :
    publisher.messageTo payload (.topic head method) = .ok (.of head method payload) := by
  rw [messageTo, message, h]
  rfl

theorem slash_not_mem_of_validate {head method : String} (h : Topic.validate head method = .ok ()) :
    '/' ∉ head.toList := by
  obtain ⟨-, -, ⟨hslash, -⟩, -⟩ :=
    (Topic.fault?_eq_none_iff head method).1 ((Topic.validate_eq_ok_iff head method).1 h)
  exact hslash

/-- The body of a message gives back its head, its method and its payload. -/
theorem decode_of_validate {head method : String} (h : Topic.validate head method = .ok ())
    (payload : ByteArray) :
    Message.decode (Message.of head method payload).encode = .ok (Message.of head method payload) ∧
      (Message.of head method payload).head = head ∧ (Message.of head method payload).method = method ∧
      (Message.of head method payload).payload = payload := by
  have hslash := slash_not_mem_of_validate h
  exact ⟨Message.decode_encode (Message.sendable_of_validate h payload), Topic.head_compose method hslash,
    Topic.method_compose method hslash, rfl⟩

/-- Publishing that succeeds has added one frame, whose body is that of the message. -/
theorem complete_added {publisher : Publisher} {address : Address} {payload : ByteArray} {net : Network}
    {reply : Reply} (h : Published publisher address payload net reply) {message : Message}
    (hmessage : publisher.messageTo payload address = .ok message) (hok : reply.answer = some (.ok ())) :
    Frame.complete reply.added = [message.encode] ∧ reply.added = Frame.bytes message.encode := by
  obtain ⟨other, frame, hother, hframe, hadded, -⟩ := added_of_ok h hok
  obtain rfl : other = message := Except.ok.inj (hother.symm.trans hmessage)
  obtain ⟨hfits, hbytes⟩ := (Frame.encode_eq_ok_iff _ _).1 hframe
  refine ⟨?_, hadded.trans hbytes⟩
  rw [hadded, hbytes, ← List.append_nil (Frame.bytes _), Frame.complete_append_frame hfits,
    Frame.complete_nil]

/-! ## Registered topics -/

/-- The topic that a call is to register, if there is one. -/
def Call.addition? : Call → Option (Registry.Addition Unit)
  | .operate (.addTopic head method) _ => some ⟨head, method, none⟩
  | _ => none

/-- A call adds its topic to the registry and does nothing else to it. -/
theorem registry_reply {publisher : Publisher} (h : publisher.Coherent) (call : Call) :
    (publisher.reply call).publisher.registry = publisher.registry.addAll call.addition?.toList := by
  have hdial : ∀ net, (publisher.dial net).2.1.registry = publisher.registry := by
    intro net
    rcases publisher.dial_cases net with ⟨error, hdial⟩ | ⟨-, socket, after, -, hdial⟩
    · rw [hdial]
    · rw [hdial]
  cases call with
  | operate operation net =>
      cases operation with
      | openUp =>
          simp only [reply, perform, openUp]
          split <;> rfl
      | dial => exact hdial net
      | addTopic head method => rfl
      | close =>
          simp only [reply, perform, close]
          split <;> rfl
  | dialRetrying net later =>
      obtain ⟨last, -, hlast, -⟩ := publisher.exists_dialRetrying_eq net later
      simp only [reply, hlast]
      exact hdial last
  | publish address payload net later =>
      have hpublished := published_publish h address payload net later
      rw [reply]
      generalize publisher.publish address payload net later = reply at hpublished
      cases hpublished <;> rfl

theorem Life.publisher_after (life : Life) (call : Call) (reply : Reply) :
    (life.after call reply).publisher = reply.publisher := by
  rw [Life.after]
  split <;> rfl

/-- The registry of a publisher is what the calls that were made have added, which are all up to one that has
not returned. -/
theorem Life.registry_run (url : Url) (calls : List Call) :
    ∃ made, made <+: calls ∧ (((create url).run calls).waiting = false → made = calls) ∧
      ((create url).run calls).publisher.registry = (∅ : Registry Unit).addAll (made.filterMap Call.addition?) := by
  induction calls using List.reverseRecOn with
  | nil => exact ⟨[], List.prefix_rfl, fun _ => rfl, rfl⟩
  | append_singleton calls call ih =>
      obtain ⟨made, hmade, hall, hregistry⟩ := ih
      have hcoherent := (sound_run url calls).coherent
      rw [run, List.foldl_append, List.foldl_cons, List.foldl_nil, ← run, step]
      split
      · rename_i hwaiting
        refine ⟨made, hmade.trans (List.prefix_append _ _), fun hreturned => ?_, hregistry⟩
        rw [hwaiting] at hreturned
        cases hreturned
      · rename_i hreturned
        obtain rfl := hall (Bool.eq_false_iff.2 hreturned)
        refine ⟨made ++ [call], List.prefix_rfl, fun _ => rfl, ?_⟩
        have hlast : [call].filterMap Call.addition? = call.addition?.toList := by
          rw [List.filterMap_cons]
          cases call.addition? <;> rfl
        rw [publisher_after, registry_reply hcoherent, hregistry, List.filterMap_append,
          Registry.addAll_append, hlast]

theorem entries_of_additions {publisher : Publisher} {additions : List (Registry.Addition Unit)}
    (hregistry : publisher.registry = (∅ : Registry Unit).addAll additions) :
    publisher.registry.entries = (Registry.registered additions).map Registry.Addition.entry := by
  rw [hregistry, Registry.entries_addAll]
  rfl

/-- At every index of a registry that was filled by calls stands the pair of one of them. -/
theorem exists_addition {publisher : Publisher} {additions : List (Registry.Addition Unit)}
    (hregistry : publisher.registry = (∅ : Registry Unit).addAll additions) {index : Nat}
    (hinside : index < publisher.registry.size) :
    ∃ addition, (Registry.registered additions)[index]? = some addition := by
  rw [Registry.size, entries_of_additions hregistry, List.length_map] at hinside
  exact ⟨_, List.getElem?_eq_getElem hinside⟩

/-- The message for an index is the one for the pair that was registered there. -/
theorem messageTo_registered {publisher : Publisher} {additions : List (Registry.Addition Unit)}
    (hregistry : publisher.registry = (∅ : Registry Unit).addAll additions) {index : Nat}
    {addition : Registry.Addition Unit} (haddition : (Registry.registered additions)[index]? = some addition)
    (payload : ByteArray) :
    publisher.messageTo payload (.registered index) =
      publisher.messageTo payload (.topic addition.head addition.method) := by
  have hvalid : Topic.validate addition.head addition.method = .ok () := by
    have hfault := (List.mem_filter.1 (List.mem_of_getElem? haddition)).2
    exact (Topic.validate_eq_ok_iff _ _).2 (of_decide_eq_true hfault)
  have hentry : publisher.registry.entry? index = some addition.entry := by
    rw [Registry.entry?, entries_of_additions hregistry, List.getElem?_map, haddition, Option.map_some]
  rw [messageTo_of_validate hvalid, messageTo, registeredMessage, hentry]
  rfl

/-! ## What is sent -/

/-- On a device, publishing to two addresses with the same message is the same. -/
theorem publishTo_congr {η : Type} {device : Device η} {id : PublisherId} {publisher : Publisher}
    (h : device.publishers[id]? = some publisher) (behaviour : Behaviour η) {payload : ByteArray}
    {first second : Address} (hsame : publisher.messageTo payload first = publisher.messageTo payload second) :
    device.publishTo behaviour id payload first = device.publishTo behaviour id payload second := by
  cases hmessage : publisher.messageTo payload second with
  | error error =>
      rw [Device.publishTo_of_error h hmessage, Device.publishTo_of_error h (hsame.trans hmessage)]
  | ok message => rw [Device.publishTo_of_ok h hmessage, Device.publishTo_of_ok h (hsame.trans hmessage)]

/-- **Addresses survive.**  After every sequence of calls:

* for a head and a method that may be published, the body of the message gives back exactly these and the
  payload, and publishing that succeeds has added one frame with this body;
* pairs that may be published are the same if their topics are;
* at every index of the registry stands a pair that was registered by one of the calls that were made, and
  publishing for the index is publishing for that pair, on a device as well. -/
theorem addressing_survives (url : Url) (calls : List Call) :
    let life := (Life.create url).run calls
    let publisher := life.publisher
    (∀ head method payload, Topic.validate head method = .ok () → ∃ message,
      publisher.messageTo payload (.topic head method) = .ok message ∧
      (∃ decoded, Message.decode message.encode = .ok decoded ∧
        decoded.head = head ∧ decoded.method = method ∧ decoded.payload = payload) ∧
      ∀ net later, let reply := publisher.reply (.publish (.topic head method) payload net later)
        reply.answer = some (.ok ()) →
          Frame.complete reply.added = [message.encode] ∧ reply.added = Frame.bytes message.encode) ∧
    (∀ head method head' method', Topic.validate head method = .ok () → Topic.validate head' method' = .ok () →
      Topic.compose head method = Topic.compose head' method' → head = head' ∧ method = method') ∧
    ∃ made, made <+: calls ∧ (life.waiting = false → made = calls) ∧
      ∀ index, index < publisher.registry.size → ∃ addition,
        (Registry.registered (made.filterMap Call.addition?))[index]? = some addition ∧
        ∀ payload,
          publisher.messageTo payload (.registered index) =
            publisher.messageTo payload (.topic addition.head addition.method) ∧
          (∀ net later, publisher.reply (.publish (.registered index) payload net later) =
            publisher.reply (.publish (.topic addition.head addition.method) payload net later)) ∧
          ∀ (η : Type) (device : Device η) behaviour id, device.publishers[id]? = some publisher →
            device.publishRegistered behaviour id index payload =
              device.publish behaviour id addition.head addition.method payload := by
  intro life publisher
  have hcoherent : publisher.Coherent := (Life.sound_run url calls).coherent
  refine ⟨fun head method payload hvalid => ?_, fun head method head' method' hvalid hvalid' heq => ?_, ?_⟩
  · have hmessage := messageTo_of_validate hvalid publisher payload
    refine ⟨_, hmessage, ⟨_, decode_of_validate hvalid payload⟩, fun net later => ?_⟩
    exact complete_added (published_publish hcoherent _ payload net later) hmessage
  · exact (Topic.compose_inj (slash_not_mem_of_validate hvalid) (slash_not_mem_of_validate hvalid')).1 heq
  · obtain ⟨made, hmade, hall, hregistry⟩ := Life.registry_run url calls
    refine ⟨made, hmade, hall, fun index hinside => ?_⟩
    obtain ⟨addition, haddition⟩ := exists_addition hregistry hinside
    refine ⟨addition, haddition, fun payload => ?_⟩
    have hsame := messageTo_registered hregistry haddition payload
    refine ⟨hsame, fun net later => ?_, fun η device behaviour id hpublisher => ?_⟩
    · rw [reply, reply, publish, publish, hsame]
    · exact publishTo_congr hpublisher behaviour hsame

end DeviceBus.Publisher
