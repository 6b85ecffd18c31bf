import DeviceBus.Endpoint.Subscriber
import Mathlib.Logic.Basic
import Mathlib.Tactic.ByContra

/-!
# The life of a subscriber

A subscriber is used through its operations, each of which runs to completion, while its receive task goes
on by itself and may end for any reason.  This module follows all sequences of those events.  The network
is a parameter of every event that looks at it: whatever the rest of the world does between two events is
covered by the choice of the next network.

* `Coherent` says how the optional parts of a subscriber hang together with its state.
* `coherent_perform`, `coherent_dialRetrying`, `coherent_advance`: every event keeps it.
* `Life` counts, beside the subscriber, the tasks that were started and those that were collected.
* `lifecycle` is what holds after every run: at most one task, a reader or a task exactly while connected,
  a link exactly while connected, and no effect of a refused call or a failed dial.
-/

namespace DeviceBus

namespace Subscriber

variable {η : Type}

/-! ## Operations and the receive task -/

/-- What the owner of a subscriber can do with it. -/
inductive Operation (η : Type) where
  | openUp
  | dial
  | addTopic (head method : String) (handler : η)
  | subscribePrefix (text : String)
  | arm (target : Target η)
  | stop
  | close

/-- What an operation that succeeds answers. -/
inductive Answer where
  | done
  | index (index : Nat)
  | outcome (outcome : ReceiveOutcome)

/-- Carry out an operation; `stopped` tells whether the signal of the subscriber was given. -/
def perform (subscriber : Subscriber η) (stopped : Bool) (net : Network) :
    Operation η → Except BusError Answer × Subscriber η × Network
  | .openUp =>
      let (result, subscriber) := subscriber.openUp
      (result.map fun _ => .done, subscriber, net)
  | .dial =>
      let (result, subscriber, net) := subscriber.dial net
      (result.map fun _ => .done, subscriber, net)
  | .addTopic head method handler =>
      let (result, subscriber) := subscriber.addTopic head method handler
      (result.map .index, subscriber, net)
  | .subscribePrefix text => (.ok .done, subscriber.subscribePrefix text, net)
  | .arm target =>
      let (result, subscriber) := subscriber.arm target stopped
      (result.map fun _ => .done, subscriber, net)
  | .stop =>
      let (result, subscriber, net) := subscriber.stop net
      (result.map .outcome, subscriber, net)
  | .close =>
      let (result, subscriber, net) := subscriber.close net
      (result.map fun _ => .done, subscriber, net)

/-- One step of the receive task, if there is one and it has something to do. -/
def advance (subscriber : Subscriber η) (behaviour : Behaviour η) (stopped : Bool) (net : Network) :
    Subscriber η :=
  match subscriber.receive with
  | none => subscriber
  | some loop =>
      match loop.step subscriber.subscription behaviour stopped net with
      | none => subscriber
      | some next => { subscriber with receive := some next.loop, subscription := next.subscription }

/-! ## The invariant -/

/-- How the parts of a subscriber hang together: the link is held exactly while it is connected, and then
the reader is either its own or with the receive task; otherwise there is neither. -/
structure Coherent (subscriber : Subscriber η) : Prop where
  link : subscriber.link.isSome = true ↔ subscriber.state = .connected
  connected : subscriber.state = .connected → subscriber.reader.isSome = !subscriber.receive.isSome
  apart : subscriber.state ≠ .connected → subscriber.reader = none ∧ subscriber.receive = none

theorem coherent_create (url : Url) (signal : Option String) :
    (create url signal : Subscriber η).Coherent := by
  constructor <;> simp [create, EndpointState.initial]

/-- The invariant looks at four parts only. -/
theorem Coherent.congr {before after : Subscriber η} (h : before.Coherent)
    (hstate : after.state = before.state) (hlink : after.link = before.link)
    (hreader : after.reader = before.reader)
    (hreceive : after.receive.isSome = before.receive.isSome) : after.Coherent where
  link := by rw [hlink, hstate]; exact h.link
  connected := by rw [hstate, hreader, hreceive]; exact h.connected
  apart := by
    intro hne
    rw [hstate] at hne
    obtain ⟨hnoReader, hnoTask⟩ := h.apart hne
    refine ⟨hreader.trans hnoReader, ?_⟩
    rw [hnoTask, Option.isSome_none] at hreceive
    simpa using hreceive

/-- A connected subscriber without a task has its reader. -/
theorem Coherent.exists_reader {subscriber : Subscriber η} (h : subscriber.Coherent)
    (hstate : subscriber.state = .connected) (htask : subscriber.receive = none) :
    ∃ stream, subscriber.reader = some stream := by
  have hreader := h.connected hstate
  rw [htask] at hreader
  exact Option.isSome_iff_exists.1 hreader

/-- A task is recorded only while the subscriber is connected. -/
theorem Coherent.connected_of_receive {subscriber : Subscriber η} {loop : ReceiveLoop η}
    (h : subscriber.Coherent) (htask : subscriber.receive = some loop) :
    subscriber.state = .connected := by
  by_contra hne
  rw [(h.apart hne).2] at htask
  cases htask

/-- The reader of a subscriber that is armed has gone to its loop. -/
theorem Coherent.reader_of_receive {subscriber : Subscriber η} {loop : ReceiveLoop η}
    (h : subscriber.Coherent) (hloop : subscriber.receive = some loop) : subscriber.reader = none := by
  have hexclusive := h.connected (h.connected_of_receive hloop)
  rw [hloop] at hexclusive
  simpa using hexclusive

theorem coherent_openUp {subscriber : Subscriber η} (h : subscriber.Coherent) :
    subscriber.openUp.2.Coherent := by
  unfold openUp
  split
  · rename_i hclosed
    have hne : subscriber.state ≠ .connected := by rw [hclosed]; decide
    have hlink : subscriber.link.isSome ≠ true := fun hsome => hne (h.link.1 hsome)
    exact {
      link := by simpa using hlink
      connected := by simp
      apart := fun _ => h.apart hne }
  · exact h

theorem coherent_dial {subscriber : Subscriber η} (h : subscriber.Coherent) (net : Network) :
    (subscriber.dial net).2.1.Coherent := by
  unfold dial
  split
  · exact h
  · rename_i hopened
    have hne : subscriber.state ≠ .connected := by
      intro hconnected
      rw [hconnected] at hopened
      exact hopened (by decide)
    split
    · exact h
    · exact {
        link := by simp
        connected := by simp [(h.apart hne).2]
        apart := by simp }

/-- Attempts that fail leave no trace: dialling with retries is the dial of one attempt. -/
theorem exists_dialRetrying_eq_dial (subscriber : Subscriber η) (net : Network)
    (later : List Network) : ∃ last, subscriber.dialRetrying net later = subscriber.dial last := by
  induction later generalizing net with
  | nil => exact ⟨net, rfl⟩
  | cons next later ih =>
      unfold dialRetrying
      split
      · rename_i hcons _
        obtain ⟨rfl, rfl⟩ := List.cons.inj hcons
        exact ih _
      · exact ⟨net, rfl⟩

theorem coherent_dialRetrying {subscriber : Subscriber η} (h : subscriber.Coherent)
    (net : Network) (later : List Network) : (subscriber.dialRetrying net later).2.1.Coherent := by
  obtain ⟨last, hlast⟩ := exists_dialRetrying_eq_dial subscriber net later
  rw [hlast]
  exact coherent_dial h last

theorem receive_dial (subscriber : Subscriber η) (net : Network) :
    (subscriber.dial net).2.1.receive = subscriber.receive := by
  unfold dial
  split
  · rfl
  · split <;> rfl

theorem receive_dialRetrying (subscriber : Subscriber η) (net : Network) (later : List Network) :
    (subscriber.dialRetrying net later).2.1.receive = subscriber.receive := by
  obtain ⟨last, hlast⟩ := exists_dialRetrying_eq_dial subscriber net later
  rw [hlast]
  exact receive_dial subscriber last

theorem coherent_addTopic {subscriber : Subscriber η} (h : subscriber.Coherent)
    (head method : String) (handler : η) : (subscriber.addTopic head method handler).2.Coherent := by
  unfold addTopic
  split
  · exact h
  · exact h.congr rfl rfl rfl rfl

theorem coherent_arm {subscriber : Subscriber η} (h : subscriber.Coherent) (target : Target η)
    (stopped : Bool) : (subscriber.arm target stopped).2.Coherent := by
  unfold arm
  split
  · exact h
  · rename_i hready
    obtain ⟨hstate, htask⟩ := not_or.1 hready
    have hconnected : subscriber.state = .connected := not_not.1 hstate
    split
    · exact h
    · exact {
        link := h.link
        connected := by simp
        apart := fun hne => absurd hconnected hne }

/-- A subscriber that lost its connection has no part of it left, if it gave its reader away before. -/
theorem coherent_lose (subscriber : Subscriber η) (hreader : subscriber.reader = none)
    (htask : subscriber.receive = none) (net : Network) : (subscriber.lose net).1.Coherent := by
  constructor <;> simp [lose, dropLink, hreader, htask]

/-- After stopping no task is recorded. -/
theorem receive_stop (subscriber : Subscriber η) (net : Network) :
    (subscriber.stop net).2.1.receive = none := by
  unfold stop
  split
  · assumption
  · split <;> rfl

/-- A close that is refused leaves the task as it was; after any other none is recorded. -/
theorem receive_close (subscriber : Subscriber η) (net : Network) :
    (subscriber.close net).2.1.receive = subscriber.receive ∨
      (subscriber.close net).2.1.receive = none := by
  have hstopped := receive_stop subscriber net
  unfold close
  split
  · exact .inl rfl
  · split
    · simp_all
    · rename_i after _ hstop
      have hnone : after.receive = none := by simpa [hstop] using hstopped
      exact .inr hnone

theorem coherent_stop {subscriber : Subscriber η} (h : subscriber.Coherent) (net : Network) :
    (subscriber.stop net).2.1.Coherent := by
  unfold stop
  split
  · exact h
  · rename_i loop htask
    have hconnected := h.connected_of_receive htask
    have hreader := h.reader_of_receive htask
    split
    · exact {
        link := h.link
        connected := by simp
        apart := fun hne => absurd hconnected hne }
    · exact coherent_lose { subscriber with receive := none } hreader rfl
        (net.dropReader loop.stream.socket)
    · exact coherent_lose { subscriber with receive := none } hreader rfl net

theorem coherent_close {subscriber : Subscriber η} (h : subscriber.Coherent) (net : Network) :
    (subscriber.close net).2.1.Coherent := by
  unfold close
  split
  · exact h
  · have hstopped := coherent_stop h net
    have htask := receive_stop subscriber net
    split
    · rename_i hstop
      rw [hstop] at hstopped
      exact hstopped
    · rename_i after _ hstop
      have hnone : after.receive = none := by simpa [hstop] using htask
      constructor <;> simp [dropReader, dropLink, hnone]

/-- Every operation keeps the parts of a subscriber together. -/
theorem coherent_perform {subscriber : Subscriber η} (h : subscriber.Coherent) (stopped : Bool)
    (net : Network) (operation : Operation η) :
    (subscriber.perform stopped net operation).2.1.Coherent := by
  cases operation with
  | openUp => exact coherent_openUp h
  | dial => exact coherent_dial h net
  | addTopic head method handler => exact coherent_addTopic h head method handler
  | subscribePrefix text => exact h.congr rfl rfl rfl rfl
  | arm target => exact coherent_arm h target stopped
  | stop => exact coherent_stop h net
  | close => exact coherent_close h net

/-- A step of the task, whatever it comes to, leaves the task recorded and everything else in place. -/
theorem receive_advance (subscriber : Subscriber η) (behaviour : Behaviour η) (stopped : Bool)
    (net : Network) :
    (subscriber.advance behaviour stopped net).receive.isSome = subscriber.receive.isSome := by
  unfold advance
  split
  · rfl
  · split
    · rfl
    · simp [*]

theorem coherent_advance {subscriber : Subscriber η} (h : subscriber.Coherent)
    (behaviour : Behaviour η) (stopped : Bool) (net : Network) :
    (subscriber.advance behaviour stopped net).Coherent := by
  have hreceive := receive_advance subscriber behaviour stopped net
  unfold advance at hreceive ⊢
  split
  · exact h
  · split
    · exact h
    · exact h.congr rfl rfl rfl (by simp [*])

/-! ## What operations answer -/

/-- Arming succeeds exactly on a connected subscriber that records no task: it never finds the reader
missing once it has looked at the state. -/
theorem Coherent.arm_eq_ok_iff {subscriber : Subscriber η} (h : subscriber.Coherent)
    (target : Target η) (stopped : Bool) :
    (subscriber.arm target stopped).1 = .ok () ↔
      subscriber.state = .connected ∧ subscriber.receive = none := by
  unfold arm
  split
  · rename_i hrefused
    constructor
    · intro hok
      cases hok
    · rintro ⟨hstate, htask⟩
      rcases hrefused with hne | hsome
      · exact absurd hstate hne
      · rw [htask] at hsome
        cases hsome
  · rename_i hready
    obtain ⟨hstate, htask⟩ := not_or.1 hready
    -- the look at the state has passed, so the reader is there
    have hconnected : subscriber.state = .connected := not_not.1 hstate
    have hnone : subscriber.receive = none := by simpa using htask
    obtain ⟨stream, hreader⟩ := h.exists_reader hconnected hnone
    simp [hreader, hconnected, hnone]

/-- Stopping fails only with the report of a task that crashed. -/
theorem exists_receiveAborted_of_stop {subscriber : Subscriber η} {net : Network} {error : BusError}
    (h : (subscriber.stop net).1 = .error error) : ∃ reason, error = .receiveAborted reason := by
  unfold stop at h
  split at h
  · cases h
  · split at h
    · cases h
    · cases h
    · rename_i reason _
      injection h with h
      exact ⟨reason, h.symm⟩

/-- After stopping, a subscriber is connected exactly if it was, and its task, if it had one, ended because
it was cancelled. -/
theorem Coherent.state_stop_iff {subscriber : Subscriber η} (h : subscriber.Coherent) (net : Network) :
    (subscriber.stop net).2.1.state = .connected ↔
      subscriber.state = .connected ∧
        (subscriber.receive = none ∨ (subscriber.stop net).1 = .ok .canceled) := by
  cases htask : subscriber.receive with
  | none => simp [stop, htask]
  | some loop =>
      have hconnected := h.connected_of_receive htask
      simp only [hconnected, true_and, reduceCtorEq, false_or]
      unfold stop
      rw [htask]
      dsimp only
      split
      · exact iff_of_true hconnected rfl
      · rename_i outcome hne _
        refine iff_of_false (by simp [lose]) ?_
        intro hcanceled
        injection hcanceled with hcanceled
        exact hne (by rw [hcanceled])
      · exact iff_of_false (by simp [lose]) (by simp)

/-- A dial that fails changes nothing. -/
theorem dial_eq_of_error {subscriber : Subscriber η} {net : Network} {error : BusError}
    (h : (subscriber.dial net).1 = .error error) : (subscriber.dial net).2 = (subscriber, net) := by
  unfold dial at h ⊢
  split at h
  · rw [if_pos ‹_›]
  · rw [if_neg ‹_›]
    split at h
    · simp [*]
    · cases h

/-- A dial that fails at every attempt leaves the subscriber as it was. -/
theorem dialRetrying_eq_of_error {subscriber : Subscriber η} {net : Network} {later : List Network}
    {error : BusError} (h : (subscriber.dialRetrying net later).1 = .error error) :
    (subscriber.dialRetrying net later).2.1 = subscriber := by
  obtain ⟨last, hlast⟩ := exists_dialRetrying_eq_dial subscriber net later
  rw [hlast] at h ⊢
  exact congrArg Prod.fst (dial_eq_of_error h)

/-- Only an error can become an error when the answer of a success is renamed. -/
theorem error_of_map_error {α β ε : Type} {f : α → β} {result : Except ε α} {error : ε}
    (h : result.map f = .error error) : result = .error error := by
  cases result with
  | error fault => simpa [Except.map] using h
  | ok value => cases h

/-- A call that is refused for the state of the subscriber changes nothing. -/
theorem perform_eq_of_invalidState {subscriber : Subscriber η} {stopped : Bool} {net : Network}
    {operation : Operation η} {name state : String}
    (h : (subscriber.perform stopped net operation).1 = .error (.invalidState name state)) :
    (subscriber.perform stopped net operation).2 = (subscriber, net) := by
  cases operation with
  | openUp =>
      simp only [perform, openUp] at h ⊢
      split at h
      · cases h
      · rw [if_neg ‹_›]
  | dial =>
      exact dial_eq_of_error (error_of_map_error h)
  | addTopic head method handler =>
      simp only [perform, addTopic] at h ⊢
      split at h
      · simp [*]
      · cases h
  | subscribePrefix text => cases h
  | arm target =>
      simp only [perform, arm] at h ⊢
      split at h
      · rw [if_pos ‹_›]
      · rw [if_neg ‹_›]
        split at h
        · simp [*]
        · cases h
  | stop =>
      -- stopping reports a crash, and never the state
      obtain ⟨reason, hreason⟩ := exists_receiveAborted_of_stop (error_of_map_error h)
      cases hreason
  | close =>
      simp only [perform, close] at h ⊢
      split at h
      · rw [if_pos ‹_›]
      · split at h
        · rename_i hstop
          obtain ⟨reason, hreason⟩ := exists_receiveAborted_of_stop (congrArg Prod.fst hstop)
          rw [hreason] at h
          cases h
        · cases h

/-! ## Runs -/

/-- What happens to a subscriber: a call of its owner, a dial with retries, or a step of its task. -/
inductive Event (η : Type) where
  | call (operation : Operation η) (stopped : Bool) (net : Network)
  | dialRetrying (net : Network) (later : List Network)
  | task (behaviour : Behaviour η) (stopped : Bool) (net : Network)

/-- A subscriber, and how many receive tasks were started for it and how many of them collected. -/
structure Life (η : Type) where
  subscriber : Subscriber η
  started : Nat := 0
  collected : Nat := 0

namespace Life

/-- The life of a subscriber that was just made. -/
def create (url : Url) (signal : Option String) : Life η := { subscriber := .create url signal }

/-- Whether a call started a task. -/
def startedBy : Operation η → Except BusError Answer → Bool
  | .arm _, .ok _ => true
  | _, _ => false

/-- One event.  A task was collected by a call if it was recorded before and is not any more. -/
def step (life : Life η) : Event η → Life η
  | .call operation stopped net =>
      let (result, after, _) := life.subscriber.perform stopped net operation
      { subscriber := after
        started := life.started + (startedBy operation result).toNat
        collected := life.collected + (life.subscriber.receive.isSome && after.receive.isNone).toNat }
  | .dialRetrying net later =>
      { life with subscriber := (life.subscriber.dialRetrying net later).2.1 }
  | .task behaviour stopped net =>
      { life with subscriber := life.subscriber.advance behaviour stopped net }

/-- All events of a list, one after the other. -/
def run (life : Life η) (events : List (Event η)) : Life η := events.foldl step life

/-- The books of a life: its subscriber is coherent, and the tasks that were started and not collected are
the one that it records. -/
structure Sound (life : Life η) : Prop where
  coherent : life.subscriber.Coherent
  tasks : life.started = life.collected + life.subscriber.receive.isSome.toNat

/-- A call starts a task exactly where it leaves one recorded that was not recorded before. -/
theorem startedBy_perform (subscriber : Subscriber η) (stopped : Bool) (net : Network)
    (operation : Operation η) :
    startedBy operation (subscriber.perform stopped net operation).1 =
      (subscriber.receive.isNone &&
        (subscriber.perform stopped net operation).2.1.receive.isSome) := by
  have hsame : ∀ {after : Subscriber η}, after.receive = subscriber.receive →
      (subscriber.receive.isNone && after.receive.isSome) = false := by
    intro after hreceive
    rw [hreceive]
    cases subscriber.receive <;> rfl
  cases operation with
  | openUp =>
      refine (hsame ?_).symm
      simp only [perform, openUp]
      split <;> rfl
  | dial => exact (hsame (receive_dial subscriber net)).symm
  | addTopic head method handler =>
      refine (hsame ?_).symm
      simp only [perform, addTopic]
      split <;> rfl
  | subscribePrefix text => exact (hsame rfl).symm
  | arm target =>
      simp only [perform, arm]
      split
      · exact (hsame rfl).symm
      · rename_i hready
        have hnone : subscriber.receive = none := by simpa using (not_or.1 hready).2
        split
        · exact (hsame rfl).symm
        · rw [hnone]
          rfl
  | stop => simp [startedBy, perform, receive_stop]
  | close =>
      simp only [perform, startedBy]
      rcases receive_close subscriber net with hreceive | hreceive
      · exact (hsame hreceive).symm
      · simp [hreceive]

/-- Every event keeps the books of a life. -/
theorem sound_step {life : Life η} (h : life.Sound) (event : Event η) : (life.step event).Sound := by
  have htasks := h.tasks
  cases event with
  | call operation stopped net =>
      refine ⟨coherent_perform h.coherent stopped net operation, ?_⟩
      simp only [step, startedBy_perform]
      generalize (life.subscriber.perform stopped net operation).2.1.receive = after
      cases hbefore : life.subscriber.receive <;> cases after <;> simp_all
  | dialRetrying net later =>
      refine ⟨coherent_dialRetrying h.coherent net later, ?_⟩
      simp only [step, receive_dialRetrying]
      exact htasks
  | task behaviour stopped net =>
      refine ⟨coherent_advance h.coherent behaviour stopped net, ?_⟩
      simp only [step, receive_advance]
      exact htasks

/-- The books are right after every run. -/
theorem sound_run (url : Url) (signal : Option String) (events : List (Event η)) :
    ((create url signal).run events).Sound :=
  List.foldlRecOn (motive := Sound) events step ⟨coherent_create url signal, rfl⟩ fun _ h event _ =>
    sound_step h event

end Life

/-- **The life of a subscriber.**  After every sequence of events, in which dials succeed or fail and the
task ends for any reason at any time:

* the tasks that were started and not collected are the one that is recorded, so there is at most one;
* a connected subscriber holds its reader or records a task, and not both; any other does neither;
* the link is held exactly while the subscriber is connected;
* arming succeeds as soon as its look at the state does: the reader is there;
* after stopping, the subscriber is connected exactly if it was and either nothing was armed or the task
  ended because it was cancelled;
* a call that is refused for the state, and a dial that fails, change nothing. -/
theorem lifecycle (url : Url) (signal : Option String) (events : List (Event η)) :
    let life := (Life.create url signal).run events
    let subscriber := life.subscriber
    (life.started = life.collected + subscriber.receive.isSome.toNat ∧
      life.started ≤ life.collected + 1) ∧
    (subscriber.state = .connected → subscriber.reader.isSome = !subscriber.receive.isSome) ∧
    (subscriber.state ≠ .connected → subscriber.reader = none ∧ subscriber.receive = none) ∧
    (subscriber.link.isSome = true ↔ subscriber.state = .connected) ∧
    (∀ target stopped, (subscriber.arm target stopped).1 = .ok () ↔
      subscriber.state = .connected ∧ subscriber.receive = none) ∧
    (∀ net, (subscriber.stop net).2.1.state = .connected ↔
      subscriber.state = .connected ∧
        (subscriber.receive = none ∨ (subscriber.stop net).1 = .ok .canceled)) ∧
    (∀ operation stopped net name state,
      (subscriber.perform stopped net operation).1 = .error (.invalidState name state) →
        (subscriber.perform stopped net operation).2 = (subscriber, net)) ∧
    (∀ net error, (subscriber.dial net).1 = .error error →
      (subscriber.dial net).2 = (subscriber, net)) ∧
    (∀ net later error, (subscriber.dialRetrying net later).1 = .error error →
      (subscriber.dialRetrying net later).2.1 = subscriber) := by
  intro life subscriber
  have hsound : life.Sound := Life.sound_run url signal events
  have hcoherent : subscriber.Coherent := hsound.coherent
  have htasks : life.started = life.collected + subscriber.receive.isSome.toNat := hsound.tasks
  have hone : subscriber.receive.isSome.toNat ≤ 1 := Bool.toNat_le _
  exact ⟨⟨htasks, by omega⟩, hcoherent.connected, hcoherent.apart, hcoherent.link,
    hcoherent.arm_eq_ok_iff, hcoherent.state_stop_iff,
    fun _ _ _ _ _ => perform_eq_of_invalidState, fun _ _ => dial_eq_of_error,
    fun _ _ _ => dialRetrying_eq_of_error⟩

end Subscriber

end DeviceBus
