import DeviceBus.Proofs.Subscriber.Resumption

/-!
# Closing a subscriber

Closing goes through stopping.  Whatever stopping finds of the receive task, it is collected, and nothing of the
connection is left on this side.  Then closing goes on to the closed state, unless stopping had a crash to
report: it breaks off there, and the subscriber is open.

* `Crashed`: the task has crashed, and nobody knows yet.
* `released`, `LetGo`: what becomes of a subscriber that lets all of its connection go, and of the network.
* `close_of_crashed`, `close_of_not_crashed`: what closing comes to in each case.
* `close_by_task`: closing after every run; `not_close_always_closes`: a run after which it does not close.
-/

namespace DeviceBus

namespace Network

variable {net : Network} {id : SocketId}

/-- A half for writing that was let go is not held. -/
theorem writeHeld_dropWriter (net : Network) (id : SocketId) :
    ((net.dropWriter id).socket id).writeHeld = false := by
  unfold dropWriter
  split
  · rename_i hheld
    have hown : ((net.modify id fun socket => { socket with writeHeld := false }).socket id).writeHeld =
        false := by
      rw [socket_modify_self (lt_size_of_writeHeld hheld)]
    refine Bool.eq_false_iff.2 fun hafter => ?_
    have hbefore := (recedes_settleClosed _ id).writeHeld hafter
    rw [socket_modify_of_ne (peerOf_ne id).symm, hown] at hbefore
    cases hbefore
  · exact Bool.eq_false_iff.2 ‹_›

/-- A half for reading that was let go is not held. -/
theorem readHeld_dropReader (net : Network) (id : SocketId) :
    ((net.dropReader id).socket id).readHeld = false := by
  unfold dropReader
  split
  · rename_i hheld
    refine Bool.eq_false_iff.2 fun hafter => ?_
    have hbefore := (recedes_settleClosed _ id).readHeld hafter
    rw [socket_modify_self (lt_size_of_readHeld hheld)] at hbefore
    cases hbefore
  · exact Bool.eq_false_iff.2 ‹_›

/-- A half for reading that is let go anywhere stays so. -/
theorem Recedes.readHeld_eq_false {before after : Network} {other : SocketId}
    (h : Recedes id before after) (hfree : (before.socket other).readHeld = false) :
    (after.socket other).readHeld = false := by
  rcases eq_or_ne other id with rfl | hne
  · refine Bool.eq_false_iff.2 fun hafter => ?_
    have hbefore := h.readHeld hafter
    rw [hfree] at hbefore
    cases hbefore
  · rw [h.readHeld_of_ne hne]
    exact hfree

end Network

namespace Subscriber

variable {η : Type} {subscriber : Subscriber η}

/-- The receive task has crashed for a reason, and was not collected since. -/
def Crashed (subscriber : Subscriber η) (reason : String) : Prop :=
  ∃ loop, subscriber.receive = some loop ∧ loop.ended = some (.crashed reason)

/-- A subscriber in a state without task, reader and link; address, signal, filters and topics are kept. -/
def released (subscriber : Subscriber η) (state : EndpointState) : Subscriber η :=
  { subscriber with state, reader := none, link := none, receive := none }

/-- The reader of a subscriber, with it or with its task; a task that crashed has none. -/
def HasReader (subscriber : Subscriber η) (stream : Stream) : Prop :=
  subscriber.reader = some stream ∨
    ∃ loop, subscriber.receive = some loop ∧ loop.stream = stream ∧
      ∀ reason, loop.ended ≠ some (.crashed reason)

/-- A network in which nothing of the connection of a subscriber is held on its side. -/
structure LetGo (subscriber : Subscriber η) (after : Network) : Prop where
  link : ∀ id, subscriber.link = some id → (after.socket id).writeHeld = false
  reader : ∀ stream, subscriber.HasReader stream → (after.socket stream.socket).readHeld = false

/-! ## Letting go -/

/-- Where the reader is let go already, letting the link go as well lets go of everything. -/
theorem letGo_dropLink {net : Network} (hreader : ∀ stream, subscriber.HasReader stream →
    (net.socket stream.socket).readHeld = false) : LetGo subscriber (subscriber.dropLink net).2 where
  link := by
    intro id hlink
    simp only [dropLink, hlink]
    exact net.writeHeld_dropWriter id
  reader := by
    intro stream hstream
    have hfree := hreader stream hstream
    unfold dropLink
    dsimp only
    split
    · exact (net.recedes_dropWriter _).readHeld_eq_false hfree
    · exact hfree

/-- A subscriber that was let go and is not closed yet closes at once. -/
theorem close_released (subscriber : Subscriber η) {state : EndpointState} (hstate : state ≠ .closed)
    (net : Network) :
    (subscriber.released state).close net = (.ok (), subscriber.released .closed, net) := by
  rw [close, if_neg (show (subscriber.released state).state ≠ .closed from hstate)]
  rfl

theorem openUp_released (subscriber : Subscriber η) :
    (subscriber.released .closed).openUp = (.ok (), subscriber.released .opened) := rfl

/-! ## Closing -/

theorem close_of_closed (h : subscriber.state = .closed) (net : Network) :
    subscriber.close net = (.error (.invalidState "close" "closed"), subscriber, net) := by
  rw [close, if_pos h, refuse, h]
  rfl

/-- Closing after a crash reports the crash, and goes no further than stopping does. -/
theorem close_of_crashed (h : subscriber.Coherent) {reason : String}
    (hcrash : subscriber.Crashed reason) (net : Network) :
    subscriber.close net = (.error (.receiveAborted reason), subscriber.released .opened,
      (subscriber.dropLink net).2) := by
  obtain ⟨loop, hloop, hended⟩ := hcrash
  have hconnected := h.connected_of_receive hloop
  have hreader := h.reader_of_receive hloop
  have hopen : subscriber.state ≠ .closed := by rw [hconnected]; decide
  have hstop : subscriber.stop net = (.error (.receiveAborted reason), subscriber.released .opened,
      (subscriber.dropLink net).2) := by
    simp only [stop, hloop, hended, Option.getD_some, lose, dropLink, released, hreader]
  rw [close, if_neg hopen, hstop]

/-- A task that has not crashed returns, at the latest when it is told to stop. -/
theorem exists_returned (hcalm : ∀ reason, ¬ subscriber.Crashed reason) {loop : ReceiveLoop η}
    (hloop : subscriber.receive = some loop) :
    ∃ outcome, loop.ended.getD (.returned .canceled) = .returned outcome := by
  cases hended : loop.ended with
  | none => exact ⟨.canceled, rfl⟩
  | some ending =>
      cases ending with
      | returned outcome => exact ⟨outcome, rfl⟩
      | crashed reason => exact absurd ⟨loop, hloop, hended⟩ (hcalm reason)

/-- Closing after anything but a crash closes. -/
theorem close_of_not_crashed (h : subscriber.Coherent) (hstate : subscriber.state ≠ .closed)
    (hcalm : ∀ reason, ¬ subscriber.Crashed reason) (net : Network) :
    ∃ after, subscriber.close net = (.ok (), subscriber.released .closed, after) ∧
      LetGo subscriber after := by
  rw [close, if_neg hstate]
  cases hloop : subscriber.receive with
  | none =>
      -- nothing to stop: the reader, if there is one, is the own one
      refine ⟨(subscriber.dropLink (subscriber.dropReader net).2).2, ?_, letGo_dropLink ?_⟩
      · simp only [stop, hloop, dropReader, dropLink, released]
      · rintro stream (hreader | ⟨loop, hother, -⟩)
        · simp only [dropReader, hreader]
          exact net.readHeld_dropReader _
        · rw [hloop] at hother
          cases hother
  | some loop =>
      -- the reader is that of the task; stopping hands it back or lets it go, and it is gone then
      have hreader := h.reader_of_receive hloop
      refine ⟨(subscriber.dropLink (net.dropReader loop.stream.socket)).2, ?_, letGo_dropLink ?_⟩
      · obtain ⟨outcome, hreturned⟩ := exists_returned hcalm hloop
        cases outcome with
        | canceled => simp only [stop, hloop, hreturned, dropReader, dropLink, released]
        | closed => simp only [stop, hloop, hreturned, hreader, lose, dropReader, dropLink, released]
        | failed error =>
            simp only [stop, hloop, hreturned, hreader, lose, dropReader, dropLink, released]
      · rintro stream (hown | ⟨same, hsame, rfl, -⟩)
        · rw [hreader] at hown
          cases hown
        · rw [hloop] at hsame
          obtain rfl := Option.some.inj hsame
          exact net.readHeld_dropReader _

/-- **Closing.**  After every sequence of events of a subscriber and its task:

* closing a closed subscriber is refused and changes nothing;
* after a crash that nobody knows of, closing reports the crash, lets the connection go and leaves the
  subscriber open; closing again closes it;
* otherwise closing a subscriber that is not closed succeeds: it is closed, with no task, no reader and no
  link, nothing of the connection is held on its side, and it can be opened again. -/
theorem close_by_task (url : Url) (signal : Option String) (events : List (Event η)) (net : Network) :
    let subscriber := ((Life.create url signal).run events).subscriber
    (subscriber.state = .closed →
      subscriber.close net = (.error (.invalidState "close" "closed"), subscriber, net)) ∧
    (∀ reason, subscriber.Crashed reason →
      ∃ after, subscriber.close net =
          (.error (.receiveAborted reason), subscriber.released .opened, after) ∧
        LetGo subscriber after ∧
        ∀ later, (subscriber.released .opened).close later =
          (.ok (), subscriber.released .closed, later)) ∧
    (subscriber.state ≠ .closed → (∀ reason, ¬ subscriber.Crashed reason) →
      ∃ after, subscriber.close net = (.ok (), subscriber.released .closed, after) ∧
        LetGo subscriber after ∧
        (subscriber.released .closed).openUp = (.ok (), subscriber.released .opened)) := by
  intro subscriber
  have hcoherent : subscriber.Coherent := (Life.sound_run url signal events).coherent
  refine ⟨fun hclosed => close_of_closed hclosed net, fun reason hcrash => ?_,
    fun hstate hcalm => ?_⟩
  · refine ⟨_, close_of_crashed hcoherent hcrash net, letGo_dropLink ?_,
      subscriber.close_released (by decide)⟩
    -- a task that crashed let its reader go itself, so there is none to let go
    obtain ⟨loop, hloop, hended⟩ := hcrash
    rintro stream (hown | ⟨same, hsame, -, hreturned⟩)
    · rw [hcoherent.reader_of_receive hloop] at hown
      cases hown
    · rw [hloop] at hsame
      obtain rfl := Option.some.inj hsame
      exact absurd hended (hreturned reason)
  · obtain ⟨after, hclose, hfree⟩ := close_of_not_crashed hcoherent hstate hcalm net
    exact ⟨after, hclose, hfree, subscriber.openUp_released⟩

/-- A network in which a frame has arrived at the first socket. -/
def frameArrived : Network :=
  (Reception.readySubscriber.dial Reception.backNetwork).2.2.carry 0
    (.bytes ⟨#[0, 0, 0, 3, 97, 0, 1]⟩)

/-- A handler crashes at the first message. -/
def crashingRun : List (Event Nat) :=
  let behaviour : Behaviour Nat := fun _ _ => .finish (.crashed "handler bug")
  [.call .openUp false Reception.backNetwork, .call .dial false Reception.backNetwork,
    .call (.subscribePrefix "a") false frameArrived, .call (.arm (.direct 7)) false frameArrived,
    .task behaviour false frameArrived, .task behaviour false frameArrived]

/-- The subscriber whose handler crashed. -/
def crashedSubscriber : Subscriber Nat := ((Life.create (.ipc "/back") none).run crashingRun).subscriber

/-- Closing a subscriber that is not closed may leave it open, and then opening it is refused. -/
theorem not_close_always_closes :
    crashedSubscriber.state = .connected ∧
      (crashedSubscriber.close frameArrived).1 = .error (.receiveAborted "handler bug") ∧
      (crashedSubscriber.close frameArrived).2.1.state = .opened ∧
      (crashedSubscriber.close frameArrived).2.1.openUp.1 =
        .error (.invalidState "open" "open") := by
  decide +kernel

end Subscriber

end DeviceBus
