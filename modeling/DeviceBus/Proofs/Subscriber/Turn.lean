import DeviceBus.Proofs.Subscriber.Closing

/-!
# What becomes of the reader

The reader of a subscriber goes to its loop when it is armed and comes back when it is stopped, unless the
connection is lost.  This module says once what each operation does with the reader, the loop and the link, and
keeps account of the connection that they belong to.

* `Turn`, `turn_perform`: everything that an operation can come to.
* `Fastened`: a subscriber that was given up has nothing left but its loop, and whoever reads holds the half for
  reading of the connection whose other half is the link.
-/

namespace DeviceBus

variable {η : Type}

namespace Subscriber

/-- Everything that an operation can come to, as far as the reader, the loop and the link are concerned. -/
inductive Turn (subscriber : Subscriber η) (net : Network) :
    Operation η → Subscriber η → Network → Prop where
  /-- they stay -/
  | kept {operation : Operation η} {after : Subscriber η} (reader : after.reader = subscriber.reader)
      (receive : after.receive = subscriber.receive) (link : after.link = subscriber.link) :
      Turn subscriber net operation after net
  /-- there is a new connection -/
  | dialed {after : Subscriber η} (id : ListenerId) (idle : subscriber.receive = none)
      (reader : after.reader = some { socket := net.sockets.size }) (receive : after.receive = none)
      (link : after.link = some net.sockets.size) : Turn subscriber net .dial after (net.join id)
  /-- the reader goes to a new loop -/
  | armed (target : Target η) (stream : Stream) (reader : subscriber.reader = some stream)
      (receive : subscriber.receive = none) :
      Turn subscriber net (.arm target)
        { subscriber with reader := none, receive := some { stream, target } } net
  /-- the reader comes back -/
  | returned (loop : ReceiveLoop η) (receive : subscriber.receive = some loop)
      (keeps : loop.KeepsReader) :
      Turn subscriber net .stop { subscriber with receive := none, reader := some loop.stream } net
  /-- nothing of the connection is left -/
  | parted {operation : Operation η} {after : Subscriber η} {net' : Network}
      (waits : operation = .stop ∨ operation = .close) (reader : after.reader = none)
      (receive : after.receive = none) : Turn subscriber net operation after net'

theorem turn_dial {subscriber : Subscriber η} (h : subscriber.Coherent) (net : Network) :
    Turn subscriber net .dial (subscriber.dial net).2.1 (subscriber.dial net).2.2 := by
  unfold dial
  split
  · exact .kept rfl rfl rfl
  · rename_i hopened
    have hne : subscriber.state ≠ .connected := by
      rw [not_not.1 hopened]
      decide
    split
    · exact .kept rfl rfl rfl
    · rename_i far after hconnect
      obtain ⟨id, -, rfl, rfl⟩ := Network.connect_eq_ok hconnect
      exact .dialed id (h.apart hne).2 rfl (h.apart hne).2 rfl

theorem turn_arm (subscriber : Subscriber η) (net : Network) (target : Target η) (stopped : Bool) :
    Turn subscriber net (.arm target) (subscriber.arm target stopped).2 net := by
  unfold arm
  split
  · exact .kept rfl rfl rfl
  · rename_i hready
    have hidle : subscriber.receive = none := by simpa using (not_or.1 hready).2
    split
    · exact .kept rfl rfl rfl
    · rename_i stream hreader
      exact .armed target stream hreader hidle

theorem turn_stop {subscriber : Subscriber η} (h : subscriber.Coherent) (net : Network) :
    Turn subscriber net .stop (subscriber.stop net).2.1 (subscriber.stop net).2.2 := by
  rcases stop_cases h net with hstop | ⟨loop, hloop, hkeeps, hstop⟩ | ⟨-, hreader, hreceive⟩
  · rw [hstop]
    exact .kept rfl rfl rfl
  · rw [hstop]
    exact .returned loop hloop hkeeps
  · exact .parted (.inl rfl) hreader hreceive

theorem turn_close {subscriber : Subscriber η} (h : subscriber.Coherent) (net : Network) :
    Turn subscriber net .close (subscriber.close net).2.1 (subscriber.close net).2.2 := by
  by_cases hclosed : subscriber.state = .closed
  · rw [close_of_closed hclosed]
    exact .kept rfl rfl rfl
  · by_cases hcrash : ∃ reason, subscriber.Crashed reason
    · obtain ⟨reason, hcrash⟩ := hcrash
      rw [close_of_crashed h hcrash]
      exact .parted (.inr rfl) rfl rfl
    · obtain ⟨after, hclose, -⟩ := close_of_not_crashed h hclosed (not_exists.1 hcrash) net
      rw [hclose]
      exact .parted (.inr rfl) rfl rfl

theorem turn_perform {subscriber : Subscriber η} (h : subscriber.Coherent) (stopped : Bool)
    (net : Network) (operation : Operation η) :
    Turn subscriber net operation (subscriber.perform stopped net operation).2.1
      (subscriber.perform stopped net operation).2.2 := by
  cases operation with
  | openUp =>
      simp only [perform, openUp]
      split <;> exact .kept rfl rfl rfl
  | dial => exact turn_dial h net
  | addTopic head method handler =>
      simp only [perform, addTopic]
      split <;> exact .kept rfl rfl rfl
  | subscribePrefix text => exact .kept rfl rfl rfl
  | arm target => exact turn_arm subscriber net target stopped
  | stop => exact turn_stop h net
  | close => exact turn_close h net

/-- No operation ties a subscriber to another signal. -/
theorem signal_perform (subscriber : Subscriber η) (stopped : Bool) (net : Network)
    (operation : Operation η) :
    (subscriber.perform stopped net operation).2.1.signal = subscriber.signal := by
  have hstop : (subscriber.stop net).2.1.signal = subscriber.signal := by
    unfold stop
    split
    · rfl
    · split <;> rfl
  cases operation with
  | openUp =>
      simp only [perform, openUp]
      split <;> rfl
  | dial =>
      simp only [perform, dial]
      split
      · rfl
      · split <;> rfl
  | addTopic head method handler =>
      simp only [perform, addTopic]
      split <;> rfl
  | subscribePrefix text => rfl
  | arm target =>
      simp only [perform, arm]
      split
      · rfl
      · split <;> rfl
  | stop => exact hstop
  | close =>
      simp only [perform, close]
      split
      · rfl
      · split
        all_goals
          rename_i hstopped
          rw [hstopped] at hstop
          exact hstop

/-- The stream from which a subscriber reads, by itself or through its loop. -/
def stream? (subscriber : Subscriber η) : Option Stream :=
  match subscriber.receive with
  | some loop => some loop.stream
  | none => subscriber.reader

/-- A loop that can still give its reader back has it. -/
theorem hasReader_of_keepsReader {subscriber : Subscriber η} {loop : ReceiveLoop η}
    (hloop : subscriber.receive = some loop) (hkeeps : loop.KeepsReader) :
    subscriber.HasReader loop.stream := by
  refine .inr ⟨loop, hloop, rfl, fun reason hcrashed => ?_⟩
  rw [ReceiveLoop.KeepsReader, hcrashed] at hkeeps
  cases hkeeps

/-- The stream that a subscriber has, or gets back from its loop when it stops it. -/
def Keeps (subscriber : Subscriber η) (stream : Stream) : Prop :=
  subscriber.reader = some stream ∨
    ∃ loop, subscriber.receive = some loop ∧ loop.KeepsReader ∧ loop.stream = stream

/-- How the parts of a subscriber hang together with a network: one that was given up has nothing left but its
loop; the half for reading of whatever reads is held, and the link is of the same connection; and a stream that
is kept is in use. -/
structure Fastened (net : Network) (subscriber : Subscriber η) : Prop where
  coherent : subscriber.isDropped = false → subscriber.Coherent
  dropped : subscriber.isDropped = true → subscriber.reader = none ∧ subscriber.link = none
  attached : ∀ stream, subscriber.HasReader stream →
    (net.socket stream.socket).readHeld = true ∧
      ∀ id, subscriber.link = some id → id = stream.socket
  live : ∀ stream, subscriber.Keeps stream → stream.Live net

namespace Fastened

variable {net : Network} {subscriber : Subscriber η} {loop : ReceiveLoop η}

theorem create (net : Network) (url : Url) (signal : Option String) :
    Fastened net (Subscriber.create url signal : Subscriber η) where
  coherent _ := coherent_create url signal
  dropped h := by cases h
  attached := by
    rintro stream (hreader | ⟨loop, hloop, -⟩)
    · cases hreader
    · cases hloop
  live := by
    rintro stream (hreader | ⟨loop, hloop, -⟩)
    · cases hreader
    · cases hloop

theorem reader_of_receive (h : Fastened net subscriber) (hloop : subscriber.receive = some loop) :
    subscriber.reader = none := by
  cases hdropped : subscriber.isDropped with
  | true => exact (h.dropped hdropped).1
  | false => exact (h.coherent hdropped).reader_of_receive hloop

/-- Whatever reads, reads from the stream that is in use. -/
theorem stream_of_hasReader (h : Fastened net subscriber) {stream : Stream}
    (hstream : subscriber.HasReader stream) : subscriber.stream? = some stream := by
  rw [stream?]
  rcases hstream with hreader | ⟨loop, hloop, rfl, -⟩
  · split
    · rename_i loop hloop
      rw [h.reader_of_receive hloop] at hreader
      cases hreader
    · exact hreader
  · rw [hloop]

/-- A stream that is kept is the one in use, and the half for reading of its connection is held. -/
theorem of_keeps (h : Fastened net subscriber) {stream : Stream} (hkeeps : subscriber.Keeps stream) :
    subscriber.stream? = some stream ∧ (net.socket stream.socket).readHeld = true := by
  have hreader : subscriber.HasReader stream := by
    rcases hkeeps with hreader | ⟨loop, hloop, hkept, rfl⟩
    · exact .inl hreader
    · exact hasReader_of_keepsReader hloop hkept
  exact ⟨h.stream_of_hasReader hreader, (h.attached stream hreader).1⟩

/-- Another network in which the same half for reading is held, with the stream in use. -/
theorem of_net (h : Fastened net subscriber) {after : Network}
    (hafter : ∀ stream, subscriber.stream? = some stream → (net.socket stream.socket).readHeld = true →
      (after.socket stream.socket).readHeld = true ∧ (stream.Live net → stream.Live after)) :
    Fastened after subscriber where
  coherent := h.coherent
  dropped := h.dropped
  attached stream hstream := by
    obtain ⟨hheld, hlink⟩ := h.attached stream hstream
    exact ⟨(hafter stream (h.stream_of_hasReader hstream) hheld).1, hlink⟩
  live stream hkeeps := by
    obtain ⟨hstream, hheld⟩ := h.of_keeps hkeeps
    exact (hafter stream hstream hheld).2 (h.live stream hkeeps)

/-- Operations keep the parts together. -/
theorem of_turn (h : Fastened net subscriber) {operation : Operation η} {after : Subscriber η}
    {net' : Network} (hturn : Turn subscriber net operation after net') (hcoherent : after.Coherent)
    (hdropped : after.isDropped = false) : Fastened net' after where
  coherent _ := hcoherent
  dropped hafter := by rw [hdropped] at hafter; cases hafter
  attached := by
    intro stream hstream
    cases hturn with
    | kept reader receive link =>
        rw [HasReader, reader, receive] at hstream
        rw [link]
        exact h.attached stream hstream
    | dialed id idle reader receive link =>
        rcases hstream with hreader | ⟨loop, hloop, -⟩
        · cases reader.symm.trans hreader
          refine ⟨by rw [Network.socket_join_far], fun id hid => ?_⟩
          exact (Option.some.inj (link.symm.trans hid)).symm
        · cases receive.symm.trans hloop
    | armed target own reader receive =>
        rcases hstream with hreader | ⟨loop, hloop, hsame, -⟩
        · cases hreader
        · cases hloop
          cases hsame
          exact h.attached own (.inl reader)
    | returned loop receive keeps =>
        rcases hstream with hreader | ⟨other, hother, -⟩
        · cases hreader
          exact h.attached loop.stream (hasReader_of_keepsReader receive keeps)
        · cases hother
    | parted waits reader receive =>
        rcases hstream with hreader | ⟨loop, hloop, -⟩
        · cases reader.symm.trans hreader
        · cases receive.symm.trans hloop
  live := by
    intro stream hstream
    cases hturn with
    | kept reader receive link =>
        rw [Keeps, reader, receive] at hstream
        exact h.live stream hstream
    | dialed id idle reader receive link =>
        rcases hstream with hreader | ⟨loop, hloop, -⟩
        · cases reader.symm.trans hreader
          exact Stream.live_start _ _
        · cases receive.symm.trans hloop
    | armed target own reader receive =>
        rcases hstream with hreader | ⟨loop, hloop, -, hsame⟩
        · cases hreader
        · cases hloop
          cases hsame
          exact h.live own (.inl reader)
    | returned loop receive keeps =>
        rcases hstream with hreader | ⟨other, hother, -⟩
        · cases hreader
          exact h.live loop.stream (.inr ⟨loop, receive, keeps, rfl⟩)
        · cases hother
    | parted waits reader receive =>
        rcases hstream with hreader | ⟨loop, hloop, -⟩
        · cases reader.symm.trans hreader
        · cases receive.symm.trans hloop

theorem cancel (h : Fastened net subscriber) : Fastened net subscriber.cancel where
  coherent hdropped := (h.coherent hdropped).congr rfl rfl rfl (Option.isSome_map ..)
  dropped := h.dropped
  attached := by
    rintro stream (hreader | ⟨loop, hloop, rfl, hcalm⟩)
    · exact h.attached stream (.inl hreader)
    · obtain ⟨old, hold, rfl⟩ := Option.map_eq_some_iff.1 hloop
      exact h.attached old.stream (.inr ⟨old, hold, rfl, hcalm⟩)
  live := by
    rintro stream (hreader | ⟨loop, hloop, hkept, rfl⟩)
    · exact h.live stream (.inl hreader)
    · obtain ⟨old, hold, rfl⟩ := Option.map_eq_some_iff.1 hloop
      exact h.live old.stream (.inr ⟨old, hold, hkept, rfl⟩)

/-- A subscriber that is given up keeps no more than its loop. -/
theorem drop (h : Fastened net subscriber) :
    Fastened (subscriber.drop net).2 (subscriber.drop net).1 where
  coherent hdropped := by cases hdropped
  dropped _ := ⟨rfl, rfl⟩
  attached := by
    rintro stream (hreader | ⟨loop, hloop, rfl, hcalm⟩)
    · cases hreader
    · obtain ⟨old, hold, rfl⟩ := Option.map_eq_some_iff.1 hloop
      obtain ⟨hheld, hlink⟩ := h.attached old.stream (.inr ⟨old, hold, rfl, hcalm⟩)
      refine ⟨?_, fun id hid => by cases hid⟩
      simp only [Subscriber.drop, dropReader, dropLink, h.reader_of_receive hold]
      split
      · rename_i id hid
        rw [hlink id hid, Network.socket_dropWriter hheld]
        exact hheld
      · exact hheld
  live := by
    rintro stream (hreader | ⟨loop, hloop, hkept, rfl⟩)
    · cases hreader
    · obtain ⟨old, hold, rfl⟩ := Option.map_eq_some_iff.1 hloop
      obtain ⟨hheld, hlink⟩ := h.attached old.stream (hasReader_of_keepsReader hold hkept)
      have hlive := h.live old.stream (.inr ⟨old, hold, hkept, rfl⟩)
      simp only [Subscriber.drop, dropReader, dropLink, h.reader_of_receive hold]
      split
      · rename_i id hid
        rw [hlink id hid]
        refine hlive.of_same ?_ fun hfinished => ?_
        · rw [Network.socket_dropWriter hheld]
        · rw [Network.socket_dropWriter hheld]
          exact hfinished
      · exact hlive

/-- A loop that goes on reads from the same socket, and lets it go only if it crashes. -/
theorem of_loop (h : Fastened net subscriber) (hloop : subscriber.receive = some loop)
    (hended : loop.ended = none) {next : ReceiveLoop η} {subscription : Subscription η} {after : Network}
    (hsocket : next.stream.socket = loop.stream.socket)
    (hheld : (∀ reason, next.ended ≠ some (.crashed reason)) →
      (net.socket loop.stream.socket).readHeld = true →
        (after.socket loop.stream.socket).readHeld = true)
    (hlive : next.KeepsReader → next.stream.Live after) :
    Fastened after { subscriber with receive := some next, subscription } where
  coherent hdropped := (h.coherent hdropped).congr rfl rfl rfl (by rw [hloop]; rfl)
  dropped := h.dropped
  attached := by
    rintro stream (hreader | ⟨current, hcurrent, rfl, hcalm⟩)
    · cases (h.reader_of_receive hloop).symm.trans hreader
    · obtain rfl := Option.some.inj hcurrent
      have hkeeps := ReceiveLoop.keepsReader_of_going hended
      obtain ⟨hbefore, hlink⟩ := h.attached _ (hasReader_of_keepsReader hloop hkeeps)
      rw [hsocket]
      exact ⟨hheld hcalm hbefore, hlink⟩
  live := by
    rintro stream (hreader | ⟨current, hcurrent, hkept, rfl⟩)
    · cases (h.reader_of_receive hloop).symm.trans hreader
    · obtain rfl := Option.some.inj hcurrent
      exact hlive hkept

/-- A loop that was collected leaves a subscriber that was given up with nothing. -/
theorem collectDropped (h : Fastened net subscriber) {after : Subscriber η} {net' : Network}
    (hcollect : subscriber.collectDropped net = some (after, net')) : Fastened net' after := by
  unfold Subscriber.collectDropped at hcollect
  split at hcollect
  · split at hcollect
    · rename_i hover
      have hdropped := (Bool.and_eq_true_iff.1 hover).1
      cases hcollect
      exact {
        coherent := fun hkept => by
          rw [hdropped] at hkept
          cases hkept
        dropped := h.dropped
        attached := by
          rintro stream (hreader | ⟨loop, hloop, -⟩)
          · cases (h.dropped hdropped).1.symm.trans hreader
          · cases hloop
        live := by
          rintro stream (hreader | ⟨loop, hloop, -⟩)
          · cases (h.dropped hdropped).1.symm.trans hreader
          · cases hloop }
    · cases hcollect
  · cases hcollect

end Fastened

end Subscriber

end DeviceBus
