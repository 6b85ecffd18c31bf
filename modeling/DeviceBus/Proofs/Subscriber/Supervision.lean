import DeviceBus.Proofs.Subscriber.Turn

/-!
# A subscriber and everything that can stop it

The token of a receive loop can be cancelled at any moment: after the loop has checked it and before the loop polls
its stream, in the middle of the poll, or when the loop holds a frame that is not handed on.  In this module all of
these are events by themselves.  Bytes arrive, the stream ends, signals are given, and the subscriber is stopped,
armed again or given up between any two of them.

* `Supervision`: a subscriber, the signals that were given, and what each of its loops has done.
* `onward_step`, `idling_step`: everything that an event can come to.
* `Sound`, `sound_run`: what holds at every moment.
-/

namespace DeviceBus

variable {η : Type}

namespace ReceiveLoop

/-- Everything that a step of a poll can come to whose stream is in use. -/
inductive Polls (loop : ReceiveLoop η) (net : Network) : Option (Polled η) → Prop where
  /-- the stream has nothing to offer -/
  | idle : Polls loop net none
  /-- bytes are moved, or the end is noticed -/
  | moved {stream : Stream} {after : Network} (live : stream.Live after)
      (socket : stream.socket = loop.stream.socket)
      (held : (net.socket loop.stream.socket).readHeld = true →
        (after.socket loop.stream.socket).readHeld = true)
      (same : stream.unread after = loop.stream.unread net)
      (closer : stream.toil after < loop.stream.toil net) :
      Polls loop net (some ⟨{ loop with stream }, .polling, after⟩)
  /-- a body is taken -/
  | took {stream : Stream} {body : ByteArray} (live : stream.Live net)
      (socket : stream.socket = loop.stream.socket)
      (split : loop.stream.unread net = Frame.bytes body ++ stream.unread net) :
      Polls loop net (some ⟨{ loop with stream }, .holding body, net⟩)
  /-- the stream is over -/
  | finished {stream : Stream} {after : Network} {outcome : ReceiveOutcome}
      (socket : stream.socket = loop.stream.socket)
      (held : (net.socket loop.stream.socket).readHeld = true →
        (after.socket loop.stream.socket).readHeld = true)
      (lost : outcome = .closed ∨ ∃ fault, outcome = .failed (.transport "recv" fault)) :
      Polls loop net (some ⟨{ loop with stream }.finish outcome, .waiting, after⟩)

theorem polls_poll {loop : ReceiveLoop η} {net : Network} (h : loop.stream.Live net) :
    Polls loop net (loop.poll net) := by
  have hstepped := Stream.stepped_step h
  rw [poll]
  generalize hread : loop.stream.step net = found at hstepped
  have hheld : ∀ {yield stream after}, loop.stream.step net = some (yield, stream, after) →
      (net.socket loop.stream.socket).readHeld = true →
        (after.socket loop.stream.socket).readHeld = true := by
    intro yield stream after hstep
    rcases (Stream.step_network hstep).2 with rfl | rfl
    · exact id
    · rw [(Network.held_take _ _).1]
      exact id
  cases hstepped with
  | idle empty whole unfinished noFrame => exact .idle
  | hungry live socket same recedes =>
      exact .moved live socket (hheld hread) same (Stream.toil_of_hungry h hread)
  | frame live socket fits split => exact .took live socket split
  | ends yields isOver socket recedes noFrame cause =>
      rcases yields with rfl | ⟨fault, rfl⟩
      · exact .finished socket (hheld hread) (.inl rfl)
      · exact .finished socket (hheld hread) (.inr ⟨fault, rfl⟩)

end ReceiveLoop

/-! ## A subscriber and everything that can stop it -/

/-- A subscriber, the signals that were given, and what its receive loops have done so far. -/
structure Supervision (η : Type) where
  subscriber : Subscriber η
  net : Network
  /-- the signals that were given -/
  given : List String := []
  /-- the signal to which the subscriber was tied when the latest loop was started -/
  tied : Option String := none
  /-- where the latest loop stands -/
  phase : ReceiveLoop.Phase := .waiting
  /-- how many loops were started; the latest one has this number -/
  started : Nat := 0
  /-- every call of a handler with the number of the loop that made it, the first one first -/
  calls : List (Nat × Call η) := []
  /-- how each loop ended -/
  ends : List (Nat × LoopEnd) := []
  /-- every byte that has arrived at a connection in use -/
  arrived : List UInt8 := []

namespace Supervision

/-- What happens: traffic, a call of the owner, the beginning of a stop, a signal, another signal to be tied to,
the end of the subscriber, the check of the loop, a step of its poll, the handing on of what it took, and the end
of a loop that nobody waits for. -/
inductive Event (η : Type) where
  | traffic (traffic : Traffic)
  | call (operation : Subscriber.Operation η)
  | cancel
  | signal (name : String)
  | tie (name : String)
  | drop
  | check
  | poll
  | hand (behaviour : Behaviour η)
  | collect

/-- The beginning. -/
def start (url : Url) (signal : Option String) (net : Network) : Supervision η :=
  { subscriber := .create url signal, net }

/-- Whether a signal was given, if there is one to look for. -/
def isGiven (world : Supervision η) : Option String → Bool
  | some name => world.given.contains name
  | none => false

/-- Whether the token of the latest loop is cancelled. -/
def isCancelled (world : Supervision η) (loop : ReceiveLoop η) : Bool :=
  loop.isCancelled || world.isGiven world.tied

/-- The entries of a loop in a journal. -/
def entriesOf {α : Type} (journal : List (Nat × α)) (number : Nat) : List α :=
  (journal.filter fun entry => entry.1 = number).map Prod.snd

/-- A journal with an entry for a loop, if there is something to enter. -/
def enter {α : Type} (journal : List (Nat × α)) (number : Nat) (entry : Option α) : List (Nat × α) :=
  journal ++ (entry.map fun value => (number, value)).toList

/-- The calls of a loop. -/
def callsOf (world : Supervision η) (number : Nat) : List (Call η) := entriesOf world.calls number

/-- How a loop ended, if it has. -/
def endsOf (world : Supervision η) (number : Nat) : List LoopEnd := entriesOf world.ends number

/-- Traffic reaches the stream that is in use. -/
def convey (world : Supervision η) (traffic : Traffic) : Supervision η :=
  match world.subscriber.stream? with
  | some stream =>
      { world with
        net := world.net.carry stream.socket traffic
        arrived := world.arrived ++ world.net.brought stream.socket traffic }
  | none =>
      match traffic with
      | .elsewhere after => { world with net := after }
      | _ => world

/-- Whether a call can be completed now.  One that stops the loop waits until the loop has ended, and there are
no calls for a subscriber that was given up. -/
def admits (world : Supervision η) : Subscriber.Operation η → Bool
  | .stop | .close =>
      !world.subscriber.isDropped && world.subscriber.receive.all fun loop => loop.ended.isSome
  | _ => !world.subscriber.isDropped

/-- A call of the owner. -/
def obey (world : Supervision η) (operation : Subscriber.Operation η) : Supervision η :=
  let (result, subscriber, net) :=
    world.subscriber.perform (world.isGiven world.subscriber.signal) world.net operation
  let starts := Subscriber.Life.startedBy operation result
  { world with
    subscriber
    net
    started := world.started + starts.toNat
    tied := if starts then world.subscriber.signal else world.tied }

/-- The check of a loop: it ends if its token is cancelled, and polls its stream if not. -/
def checkWith (world : Supervision η) (loop : ReceiveLoop η) : Supervision η :=
  let next := loop.check (world.isGiven world.tied)
  { world with
    subscriber := { world.subscriber with receive := some next }
    phase := if next.ended.isSome then .waiting else .polling
    ends := enter world.ends world.started next.ended }

/-- A step of the poll of a loop, which waits where its stream has nothing to offer. -/
def pollWith (world : Supervision η) (loop : ReceiveLoop η) : Supervision η :=
  match loop.poll world.net with
  | none => { world with phase := .waiting }
  | some polled =>
      { world with
        subscriber := { world.subscriber with receive := some polled.loop }
        net := polled.net
        phase := polled.phase
        ends := enter world.ends world.started polled.loop.ended }

/-- The loop hands on what it took. -/
def handOn (world : Supervision η) (behaviour : Behaviour η) (loop : ReceiveLoop η)
    (body : ByteArray) : Supervision η :=
  let next := loop.hand world.subscriber.subscription behaviour body world.net
  { world with
    subscriber := { world.subscriber with receive := some next.loop, subscription := next.subscription }
    net := next.net
    phase := .waiting
    calls := enter world.calls world.started next.call
    ends := enter world.ends world.started next.loop.ended }

/-- One event.  A loop checks where it waits, polls what it has begun to poll, and hands on what it holds. -/
def step (world : Supervision η) : Event η → Supervision η
  | .traffic traffic => world.convey traffic
  | .call operation => if world.admits operation then world.obey operation else world
  | .cancel => { world with subscriber := world.subscriber.cancel }
  | .signal name => { world with given := name :: world.given }
  | .tie name => { world with subscriber := { world.subscriber with signal := some name } }
  | .drop =>
      let (subscriber, net) := world.subscriber.drop world.net
      { world with subscriber, net }
  | .check =>
      match world.phase, world.subscriber.receive with
      | .waiting, some loop => if loop.ended.isSome then world else world.checkWith loop
      | _, _ => world
  | .poll =>
      match world.phase, world.subscriber.receive with
      | .polling, some loop => world.pollWith loop
      | _, _ => world
  | .hand behaviour =>
      match world.phase, world.subscriber.receive with
      | .holding body, some loop => world.handOn behaviour loop body
      | _, _ => world
  | .collect =>
      match world.subscriber.collectDropped world.net with
      | some (subscriber, net) => { world with subscriber, net }
      | none => world

/-- Some events, one after the other. -/
def run (world : Supervision η) (events : List (Event η)) : Supervision η := events.foldl step world

theorem entriesOf_enter_self {α : Type} (journal : List (Nat × α)) (number : Nat) (entry : Option α) :
    entriesOf (enter journal number entry) number = entriesOf journal number ++ entry.toList := by
  cases entry <;> simp [entriesOf, enter]

theorem entriesOf_enter_of_ne {α : Type} {number other : Nat} (h : number ≠ other)
    (journal : List (Nat × α)) (entry : Option α) :
    entriesOf (enter journal other entry) number = entriesOf journal number := by
  cases entry <;> simp [entriesOf, enter, h.symm]

theorem entriesOf_eq_nil {α : Type} {journal : List (Nat × α)} {number bound : Nat}
    (h : ∀ entry ∈ journal, entry.1 ≤ bound) (hbound : bound < number) :
    entriesOf journal number = [] := by
  rw [entriesOf, List.map_eq_nil_iff, List.filter_eq_nil_iff]
  intro entry hentry
  have hle := h entry hentry
  simp only [decide_eq_true_eq]
  omega

theorem le_of_mem_enter {α : Type} {journal : List (Nat × α)} {number : Nat} {entry : Option α}
    (h : ∀ old ∈ journal, old.1 ≤ number) : ∀ new ∈ enter journal number entry, new.1 ≤ number := by
  intro new hnew
  rcases List.mem_append.1 hnew with hold | hentered
  · exact h new hold
  · obtain ⟨value, -, rfl⟩ := Option.map_eq_some_iff.1 (Option.mem_toList.1 hentered)
    exact Nat.le_refl number

/-! ## What holds at every moment -/

/-- What holds at every moment: the parts of the subscriber hang together, only a loop that has not ended polls or
has taken a body, and the journals have entries for the loops that were started, with the end of the latest one if
it has ended. -/
structure Sound (world : Supervision η) : Prop extends
    Subscriber.Fastened world.net world.subscriber where
  busy : world.phase ≠ .waiting → ∃ loop, world.subscriber.receive = some loop ∧ loop.ended = none
  latest : ∀ loop, world.subscriber.receive = some loop →
    world.endsOf world.started = loop.ended.toList
  calls : ∀ entry ∈ world.calls, entry.1 ≤ world.started
  ends : ∀ entry ∈ world.ends, entry.1 ≤ world.started

variable {world : Supervision η} {loop : ReceiveLoop η}

/-- A loop that is not at work waits, and so does nobody at all. -/
theorem Sound.waiting (h : world.Sound)
    (hquiet : ∀ loop, world.subscriber.receive = some loop → loop.ended ≠ none) :
    world.phase = .waiting := by
  by_contra hbusy
  obtain ⟨loop, hloop, hended⟩ := h.busy hbusy
  exact hquiet loop hloop hended

/-- A loop at work reads from a stream in use. -/
theorem Sound.live_of_going (h : world.Sound) (hloop : world.subscriber.receive = some loop)
    (hended : loop.ended = none) : loop.stream.Live world.net :=
  h.live _ (.inr ⟨loop, hloop, ReceiveLoop.keepsReader_of_going hended, rfl⟩)

/-! ## What an event does to a loop -/

/-- A stream goes on as another one: some bodies were taken from what it had not read, and what has arrived since
comes behind the rest. -/
def Continues (before : Supervision η) (stream : Stream) (taken : List ByteArray) (after : Supervision η)
    (stream' : Stream) : Prop :=
  ∃ piece, after.arrived = before.arrived ++ piece ∧
    stream.unread before.net ++ piece = taken.flatMap Frame.bytes ++ stream'.unread after.net

theorem Continues.of_same {stream stream' : Stream} {before after : Supervision η}
    (harrived : after.arrived = before.arrived)
    (hunread : stream'.unread after.net = stream.unread before.net) :
    Continues before stream [] after stream' :=
  ⟨[], by rw [harrived, List.append_nil], by rw [hunread, List.append_nil, List.flatMap_nil,
    List.nil_append]⟩

theorem Continues.trans {stream stream' stream'' : Stream} {taken taken' : List ByteArray}
    {first second third : Supervision η} (h : Continues first stream taken second stream')
    (h' : Continues second stream' taken' third stream'') :
    Continues first stream (taken ++ taken') third stream'' := by
  obtain ⟨piece, harrived, hunread⟩ := h
  obtain ⟨piece', harrived', hunread'⟩ := h'
  refine ⟨piece ++ piece', by rw [harrived', harrived, List.append_assoc], ?_⟩
  rw [← List.append_assoc, hunread, List.append_assoc, hunread', List.flatMap_append,
    List.append_assoc]

/-- An event that is no step of a loop leaves the loop as it is, or cancels it. -/
structure Undisturbed (world : Supervision η) (loop : ReceiveLoop η) (after : Supervision η) : Prop where
  receive : ∃ current, after.subscriber.receive = some current ∧ current.stream = loop.stream ∧
    current.ended = loop.ended ∧ (loop.isCancelled = true → current.isCancelled = true)
  started : after.started = world.started
  tied : after.tied = world.tied
  given : ∀ name, world.given.contains name = true → after.given.contains name = true
  phase : after.phase = world.phase
  calls : after.calls = world.calls
  ends : after.ends = world.ends
  unread : loop.KeepsReader → Continues world loop.stream [] after loop.stream

/-- Everything that an event can come to for the latest loop. -/
inductive Onward (world : Supervision η) (loop : ReceiveLoop η) : Supervision η → Prop where
  | undisturbed {after : Supervision η} (h : Undisturbed world loop after) : Onward world loop after
  /-- it has ended, and it is collected -/
  | collected {after : Supervision η} (ended : loop.ended.isSome = true)
      (receive : after.subscriber.receive = none) (started : after.started = world.started)
      (phase : after.phase = world.phase) (calls : after.calls = world.calls)
      (ends : after.ends = world.ends) : Onward world loop after
  /-- it checks its token -/
  | checked (ended : loop.ended = none) (phase : world.phase = .waiting) :
      Onward world loop (world.checkWith loop)
  /-- it goes on polling -/
  | polled (ended : loop.ended = none) (phase : world.phase = .polling) :
      Onward world loop (world.pollWith loop)
  /-- it hands on what it took -/
  | handed (behaviour : Behaviour η) (body : ByteArray) (ended : loop.ended = none)
      (phase : world.phase = .holding body) : Onward world loop (world.handOn behaviour loop body)

/-- Everything that an event can come to while no loop is recorded. -/
inductive Idling (world : Supervision η) : Supervision η → Prop where
  | stays {after : Supervision η} (receive : after.subscriber.receive = none)
      (started : after.started = world.started) (phase : after.phase = world.phase)
      (calls : after.calls = world.calls) (ends : after.ends = world.ends) : Idling world after
  /-- a loop is started -/
  | starts {after : Supervision η} (stream : Stream) (target : Target η)
      (receive : after.subscriber.receive = some { stream, target })
      (started : after.started = world.started + 1) (tied : after.tied = world.subscriber.signal)
      (given : after.given = world.given) (phase : after.phase = world.phase)
      (calls : after.calls = world.calls) (ends : after.ends = world.ends) : Idling world after

theorem Undisturbed.refl (hloop : world.subscriber.receive = some loop) : Undisturbed world loop world where
  receive := ⟨loop, hloop, rfl, rfl, id⟩
  started := rfl
  tied := rfl
  given _ := id
  phase := rfl
  calls := rfl
  ends := rfl
  unread _ := .of_same rfl rfl

theorem undisturbed_convey (h : world.Sound) (hloop : world.subscriber.receive = some loop)
    (traffic : Traffic) : Undisturbed world loop (world.convey traffic) := by
  have hconvey : world.convey traffic =
      { world with
        net := world.net.carry loop.stream.socket traffic
        arrived := world.arrived ++ world.net.brought loop.stream.socket traffic } := by
    simp only [convey, Subscriber.stream?, hloop]
  rw [hconvey]
  exact { Undisturbed.refl hloop with
    unread := fun hkeeps => by
      have hheld := (h.attached _ (Subscriber.hasReader_of_keepsReader hloop hkeeps)).1
      exact ⟨_, rfl, (Stream.unread_carry (Network.lt_size_of_readHeld hheld) traffic).symm⟩ }

/-- A call of the owner, and whether it starts a loop. -/
theorem exists_turn (h : world.Sound) (hdropped : world.subscriber.isDropped = false)
    (operation : Subscriber.Operation η) :
    ∃ after net starts, Subscriber.Turn world.subscriber world.net operation after net ∧
      starts = (world.subscriber.receive.isNone && after.receive.isSome) ∧
      world.obey operation =
        { world with
          subscriber := after
          net
          started := world.started + Bool.toNat starts
          tied := if starts then world.subscriber.signal else world.tied } :=
  ⟨_, _, _, Subscriber.turn_perform (h.coherent hdropped) _ _ operation,
    Subscriber.Life.startedBy_perform .., rfl⟩

/-- A subscriber that was given up admits no call. -/
theorem isDropped_of_admits {operation : Subscriber.Operation η}
    (hadmits : world.admits operation = true) : world.subscriber.isDropped = false := by
  cases operation <;> simp_all [admits]

/-- A call that stops a loop is completed only after the loop has ended. -/
theorem ended_of_admits {operation : Subscriber.Operation η} (hadmits : world.admits operation = true)
    (hwaits : operation = .stop ∨ operation = .close) (hloop : world.subscriber.receive = some loop) :
    loop.ended.isSome = true := by
  rcases hwaits with rfl | rfl <;> simp_all [admits]

theorem onward_obey (h : world.Sound) (hloop : world.subscriber.receive = some loop)
    {operation : Subscriber.Operation η} (hadmits : world.admits operation = true) :
    Onward world loop (world.obey operation) := by
  have hended := fun hwaits => ended_of_admits hadmits hwaits hloop
  obtain ⟨after, net, starts, hturn, hstarts, hobey⟩ :=
    exists_turn h (isDropped_of_admits hadmits) operation
  rw [hloop, Option.isNone_some, Bool.false_and] at hstarts
  subst hstarts
  rw [hobey]
  cases hturn with
  | kept reader receive link =>
      refine .undisturbed { Undisturbed.refl hloop with
        receive := ⟨loop, receive.trans hloop, rfl, rfl, id⟩ }
  | dialed id idle => cases hloop.symm.trans idle
  | armed target stream reader idle => cases hloop.symm.trans idle
  | returned => exact .collected (hended (.inl rfl)) rfl rfl rfl rfl rfl
  | parted waits reader receive => exact .collected (hended waits) receive rfl rfl rfl rfl

/-- Giving a subscriber up lets go of the link, and cancels the loop. -/
theorem undisturbed_drop (h : world.Sound) (hloop : world.subscriber.receive = some loop) :
    Undisturbed world loop (world.step .drop) where
  receive := ⟨{ loop with isCancelled := true }, by
    simp only [step, Subscriber.drop, Subscriber.dropReader, Subscriber.dropLink, Subscriber.cancel,
      hloop, Option.map_some], rfl, rfl, fun _ => rfl⟩
  started := rfl
  tied := rfl
  given _ := id
  phase := rfl
  calls := rfl
  ends := rfl
  unread := fun hkeeps => by
    obtain ⟨hheld, hlink⟩ := h.attached _ (Subscriber.hasReader_of_keepsReader hloop hkeeps)
    refine .of_same rfl (Stream.unread_of_same ?_)
    simp only [step, Subscriber.drop, Subscriber.dropReader, Subscriber.dropLink,
      h.reader_of_receive hloop]
    split
    · rename_i id hid
      rw [hlink id hid, Network.socket_dropWriter hheld]
    · rfl

/-- A loop that does not wait has not ended. -/
theorem going_of_phase (h : world.Sound) (hloop : world.subscriber.receive = some loop)
    {phase : ReceiveLoop.Phase} (hphase : world.phase = phase) (hne : phase ≠ .waiting) : loop.ended = none := by
  obtain ⟨current, hcurrent, hended⟩ := h.busy (hphase ▸ hne)
  cases hloop.symm.trans hcurrent
  exact hended

/-- What an event comes to for the latest loop. -/
theorem onward_step (h : world.Sound) (hloop : world.subscriber.receive = some loop)
    (event : Event η) : Onward world loop (world.step event) := by
  have hsame : Undisturbed world loop world := .refl hloop
  cases event with
  | traffic traffic => exact .undisturbed (undisturbed_convey h hloop traffic)
  | call operation =>
      rw [step]
      split
      · rename_i hadmits
        exact onward_obey h hloop hadmits
      · exact .undisturbed hsame
  | cancel =>
      exact .undisturbed { hsame with
        receive := ⟨{ loop with isCancelled := true }, by
          simp only [step, Subscriber.cancel, hloop, Option.map_some], rfl, rfl, fun _ => rfl⟩ }
  | signal name =>
      exact .undisturbed { hsame with
        given := fun other hother => by
          simp only [step, List.contains_cons, hother, Bool.or_true] }
  | tie name => exact .undisturbed { hsame with receive := ⟨loop, hloop, rfl, rfl, id⟩ }
  | drop => exact .undisturbed (undisturbed_drop h hloop)
  | check =>
      rw [step]
      split
      · rename_i other hphase hother
        cases hloop.symm.trans hother
        split
        · exact .undisturbed hsame
        · rename_i hgoing
          exact .checked (by simpa using hgoing) hphase
      · exact .undisturbed hsame
  | poll =>
      rw [step]
      split
      · rename_i other hphase hother
        cases hloop.symm.trans hother
        exact .polled (going_of_phase h hloop hphase ReceiveLoop.Phase.noConfusion) hphase
      · exact .undisturbed hsame
  | hand behaviour =>
      rw [step]
      split
      · rename_i body other hphase hother
        cases hloop.symm.trans hother
        exact .handed behaviour body (going_of_phase h hloop hphase ReceiveLoop.Phase.noConfusion) hphase
      · exact .undisturbed hsame
  | collect =>
      rw [step, Subscriber.collectDropped, hloop]
      dsimp only
      split
      · rename_i subscriber net hcollect
        split at hcollect
        · rename_i hover
          cases hcollect
          exact .collected (Bool.and_eq_true_iff.1 hover).2 rfl rfl rfl rfl rfl
        · cases hcollect
      · exact .undisturbed hsame

/-- What an event comes to while no loop is recorded. -/
theorem idling_step (h : world.Sound) (hidle : world.subscriber.receive = none) (event : Event η) :
    Idling world (world.step event) := by
  have hsame : Idling world world := .stays hidle rfl rfl rfl rfl
  cases event with
  | traffic traffic =>
      rw [step]
      unfold convey
      split
      · exact .stays hidle rfl rfl rfl rfl
      · split
        · exact .stays hidle rfl rfl rfl rfl
        · exact hsame
  | call operation =>
      rw [step]
      split
      · rename_i hadmits
        obtain ⟨after, net, starts, hturn, hstarts, hobey⟩ :=
          exists_turn h (isDropped_of_admits hadmits) operation
        rw [hidle, Option.isNone_none, Bool.true_and] at hstarts
        rw [hobey]
        cases hturn with
        | kept reader receive link =>
            rw [receive, hidle, Option.isSome_none] at hstarts
            subst hstarts
            exact .stays (receive.trans hidle) rfl rfl rfl rfl
        | dialed id idle reader receive link =>
            rw [receive, Option.isSome_none] at hstarts
            subst hstarts
            exact .stays receive rfl rfl rfl rfl
        | armed target stream reader idle =>
            rw [Option.isSome_some] at hstarts
            subst hstarts
            exact .starts stream target rfl rfl rfl rfl rfl rfl rfl
        | returned other hother => cases hidle.symm.trans hother
        | parted waits reader receive =>
            rw [receive, Option.isSome_none] at hstarts
            subst hstarts
            exact .stays receive rfl rfl rfl rfl
      · exact hsame
  | cancel =>
      refine .stays ?_ rfl rfl rfl rfl
      simp only [step, Subscriber.cancel, hidle, Option.map_none]
  | signal name => exact .stays hidle rfl rfl rfl rfl
  | tie name => exact .stays hidle rfl rfl rfl rfl
  | drop =>
      refine .stays ?_ rfl rfl rfl rfl
      simp only [step, Subscriber.drop, Subscriber.dropReader, Subscriber.dropLink, Subscriber.cancel,
        hidle, Option.map_none]
  | check =>
      rw [step]
      split
      · rename_i loop _ hloop
        cases hidle.symm.trans hloop
      · exact hsame
  | poll =>
      rw [step]
      split
      · rename_i loop _ hloop
        cases hidle.symm.trans hloop
      · exact hsame
  | hand behaviour =>
      rw [step]
      split
      · rename_i body loop _ hloop
        cases hidle.symm.trans hloop
      · exact hsame
  | collect =>
      rw [step, Subscriber.collectDropped, hidle]
      exact hsame

/-! ## Every event keeps everything together -/

theorem sound_start (url : Url) (signal : Option String) (net : Network) :
    (start url signal net : Supervision η).Sound where
  toFastened := .create net url signal
  busy hbusy := absurd rfl hbusy
  latest _ hloop := by cases hloop
  calls _ hentry := by cases hentry
  ends _ hentry := by cases hentry

theorem readHeld_carry {net : Network} {id : SocketId} (h : (net.socket id).readHeld = true)
    (traffic : Traffic) : ((net.carry id traffic).socket id).readHeld = true := by
  have hin := Network.lt_size_of_readHeld h
  cases traffic with
  | bytes piece =>
      rw [Network.carry]
      split
      · exact h
      · rw [Network.socket_modify_self hin]
        exact h
  | ends reset =>
      rw [Network.carry, Network.socket_modify_self hin]
      exact h
  | elsewhere after =>
      rw [Network.carry]
      split
      · rename_i hthere
        rw [Network.socket_modify_self hthere]
        exact h
      · exact h

theorem fastened_convey (h : world.Sound) (traffic : Traffic) :
    Subscriber.Fastened (world.convey traffic).net (world.convey traffic).subscriber := by
  unfold convey
  split
  · rename_i stream hstream
    refine h.toFastened.of_net fun other hother hheld => ?_
    cases hstream.symm.trans hother
    exact ⟨readHeld_carry hheld traffic,
      fun hlive => hlive.carry (Network.lt_size_of_readHeld hheld) traffic⟩
  · rename_i hstream
    split
    · refine h.toFastened.of_net fun other hother => ?_
      cases hstream.symm.trans hother
    · exact h.toFastened

theorem fastened_obey (h : world.Sound) {operation : Subscriber.Operation η}
    (hadmits : world.admits operation = true) :
    Subscriber.Fastened (world.obey operation).net (world.obey operation).subscriber := by
  have hdropped := isDropped_of_admits hadmits
  have hcoherent := h.coherent hdropped
  refine h.toFastened.of_turn (Subscriber.turn_perform hcoherent _ _ operation)
    (Subscriber.coherent_perform hcoherent _ _ operation) ?_
  exact (Subscriber.isDropped_perform ..).trans hdropped

theorem fastened_checkWith (h : world.Sound) (hloop : world.subscriber.receive = some loop)
    (hended : loop.ended = none) :
    Subscriber.Fastened (world.checkWith loop).net (world.checkWith loop).subscriber := by
  have hstream := ReceiveLoop.stream_check loop (world.isGiven world.tied)
  refine h.toFastened.of_loop hloop hended (congrArg Stream.socket hstream) (fun _ => id) fun _ => ?_
  rw [hstream]
  exact h.live_of_going hloop hended

theorem fastened_pollWith (h : world.Sound) (hloop : world.subscriber.receive = some loop)
    (hended : loop.ended = none) :
    Subscriber.Fastened (world.pollWith loop).net (world.pollWith loop).subscriber := by
  have hpolls := ReceiveLoop.polls_poll (h.live_of_going hloop hended)
  unfold pollWith
  generalize loop.poll world.net = polled at hpolls
  cases hpolls with
  | idle => exact h.toFastened
  | moved live socket held => exact h.toFastened.of_loop hloop hended socket (fun _ => held) fun _ => live
  | took live socket => exact h.toFastened.of_loop hloop hended socket (fun _ => id) fun _ => live
  | finished socket held lost =>
      refine h.toFastened.of_loop hloop hended socket (fun _ => held) fun hkept => ?_
      rcases lost with rfl | ⟨fault, rfl⟩ <;> cases hkept

theorem fastened_handOn (h : world.Sound) (hloop : world.subscriber.receive = some loop)
    (hended : loop.ended = none) (behaviour : Behaviour η) (body : ByteArray) :
    Subscriber.Fastened (world.handOn behaviour loop body).net
      (world.handOn behaviour loop body).subscriber := by
  have hhanded := ReceiveLoop.handed_hand hended world.subscriber.subscription behaviour body world.net
  unfold handOn
  generalize loop.hand world.subscriber.subscription behaviour body world.net = next at hhanded
  cases hhanded with
  | calm =>
      exact h.toFastened.of_loop hloop hended rfl (fun _ => id) fun _ => h.live_of_going hloop hended
  | crashed reason =>
      refine h.toFastened.of_loop hloop hended rfl (fun hcalm => absurd rfl (hcalm reason)) fun hkept => ?_
      cases hkept

theorem fastened_step (h : world.Sound) (event : Event η) :
    Subscriber.Fastened (world.step event).net (world.step event).subscriber := by
  cases event with
  | traffic traffic => exact fastened_convey h traffic
  | call operation =>
      rw [step]
      split
      · rename_i hadmits
        exact fastened_obey h hadmits
      · exact h.toFastened
  | cancel => exact h.toFastened.cancel
  | signal name => exact h.toFastened
  | tie name =>
      exact {
        coherent := fun hkept => (h.coherent hkept).congr rfl rfl rfl rfl
        dropped := h.dropped
        attached := h.attached
        live := h.live }
  | drop => exact h.toFastened.drop
  | check =>
      rw [step]
      split
      · rename_i loop _ hloop
        split
        · exact h.toFastened
        · rename_i hgoing
          exact fastened_checkWith h hloop (by simpa using hgoing)
      · exact h.toFastened
  | poll =>
      rw [step]
      split
      · rename_i loop hphase hloop
        exact fastened_pollWith h hloop (going_of_phase h hloop hphase ReceiveLoop.Phase.noConfusion)
      · exact h.toFastened
  | hand behaviour =>
      rw [step]
      split
      · rename_i body loop hphase hloop
        exact fastened_handOn h hloop (going_of_phase h hloop hphase ReceiveLoop.Phase.noConfusion) behaviour body
      · exact h.toFastened
  | collect =>
      rw [step]
      split
      · rename_i hcollect
        exact h.toFastened.collectDropped hcollect
      · exact h.toFastened

/-- What the latest loop comes to is entered for it, with its end if it has ended by that. -/
theorem latest_of_entered {current : ReceiveLoop η} (h : world.Sound)
    (hloop : world.subscriber.receive = some loop) (hended : loop.ended = none) :
    entriesOf (enter world.ends world.started current.ended) world.started = current.ended.toList := by
  have hnone := h.latest loop hloop
  rw [hended] at hnone
  rw [entriesOf_enter_self]
  exact congrArg (· ++ _) hnone

/-- A check enters the end of the loop if the loop has ended by it. -/
theorem Sound.of_checked (h : world.Sound) (hloop : world.subscriber.receive = some loop)
    (hended : loop.ended = none) : (world.checkWith loop).Sound where
  toFastened := fastened_checkWith h hloop hended
  busy hbusy := by
    refine ⟨_, rfl, ?_⟩
    by_contra hover
    exact hbusy (if_pos (Option.isSome_iff_ne_none.2 hover))
  latest := fun current hcurrent => by
    obtain rfl := Option.some.inj hcurrent
    exact latest_of_entered h hloop hended
  calls := h.calls
  ends := le_of_mem_enter h.ends

/-- So does a step of a poll. -/
theorem Sound.of_polled (h : world.Sound) (hloop : world.subscriber.receive = some loop)
    (hended : loop.ended = none) : (world.pollWith loop).Sound := by
  have hfastened := fastened_pollWith h hloop hended
  have hpolls := ReceiveLoop.polls_poll (h.live_of_going hloop hended)
  unfold pollWith at hfastened ⊢
  generalize loop.poll world.net = polled at hpolls hfastened
  have hentered : ∀ {current other : ReceiveLoop η}, some other = some current →
      entriesOf (enter world.ends world.started other.ended) world.started = current.ended.toList := by
    intro current other hsame
    cases hsame
    exact latest_of_entered h hloop hended
  cases hpolls with
  | idle => exact { h with busy := fun hbusy => absurd rfl hbusy }
  | moved =>
      exact {
        toFastened := hfastened
        busy := fun _ => ⟨_, rfl, hended⟩
        latest := fun _ => hentered
        calls := h.calls
        ends := le_of_mem_enter h.ends }
  | took =>
      exact {
        toFastened := hfastened
        busy := fun _ => ⟨_, rfl, hended⟩
        latest := fun _ => hentered
        calls := h.calls
        ends := le_of_mem_enter h.ends }
  | finished =>
      exact {
        toFastened := hfastened
        busy := fun hbusy => absurd rfl hbusy
        latest := fun _ => hentered
        calls := h.calls
        ends := le_of_mem_enter h.ends }

/-- Handing on enters a call, and the end of the loop if the handler crashes. -/
theorem Sound.of_handed (h : world.Sound) (hloop : world.subscriber.receive = some loop)
    (hended : loop.ended = none) (behaviour : Behaviour η) (body : ByteArray) :
    (world.handOn behaviour loop body).Sound where
  toFastened := fastened_handOn h hloop hended behaviour body
  busy hbusy := absurd rfl hbusy
  latest := fun current hcurrent => by
    obtain rfl := Option.some.inj hcurrent
    exact latest_of_entered h hloop hended
  calls := le_of_mem_enter h.calls
  ends := le_of_mem_enter h.ends

/-- Every event keeps everything together. -/
theorem sound_step (h : world.Sound) (event : Event η) : (world.step event).Sound := by
  have hfastened := fastened_step h event
  cases hloop : world.subscriber.receive with
  | none =>
      have hwaiting := h.waiting fun loop hsome => by cases hloop.symm.trans hsome
      have hidling := idling_step h hloop event
      generalize world.step event = after at hfastened hidling
      cases hidling with
      | stays receive started phase calls ends =>
          exact {
            toFastened := hfastened
            busy := fun hbusy => absurd (phase.trans hwaiting) hbusy
            latest := fun current hcurrent => by cases receive.symm.trans hcurrent
            calls := by rw [calls, started]; exact h.calls
            ends := by rw [ends, started]; exact h.ends }
      | starts stream target receive started tied given phase calls ends =>
          have hends : ∀ entry ∈ after.ends, entry.1 ≤ world.started := by
            rw [ends]
            exact h.ends
          exact {
            toFastened := hfastened
            busy := fun hbusy => absurd (phase.trans hwaiting) hbusy
            latest := fun current hcurrent => by
              obtain rfl := Option.some.inj (receive.symm.trans hcurrent)
              exact entriesOf_eq_nil hends (by rw [started]; exact Nat.lt_succ_self _)
            calls := fun entry hentry => by
              rw [calls] at hentry
              rw [started]
              exact Nat.le_succ_of_le (h.calls entry hentry)
            ends := fun entry hentry => by
              rw [started]
              exact Nat.le_succ_of_le (hends entry hentry) }
  | some loop =>
      have honward := onward_step h hloop event
      generalize world.step event = after at hfastened honward
      cases honward with
      | undisturbed hsame =>
          obtain ⟨current, hcurrent, -, hended, -⟩ := hsame.receive
          exact {
            toFastened := hfastened
            busy := fun hbusy => by
              obtain ⟨old, hold, hgoing⟩ := h.busy (hsame.phase ▸ hbusy)
              cases hloop.symm.trans hold
              exact ⟨current, hcurrent, hended.trans hgoing⟩
            latest := fun other hother => by
              obtain rfl := Option.some.inj (hcurrent.symm.trans hother)
              rw [endsOf, hsame.ends, hsame.started, hended]
              exact h.latest loop hloop
            calls := by rw [hsame.calls, hsame.started]; exact h.calls
            ends := by rw [hsame.ends, hsame.started]; exact h.ends }
      | collected ended receive started phase calls ends =>
          have hwaiting := h.waiting fun other hother hgoing => by
            cases hloop.symm.trans hother
            rw [hgoing] at ended
            cases ended
          exact {
            toFastened := hfastened
            busy := fun hbusy => absurd (phase.trans hwaiting) hbusy
            latest := fun current hcurrent => by cases receive.symm.trans hcurrent
            calls := by rw [calls, started]; exact h.calls
            ends := by rw [ends, started]; exact h.ends }
      | checked ended phase => exact h.of_checked hloop ended
      | polled ended phase => exact h.of_polled hloop ended
      | handed behaviour body ended phase => exact h.of_handed hloop ended behaviour body

theorem sound_run (h : world.Sound) (events : List (Event η)) : (world.run events).Sound :=
  List.foldlRecOn (motive := Sound) events step h fun _ h event _ => sound_step h event

end Supervision

end DeviceBus
