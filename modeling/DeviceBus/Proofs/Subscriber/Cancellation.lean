import DeviceBus.Proofs.Subscriber.Supervision

/-!
# What follows a cancellation

Once the token of a receive loop is cancelled, the loop hands on the frame that it holds, if it holds one.  If it
had checked its token before and polls its stream, it finishes the poll, which may take one more frame or find
that the stream is over.  It ends by its next check, whatever else has arrived.  A subscriber whose signal was
given starts no loop that does more than end.

* `Supervision.settled_step`: a loop that has ended does nothing more.
* `Supervision.Spent`, `Supervision.Waning`, `Supervision.waning_step`: the rest of a loop whose token is cancelled.
* `Supervision.ends_of_waning`: it ends.
* `Supervision.Mute`, `Supervision.doomed_step`: the loops that are started after the signal.
* `Supervision.what_follows_cancellation`: all of it, for every run and any two moments of it.
* `Supervision.not_every_cancellation_final`: a frame that is taken after the cancellation, and other ways to end.
-/

namespace DeviceBus

variable {η : Type}

namespace Supervision

variable {world : Supervision η} {loop : ReceiveLoop η}

/-! ## Loops that have ended -/

/-- A loop that has ended, whether it is collected or not. -/
def Settled (world : Supervision η) (number : Nat) : Prop :=
  number ≤ world.started ∧ (world.started = number → ∀ loop, world.subscriber.receive = some loop →
    loop.ended.isSome = true)

theorem started_pollWith (world : Supervision η) (loop : ReceiveLoop η) :
    (world.pollWith loop).started = world.started := by
  unfold pollWith
  split <;> rfl

/-- What a loop does is entered for that loop only. -/
theorem entriesOf_checkWith_of_ne {number : Nat} (hne : number ≠ world.started)
    (loop : ReceiveLoop η) :
    (world.checkWith loop).callsOf number = world.callsOf number ∧
      (world.checkWith loop).endsOf number = world.endsOf number :=
  ⟨rfl, entriesOf_enter_of_ne hne _ _⟩

theorem entriesOf_pollWith_of_ne {number : Nat} (hne : number ≠ world.started)
    (loop : ReceiveLoop η) :
    (world.pollWith loop).callsOf number = world.callsOf number ∧
      (world.pollWith loop).endsOf number = world.endsOf number := by
  unfold pollWith
  split
  · exact ⟨rfl, rfl⟩
  · exact ⟨rfl, entriesOf_enter_of_ne hne _ _⟩

theorem entriesOf_handOn_of_ne {number : Nat} (hne : number ≠ world.started) (behaviour : Behaviour η)
    (body : ByteArray) :
    (world.handOn behaviour loop body).callsOf number = world.callsOf number ∧
      (world.handOn behaviour loop body).endsOf number = world.endsOf number :=
  ⟨entriesOf_enter_of_ne hne _ _, entriesOf_enter_of_ne hne _ _⟩

/-- A loop that has ended does nothing more. -/
theorem settled_step (h : world.Sound) {number : Nat} (hsettled : world.Settled number)
    (event : Event η) :
    (world.step event).Settled number ∧ (world.step event).callsOf number = world.callsOf number ∧
      (world.step event).endsOf number = world.endsOf number := by
  obtain ⟨hle, hover⟩ := hsettled
  cases hloop : world.subscriber.receive with
  | none =>
      have hidling := idling_step h hloop event
      generalize world.step event = after at hidling
      cases hidling with
      | stays receive started phase calls ends =>
          refine ⟨⟨by rw [started]; exact hle, fun _ current hcurrent => ?_⟩, ?_, ?_⟩
          · cases receive.symm.trans hcurrent
          · rw [callsOf, calls, callsOf]
          · rw [endsOf, ends, endsOf]
      | starts stream target receive started tied given phase calls ends =>
          refine ⟨⟨by omega, fun hsame => by omega⟩, ?_, ?_⟩
          · rw [callsOf, calls, callsOf]
          · rw [endsOf, ends, endsOf]
  | some loop =>
      have honward := onward_step h hloop event
      -- a loop that is at work is another one
      have hother : loop.ended = none → number ≠ world.started := by
        rintro hgoing rfl
        have hended := hover rfl loop hloop
        rw [hgoing] at hended
        cases hended
      generalize world.step event = after at honward
      cases honward with
      | undisturbed hsame =>
          obtain ⟨current, hcurrent, -, hended, -⟩ := hsame.receive
          refine ⟨⟨by rw [hsame.started]; exact hle, fun hnumber other hother => ?_⟩, ?_, ?_⟩
          · obtain rfl := Option.some.inj (hcurrent.symm.trans hother)
            rw [hended]
            exact hover (hsame.started.symm.trans hnumber) loop hloop
          · rw [callsOf, hsame.calls, callsOf]
          · rw [endsOf, hsame.ends, endsOf]
      | collected ended receive started phase calls ends =>
          refine ⟨⟨by rw [started]; exact hle, fun _ current hcurrent => ?_⟩, ?_, ?_⟩
          · cases receive.symm.trans hcurrent
          · rw [callsOf, calls, callsOf]
          · rw [endsOf, ends, endsOf]
      | checked ended phase =>
          have hne := hother ended
          exact ⟨⟨hle, fun hsame => absurd hsame.symm hne⟩, entriesOf_checkWith_of_ne hne loop⟩
      | polled ended phase =>
          have hne := hother ended
          have hstarted := started_pollWith world loop
          exact ⟨⟨hstarted ▸ hle, fun hsame => absurd (hsame.symm.trans hstarted) hne⟩,
            entriesOf_pollWith_of_ne hne loop⟩
      | handed behaviour body ended phase =>
          have hne := hother ended
          exact ⟨⟨hle, fun hsame => absurd hsame.symm hne⟩, entriesOf_handOn_of_ne hne behaviour body⟩

/-! ## A loop whose token is cancelled -/

/-- What a loop may have come to since a moment at which it stood at `start`: where it stands now, the bodies that it
has taken since, and the calls that it has made since. -/
inductive Spent (start : ReceiveLoop.Phase) : ReceiveLoop.Phase → List ByteArray → List (Call η) → Prop where
  | still : Spent start start [] []
  /-- its poll has found nothing, or has come to no good end -/
  | idle (polling : start = .polling) : Spent start .waiting [] []
  /-- its poll has found a body -/
  | took (polling : start = .polling) (body : ByteArray) : Spent start (.holding body) [body] []
  /-- it has handed on what it had taken before, or by its poll -/
  | handed {body : ByteArray} {taken : List ByteArray} {call : Option (Call η)}
      (source : start = .holding body ∧ taken = [] ∨ start = .polling ∧ taken = [body])
      (decoded : ∀ made ∈ call, Message.decode body = .ok made.message) :
      Spent start .waiting taken call.toList

namespace Spent

variable {start : ReceiveLoop.Phase} {body : ByteArray} {taken : List ByteArray} {late : List (Call η)}

/-- A loop that still polls has done nothing since. -/
theorem of_polling (h : Spent start .polling taken late) : start = .polling ∧ taken = [] ∧ late = [] := by
  cases h with
  | still => exact ⟨rfl, rfl, rfl⟩

/-- A loop that holds a body took it before, or by its poll. -/
theorem of_holding (h : Spent start (.holding body) taken late) :
    late = [] ∧ (start = .holding body ∧ taken = [] ∨ start = .polling ∧ taken = [body]) := by
  cases h with
  | still => exact ⟨rfl, .inl ⟨rfl, rfl⟩⟩
  | took polling => exact ⟨rfl, .inr ⟨polling, rfl⟩⟩

/-- One body is taken at most, and only by a poll. -/
theorem taken_cases {phase : ReceiveLoop.Phase} (h : Spent start phase taken late) :
    taken = [] ∨ start = .polling ∧ ∃ body, taken = [body] := by
  cases h with
  | still => exact .inl rfl
  | idle => exact .inl rfl
  | took polling body => exact .inr ⟨polling, body, rfl⟩
  | handed source =>
      rcases source with ⟨-, rfl⟩ | ⟨polling, rfl⟩
      · exact .inl rfl
      · exact .inr ⟨polling, _, rfl⟩

/-- One call is made at most, and only for what was held or taken. -/
theorem late_cases {phase : ReceiveLoop.Phase} (h : Spent start phase taken late) :
    late = [] ∨ ∃ body call, (start = .holding body ∨ taken = [body]) ∧
      Message.decode body = .ok call.message ∧ late = [call] := by
  cases h with
  | still => exact .inl rfl
  | idle => exact .inl rfl
  | took => exact .inl rfl
  | @handed body _ call source decoded =>
      cases call with
      | none => exact .inl rfl
      | some made =>
          exact .inr ⟨body, made, source.imp And.left And.right, decoded made rfl, rfl⟩

end Spent

/-- The ends that a loop may come to although it had not ended when its token was cancelled. -/
def MayEnd (start : ReceiveLoop.Phase) (taken : List ByteArray) (late : List (Call η)) (ending : LoopEnd) : Prop :=
  ending = .returned .canceled ∨ (late ≠ [] ∧ ∃ reason, ending = .crashed reason) ∨
    start = .polling ∧ taken = [] ∧
      (ending = .returned .closed ∨ ∃ fault, ending = .returned (.failed (.transport "recv" fault)))

/-- The rest of a loop from a moment on at which its token is cancelled. -/
inductive Waning (point : Supervision η) (loop : ReceiveLoop η) (world : Supervision η) : Prop where
  /-- it has not checked its token since -/
  | going (current : ReceiveLoop η) (taken : List ByteArray) (late : List (Call η))
      (receive : world.subscriber.receive = some current) (ended : current.ended = none)
      (started : world.started = point.started) (cancelled : world.isCancelled current = true)
      (socket : current.stream.socket = loop.stream.socket)
      (continues : Continues point loop.stream taken world current.stream)
      (spent : Spent point.phase world.phase taken late)
      (calls : world.callsOf point.started = point.callsOf point.started ++ late)
      (ends : world.endsOf point.started = []) : Waning point loop world
  /-- it has ended; as long as it is not collected, it has what is unread -/
  | concluded (ending : LoopEnd) (phase : ReceiveLoop.Phase) (taken : List ByteArray) (late : List (Call η))
      (settled : world.Settled point.started) (spent : Spent point.phase phase taken late)
      (calls : world.callsOf point.started = point.callsOf point.started ++ late)
      (ends : world.endsOf point.started = [ending])
      (cause : loop.ended = some ending ∨ MayEnd point.phase taken late ending)
      (reader : world.started = point.started → ∀ current, world.subscriber.receive = some current →
        current.KeepsReader → current.stream.socket = loop.stream.socket ∧
          Continues point loop.stream taken world current.stream) : Waning point loop world

variable {point : Supervision η}

/-- What holds at the moment itself. -/
theorem waning_refl (h : point.Sound) (hloop : point.subscriber.receive = some loop)
    (hcancelled : point.isCancelled loop = true) : Waning point loop point := by
  have hends := h.latest loop hloop
  have hnow : Continues point loop.stream [] point loop.stream := .of_same rfl rfl
  cases hended : loop.ended with
  | none =>
      rw [hended] at hends
      exact .going loop [] [] hloop hended rfl hcancelled rfl hnow .still (List.append_nil _).symm hends
  | some ending =>
      rw [hended] at hends
      refine .concluded ending point.phase [] [] ⟨Nat.le_refl _, fun _ current hcurrent => ?_⟩ .still
        (List.append_nil _).symm hends (.inl hended) fun _ current hcurrent _ => ?_
      · obtain rfl := Option.some.inj (hloop.symm.trans hcurrent)
        rw [hended]
        rfl
      · obtain rfl := Option.some.inj (hloop.symm.trans hcurrent)
        exact ⟨rfl, hnow⟩

/-- A signal that was given stays given, and a token that is cancelled stays cancelled. -/
theorem Undisturbed.isCancelled {after : Supervision η} {current : ReceiveLoop η}
    (h : Undisturbed world loop after) (hcancelled : world.isCancelled loop = true)
    (hcurrent : loop.isCancelled = true → current.isCancelled = true) :
    after.isCancelled current = true := by
  rcases Bool.or_eq_true_iff.1 hcancelled with hown | hgiven
  · rw [Supervision.isCancelled, hcurrent hown, Bool.true_or]
  · rw [Supervision.isCancelled, h.tied]
    refine Bool.or_eq_true_iff.2 (.inr ?_)
    cases htied : world.tied with
    | none =>
        rw [htied] at hgiven
        cases hgiven
    | some name =>
        rw [htied] at hgiven
        exact h.given name hgiven

/-- A cancelled loop that checks its token ends, and does nothing else. -/
theorem checkWith_of_cancelled (hcancelled : world.isCancelled loop = true) :
    world.checkWith loop =
      { world with
        subscriber := { world.subscriber with receive := some (loop.finish .canceled) }
        phase := .waiting
        ends := enter world.ends world.started (some (.returned .canceled)) } := by
  rw [checkWith, ReceiveLoop.check_of_cancelled hcancelled]
  rfl

section Going

variable {current : ReceiveLoop η} {taken : List ByteArray} {late : List (Call η)}

/-- A cancelled loop that checks its token has ended, with what is unread. -/
theorem waning_checkWith (hstarted : world.started = point.started)
    (hcancelled : world.isCancelled current = true)
    (hsocket : current.stream.socket = loop.stream.socket)
    (hcontinues : Continues point loop.stream taken world current.stream)
    (hspent : Spent point.phase .waiting taken late)
    (hcalls : world.callsOf point.started = point.callsOf point.started ++ late)
    (hends : world.endsOf point.started = []) : Waning point loop (world.checkWith current) := by
  have hlater := hcontinues.trans (.of_same rfl rfl)
  rw [List.append_nil] at hlater
  rw [checkWith_of_cancelled hcancelled]
  refine .concluded (.returned .canceled) .waiting taken late
    ⟨Nat.le_of_eq hstarted.symm, fun _ next hnext => ?_⟩ hspent hcalls ?_ (.inr (.inl rfl))
    fun _ next hnext _ => ?_
  · obtain rfl := Option.some.inj hnext
    rfl
  · rw [endsOf, ← hstarted, entriesOf_enter_self, hstarted]
    exact congrArg (· ++ _) hends
  · obtain rfl := Option.some.inj hnext
    exact ⟨hsocket, hlater⟩

/-- A cancelled loop finishes the poll that it has begun. -/
theorem waning_pollWith (h : world.Sound) (hreceive : world.subscriber.receive = some current)
    (hended : current.ended = none) (hstarted : world.started = point.started)
    (hcancelled : world.isCancelled current = true)
    (hsocket : current.stream.socket = loop.stream.socket)
    (hcontinues : Continues point loop.stream [] world current.stream)
    (hpolling : point.phase = .polling)
    (hcalls : world.callsOf point.started = point.callsOf point.started ++ [])
    (hends : world.endsOf point.started = []) : Waning point loop (world.pollWith current) := by
  have hpolls := ReceiveLoop.polls_poll (h.live_of_going hreceive hended)
  unfold pollWith
  generalize current.poll world.net = polled at hpolls
  have hentered : ∀ {ending : Option LoopEnd},
      entriesOf (enter world.ends world.started ending) point.started = ending.toList := by
    intro ending
    rw [← hstarted, entriesOf_enter_self, hstarted]
    exact congrArg (· ++ _) hends
  have hnone : entriesOf (enter world.ends world.started current.ended) point.started = [] := by
    rw [hentered, hended]
    rfl
  cases hpolls with
  | idle =>
      exact .going current [] [] hreceive hended hstarted hcancelled hsocket
        (hcontinues.trans (.of_same rfl rfl)) (.idle hpolling) hcalls hends
  | @moved stream after live socket held same closer =>
      have hstill : Spent point.phase .polling [] ([] : List (Call η)) := hpolling ▸ .still
      exact .going { current with stream } [] [] rfl hended hstarted hcancelled (socket.trans hsocket)
        (hcontinues.trans (.of_same rfl same)) hstill hcalls hnone
  | @took stream body live socket split =>
      have hrest : Continues world current.stream [body]
          { world with subscriber := { world.subscriber with receive := some { current with stream } } }
          stream := by
        refine ⟨[], (List.append_nil _).symm, ?_⟩
        rw [List.append_nil, split, List.flatMap_singleton]
      exact .going { current with stream } [body] [] rfl hended hstarted hcancelled (socket.trans hsocket)
        (hcontinues.trans hrest) (.took hpolling body) hcalls hnone
  | @finished stream after outcome socket held lost =>
      refine .concluded (.returned outcome) .waiting [] []
        ⟨Nat.le_of_eq hstarted.symm, fun _ other hother => ?_⟩ (.idle hpolling) hcalls hentered
        (.inr (.inr (.inr ⟨hpolling, rfl, ?_⟩))) fun _ other hother hkeeps => ?_
      · obtain rfl := Option.some.inj hother
        rfl
      · rcases lost with rfl | ⟨fault, rfl⟩
        · exact .inl rfl
        · exact .inr ⟨fault, rfl⟩
      · obtain rfl := Option.some.inj hother
        rcases lost with rfl | ⟨fault, rfl⟩ <;> cases hkeeps

/-- A cancelled loop hands on what it holds, and goes no further. -/
theorem waning_handOn {body : ByteArray} (behaviour : Behaviour η)
    (hended : current.ended = none) (hstarted : world.started = point.started)
    (hcancelled : world.isCancelled current = true)
    (hsocket : current.stream.socket = loop.stream.socket)
    (hcontinues : Continues point loop.stream taken world current.stream)
    (hsource : point.phase = .holding body ∧ taken = [] ∨ point.phase = .polling ∧ taken = [body])
    (hcalls : world.callsOf point.started = point.callsOf point.started ++ [])
    (hends : world.endsOf point.started = []) :
    Waning point loop (world.handOn behaviour current body) := by
  have hhanded := ReceiveLoop.handed_hand hended world.subscriber.subscription behaviour body world.net
  unfold handOn
  generalize current.hand world.subscriber.subscription behaviour body world.net = next at hhanded
  have hentered : ∀ {call : Option (Call η)},
      entriesOf (enter world.calls world.started call) point.started =
        point.callsOf point.started ++ call.toList := by
    intro call
    rw [List.append_nil] at hcalls
    rw [← hstarted, entriesOf_enter_self, hstarted]
    exact congrArg (· ++ _) hcalls
  have hover : ∀ {ending : Option LoopEnd},
      entriesOf (enter world.ends world.started ending) point.started = ending.toList := by
    intro ending
    rw [← hstarted, entriesOf_enter_self, hstarted]
    exact congrArg (· ++ _) hends
  have hrest : ∀ {after : Supervision η}, after.arrived = world.arrived → after.net = world.net →
      Continues point loop.stream taken after current.stream := by
    intro after harrived hnet
    have hlater := hcontinues.trans (.of_same harrived (by rw [hnet]))
    rwa [List.append_nil] at hlater
  cases hhanded with
  | @calm subscription call decoded =>
      refine .going current taken call.toList rfl hended hstarted hcancelled hsocket (hrest rfl rfl)
        (.handed hsource decoded) hentered ?_
      rw [endsOf, hover, hended]
      rfl
  | @crashed subscription call reason decoded =>
      have hmade : ∀ made ∈ some call, Message.decode body = .ok made.message := by
        rintro made hmade
        cases hmade
        exact decoded
      refine .concluded (.crashed reason) .waiting taken [call]
        ⟨Nat.le_of_eq hstarted.symm, fun _ other hother => ?_⟩ (.handed hsource hmade) hentered hover
        (.inr (.inr (.inl ⟨List.cons_ne_nil _ _, reason, rfl⟩))) fun _ other hother hkeeps => ?_
      · obtain rfl := Option.some.inj hother
        rfl
      · obtain rfl := Option.some.inj hother
        cases hkeeps

end Going

/-- A loop that has ended keeps what is unread as long as it is not collected and keeps its reader. -/
theorem reader_step (h : world.Sound) {taken : List ByteArray} (hsettled : world.Settled point.started)
    (hreader : world.started = point.started → ∀ current, world.subscriber.receive = some current →
      current.KeepsReader → current.stream.socket = loop.stream.socket ∧
        Continues point loop.stream taken world current.stream)
    (event : Event η) (hstarted : (world.step event).started = point.started) {next : ReceiveLoop η}
    (hnext : (world.step event).subscriber.receive = some next) (hkeeps : next.KeepsReader) :
    next.stream.socket = loop.stream.socket ∧
      Continues point loop.stream taken (world.step event) next.stream := by
  cases hloop : world.subscriber.receive with
  | none =>
      -- a loop that is recorded now was started since
      have hidling := idling_step h hloop event
      generalize world.step event = after at hidling hstarted hnext
      cases hidling with
      | stays receive => cases receive.symm.trans hnext
      | starts _ _ _ later =>
          have hle := hsettled.1
          omega
  | some current =>
      have honward := onward_step h hloop event
      have hover : world.started = point.started → current.ended ≠ none := fun hsame hgoing => by
        have hended := hsettled.2 hsame current hloop
        rw [hgoing] at hended
        cases hended
      generalize world.step event = after at honward hstarted hnext ⊢
      cases honward with
      | undisturbed hsame =>
          obtain ⟨same, hsame', hstream, hended, -⟩ := hsame.receive
          obtain rfl := Option.some.inj (hsame'.symm.trans hnext)
          rw [ReceiveLoop.KeepsReader, hended] at hkeeps
          obtain ⟨hsocket, hcontinues⟩ := hreader (hsame.started.symm.trans hstarted) current hloop hkeeps
          have hlater := hcontinues.trans (hsame.unread hkeeps)
          rw [List.append_nil, ← hstream] at hlater
          exact ⟨(congrArg Stream.socket hstream).trans hsocket, hlater⟩
      | collected _ receive => cases receive.symm.trans hnext
      | checked hgoing => exact absurd hgoing (hover hstarted)
      | polled hgoing =>
          exact absurd hgoing (hover ((started_pollWith world current).symm.trans hstarted))
      | handed _ _ hgoing => exact absurd hgoing (hover hstarted)

/-- Every event keeps what is said of the rest of a loop. -/
theorem waning_step (h : world.Sound) (hwaning : Waning point loop world) (event : Event η) :
    Waning point loop (world.step event) := by
  cases hwaning with
  | going current taken late receive ended started cancelled socket continues spent calls ends =>
      have honward := onward_step h receive event
      generalize world.step event = after at honward
      cases honward with
      | undisturbed hsame =>
          obtain ⟨next, hnext, hstream, hended, hcancel⟩ := hsame.receive
          have hkept := continues.trans (hsame.unread (ReceiveLoop.keepsReader_of_going ended))
          rw [List.append_nil, ← hstream] at hkept
          exact .going next taken late hnext (hended.trans ended) (hsame.started.trans started)
            (hsame.isCancelled cancelled hcancel) ((congrArg Stream.socket hstream).trans socket) hkept
            (by rw [hsame.phase]; exact spent) (by rw [callsOf, hsame.calls]; exact calls)
            (by rw [endsOf, hsame.ends]; exact ends)
      | collected gone =>
          rw [ended] at gone
          cases gone
      | checked _ phase =>
          rw [phase] at spent
          exact waning_checkWith started cancelled socket continues spent calls ends
      | polled _ phase =>
          rw [phase] at spent
          obtain ⟨hpolling, rfl, rfl⟩ := spent.of_polling
          exact waning_pollWith h receive ended started cancelled socket continues hpolling calls ends
      | handed behaviour body _ phase =>
          rw [phase] at spent
          obtain ⟨rfl, hsource⟩ := spent.of_holding
          exact waning_handOn behaviour ended started cancelled socket continues hsource calls ends
  | concluded ending phase taken late settled spent calls ends cause reader =>
      obtain ⟨hsettled, hcalls, hends⟩ := settled_step h settled event
      exact .concluded ending phase taken late hsettled spent (hcalls.trans calls) (hends.trans ends) cause
        fun hstarted _ hnext => reader_step h settled reader event hstarted hnext

theorem waning_run (h : world.Sound) (hwaning : Waning point loop world) (events : List (Event η)) :
    Waning point loop (world.run events) := by
  induction events generalizing world with
  | nil => exact hwaning
  | cons event events ih => exact ih (sound_step h event) (waning_step h hwaning event)

/-! ## It ends -/

/-- A poll that goes on was going on before, and its stream has fewer steps left. -/
theorem toil_of_poll (h : world.Sound) (hphase : (world.step .poll).phase = .polling) :
    world.phase = .polling ∧ ∃ loop next, world.subscriber.receive = some loop ∧
      (world.step .poll).subscriber.receive = some next ∧
      next.stream.toil (world.step .poll).net < loop.stream.toil world.net := by
  rw [step] at hphase ⊢
  split at hphase
  · rename_i loop hpolling hloop
    have hended := going_of_phase h hloop hpolling ReceiveLoop.Phase.noConfusion
    have hpolls := ReceiveLoop.polls_poll (h.live_of_going hloop hended)
    refine ⟨hpolling, loop, ?_⟩
    unfold pollWith at hphase ⊢
    generalize loop.poll world.net = polled at hpolls hphase ⊢
    cases hpolls with
    | idle => cases hphase
    | moved live socket held same closer => exact ⟨_, hloop, rfl, closer⟩
    | took => cases hphase
    | finished => cases hphase
  · rename_i hnot
    obtain ⟨loop, hloop, -⟩ := h.busy (hphase ▸ ReceiveLoop.Phase.noConfusion)
    exact absurd hloop (hnot loop hphase)

/-- A poll is over after a few steps. -/
theorem phase_polls (count : Nat) (h : world.Sound)
    (htoil : world.phase = .polling → ∀ loop, world.subscriber.receive = some loop →
      loop.stream.toil world.net ≤ count) :
    (world.run (List.replicate (count + 1) .poll)).phase ≠ .polling := by
  -- induction on the steps that the stream has left
  induction count generalizing world with
  | zero =>
      intro hphase
      obtain ⟨hpolling, loop, next, hloop, -, hcloser⟩ := toil_of_poll h hphase
      have hnone := htoil hpolling loop hloop
      omega
  | succ count ih =>
      refine ih (sound_step h .poll) fun hphase current hcurrent => ?_
      obtain ⟨hpolling, loop, next, hloop, hnext, hcloser⟩ := toil_of_poll h hphase
      obtain rfl := Option.some.inj (hnext.symm.trans hcurrent)
      have hbefore := htoil hpolling loop hloop
      omega

/-- After a loop has handed on what it holds, it waits, unless it polls. -/
theorem phase_hand (h : world.Sound) (hphase : world.phase ≠ .polling) (behaviour : Behaviour η) :
    (world.step (.hand behaviour)).phase = .waiting := by
  rw [step]
  split
  · rfl
  · rename_i hnot
    by_contra hbusy
    obtain ⟨loop, hloop, -⟩ := h.busy hbusy
    cases hstands : world.phase with
    | waiting => exact hbusy hstands
    | polling => exact hphase hstands
    | holding body => exact hnot body loop hstands hloop

/-- A cancelled loop that waits ends by its next check. -/
theorem endsOf_check (h : world.Sound) (hloop : world.subscriber.receive = some loop)
    (hended : loop.ended = none) (hcancelled : world.isCancelled loop = true)
    (hphase : world.phase = .waiting) :
    (world.step .check).endsOf world.started = [.returned .canceled] := by
  have hnone := h.latest loop hloop
  rw [hended] at hnone
  simp only [step, hphase, hloop, hended, Option.isSome_none, Bool.false_eq_true, if_false]
  rw [checkWith_of_cancelled hcancelled, endsOf, entriesOf_enter_self]
  exact congrArg (· ++ _) hnone

/-- A cancelled loop ends after it has finished its poll and has handed on what it holds, or before. -/
theorem ends_of_waning (h : world.Sound) (hwaning : Waning point loop world) (behaviour : Behaviour η) :
    (world.run (List.replicate 5 .poll ++ [.hand behaviour, .check])).endsOf point.started ≠ [] := by
  let polled := world.run (List.replicate 5 .poll)
  have hpolled : polled.Sound := sound_run h _
  have hphase : polled.phase ≠ .polling :=
    phase_polls 4 h fun _ loop _ => Stream.toil_le world.net loop.stream
  have hsound := sound_step hpolled (.hand behaviour)
  have hwaits := phase_hand hpolled hphase behaviour
  have hrun : world.run (List.replicate 5 .poll ++ [.hand behaviour, .check]) =
      (polled.step (.hand behaviour)).step .check := List.foldl_append
  rw [hrun]
  cases waning_step hpolled (waning_run h hwaning _) (.hand behaviour) with
  | going current taken late receive ended started cancelled =>
      rw [← started, endsOf_check hsound receive ended cancelled hwaits]
      exact List.cons_ne_nil _ _
  | concluded ending phase taken late settled spent calls ends =>
      rw [(settled_step hsound settled .check).2.2, ends]
      exact List.cons_ne_nil _ _

/-! ## Loops that are started after the signal -/

/-- A loop that will not call anybody: it has ended as canceled, or it has not begun yet and its token is
cancelled. -/
def Mute (world : Supervision η) (number : Nat) : Prop :=
  world.callsOf number = [] ∧ (world.endsOf number = [.returned .canceled] ∧ world.Settled number ∨
    world.started = number ∧ world.phase = .waiting ∧ ∃ loop, world.subscriber.receive = some loop ∧
      loop.ended = none ∧ world.isCancelled loop = true)

theorem mute_step (h : world.Sound) {number : Nat} (hmute : world.Mute number) (event : Event η) :
    (world.step event).Mute number := by
  obtain ⟨hcalls, ⟨hends, hsettled⟩ | ⟨rfl, hphase, loop, hloop, hended, hcancelled⟩⟩ := hmute
  · obtain ⟨hafter, hcalls', hends'⟩ := settled_step h hsettled event
    exact ⟨hcalls'.trans hcalls, .inl ⟨hends'.trans hends, hafter⟩⟩
  · have hcheck := endsOf_check h hloop hended hcancelled hphase
    have honward := onward_step h hloop event
    generalize hafter : world.step event = after at honward
    cases honward with
    | undisturbed hsame =>
        obtain ⟨current, hcurrent, -, hended', hcancel⟩ := hsame.receive
        exact ⟨by rw [callsOf, hsame.calls]; exact hcalls, .inr ⟨hsame.started, hsame.phase.trans hphase,
          current, hcurrent, hended'.trans hended, hsame.isCancelled hcancelled hcancel⟩⟩
    | collected gone =>
        rw [hended] at gone
        cases gone
    | checked _ _ =>
        simp only [step, hphase, hloop, hended, Option.isSome_none, Bool.false_eq_true, if_false] at hcheck
        refine ⟨hcalls, .inl ⟨hcheck, ?_⟩⟩
        · rw [checkWith_of_cancelled hcancelled]
          refine ⟨Nat.le_refl _, fun _ next hnext => ?_⟩
          obtain rfl := Option.some.inj hnext
          rfl
    | polled _ phase => cases hphase.symm.trans phase
    | handed _ body _ phase => cases hphase.symm.trans phase

/-- After the signal of a subscriber was given, every loop that it starts is mute. -/
structure Doomed (point world : Supervision η) : Prop where
  given : world.isGiven world.subscriber.signal = true
  later : ∀ number, point.started < number → number ≤ world.started → world.Mute number

/-- No event but tying it to another one changes the signal of a subscriber, and a signal stays given. -/
theorem isGiven_step (event : Event η) (htie : ∀ name, event ≠ .tie name)
    (hgiven : world.isGiven world.subscriber.signal = true) :
    (world.step event).isGiven (world.step event).subscriber.signal = true := by
  cases event with
  | traffic traffic =>
      rw [step]
      unfold convey
      split
      · exact hgiven
      · split <;> exact hgiven
  | call operation =>
      rw [step]
      split
      · have hsignal : (world.obey operation).subscriber.signal = world.subscriber.signal :=
          Subscriber.signal_perform ..
        rw [hsignal]
        exact hgiven
      · exact hgiven
  | cancel => exact hgiven
  | signal name =>
      cases hsignal : world.subscriber.signal with
      | none =>
          rw [hsignal] at hgiven
          cases hgiven
      | some own =>
          rw [hsignal] at hgiven
          have hown : world.given.contains own = true := hgiven
          simp only [step, hsignal, isGiven, List.contains_cons, hown, Bool.or_true]
  | tie name => exact absurd rfl (htie name)
  | drop => exact hgiven
  | check =>
      rw [step]
      split
      · split <;> exact hgiven
      · exact hgiven
  | poll =>
      rw [step]
      split
      · unfold pollWith
        split <;> exact hgiven
      · exact hgiven
  | hand behaviour =>
      rw [step]
      split <;> exact hgiven
  | collect =>
      rw [step]
      split
      · rename_i subscriber net hcollect
        unfold Subscriber.collectDropped at hcollect
        split at hcollect
        · split at hcollect
          · cases hcollect
            exact hgiven
          · cases hcollect
        · cases hcollect
      · exact hgiven

/-- A loop that has just started, with its signal given already, is mute. -/
theorem mute_of_started (h : world.Sound) (hgiven : world.isGiven world.subscriber.signal = true)
    {event : Event η} {number : Nat} (hnew : world.started < number)
    (hle : number ≤ (world.step event).started) : (world.step event).Mute number := by
  cases hloop : world.subscriber.receive with
  | none =>
      have hwaiting := h.waiting fun loop hsome => by cases hloop.symm.trans hsome
      have hidling := idling_step h hloop event
      generalize world.step event = after at hidling hle
      cases hidling with
      | stays receive started => omega
      | starts stream target receive started tied given phase calls ends =>
          have hnumber : after.started = number := by omega
          refine ⟨?_, .inr ⟨hnumber, phase.trans hwaiting, _, receive, rfl, ?_⟩⟩
          · rw [callsOf, calls]
            exact entriesOf_eq_nil h.calls hnew
          · cases hsignal : world.subscriber.signal with
            | none =>
                rw [hsignal] at hgiven
                cases hgiven
            | some name =>
                rw [hsignal] at hgiven tied
                simp only [isCancelled, isGiven, tied, given, Bool.false_or]
                exact hgiven
  | some loop =>
      -- a loop that is recorded is the latest one
      have honward := onward_step h hloop event
      generalize world.step event = after at honward hle
      cases honward with
      | undisturbed hsame =>
          have hstarted := hsame.started
          omega
      | collected _ _ started => omega
      | checked => exact absurd hle (Nat.not_le_of_lt hnew)
      | polled =>
          have hstarted := started_pollWith world loop
          omega
      | handed behaviour body => exact absurd hle (Nat.not_le_of_lt hnew)

theorem doomed_step (h : world.Sound) (hdoomed : Doomed point world) (event : Event η)
    (htie : ∀ name, event ≠ .tie name) : Doomed point (world.step event) := by
  refine ⟨isGiven_step event htie hdoomed.given, fun number hlater hle => ?_⟩
  by_cases hold : number ≤ world.started
  · exact mute_step h (hdoomed.later number hlater hold) event
  · exact mute_of_started h hdoomed.given (Nat.lt_of_not_le hold) hle

theorem doomed_run (h : world.Sound) (hdoomed : Doomed point world) (events : List (Event η))
    (htie : ∀ name, .tie name ∉ events) : Doomed point (world.run events) := by
  induction events generalizing world with
  | nil => exact hdoomed
  | cons event events ih =>
      have hevent : ∀ name, event ≠ .tie name := by
        rintro name rfl
        exact htie name List.mem_cons_self
      exact ih (sound_step h event) (doomed_step h hdoomed event hevent)
        fun name hname => htie name (List.mem_cons_of_mem _ hname)

/-- A mute loop has ended as canceled after its next check, with no call. -/
theorem endsOf_of_mute (h : world.Sound) {number : Nat} (hmute : world.Mute number) :
    (world.step .check).endsOf number = [.returned .canceled] := by
  obtain ⟨-, ⟨hends, hsettled⟩ | ⟨rfl, hphase, loop, hloop, hended, hcancelled⟩⟩ := hmute
  · rw [(settled_step h hsettled .check).2.2, hends]
  · exact endsOf_check h hloop hended hcancelled hphase

/-- The events that cancel the token of the latest loop: a stop begins, the subscriber is given up, or the
signal is given to which it was tied when the loop was started. -/
def Cancels (world : Supervision η) (event : Event η) : Prop :=
  event = .cancel ∨ event = .drop ∨ ∃ name, world.tied = some name ∧ event = .signal name

theorem isCancelled_of_cancels {event : Event η} (h : world.Cancels event)
    (hloop : (world.step event).subscriber.receive = some loop) :
    (world.step event).isCancelled loop = true := by
  rcases h with rfl | rfl | ⟨name, htied, rfl⟩
  · obtain ⟨old, -, rfl⟩ := Option.map_eq_some_iff.1 hloop
    rfl
  · obtain ⟨old, -, rfl⟩ := Option.map_eq_some_iff.1 hloop
    rfl
  · simp only [step, isCancelled, isGiven, htied, List.contains_cons, beq_self_eq_true, Bool.true_or,
      Bool.or_true]

/-- **What follows a cancellation.**  Let a subscriber be used in any way, with bytes arriving, streams ending and
signals given at any time, and consider any moment of it and any later one.  The token of the latest loop is
cancelled as soon as a stop begins, the subscriber is given up, or its signal is given.  If it is cancelled at the
first moment, then until the second one:

* the loop has taken no body from its stream, or a single one, by the poll that it had begun by the first moment;
* it has called no handler but with the message of the body that it held by the first moment, or of the one that
  it took since, and that once at most;
* unless it had ended by the first moment, it ended as canceled if it ended; or by the crash of that one call; or
  because the poll that it had begun found the end of the stream or a fault;
* it ends once it has finished its poll, has handed on what it holds, and checks its token;
* as long as it can give its reader back, nothing that was unread is lost but the body that it took: what has
  arrived since comes behind the rest, and stopping hands the stream back.

If the signal of the subscriber was given by the first moment, and the subscriber was not tied to another one
since, then every loop that was started in between has called nobody, and ends as canceled by its next check. -/
theorem what_follows_cancellation (url : Url) (signal : Option String) (net : Network)
    (before after : List (Event η)) :
    let point := (start url signal net).run before
    let later := point.run after
    (∀ event loop, point.Cancels event → (point.step event).subscriber.receive = some loop →
      (point.step event).isCancelled loop = true) ∧
    (∀ loop, point.subscriber.receive = some loop → point.isCancelled loop = true →
      (∃ taken late,
        (taken = [] ∨ point.phase = .polling ∧ ∃ body, taken = [body]) ∧
        (late = [] ∨ ∃ body call, (point.phase = .holding body ∨ taken = [body]) ∧
          Message.decode body = .ok call.message ∧ late = [call]) ∧
        later.callsOf point.started = point.callsOf point.started ++ late ∧
        (∀ ending ∈ later.endsOf point.started, loop.ended = some ending ∨
          ending = .returned .canceled ∨ (late ≠ [] ∧ ∃ reason, ending = .crashed reason) ∨
          point.phase = .polling ∧ taken = [] ∧ (ending = .returned .closed ∨
            ∃ fault, ending = .returned (.failed (.transport "recv" fault)))) ∧
        (later.started = point.started → ∀ current, later.subscriber.receive = some current →
          current.KeepsReader →
            current.stream.socket = loop.stream.socket ∧
            (∃ piece, later.arrived = point.arrived ++ piece ∧
              loop.stream.unread point.net ++ piece =
                taken.flatMap Frame.bytes ++ current.stream.unread later.net) ∧
            later.subscriber.stop later.net = (.ok .canceled,
              { later.subscriber with receive := none, reader := some current.stream }, later.net))) ∧
      (∀ behaviour, (later.run (List.replicate 5 .poll ++ [.hand behaviour, .check])).endsOf
        point.started ≠ [])) ∧
    (point.isGiven point.subscriber.signal = true → (∀ name, .tie name ∉ after) →
      ∀ number, point.started < number → number ≤ later.started →
        later.callsOf number = [] ∧ (later.step .check).endsOf number = [.returned .canceled]) := by
  intro point later
  have hpoint : point.Sound := sound_run (sound_start url signal net) before
  have hlater : later.Sound := sound_run hpoint after
  refine ⟨fun event loop => isCancelled_of_cancels, fun loop hloop hcancelled => ?_,
    fun hgiven htie number hnew hle => ?_⟩
  · have hwaning := waning_run hpoint (waning_refl hpoint hloop hcancelled) after
    refine ⟨?_, ends_of_waning hlater hwaning⟩
    have hstop : ∀ current, later.subscriber.receive = some current → current.KeepsReader →
        later.subscriber.stop later.net = (.ok .canceled,
          { later.subscriber with receive := none, reader := some current.stream }, later.net) := by
      intro current hcurrent hkeeps
      have hreturned : current.ended.getD (.returned .canceled) = .returned .canceled := hkeeps
      simp only [Subscriber.stop, hcurrent, hreturned]
    cases hwaning with
    | going same taken late receive ended _ _ socket continues spent calls ends =>
        refine ⟨taken, late, spent.taken_cases, spent.late_cases, calls, fun ending hending => ?_,
          fun _ current hcurrent hkeeps => ?_⟩
        · rw [ends] at hending
          cases hending
        · obtain rfl := Option.some.inj (receive.symm.trans hcurrent)
          exact ⟨socket, continues, hstop same receive hkeeps⟩
    | concluded ending _ taken late _ spent calls ends cause reader =>
        refine ⟨taken, late, spent.taken_cases, spent.late_cases, calls, fun other hother => ?_,
          fun hsame current hcurrent hkeeps => ?_⟩
        · rw [ends] at hother
          obtain rfl := List.mem_singleton.1 hother
          exact cause
        · obtain ⟨hsocket, hcontinues⟩ := reader hsame current hcurrent hkeeps
          exact ⟨hsocket, hcontinues, hstop current hcurrent hkeeps⟩
  · have hdoomed : Doomed point later := by
      refine doomed_run hpoint ⟨hgiven, fun number hnew hle => ?_⟩ after htie
      exact absurd hle (Nat.not_le_of_lt hnew)
    have hmute := hdoomed.later number hnew hle
    exact ⟨hmute.1, endsOf_of_mute hlater hmute⟩

/-- A stop that begins after the loop has checked its token: two frames have arrived by then, and the other end is
gone. -/
def overtaken : Supervision Nat :=
  (start (.tcp "localhost:5001") none Reception.backNetwork).run
    [.call .openUp, .call .dial, .call (.subscribePrefix "a"), .call (.arm (.direct 7)),
      .traffic (.bytes ⟨#[0, 0, 0, 3, 97, 0, 1, 0, 0, 0, 3, 97, 0, 2]⟩), .traffic (.ends false),
      .check, .cancel]

/-- After a cancellation a loop that polls still takes a frame and hands it on, and its handler may crash; one
whose stream is over ends as closed; and arming is refused, signal or no signal, as long as a loop that has ended
is not collected. -/
theorem not_every_cancellation_final :
    let calm : Behaviour Nat := fun _ _ => .finish .succeeded
    let crashing : Behaviour Nat := fun _ _ => .finish (.crashed "handler bug")
    let later := overtaken.run [.poll, .poll, .hand calm, .check]
    let ended := (overtaken.run [.poll, .poll, .hand crashing]).endsOf 1
    let idle := (start (.tcp "localhost:5001") none Reception.backNetwork).run
      [.call .openUp, .call .dial, .call (.arm (.direct 7)), .traffic (.ends false), .check, .cancel,
        .poll, .poll]
    let signalled := (start (.tcp "localhost:5001") (some "off") Reception.backNetwork).run
      [.call .openUp, .call .dial, .signal "off", .call (.arm (.direct 7)), .check]
    overtaken.subscriber.receive.map overtaken.isCancelled = some true ∧ overtaken.phase = .polling ∧
      overtaken.callsOf 1 = [] ∧ overtaken.endsOf 1 = [] ∧
      overtaken.subscriber.receive.map (fun loop => loop.stream.unread overtaken.net) =
        some [0, 0, 0, 3, 97, 0, 1, 0, 0, 0, 3, 97, 0, 2] ∧
      (later.callsOf 1).map (fun call => call.message.payload) = [⟨#[1]⟩] ∧
      later.endsOf 1 = [.returned .canceled] ∧
      later.subscriber.receive.map (fun loop => loop.stream.unread later.net) =
        some [0, 0, 0, 3, 97, 0, 2] ∧
      ended = [.crashed "handler bug"] ∧ idle.endsOf 1 = [.returned .closed] ∧
      (signalled.subscriber.arm (.direct 7) true).1 = .error (.invalidState "arm" "connected/idle") := by
  decide +kernel

end Supervision

end DeviceBus
