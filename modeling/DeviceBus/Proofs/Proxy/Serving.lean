import DeviceBus.Proofs.Proxy.Attachment
import Mathlib.Data.Nat.Pairing
import Mathlib.Order.Filter.AtTopBot.Basic
import Mathlib.Order.Filter.Finite

/-!
# Running a proxy

To run a proxy is to accept connections and to start a pump for each of them, until the token of the run is
cancelled; then the run waits for all pumps that it has started, and returns.  While it accepts, it may
collect pumps that have ended, and it may well accept some more connections before it sees that it is
cancelled.

Between its steps anything can happen: pumps go on, and others connect, write, leave, or stop reading.  None
of this matters to the counters of attached connections, so that all of it is one event here, which replaces
the network.

* `Service`: a proxy with the run that goes on, if one does; one run begins when the last one has returned.
* `Service.Sound`, `Service.sound_run`: the counters agree with the pumps, and every running pump is one that
  the run waits for.
* `Service.Fair`: the run and its pumps get their turns again and again.
* `Service.Winds`: what a run that is cancelled still does.
* `Service.exists_return`: it returns.
* `Service.attachment_counts`: what the counters are at every moment, and after a run.
-/

namespace DeviceBus

open Filter (atTop)

/-- How far the run of a proxy is. -/
inductive Phase where
  /-- nobody runs the proxy -/
  | idle
  /-- it accepts connections -/
  | accepting
  /-- it waits for the pumps that are left -/
  | draining
  deriving DecidableEq

/-- A proxy and the network around it, with the phase of its run and the pumps that the run has started and
not collected yet. -/
structure Service where
  proxy : Proxy
  net : Network
  phase : Phase := .idle
  tasks : List Task := []

namespace Service

/-- Something that happens at a proxy that is run, or around it. -/
inductive Event where
  /-- somebody runs the proxy, with a token of its own -/
  | enter
  /-- the token is cancelled -/
  | cancel
  /-- the run accepts a connection -/
  | accept (side : Side)
  /-- a pump goes a step on -/
  | pump (task : Task)
  /-- the run collects a pump that has ended -/
  | collect (task : Task)
  /-- the run sees that it is cancelled -/
  | leave
  /-- the run returns, since no pump is left -/
  | finish
  /-- others use the network -/
  | others (net : Network)

/-- One event; nothing happens where it is not possible. -/
def step (service : Service) : Event → Service
  | .enter =>
      if service.phase = .idle then
        { service with
          proxy := { service.proxy with isCancelled := false }, phase := .accepting, tasks := [] }
      else service
  | .cancel => { service with proxy := { service.proxy with isCancelled := true } }
  | .accept side =>
      if service.phase = .accepting then
        match service.proxy.letIn service.net side with
        | none => service
        | some (proxy, net) =>
            { service with proxy, net, tasks := ⟨side, (service.proxy.pumps side).length⟩ :: service.tasks }
      else service
  | .pump task =>
      match service.proxy.pump service.net task with
      | none => service
      | some (proxy, net) => { service with proxy, net }
  | .collect task =>
      if service.proxy.Runs task then service
      else { service with tasks := service.tasks.filter (· ≠ task) }
  | .leave =>
      if service.phase = .accepting ∧ service.proxy.isCancelled then { service with phase := .draining }
      else service
  | .finish =>
      if service.phase = .draining ∧ service.tasks = [] then { service with phase := .idle } else service
  | .others net => { service with net }

/-- All events of a list, one after the other. -/
def run (service : Service) (events : List Event) : Service := events.foldl step service

/-- A proxy that was just bound and that nobody runs. -/
def start (proxy : Proxy) (net : Network) : Service := { proxy, net }

/-- What is asked of a proxy at every moment: its counters are the numbers of connections that were accepted
and whose pumps have not ended; whenever a pump takes a step, it goes on and the counters stay, or it ends
and the counter of its side is lowered by one, which it has room for; and while nobody runs the proxy, both
counters are zero and no pump is left. -/
structure Counts (service : Service) : Prop where
  publishers : service.proxy.publisherCount = service.proxy.publishers.countP FrontPump.isRunning
  subscribers : service.proxy.subscriberCount = service.proxy.subscribers.countP BackPump.isRunning
  lowers : ∀ task proxy net, service.proxy.pump service.net task = some (proxy, net) →
    proxy.Runs task ∧ proxy.count task.side = service.proxy.count task.side ∨
      ¬proxy.Runs task ∧ proxy.count task.side + 1 = service.proxy.count task.side
  returned : service.phase = .idle → service.proxy.publisherCount = 0 ∧
    service.proxy.subscriberCount = 0 ∧ service.tasks = [] ∧ ∀ task, ¬service.proxy.Runs task

variable {service : Service}

/-! ## What every event keeps -/

/-- The counters agree with the pumps; every running pump is one that the run waits for; and after a run
there is none. -/
structure Sound (service : Service) : Prop where
  tallied : service.proxy.Tallied
  awaited : ∀ task, service.proxy.Runs task → task ∈ service.tasks
  idle : service.phase = .idle → service.tasks = []

theorem sound_start {net net' : Network} {front back : Url} {proxy : Proxy}
    (hbind : Proxy.bind net front back = (.ok proxy, net')) : Sound (start proxy net') := by
  obtain ⟨_, _, _, -, -, rfl⟩ := Proxy.bind_eq_ok_iff.1 hbind
  exact {
    tallied := by
      intro side
      cases side with
      | front => rfl
      | back => rfl
    awaited := by
      rintro ⟨side, index⟩ hruns
      cases side with
      | front => cases hruns
      | back => cases hruns
    idle := fun _ => rfl }

namespace Sound

/-- While nobody runs the proxy, no pump runs. -/
theorem not_runs (h : service.Sound) (hidle : service.phase = .idle) (task : Task) :
    ¬service.proxy.Runs task := by
  intro hruns
  have hmem := h.awaited task hruns
  rw [h.idle hidle] at hmem
  exact List.not_mem_nil hmem

theorem accept (h : service.Sound) (side : Side) : (service.step (.accept side)).Sound := by
  rw [step]
  split
  · rename_i haccepting
    cases hletIn : service.proxy.letIn service.net side with
    | none => exact h
    | some found =>
        obtain ⟨proxy, net⟩ := found
        exact {
          tallied := h.tallied.of_letIn hletIn
          awaited := by
            intro task hruns
            rcases Proxy.runs_of_letIn hletIn hruns with hold | rfl
            · exact List.mem_cons_of_mem _ (h.awaited task hold)
            · exact List.mem_cons_self
          idle := fun hidle => by
            rw [show service.phase = .idle from hidle] at haccepting
            cases haccepting }
  · exact h

theorem pump (h : service.Sound) (task : Task) : (service.step (.pump task)).Sound := by
  rw [step]
  split
  · exact h
  · rename_i proxy net hpump
    obtain ⟨hruns, hpumped⟩ := Proxy.pumped_pump hpump
    exact {
      tallied := h.tallied.of_pumped hruns hpumped
      awaited := fun other hother => h.awaited other (hpumped.runs_before hother)
      idle := h.idle }

theorem collect (h : service.Sound) (task : Task) : (service.step (.collect task)).Sound := by
  rw [step]
  split
  · exact h
  · rename_i hended
    exact {
      tallied := h.tallied
      awaited := by
        intro other hruns
        refine List.mem_filter.2 ⟨h.awaited other hruns, decide_eq_true ?_⟩
        rintro rfl
        exact hended hruns
      idle := fun hidle => by rw [h.idle hidle]; rfl }

/-- Every event keeps it: pumps are started where they are put down, and only ended ones are struck off. -/
theorem step (h : service.Sound) (event : Event) : (service.step event).Sound := by
  cases event with
  | enter =>
      rw [Service.step]
      split
      · rename_i hidle
        exact {
          tallied := h.tallied
          awaited := fun task hruns => absurd hruns (h.not_runs hidle task)
          idle := fun _ => rfl }
      · exact h
  | cancel => exact { tallied := h.tallied, awaited := h.awaited, idle := h.idle }
  | accept side => exact h.accept side
  | pump task => exact h.pump task
  | collect task => exact h.collect task
  | leave =>
      rw [Service.step]
      split
      · exact { tallied := h.tallied, awaited := h.awaited, idle := fun hidle => by cases hidle }
      · exact h
  | finish =>
      rw [Service.step]
      split
      · rename_i hdone
        exact { tallied := h.tallied, awaited := h.awaited, idle := fun _ => hdone.2 }
      · exact h
  | others net => exact { tallied := h.tallied, awaited := h.awaited, idle := h.idle }

theorem counts (h : service.Sound) : service.Counts where
  publishers := by
    have hfront := h.tallied .front
    rw [Proxy.pumps, List.count_eq_countP, List.countP_map] at hfront
    simpa [Proxy.count, Function.comp_def] using hfront
  subscribers := by
    have hback := h.tallied .back
    rw [Proxy.pumps, List.count_eq_countP, List.countP_map] at hback
    simpa [Proxy.count, Function.comp_def] using hback
  lowers task proxy net hpump := by
    obtain ⟨hruns, hpumped⟩ := Proxy.pumped_pump hpump
    exact h.tallied.lowers hruns hpumped
  returned hidle := by
    have hzero : ∀ side, service.proxy.count side = 0 := by
      intro side
      rw [h.tallied side, List.count_eq_zero]
      intro hmem
      obtain ⟨index, hruns⟩ := List.mem_iff_getElem?.1 hmem
      exact h.not_runs hidle ⟨side, index⟩ hruns
    exact ⟨hzero .front, hzero .back, h.idle hidle, h.not_runs hidle⟩

end Sound

theorem sound_run (h : service.Sound) (events : List Event) : (service.run events).Sound :=
  List.foldlRecOn (motive := Sound) events Service.step h fun _ hsound event _ => hsound.step event

/-! ## Returning -/

/-- The run and its pumps get their turns again and again. -/
structure Fair (future : Nat → Event) : Prop where
  leave : ∃ᶠ n in atTop, future n = .leave
  finish : ∃ᶠ n in atTop, future n = .finish
  pump : ∀ task, ∃ᶠ n in atTop, future n = .pump task
  collect : ∀ task, ∃ᶠ n in atTop, future n = .collect task

/-- What has become of a service after so many events of an infinite sequence. -/
def along (service : Service) (future : Nat → Event) : Nat → Service
  | 0 => service
  | n + 1 => (service.along future n).step (future n)

/-- What an event leaves of a run that only waits for its pumps: it goes on waiting, or it has returned; it
starts no pump and has no more to wait for than before. -/
structure Winds (before after : Service) : Prop where
  phase : after.phase = .draining ∨ after.phase = .idle
  runs : ∀ task, after.proxy.Runs task → before.proxy.Runs task
  tasks : after.tasks ⊆ before.tasks

theorem winds_step (hdraining : service.phase = .draining) (event : Event) :
    Winds service (service.step event) := by
  have hsame : Winds service service := ⟨.inl hdraining, fun _ => id, List.Subset.refl _⟩
  cases event with
  | enter =>
      rw [step, if_neg (by rw [hdraining]; decide)]
      exact hsame
  | cancel => exact ⟨.inl hdraining, fun _ => id, List.Subset.refl _⟩
  | accept side =>
      rw [step, if_neg (by rw [hdraining]; decide)]
      exact hsame
  | pump task =>
      rw [step]
      split
      · exact hsame
      · rename_i hpump
        exact ⟨.inl hdraining, fun _ => (Proxy.pumped_pump hpump).2.runs_before, List.Subset.refl _⟩
  | collect task =>
      rw [step]
      split
      · exact hsame
      · exact ⟨.inl hdraining, fun _ => id, List.filter_sublist.subset⟩
  | leave =>
      rw [step, if_neg (by rw [hdraining]; rintro ⟨⟨⟩, -⟩)]
      exact hsame
  | finish =>
      rw [step]
      split
      · exact ⟨.inr rfl, fun _ => id, List.Subset.refl _⟩
      · exact hsame
  | others net => exact ⟨.inl hdraining, fun _ => id, List.Subset.refl _⟩

/-- While a run goes on, its token stays cancelled. -/
theorem isCancelled_step (hcancelled : service.proxy.isCancelled = true) (hbusy : service.phase ≠ .idle)
    (event : Event) : (service.step event).proxy.isCancelled = true := by
  cases event with
  | enter => rwa [step, if_neg hbusy]
  | cancel => rfl
  | accept side =>
      rw [step]
      split
      · cases hletIn : service.proxy.letIn service.net side with
        | none => exact hcancelled
        | some found => exact (Proxy.changes_letIn hletIn).isCancelled.trans hcancelled
      · exact hcancelled
  | pump task =>
      rw [step]
      split
      · exact hcancelled
      · rename_i hpump
        exact (Proxy.pumped_pump hpump).2.isCancelled.trans hcancelled
  | collect task =>
      rw [step]
      split
      · exact hcancelled
      · exact hcancelled
  | leave =>
      rw [step]
      split
      · exact hcancelled
      · exact hcancelled
  | finish =>
      rw [step]
      split
      · exact hcancelled
      · exact hcancelled
  | others net => exact hcancelled

/-- A run that sees that it is cancelled waits for its pumps from then on. -/
theorem phase_step_leave (hcancelled : service.proxy.isCancelled = true) (hbusy : service.phase ≠ .idle) :
    (service.step .leave).phase = .draining := by
  rw [step]
  split
  · rfl
  · rename_i hstays
    cases hphase : service.phase with
    | idle => exact absurd hphase hbusy
    | accepting => exact absurd ⟨hphase, hcancelled⟩ hstays
    | draining => rfl

/-- A pump that gets its turn after its run was cancelled has ended then. -/
theorem not_runs_step_pump (hcancelled : service.proxy.isCancelled = true) (task : Task) :
    ¬(service.step (.pump task)).proxy.Runs task := by
  rw [step]
  split
  · rename_i hnone
    intro hruns
    obtain ⟨proxy, net, hsome⟩ := Proxy.exists_pump_of_cancelled hcancelled hruns service.net
    rw [hnone] at hsome
    cases hsome
  · rename_i hpump
    exact (Proxy.pumped_pump hpump).2.not_runs_of_cancelled hcancelled

/-- A pump that has ended is collected when its turn comes. -/
theorem not_mem_step_collect {task : Task} (hended : ¬service.proxy.Runs task) :
    task ∉ (service.step (.collect task)).tasks := by
  rw [step, if_neg hended]
  exact fun hmem => of_decide_eq_true (List.mem_filter.1 hmem).2 rfl

/-- What is brought about at a turn that comes again and again, and then stays, holds from some time on. -/
theorem eventually_of_turn {future : Nat → Event} {event : Event} {property : Nat → Prop}
    (hturn : ∃ᶠ n in atTop, future n = event)
    (hbrought : ∀ᶠ n in atTop, future n = event → property (n + 1))
    (hstays : ∀ᶠ n in atTop, property n → property (n + 1)) : ∀ᶠ n in atTop, property n := by
  obtain ⟨since, hsince⟩ := Filter.eventually_atTop.1 (hbrought.and hstays)
  obtain ⟨turn, hafter, hevent⟩ := Filter.frequently_atTop.1 hturn since
  refine Filter.eventually_atTop.2 ⟨turn + 1, fun n hn => ?_⟩
  induction n, hn using Nat.le_induction with
  | base => exact (hsince turn hafter).1 hevent
  | succ n hn ih => exact (hsince n (by omega)).2 ih

section Return

variable {future : Nat → Event} (hfair : Fair future) (hcancelled : service.proxy.isCancelled = true)
  (hbusy : ∀ n, (service.along future n).phase ≠ .idle)

include hbusy

/-- While a run that waits for its pumps goes on, it goes on waiting. -/
theorem winds_along {n : Nat} (hdraining : (service.along future n).phase = .draining) :
    (service.along future (n + 1)).phase = .draining ∧
      Winds (service.along future n) (service.along future (n + 1)) := by
  have hwinds := winds_step hdraining (future n)
  exact ⟨hwinds.phase.resolve_right (hbusy (n + 1)), hwinds⟩

include hcancelled

theorem isCancelled_along (n : Nat) : (service.along future n).proxy.isCancelled = true := by
  induction n with
  | zero => exact hcancelled
  | succ n ih => exact isCancelled_step ih (hbusy n) (future n)

include hfair

/-- From some time on, the run waits for its pumps. -/
theorem eventually_draining : ∀ᶠ n in atTop, (service.along future n).phase = .draining := by
  refine eventually_of_turn hfair.leave (.of_forall fun n hevent => ?_)
    (.of_forall fun n hdraining => (winds_along hbusy hdraining).1)
  rw [along, hevent]
  exact phase_step_leave (isCancelled_along hcancelled hbusy n) (hbusy n)

/-- From some time on, a pump does not run. -/
theorem eventually_not_runs (task : Task) :
    ∀ᶠ n in atTop, ¬(service.along future n).proxy.Runs task := by
  refine eventually_of_turn (hfair.pump task) (.of_forall fun n hevent => ?_)
    ((eventually_draining hfair hcancelled hbusy).mono fun n hdraining hended hruns =>
      hended ((winds_along hbusy hdraining).2.runs task hruns))
  rw [along, hevent]
  exact not_runs_step_pump (isCancelled_along hcancelled hbusy n) task

/-- From some time on, a pump is collected. -/
theorem eventually_collected (task : Task) :
    ∀ᶠ n in atTop, task ∉ (service.along future n).tasks := by
  refine eventually_of_turn (hfair.collect task)
    ((eventually_not_runs hfair hcancelled hbusy task).mono fun n hended hevent => ?_)
    ((eventually_draining hfair hcancelled hbusy).mono fun n hdraining hcollected hmem =>
      hcollected ((winds_along hbusy hdraining).2.tasks hmem))
  rw [along, hevent]
  exact not_mem_step_collect hended

/-- From some time on, there is nothing left to collect: the run waits for finitely many pumps. -/
theorem eventually_tasks_eq_nil : ∀ᶠ n in atTop, (service.along future n).tasks = [] := by
  obtain ⟨since, hsince⟩ := Filter.eventually_atTop.1 (eventually_draining hfair hcancelled hbusy)
  have hsubset : ∀ n, since ≤ n → (service.along future n).tasks ⊆ (service.along future since).tasks := by
    intro n hn
    induction n, hn using Nat.le_induction with
    | base => exact List.Subset.refl _
    | succ n hn ih =>
        exact List.Subset.trans (winds_along hbusy (hsince n hn)).2.tasks ih
  have hcollected : ∀ᶠ n in atTop, ∀ task ∈ (service.along future since).tasks,
      task ∉ (service.along future n).tasks :=
    (Filter.eventually_all_finite (List.finite_toSet _)).2 fun task _ =>
      eventually_collected hfair hcancelled hbusy task
  filter_upwards [hcollected, Filter.eventually_ge_atTop since] with n hnone hn
  exact List.eq_nil_iff_forall_not_mem.2 fun task hmem => hnone task (hsubset n hn hmem) hmem

end Return

/-- A run that was cancelled returns, whatever else happens, as long as it and its pumps get their turns. -/
theorem exists_return {future : Nat → Event} (hfair : Fair future)
    (hcancelled : service.proxy.isCancelled = true) : ∃ n, (service.along future n).phase = .idle := by
  by_contra hnever
  have hbusy : ∀ n, (service.along future n).phase ≠ .idle := fun n hidle => hnever ⟨n, hidle⟩
  obtain ⟨n, hevent, hdraining, hnil⟩ := (hfair.finish.and_eventually
    ((eventually_draining hfair hcancelled hbusy).and (eventually_tasks_eq_nil hfair hcancelled hbusy))).exists
  apply hbusy (n + 1)
  rw [along, hevent, step, if_pos ⟨hdraining, hnil⟩]

theorem sound_along (h : service.Sound) (future : Nat → Event) (n : Nat) :
    (service.along future n).Sound := by
  induction n with
  | zero => exact h
  | succ n ih => exact ih.step (future n)

/-- After any events at a proxy that was bound, the counters are the numbers of accepted connections whose
pumps have not ended, no end of a pump lowers a counter that is zero, and both are zero while nobody runs the
proxy.  A run whose token is cancelled returns, whatever others do with the network, and then they are
zero. -/
theorem attachment_counts {net net' : Network} {front back : Url} {proxy : Proxy}
    (hbind : Proxy.bind net front back = (.ok proxy, net')) (events : List Event) :
    let service := (start proxy net').run events
    service.Counts ∧
      (service.proxy.isCancelled = true → ∀ future, Fair future →
        ∃ n, (service.along future n).phase = .idle ∧ (service.along future n).Counts) := by
  intro service
  have hsound : service.Sound := sound_run (sound_start hbind) events
  refine ⟨hsound.counts, fun hcancelled future hfair => ?_⟩
  obtain ⟨n, hidle⟩ := exists_return hfair hcancelled
  exact ⟨n, hidle, (sound_along hsound future n).counts⟩

/-- Some turn of a run or of one of its pumps: every one of them has a number. -/
def turn : Nat → Event
  | 0 => .leave
  | 1 => .finish
  | number + 2 =>
      let task : Task := ⟨if number % 4 < 2 then .front else .back, number / 4⟩
      if number % 2 = 0 then .pump task else .collect task

theorem exists_turn (task : Task) :
    (∃ number, turn number = .pump task) ∧ ∃ number, turn number = .collect task := by
  obtain ⟨side, index⟩ := task
  have hnumber : ∀ offset < 4, turn (4 * index + offset + 2) =
      let task : Task := ⟨if offset < 2 then .front else .back, index⟩
      if offset % 2 = 0 then .pump task else .collect task := by
    intro offset hoffset
    rw [turn, show (4 * index + offset) % 4 = offset by omega, show (4 * index + offset) / 4 = index by omega,
      show (4 * index + offset) % 2 = offset % 2 by omega]
  cases side with
  | front => exact ⟨⟨_, hnumber 0 (by decide)⟩, _, hnumber 1 (by decide)⟩
  | back => exact ⟨⟨_, hnumber 2 (by decide)⟩, _, hnumber 3 (by decide)⟩

/-- There are orders of events in which a run and all pumps get their turns again and again. -/
theorem exists_fair : ∃ future, Fair future := by
  have hturn : ∀ number, ∃ᶠ n in atTop, turn (Nat.unpair n).1 = turn number := fun number =>
    Filter.frequently_atTop.2 fun since =>
      ⟨Nat.pair number since, Nat.right_le_pair number since, by rw [Nat.unpair_pair]⟩
  refine ⟨fun n => turn (Nat.unpair n).1, hturn 0, hturn 1, fun task => ?_, fun task => ?_⟩
  · obtain ⟨⟨number, hnumber⟩, -⟩ := exists_turn task
    rw [← hnumber]
    exact hturn number
  · obtain ⟨-, number, hnumber⟩ := exists_turn task
    rw [← hnumber]
    exact hturn number

/-- The network of a proxy that was just bound, with a publisher and a subscriber that wait. -/
def crowded : Network :=
  ((Proxy.bind { files := .fresh } (.tcp "localhost:5000") (.tcp "localhost:5001")).2.join 0).join 1

/-- A publisher and a subscriber are attached when the proxy is cancelled; neither of them does anything, and
still the run returns. -/
theorem attachment_counts_stalled :
    let service := (start { front := 0, back := 1 }
        (Proxy.bind { files := .fresh } (.tcp "localhost:5000") (.tcp "localhost:5001")).2).run
      [.enter, .others crowded, .accept .front, .accept .back, .cancel]
    (service.proxy.publisherCount = 1 ∧ service.proxy.subscriberCount = 1) ∧
      ∃ future, Fair future ∧ ∃ n, let later := service.along future n
        later.phase = .idle ∧ later.proxy.publisherCount = 0 ∧ later.proxy.subscriberCount = 0 := by
  intro service
  obtain ⟨future, hfair⟩ := exists_fair
  obtain ⟨-, hreturns⟩ := attachment_counts (Prod.ext Proxy.fst_bind_fresh rfl)
    [.enter, .others crowded, .accept .front, .accept .back, .cancel]
  obtain ⟨n, hidle, hcounts⟩ := hreturns (by decide +kernel) future hfair
  obtain ⟨hpublishers, hsubscribers, -⟩ := hcounts.returned hidle
  exact ⟨⟨by decide +kernel, by decide +kernel⟩, future, hfair, n, hidle, hpublishers, hsubscribers⟩

end Service

end DeviceBus
