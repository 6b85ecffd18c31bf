/-!
# Runs

A system goes through events, one after the other.  Where every event leaves something behind at the end of a
list, a run leaves there what its events leave, in their order.

An object that is used by calls also answers them, so a list of calls has a list of answers and a last state.
Two objects behave alike if their states can be related such that every call has the same answer on both sides
and leaves related states.

* `foldl_leaves`: from what one event leaves behind to what a run does.
* `runCalls`: all calls of a list, one after the other.
* `runCalls_concat`: one more call at the end.
* `runCalls_related`: objects that behave alike call by call do so in every run.
-/

namespace DeviceBus

variable {σ τ ω α : Type}

/-! ## Events -/

/-- What the first element gives stands in front of what the others give. -/
theorem filterMap_cons_eq_append (leaves : ω → Option α) (event : ω) (events : List ω) :
    (event :: events).filterMap leaves = (leaves event).toList ++ events.filterMap leaves := by
  rw [List.filterMap_cons]
  cases leaves event <;> rfl

/-- Where every event leaves something behind at the end of a list, or nothing, a run leaves there what its
events leave. -/
theorem foldl_leaves {step : σ → ω → σ} (list : σ → List α) {leaves : ω → Option α}
    (hstep : ∀ state event, list (step state event) = list state ++ (leaves event).toList) (state : σ)
    (events : List ω) :
    list (events.foldl step state) = list state ++ events.filterMap leaves := by
  induction events generalizing state with
  | nil => exact (List.append_nil _).symm
  | cons event events ih =>
      rw [filterMap_cons_eq_append, ← List.append_assoc, ← hstep]
      exact ih (step state event)

/-! ## Calls -/

/-- All calls of a list, one after the other: their answers, and the state that they leave. -/
def runCalls (perform : σ → ω → α × σ) (state : σ) : List ω → List α × σ
  | [] => ([], state)
  | call :: calls =>
      let (answer, next) := perform state call
      let (answers, last) := runCalls perform next calls
      (answer :: answers, last)

theorem runCalls_append (perform : σ → ω → α × σ) (state : σ) (first second : List ω) :
    runCalls perform state (first ++ second) =
      ((runCalls perform state first).1 ++
          (runCalls perform (runCalls perform state first).2 second).1,
        (runCalls perform (runCalls perform state first).2 second).2) := by
  induction first generalizing state with
  | nil => rfl
  | cons call calls ih => simp [runCalls, ih]

/-- One more call at the end has its answer from the state that the others have left. -/
theorem runCalls_concat (perform : σ → ω → α × σ) (state : σ) (calls : List ω) (call : ω) :
    runCalls perform state (calls ++ [call]) =
      ((runCalls perform state calls).1 ++ [(perform (runCalls perform state calls).2 call).1],
        (perform (runCalls perform state calls).2 call).2) :=
  runCalls_append perform state calls [call]

/-- Objects whose states are related, and stay so under equal calls with equal answers, answer every list of
calls alike. -/
theorem runCalls_related {perform : σ → ω → α × σ} {perform' : τ → ω → α × τ} {related : σ → τ → Prop}
    (hcall : ∀ state state', related state state' → ∀ call,
      (perform state call).1 = (perform' state' call).1 ∧
        related (perform state call).2 (perform' state' call).2)
    {state : σ} {state' : τ} (h : related state state') (calls : List ω) :
    (runCalls perform state calls).1 = (runCalls perform' state' calls).1 ∧
      related (runCalls perform state calls).2 (runCalls perform' state' calls).2 := by
  induction calls generalizing state state' with
  | nil => exact ⟨rfl, h⟩
  | cons call calls ih =>
      obtain ⟨hanswer, hnext⟩ := hcall state state' h call
      obtain ⟨hanswers, hlast⟩ := ih hnext
      exact ⟨by simp only [runCalls, hanswer, hanswers], hlast⟩

end DeviceBus
