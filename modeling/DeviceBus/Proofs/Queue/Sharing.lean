import DeviceBus.Proofs.Runs
import DeviceBus.Queue.Deque
import Mathlib.Data.List.Basic
import Mathlib.Data.List.Induction

/-!
# Deques that threads share

Any number of threads use a deque.  Each call is one indivisible step, so a run is a list of events, each of
them an operation of some thread; what a thread does next may depend on what it has been answered so far.

* `Shared`, `run`: the deque with the calls that were made, in their order.
* `pushes`, `pops`: what was put in and what was taken out by some calls.
* `perform_conserves`, `perform_in_order`: what one operation does to the elements, and, if things are put in
  at the tail and taken out at the head only, to their order.
* `IsMerge`: a list that is made of the lists of some threads, each in its own order.
* `conserved_and_merged`: nothing is lost or taken twice, a taker goes away empty only if there is nothing,
  and with producers at the tail and consumers at the head each producer's elements come out in its order.
-/

namespace DeviceBus.Deque

variable {α : Type}

/-! ## Calls -/

/-- What a thread can do with a deque. -/
inductive Operation (α : Type) where
  | pushHead (item : α)
  | pushTail (item : α)
  | popHead
  | popTail

namespace Operation

/-- The element that an operation puts in. -/
def pushed? : Operation α → Option α
  | .pushHead item => some item
  | .pushTail item => some item
  | .popHead => none
  | .popTail => none

/-- Whether an operation is to take something out. -/
def isPop : Operation α → Bool
  | .popHead => true
  | .popTail => true
  | _ => false

/-- Whether an operation puts in at the tail or takes out at the head. -/
def isInLine : Operation α → Bool
  | .pushTail _ => true
  | .popHead => true
  | _ => false

end Operation

/-- Carry out an operation: what it takes out, and the deque that it leaves. -/
def perform (queue : Deque α) : Operation α → Option α × Deque α
  | .pushHead item => (none, queue.pushHead item)
  | .pushTail item => (none, queue.pushTail item)
  | .popHead => queue.popHead
  | .popTail => queue.popTail

/-- What a thread does next. -/
structure Event (α : Type) where
  thread : Nat
  operation : Operation α

/-- A call that was made, with what it has taken out. -/
structure Call (α : Type) extends Event α where
  taken : Option α

/-- A deque that threads share, with the calls that they have made. -/
structure Shared (α : Type) where
  queue : Deque α
  calls : List (Call α)

/-- The next call. -/
def Shared.step (shared : Shared α) (event : Event α) : Shared α where
  queue := (shared.queue.perform event.operation).2
  calls := shared.calls ++ [{ event with taken := (shared.queue.perform event.operation).1 }]

/-- A deque after some events, empty in the beginning. -/
def run (events : List (Event α)) : Shared α := events.foldl Shared.step ⟨∅, []⟩

/-- What was put in by some calls, in the order of the calls. -/
def pushes (calls : List (Call α)) : List α := calls.filterMap fun call => call.operation.pushed?

/-- What was taken out by some calls, in the order of the calls. -/
def pops (calls : List (Call α)) : List α := calls.filterMap Call.taken

theorem pushes_concat (calls : List (Call α)) (call : Call α) :
    pushes (calls ++ [call]) = pushes calls ++ call.operation.pushed?.toList := by
  rw [pushes, List.filterMap_append, filterMap_cons_eq_append, List.filterMap_nil, List.append_nil]
  rfl

theorem pops_concat (calls : List (Call α)) (call : Call α) :
    pops (calls ++ [call]) = pops calls ++ call.taken.toList := by
  rw [pops, List.filterMap_append, filterMap_cons_eq_append, List.filterMap_nil, List.append_nil]
  rfl

theorem run_concat (events : List (Event α)) (event : Event α) :
    run (events ++ [event]) = (run events).step event := by
  rw [run, List.foldl_append]
  rfl

theorem length_calls_run (events : List (Event α)) : (run events).calls.length = events.length := by
  induction events using List.reverseRecOn with
  | nil => rfl
  | append_singleton events event ih =>
      rw [run_concat, Shared.step, List.length_append, List.length_append, ih]
      rfl

/-- Every event is a call, which finds the deque as the events before it have left it. -/
theorem getElem?_calls_run {events : List (Event α)} {index : Nat} {event : Event α}
    (hevent : events[index]? = some event) :
    (run events).calls[index]? = some
      { event with taken := ((run (events.take index)).queue.perform event.operation).1 } := by
  induction events using List.reverseRecOn with
  | nil => cases hevent
  | append_singleton events last ih =>
      rw [run_concat, Shared.step]
      by_cases hindex : index < events.length
      · rw [List.getElem?_append_left hindex] at hevent
        rw [List.getElem?_append_left (by rwa [length_calls_run]),
          List.take_append_of_le_length (Nat.le_of_lt hindex)]
        exact ih hevent
      · have hlast : index = events.length := by
          obtain ⟨hbound, -⟩ := List.getElem?_eq_some_iff.1 hevent
          rw [List.length_append, List.length_singleton] at hbound
          omega
        subst hlast
        rw [List.getElem?_concat_length] at hevent
        obtain rfl := Option.some.inj hevent
        rw [← length_calls_run, List.getElem?_concat_length, length_calls_run, List.take_left]

/-- What was put in is what the events put in. -/
theorem pushes_run (events : List (Event α)) :
    pushes (run events).calls = events.filterMap fun event => event.operation.pushed? :=
  foldl_leaves (fun shared : Shared α => pushes shared.calls) (fun _ _ => pushes_concat _ _) ⟨∅, []⟩
    events

/-! ## Conservation -/

/-- What was in the deque and what an operation puts in is what it takes out and what it leaves. -/
theorem perform_conserves (queue : Deque α) (operation : Operation α) :
    (queue.toList ++ operation.pushed?.toList).Perm
      ((queue.perform operation).1.toList ++ (queue.perform operation).2.toList) := by
  cases operation with
  | pushHead item => exact List.perm_append_comm
  | pushTail item => exact .refl _
  | popHead =>
      rw [perform, fst_popHead, toList_popHead]
      cases queue.toList with
      | nil => exact .refl _
      | cons item rest => simp [Operation.pushed?]
  | popTail =>
      rw [perform, fst_popTail, toList_popTail, Operation.pushed?, Option.toList_none, List.append_nil]
      rcases List.eq_nil_or_concat queue.toList with hnil | ⟨front, last, hlast⟩
      · rw [hnil]
        exact .refl _
      · rw [hlast, List.concat_eq_append, List.getLast?_concat, List.dropLast_concat]
        exact List.perm_append_comm

/-- What was in the deque, and behind it what is put in at the tail, is what is taken out at the head, and
behind it what is left. -/
theorem perform_in_order (queue : Deque α) {operation : Operation α} (h : operation.isInLine = true) :
    queue.toList ++ operation.pushed?.toList =
      (queue.perform operation).1.toList ++ (queue.perform operation).2.toList := by
  cases operation with
  | pushHead item => cases h
  | pushTail item => rfl
  | popHead =>
      rw [perform, fst_popHead, toList_popHead]
      cases queue.toList with
      | nil => rfl
      | cons item rest => simp [Operation.pushed?]
  | popTail => cases h

/-- Whatever happens, what was put in is what was taken out and what is queued. -/
theorem pushes_perm (events : List (Event α)) :
    (pushes (run events).calls).Perm (pops (run events).calls ++ (run events).queue.toList) := by
  induction events using List.reverseRecOn with
  | nil => exact .refl _
  | append_singleton events event ih =>
      have hone := perform_conserves (run events).queue event.operation
      rw [run_concat, Shared.step, pushes_concat, pops_concat]
      refine (ih.append_right _).trans ?_
      rw [List.append_assoc, List.append_assoc]
      exact hone.append_left _

/-- With things put in at the tail and taken out at the head only, they come out in the order in which they
were put in. -/
theorem pushes_eq {events : List (Event α)} (h : ∀ event ∈ events, event.operation.isInLine = true) :
    pushes (run events).calls = pops (run events).calls ++ (run events).queue.toList := by
  induction events using List.reverseRecOn with
  | nil => rfl
  | append_singleton events event ih =>
      have hone := perform_in_order (run events).queue
        (h event (List.mem_append_right _ List.mem_cons_self))
      rw [run_concat, Shared.step, pushes_concat, pops_concat,
        ih fun event hmem => h event (List.mem_append_left _ hmem), List.append_assoc, List.append_assoc]
      exact congrArg _ hone

/-- An operation to take something out comes away empty exactly if there is nothing. -/
theorem perform_eq_none_iff (queue : Deque α) {operation : Operation α} (h : operation.isPop = true) :
    (queue.perform operation).1 = none ↔ queue.toList = [] := by
  cases operation with
  | pushHead item => cases h
  | pushTail item => cases h
  | popHead => rw [perform, fst_popHead, List.head?_eq_none_iff]
  | popTail => rw [perform, fst_popTail, List.getLast?_eq_none_iff]

/-! ## Order -/

/-- What a thread puts in by some events, in its order. -/
def producedBy (events : List (Event α)) (thread : Nat) : List α :=
  events.filterMap fun event => if event.thread = thread then event.operation.pushed? else none

/-- A list that is merged from the lists of some threads: each of its elements belongs to a thread, and those
of one thread are the list of that thread. -/
def IsMerge (lists : Nat → List α) (merged : List α) : Prop :=
  ∃ owned : List (Nat × α), owned.map Prod.snd = merged ∧
    ∀ thread, (owned.filter fun entry => entry.1 = thread).map Prod.snd = lists thread

/-- The first elements of a list that is merged are merged from the first elements of the lists. -/
theorem IsMerge.exists_of_append {lists : Nat → List α} {front back : List α}
    (h : IsMerge lists (front ++ back)) :
    ∃ begins : Nat → List α, IsMerge begins front ∧ ∀ thread, begins thread <+: lists thread := by
  obtain ⟨owned, hmerged, hlists⟩ := h
  obtain ⟨first, second, rfl, hfirst, hsecond⟩ := List.map_eq_append_iff.1 hmerged
  refine ⟨fun thread => (first.filter fun entry => entry.1 = thread).map Prod.snd,
    ⟨first, hfirst, fun thread => rfl⟩, fun thread => ?_⟩
  rw [← hlists, List.filter_append, List.map_append]
  exact List.prefix_append _ _

/-- Whatever the threads put in is merged from what each of them puts in. -/
theorem isMerge_pushes (events : List (Event α)) :
    IsMerge (producedBy events) (pushes (run events).calls) := by
  refine ⟨events.filterMap fun event => event.operation.pushed?.map fun item => (event.thread, item), ?_,
    fun thread => ?_⟩
  · rw [pushes_run, List.map_filterMap]
    refine List.filterMap_congr fun event _ => ?_
    rw [Option.map_map]
    exact Option.map_id'
  · rw [List.filter_filterMap, List.map_filterMap, producedBy]
    refine List.filterMap_congr fun event _ => ?_
    cases event.operation.pushed? with
    | none => simp
    | some item =>
        by_cases hthread : event.thread = thread
        · simp [hthread]
        · simp [hthread]

/-! ## Any interleaving -/

/-- Whatever threads do with a deque, and in whatever order: there are as many elements in it as were put in
and not taken out; each element that was put in was taken out once or is queued; and who comes to take one
goes away empty exactly if there is nothing.  If all put in at the tail and take out at the head, then what
was taken out, with what is queued behind it, is merged from what the threads have put in, and what was taken
out is merged from the first elements of each. -/
theorem conserved_and_merged (events : List (Event α)) :
    let shared := run events
    shared.queue.size + (pops shared.calls).length = (pushes shared.calls).length ∧
    (pushes shared.calls).Perm (pops shared.calls ++ shared.queue.toList) ∧
    (shared.calls.length = events.length ∧
      ∀ index event, events[index]? = some event →
        ∃ taken, shared.calls[index]? = some { event with taken } ∧
          (event.operation.isPop = true →
            (taken = none ↔ (run (events.take index)).queue.toList = []))) ∧
    ((∀ event ∈ events, event.operation.isInLine = true) →
      IsMerge (producedBy events) (pops shared.calls ++ shared.queue.toList) ∧
      ∃ begins, IsMerge begins (pops shared.calls) ∧
        ∀ thread, begins thread <+: producedBy events thread) := by
  intro shared
  have hperm := pushes_perm events
  refine ⟨?_, hperm, ⟨length_calls_run events, fun index event hevent => ?_⟩, fun hline => ?_⟩
  · have hlength := hperm.length_eq
    rw [List.length_append] at hlength
    rw [size, hlength, Nat.add_comm]
  · exact ⟨_, getElem?_calls_run hevent, perform_eq_none_iff _⟩
  · have hmerge : IsMerge (producedBy events) (pops shared.calls ++ shared.queue.toList) := by
      rw [← pushes_eq hline]
      exact isMerge_pushes events
    exact ⟨hmerge, hmerge.exists_of_append⟩

/-- Two producers and two consumers, one of which comes too early. -/
theorem conserved_and_merged_early :
    let events : List (Event Nat) :=
      [⟨3, .popHead⟩, ⟨1, .pushTail 10⟩, ⟨2, .pushTail 20⟩, ⟨3, .popHead⟩, ⟨1, .pushTail 11⟩, ⟨4, .popHead⟩]
    producedBy events 1 = [10, 11] ∧ producedBy events 2 = [20] ∧
      pops (run events).calls = [10, 20] ∧ IsMerge (producedBy events) [10, 20, 11] ∧
      ∃ taken, (run events).calls[0]? = some ⟨⟨3, .popHead⟩, taken⟩ ∧ taken = none := by
  intro events
  obtain ⟨-, -, ⟨-, hcalls⟩, hline⟩ := conserved_and_merged events
  obtain ⟨taken, hcall, hempty⟩ := hcalls 0 _ rfl
  exact ⟨rfl, rfl, rfl, (hline (by decide)).1, taken, hcall, (hempty rfl).2 rfl⟩

end DeviceBus.Deque
