import DeviceBus.Proofs.Queue.Admission
import Mathlib.Data.List.Induction

/-!
# Envelopes that are put back

Clients take envelopes at the head of a queue, and put back the ones that they could not deal with.  If what
is put back is always the one that was taken last of those that are still out, then the envelopes that are out
and the queued ones form one line in the order of arrival: taking one and putting it back only moves the
border between the two.

* `Call.taken?`, `Call.restored?`, `Held`: the envelopes that are out after some calls, if the clients keep to
  this rule.
* `Call.holding?`, `held_of_foldlM`: whether they do, computed call by call.
* `Line`: envelopes in the order of their sequence numbers, none of which is later than the last arrival.
* `Held.line`: after calls that are answered as they should be, the envelopes that are out and the queued
  ones are a line.
* `Sequential.deque_inside`: what a thread sees of the envelopes in the middle of its call.
* `retries_keep_order`: the same after any steps of any threads.
-/

namespace DeviceBus.BoundedQueue

/-! ## Envelopes that are out -/

/-- The envelope that a call has taken at the head. -/
def Call.taken? (call : Call) : Option Envelope :=
  match call.operation, call.answer with
  | .dequeueHead, .taken envelope => envelope
  | _, _ => none

/-- The envelope that a call has inserted at the head. -/
def Call.restored? (call : Call) : Option Envelope :=
  match call.operation, call.answer with
  | .enqueueHead envelope, .returned (.ok ()) => some envelope
  | _, _ => none

/-- The clients have put envelopes back in the opposite order to that in which they took them, and hold some
that they have not put back yet, the one that was taken last first.  They may give up any of these, and do
anything else with the queue in between; an insertion at the head that is refused is no matter. -/
inductive Held : List Call → List Envelope → Prop
  | start : Held [] []
  | taken {calls : List Call} {held : List Envelope} {call : Call} {envelope : Envelope}
      (before : Held calls held) (takes : call.taken? = some envelope) :
      Held (calls ++ [call]) (envelope :: held)
  | restored {calls : List Call} {held : List Envelope} {call : Call} {envelope : Envelope}
      (before : Held calls (envelope :: held)) (restores : call.restored? = some envelope) :
      Held (calls ++ [call]) held
  | other {calls : List Call} {held : List Envelope} {call : Call} (before : Held calls held)
      (takesNone : call.taken? = none) (restoresNone : call.restored? = none) :
      Held (calls ++ [call]) held
  | dropped {calls : List Call} {held kept : List Envelope} (before : Held calls held)
      (sublist : kept.Sublist held) : Held calls kept

/-- What clients that give up nothing hold after one more call, if that keeps to the rule. -/
def Call.holding? (held : List Envelope) (call : Call) : Option (List Envelope) :=
  match call.taken?, call.restored? with
  | some envelope, _ => some (envelope :: held)
  | none, some envelope => if held.head? = some envelope then some held.tail else none
  | none, none => some held

theorem Held.concat_of_holding {calls : List Call} {before held : List Envelope} {call : Call}
    (h : Held calls before) (hholding : call.holding? before = some held) : Held (calls ++ [call]) held := by
  rw [Call.holding?] at hholding
  split at hholding
  · obtain rfl := Option.some.inj hholding
    exact h.taken ‹_›
  · split at hholding
    · obtain ⟨rest, rfl⟩ := List.head?_eq_some_iff.1 ‹before.head? = _›
      obtain rfl := Option.some.inj hholding
      exact h.restored ‹_›
    · cases hholding
  · obtain rfl := Option.some.inj hholding
    exact h.other ‹_› ‹_›

theorem held_of_foldlM {calls : List Call} {held : List Envelope}
    (h : calls.foldlM Call.holding? [] = some held) : Held calls held := by
  induction calls using List.reverseRecOn generalizing held with
  | nil =>
      obtain rfl := Option.some.inj h
      exact .start
  | append_singleton calls call ih =>
      rw [List.foldlM_append, Option.bind_eq_bind, Option.bind_eq_some_iff] at h
      obtain ⟨before, hbefore, hlast⟩ := h
      rw [List.foldlM_cons, Option.bind_eq_bind, Option.bind_eq_some_iff] at hlast
      obtain ⟨_, hholding, hnil⟩ := hlast
      obtain rfl := Option.some.inj hnil
      exact (ih hbefore).concat_of_holding hholding

/-- Clients that keep to the rule have kept to it before their last call. -/
theorem Held.of_concat {calls : List Call} {call : Call} {held : List Envelope}
    (h : Held (calls ++ [call]) held) : ∃ earlier, Held calls earlier := by
  generalize hall : calls ++ [call] = all at h
  induction h with
  | start => exact absurd hall (by simp)
  | taken before =>
      obtain ⟨rfl, -⟩ := List.append_inj' hall rfl
      exact ⟨_, before⟩
  | restored before =>
      obtain ⟨rfl, -⟩ := List.append_inj' hall rfl
      exact ⟨_, before⟩
  | other before =>
      obtain ⟨rfl, -⟩ := List.append_inj' hall rfl
      exact ⟨_, before⟩
  | dropped _ _ ih => exact ih hall

theorem Held.of_append {earlier later : List Call} {held : List Envelope}
    (h : Held (earlier ++ later) held) : ∃ held, Held earlier held := by
  induction later using List.reverseRecOn generalizing held with
  | nil => exact ⟨held, by rwa [List.append_nil] at h⟩
  | append_singleton later call ih =>
      rw [← List.append_assoc] at h
      obtain ⟨before, hbefore⟩ := h.of_concat
      exact ih hbefore

/-! ## Envelopes in a line -/

/-- The sequence numbers of some envelopes are strictly increasing. -/
def Ascends (envelopes : List Envelope) : Prop :=
  envelopes.Pairwise fun first second => first.sequence < second.sequence

/-- Envelopes in the order of their arrival, after some number of arrivals. -/
structure Line (count : Nat) (envelopes : List Envelope) : Prop where
  ascends : Ascends envelopes
  arrived : ∀ envelope ∈ envelopes, envelope.sequence ≤ count

namespace Line

variable {count : Nat} {envelopes : List Envelope}

theorem sublist (h : Line count envelopes) {kept : List Envelope} (hkept : kept.Sublist envelopes) :
    Line count kept :=
  ⟨h.ascends.sublist hkept, fun envelope hmem => h.arrived envelope (hkept.subset hmem)⟩

/-- The next arrival comes to the end of the line. -/
theorem arrive (h : Line count envelopes) (envelope : Envelope) (now : Int) :
    Line (count + 1) (envelopes ++ [envelope.stamped (1 + count) now]) := by
  constructor
  · refine List.pairwise_append.2 ⟨h.ascends, List.pairwise_singleton _ _, ?_⟩
    intro first hfirst second hsecond
    obtain rfl := List.mem_singleton.1 hsecond
    have hle := h.arrived first hfirst
    show first.sequence < 1 + count
    omega
  · intro other hother
    rcases List.mem_append.1 hother with hmem | hmem
    · exact Nat.le_succ_of_le (h.arrived other hmem)
    · obtain rfl := List.mem_singleton.1 hmem
      exact Nat.le_of_eq (Nat.add_comm 1 count)

/-- Of a line in two parts, the one behind is in order, and all in it are later than those in front. -/
theorem parts {held queued : List Envelope} (h : Line count (held.reverse ++ queued)) :
    Ascends queued ∧ ∀ out ∈ held, ∀ other ∈ queued, out.sequence < other.sequence := by
  obtain ⟨-, hqueued, hapart⟩ := List.pairwise_append.1 h.ascends
  exact ⟨hqueued, fun out hout => hapart out (List.mem_reverse.2 hout)⟩

/-- The first one of a line has the smallest sequence number. -/
theorem sequence_le {envelope : Envelope} {rest : List Envelope} (h : Line count (envelope :: rest)) :
    ∀ other ∈ envelope :: rest, envelope.sequence ≤ other.sequence := by
  intro other hother
  rcases List.mem_cons.1 hother with rfl | hmem
  · exact Nat.le_refl _
  · exact Nat.le_of_lt ((List.pairwise_cons.1 h.ascends).1 other hmem)

end Line

/-! ## What calls do to the line -/

/-- Every call is answered as the ones before it say. -/
def Answered (limit : Nat) (calls : List Call) : Prop :=
  ∀ earlier call later, calls = earlier ++ call :: later →
    call.answer = answerAfter limit earlier call.operation

namespace Answered

variable {limit : Nat} {calls earlier : List Call} {call : Call}

theorem of_append {later : List Call} (h : Answered limit (earlier ++ later)) : Answered limit earlier := by
  rintro front call back rfl
  exact h front call (back ++ later) (by simp)

theorem last (h : Answered limit (calls ++ [call])) :
    call.answer = answerAfter limit calls call.operation :=
  h calls call [] rfl

end Answered

section Effects

variable {limit : Nat} {calls : List Call} {call : Call} {envelope : Envelope}

/-- What is taken at the head was the first of the queued envelopes. -/
theorem contents_of_taken (hanswer : call.answer = answerAfter limit calls call.operation)
    (htaken : call.taken? = some envelope) :
    contentsAfter calls = envelope :: contentsAfter (calls ++ [call]) := by
  obtain ⟨thread, operation, answer⟩ := call
  obtain rfl : answer = answerAfter limit calls operation := hanswer
  cases operation with
  | dequeueHead =>
      have hhead : (contentsAfter calls).head? = some envelope := htaken
      obtain ⟨rest, hrest⟩ := List.head?_eq_some_iff.1 hhead
      rw [contentsAfter_concat, hrest]
      simp only [Call.apply, answerAfter, hrest, List.head?_cons, List.tail_cons]
  | enqueueTail => cases htaken
  | enqueueHead => cases htaken
  | dequeueTail => cases htaken
  | count => cases htaken

/-- What is put back is the first of the queued envelopes. -/
theorem contents_of_restored (hrestored : call.restored? = some envelope) :
    contentsAfter (calls ++ [call]) = envelope :: contentsAfter calls := by
  obtain ⟨thread, operation, answer⟩ := call
  rw [contentsAfter_concat]
  simp only [Call.restored?] at hrestored
  split at hrestored
  · obtain rfl := Option.some.inj hrestored
    rfl
  · cases hrestored

theorem arrivals_of_taken (htaken : call.taken? = some envelope) :
    arrivals (calls ++ [call]) = arrivals calls := by
  obtain ⟨thread, operation, answer⟩ := call
  rw [arrivals_concat]
  cases operation with
  | enqueueTail => cases htaken
  | _ => rfl

theorem arrivals_of_restored (hrestored : call.restored? = some envelope) :
    arrivals (calls ++ [call]) = arrivals calls := by
  obtain ⟨thread, operation, answer⟩ := call
  rw [arrivals_concat]
  cases operation with
  | enqueueTail => cases hrestored
  | _ => rfl

/-- A call that neither takes nor puts back at the head keeps a line, whatever stands in front of what is
queued. -/
theorem Line.other {held : List Envelope}
    (h : Line (arrivals calls) (held.reverse ++ contentsAfter calls))
    (hanswer : call.answer = answerAfter limit calls call.operation) (htaken : call.taken? = none)
    (hrestored : call.restored? = none) :
    Line (arrivals (calls ++ [call])) (held.reverse ++ contentsAfter (calls ++ [call])) := by
  obtain ⟨thread, operation, answer⟩ := call
  obtain rfl : answer = answerAfter limit calls operation := hanswer
  rw [contentsAfter_concat, arrivals_concat]
  cases operation with
  | enqueueTail now envelope =>
      have harrived := h.arrive envelope now
      rw [List.append_assoc] at harrived
      exact harrived
  | enqueueHead envelope =>
      -- only a refused one has put nothing back
      rw [answerAfter] at hrestored ⊢
      by_cases hroom : (contentsAfter calls).length < limit
      · rw [if_pos hroom] at hrestored
        cases hrestored
      · rw [if_neg hroom]
        exact h
  | dequeueHead =>
      have hnone : (contentsAfter calls).head? = none := htaken
      rw [answerAfter, hnone]
      exact h
  | dequeueTail =>
      rw [answerAfter]
      cases (contentsAfter calls).getLast? with
      | none => exact h
      | some => exact h.sublist ((List.dropLast_sublist _).append_left _)
  | count => exact h

end Effects

/-- The envelopes that are out and the queued ones are in the order of arrival. -/
theorem Held.line {limit : Nat} {calls : List Call} {held : List Envelope} (h : Held calls held)
    (hanswered : Answered limit calls) : Line (arrivals calls) (held.reverse ++ contentsAfter calls) := by
  -- what is taken and what is put back stays where it is in the line
  induction h with
  | start => exact ⟨.nil, fun _ hmem => absurd hmem List.not_mem_nil⟩
  | taken before takes ih =>
      have hline := ih hanswered.of_append
      rw [contents_of_taken hanswered.last takes] at hline
      rw [List.reverse_cons, List.append_assoc, arrivals_of_taken takes]
      exact hline
  | restored before restores ih =>
      have hline := ih hanswered.of_append
      rw [List.reverse_cons, List.append_assoc] at hline
      rw [contents_of_restored restores, arrivals_of_restored restores]
      exact hline
  | other before takesNone restoresNone ih =>
      exact (ih hanswered.of_append).other hanswered.last takesNone restoresNone
  | dropped before sublist ih =>
      exact (ih hanswered).sublist (sublist.reverse.append_right _)

/-! ## Threads -/

/-- In the middle of a call the deque is as the call found it, or as the call will leave it. -/
theorem Midway.deque {found queue : BoundedQueue} {operation : Operation} {stage : Stage}
    (h : Midway found operation stage queue) :
    queue.deque = found.deque ∨ queue.deque = (found.perform operation).2.deque := by
  cases h with
  | entered => exact .inl rfl
  | inserted whole => exact .inr (congrArg (fun result => result.2.deque) whole).symm
  | counted whole => exact .inr (congrArg (fun result => result.2.deque) whole).symm
  | removed whole => exact .inr (congrArg (fun result => result.2.deque) whole).symm
  | leaving whole => exact .inr (congrArg (fun result => result.2.deque) whole).symm

namespace Shared

/-- The call that the thread inside will have made. -/
def pending (limit : Nat) (shared : Shared) (visit : Visit) : Call :=
  ⟨visit.thread, visit.operation, answerAfter limit shared.calls visit.operation⟩

variable {limit : Nat} {shared : Shared} {last : BoundedQueue}

theorem Sequential.answered (h : Sequential limit shared last) : Answered limit shared.calls := by
  intro earlier call later hcalls
  obtain ⟨before, after, hright⟩ := h.calls earlier call later hcalls
  exact hright.answered

/-- The call inside will be answered as it should be. -/
theorem Sequential.answered_pending (h : Sequential limit shared last) (visit : Visit) :
    Answered limit (shared.calls ++ [shared.pending limit visit]) := by
  intro earlier call later hcalls
  rcases List.eq_nil_or_concat later with rfl | ⟨later, final, rfl⟩
  · obtain ⟨rfl, hcall⟩ := List.append_inj' hcalls rfl
    obtain rfl := List.singleton_inj.1 hcall
    rfl
  · rw [List.concat_eq_append, ← List.cons_append, ← List.append_assoc] at hcalls
    exact h.answered earlier call later (List.append_inj' hcalls rfl).1

/-- What a thread that is inside finds in the deque is what the finished calls have left, or what its own one
leaves. -/
theorem Sequential.deque_inside (h : Sequential limit shared last) {visit : Visit}
    (hvisit : shared.visit = some visit) :
    shared.queue.deque.toList = contentsAfter shared.calls ∨
      shared.queue.deque.toList = contentsAfter (shared.calls ++ [shared.pending limit visit]) := by
  obtain ⟨hanswer, hexplains⟩ := h.explained.perform visit.thread visit.operation
  rcases (h.inside visit hvisit).deque with hdeque | hdeque
  · rw [hdeque]
    exact .inl h.explained.contents
  · rw [hdeque, hexplains.contents, hanswer]
    exact .inr rfl

end Shared

/-- Clients that put back what they have taken at the head in the opposite order find the envelopes in the
order of their arrival.

* The sequence numbers of the queued envelopes are strictly increasing from head to tail, and all larger than
  those of the envelopes that are still out.
* The deque has these contents while the lock is free.  While it is not, what the thread inside finds in the
  deque is in this order as well, if the clients keep to the rule with its call too, and comes after the
  envelopes that are out before the call or after those that are out then.
* A call that has taken an envelope at the head has taken the one with the smallest sequence number of those
  that were queued. -/
theorem retries_keep_order (limit : Nat) (events : List Event) {held : List Envelope}
    (hheld : Held ((Shared.start limit).run events).calls held) :
    let shared := (Shared.start limit).run events
    Ascends (contentsAfter shared.calls) ∧
    (∀ out ∈ held, ∀ queued ∈ contentsAfter shared.calls, out.sequence < queued.sequence) ∧
    (shared.visit = none → shared.queue.deque.toList = contentsAfter shared.calls) ∧
    (∀ visit next, shared.visit = some visit → Held (shared.calls ++ [shared.pending limit visit]) next →
      Ascends shared.queue.deque.toList ∧
        ((∀ out ∈ held, ∀ queued ∈ shared.queue.deque.toList, out.sequence < queued.sequence) ∨
          ∀ out ∈ next, ∀ queued ∈ shared.queue.deque.toList, out.sequence < queued.sequence)) ∧
    (∀ earlier call later envelope, shared.calls = earlier ++ call :: later → call.taken? = some envelope →
      envelope ∈ contentsAfter earlier ∧
        ∀ queued ∈ contentsAfter earlier, envelope.sequence ≤ queued.sequence) := by
  intro shared
  obtain ⟨last, h⟩ := Shared.sequential_run limit events
  obtain ⟨hqueued, hapart⟩ := (hheld.line h.answered).parts
  refine ⟨hqueued, hapart, ?_, ?_, ?_⟩
  · intro hfree
    rw [h.free hfree]
    exact h.explained.contents
  · intro visit next hvisit hpending
    obtain ⟨hqueued', hapart'⟩ := (hpending.line (h.answered_pending visit)).parts
    rcases h.deque_inside hvisit with hdeque | hdeque
    · rw [hdeque]
      exact ⟨hqueued, .inl hapart⟩
    · rw [hdeque]
      exact ⟨hqueued', .inr hapart'⟩
  · intro earlier call later envelope hcalls htaken
    rw [hcalls] at hheld
    have hanswered : Answered limit (earlier ++ call :: later) := hcalls ▸ h.answered
    obtain ⟨held', hheld'⟩ := hheld.of_append
    have hbefore := (hheld'.line hanswered.of_append).sublist (List.sublist_append_right _ _)
    rw [contents_of_taken (hanswered earlier call later rfl) htaken] at hbefore ⊢
    exact ⟨List.mem_cons_self, hbefore.sequence_le⟩

/-- The events of a call of a thread that nobody hinders. -/
def alone (thread : Nat) (operation : Operation) : List Event :=
  .enter thread operation :: List.replicate 4 (.advance thread)

/-- An envelope as it is queued by the arrival of a blank one. -/
def arrivedAs (sequence : Nat) : Envelope := Envelope.blank.stamped sequence 7

/-- A limit of two: two of three arrivals are taken by two threads, and the second one is put back once the
fourth arrival, which has taken its room, is taken at the tail. -/
def retrying : List Event :=
  [(1, Operation.enqueueTail 7 .blank), (1, .enqueueTail 7 .blank), (1, .enqueueTail 7 .blank),
    (2, .dequeueHead), (3, .dequeueHead), (1, .enqueueTail 7 .blank), (3, .enqueueHead (arrivedAs 2)),
    (1, .dequeueTail), (3, .enqueueHead (arrivedAs 2))].flatMap fun (thread, operation) =>
      alone thread operation

/-- The first envelope is still out, and the second one is back in front of the third. -/
theorem retries_keep_order_refused :
    let shared := (Shared.start 2).run retrying
    shared.queue.deque.toList = [arrivedAs 2, arrivedAs 3] ∧
      (∀ queued ∈ [arrivedAs 2, arrivedAs 3], (arrivedAs 1).sequence < queued.sequence) ∧
      shared.calls[6]? = some ⟨3, .enqueueHead (arrivedAs 2), .returned (.error (.full 2))⟩ := by
  intro shared
  have hheld : Held ((Shared.start 2).run retrying).calls [arrivedAs 1] := held_of_foldlM rfl
  obtain ⟨-, hapart, hfree, -⟩ := retries_keep_order 2 retrying hheld
  exact ⟨hfree rfl, hapart _ List.mem_cons_self, rfl⟩

end DeviceBus.BoundedQueue
