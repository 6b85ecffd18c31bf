import DeviceBus.Proofs.Runs
import DeviceBus.Queue.Bounded

/-!
# Admission to a shared queue

A queue that bounds insertion at the head is shared by threads.  A call holds the lock of the admission
record from its beginning to its end, and changes the deque and the record one after the other in
between.  So while the lock is held the two may disagree, and other threads may try to get in at any
moment; but none of them sees the queue before the lock is free again.

* `Call`, `answerAfter`, `contentsAfter`: the finished calls with their answers, and what they say about the
  answer to the next call and about the contents.
* `Explains`, `Explains.perform`: the finished calls explain the state of the queue, and every further call,
  done in one step, is answered accordingly.
* `Shared`: the queue with the thread that is inside, in the small steps of a call.
* `Midway`, `Midway.advance`: what the small steps of a call have made of the queue so far.
* `admission_by_threads`: after any steps of any threads the finished calls were indivisible.
-/

namespace DeviceBus

namespace BoundedQueue

/-! ## Calls -/

/-- What can be done with a queue; an arrival comes with the time. -/
inductive Operation where
  | enqueueTail (now : Int) (envelope : Envelope)
  | enqueueHead (envelope : Envelope)
  | dequeueHead
  | dequeueTail
  | count

/-- What an operation answers. -/
inductive Answer where
  | arrived (sequence : Nat)
  | returned (result : Except QueueError Unit)
  | taken (envelope : Option Envelope)
  | counted (length : Nat)

/-- Carry out an operation in one step. -/
def perform (queue : BoundedQueue) : Operation → Answer × BoundedQueue
  | .enqueueTail now envelope =>
      let (sequence, queue) := queue.enqueueTail now envelope
      (.arrived sequence, queue)
  | .enqueueHead envelope =>
      let (result, queue) := queue.enqueueHead envelope
      (.returned result, queue)
  | .dequeueHead =>
      let (envelope, queue) := queue.dequeueHead
      (.taken envelope, queue)
  | .dequeueTail =>
      let (envelope, queue) := queue.dequeueTail
      (.taken envelope, queue)
  | .count => (.counted queue.length, queue)

/-- Whether an operation is an insertion at the tail. -/
def Operation.isArrival : Operation → Bool
  | .enqueueTail _ _ => true
  | _ => false

/-- Whether an answer says that nothing has been inserted or taken. -/
def Answer.isIdle : Answer → Bool
  | .returned (.error _) => true
  | .taken none => true
  | .counted _ => true
  | _ => false

/-- A finished call of a thread. -/
structure Call where
  thread : Nat
  operation : Operation
  answer : Answer

/-- What a finished call has made of the contents.  Only a call that succeeded has changed them, and only an
arrival changes the envelope that it inserts. -/
def Call.apply (contents : List Envelope) (call : Call) : List Envelope :=
  match call.operation, call.answer with
  | .enqueueTail now envelope, .arrived sequence => contents ++ [envelope.stamped sequence now]
  | .enqueueHead envelope, .returned (.ok ()) => envelope :: contents
  | .dequeueHead, .taken (some _) => contents.tail
  | .dequeueTail, .taken (some _) => contents.dropLast
  | _, _ => contents

/-- The contents after some calls. -/
def contentsAfter (calls : List Call) : List Envelope := calls.foldl Call.apply []

/-- How many of some calls were insertions at the tail. -/
def arrivals (calls : List Call) : Nat := calls.countP fun call => call.operation.isArrival

/-- The answer that an operation has after some calls.  An arrival is always admitted, and counted with the
earlier ones; a return to the head is admitted below the limit; and what is taken is the envelope at that
end. -/
def answerAfter (limit : Nat) (calls : List Call) : Operation → Answer
  | .enqueueTail _ _ => .arrived (1 + arrivals calls)
  | .enqueueHead _ =>
      .returned (if (contentsAfter calls).length < limit then .ok () else .error (.full limit))
  | .dequeueHead => .taken (contentsAfter calls).head?
  | .dequeueTail => .taken (contentsAfter calls).getLast?
  | .count => .counted (contentsAfter calls).length

theorem contentsAfter_concat (calls : List Call) (call : Call) :
    contentsAfter (calls ++ [call]) = call.apply (contentsAfter calls) := by
  rw [contentsAfter, List.foldl_append]
  rfl

theorem arrivals_concat (calls : List Call) (call : Call) :
    arrivals (calls ++ [call]) = arrivals calls + call.operation.isArrival.toNat := by
  rw [arrivals, List.countP_append, List.countP_singleton]
  cases call.operation.isArrival <;> rfl

/-! ## Calls in one step -/

/-- Some calls explain a queue: its contents are what they have left, it counts them right, and its next
sequence number is behind those of the arrivals. -/
structure Explains (limit : Nat) (calls : List Call) (queue : BoundedQueue) : Prop where
  contents : queue.deque.toList = contentsAfter calls
  length : queue.length = queue.deque.size
  sequence : queue.nextSequence = 1 + arrivals calls
  limit : queue.limit = limit

theorem explains_ofLimit (limit : Nat) : Explains limit [] (ofLimit limit) := ⟨rfl, rfl, rfl, rfl⟩

theorem enqueueHead_of_full {queue : BoundedQueue} (h : queue.limit ≤ queue.length)
    (envelope : Envelope) : queue.enqueueHead envelope = (.error (.full queue.limit), queue) :=
  if_pos h

theorem enqueueHead_of_room {queue : BoundedQueue} (h : queue.length < queue.limit)
    (envelope : Envelope) :
    queue.enqueueHead envelope =
      (.ok (), { queue with deque := queue.deque.pushHead envelope, length := queue.length + 1 }) :=
  if_neg (Nat.not_le_of_lt h)

namespace Explains

variable {limit thread : Nat} {calls : List Call} {queue after : BoundedQueue}

theorem length_eq (h : Explains limit calls queue) : queue.length = (contentsAfter calls).length := by
  rw [h.length, Deque.size, h.contents]

/-- One more call is explained if it changes the contents as its answer says and is counted. -/
theorem concat (h : Explains limit calls queue) {call : Call}
    (hcontents : after.deque.toList = call.apply queue.deque.toList)
    (hlength : after.length = after.deque.size)
    (hsequence : after.nextSequence = queue.nextSequence + call.operation.isArrival.toNat)
    (hlimit : after.limit = queue.limit) : Explains limit (calls ++ [call]) after where
  contents := by rw [hcontents, contentsAfter_concat, h.contents]
  length := hlength
  sequence := by rw [hsequence, h.sequence, arrivals_concat, Nat.add_assoc]
  limit := hlimit.trans h.limit

/-- A call that changes neither the contents nor the counts. -/
theorem concat_same (h : Explains limit calls queue) {call : Call}
    (hcontents : call.apply queue.deque.toList = queue.deque.toList)
    (hcall : call.operation.isArrival = false) :
    Explains limit (calls ++ [call]) queue :=
  h.concat hcontents.symm h.length (by rw [hcall]; rfl) rfl

/-- What is taken is accounted for: if there was nothing, nothing changes, and otherwise there is one less,
and one less is counted. -/
theorem took (h : Explains limit calls queue) {operation : Operation}
    {popped : Option Envelope × Deque Envelope}
    (hcall : operation.isArrival = false)
    (hnone : popped.1 = none →
      (Call.mk thread operation (.taken popped.1)).apply queue.deque.toList = queue.deque.toList)
    (hsome : popped.1.isSome = true →
      (Call.mk thread operation (.taken popped.1)).apply queue.deque.toList = popped.2.toList ∧
        popped.2.size + 1 = queue.deque.size) :
    (queue.took popped).1 = popped.1 ∧
      Explains limit (calls ++ [⟨thread, operation, .taken (queue.took popped).1⟩])
        (queue.took popped).2 := by
  obtain ⟨envelope, rest⟩ := popped
  cases envelope with
  | none => exact ⟨rfl, h.concat_same (hnone rfl) hcall⟩
  | some envelope =>
      obtain ⟨hrest, hsize⟩ := hsome rfl
      refine ⟨rfl, h.concat hrest.symm ?_ (by rw [hcall]; rfl) rfl⟩
      show queue.length - 1 = rest.size
      rw [h.length, ← hsize]
      rfl

theorem dequeueHead (h : Explains limit calls queue) :
    queue.dequeueHead.1 = (contentsAfter calls).head? ∧
      Explains limit (calls ++ [⟨thread, .dequeueHead, .taken queue.dequeueHead.1⟩])
        queue.dequeueHead.2 := by
  rw [← h.contents, ← Deque.fst_popHead]
  refine h.took rfl ?_ fun hsome => ⟨?_, ?_⟩
  · intro hnone
    rw [hnone]
    rfl
  · obtain ⟨envelope, henvelope⟩ := Option.isSome_iff_exists.1 hsome
    rw [henvelope, Deque.toList_popHead]
    rfl
  · rw [Deque.fst_popHead, List.isSome_head?] at hsome
    rw [Deque.size, Deque.size, Deque.toList_popHead, List.length_tail]
    have hpos := List.length_pos_iff.2 hsome
    omega

theorem dequeueTail (h : Explains limit calls queue) :
    queue.dequeueTail.1 = (contentsAfter calls).getLast? ∧
      Explains limit (calls ++ [⟨thread, .dequeueTail, .taken queue.dequeueTail.1⟩])
        queue.dequeueTail.2 := by
  rw [← h.contents, ← Deque.fst_popTail]
  refine h.took rfl ?_ fun hsome => ⟨?_, ?_⟩
  · intro hnone
    rw [hnone]
    rfl
  · obtain ⟨envelope, henvelope⟩ := Option.isSome_iff_exists.1 hsome
    rw [henvelope, Deque.toList_popTail]
    rfl
  · rw [Deque.fst_popTail, List.getLast?_isSome] at hsome
    rw [Deque.size, Deque.size, Deque.toList_popTail, List.length_dropLast]
    have hpos := List.length_pos_iff.2 hsome
    omega

theorem enqueueHead (h : Explains limit calls queue) (envelope : Envelope) :
    (queue.enqueueHead envelope).1 =
        (if (contentsAfter calls).length < limit then .ok () else .error (.full limit)) ∧
      Explains limit
        (calls ++ [⟨thread, .enqueueHead envelope, .returned (queue.enqueueHead envelope).1⟩])
        (queue.enqueueHead envelope).2 := by
  obtain rfl := h.limit
  rw [← h.length_eq]
  by_cases hroom : queue.length < queue.limit
  · rw [enqueueHead_of_room hroom, if_pos hroom]
    exact ⟨rfl, h.concat rfl (congrArg (· + 1) h.length) rfl rfl⟩
  · rw [enqueueHead_of_full (Nat.le_of_not_lt hroom), if_neg hroom]
    exact ⟨rfl, h.concat_same rfl rfl⟩

/-- Every operation is answered as the calls before it say, and with it they explain what has become of the
queue. -/
theorem perform (h : Explains limit calls queue) (thread : Nat) (operation : Operation) :
    (queue.perform operation).1 = answerAfter limit calls operation ∧
      Explains limit (calls ++ [⟨thread, operation, (queue.perform operation).1⟩])
        (queue.perform operation).2 := by
  cases operation with
  | enqueueTail now envelope =>
      exact ⟨congrArg Answer.arrived h.sequence,
        h.concat rfl (by simp [BoundedQueue.perform, enqueueTail, Deque.size, h.length]) rfl rfl⟩
  | enqueueHead envelope =>
      obtain ⟨hanswer, hexplains⟩ := h.enqueueHead envelope
      exact ⟨congrArg Answer.returned hanswer, hexplains⟩
  | dequeueHead =>
      obtain ⟨hanswer, hexplains⟩ := h.dequeueHead
      exact ⟨congrArg Answer.taken hanswer, hexplains⟩
  | dequeueTail =>
      obtain ⟨hanswer, hexplains⟩ := h.dequeueTail
      exact ⟨congrArg Answer.taken hanswer, hexplains⟩
  | count => exact ⟨congrArg Answer.counted h.length_eq, h.concat_same rfl rfl⟩

end Explains

theorem took_of_isIdle {queue : BoundedQueue} {popped : Option Envelope × Deque Envelope}
    (h : (Answer.taken (queue.took popped).1).isIdle = true) : (queue.took popped).2 = queue := by
  obtain ⟨_ | envelope, rest⟩ := popped
  · rfl
  · cases h

/-- An operation that inserts or takes nothing leaves the queue as it is. -/
theorem perform_of_isIdle {queue : BoundedQueue} {operation : Operation}
    (h : (queue.perform operation).1.isIdle = true) : (queue.perform operation).2 = queue := by
  cases operation with
  | enqueueTail now envelope => cases h
  | enqueueHead envelope =>
      by_cases hroom : queue.length < queue.limit
      · rw [perform, enqueueHead_of_room hroom] at h
        cases h
      · rw [perform, enqueueHead_of_full (Nat.le_of_not_lt hroom)]
  | dequeueHead => exact took_of_isIdle h
  | dequeueTail => exact took_of_isIdle h
  | count => rfl

/-- What is right about a call that comes after some others: it has led from what they explain to what they
and it explain, has its answer from them, and if it had nothing to insert or take, then nothing changed. -/
structure Call.Right (limit : Nat) (earlier : List Call) (call : Call) (before after : BoundedQueue) :
    Prop where
  found : Explains limit earlier before
  left : Explains limit (earlier ++ [call]) after
  performed : before.perform call.operation = (call.answer, after)
  answered : call.answer = answerAfter limit earlier call.operation
  unchanged : call.answer.isIdle = true → after = before
  /-- a return to the head does not exceed the limit -/
  bounded : call.answer = .returned (.ok ()) → after.length ≤ limit

/-- An operation that succeeds in a return to the head leaves no more than the limit. -/
theorem Explains.length_le_of_returned {limit : Nat} {calls : List Call} {queue : BoundedQueue}
    (h : Explains limit calls queue) {operation : Operation}
    (hreturned : (queue.perform operation).1 = .returned (.ok ())) :
    (queue.perform operation).2.length ≤ limit := by
  obtain rfl := h.limit
  cases operation with
  | enqueueHead envelope =>
      by_cases hroom : queue.length < queue.limit
      · rw [BoundedQueue.perform, enqueueHead_of_room hroom]
        exact hroom
      · rw [BoundedQueue.perform, enqueueHead_of_full (Nat.le_of_not_lt hroom)] at hreturned
        cases hreturned
  | enqueueTail now envelope => cases hreturned
  | dequeueHead => cases hreturned
  | dequeueTail => cases hreturned
  | count => cases hreturned

theorem Explains.right {limit : Nat} {calls : List Call} {queue : BoundedQueue}
    (h : Explains limit calls queue) (thread : Nat) (operation : Operation) :
    Call.Right limit calls ⟨thread, operation, (queue.perform operation).1⟩ queue
      (queue.perform operation).2 where
  found := h
  left := (h.perform thread operation).2
  performed := rfl
  answered := (h.perform thread operation).1
  unchanged := perform_of_isIdle
  bounded := h.length_le_of_returned

/-! ## Calls in small steps -/

/-- How far a call has come inside. -/
inductive Stage where
  /-- nothing has been changed -/
  | entered
  /-- an envelope is in the deque, and not counted; the answer is known -/
  | inserted (answer : Answer)
  /-- the envelope is counted, and the next sequence number is still the old one -/
  | counted (answer : Answer)
  /-- an envelope is out of the deque, and still counted -/
  | removed (envelope : Envelope)
  /-- only the lock has to be given back -/
  | leaving (answer : Answer)

/-- How many steps a call has to go at most. -/
def Stage.remaining : Stage → Nat
  | .entered => 4
  | .inserted _ => 3
  | .counted _ => 2
  | .removed _ => 2
  | .leaving _ => 1

/-- Do what comes next in a call.  Each of the deque, the length and the sequence number is changed by a step
of its own. -/
def advance (queue : BoundedQueue) (operation : Operation) : Stage → BoundedQueue × Stage
  | .entered =>
      match operation with
      | .enqueueTail now envelope =>
          ({ queue with deque := queue.deque.pushTail (envelope.stamped queue.nextSequence now) },
            .inserted (.arrived queue.nextSequence))
      | .enqueueHead envelope =>
          if queue.limit ≤ queue.length then
            (queue, .leaving (.returned (.error (.full queue.limit))))
          else
            ({ queue with deque := queue.deque.pushHead envelope }, .inserted (.returned (.ok ())))
      | .dequeueHead => removing queue.deque.popHead
      | .dequeueTail => removing queue.deque.popTail
      | .count => (queue, .leaving (.counted queue.length))
  | .inserted answer => ({ queue with length := queue.length + 1 }, .counted answer)
  | .counted answer =>
      ({ queue with nextSequence := queue.nextSequence + operation.isArrival.toNat }, .leaving answer)
  | .removed envelope =>
      ({ queue with length := queue.length - 1 }, .leaving (.taken (some envelope)))
  | .leaving answer => (queue, .leaving answer)
where
  /-- Take from the deque, if there is something. -/
  removing : Option Envelope × Deque Envelope → BoundedQueue × Stage
    | (none, _) => (queue, .leaving (.taken none))
    | (some envelope, rest) => ({ queue with deque := rest }, .removed envelope)

/-- What a call that has come so far has made of the queue that it found.  The whole call, done in one step,
says what is still missing. -/
inductive Midway (found : BoundedQueue) (operation : Operation) : Stage → BoundedQueue → Prop
  | entered : Midway found operation .entered found
  | inserted {answer : Answer} {deque : Deque Envelope}
      (whole : found.perform operation =
        (answer,
          ⟨deque, found.length + 1, found.nextSequence + operation.isArrival.toNat, found.limit⟩)) :
      Midway found operation (.inserted answer) { found with deque }
  | counted {answer : Answer} {deque : Deque Envelope}
      (whole : found.perform operation =
        (answer,
          ⟨deque, found.length + 1, found.nextSequence + operation.isArrival.toNat, found.limit⟩)) :
      Midway found operation (.counted answer) { found with deque, length := found.length + 1 }
  | removed {envelope : Envelope} {deque : Deque Envelope}
      (whole : found.perform operation =
        (.taken (some envelope), { found with deque, length := found.length - 1 })) :
      Midway found operation (.removed envelope) { found with deque }
  | leaving {answer : Answer} {left : BoundedQueue} (whole : found.perform operation = (answer, left)) :
      Midway found operation (.leaving answer) left

namespace Midway

variable {found queue : BoundedQueue} {operation : Operation} {stage : Stage}

/-- Taking what a pop has given: the whole call accounts for it by `took`. -/
theorem removing {popped : Option Envelope × Deque Envelope}
    (whole : found.perform operation = (.taken (found.took popped).1, (found.took popped).2)) :
    Midway found operation (advance.removing found popped).2 (advance.removing found popped).1 := by
  obtain ⟨_ | envelope, rest⟩ := popped
  · exact .leaving whole
  · exact .removed whole

/-- The first step of a call. -/
theorem advance_entered (found : BoundedQueue) (operation : Operation) :
    Midway found operation (found.advance operation .entered).2 (found.advance operation .entered).1 := by
  cases operation with
  | enqueueTail now envelope => exact .inserted rfl
  | enqueueHead envelope =>
      by_cases hroom : found.length < found.limit
      · rw [BoundedQueue.advance, if_neg (Nat.not_le_of_lt hroom)]
        exact .inserted (by rw [perform, enqueueHead_of_room hroom]; rfl)
      · have hfull := Nat.le_of_not_lt hroom
        rw [BoundedQueue.advance, if_pos hfull]
        exact .leaving (by rw [perform, enqueueHead_of_full hfull])
  | dequeueHead => exact .removing rfl
  | dequeueTail => exact .removing rfl
  | count => exact .leaving rfl

/-- Every step of a call brings it closer to the whole. -/
theorem advance (h : Midway found operation stage queue) :
    Midway found operation (queue.advance operation stage).2 (queue.advance operation stage).1 := by
  cases h with
  | entered => exact advance_entered found operation
  | inserted whole => exact .counted whole
  | counted whole => exact .leaving whole
  | removed whole => exact .leaving whole
  | leaving whole => exact .leaving whole

/-- What has been taken from the deque is still counted, so counting it off does not go below zero. -/
theorem length_pos {limit : Nat} {calls : List Call} (h : Midway found operation stage queue)
    (hfound : Explains limit calls found) {envelope : Envelope} (hstage : stage = .removed envelope) :
    0 < queue.length := by
  cases h with
  | removed whole =>
      show 0 < found.length
      have hanswer := (hfound.perform 0 operation).1
      rw [whole] at hanswer
      rw [hfound.length_eq, List.length_pos_iff]
      intro hempty
      cases operation <;> simp [answerAfter, hempty] at hanswer
  | entered => cases hstage
  | inserted => cases hstage
  | counted => cases hstage
  | leaving => cases hstage

end Midway

/-- Taking from the deque leaves less than a whole call to go. -/
theorem remaining_removing (queue : BoundedQueue) (popped : Option Envelope × Deque Envelope) :
    (advance.removing queue popped).2.remaining < Stage.entered.remaining := by
  obtain ⟨_ | envelope, rest⟩ := popped <;> simp [advance.removing, Stage.remaining]

/-- A call that cannot leave yet has fewer steps to go after the next one. -/
theorem remaining_advance (queue : BoundedQueue) (operation : Operation) {stage : Stage}
    (h : ∀ answer, stage ≠ .leaving answer) :
    (queue.advance operation stage).2.remaining < stage.remaining := by
  cases stage with
  | entered =>
      cases operation with
      | enqueueTail => simp [advance, Stage.remaining]
      | enqueueHead =>
          rw [advance]
          split <;> simp [Stage.remaining]
      | dequeueHead => exact remaining_removing queue queue.deque.popHead
      | dequeueTail => exact remaining_removing queue queue.deque.popTail
      | count => simp [advance, Stage.remaining]
  | inserted => simp [advance, Stage.remaining]
  | counted => simp [advance, Stage.remaining]
  | removed => simp [advance, Stage.remaining]
  | leaving answer => exact absurd rfl (h answer)

theorem remaining_le (stage : Stage) : stage.remaining ≤ 4 := by
  cases stage <;> simp [Stage.remaining]

/-! ## Threads -/

/-- The call of the thread that holds the lock. -/
structure Visit where
  thread : Nat
  operation : Operation
  stage : Stage

/-- A queue that threads share. -/
structure Shared where
  queue : BoundedQueue
  /-- who is inside, unless the lock is free -/
  visit : Option Visit
  /-- the finished calls, in the order in which the lock was given back -/
  calls : List Call

/-- What a thread does next: ask for the lock, or go on inside. -/
inductive Event where
  | enter (thread : Nat) (operation : Operation)
  | advance (thread : Nat)

namespace Shared

/-- A queue that no thread has used. -/
def start (limit : Nat) : Shared := ⟨ofLimit limit, none, []⟩

/-- The thread that is inside goes on, and in the end gives back the lock. -/
def proceed (shared : Shared) (visit : Visit) : Shared :=
  match visit.stage with
  | .leaving answer =>
      { shared with visit := none, calls := shared.calls ++ [⟨visit.thread, visit.operation, answer⟩] }
  | stage =>
      let (queue, stage) := shared.queue.advance visit.operation stage
      { shared with queue, visit := some { visit with stage } }

theorem proceed_leaving (shared : Shared) {visit : Visit} {answer : Answer}
    (h : visit.stage = .leaving answer) :
    shared.proceed visit =
      { shared with
        visit := none, calls := shared.calls ++ [⟨visit.thread, visit.operation, answer⟩] } := by
  rw [proceed, h]

theorem proceed_of_ne_leaving (shared : Shared) {visit : Visit}
    (h : ∀ answer, visit.stage ≠ .leaving answer) :
    shared.proceed visit =
      { shared with
        queue := (shared.queue.advance visit.operation visit.stage).1
        visit := some { visit with stage := (shared.queue.advance visit.operation visit.stage).2 } } := by
  rw [proceed]
  split
  · next answer hstage => exact absurd hstage (h answer)
  · rfl

/-- A thread that asks for the lock waits while another holds it, and one that is not inside cannot go on. -/
def step (shared : Shared) : Event → Shared
  | .enter thread operation =>
      match shared.visit with
      | none => { shared with visit := some ⟨thread, operation, .entered⟩ }
      | some _ => shared
  | .advance thread =>
      match shared.visit with
      | none => shared
      | some visit => if visit.thread = thread then shared.proceed visit else shared

/-- Some events, one after the other. -/
def run (shared : Shared) (events : List Event) : Shared := events.foldl step shared

/-- The finished calls were done one after the other, each in one step: they have left `last`, and if a
thread is inside, it has found that. -/
structure Sequential (limit : Nat) (shared : Shared) (last : BoundedQueue) : Prop where
  answers : runCalls perform (ofLimit limit) (shared.calls.map Call.operation) =
    (shared.calls.map Call.answer, last)
  calls : ∀ earlier call later, shared.calls = earlier ++ call :: later →
    ∃ before after, Call.Right limit earlier call before after
  explained : Explains limit shared.calls last
  free : shared.visit = none → shared.queue = last
  inside : ∀ visit, shared.visit = some visit →
    Midway last visit.operation visit.stage shared.queue

theorem sequential_start (limit : Nat) : Sequential limit (start limit) (ofLimit limit) where
  answers := rfl
  calls earlier call later h := by simp [start] at h
  explained := explains_ofLimit limit
  free _ := rfl
  inside visit h := by cases h

namespace Sequential

variable {limit : Nat} {shared : Shared} {last : BoundedQueue}

theorem enter (h : Sequential limit shared last) (hfree : shared.visit = none) (thread : Nat)
    (operation : Operation) :
    Sequential limit { shared with visit := some ⟨thread, operation, .entered⟩ } last where
  answers := h.answers
  calls := h.calls
  explained := h.explained
  free hvisit := by cases hvisit
  inside visit hvisit := by
    obtain rfl := Option.some.inj hvisit
    obtain rfl := h.free hfree
    exact .entered

/-- The thread inside goes on with its call. -/
theorem go_on (h : Sequential limit shared last) {visit : Visit} (hvisit : shared.visit = some visit) :
    Sequential limit
      { shared with
        queue := (shared.queue.advance visit.operation visit.stage).1
        visit := some { visit with stage := (shared.queue.advance visit.operation visit.stage).2 } }
      last where
  answers := h.answers
  calls := h.calls
  explained := h.explained
  free hnone := by cases hnone
  inside visit' hvisit' := by
    obtain rfl := Option.some.inj hvisit'
    exact (h.inside visit hvisit).advance

/-- The thread inside gives back the lock, and its call is one more that was done in one step. -/
theorem leave (h : Sequential limit shared last) {visit : Visit} (hvisit : shared.visit = some visit)
    {answer : Answer} (hstage : visit.stage = .leaving answer) :
    Sequential limit
      { shared with visit := none, calls := shared.calls ++ [⟨visit.thread, visit.operation, answer⟩] }
      shared.queue := by
  have hmidway := h.inside visit hvisit
  rw [hstage] at hmidway
  cases hmidway with
  | leaving whole =>
  have hright := h.explained.right visit.thread visit.operation
  rw [whole] at hright
  refine ⟨?_, fun earlier call later hcalls => ?_, hright.left, fun _ => rfl,
    fun _ hnone => by cases hnone⟩
  · rw [List.map_append, List.map_append, List.map_singleton, runCalls_concat, h.answers, whole]
    rfl
  · -- the new call is the last one, or the list was split before it
    rcases List.eq_nil_or_concat later with rfl | ⟨later, final, rfl⟩
    · obtain ⟨rfl, hcall⟩ := List.append_inj' hcalls rfl
      obtain rfl := List.singleton_inj.1 hcall
      exact ⟨_, _, hright⟩
    · rw [List.concat_eq_append, ← List.cons_append, ← List.append_assoc] at hcalls
      exact h.calls earlier call later (List.append_inj' hcalls rfl).1

/-- Whatever a thread does next, there is still an order in which the finished calls were done in one step
each. -/
theorem step (h : Sequential limit shared last) (event : Event) :
    ∃ last, Sequential limit (shared.step event) last := by
  cases event with
  | enter thread operation =>
      cases hvisit : shared.visit with
      | none =>
          rw [Shared.step, hvisit]
          exact ⟨last, h.enter hvisit thread operation⟩
      | some visit =>
          rw [Shared.step, hvisit]
          exact ⟨last, h⟩
  | advance thread =>
      cases hvisit : shared.visit with
      | none =>
          rw [Shared.step, hvisit]
          exact ⟨last, h⟩
      | some visit =>
          rw [Shared.step, hvisit]
          dsimp only
          split
          · by_cases hleaving : ∃ answer, visit.stage = .leaving answer
            · obtain ⟨answer, hstage⟩ := hleaving
              rw [proceed_leaving shared hstage]
              exact ⟨_, h.leave hvisit hstage⟩
            · rw [proceed_of_ne_leaving shared (not_exists.1 hleaving)]
              exact ⟨last, h.go_on hvisit⟩
          · exact ⟨last, h⟩

end Sequential

/-- After any events the finished calls were done one after the other, each in one step. -/
theorem sequential_run (limit : Nat) (events : List Event) :
    ∃ last, Sequential limit ((start limit).run events) last := by
  suffices h : ∀ shared last, Sequential limit shared last →
      ∃ last, Sequential limit (shared.run events) last from h _ _ (sequential_start limit)
  induction events with
  | nil => exact fun _ last h => ⟨last, h⟩
  | cons event events ih =>
      intro shared last h
      obtain ⟨next, hnext⟩ := h.step event
      exact ih _ next hnext

/-- A call that has finished takes no further steps. -/
theorem run_advance_of_free {shared : Shared} (h : shared.visit = none) (thread count : Nat) :
    shared.run (List.replicate count (.advance thread)) = shared := by
  induction count with
  | zero => rfl
  | succ count ih =>
      have hstep : shared.step (.advance thread) = shared := by rw [step, h]
      rw [List.replicate_succ, run, List.foldl_cons, hstep]
      exact ih

/-- A call is finished, and the lock given back, once its thread has done what remains. -/
theorem run_advance_finishes (count : Nat) {shared : Shared} {thread : Nat} {operation : Operation}
    {stage : Stage} (hvisit : shared.visit = some ⟨thread, operation, stage⟩)
    (hcount : stage.remaining ≤ count) :
    ∃ answer,
      (shared.run (List.replicate count (.advance thread))).visit = none ∧
      (shared.run (List.replicate count (.advance thread))).calls =
        shared.calls ++ [⟨thread, operation, answer⟩] := by
  induction count generalizing shared stage with
  | zero => cases stage <;> cases hcount
  | succ count ih =>
      have hstep : shared.step (.advance thread) = shared.proceed ⟨thread, operation, stage⟩ := by
        rw [step, hvisit]
        exact if_pos rfl
      rw [List.replicate_succ, run, List.foldl_cons, hstep, ← run]
      by_cases hleaving : ∃ answer, stage = .leaving answer
      · obtain ⟨answer, rfl⟩ := hleaving
        refine ⟨answer, ?_⟩
        rw [proceed_leaving shared rfl, run_advance_of_free rfl]
        exact ⟨rfl, rfl⟩
      · have hne := not_exists.1 hleaving
        rw [proceed_of_ne_leaving shared hne]
        have hless := remaining_advance shared.queue operation hne
        exact ih rfl (Nat.le_of_lt_succ (Nat.lt_of_lt_of_le hless hcount))

end Shared

/-- Threads that share a queue find it as if every call were one step, whatever order they run in.  Each
finished call has its answer from the calls before it: an arrival is admitted and has the number that comes
after those of the earlier arrivals; a return to the head succeeds exactly below the limit, and then does not
exceed it; what is taken is the envelope at that end; and a call that inserts or takes nothing changes
nothing.  While the lock is free, the contents are what the successful calls have left, the length counts
them, and the next sequence number follows those of the arrivals.  While it is not, an envelope that has been
taken is still counted, so that it can be counted off; and the thread inside finishes in at most four steps of
its own. -/
theorem admission_by_threads (limit : Nat) (events : List Event) :
    let shared := (Shared.start limit).run events
    (∃ last, runCalls perform (ofLimit limit) (shared.calls.map Call.operation) =
        (shared.calls.map Call.answer, last) ∧
      Explains limit shared.calls last ∧ (shared.visit = none → shared.queue = last)) ∧
    (∀ earlier call later, shared.calls = earlier ++ call :: later →
      ∃ before after, Call.Right limit earlier call before after) ∧
    (∀ visit envelope, shared.visit = some visit → visit.stage = .removed envelope →
      0 < shared.queue.length) ∧
    (∀ visit, shared.visit = some visit →
      ∃ answer,
        (shared.run (List.replicate 4 (.advance visit.thread))).visit = none ∧
        (shared.run (List.replicate 4 (.advance visit.thread))).calls =
          shared.calls ++ [⟨visit.thread, visit.operation, answer⟩]) := by
  intro shared
  obtain ⟨last, h⟩ := Shared.sequential_run limit events
  refine ⟨⟨last, h.answers, h.explained, h.free⟩, h.calls, ?_, ?_⟩
  · intro visit envelope hvisit hstage
    exact (h.inside visit hvisit).length_pos h.explained hstage
  · intro visit hvisit
    exact Shared.run_advance_finishes 4 hvisit (remaining_le visit.stage)

/-- A thread waits for another, which is halfway through an arrival; then its return to the head is refused,
and while it takes the only envelope back out, that is still counted. -/
theorem admission_by_threads_contended :
    let arrival : Operation := .enqueueTail 7 .blank
    let giveBack : Operation := .enqueueHead .blank
    let shared := (Shared.start 1).run
      [.enter 1 arrival, .advance 1, .enter 2 giveBack, .advance 2, .advance 1, .advance 1, .advance 1,
        .enter 2 giveBack, .advance 2, .advance 2, .enter 2 .dequeueTail, .advance 2]
    shared.calls = [⟨1, arrival, .arrived 1⟩, ⟨2, giveBack, .returned (.error (.full 1))⟩] ∧
      (∃ before after, Call.Right 1 [⟨1, arrival, .arrived 1⟩]
        ⟨2, giveBack, .returned (.error (.full 1))⟩ before after ∧ after = before) ∧
      shared.queue.deque.toList = [] ∧ 0 < shared.queue.length := by
  intro arrival giveBack shared
  obtain ⟨-, hcalls, hlength, -⟩ := admission_by_threads 1
    [.enter 1 arrival, .advance 1, .enter 2 giveBack, .advance 2, .advance 1, .advance 1, .advance 1,
      .enter 2 giveBack, .advance 2, .advance 2, .enter 2 .dequeueTail, .advance 2]
  obtain ⟨before, after, hright⟩ := hcalls [_] _ [] rfl
  exact ⟨rfl, ⟨before, after, hright, hright.unchanged rfl⟩, rfl, hlength _ _ rfl rfl⟩

end BoundedQueue

end DeviceBus
