import DeviceBus.Queue.Deque
import DeviceBus.Queue.Envelope
import DeviceBus.Queue.Error

/-!
# Queues that bound insertion at the head

Arrivals go to the tail and are always admitted; each is stamped with the next sequence number and the
time.  Insertion at the head puts an envelope back in front of newer ones as it is, and is refused once
the queue holds as many envelopes as its limit.  The admission record counts the envelopes beside the
queue that holds them.
-/

namespace DeviceBus

/-- A queue of envelopes with its admission record. -/
structure BoundedQueue where
  /-- the queued envelopes -/
  deque : Deque Envelope
  /-- the number of envelopes admitted and not yet taken -/
  length : Nat
  /-- the sequence number of the next arrival -/
  nextSequence : Nat
  /-- the length from which insertion at the head is refused -/
  limit : Nat

namespace BoundedQueue

/-- The limit when none is given. -/
def defaultLimit : Nat := 50

/-- The queue without envelopes. -/
def ofLimit (limit : Nat) : BoundedQueue := ⟨∅, 0, 1, limit⟩

/-- Admit an arrival at the tail; the result is its sequence number. -/
def enqueueTail (queue : BoundedQueue) (now : Int) (envelope : Envelope) : Nat × BoundedQueue :=
  (queue.nextSequence,
    { queue with
      deque := queue.deque.pushTail (envelope.stamped queue.nextSequence now)
      length := queue.length + 1
      nextSequence := queue.nextSequence + 1 })

/-- Put an envelope back at the head, unless the queue is full. -/
def enqueueHead (queue : BoundedQueue) (envelope : Envelope) :
    Except QueueError Unit × BoundedQueue :=
  if queue.limit ≤ queue.length then (.error (.full queue.limit), queue)
  else
    (.ok (), { queue with deque := queue.deque.pushHead envelope, length := queue.length + 1 })

/-- Account for a taken envelope. -/
def took (queue : BoundedQueue) : Option Envelope × Deque Envelope → Option Envelope × BoundedQueue
  | (none, _) => (none, queue)
  | (some envelope, rest) => (some envelope, { queue with deque := rest, length := queue.length - 1 })

/-- Take the envelope at the head. -/
def dequeueHead (queue : BoundedQueue) : Option Envelope × BoundedQueue :=
  queue.took queue.deque.popHead

/-- Take the envelope at the tail. -/
def dequeueTail (queue : BoundedQueue) : Option Envelope × BoundedQueue :=
  queue.took queue.deque.popTail

end BoundedQueue

end DeviceBus
