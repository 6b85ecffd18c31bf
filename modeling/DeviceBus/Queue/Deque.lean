/-!
# Double-ended queues

The elements of a queue from head to tail.  Each operation is one indivisible step; any interleaving of
calls is a sequence of them.
-/

namespace DeviceBus

/-- A queue that can be used at both ends. -/
structure Deque (α : Type) where
  /-- the elements, the head first -/
  toList : List α
  deriving DecidableEq

namespace Deque

variable {α : Type}

/-- The queue without elements. -/
def empty : Deque α := ⟨[]⟩

instance : EmptyCollection (Deque α) := ⟨empty⟩

instance : Inhabited (Deque α) := ⟨empty⟩

/-- Insert at the head. -/
def pushHead (queue : Deque α) (item : α) : Deque α := ⟨item :: queue.toList⟩

/-- Insert at the tail. -/
def pushTail (queue : Deque α) (item : α) : Deque α := ⟨queue.toList ++ [item]⟩

/-- Take the element at the head, if there is one. -/
def popHead (queue : Deque α) : Option α × Deque α :=
  match queue.toList with
  | [] => (none, queue)
  | item :: rest => (some item, ⟨rest⟩)

/-- Take the element at the tail, if there is one. -/
def popTail (queue : Deque α) : Option α × Deque α :=
  (queue.toList.getLast?, ⟨queue.toList.dropLast⟩)

/-- How many elements are queued. -/
def size (queue : Deque α) : Nat := queue.toList.length

/-- Whether nothing is queued. -/
def isEmpty (queue : Deque α) : Bool := queue.toList.isEmpty

@[simp] theorem toList_empty : (∅ : Deque α).toList = [] := rfl

@[simp] theorem toList_pushHead (queue : Deque α) (item : α) :
    (queue.pushHead item).toList = item :: queue.toList := rfl

@[simp] theorem toList_pushTail (queue : Deque α) (item : α) :
    (queue.pushTail item).toList = queue.toList ++ [item] := rfl

@[simp] theorem fst_popHead (queue : Deque α) : queue.popHead.1 = queue.toList.head? := by
  unfold popHead
  split <;> simp [*]

@[simp] theorem toList_popHead (queue : Deque α) :
    queue.popHead.2.toList = queue.toList.tail := by
  unfold popHead
  split <;> simp [*]

@[simp] theorem fst_popTail (queue : Deque α) : queue.popTail.1 = queue.toList.getLast? := rfl

@[simp] theorem toList_popTail (queue : Deque α) :
    queue.popTail.2.toList = queue.toList.dropLast := rfl

end Deque

end DeviceBus
