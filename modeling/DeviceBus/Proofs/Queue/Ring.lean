import DeviceBus.Proofs.Bytes
import DeviceBus.Proofs.Runs
import DeviceBus.Queue.Ring

/-!
# Rings are queues

A ring of slots holds a queue of elements.  The queue lies in the used slots, from the read index on and
round the end of the storage, and the element taken last lies in a slot of its own.  Old bytes and old
lengths in the other slots do not matter.

* `Fifo`: the queue itself, a list of elements with the element taken last.
* `Ring.Holds`: how the parts of a ring hold a queue.
* `Ring.holds_create`, `Ring.Holds.perform`: a new ring holds the empty queue, and every call keeps that
  the ring holds what the queue has become.
* `Ring.InBounds`, `Ring.Holds.inBounds`: no access of such a ring is outside its storage.
* `Ring.refines_bounded_fifo`: all this after any calls.
-/

namespace DeviceBus

/-! ## Queues of elements -/

/-- The elements that wait, the oldest first, and the element taken last. -/
structure Fifo where
  waiting : List ByteArray := []
  last : ByteArray := .empty

namespace Fifo

/-- What can be done with a queue, or with the ring that holds it. -/
inductive Operation where
  | put (data : ByteArray)
  | get
  /-- look at the element taken last -/
  | withConsumed

/-- What an operation answers. -/
inductive Answer where
  | put (result : Except QueueError Unit)
  | got (found : Bool)
  | shown (element : ByteArray)

/-- Add an element behind the others.  One that is longer than a slot is refused first, and then any
element when as many wait as there are slots. -/
def put (slotCount slotSize : Nat) (fifo : Fifo) (data : ByteArray) : Except QueueError Unit × Fifo :=
  if slotSize < data.size then (.error (.slotOverflow data.size slotSize), fifo)
  else if fifo.waiting.length = slotCount then (.error (.full slotCount), fifo)
  else (.ok (), { fifo with waiting := fifo.waiting ++ [data] })

/-- Take the oldest element, if there is one. -/
def get (fifo : Fifo) : Bool × Fifo :=
  match fifo.waiting with
  | [] => (false, fifo)
  | oldest :: rest => (true, ⟨rest, oldest⟩)

/-- Carry out an operation on a queue for which there are so many slots of some size. -/
def perform (slotCount slotSize : Nat) (fifo : Fifo) : Operation → Answer × Fifo
  | .put data =>
      let (result, fifo) := fifo.put slotCount slotSize data
      (.put result, fifo)
  | .get =>
      let (found, fifo) := fifo.get
      (.got found, fifo)
  | .withConsumed => (.shown fifo.last, fifo)

end Fifo

/-! ## Slots -/

namespace Slot

/-- A slot of some size, of whose bytes some count. -/
structure Sized (capacity : Nat) (slot : Slot) : Prop where
  size : slot.buffer.size = capacity
  length : slot.length ≤ capacity

theorem sized_ofCapacity (capacity : Nat) : (ofCapacity capacity).Sized capacity where
  size := by simp [ofCapacity, ByteArray.size]
  length := Nat.zero_le capacity

/-- Filling a slot with no more bytes than it has keeps its size. -/
theorem sized_fill {capacity : Nat} {slot : Slot} (h : slot.Sized capacity) {data : ByteArray}
    (hdata : data.size ≤ capacity) : (slot.fill data).Sized capacity where
  size := by
    have hsize := h.size
    rw [← length_bytesOf] at hsize hdata ⊢
    simp only [fill, bytesOf_append, bytesOf_extract_size, List.length_append, List.length_drop]
    rw [hsize, ← length_bytesOf]
    omega
  length := hdata

/-- The bytes that count are no more than the slot has. -/
theorem size_bytes_le {capacity : Nat} {slot : Slot} (h : slot.Sized capacity) :
    slot.bytes.size ≤ capacity := by
  rw [← length_bytesOf, bytes, bytesOf_extract_zero, List.length_take]
  exact Nat.le_trans (Nat.min_le_left _ _) h.length

@[simp] theorem bytes_ofCapacity (capacity : Nat) : (ofCapacity capacity).bytes = .empty := by
  apply bytesOf_injective
  rw [bytes, bytesOf_extract_zero]
  rfl

end Slot

namespace Ring

/-- Carry out an operation. -/
def perform (ring : Ring) : Fifo.Operation → Fifo.Answer × Ring
  | .put data =>
      let (result, ring) := ring.put data
      (.put result, ring)
  | .get =>
      let (found, ring) := ring.get
      (.got found, ring)
  | .withConsumed => (.shown ring.consumed, ring)

/-! ## Going round -/

/-- The slot at some distance behind another one. -/
theorem wrap_eq {count start offset : Nat} (hstart : start < count) (hoffset : offset ≤ count) :
    (start + offset) % count = if start + offset < count then start + offset
      else start + offset - count := by
  split
  · exact Nat.mod_eq_of_lt ‹_›
  · rw [Nat.mod_eq_sub_mod (by omega), Nat.mod_eq_of_lt (by omega)]

/-- Different distances within one round lead to different slots. -/
theorem wrap_ne {count start first second : Nat} (hstart : start < count) (hfirst : first < second)
    (hsecond : second < count) : (start + first) % count ≠ (start + second) % count := by
  rw [wrap_eq hstart (by omega), wrap_eq hstart (by omega)]
  split <;> split <;> omega

/-! ## The queue in a ring -/

/-- How a ring with so many slots of some size holds a queue. -/
structure Holds (slotCount slotSize : Nat) (ring : Ring) (fifo : Fifo) : Prop where
  count : ring.slotCount = slotCount
  size : ring.slotSize = slotSize
  slots : ∀ (index : Nat) (slot : Slot), ring.slots[index]? = some slot → slot.Sized slotSize
  consume : ring.consume.Sized slotSize
  /-- the number of the used slots is that of the elements, and the others are free -/
  used : ring.usedCount = fifo.waiting.length
  counts : ring.freeCount + ring.usedCount = slotCount
  read : ring.readIndex < slotCount
  /-- the slot to be written next is the first one behind the used slots -/
  write : ring.writeIndex = (ring.readIndex + ring.usedCount) % slotCount
  /-- the used slots hold the elements in their order -/
  elements : ∀ offset < ring.usedCount,
    (ring.slots[(ring.readIndex + offset) % slotCount]?).map Slot.bytes = fifo.waiting[offset]?
  last : ring.consumed = fifo.last

/-- A new ring holds the queue without elements. -/
theorem holds_create {slotCount slotSize : Nat} (hcount : 0 < slotCount) (hsize : 0 < slotSize) :
    ∃ ring, create slotCount slotSize = .ok ring ∧ Holds slotCount slotSize ring {} := by
  refine ⟨_, by rw [create, if_neg (by omega), if_neg (by omega)], ?_⟩
  exact {
    count := Array.size_replicate
    size := rfl
    slots := by
      intro index slot hslot
      obtain ⟨-, rfl⟩ := by simpa [Array.getElem?_replicate] using hslot
      exact Slot.sized_ofCapacity slotSize
    consume := Slot.sized_ofCapacity slotSize
    used := rfl
    counts := Nat.add_zero slotCount
    read := hcount
    write := (Nat.zero_mod slotCount).symm
    elements := fun offset hoffset => absurd hoffset (Nat.not_lt_zero offset)
    last := Slot.bytes_ofCapacity slotSize }

namespace Holds

variable {slotCount slotSize : Nat} {ring : Ring} {fifo : Fifo}

theorem write_lt (h : Holds slotCount slotSize ring fifo) : ring.writeIndex < slotCount := by
  rw [h.write]
  exact Nat.mod_lt _ (Nat.zero_lt_of_lt h.read)

/-- Every index below the number of slots is that of a slot. -/
theorem exists_slot (h : Holds slotCount slotSize ring fifo) {index : Nat} (hindex : index < slotCount) :
    ∃ slot, ring.slots[index]? = some slot ∧ slot.Sized slotSize := by
  have hinside : index < ring.slots.size := by
    rw [← h.count] at hindex
    exact hindex
  have hslot := Array.getElem?_eq_getElem hinside
  exact ⟨_, hslot, h.slots index _ hslot⟩

/-- An element is refused by the ring exactly if the queue refuses it, and with the same error.  Otherwise
it is written behind the others. -/
theorem put (h : Holds slotCount slotSize ring fifo) (data : ByteArray) :
    (ring.put data).1 = (fifo.put slotCount slotSize data).1 ∧
      Holds slotCount slotSize (ring.put data).2 (fifo.put slotCount slotSize data).2 := by
  have hcounts := h.counts
  have hused := h.used
  unfold Ring.put Fifo.put
  rw [h.size, h.count]
  by_cases hlong : slotSize < data.size
  · rw [if_pos hlong, if_pos hlong]
    exact ⟨rfl, h⟩
  · rw [if_neg hlong, if_neg hlong]
    by_cases hfull : ring.freeCount = 0
    · rw [if_pos hfull, if_pos (by omega)]
      exact ⟨rfl, h⟩
    · rw [if_neg hfull, if_neg (by omega)]
      refine ⟨rfl, ?_⟩
      exact {
        count := by
          rw [← h.count]
          exact Array.size_modify
        size := rfl
        slots := by
          intro index slot hslot
          rw [Array.getElem?_modify] at hslot
          split at hslot
          · obtain ⟨old, hold, rfl⟩ := Option.map_eq_some_iff.1 hslot
            exact Slot.sized_fill (h.slots index old hold) (Nat.le_of_not_lt hlong)
          · exact h.slots index slot hslot
        consume := h.consume
        used := by simp [hused]
        counts := by
          show ring.freeCount - 1 + (ring.usedCount + 1) = slotCount
          omega
        read := h.read
        write := by
          show (ring.writeIndex + 1) % slotCount = (ring.readIndex + (ring.usedCount + 1)) % slotCount
          rw [h.write, Nat.mod_add_mod, Nat.add_assoc]
        elements := by
          intro offset hoffset
          have hinside : offset ≤ ring.usedCount := Nat.le_of_lt_succ hoffset
          dsimp only
          rw [Array.getElem?_modify]
          rcases Nat.lt_or_eq_of_le hinside with hold | rfl
          -- the slots that were used before are not written
          · have hne : ring.writeIndex ≠ (ring.readIndex + offset) % slotCount := by
              rw [h.write]
              exact (wrap_ne h.read hold (by omega)).symm
            rw [if_neg hne, h.elements offset hold, List.getElem?_append_left (by omega)]
          · obtain ⟨slot, hslot, -⟩ := h.exists_slot h.write_lt
            rw [← h.write, if_pos rfl, hslot]
            simp [hused]
        last := h.last }

/-- The ring has nothing to give exactly if the queue is empty.  Otherwise it gives the oldest element. -/
theorem get (h : Holds slotCount slotSize ring fifo) :
    ring.get.1 = fifo.get.1 ∧ Holds slotCount slotSize ring.get.2 fifo.get.2 := by
  have hcounts := h.counts
  have hused := h.used
  obtain ⟨waiting, last⟩ := fifo
  cases waiting with
  | nil =>
      have hnone : ring.usedCount = 0 := hused
      unfold Ring.get Fifo.get
      rw [if_pos hnone]
      exact ⟨rfl, h⟩
  | cons oldest rest =>
      rw [List.length_cons] at hused
      have hfirst := h.elements 0 (by omega)
      rw [Nat.add_zero, Nat.mod_eq_of_lt h.read] at hfirst
      obtain ⟨slot, hslot, hbytes⟩ := Option.map_eq_some_iff.1 hfirst
      unfold Ring.get Fifo.get
      rw [if_neg (by omega), hslot, h.count]
      refine ⟨rfl, ?_⟩
      exact {
        count := h.count
        size := h.size
        slots := h.slots
        consume := Slot.sized_fill h.consume (Slot.size_bytes_le (h.slots _ _ hslot))
        used := by
          show ring.usedCount - 1 = rest.length
          omega
        counts := by
          show ring.freeCount + 1 + (ring.usedCount - 1) = slotCount
          omega
        read := Nat.mod_lt _ (Nat.zero_lt_of_lt h.read)
        write := by
          show ring.writeIndex = ((ring.readIndex + 1) % slotCount + (ring.usedCount - 1)) % slotCount
          rw [h.write, Nat.mod_add_mod]
          congr 1
          omega
        elements := by
          intro offset hoffset
          have hinside : offset + 1 < ring.usedCount := by
            have hless : offset < ring.usedCount - 1 := hoffset
            omega
          dsimp only
          -- the first of the remaining slots is the second one of before
          rw [Nat.mod_add_mod, Nat.add_assoc, Nat.add_comm 1 offset, h.elements _ hinside,
            List.getElem?_cons_succ]
        last := by
          show (ring.consume.fill slot.bytes).bytes = oldest
          rw [Slot.bytes_fill, hbytes] }

/-- Every operation has the same answer from the ring and from the queue that it holds, and afterwards the
ring holds what the queue has become. -/
theorem perform (h : Holds slotCount slotSize ring fifo) (operation : Fifo.Operation) :
    (ring.perform operation).1 = (fifo.perform slotCount slotSize operation).1 ∧
      Holds slotCount slotSize (ring.perform operation).2 (fifo.perform slotCount slotSize operation).2 := by
  cases operation with
  | put data => exact ⟨congrArg Fifo.Answer.put (h.put data).1, (h.put data).2⟩
  | get => exact ⟨congrArg Fifo.Answer.got h.get.1, h.get.2⟩
  | withConsumed => exact ⟨congrArg Fifo.Answer.shown h.last, h⟩

end Holds

/-! ## Accesses -/

/-- Every access that an operation makes is inside the storage: the slot that it names is there, what is
copied fits into the slot that it is copied to, and the bytes that count are among those of their slot. -/
structure InBounds (ring : Ring) : Prop where
  put : ∀ data, (ring.put data).1 = .ok () →
    ∃ slot, ring.slots[ring.writeIndex]? = some slot ∧ data.size ≤ slot.buffer.size
  get : ring.usedCount ≠ 0 →
    ∃ slot, ring.slots[ring.readIndex]? = some slot ∧ slot.length ≤ slot.buffer.size ∧
      slot.bytes.size ≤ ring.consume.buffer.size
  withConsumed : ring.consume.length ≤ ring.consume.buffer.size

theorem Holds.inBounds {slotCount slotSize : Nat} {ring : Ring} {fifo : Fifo}
    (h : Holds slotCount slotSize ring fifo) : ring.InBounds where
  put := by
    intro data hput
    obtain ⟨slot, hslot, hsized⟩ := h.exists_slot h.write_lt
    refine ⟨slot, hslot, ?_⟩
    rw [hsized.size, ← h.size]
    unfold Ring.put at hput
    split at hput
    · cases hput
    · exact Nat.le_of_not_lt ‹_›
  get := by
    intro _
    obtain ⟨slot, hslot, hsized⟩ := h.exists_slot h.read
    refine ⟨slot, hslot, ?_, ?_⟩
    · rw [hsized.size]
      exact hsized.length
    · rw [h.consume.size]
      exact Slot.size_bytes_le hsized
  withConsumed := by
    rw [h.consume.size]
    exact h.consume.length

/-- An element that is refused leaves the ring as it was. -/
theorem put_eq_of_error {ring : Ring} {data : ByteArray} {error : QueueError}
    (h : (ring.put data).1 = .error error) : (ring.put data).2 = ring := by
  unfold put at h ⊢
  split at h
  · rw [if_pos ‹_›]
  · rw [if_neg ‹_›]
    split at h
    · rw [if_pos ‹_›]
    · cases h

/-- A ring that has nothing to give stays as it was. -/
theorem get_eq_of_false {ring : Ring} (h : ring.get.1 = false) : ring.get.2 = ring := by
  unfold get at h ⊢
  split at h
  · rw [if_pos ‹_›]
  · rw [if_neg ‹_›]
    split at h
    · simp [*]
    · cases h

/-- **A ring is a bounded queue.**  A ring of at least one slot of at least one byte can be made.  After any
calls all answers were those of a queue that takes elements of the size of a slot, as many as there are
slots: an element that is too long is refused as that, and then any element when the queue is full, and
otherwise added at the end; the oldest element is given, if there is one; and the element taken last is
shown.  The ring then holds the elements of the queue in the used slots from the read index on, the counts
and the indices agree with them, and no access leaves the storage.  What is refused, or finds nothing,
changes nothing. -/
theorem refines_bounded_fifo {slotCount slotSize : Nat} (hcount : 0 < slotCount) (hsize : 0 < slotSize)
    (operations : List Fifo.Operation) :
    ∃ start, create slotCount slotSize = .ok start ∧
      let final := runCalls perform start operations
      let expected := runCalls (Fifo.perform slotCount slotSize) {} operations
      final.1 = expected.1 ∧
      Holds slotCount slotSize final.2 expected.2 ∧
      InBounds final.2 ∧
      (∀ data error, (final.2.put data).1 = .error error → (final.2.put data).2 = final.2) ∧
      (final.2.get.1 = false → final.2.get.2 = final.2) := by
  obtain ⟨start, hcreate, hstart⟩ := holds_create hcount hsize
  refine ⟨start, hcreate, ?_⟩
  intro final expected
  obtain ⟨hanswers, hholds⟩ :=
    runCalls_related (fun _ _ h operation => h.perform operation) hstart operations
  exact ⟨hanswers, hholds, hholds.inBounds, fun _ _ => put_eq_of_error, get_eq_of_false⟩

/-- Two slots of three bytes are gone round more than once; a long element and a third one are refused, and
a short element leaves nothing of the longer one whose slot it takes. -/
theorem refines_bounded_fifo_round :
    ∃ start, create 2 3 = .ok start ∧
      (runCalls perform start
        [.put ⟨#[1, 2, 3]⟩, .put ⟨#[1, 2, 3, 4]⟩, .put ⟨#[4]⟩, .put ⟨#[5]⟩, .get, .put ⟨#[6]⟩, .get, .get,
          .get, .withConsumed]).1 =
        [.put (.ok ()), .put (.error (.slotOverflow 4 3)), .put (.ok ()), .put (.error (.full 2)),
          .got true, .put (.ok ()), .got true, .got true, .got false, .shown ⟨#[6]⟩] := by
  obtain ⟨start, hcreate, hanswers, -⟩ := refines_bounded_fifo (by decide : 0 < 2) (by decide : 0 < 3)
    [.put ⟨#[1, 2, 3]⟩, .put ⟨#[1, 2, 3, 4]⟩, .put ⟨#[4]⟩, .put ⟨#[5]⟩, .get, .put ⟨#[6]⟩, .get, .get,
      .get, .withConsumed]
  exact ⟨start, hcreate, hanswers.trans rfl⟩

end Ring

end DeviceBus
