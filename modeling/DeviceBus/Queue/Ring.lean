import DeviceBus.Queue.Error

/-!
# Rings of fixed slots

All storage of a ring exists from the start: a number of slots of one size, and one more slot that holds
the element taken last.  Writing fills the slot at the write index and reading copies the slot at the
read index; both indices go round.  A slot keeps old bytes behind the ones that count.
-/

namespace DeviceBus

/-- Storage of fixed size with the number of bytes that count. -/
structure Slot where
  buffer : ByteArray
  length : Nat

namespace Slot

/-- A slot that holds no element. -/
def ofCapacity (capacity : Nat) : Slot := ⟨⟨Array.replicate capacity 0⟩, 0⟩

/-- Overwrite the front of a slot. -/
def fill (slot : Slot) (data : ByteArray) : Slot :=
  ⟨data ++ slot.buffer.extract data.size slot.buffer.size, data.size⟩

/-- The element that a slot holds. -/
def bytes (slot : Slot) : ByteArray := slot.buffer.extract 0 slot.length

/-- A filled slot holds what it was filled with, whatever older bytes stand behind it. -/
@[simp] theorem bytes_fill (slot : Slot) (data : ByteArray) : (slot.fill data).bytes = data := by
  simp [bytes, fill, ByteArray.extract_append]

end Slot

/-- A ring of slots. -/
structure Ring where
  slots : Array Slot
  /-- the slot of the element taken last -/
  consume : Slot
  slotSize : Nat
  freeCount : Nat
  usedCount : Nat
  readIndex : Nat
  writeIndex : Nat

namespace Ring

/-- How many slots a ring has. -/
def slotCount (ring : Ring) : Nat := ring.slots.size

/-- A ring without elements. -/
def create (slotCount slotSize : Nat) : Except QueueError Ring :=
  if slotCount = 0 then .error (.invalidConfig "ring queue needs at least one slot")
  else if slotSize = 0 then .error (.invalidConfig "ring queue slot size must be non-zero")
  else
    .ok
      { slots := Array.replicate slotCount (Slot.ofCapacity slotSize)
        consume := Slot.ofCapacity slotSize
        slotSize
        freeCount := slotCount
        usedCount := 0
        readIndex := 0
        writeIndex := 0 }

/-- Write an element.  One that does not fit into a slot is refused first, and then any element when no
slot is free. -/
def put (ring : Ring) (data : ByteArray) : Except QueueError Unit × Ring :=
  if ring.slotSize < data.size then (.error (.slotOverflow data.size ring.slotSize), ring)
  else if ring.freeCount = 0 then (.error (.full ring.slotCount), ring)
  else
    (.ok (),
      { ring with
        slots := ring.slots.modify ring.writeIndex fun slot => slot.fill data
        writeIndex := (ring.writeIndex + 1) % ring.slotCount
        freeCount := ring.freeCount - 1
        usedCount := ring.usedCount + 1 })

/-- Copy the oldest element to the consume slot; false, and no change, if there is none. -/
def get (ring : Ring) : Bool × Ring :=
  if ring.usedCount = 0 then (false, ring)
  else
    match ring.slots[ring.readIndex]? with
    | none => (false, ring)
    | some slot =>
        (true,
          { ring with
            consume := ring.consume.fill slot.bytes
            readIndex := (ring.readIndex + 1) % ring.slotCount
            usedCount := ring.usedCount - 1
            freeCount := ring.freeCount + 1 })

/-- The element taken last. -/
def consumed (ring : Ring) : ByteArray := ring.consume.bytes

end Ring

end DeviceBus
