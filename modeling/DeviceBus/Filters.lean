import DeviceBus.Message

/-!
# Subscription filters

A subscriber accepts a body when one of its filters is a prefix of it, byte by byte.  Without filters it
accepts nothing.
-/

namespace DeviceBus

/-- Whether the bytes `part` stand at the front of `whole` from position `index` of both on. -/
def agreesFrom (part whole : ByteArray) (index : Nat) : Bool :=
  if h : index < part.size then
    match whole[index]? with
    | none => false
    | some b => part[index] = b && agreesFrom part whole (index + 1)
  else true
  termination_by part.size - index

/-- Whether one string of bytes begins another. -/
def beginsWith (part whole : ByteArray) : Bool := agreesFrom part whole 0

/-- The filters of a subscriber, oldest first. -/
structure Filters where
  accepted : List ByteArray
  deriving DecidableEq

namespace Filters

/-- No filters. -/
def empty : Filters := ⟨[]⟩

instance : EmptyCollection Filters := ⟨empty⟩

instance : Inhabited Filters := ⟨empty⟩

/-- One more filter. -/
def add (filters : Filters) (filter : ByteArray) : Filters := ⟨filters.accepted ++ [filter]⟩

/-- How many filters there are. -/
def size (filters : Filters) : Nat := filters.accepted.length

/-- Whether a body is accepted. -/
def accepts (filters : Filters) (body : ByteArray) : Bool :=
  filters.accepted.any fun filter => beginsWith filter body

@[simp] theorem accepts_empty (body : ByteArray) : accepts ∅ body = false := rfl

/-- A new filter accepts more, and takes nothing away. -/
@[simp] theorem accepts_add (filters : Filters) (filter body : ByteArray) :
    (filters.add filter).accepts body = (filters.accepts body || beginsWith filter body) := by
  simp [accepts, add]

end Filters

end DeviceBus
