import DeviceBus.Topic
import DeviceBus.Text.Quoted

/-!
# Registered topics

A registry lists the topics that an endpoint publishes or subscribes to, in the order in which they were
registered, each with the handler bound to it, if any.  Entries are never removed, so an index stays
valid.  The registry knows handlers only as values of some type `η`; what they do is not its concern.

Looking up a head and a method gives the first entry with that method whose whole topic contains the
head anywhere.  The capacity is the number of entries that fit before the registry grows: it doubles
whenever it is full.
-/

namespace DeviceBus

/-- Whether one list of characters occurs inside another, as an unbroken run. -/
def occursIn (part : List Char) : List Char → Bool
  | [] => part.isEmpty
  | c :: rest => part.isPrefixOf (c :: rest) || occursIn part rest

/-- A list occurs in another exactly when it is an infix of it. -/
theorem occursIn_iff_isInfix (part whole : List Char) :
    occursIn part whole = true ↔ part <:+: whole := by
  induction whole with
  | nil => cases part <;> simp [occursIn]
  | cons c rest ih => simp [occursIn, ih, List.infix_cons_iff]

/-- One registered topic. -/
structure Registry.Entry (η : Type) where
  method : String
  topic : String
  handler : Option η

/-- The registered topics of an endpoint, oldest first, and the room they have. -/
structure Registry (η : Type) where
  entries : List (Registry.Entry η)
  capacity : Nat

namespace Registry

variable {η : Type}

/-- The registry without topics. -/
def empty : Registry η := ⟨[], 0⟩

instance : EmptyCollection (Registry η) := ⟨empty⟩

instance : Inhabited (Registry η) := ⟨empty⟩

/-- How many topics are registered. -/
def size (registry : Registry η) : Nat := registry.entries.length

/-- The capacity after making room for one more entry. -/
def grownCapacity (registry : Registry η) : Nat :=
  if registry.size = registry.capacity then max (registry.capacity * 2) 1 else registry.capacity

/-- The registry with one more entry at the end. -/
def push (registry : Registry η) (head method : String) (handler : Option η) : Registry η :=
  ⟨registry.entries ++ [⟨method, Topic.compose head method, handler⟩], registry.grownCapacity⟩

/-- Register a topic.  A pair that may not be registered changes nothing; otherwise the result is the
index of the new entry. -/
def add (registry : Registry η) (head method : String) (handler : Option η) :
    Except BusError Nat × Registry η :=
  match Topic.validate head method with
  | .error error => (.error error, registry)
  | .ok () => (.ok registry.size, registry.push head method handler)

/-- Whether an entry answers to a head and a method. -/
def Entry.answersTo (head method : String) (entry : Entry η) : Bool :=
  entry.method = method && occursIn head.toList entry.topic.toList

/-- The index of the first entry that answers to a head and a method. -/
def find? (registry : Registry η) (head method : String) : Option Nat :=
  registry.entries.findIdx? (Entry.answersTo head method)

/-- The entry at an index. -/
def entry? (registry : Registry η) (index : Nat) : Option (Entry η) := registry.entries[index]?

/-- The handler bound to the entry at an index. -/
def handler? (registry : Registry η) (index : Nat) : Option η :=
  (registry.entry? index).bind Entry.handler

/-- The registered topics, oldest first. -/
def topics (registry : Registry η) : List String := registry.entries.map Entry.topic

/-- An entry as a description. -/
def Entry.describe (entry : Entry η) : String :=
  "TopicEntry \x7b method: " ++ Text.quote entry.method ++ ", topic: " ++ Text.quote entry.topic
    ++ ", has_handler: " ++ toString entry.handler.isSome ++ " \x7d"

/-- A registry as a description. -/
def describe (registry : Registry η) : String :=
  "TopicRegistry \x7b entries: [" ++ ", ".intercalate (registry.entries.map Entry.describe)
    ++ "], capacity: " ++ toString registry.capacity ++ " \x7d"

end Registry

end DeviceBus
