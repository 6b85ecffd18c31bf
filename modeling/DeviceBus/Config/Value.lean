import DeviceBus.Number.Binary64
import DeviceBus.Text.Quoted
import DeviceBus.Text.Case

/-!
# Values of settings

A setting's value is a scalar, a list or a table; each knows where it came from.  Tables keep their
fields in the order in which they were first set.
-/

namespace DeviceBus.Config

/-- A value without parts. -/
inductive Scalar where
  | nil
  | boolean (value : Bool)
  | integer (value : Int)
  | float (value : Number.Binary64)
  | text (value : String)
  deriving DecidableEq, Repr

/-- A value and its origin; what was put together from several origins has none. -/
inductive Value where
  | scalar (origin : Option String) (value : Scalar)
  | list (origin : Option String) (items : List Value)
  | table (origin : Option String) (fields : List (String × Value))
  deriving Repr

namespace Value

/-- The table without fields. -/
def emptyTable : Value := .table none []

/-- The value that says nothing. -/
def absent : Value := .scalar none .nil

instance : Inhabited Value := ⟨absent⟩

/-- Where a value came from. -/
def origin : Value → Option String
  | .scalar origin _ => origin
  | .list origin _ => origin
  | .table origin _ => origin

/-- A value in messages about its kind. -/
def describe : Value → String
  | .scalar _ .nil => "unit value"
  | .scalar _ (.boolean value) => "boolean `" ++ toString value ++ "`"
  | .scalar _ (.integer value) => "integer `" ++ toString value ++ "`"
  | .scalar _ (.float value) => "floating point `" ++ value.toPointedText ++ "`"
  | .scalar _ (.text value) => "string " ++ Text.quote value
  | .list _ _ => "sequence"
  | .table _ _ => "map"

/-- Set a field. -/
def putField (key : String) (value : Value) : List (String × Value) → List (String × Value)
  | [] => [(key, value)]
  | (k, v) :: rest => if k = key then (key, value) :: rest else (k, v) :: putField key value rest

/-- The origin and the fields of a table; what is no table gives way to an empty one. -/
def asTable : Value → Option String × List (String × Value)
  | .table origin fields => (origin, fields)
  | _ => (none, [])

/-- The origin and the items of a list; what is no list gives way to an empty one. -/
def asList : Value → Option String × List Value
  | .list origin items => (origin, items)
  | _ => (none, [])

mutual

/-- Set a field of a table, whose key counts in lower case.  A table is merged into the one that is
there, field by field; any other value replaces what is there.  A target that is no table gives way to an
empty one first. -/
def mergeField (key : String) : (incoming target : Value) → Value
  | .table _ fields, target =>
      let (origin, present) := target.asTable
      let child := (present.lookup (Text.lower key)).getD emptyTable
      .table origin (putField (Text.lower key) (mergeFields fields child) present)
  | .list o items, target =>
      let (origin, present) := target.asTable
      .table origin (putField (Text.lower key) (.list o items) present)
  | .scalar o value, target =>
      let (origin, present) := target.asTable
      .table origin (putField (Text.lower key) (.scalar o value) present)

/-- Set the fields of a table one after the other. -/
def mergeFields : List (String × Value) → (target : Value) → Value
  | [], target => target
  | (key, value) :: rest, target => mergeFields rest (mergeField key value target)

end

end Value

end DeviceBus.Config
