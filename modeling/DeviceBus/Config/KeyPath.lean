import DeviceBus.Config.Value

/-!
# Paths to settings

A name such as `queue.max_length` or `endpoints[0]` is a path: names set apart by dots, and positions in
brackets.  Setting a value at a path makes the tables and lists on the way where they are missing.
-/

namespace DeviceBus.Config

/-- One step of a path. -/
inductive KeyStep where
  | child (name : String)
  | position (index : Int)
  deriving DecidableEq, Repr

/-- The characters of names. -/
def isKeyChar (c : Char) : Bool :=
  ('a' ≤ c && c ≤ 'z') || ('A' ≤ c && c ≤ 'Z') || ('0' ≤ c && c ≤ '9')
    || c = ' ' || c = '_' || c = '-'

/-- The steps after the first name of a path. -/
def keySteps? : Nat → List Char → Option (List KeyStep)
  | _, [] => some []
  | 0, _ => none
  | fuel + 1, '.' :: rest =>
      let name := rest.takeWhile isKeyChar
      if name = [] then none
      else (keySteps? fuel (rest.dropWhile isKeyChar)).map (.child (String.ofList name) :: ·)
  | fuel + 1, '[' :: rest =>
      let inside := rest.takeWhile (· ≠ ']')
      match rest.dropWhile (· ≠ ']'), inside.head? with
      | ']' :: after, some first =>
          if first = '+' then none
          else do
            let index ← Number.signed64? 10 inside
            let steps ← keySteps? fuel after
            some (.position index :: steps)
      | _, _ => none
  | _, _ => none

/-- Read a path; a name that is none stands for itself as a whole. -/
def keyPath (name : String) : List KeyStep :=
  let cs := name.toList
  let first := cs.takeWhile isKeyChar
  match keySteps? (cs.length + 1) (cs.dropWhile isKeyChar) with
  | some steps => if first = [] then [.child name] else .child (String.ofList first) :: steps
  | none => [.child name]

namespace Value

/-- The position in a list that an index means; a negative one counts from the end. -/
def position (index : Int) (length : Nat) : Nat :=
  if 0 ≤ index then index.toNat else length - (-index).toNat

/-- A list that has an item at a position. -/
def extendTo (position : Nat) (items : List Value) : List Value :=
  items ++ List.replicate (position + 1 - items.length) absent

/-- Set a value at a path. -/
def setAt (value : Value) : List KeyStep → Value → Value
  | [], root => root
  | [.child name], root => mergeField name value root
  | [.position index], root =>
      let (origin, items) := root.asList
      let at_ := position index items.length
      .list origin ((extendTo at_ items).set at_ value)
  | .child name :: rest, root =>
      let (origin, fields) := root.asTable
      let child := (fields.lookup name).getD absent
      .table origin (putField name (setAt value rest child) fields)
  | .position index :: rest, root =>
      let (origin, items) := root.asList
      let at_ := position index items.length
      let items := extendTo at_ items
      .list origin (items.set at_ (setAt value rest ((items[at_]?).getD absent)))

end Value

end DeviceBus.Config
