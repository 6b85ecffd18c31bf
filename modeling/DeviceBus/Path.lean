/-!
# Paths by their components

A path is text; what it denotes depends on its components alone.  Slashes separate them, so that empty
components do not count, and neither do dots, except one that begins a relative path.  Going up is never
resolved here: what `..` leads to depends on the files.
-/

namespace DeviceBus.Path

/-- One component of a path. -/
inductive Component where
  | root
  | current
  | up
  | name (text : String)
  deriving DecidableEq, Repr

/-- The pieces of a list of characters between slashes. -/
def pieces : List Char → List (List Char)
  | [] => [[]]
  | c :: rest =>
      if c = '/' then [] :: pieces rest
      else
        match pieces rest with
        | [] => [[c]]
        | first :: others => (c :: first) :: others

/-- The component that a piece inside a path stands for, if it counts. -/
def Component.ofPiece? (piece : List Char) : Option Component :=
  if piece = [] ∨ piece = ['.'] then none
  else if piece = ['.', '.'] then some .up
  else some (.name (String.ofList piece))

/-- The components of a path. -/
def components (path : String) : List Component :=
  match pieces path.toList with
  | [] => []
  | first :: others =>
      let front :=
        if first = [] then (if others = [] then [] else [.root])
        else if first = ['.'] then [.current]
        else (Component.ofPiece? first).toList
      front ++ others.filterMap Component.ofPiece?

/-- A component as text. -/
def Component.text : Component → String
  | .root => "/"
  | .current => "."
  | .up => ".."
  | .name text => text

/-- Write components as a path. -/
def ofComponents : List Component → String
  | .root :: rest => "/" ++ "/".intercalate (rest.map Component.text)
  | parts => "/".intercalate (parts.map Component.text)

/-- Two paths that denote the same place whatever the files are. -/
def same (a b : String) : Bool := components a = components b

/-- Whether a path begins at the root. -/
def isAbsolute (path : String) : Bool := path.toList.head? = some '/'

/-- A path followed by another one; an absolute one stands for itself. -/
def join (base path : String) : String :=
  if isAbsolute path then path
  else if base = "" then path
  else if base.toList.getLast? = some '/' then base ++ path
  else base ++ "/" ++ path

/-- The path without its last component, if it has one that can be taken off. -/
def parent? (path : String) : Option (List Component) :=
  let parts := components path
  match parts.getLast? with
  | none => none
  | some .root => none
  | some _ => some parts.dropLast

/-- The name that a path ends in, if it ends in a name. -/
def fileName? (path : String) : Option String :=
  match (components path).getLast? with
  | some (.name text) => some text
  | _ => none

/-- Whether a path ends in a slash. -/
def endsInSlash (path : String) : Bool := path.toList.getLast? = some '/'

/-- The path up to the slashes at its end. -/
def withoutSlashes (path : String) : String :=
  String.ofList ((path.toList.reverse.dropWhile (· = '/')).reverse)

/-- The rest after the last slash; the whole path if there is none. -/
def afterLastSlash (path : String) : String :=
  String.ofList ((path.toList.reverse.takeWhile (· ≠ '/')).reverse)

end DeviceBus.Path
