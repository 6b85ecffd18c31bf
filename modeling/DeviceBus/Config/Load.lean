import DeviceBus.Config.Reading
import DeviceBus.Text.Utf8

/-!
# Loading settings

Four layers are laid over one another: the usual file, which need not be there; the file that a program's
arguments name; the file that the environment names; and the variables of the environment.  A file that
is named must be there.  What a file holds and whether it is there is a question to a `FileSource`.
-/

namespace DeviceBus.Config

/-- The contents of the regular file at a path, if there is one. -/
abbrev FileSource := String → Option ByteArray

/-- The usual file. -/
def usualFile : String := "procbus.yaml"

/-- The variable that names a file. -/
def fileVariable : String := "PROCBUS_CONFIG"

/-- The extensions that are tried behind the name of a file that is not there. -/
def extensions : List String := ["yaml", "yml"]

/-- A path with an extension behind its last name, if it ends in a name. -/
def withExtension (path extension : String) : String :=
  match Path.fileName? path with
  | none => path
  | some name =>
      Path.ofComponents ((Path.components path).dropLast ++ [.name (name ++ "." ++ extension)])

/-- A file's path as it is named in messages: its components, without a dot in front. -/
def shownPath (path : String) : String :=
  Path.ofComponents ((Path.components path).filter (· ≠ .current))

/-- The paths at which the file that a name means is looked for. -/
def pathsOf (name : String) : List String := name :: extensions.map (withExtension name)

/-- The path and the contents of the file that a name means: the file itself, or one with an extension
added to the name. -/
def findFile? (files : FileSource) (name : String) : Option (String × ByteArray) :=
  (pathsOf name).findSome? fun path =>
    (files path).map fun contents => (path, contents)

/-- Read the text of a file. -/
def readFile (files : FileSource) (name : String) : Except LoadFault (String × String) :=
  match findFile? files name with
  | none => .error (.unreadable ("configuration file \"" ++ name ++ "\" not found"))
  | some (path, contents) =>
      match Text.decode contents with
      | .ok text => .ok (shownPath path, text)
      | .error _ => .error (.unreadable "stream did not contain valid UTF-8")

/-- The layer of a file that must be there. -/
def requiredLayer (files : FileSource) (name : String) : Except LoadFault Layer := do
  let (file, text) ← readFile files name
  Layer.ofText file text

/-- The layer of a file that need not be there. -/
def optionalLayer (files : FileSource) (name : String) : Except LoadFault Layer :=
  match readFile files name with
  | .error _ => .ok []
  | .ok (file, text) => Layer.ofText file text

/-- The layer of a file that may be named. -/
def namedLayer (files : FileSource) : Option String → Except LoadFault Layer
  | none => .ok []
  | some name => requiredLayer files name

/-- Every layer, the first at the bottom. -/
def layers (files : FileSource) (argument : Option String) (environment : List (String × String)) :
    Except LoadFault (List Layer) := do
  let usual ← optionalLayer files usualFile
  let given ← namedLayer files argument
  let named ← namedLayer files (environment.lookup fileVariable)
  .ok [usual, given, named, Layer.ofEnvironment environment]

/-- The paths at which files are looked for. -/
def candidatePaths (argument : Option String) (environment : List (String × String)) : List String :=
  (usualFile :: (argument.toList ++ (environment.lookup fileVariable).toList)).flatMap pathsOf

/-- Load the settings. -/
def load (files : FileSource) (argument : Option String) (environment : List (String × String)) :
    Except LoadFault Settings := do
  let layers ← layers files argument environment
  readSettings (stack layers)

end DeviceBus.Config
