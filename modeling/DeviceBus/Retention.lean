import DeviceBus.Files.Tree
import DeviceBus.Number.Integer

/-!
# Directories that stay within a size

The regular files below a directory are counted; links are not followed.  When more room is needed, files
are removed, the ones changed longest ago first, until the rest and what is to come fit the limit, or one of
them cannot be removed.  The limit is given in units of 1024 bytes, and its bytes are a machine number.

Saving copies a file into the directory after making room.  Where copying fails, whatever stands at the
destination is removed.

Every file below a directory is named by the path of the directory with the names behind it, so that a
path which is too long makes counting fail.
-/

namespace DeviceBus

/-- Why an operation on a bounded directory failed. -/
inductive RetentionError where
  | access (path : String) (source : SystemFault)
  | notAFile (path : String)
  | fileTooLarge (size limit : Nat)
  | noSpace (remaining target : Nat)
  | unfinished (reason : String)
  deriving DecidableEq, Repr

namespace RetentionError

/-- The name of the cause. -/
def name : RetentionError → String
  | .access _ _ => "Io"
  | .notAFile _ => "NotAFile"
  | .fileTooLarge _ _ => "FileTooLarge"
  | .noSpace _ _ => "NoSpace"
  | .unfinished _ => "Join"

/-- The error as a sentence. -/
def message : RetentionError → String
  | .access path source => "Cannot access " ++ path ++ ": " ++ source.message
  | .notAFile path => "Source " ++ path ++ " is not a regular file"
  | .fileTooLarge size limit =>
      "Source is " ++ toString size ++ " bytes, larger than the " ++ toString limit ++ " byte limit"
  | .noSpace remaining target =>
      "Could not free enough space: " ++ toString remaining ++ " bytes left, target " ++ toString target
  | .unfinished reason => "Background save did not complete: " ++ reason

end RetentionError

namespace Retention

/-- A regular file that counts. -/
structure Counted where
  place : Place
  size : Nat
  modified : Int
  deriving DecidableEq, Repr

/-- The regular files at or below a place, as they count. -/
def countedWithin (tree : FileTree) (top : Place) : List Counted :=
  (tree.filesWithin top).map fun (place, contents, modified) => ⟨place, contents.size, modified⟩

/-- The path of something below a directory. -/
def pathBelow (directory : String) (names : List String) : String := names.foldl Path.join directory

/-- Whether the system takes the path of something below a directory. -/
def isNameable (directory : String) (names : List String) : Bool :=
  (pathBelow directory names).utf8ByteSize < FileTree.pathLimit

/-- The files that count for a directory: those below it, or the path itself if it is a file.  A path
that leads to a link counts nothing. -/
def collect (tree : FileTree) (directory : String) : Except RetentionError (List Counted) :=
  match tree.status false directory with
  | .error fault => .error (.access directory fault)
  | .ok (place, .directory _) =>
      match (tree.namesBelow place).find? fun names => !isNameable directory names with
      | some names => .error (.access (pathBelow directory names) (.system .nameTooLong))
      | none => .ok (countedWithin tree place)
  | .ok (place, .file contents modified) => .ok [⟨place, contents.size, modified⟩]
  | .ok _ => .ok []

/-- The bytes of some files together. -/
def totalSize (files : List Counted) : Nat :=
  files.foldr (fun file total => file.size + total) 0

/-- Files in the order in which they are removed. -/
def oldestFirst (files : List Counted) : List Counted :=
  files.mergeSort fun a b => decide (a.modified ≤ b.modified)

/-- The files that have to go, in order, so that a total of bytes comes down to a target. -/
def toRemove (target : Nat) : (total : Nat) → List Counted → List Counted
  | _, [] => []
  | total, file :: rest =>
      if total ≤ target then [] else file :: toRemove target (total - file.size) rest

/-- The path by which a file that counts for a directory is removed. -/
def pathOf (tree : FileTree) (directory : String) (file : Counted) : String :=
  match tree.status false directory with
  | .ok (place, _) => pathBelow directory (file.place.drop place.length)
  | .error _ => directory

/-- Remove files one after the other, up to the first one that is stuck: the system does not let it be removed. -/
def removeInOrder (stuck : List (Place × SystemFault)) (tree : FileTree) :
    List Counted → Option (Counted × SystemFault) × FileTree
  | [] => (none, tree)
  | file :: rest =>
      match stuck.lookup file.place with
      | some fault => (some (file, fault), tree)
      | none => removeInOrder stuck (tree.erase file.place) rest

/-- Remove the oldest of the files of a directory until the rest have at most `target` bytes. -/
def freeDownTo (tree : FileTree) (directory : String) (files : List Counted) (target : Nat)
    (stuck : List (Place × SystemFault)) : Except RetentionError Unit × FileTree :=
  let due := toRemove target (totalSize files) (oldestFirst files)
  let remaining := totalSize files - totalSize due
  match removeInOrder stuck tree due with
  | (some (file, fault), after) => (.error (.access (pathOf tree directory file) fault), after)
  | (none, after) => (if target < remaining then .error (.noSpace remaining target) else .ok (), after)

/-- The bytes of so many units of 1024, in a machine number of 64 bits.  What does not fit wraps around. -/
def byteLimit (maxSizeKb : Nat) : Nat := maxSizeKb * 1024 % (Number.maxUnsigned64 + 1)

/-- The size of a directory in units of 1024 bytes, rounded down. -/
def directorySizeKb (tree : FileTree) (directory : String) : Except RetentionError Nat :=
  (collect tree directory).map fun files => totalSize files / 1024

/-- Remove the oldest files of a directory until it holds at most `maxSizeKb`. -/
def trim (tree : FileTree) (directory : String) (maxSizeKb : Nat)
    (stuck : List (Place × SystemFault) := []) : Except RetentionError Unit × FileTree :=
  match collect tree directory with
  | .error error => (.error error, tree)
  | .ok files =>
      if byteLimit maxSizeKb < totalSize files then
        freeDownTo tree directory files (byteLimit maxSizeKb) stuck
      else (.ok (), tree)

/-- What goes wrong in a save although the tree would allow it: files are stuck, something interrupts the copy,
and what it leaves cannot be removed. -/
structure Mishaps where
  stuck : List (Place × SystemFault) := []
  copying : Option FileTree.Interruption := none
  cleaning : Option SystemFault := none
  deriving DecidableEq, Repr

/-- Copy a file to a path, or remove what stands there if it can be removed. -/
def copyOrRemove (tree : FileTree) (source destination : String) (now : Int) (mishaps : Mishaps) :
    Except RetentionError String × FileTree :=
  match tree.copy source destination now mishaps.copying with
  | (.ok (), tree) => (.ok destination, tree)
  | (.error fault, tree) =>
      let cleaned := match mishaps.cleaning, tree.remove destination with
        | none, .ok tree => tree
        | _, _ => tree
      (.error (.access destination fault), cleaned)

/-- Copy a file into a directory after making room for it. -/
def save (tree : FileTree) (directory source : String) (maxSizeKb : Nat) (now : Int)
    (mishaps : Mishaps := {}) : Except RetentionError String × FileTree :=
  match tree.status true source with
  | .error fault => (.error (.access source fault), tree)
  | .ok (_, .file contents _) =>
      let size := contents.size
      let limit := byteLimit maxSizeKb
      if limit < size then (.error (.fileTooLarge size limit), tree)
      else
        match collect tree directory with
        | .error error => (.error error, tree)
        | .ok files =>
            let (freed, tree) :=
              if limit < totalSize files + size then
                freeDownTo tree directory files (limit - size) mishaps.stuck
              else (.ok (), tree)
            match freed with
            | .error error => (.error error, tree)
            | .ok () =>
                match Path.fileName? source with
                | none => (.error (.notAFile source), tree)
                | some name => copyOrRemove tree source (Path.join directory name) now mishaps
  | .ok _ => (.error (.notAFile source), tree)

/-- What came of a save in the background. -/
inductive Background where
  | ran (directory source : String) (maxSizeKb : Nat)
  | cancelled
  deriving DecidableEq, Repr

/-- Wait for a save in the background; one that was cancelled before it began changes nothing. -/
def awaitSave (tree : FileTree) (now : Int) : Background → Except RetentionError String × FileTree
  | .ran directory source maxSizeKb => save tree directory source maxSizeKb now
  | .cancelled => (.error (.unfinished "task N was cancelled"), tree)

end Retention

end DeviceBus
