import DeviceBus.Bytes
import DeviceBus.SystemFault
import DeviceBus.Path

/-!
# File trees

A file tree says what stands at each place; a place is the list of names on the way from the root.  The
parent of everything that stands somewhere is a directory.  Two places are the same file only if they are
equal: nothing has two names except through links, which name another path.

Resolving a path walks over its names, following links on the way, and at its end if the caller asks for
it or the path ends in a slash.  A path to something that may have to be made cannot end in a slash, nor
can the link that stands for its end.
-/

namespace DeviceBus

/-- The names on the way from the root. -/
abbrev Place := List String

/-- What stands at a place. -/
inductive Entry where
  | file (contents : ByteArray) (modified : Int)
  /-- a directory; in one that is `isSealed`, nothing can be made -/
  | directory (isSealed : Bool)
  | link (target : String)
  /-- the file of a socket, with the number of the listener that made it -/
  | socket (listener : Nat)
  /-- something that can be written to and holds nothing -/
  | device
  deriving DecidableEq

/-- What stands at each place, and the directory at which relative paths begin. -/
structure FileTree where
  entries : List (Place × Entry)
  work : Place

namespace FileTree

/-- What stands at a place.  The root is always a directory. -/
def entry? (tree : FileTree) (place : Place) : Option Entry :=
  if place = [] then some (.directory false) else tree.entries.lookup place

/-- The tree without what stands at a place. -/
def erase (tree : FileTree) (place : Place) : FileTree :=
  { tree with entries := tree.entries.filter fun entry => entry.1 ≠ place }

/-- The tree with an entry at a place. -/
def put (tree : FileTree) (place : Place) (entry : Entry) : FileTree :=
  { tree with entries := (tree.erase place).entries ++ [(place, entry)] }

/-- A machine with an empty working directory. -/
def fresh : FileTree where
  entries :=
    [(["tmp"], .directory false), (["dev"], .directory true), (["dev", "null"], .device),
      (["proc"], .directory true), (["home"], .directory false), (["home", "device"], .directory false)]
  work := ["home", "device"]

/-- The longest name, in bytes. -/
def nameLimit : Nat := 255

/-- The most bytes of a path, with the byte that ends it. -/
def pathLimit : Nat := 4096

/-- The most links that one path may lead through. -/
def linkLimit : Nat := 40

/-- The place that a path leads to, and what stands there.  Where nothing stands, its parent is a
directory. -/
structure Spot where
  place : Place
  entry : Option Entry

/-- How far a walk comes: to its end, or to a link with names still to go. -/
inductive Arrival where
  | spot (spot : Spot)
  | link (parent : Place) (target : String) (rest : List String)

/-- The names in a path, dots and all. -/
def pathNames (path : String) : List String :=
  ((Path.pieces path.toList).filter (· ≠ [])).map String.ofList

/-- Walk from a directory over names.  A link at the end is followed where the end must be a directory
or the caller asks for it.  What must be a directory cannot be made as a file. -/
def walk (tree : FileTree) (followLast mustBeDirectory toMake : Bool) (from_ : Place) :
    List String → Except Condition Arrival
  | [] => .ok (.spot ⟨from_, tree.entry? from_⟩)
  | name :: rest =>
      if name = "." then walk tree followLast mustBeDirectory toMake from_ rest
      else if name = ".." then walk tree followLast mustBeDirectory toMake from_.dropLast rest
      else if rest = [] ∧ mustBeDirectory ∧ toMake then .error .isDirectory
      else if nameLimit < name.utf8ByteSize then .error .nameTooLong
      else
        let place := from_ ++ [name]
        match tree.entry? place with
        | none =>
            if rest = [] then .ok (.spot ⟨place, none⟩) else .error .noSuchFile
        | some (.directory _) => walk tree followLast mustBeDirectory toMake place rest
        | some (.link target) =>
            if rest = [] ∧ !followLast ∧ !mustBeDirectory then
              .ok (.spot ⟨place, some (.link target)⟩)
            else .ok (.link from_ target rest)
        | some entry =>
            if rest = [] ∧ !mustBeDirectory then .ok (.spot ⟨place, some entry⟩)
            else .error .notDirectory

/-- Walk over names and links. -/
def walkLinks (tree : FileTree) (followLast mustBeDirectory toMake : Bool) :
    (links : Nat) → Place → List String → Except Condition Spot
  | links, from_, names =>
      match walk tree followLast mustBeDirectory toMake from_ names with
      | .error condition => .error condition
      | .ok (.spot spot) => .ok spot
      | .ok (.link parent target rest) =>
          match links with
          | 0 => .error .tooManyLinks
          | links + 1 =>
              let start := if Path.isAbsolute target then [] else parent
              let mustBeDirectory :=
                mustBeDirectory || (rest = [] && target.toList.getLast? = some '/')
              walkLinks tree followLast mustBeDirectory toMake links start (pathNames target ++ rest)

/-- Resolve a path, perhaps to make a file where it leads. -/
def resolve (tree : FileTree) (followLast : Bool) (path : String) (toMake : Bool := false) :
    Except SystemFault Spot :=
  if path.toList.contains '\x00' then .error .nulInName
  else if path = "" then .error (.system .noSuchFile)
  else if pathLimit ≤ path.utf8ByteSize then .error (.system .nameTooLong)
  else
    let start := if Path.isAbsolute path then [] else tree.work
    let mustBeDirectory := path.toList.getLast? = some '/'
    (walkLinks tree followLast mustBeDirectory toMake linkLimit start (pathNames path)).mapError .system

/-- What a path leads to, with the place. -/
def status (tree : FileTree) (followLast : Bool) (path : String) :
    Except SystemFault (Place × Entry) :=
  match tree.resolve followLast path with
  | .error fault => .error fault
  | .ok ⟨_, none⟩ => .error (.system .noSuchFile)
  | .ok ⟨place, some entry⟩ => .ok (place, entry)

/-- Whether a path leads to anything. -/
def pathExists (tree : FileTree) (path : String) : Bool := (tree.status true path).isOk

/-- Whether a path leads to a directory. -/
def isDirectory (tree : FileTree) (path : String) : Bool :=
  match tree.status true path with
  | .ok (_, .directory _) => true
  | _ => false

/-- The contents of the regular file that a path leads to, if it leads to one. -/
def fileAt? (tree : FileTree) (path : String) : Option ByteArray :=
  match tree.status true path with
  | .ok (_, .file contents _) => some contents
  | _ => none

/-- Read a file. -/
def read (tree : FileTree) (path : String) : Except SystemFault ByteArray :=
  match tree.status true path with
  | .error fault => .error fault
  | .ok (_, .file contents _) => .ok contents
  | .ok (_, .device) => .ok .empty
  | .ok (_, .directory _) => .error (.system .isDirectory)
  | .ok (_, _) => .error (.system .noSuchDevice)

/-- Whether something can be made in the directory above a place. -/
def mayCreate (tree : FileTree) (place : Place) : Bool :=
  match tree.entry? place.dropLast with
  | some (.directory isSealed) => !isSealed
  | _ => false

/-- The place of the file that a path leads to, for writing.  What is missing can be made if its
directory allows it. -/
def placeToWrite (tree : FileTree) (path : String) : Except SystemFault Place :=
  match tree.resolve true path true with
  | .error fault => .error fault
  | .ok ⟨place, none⟩ =>
      if tree.mayCreate place then .ok place else .error (.system .noSuchFile)
  | .ok ⟨place, some (.file _ _)⟩ => .ok place
  | .ok ⟨place, some .device⟩ => .ok place
  | .ok ⟨_, some (.directory _)⟩ => .error (.system .isDirectory)
  | .ok ⟨_, some _⟩ => .error (.system .noSuchDevice)

/-- Put contents into the file at a place; a device takes them and stays as it is. -/
def store (tree : FileTree) (place : Place) (contents : ByteArray) (now : Int) : FileTree :=
  match tree.entry? place with
  | some .device => tree
  | _ => tree.put place (.file contents now)

/-- Write a file, making it where it is missing. -/
def write (tree : FileTree) (path : String) (contents : ByteArray) (now : Int) :
    Except SystemFault FileTree :=
  (tree.placeToWrite path).map fun place => tree.store place contents now

/-- Set the time of the last change of a file. -/
def touch (tree : FileTree) (path : String) (modified : Int) : Except SystemFault FileTree :=
  match tree.status true path with
  | .error fault => .error fault
  | .ok (place, .file contents _) => .ok (tree.put place (.file contents modified))
  | .ok _ => .ok tree

/-- Remove what a path leads to, unless it is a directory.  A link itself is removed. -/
def remove (tree : FileTree) (path : String) : Except SystemFault FileTree :=
  match tree.status false path with
  | .error fault => .error fault
  | .ok (_, .directory _) => .error (.system .isDirectory)
  | .ok (place, _) => .ok (tree.erase place)

/-- Make a directory. -/
def makeDirectory (tree : FileTree) (path : String) : Except SystemFault FileTree :=
  match tree.resolve false path with
  | .error fault => .error fault
  | .ok ⟨_, some _⟩ => .error (.system .alreadyExists)
  | .ok ⟨place, none⟩ =>
      if tree.mayCreate place then .ok (tree.put place (.directory false))
      else .error (.system .noSuchFile)

/-- Make a directory with all directories above it; the components of the path are given from the last
to the first. -/
def makeDirectoriesUpward (tree : FileTree) : (reversed : List Path.Component) →
    Except SystemFault FileTree
  | [] => .ok tree
  | last :: above =>
      let path := Path.ofComponents (last :: above).reverse
      match tree.makeDirectory path with
      | .ok tree => .ok tree
      | .error (.system .noSuchFile) =>
          match makeDirectoriesUpward tree above with
          | .error fault => .error fault
          | .ok tree =>
              match tree.makeDirectory path with
              | .ok tree => .ok tree
              | .error fault => if tree.isDirectory path then .ok tree else .error fault
      | .error fault => if tree.isDirectory path then .ok tree else .error fault

/-- Make a directory with all directories above it, where they are missing. -/
def makeDirectories (tree : FileTree) (path : String) : Except SystemFault FileTree :=
  tree.makeDirectoriesUpward (Path.components path).reverse

/-- Make a link. -/
def makeLink (tree : FileTree) (path target : String) : Except SystemFault FileTree :=
  match tree.resolve false path with
  | .error fault => .error fault
  | .ok ⟨_, some _⟩ => .error (.system .alreadyExists)
  | .ok ⟨place, none⟩ =>
      if tree.mayCreate place then .ok (tree.put place (.link target))
      else .error (.system .noSuchFile)

/-- What keeps a copy from coming to its end although both files can be found: one of them cannot be opened, or
the copy breaks off once so many bytes are written. -/
inductive Interruption where
  | sourceUnopened (fault : SystemFault)
  | destinationUnopened (fault : SystemFault)
  | brokenOff (written : Nat) (fault : SystemFault)
  deriving DecidableEq, Repr

/-- The places that a copy reads and writes, once it has opened both files: the source first, which has to be a
regular file. -/
def openForCopy (tree : FileTree) (source destination : String) (interruption : Option Interruption) :
    Except SystemFault (Place × Place) :=
  match tree.status true source, interruption with
  | .error fault, _ => .error fault
  | .ok (_, .file _ _), some (.sourceUnopened fault) => .error fault
  | .ok (sourcePlace, .file _ _), interruption =>
      match tree.placeToWrite destination, interruption with
      | .error fault, _ => .error fault
      | .ok _, some (.destinationUnopened fault) => .error fault
      | .ok place, _ => .ok (sourcePlace, place)
  | .ok (_, .socket _), _ => .error (.system .noSuchDevice)
  | .ok _, _ =>
      .error (.refused "InvalidInput"
        "the source path is neither a regular file nor a symlink to a regular file")

/-- What a copy that has begun writes of some contents. -/
def copied (contents : ByteArray) : Option Interruption → ByteArray
  | some (.brokenOff written _) => contents.extract 0 written
  | _ => contents

/-- What comes of a copy that has begun. -/
def copyResult : Option Interruption → Except SystemFault Unit
  | some (.brokenOff _ fault) => .error fault
  | _ => .ok ()

/-- Copy a file, to its end unless something interrupts the copy.  The destination is emptied before anything is
read, so a file that is copied onto itself is empty afterwards. -/
def copy (tree : FileTree) (source destination : String) (now : Int)
    (interruption : Option Interruption := none) : Except SystemFault Unit × FileTree :=
  match tree.openForCopy source destination interruption with
  | .error fault => (.error fault, tree)
  | .ok (sourcePlace, place) =>
      let emptied := tree.store place .empty now
      let contents := match emptied.entry? sourcePlace with
        | some (.file contents _) => contents
        | _ => .empty
      (copyResult interruption, emptied.store place (copied contents interruption) now)

/-- Whether one place lies below another, or is it. -/
def isWithin (top place : Place) : Bool := top.isPrefixOf place

/-- The regular files at or below a place: place, contents and time of the last change. -/
def filesWithin (tree : FileTree) (top : Place) : List (Place × ByteArray × Int) :=
  tree.entries.filterMap fun (place, entry) =>
    match entry with
    | .file contents modified =>
        if isWithin top place then some (place, contents, modified) else none
    | _ => none

/-- The names that lead from a place to each thing below it. -/
def namesBelow (tree : FileTree) (top : Place) : List (List String) :=
  tree.entries.filterMap fun (place, _) =>
    if isWithin top place && place ≠ top then some (place.drop top.length) else none

/-- What kind of thing an entry is, and how long it is. -/
def kindAndSize : Entry → String × Nat
  | .file contents _ => ("file", contents.size)
  | .directory _ => ("dir", 0)
  | _ => ("other", 0)

/-- Everything below the working directory with its path from there, its kind and its size, in the order
of the paths. -/
def listing (tree : FileTree) : List (String × String × Nat) :=
  let below := tree.entries.filter fun entry => entry.1 ≠ tree.work && isWithin tree.work entry.1
  let shown := below.map fun (place, entry) =>
    ("/".intercalate (place.drop tree.work.length), kindAndSize entry)
  shown.mergeSort fun a b => decide (a.1 ≤ b.1)

end FileTree

end DeviceBus
