import DeviceBus.Files.Tree
import DeviceBus.Number.Integer
import DeviceBus.Text.Blank
import DeviceBus.Text.Utf8

/-!
# One process of a kind

A process holds a lock on a file named for it as long as it lives, and a second process of that name is
refused.  The file also records how often the process was started: its first line holds the count, and
each start adds one.  A count that cannot be read starts over.

The lock belongs to the file, not to the path: two paths to one file contend.

Once the lock is had, the file is emptied and written anew.  A start that fails in between leaves the file
without the record, or with the beginning of one.
-/

namespace DeviceBus

/-- A number that the system gives as its reason, by its name and its sentence. -/
structure Errno where
  name : String
  sentence : String
  deriving DecidableEq, Repr

/-- Why a lock could not be had. -/
inductive LockError where
  | alreadyRunning (name : String)
  | file (path : String) (source : SystemFault)
  | lock (path : String) (errno : Errno)
  deriving DecidableEq, Repr

namespace LockError

/-- The name of the cause. -/
def name : LockError → String
  | .alreadyRunning _ => "AlreadyRunning"
  | .file _ _ => "Io"
  | .lock _ _ => "Lock"

/-- The error as a sentence. -/
def message : LockError → String
  | .alreadyRunning name => name ++ ": already running"
  | .file path source => "Lock file " ++ path ++ ": " ++ source.message
  | .lock path errno =>
      "Unable to acquire lock on " ++ path ++ ": " ++ errno.name ++ ": " ++ errno.sentence

/-- The error as a description. -/
def describe : LockError → String
  | .alreadyRunning process => "AlreadyRunning \x7b name: " ++ Text.quote process ++ " \x7d"
  | .file path source =>
      "Io \x7b path: " ++ Text.quotePath path ++ ", source: " ++ source.describe ++ " \x7d"
  | .lock path errno =>
      "Lock \x7b path: " ++ Text.quotePath path ++ ", errno: " ++ errno.name ++ " \x7d"

end LockError

/-- A lock that is held. -/
structure SingletonLock where
  /-- the locked file -/
  place : Place
  /-- the path by which it was opened -/
  path : String
  name : String
  /-- how often the process was started, this time included -/
  restartCount : Nat
  deriving DecidableEq, Repr

namespace SingletonLock

/-- What stands before the count. -/
def label : String := "Restart Count:"

/-- The largest count. -/
def maxCount : Nat := 0xffffffff

/-- The name of a process: the last part of the path of its program. -/
def baseName (program : String) : String := Path.afterLastSlash program

/-- The path of the lock file of a process. -/
def filePath (directory name : String) : String := Path.join directory (name ++ ".pid")

/-- The first line of a text, without its line break. -/
def firstLine (cs : List Char) : List Char :=
  let line := cs.takeWhile (· ≠ '\n')
  if line.length < cs.length ∧ line.getLast? = some '\r' then line.dropLast else line

/-- The count that a lock file's text records, if it records one. -/
def recordedCount? (text : String) : Option Nat :=
  match label.toList.isPrefixOf? (firstLine text.toList) with
  | none => none
  | some count => Number.unsigned? maxCount (Text.trimBlank count)

/-- The count of the next start. -/
def nextCount (text : String) : Nat :=
  match recordedCount? text with
  | some count => min (count + 1) maxCount
  | none => 1

/-- The text of a lock file. -/
def record (count pid : Nat) : String :=
  label ++ toString count ++ "\nPID:" ++ toString pid ++ "\n"

/-- A lock as a description. -/
def describe (lock : SingletonLock) : String :=
  "SingletonLock \x7b path: " ++ Text.quotePath lock.path ++ ", name: " ++ Text.quote lock.name
    ++ ", restart_count: " ++ toString lock.restartCount ++ " \x7d"

/-- What keeps a start from having its lock although the lock file can be found: it cannot be opened, or not
locked for another reason than a lock that is held, or not read, or not set back to its beginning and emptied; or
writing it breaks off after so many bytes. -/
inductive Hindrance where
  | opening (fault : SystemFault)
  | locking (errno : Errno)
  | reading (fault : SystemFault)
  | emptying (fault : SystemFault)
  | writing (written : Nat) (fault : SystemFault)
  deriving DecidableEq, Repr

/-- Open a lock file, which is made where it is missing: its place, the tree with it, and what it holds. -/
def openFile (tree : FileTree) (path : String) (now : Int) (hindrance : Option Hindrance) :
    Except SystemFault (Place × FileTree × ByteArray) :=
  match tree.placeToWrite path, hindrance with
  | .error fault, _ => .error fault
  | .ok _, some (.opening fault) => .error fault
  | .ok place, _ =>
      match tree.entry? place with
      | some (.file contents _) => .ok (place, tree, contents)
      | some _ => .ok (place, tree, .empty)
      | none => .ok (place, tree.put place (.file .empty now), .empty)

/-- Why an open lock file cannot be locked while some locks are held, if it cannot. -/
def refusal? (held : List SingletonLock) (place : Place) (path name : String) :
    Option Hindrance → Option LockError
  | some (.locking errno) => some (.lock path errno)
  | _ => if held.any fun lock => lock.place = place then some (.alreadyRunning name) else none

/-- Read all of a lock file, which has to be text. -/
def readAll (contents : ByteArray) : Option Hindrance → Except SystemFault String
  | some (.reading fault) => .error fault
  | _ => (Text.decode contents).mapError fun _ => .notText

/-- The beginning of a text. -/
def beginning (text : String) (length : Nat) : String := String.ofList (text.toList.take length)

/-- Empty a lock file and write a record, of which each character is one byte.  A device cannot be emptied, so it
is no lock file. -/
def rewrite (tree : FileTree) (place : Place) (text : String) (now : Int) (hindrance : Option Hindrance) :
    Except SystemFault Unit × FileTree :=
  match tree.entry? place, hindrance with
  | some .device, _ => (.error (.system .invalidArgument), tree)
  | _, some (.emptying fault) => (.error fault, tree)
  | _, some (.writing written fault) =>
      (.error fault, tree.put place (.file (beginning text written).toByteArray now))
  | _, _ => (.ok (), tree.put place (.file text.toByteArray now))

/-- Take the lock of a process, while some locks are held.  The lock file is made where it is missing,
even if the lock cannot be had in the end. -/
def acquire (held : List SingletonLock) (tree : FileTree) (directory program : String)
    (pid : Nat) (now : Int) (hindrance : Option Hindrance := none) :
    Except LockError SingletonLock × FileTree :=
  let name := baseName program
  let path := filePath directory name
  match openFile tree path now hindrance with
  | .error fault => (.error (.file path fault), tree)
  | .ok (place, opened, contents) =>
      match refusal? held place path name hindrance with
      | some error => (.error error, opened)
      | none =>
          match readAll contents hindrance with
          | .error fault => (.error (.file path fault), opened)
          | .ok previous =>
              let restartCount := nextCount previous
              match rewrite opened place (record restartCount pid) now hindrance with
              | (.error fault, after) => (.error (.file path fault), after)
              | (.ok (), after) => (.ok { place, path, name, restartCount }, after)

end SingletonLock

end DeviceBus
