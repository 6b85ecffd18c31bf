import DeviceBus.Text.Quoted

/-!
# Faults of the system

A call on files or sockets fails with a numbered condition of the operating system, or it is refused
before it reaches the system.  Each fault has two readings: the sentence shown to people and the
description shown when a whole program gives up.
-/

namespace DeviceBus

/-- The conditions of the operating system that files and sockets report. -/
inductive Condition where
  | noSuchFile
  | alreadyExists
  | notDirectory
  | isDirectory
  | brokenPipe
  | nameTooLong
  | directoryNotEmpty
  | tooManyLinks
  | addressInUse
  | addressNotAvailable
  | networkUnreachable
  | connectionReset
  | connectionRefused
  | permissionDenied
  | noSuchDevice
  | invalidArgument
  | noSpace
  deriving DecidableEq, Repr

namespace Condition

/-- The number of a condition. -/
def number : Condition → Nat
  | noSuchFile => 2
  | permissionDenied => 13
  | alreadyExists => 17
  | noSuchDevice => 6
  | notDirectory => 20
  | isDirectory => 21
  | invalidArgument => 22
  | noSpace => 28
  | brokenPipe => 32
  | nameTooLong => 36
  | directoryNotEmpty => 39
  | tooManyLinks => 40
  | addressInUse => 98
  | addressNotAvailable => 99
  | networkUnreachable => 101
  | connectionReset => 104
  | connectionRefused => 111

/-- The sentence of a condition. -/
def sentence : Condition → String
  | noSuchFile => "No such file or directory"
  | permissionDenied => "Permission denied"
  | alreadyExists => "File exists"
  | noSuchDevice => "No such device or address"
  | notDirectory => "Not a directory"
  | isDirectory => "Is a directory"
  | invalidArgument => "Invalid argument"
  | noSpace => "No space left on device"
  | brokenPipe => "Broken pipe"
  | nameTooLong => "File name too long"
  | directoryNotEmpty => "Directory not empty"
  | tooManyLinks => "Too many levels of symbolic links"
  | addressInUse => "Address already in use"
  | addressNotAvailable => "Cannot assign requested address"
  | networkUnreachable => "Network is unreachable"
  | connectionReset => "Connection reset by peer"
  | connectionRefused => "Connection refused"

/-- The class that a condition belongs to. -/
def kind : Condition → String
  | noSuchFile => "NotFound"
  | permissionDenied => "PermissionDenied"
  | alreadyExists => "AlreadyExists"
  | noSuchDevice => "Uncategorized"
  | notDirectory => "NotADirectory"
  | isDirectory => "IsADirectory"
  | invalidArgument => "InvalidInput"
  | noSpace => "StorageFull"
  | brokenPipe => "BrokenPipe"
  | nameTooLong => "InvalidFilename"
  | directoryNotEmpty => "DirectoryNotEmpty"
  | tooManyLinks => "FilesystemLoop"
  | addressInUse => "AddrInUse"
  | addressNotAvailable => "AddrNotAvailable"
  | networkUnreachable => "NetworkUnreachable"
  | connectionReset => "ConnectionReset"
  | connectionRefused => "ConnectionRefused"

end Condition

/-- Why a call on the system failed: a condition of the system, or a refusal of a given class. -/
inductive SystemFault where
  | system (condition : Condition)
  | refused (kind : String) (sentence : String)
  deriving DecidableEq, Repr

namespace SystemFault

/-- A socket's path does not fit into an address. -/
def socketPathTooLong : SystemFault := .refused "InvalidInput" "path must be shorter than SUN_LEN"

/-- A file's name holds the byte that ends names. -/
def nulInName : SystemFault := .refused "InvalidInput" "file name contained an unexpected NUL byte"

/-- A file's contents are not text. -/
def notText : SystemFault := .refused "InvalidData" "stream did not contain valid UTF-8"

/-- A frame announces or holds more bytes than a frame may have. -/
def frameTooBig : SystemFault := .refused "InvalidData" "frame size too big"

/-- A stream ended inside a frame. -/
def bytesRemaining : SystemFault := .refused "Other" "bytes remaining on stream"

/-- An address that names no place to connect to. -/
def unreachable : SystemFault := .system .networkUnreachable

/-- The fault as a sentence. -/
def message : SystemFault → String
  | .system condition =>
      condition.sentence ++ " (os error " ++ toString condition.number ++ ")"
  | .refused _ sentence => sentence

/-- The fault as a description. -/
def describe : SystemFault → String
  | .system condition =>
      "Os \x7b code: " ++ toString condition.number ++ ", kind: " ++ condition.kind ++ ", message: "
        ++ Text.quote condition.sentence ++ " \x7d"
  | .refused kind sentence =>
      "Error \x7b kind: " ++ kind ++ ", message: " ++ Text.quote sentence ++ " \x7d"

end SystemFault

end DeviceBus
