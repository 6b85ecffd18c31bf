import DeviceBus.BusError
import DeviceBus.Path
import DeviceBus.Number.Integer

/-!
# Addresses of bus sockets

An address is `ipc://` with the path of a socket file, or `tcp://` with a host, a colon and a number of
sixteen bits.  The number stands after the last colon; a host may hold colons of its own.  An address is
kept as it was written, so printing it gives back the text that was read.

Two socket files are the same address when their paths have the same components.
-/

namespace DeviceBus

/-- The address of a bus socket. -/
inductive Url where
  | ipc (path : String)
  | tcp (address : String)
  deriving DecidableEq, Repr

namespace Url

/-- What an address of a socket file begins with. -/
def ipcScheme : String := "ipc://"

/-- What an address on the network begins with. -/
def tcpScheme : String := "tcp://"

/-- The largest number that may follow the last colon. -/
def maxSocketNumber : Nat := 65535

/-- The parts of a list before and after the last occurrence of a character. -/
def splitAtLast? (c : Char) : List Char → Option (List Char × List Char)
  | [] => none
  | x :: rest =>
      match splitAtLast? c rest with
      | some (before, after) => some (x :: before, after)
      | none => if x = c then some ([], rest) else none

/-- The host and the number of an address on the network. -/
def hostAndNumber? (address : List Char) : Option (List Char × Nat) :=
  match splitAtLast? ':' address with
  | none => none
  | some (host, digits) =>
      if host = [] then none
      else (Number.unsigned? maxSocketNumber digits).map fun number => (host, number)

/-- Read an address. -/
def parse? (text : String) : Option Url :=
  match ipcScheme.toList.isPrefixOf? text.toList with
  | some path => if path = [] then none else some (.ipc (String.ofList path))
  | none =>
      match tcpScheme.toList.isPrefixOf? text.toList with
      | some address =>
          if (hostAndNumber? address).isSome then some (.tcp (String.ofList address)) else none
      | none => none

/-- Read an address, or fail with the text that is none. -/
def parse (text : String) : Except BusError Url :=
  match parse? text with
  | some url => .ok url
  | none => .error (.invalidUrl text)

/-- An address as text. -/
def toText : Url → String
  | .ipc path => ipcScheme ++ path
  | .tcp address => tcpScheme ++ address

/-- The name of the transport. -/
def transport : Url → String
  | .ipc _ => "ipc"
  | .tcp _ => "tcp"

/-- Whether two addresses are the same. -/
def same : Url → Url → Bool
  | .ipc a, .ipc b => Path.same a b
  | .tcp a, .tcp b => a = b
  | _, _ => false

/-- A word turned two places to the right. -/
def turnTwo (word : UInt64) : UInt64 := (word >>> 2) ||| (word <<< 62)

/-- The names of a path as its digest sees them, and a number that mixes their lengths so that different
cuts of the same letters differ.  The slash in front of an absolute path is not seen. -/
def digestNames (path : String) : List String × UInt64 :=
  let names := (Path.components path).filterMap fun part =>
    match part with
    | .root => none
    | part => some part.text
  (names, names.foldl (fun mixed name => turnTwo (mixed + name.utf8ByteSize.toUInt64)) 0)

/-- Everything that goes into the digest of an address, as bytes. -/
def digestInput : Url → Nat × List UInt8
  | .ipc path =>
      let (names, mixed) := digestNames path
      let letters := names.flatMap fun name => name.toByteArray.data.toList
      (0, letters ++ (List.range 8).map fun i => (mixed >>> (8 * i).toUInt64).toUInt8)
  | .tcp address => (1, address.toByteArray.data.toList ++ [0xFF])

/-- Whether two addresses have the same digest because the same bytes go into it. -/
def sameDigest (a b : Url) : Bool := a.digestInput = b.digestInput

end Url

end DeviceBus
