import DeviceBus.Bytes
import DeviceBus.Topic
import DeviceBus.Text.Utf8

/-!
# Messages and their bytes

A message is a topic and a payload of any bytes.  Its body on the wire is the topic, one zero byte, and
the payload.  `Message.decode` reads a body: the topic ends at the first zero byte, so a payload may hold
zero bytes and a topic may not.
-/

namespace DeviceBus

/-- A topic and a payload. -/
structure Message where
  topic : String
  payload : ByteArray
  deriving DecidableEq

namespace Message

/-- The byte between topic and payload. -/
def terminator : UInt8 := 0

/-- A message for a head and a method. -/
def of (head method : String) (payload : ByteArray) : Message :=
  ⟨Topic.compose head method, payload⟩

/-- The topic before its first slash. -/
def head (message : Message) : String := Topic.head message.topic

/-- The topic after its first slash. -/
def method (message : Message) : String := Topic.method message.topic

/-- The body of a message. -/
def encode (message : Message) : ByteArray :=
  message.topic.toByteArray.push terminator ++ message.payload

/-- The position of the terminator in a body, if it has one. -/
def terminatorIndex? (body : ByteArray) : Option Nat := body.findIdx? (· == terminator) 0

/-- Read a body. -/
def decode (body : ByteArray) : Except BusError Message :=
  match terminatorIndex? body with
  | none => .error (.malformed "missing topic terminator")
  | some index =>
      match Text.decode (body.extract 0 index) with
      | .error fault => .error (.malformed ("topic is not utf-8: " ++ fault.message))
      | .ok topic => .ok ⟨topic, body.extract (index + 1) body.size⟩

end Message

end DeviceBus
