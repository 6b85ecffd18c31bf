import DeviceBus.Bytes

/-!
# Envelopes

A record of one queued message.  A payload that is too long is cut without notice.
-/

namespace DeviceBus

/-- A queued message. -/
structure Envelope where
  /-- the application's own type of message -/
  kind : Int
  /-- the number of stored bytes, as the sender states it -/
  length : Nat
  /-- the stored bytes -/
  payload : ByteArray
  /-- the number given on arrival at the tail of a queue; zero before that -/
  sequence : Nat
  /-- the time of arrival, in microseconds -/
  timestamp : Int
  deriving DecidableEq

namespace Envelope

/-- The most bytes that a payload keeps. -/
def payloadCapacity : Nat := 5 * 1024

/-- An envelope for a payload, cut to the capacity. -/
def of (kind : Int) (data : ByteArray) : Envelope :=
  let payload := data.extract 0 payloadCapacity
  { kind, length := payload.size, payload, sequence := 0, timestamp := 0 }

/-- The envelope that says nothing. -/
def blank : Envelope := of 0 ByteArray.empty

/-- The envelope as it is stored on arrival. -/
def stamped (envelope : Envelope) (sequence : Nat) (now : Int) : Envelope :=
  { envelope with sequence, timestamp := now }

end Envelope

end DeviceBus
