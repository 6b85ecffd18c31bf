/-!
# States of endpoints

An endpoint is closed, open, or connected.  On top of a connection the receiving side of a subscriber is
idle, armed, or about to stop.
-/

namespace DeviceBus

/-- The state of an endpoint's socket. -/
inductive EndpointState where
  | closed
  | opened
  | connected
  deriving DecidableEq, Repr

namespace EndpointState

/-- The state in which every endpoint begins. -/
def initial : EndpointState := closed

/-- The name of a state. -/
def name : EndpointState → String
  | closed => "closed"
  | opened => "open"
  | connected => "connected"

/-- The state in descriptions. -/
def describe : EndpointState → String
  | closed => "Closed"
  | opened => "Open"
  | connected => "Connected"

end EndpointState

/-- The state of a subscriber's receiving side. -/
inductive ReceiveState where
  | idle
  | armed
  | stopping
  deriving DecidableEq, Repr

namespace ReceiveState

/-- The state in which every receiving side begins. -/
def initial : ReceiveState := idle

/-- The name of a state. -/
def name : ReceiveState → String
  | idle => "idle"
  | armed => "armed"
  | stopping => "stopping"

/-- The state in descriptions. -/
def describe : ReceiveState → String
  | idle => "Idle"
  | armed => "Armed"
  | stopping => "Stopping"

end ReceiveState

end DeviceBus
