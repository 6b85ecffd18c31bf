import DeviceBus.Endpoint.State
import DeviceBus.Message
import DeviceBus.Registry
import DeviceBus.Transport.Network

/-!
# Publishers

A publisher connects to the front of a proxy and sends messages.  It is connected exactly while it holds
the half for writing of a connection; the half for reading is let go at once, because nothing is ever
sent to a publisher.  A failure to send lets the connection go and leaves the publisher open, so that it
can connect again.

Sending takes time where the other end is slow to read.  So a publisher does not write by itself: `outlet`
tells where the frame of a message goes, and whoever writes it reports a fault with `lose`.
-/

namespace DeviceBus

/-- The publishing side of a process. -/
structure Publisher where
  url : Url
  state : EndpointState := .initial
  registry : Registry Unit := ∅
  writer : Option SocketId := none

namespace Publisher

/-- A closed publisher for an address. -/
def create (url : Url) : Publisher := { url }

/-- The error of an operation that the state does not allow. -/
def refuse (publisher : Publisher) (operation : String) : BusError :=
  .invalidState operation publisher.state.name

/-- Open a closed publisher. -/
def openUp (publisher : Publisher) : Except BusError Unit × Publisher :=
  if publisher.state = .closed then (.ok (), { publisher with state := .opened })
  else (.error (publisher.refuse "open"), publisher)

/-- Connect an open publisher. -/
def dial (publisher : Publisher) (net : Network) : Except BusError Unit × Publisher × Network :=
  if publisher.state ≠ .opened then (.error (publisher.refuse "dial"), publisher, net)
  else
    match net.connect publisher.url with
    | .error fault => (.error (.transport "dial" fault), publisher, net)
    | .ok (socket, net) =>
        (.ok (), { publisher with state := .connected, writer := some socket }, net.dropReader socket)

/-- Connect an open publisher, and try again where that fails.  Each attempt finds the network as it is by
then; `later` lists what the attempts after the first one find. -/
def dialRetrying (publisher : Publisher) (net : Network) (later : List Network) :
    Except BusError Unit × Publisher × Network :=
  match later, publisher.dial net with
  | next :: later, (.error (.transport _ _), _, _) => publisher.dialRetrying next later
  | _, answer => answer

/-- Register a topic that will be published. -/
def addTopic (publisher : Publisher) (head method : String) : Except BusError Nat × Publisher :=
  let (result, registry) := publisher.registry.add head method none
  (result, { publisher with registry })

/-- The message with a payload for a head and a method that may be published. -/
def message (head method : String) (payload : ByteArray) : Except BusError Message :=
  (Topic.validate head method).map fun () => Message.of head method payload

/-- The message with a payload for the registered topic at an index. -/
def registeredMessage (publisher : Publisher) (index : Nat) (payload : ByteArray) :
    Except BusError Message :=
  match publisher.registry.entry? index with
  | some entry => .ok ⟨entry.topic, payload⟩
  | none => .error (.invalidTopic ("no registered topic at index " ++ toString index))

/-- The socket to which a message goes.  Only a connected publisher sends anything. -/
def outlet (publisher : Publisher) : Except BusError SocketId :=
  if publisher.state ≠ .connected then .error (publisher.refuse "publish")
  else
    match publisher.writer with
    | some socket => .ok socket
    | none => .error .closed

/-- The connection failed while something was sent: it is let go, and the publisher is open again. -/
def lose (publisher : Publisher) (net : Network) : Publisher × Network :=
  ({ publisher with writer := none, state := .opened },
    match publisher.writer with
    | some socket => net.dropWriter socket
    | none => net)

/-- Close a publisher that is not closed. -/
def close (publisher : Publisher) (net : Network) : Except BusError Unit × Publisher × Network :=
  if publisher.state = .closed then (.error (publisher.refuse "close"), publisher, net)
  else
    let (publisher, net) := publisher.lose net
    (.ok (), { publisher with state := .closed }, net)

end Publisher

end DeviceBus
