import DeviceBus.Endpoint.State
import DeviceBus.Receive

/-!
# Subscribers

A subscriber connects to the back of a proxy, filters what arrives by prefixes, and hands it to handlers
through a receive loop.  While it is connected it holds the half for writing of its connection, its link,
so that the proxy sees it attached; the half for reading is either its own or with the loop.

Stopping cancels the loop and takes the reader back.  A loop that ended for another reason has lost the
connection, and the subscriber is open again.  A loop that is told to stop and has not ended does nothing
more but end, so it is collected as canceled without waiting for its last step.
-/

namespace DeviceBus

/-- The receiving side of a process. -/
structure Subscriber (η : Type) where
  url : Url
  /-- the name of the signal on which every loop of this subscriber stops -/
  signal : Option String := none
  state : EndpointState := .initial
  subscription : Subscription η := {}
  reader : Option Stream := none
  link : Option SocketId := none
  receive : Option (ReceiveLoop η) := none
  /-- given up by its owner; the loop may still have to end -/
  isDropped : Bool := false

namespace Subscriber

variable {η : Type}

/-- A closed subscriber for an address. -/
def create (url : Url) (signal : Option String) : Subscriber η := { url, signal }

/-- The state of the receiving side; `stopped` tells whether the signal was given. -/
def receiveState (subscriber : Subscriber η) (stopped : Bool) : ReceiveState :=
  match subscriber.receive with
  | none => .idle
  | some loop =>
      if loop.ended.isSome then .idle
      else if loop.isCancelled || stopped then .stopping
      else .armed

/-- Both states as one text. -/
def stateText (subscriber : Subscriber η) (stopped : Bool) : String :=
  subscriber.state.name ++ "/" ++ (subscriber.receiveState stopped).name

/-- The error of an operation that the state does not allow. -/
def refuse (subscriber : Subscriber η) (operation : String) : BusError :=
  .invalidState operation subscriber.state.name

/-- Open a closed subscriber. -/
def openUp (subscriber : Subscriber η) : Except BusError Unit × Subscriber η :=
  if subscriber.state = .closed then (.ok (), { subscriber with state := .opened })
  else (.error (subscriber.refuse "open"), subscriber)

/-- Connect an open subscriber. -/
def dial (subscriber : Subscriber η) (net : Network) :
    Except BusError Unit × Subscriber η × Network :=
  if subscriber.state ≠ .opened then (.error (subscriber.refuse "dial"), subscriber, net)
  else
    match net.connect subscriber.url with
    | .error fault => (.error (.transport "dial" fault), subscriber, net)
    | .ok (socket, net) =>
        (.ok (),
          { subscriber with state := .connected, reader := some { socket }, link := some socket },
          net)

/-- Connect an open subscriber, and try again where that fails.  Each attempt finds the network as it is by
then; `later` lists what the attempts after the first one find. -/
def dialRetrying (subscriber : Subscriber η) (net : Network) (later : List Network) :
    Except BusError Unit × Subscriber η × Network :=
  match later, subscriber.dial net with
  | next :: later, (.error (.transport _ _), _, _) => subscriber.dialRetrying next later
  | _, answer => answer

/-- Accept bodies that begin with some bytes. -/
def addFilter (subscriber : Subscriber η) (filter : ByteArray) : Subscriber η :=
  let subscription := subscriber.subscription
  { subscriber with subscription := { subscription with filters := subscription.filters.add filter } }

/-- Register a topic with its handler and subscribe to it. -/
def addTopic (subscriber : Subscriber η) (head method : String) (handler : η) :
    Except BusError Nat × Subscriber η :=
  match subscriber.subscription.registry.add head method (some handler) with
  | (.error error, _) => (.error error, subscriber)
  | (.ok index, registry) =>
      let subscription := { subscriber.subscription with registry }
      (.ok index,
        { subscriber with subscription }.addFilter (Topic.compose head method).toByteArray)

/-- Subscribe to all topics that begin with a text. -/
def subscribePrefix (subscriber : Subscriber η) (text : String) : Subscriber η :=
  subscriber.addFilter text.toByteArray

/-- Start to receive. -/
def arm (subscriber : Subscriber η) (target : Target η) (stopped : Bool) :
    Except BusError Unit × Subscriber η :=
  if subscriber.state ≠ .connected ∨ subscriber.receive.isSome then
    (.error (.invalidState "arm" (subscriber.stateText stopped)), subscriber)
  else
    match subscriber.reader with
    | none => (.error (subscriber.refuse "arm"), subscriber)
    | some stream =>
        (.ok (), { subscriber with reader := none, receive := some { stream, target } })

/-- Tell the loop to stop, if there is one. -/
def cancel (subscriber : Subscriber η) : Subscriber η :=
  { subscriber with receive := subscriber.receive.map fun loop => { loop with isCancelled := true } }

/-- Let the link go. -/
def dropLink (subscriber : Subscriber η) (net : Network) : Subscriber η × Network :=
  ({ subscriber with link := none },
    match subscriber.link with
    | some socket => net.dropWriter socket
    | none => net)

/-- Let the reader go. -/
def dropReader (subscriber : Subscriber η) (net : Network) : Subscriber η × Network :=
  ({ subscriber with reader := none },
    match subscriber.reader with
    | some stream => net.dropReader stream.socket
    | none => net)

/-- The connection is lost. -/
def lose (subscriber : Subscriber η) (net : Network) : Subscriber η × Network :=
  let (subscriber, net) := subscriber.dropLink net
  ({ subscriber with state := .opened }, net)

/-- Stop to receive.  A subscriber that does not receive stops as canceled. -/
def stop (subscriber : Subscriber η) (net : Network) :
    Except BusError ReceiveOutcome × Subscriber η × Network :=
  match subscriber.receive with
  | none => (.ok .canceled, subscriber, net)
  | some loop =>
      let subscriber := { subscriber with receive := none }
      match loop.ended.getD (.returned .canceled) with
      | .returned .canceled => (.ok .canceled, { subscriber with reader := some loop.stream }, net)
      | .returned outcome =>
          let (subscriber, net) := subscriber.lose (net.dropReader loop.stream.socket)
          (.ok outcome, subscriber, net)
      | .crashed reason =>
          let (subscriber, net) := subscriber.lose net
          (.error (.receiveAborted reason), subscriber, net)

/-- Close a subscriber that is not closed.  After a loop that crashed this reports the crash, and the
subscriber is open. -/
def close (subscriber : Subscriber η) (net : Network) :
    Except BusError Unit × Subscriber η × Network :=
  if subscriber.state = .closed then (.error (subscriber.refuse "close"), subscriber, net)
  else
    match subscriber.stop net with
    | (.error error, subscriber, net) => (.error error, subscriber, net)
    | (.ok _, subscriber, net) =>
        let (subscriber, net) := subscriber.dropReader net
        let (subscriber, net) := subscriber.dropLink net
        (.ok (), { subscriber with state := .closed }, net)

/-- Give a subscriber up.  Its loop is cancelled and ends by itself. -/
def drop (subscriber : Subscriber η) (net : Network) : Subscriber η × Network :=
  let (subscriber, net) := subscriber.dropReader net
  let (subscriber, net) := subscriber.dropLink net
  ({ subscriber with isDropped := true }.cancel, net)

/-- The loop of a subscriber that was given up has ended: its reader is let go. -/
def collectDropped (subscriber : Subscriber η) (net : Network) : Option (Subscriber η × Network) :=
  match subscriber.receive with
  | some loop =>
      if subscriber.isDropped && loop.ended.isSome then
        some ({ subscriber with receive := none }, net.dropReader loop.stream.socket)
      else none
  | none => none

end Subscriber

end DeviceBus
