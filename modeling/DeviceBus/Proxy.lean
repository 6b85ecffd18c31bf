import DeviceBus.BusError
import DeviceBus.Fanout
import DeviceBus.Transport.Stream

/-!
# The proxy

Publishers connect to the front of a proxy and subscribers to its back.  Every frame that arrives at the
front is broadcast to all connections at the back, and the proxy never looks into a frame.

Each connection is served by a pump of its own.  `Proxy` holds their states, and each function below is
one step of one of them; a step is `none` when the pump has nothing to do.  Once the proxy is cancelled it
accepts nothing more, and every pump ends at its next step.

A connection is counted as attached from when it is accepted until its pump ends.
-/

namespace DeviceBus

/-- The pump of a connection at the front: it reads frames and broadcasts them. -/
structure FrontPump where
  stream : Stream
  isRunning : Bool := true

/-- The pump of a connection at the back: it writes broadcast bodies as frames. -/
structure BackPump where
  stream : Stream
  cursor : Fanout.Cursor
  /-- the frame that is being written, and how many of its bytes are written -/
  sending : Option (ByteArray × Nat) := none
  isRunning : Bool := true

/-- The counters of the connections that are attached. -/
structure Attached where
  publishers : Nat := 0
  subscribers : Nat := 0
  deriving DecidableEq, Repr

/-- A proxy with its connections in the order in which they were accepted. -/
structure Proxy where
  front : ListenerId
  back : ListenerId
  fanout : Fanout := .empty
  publishers : Array FrontPump := #[]
  subscribers : Array BackPump := #[]
  attached : Attached := {}
  isCancelled : Bool := false

namespace Proxy

/-- Bind the front and the back of a proxy.  If the back cannot be bound, the front is given up again. -/
def bind (net : Network) (front back : Url) : Except BusError Proxy × Network :=
  match net.bind front with
  | (.error fault, net) => (.error (.transport "bind" fault), net)
  | (.ok front, net) =>
      match net.bind back with
      | (.error fault, net) => (.error (.transport "bind" fault), net.dropListener front)
      | (.ok back, net) => (.ok { front, back }, net)

/-- How many publishers are attached. -/
def publisherCount (proxy : Proxy) : Nat := proxy.attached.publishers

/-- How many subscribers are attached. -/
def subscriberCount (proxy : Proxy) : Nat := proxy.attached.subscribers

/-- Let a publisher in that waits.  Nothing is ever sent to it, so that direction is closed at once. -/
def letInPublisher (proxy : Proxy) (net : Network) : Option (Proxy × Network) :=
  (net.accept proxy.front).map fun (near, net) =>
    ({ proxy with
        publishers := proxy.publishers.push { stream := { socket := near } }
        attached := { proxy.attached with publishers := proxy.attached.publishers + 1 } },
      net.dropWriter near)

/-- Let a subscriber in that waits.  It gets what is broadcast from now on. -/
def letInSubscriber (proxy : Proxy) (net : Network) : Option (Proxy × Network) :=
  (net.accept proxy.back).map fun (near, net) =>
    let pump : BackPump := { stream := { socket := near }, cursor := proxy.fanout.subscribe }
    ({ proxy with
        subscribers := proxy.subscribers.push pump
        attached := { proxy.attached with subscribers := proxy.attached.subscribers + 1 } }, net)

/-- Accept a publisher, unless the proxy is cancelled. -/
def acceptPublisher (proxy : Proxy) (net : Network) : Option (Proxy × Network) :=
  if proxy.isCancelled then none else proxy.letInPublisher net

/-- Accept a subscriber, unless the proxy is cancelled. -/
def acceptSubscriber (proxy : Proxy) (net : Network) : Option (Proxy × Network) :=
  if proxy.isCancelled then none else proxy.letInSubscriber net

/-- Replace a pump at the front. -/
def setPublisher (proxy : Proxy) (index : Nat) (pump : FrontPump) : Proxy :=
  { proxy with publishers := proxy.publishers.setIfInBounds index pump }

/-- Replace a pump at the back. -/
def setSubscriber (proxy : Proxy) (index : Nat) (pump : BackPump) : Proxy :=
  { proxy with subscribers := proxy.subscribers.setIfInBounds index pump }

/-- End a pump at the front; its connection is attached no longer. -/
def endPublisher (proxy : Proxy) (net : Network) (index : Nat) (pump : FrontPump) : Proxy × Network :=
  ({ proxy.setPublisher index { pump with isRunning := false } with
      attached := { proxy.attached with publishers := proxy.attached.publishers - 1 } },
    net.close pump.stream.socket)

/-- End a pump at the back; its connection is attached no longer. -/
def endSubscriber (proxy : Proxy) (net : Network) (index : Nat) (pump : BackPump) : Proxy × Network :=
  ({ proxy.setSubscriber index { pump with isRunning := false, sending := none } with
      attached := { proxy.attached with subscribers := proxy.attached.subscribers - 1 } },
    net.close pump.stream.socket)

/-- One step of a pump at the front: read on, and broadcast the frame that was read. -/
def pumpPublisher (proxy : Proxy) (net : Network) (index : Nat) : Option (Proxy × Network) :=
  match proxy.publishers[index]? with
  | none => none
  | some pump =>
      if !pump.isRunning then none
      else if proxy.isCancelled then some (proxy.endPublisher net index pump)
      else
        match pump.stream.step net with
        | none => none
        | some (.hungry, stream, net) => some (proxy.setPublisher index { pump with stream }, net)
        | some (.frame body, stream, net) =>
            some ({ proxy.setPublisher index { pump with stream } with
              fanout := proxy.fanout.broadcast body }, net)
        | some (_, stream, net) => some (proxy.endPublisher net index { pump with stream })

/-- One step of a pump at the back that has no frame to write: see whether the subscriber has left, and
otherwise take the next broadcast body. -/
def nextForSubscriber (proxy : Proxy) (net : Network) (index : Nat) (pump : BackPump) :
    Option (Proxy × Network) :=
  match pump.stream.step net with
  | some (.failed _, stream, net) => some (proxy.endSubscriber net index { pump with stream })
  | some (.finished, stream, net) => some (proxy.endSubscriber net index { pump with stream })
  | some (_, stream, net) => some (proxy.setSubscriber index { pump with stream }, net)
  | none =>
      match proxy.fanout.receive pump.cursor with
      | (.nothing, _) => none
      | (.lagged _, cursor) => some (proxy.setSubscriber index { pump with cursor }, net)
      | (.body body, cursor) =>
          match Frame.encode body with
          | .ok frame =>
              some (proxy.setSubscriber index { pump with cursor, sending := some (frame, 0) }, net)
          | .error _ => some (proxy.endSubscriber net index { pump with cursor })

/-- One step of a pump at the back that has a frame to write: write what there is room for. -/
def writeToSubscriber (proxy : Proxy) (net : Network) (index : Nat) (pump : BackPump)
    (frame : ByteArray) (written : Nat) : Option (Proxy × Network) :=
  match net.write pump.stream.socket frame written with
  | .error _ => some (proxy.endSubscriber net index pump)
  | .ok (count, net) =>
      if written + count = frame.size then
        some (proxy.setSubscriber index { pump with sending := none }, net)
      else if count = 0 then none
      else some (proxy.setSubscriber index { pump with sending := some (frame, written + count) }, net)

/-- One step of a pump at the back. -/
def pumpSubscriber (proxy : Proxy) (net : Network) (index : Nat) : Option (Proxy × Network) :=
  match proxy.subscribers[index]? with
  | none => none
  | some pump =>
      if !pump.isRunning then none
      else if proxy.isCancelled then some (proxy.endSubscriber net index pump)
      else
        match pump.sending with
        | none => proxy.nextForSubscriber net index pump
        | some (frame, written) => proxy.writeToSubscriber net index pump frame written

/-- Give up the addresses of a proxy. -/
def drop (proxy : Proxy) (net : Network) : Network :=
  (net.dropListener proxy.front).dropListener proxy.back

end Proxy

end DeviceBus
