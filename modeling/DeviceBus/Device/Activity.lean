import DeviceBus.Endpoint.Publisher
import DeviceBus.Endpoint.Subscriber
import DeviceBus.Proxy

/-!
# A device and what goes on in it

A device is a network with the proxies, publishers and subscribers on it.  What they do by themselves is
divided into activities: a proxy accepts a connection, a pump goes one step on, a receive loop goes one
step on.  `Device.perform` is one step of one activity, `none` when it has nothing to do.  Any order of
such steps is a possible run; `Device.settle` follows one of them until nothing moves.

The order that `settle` follows lets connections in first, and then prefers the activities closer to the
handlers, so that what is on its way is delivered before anything more is read.
-/

namespace DeviceBus

/-- The number of a proxy on a device. -/
abbrev ProxyId := Nat

/-- The number of a publisher on a device. -/
abbrev PublisherId := Nat

/-- The number of a subscriber on a device. -/
abbrev SubscriberId := Nat

/-- A network and everything that is attached to it. -/
structure Device (η : Type) where
  net : Network
  proxies : Array Proxy := #[]
  publishers : Array Publisher := #[]
  subscribers : Array (Subscriber η) := #[]
  /-- the signals that were given -/
  signals : List String := []
  /-- every call of a handler, the first one first -/
  calls : Array (SubscriberId × Call η) := #[]

/-- Something that goes on in a device by itself. -/
inductive Activity where
  /-- a proxy lets a publisher in -/
  | acceptPublisher (proxy : ProxyId)
  /-- a proxy lets a subscriber in -/
  | acceptSubscriber (proxy : ProxyId)
  /-- a receive loop goes on -/
  | receive (subscriber : SubscriberId)
  /-- a pump at the back of a proxy goes on -/
  | pumpSubscriber (proxy : ProxyId) (index : Nat)
  /-- a pump at the front of a proxy goes on -/
  | pumpPublisher (proxy : ProxyId) (index : Nat)
  deriving DecidableEq, Repr

namespace Device

variable {η : Type}

/-- A device with nothing on it but files, from which the network is reached by some routes. -/
def ofFiles (files : FileTree) (routes : String → Route := fun _ => .nowhere .unreachable) : Device η :=
  { net := { files, routes } }

/-- Whether the signal of a subscriber was given. -/
def isStopped (device : Device η) (subscriber : Subscriber η) : Bool :=
  match subscriber.signal with
  | some signal => device.signals.contains signal
  | none => false

/-- A step of a proxy. -/
def performProxy (device : Device η) (id : ProxyId)
    (step : Proxy → Network → Option (Proxy × Network)) : Option (Device η) :=
  match device.proxies[id]? with
  | none => none
  | some proxy =>
      (step proxy device.net).map fun (proxy, net) =>
        { device with net, proxies := device.proxies.setIfInBounds id proxy }

/-- A step of a receive loop.  The reader of a subscriber that was given up is let go when its loop has
ended. -/
def performReceive (device : Device η) (behaviour : Behaviour η) (id : SubscriberId) :
    Option (Device η) :=
  match device.subscribers[id]? with
  | none => none
  | some subscriber =>
      match subscriber.receive with
      | none => none
      | some loop =>
          match loop.step subscriber.subscription behaviour (device.isStopped subscriber) device.net with
          | some next =>
              let subscriber :=
                { subscriber with receive := some next.loop, subscription := next.subscription }
              some
                { device with
                  net := next.net
                  subscribers := device.subscribers.setIfInBounds id subscriber
                  calls := match next.call with
                    | some call => device.calls.push (id, call)
                    | none => device.calls }
          | none =>
              (subscriber.collectDropped device.net).map fun (subscriber, net) =>
                { device with net, subscribers := device.subscribers.setIfInBounds id subscriber }

/-- One step of an activity. -/
def perform (device : Device η) (behaviour : Behaviour η) : Activity → Option (Device η)
  | .acceptPublisher id => device.performProxy id Proxy.acceptPublisher
  | .acceptSubscriber id => device.performProxy id Proxy.acceptSubscriber
  | .receive id => device.performReceive behaviour id
  | .pumpSubscriber id index =>
      device.performProxy id fun proxy net => proxy.pumpSubscriber net index
  | .pumpPublisher id index =>
      device.performProxy id fun proxy net => proxy.pumpPublisher net index

/-- All activities, in the order in which they are preferred. -/
def activities (device : Device η) : List Activity :=
  let proxies := List.range device.proxies.size
  let pumps (count : Proxy → Nat) (activity : ProxyId → Nat → Activity) : List Activity :=
    proxies.flatMap fun id =>
      match device.proxies[id]? with
      | some proxy => (List.range (count proxy)).map (activity id)
      | none => []
  proxies.flatMap (fun id => [.acceptPublisher id, .acceptSubscriber id])
    ++ (List.range device.subscribers.size).map .receive
    ++ pumps (fun proxy => proxy.subscribers.size) .pumpSubscriber
    ++ pumps (fun proxy => proxy.publishers.size) .pumpPublisher

/-- The next step of a device, `none` when nothing moves. -/
def next? (device : Device η) (behaviour : Behaviour η) : Option (Device η) :=
  device.activities.findSome? (device.perform behaviour)

/-- Follow at most so many steps. -/
def follow (behaviour : Behaviour η) : Nat → Device η → Device η
  | 0, device => device
  | steps + 1, device =>
      match device.next? behaviour with
      | some device => follow behaviour steps device
      | none => device

/-- How many bytes have arrived and not been taken as frames. -/
def pendingBytes (device : Device η) : Nat :=
  let buffered (stream : Stream) := stream.reader.decoder.buffer.size
  device.net.sockets.foldl (fun sum socket => sum + socket.incoming.size) 0
    + device.subscribers.foldl (fun sum subscriber =>
        sum + (subscriber.receive.map fun loop => buffered loop.stream).getD 0) 0
    + device.proxies.foldl (fun sum proxy =>
        sum + proxy.publishers.foldl (fun sum pump => sum + buffered pump.stream) 0
          + proxy.subscribers.foldl (fun sum pump => sum + buffered pump.stream) 0) 0

/-- How many broadcast bodies there are. -/
def broadcastCount (device : Device η) : Nat :=
  device.proxies.foldl (fun sum proxy => sum + proxy.fanout.log.size) 0

/-- More steps than a device can take by itself.  Each step uses up a byte, a broadcast body or a
connection for a few steps at most; a body that is broadcast can go to every socket, and is no longer than
a frame. -/
def patience (device : Device η) : Nat :=
  let connections := device.net.sockets.size + device.subscribers.size + 1
  16 * connections
    * (device.pendingBytes + (device.broadcastCount + 1) * (Frame.maxLength + 16) + connections)

/-- Go on until nothing moves. -/
def settle (device : Device η) (behaviour : Behaviour η) : Device η :=
  follow behaviour device.patience device

end Device

end DeviceBus
