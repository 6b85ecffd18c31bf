import DeviceBus.Device.Activity

/-!
# Operations on a device

What the owner of a device does with it: set up proxies and endpoints, connect them, publish, arm and
stop.  An operation returns when it is complete.  Most take no time; writing may have to wait until the
other end has read something, and stopping a proxy waits for its pumps.  While an operation waits,
everything else goes on.

Proxies and endpoints are known by their numbers.  An operation on a number that was never given out
fails as on something closed.
-/

namespace DeviceBus

/-- How writing all of some bytes ended: they are written, the connection failed, or the other end does
not read and nothing else moves. -/
inductive Written where
  | complete
  | failed (fault : SystemFault)
  | stuck
  deriving DecidableEq, Repr

/-- How publishing ended: the whole frame is written, it failed, or it waits for ever with a part of the
frame written. -/
inductive Publication where
  | sent
  | failed (error : BusError)
  | waiting
  deriving DecidableEq, Repr

namespace Device

variable {η : Type}

/-- Wait until something can be written to a socket, if there is no room in it. -/
def awaitRoom (device : Device η) (behaviour : Behaviour η) (socket : SocketId) : Device η :=
  match device.net.room socket with
  | .error _ => device
  | .ok room => if room = 0 then device.settle behaviour else device

/-- Write bytes to a socket from a position on. -/
def writeFrom (device : Device η) (behaviour : Behaviour η) (socket : SocketId) (bytes : ByteArray)
    (offset : Nat) : Written × Device η :=
  if bytes.size ≤ offset then (.complete, device)
  else
    let device := device.awaitRoom behaviour socket
    match device.net.write socket bytes offset with
    | .error fault => (.failed fault, device)
    | .ok (count, net) =>
        if count = 0 then (.stuck, device)
        else writeFrom { device with net } behaviour socket bytes (offset + count)
  termination_by bytes.size - offset
  decreasing_by omega

/-- Write bytes to a socket. -/
def write (device : Device η) (behaviour : Behaviour η) (socket : SocketId) (bytes : ByteArray) :
    Written × Device η :=
  device.writeFrom behaviour socket bytes 0

/-- Bind a proxy and let it run. -/
def startProxy (device : Device η) (front back : Url) : Except BusError ProxyId × Device η :=
  match Proxy.bind device.net front back with
  | (.error error, net) => (.error error, { device with net })
  | (.ok proxy, net) =>
      (.ok device.proxies.size, { device with net, proxies := device.proxies.push proxy })

/-- Stop a proxy: cancel it, wait until all its pumps have ended, and give up its addresses. -/
def stopProxy (device : Device η) (behaviour : Behaviour η) (id : ProxyId) : Device η :=
  let cancelled := device.proxies.modify id fun proxy => { proxy with isCancelled := true }
  let device := { device with proxies := cancelled }.settle behaviour
  match device.proxies[id]? with
  | some proxy => { device with net := proxy.drop device.net }
  | none => device

/-- Add a publisher. -/
def addPublisher (device : Device η) (publisher : Publisher) : PublisherId × Device η :=
  (device.publishers.size, { device with publishers := device.publishers.push publisher })

/-- Add a subscriber. -/
def addSubscriber (device : Device η) (subscriber : Subscriber η) : SubscriberId × Device η :=
  (device.subscribers.size, { device with subscribers := device.subscribers.push subscriber })

/-- Do something with a publisher. -/
def withPublisher {α : Type} (device : Device η) (id : PublisherId)
    (operation : Publisher → Network → Except BusError α × Publisher × Network) :
    Except BusError α × Device η :=
  match device.publishers[id]? with
  | none => (.error .closed, device)
  | some publisher =>
      let (result, publisher, net) := operation publisher device.net
      (result, { device with net, publishers := device.publishers.setIfInBounds id publisher })

/-- Do something with a subscriber. -/
def withSubscriber {α : Type} (device : Device η) (id : SubscriberId)
    (operation : Subscriber η → Network → Except BusError α × Subscriber η × Network) :
    Except BusError α × Device η :=
  match device.subscribers[id]? with
  | none => (.error .closed, device)
  | some subscriber =>
      let (result, subscriber, net) := operation subscriber device.net
      (result, { device with net, subscribers := device.subscribers.setIfInBounds id subscriber })

/-- Let the connection of a publisher go after a failure to send. -/
def loseConnection (device : Device η) (id : PublisherId) (fault : SystemFault) :
    Publication × Device η :=
  (.failed (.transport "send" fault),
    (device.withPublisher id fun publisher net => (.ok (), publisher.lose net)).2)

/-- Send a message from a publisher.  A body that is too long for a frame is never written. -/
def send (device : Device η) (behaviour : Behaviour η) (id : PublisherId) (message : Message) :
    Publication × Device η :=
  match device.publishers[id]? with
  | none => (.failed .closed, device)
  | some publisher =>
      match publisher.outlet, Frame.encode message.encode with
      | .error error, _ => (.failed error, device)
      | .ok _, .error fault => device.loseConnection id fault
      | .ok socket, .ok frame =>
          match device.write behaviour socket frame with
          | (.complete, device) => (.sent, device)
          | (.failed fault, device) => device.loseConnection id fault
          | (.stuck, device) => (.waiting, device)

/-- Publish a payload for a head and a method. -/
def publish (device : Device η) (behaviour : Behaviour η) (id : PublisherId) (head method : String)
    (payload : ByteArray) : Publication × Device η :=
  match Publisher.message head method payload with
  | .error error => (.failed error, device)
  | .ok message => device.send behaviour id message

/-- Publish a payload for a registered topic. -/
def publishRegistered (device : Device η) (behaviour : Behaviour η) (id : PublisherId) (index : Nat)
    (payload : ByteArray) : Publication × Device η :=
  match device.publishers[id]? with
  | none => (.failed .closed, device)
  | some publisher =>
      match publisher.registeredMessage index payload with
      | .error error => (.failed error, device)
      | .ok message => device.send behaviour id message

/-- Give a publisher up. -/
def dropPublisher (device : Device η) (id : PublisherId) : Device η :=
  (device.withPublisher id fun publisher net => (.ok (), publisher.lose net)).2

/-- Give a subscriber up. -/
def dropSubscriber (device : Device η) (id : SubscriberId) : Device η :=
  (device.withSubscriber id fun subscriber net => (.ok (), subscriber.drop net)).2

/-- Let a subscriber receive. -/
def arm (device : Device η) (id : SubscriberId) (target : Target η) :
    Except BusError Unit × Device η :=
  device.withSubscriber id fun subscriber net =>
    let (result, subscriber) := subscriber.arm target (device.isStopped subscriber)
    (result, subscriber, net)

/-- Give a signal: every loop of a subscriber that is tied to it stops. -/
def giveSignal (device : Device η) (signal : String) : Device η :=
  { device with signals := signal :: device.signals }

end Device

end DeviceBus
