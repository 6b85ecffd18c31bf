import DeviceBus.Proofs.Bytes
import DeviceBus.Proofs.Transport.Network
import DeviceBus.Proxy

/-!
# Runs of a proxy

A proxy at work is a proxy, the network around it, and all the others that use that network.  A run is any
sequence of events: the proxy accepts a connection, one of its pumps goes a step on, it is cancelled, or
somebody else connects, writes, reads or lets go of something.  Those others hold the far ends of
connections, which have the even numbers; the near ends belong to the proxy.

Beside the state a `Journal` is kept of what happened: the bytes that have arrived at each socket, who
broadcast what, and which frames were handed to which subscriber.  No step looks into it.
-/

namespace DeviceBus

/-- What is remembered of a run. -/
structure Journal where
  /-- all bytes that have arrived at a socket, read or not -/
  arrived : SocketId → List UInt8 := fun _ => []
  /-- the bodies that were broadcast, each with the number of the pump that read it -/
  broadcasts : List (Nat × ByteArray) := []
  /-- the frames that each pump at the back was handed to write -/
  handed : Nat → List ByteArray := fun _ => []
  /-- how many bodies had been broadcast when each pump at the back was started -/
  started : Nat → Nat := fun _ => 0

/-- A proxy, its network, and what is remembered of their run. -/
structure Exchange where
  proxy : Proxy
  net : Network
  journal : Journal := {}

namespace Exchange

/-- What the holder of a far end can do with it. -/
inductive Deed where
  | write (bytes : ByteArray) (offset : Nat)
  | take
  | dropWriter
  | dropReader
  | close

/-- Carry out a deed on a far end.  Who has let go of the half for writing cannot write. -/
def Deed.perform (net : Network) (far : SocketId) : Deed → Network
  | .write bytes offset =>
      if (net.socket far).writeHeld then
        match net.write far bytes offset with
        | .ok (_, net) => net
        | .error _ => net
      else net
  | .take => (net.take far).2
  | .dropWriter => net.dropWriter far
  | .dropReader => net.dropReader far
  | .close => net.close far

/-- Something that happens at a proxy or around it. -/
inductive Event where
  | acceptPublisher
  | acceptSubscriber
  | pumpPublisher (index : Nat)
  | pumpSubscriber (index : Nat)
  | cancel
  /-- somebody connects to a listener -/
  | join (listener : ListenerId)
  /-- the holder of the far end with the number `2 * connection` does something -/
  | far (connection : Nat) (deed : Deed)

/-- What an event comes to; `none` where a pump has nothing to do. -/
def next? (proxy : Proxy) (net : Network) : Event → Option (Proxy × Network)
  | .acceptPublisher => proxy.acceptPublisher net
  | .acceptSubscriber => proxy.acceptSubscriber net
  | .pumpPublisher index => proxy.pumpPublisher net index
  | .pumpSubscriber index => proxy.pumpSubscriber net index
  | .cancel => some ({ proxy with isCancelled := true }, net)
  | .join listener => some (proxy, net.join listener)
  | .far connection deed => some (proxy, deed.perform net (2 * connection))

/-- The frame that is to be written after an event and was not before. -/
def newFrame : (before after : Option (ByteArray × Nat)) → List ByteArray
  | none, some (frame, _) => [frame]
  | _, _ => []

/-- The frame that a pump at the back was handed by an event. -/
def handedOver (before after : Proxy) (index : Nat) : List ByteArray :=
  newFrame (before.subscribers[index]?.bind BackPump.sending)
    (after.subscribers[index]?.bind BackPump.sending)

/-- The bodies that were broadcast by an event. -/
def broadcastBy (before after : Proxy) : Event → List (Nat × ByteArray)
  | .pumpPublisher index =>
      (after.fanout.log.toList.drop before.fanout.log.size).map fun body => (index, body)
  | _ => []

/-- The bytes that have arrived at a socket in between. -/
def arrivedBetween (before after : Network) (id : SocketId) : List UInt8 :=
  (bytesOf (after.socket id).incoming).drop (before.socket id).incoming.size

/-- Remember an event. -/
def note (journal : Journal) (event : Event) (proxy : Proxy) (net : Network) (proxy' : Proxy)
    (net' : Network) : Journal where
  arrived id := journal.arrived id ++ arrivedBetween net net' id
  broadcasts := journal.broadcasts ++ broadcastBy proxy proxy' event
  handed index := journal.handed index ++ handedOver proxy proxy' index
  -- a pump that has not been started yet will start behind all that was broadcast so far
  started index :=
    if index < proxy.subscribers.size then journal.started index else proxy'.fanout.log.size

/-- One event. -/
def step (exchange : Exchange) (event : Event) : Exchange :=
  match next? exchange.proxy exchange.net event with
  | none => exchange
  | some (proxy, net) =>
      ⟨proxy, net, note exchange.journal event exchange.proxy exchange.net proxy net⟩

/-- All events of a list, one after the other. -/
def run (exchange : Exchange) (events : List Event) : Exchange := events.foldl step exchange

/-- A proxy that was just bound. -/
def start (proxy : Proxy) (net : Network) : Exchange := { proxy, net }

/-- The bodies that a pump at the front has broadcast, the first one first. -/
def sentBy (journal : Journal) (index : Nat) : List ByteArray :=
  (journal.broadcasts.filter (·.1 = index)).map Prod.snd

end Exchange

end DeviceBus
