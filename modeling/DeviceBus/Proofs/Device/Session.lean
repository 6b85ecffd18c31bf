import DeviceBus.Device.Operations
import DeviceBus.Proofs.Subscriber.Lifecycle

/-!
# Sessions around a proxy

A session is a device with one proxy, publishers that connect to its front, and subscribers.  A run is any
sequence of events: an activity of the device goes one step on, an owner does something with an endpoint,
or a publisher writes the next piece of the frame that it is sending.  So any number of publishers may be
in the middle of a frame at the same time, while everything else goes on.

Beside the device a session knows what each publisher is sending and what was published so far.  A message
counts as published from the moment the last byte of its frame is written, which is when publishing
returns.  While a publisher is sending, its owner can do nothing else with it but give it up.
-/

namespace DeviceBus

/-! ## Publishers -/

namespace Publisher

/-- What the owner of a publisher can do with it besides publishing. -/
inductive Operation where
  | openUp
  | dial
  | addTopic (head method : String)
  | close

/-- Carry out an operation. -/
def perform (publisher : Publisher) (net : Network) : Operation → Except BusError Unit × Publisher × Network
  | .openUp =>
      let (result, publisher) := publisher.openUp
      (result, publisher, net)
  | .dial => publisher.dial net
  | .addTopic head method =>
      let (result, publisher) := publisher.addTopic head method
      (result.map fun _ => (), publisher, net)
  | .close => publisher.close net

end Publisher

/-! ## Sessions -/

/-- A message on its way out of a publisher. -/
structure Outgoing where
  message : Message
  socket : SocketId
  frame : ByteArray
  /-- how many bytes of the frame are written -/
  written : Nat := 0

/-- A device with what its publishers are sending and what they have published. -/
structure Session (η : Type) where
  device : Device η
  /-- the address to which the publishers connect -/
  front : Url
  sending : PublisherId → Option Outgoing := fun _ => none
  /-- every published message with the connection on which it went out, the first one first -/
  published : List (SocketId × Message) := []

namespace Session

variable {η : Type}

/-- Something that happens in a session. -/
inductive Event (η : Type) where
  | activity (activity : Activity)
  | addPublisher
  | addSubscriber (url : Url) (signal : Option String)
  | publisher (id : PublisherId) (operation : Publisher.Operation)
  | publish (id : PublisherId) (head method : String) (payload : ByteArray)
  | publishRegistered (id : PublisherId) (index : Nat) (payload : ByteArray)
  /-- a publisher that is sending writes as much as there is room for -/
  | write (id : PublisherId)
  | dropPublisher (id : PublisherId)
  | subscriber (id : SubscriberId) (operation : Subscriber.Operation η)
  | dropSubscriber (id : SubscriberId)
  | giveSignal (signal : String)

/-- Whether somebody begins to publish a message. -/
def Event.Publishes : Event η → Prop
  | .publish _ _ _ _ | .publishRegistered _ _ _ => True
  | _ => False

/-- What a publisher is sending from now on. -/
def setSending (session : Session η) (id : PublisherId) (outgoing : Option Outgoing) : Session η :=
  { session with sending := fun other => if other = id then outgoing else session.sending other }

/-- The connection of a publisher failed while it was sending. -/
def fail (session : Session η) (id : PublisherId) (fault : SystemFault) : Session η :=
  ({ session with device := (session.device.loseConnection id fault).2 }).setSending id none

/-- Begin to send a message. -/
def send (session : Session η) (id : PublisherId) (message : Message) : Session η :=
  match session.device.publishers[id]? with
  | none => session
  | some publisher =>
      match publisher.outlet, Frame.encode message.encode with
      | .error _, _ => session
      | .ok _, .error fault => session.fail id fault
      | .ok socket, .ok frame => session.setSending id (some { message, socket, frame })

/-- Write the next piece of the frame that a publisher is sending. -/
def write (session : Session η) (id : PublisherId) : Session η :=
  match session.sending id with
  | none => session
  | some outgoing =>
      match session.device.net.write outgoing.socket outgoing.frame outgoing.written with
      | .error fault => session.fail id fault
      | .ok (count, net) =>
          let session := { session with device := { session.device with net } }
          if outgoing.written + count = outgoing.frame.size then
            { session with
              published := session.published ++ [(outgoing.socket, outgoing.message)] }.setSending id none
          else session.setSending id (some { outgoing with written := outgoing.written + count })

/-- One event. -/
def step (behaviour : Behaviour η) (session : Session η) : Event η → Session η
  | .activity activity =>
      match session.device.perform behaviour activity with
      | some device => { session with device }
      | none => session
  | .addPublisher =>
      { session with device := (session.device.addPublisher (.create session.front)).2 }
  | .addSubscriber url signal =>
      { session with device := (session.device.addSubscriber (.create url signal)).2 }
  | .publisher id operation =>
      if (session.sending id).isSome then session
      else
        { session with
          device := (session.device.withPublisher id fun publisher net =>
            publisher.perform net operation).2 }
  | .publish id head method payload =>
      match session.sending id, Publisher.message head method payload with
      | none, .ok message => session.send id message
      | _, _ => session
  | .publishRegistered id index payload =>
      match session.sending id, session.device.publishers[id]? with
      | none, some publisher =>
          match publisher.registeredMessage index payload with
          | .ok message => session.send id message
          | .error _ => session
      | _, _ => session
  | .write id => session.write id
  | .dropPublisher id => { session with device := session.device.dropPublisher id }.setSending id none
  | .subscriber id operation =>
      -- nobody owns a subscriber that was given up
      if (session.device.subscribers[id]?.map Subscriber.isDropped).getD true then session
      else
        { session with
          device := (session.device.withSubscriber id fun subscriber net =>
            subscriber.perform (session.device.isStopped subscriber) net operation).2 }
  | .dropSubscriber id =>
      if (session.device.subscribers[id]?.map Subscriber.isDropped).getD true then session
      else { session with device := session.device.dropSubscriber id }
  | .giveSignal signal => { session with device := session.device.giveSignal signal }

/-- All events of a list, one after the other. -/
def run (behaviour : Behaviour η) (session : Session η) (events : List (Event η)) : Session η :=
  events.foldl (step behaviour) session

/-- A property holds before, between and after all events of a list. -/
def Always (behaviour : Behaviour η) (property : Session η → Prop) :
    Session η → List (Event η) → Prop
  | session, [] => property session
  | session, event :: events =>
      property session ∧ Always behaviour property (session.step behaviour event) events

instance decidableAlways (behaviour : Behaviour η) (property : Session η → Prop)
    [DecidablePred property] :
    ∀ session events, Decidable (Always behaviour property session events)
  | session, [] => inferInstanceAs (Decidable (property session))
  | session, event :: events =>
      have := decidableAlways behaviour property (session.step behaviour event) events
      inferInstanceAs (Decidable (property session ∧ _))

/-- What was published on a connection. -/
def sentOn (session : Session η) (socket : SocketId) : List Message :=
  (session.published.filter (·.1 = socket)).map Prod.snd

/-- All calls of the handlers of a subscriber. -/
def heard (session : Session η) (id : SubscriberId) : List (Call η) :=
  (session.device.calls.toList.filter (·.1 = id)).map Prod.snd

/-- The proxy and the loop of a subscriber have nothing left to do. -/
def Settled (behaviour : Behaviour η) (id : SubscriberId) (session : Session η) : Prop :=
  ∀ activity : Activity, (∀ other, activity = .receive other → other = id) →
    session.device.perform behaviour activity = none

/-- A device with no next step has nothing left to do, not even for activities that it does not list. -/
theorem perform_eq_none_of_next? {device : Device η} {behaviour : Behaviour η}
    (h : device.next? behaviour = none) (activity : Activity) :
    device.perform behaviour activity = none := by
  have hlisted := List.findSome?_eq_none_iff.1 h activity
  simp only [Device.activities, List.mem_append, List.mem_flatMap, List.mem_map, List.mem_range] at hlisted
  cases activity with
  | acceptPublisher id =>
      by_cases hin : id < device.proxies.size
      · exact hlisted (by simp [hin])
      · simp [Device.perform, Device.performProxy, hin]
  | acceptSubscriber id =>
      by_cases hin : id < device.proxies.size
      · exact hlisted (by simp [hin])
      · simp [Device.perform, Device.performProxy, hin]
  | receive id =>
      by_cases hin : id < device.subscribers.size
      · exact hlisted (by simp [hin])
      · simp [Device.perform, Device.performReceive, hin]
  | pumpSubscriber id index =>
      cases hproxy : device.proxies[id]? with
      | none => simp [Device.perform, Device.performProxy, hproxy]
      | some proxy =>
          obtain ⟨hin, -⟩ := Array.getElem?_eq_some_iff.1 hproxy
          by_cases hindex : index < proxy.subscribers.size
          · refine hlisted (.inl (.inr ⟨id, hin, ?_⟩))
            simp [hproxy, hindex]
          · simp [Device.perform, Device.performProxy, hproxy, Proxy.pumpSubscriber, hindex]
  | pumpPublisher id index =>
      cases hproxy : device.proxies[id]? with
      | none => simp [Device.perform, Device.performProxy, hproxy]
      | some proxy =>
          obtain ⟨hin, -⟩ := Array.getElem?_eq_some_iff.1 hproxy
          by_cases hindex : index < proxy.publishers.size
          · refine hlisted (.inr ⟨id, hin, ?_⟩)
            simp [hproxy, hindex]
          · simp [Device.perform, Device.performProxy, hproxy, Proxy.pumpPublisher, hindex]

end Session

end DeviceBus
