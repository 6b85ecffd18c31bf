import DeviceBus.Filters
import DeviceBus.Router
import DeviceBus.Transport.Stream

/-!
# The receive loop

A receive loop reads one frame after the other, passes over those that no filter accepts or that are no
message, and calls a handler for each of the others before it reads on.  It looks whether it was cancelled
before each frame, so that a frame that has already arrived stays unread once it is.

`ReceiveLoop.step` is one step of the loop, `none` when nothing has arrived.  A handler that crashes ends
the loop as a whole.
-/

namespace DeviceBus

/-- Why a loop ended. -/
inductive ReceiveOutcome where
  | canceled
  | closed
  | failed (error : BusError)
  deriving DecidableEq, Repr

namespace ReceiveOutcome

/-- The name of an outcome. -/
def name : ReceiveOutcome → String
  | .canceled => "canceled"
  | .closed => "closed"
  | .failed _ => "failed"

/-- Whether a loop ended because it was cancelled. -/
def isCanceled : ReceiveOutcome → Bool
  | .canceled => true
  | _ => false

end ReceiveOutcome

/-- How a loop came to its end: it returned, or a handler crashed in it. -/
inductive LoopEnd where
  | returned (outcome : ReceiveOutcome)
  | crashed (reason : String)
  deriving DecidableEq, Repr

/-- Who is called for a message: one handler for all, or the one registered for its topic. -/
inductive Target (η : Type) where
  | direct (handler : η)
  | routed
  deriving DecidableEq, Repr

/-- A receive loop at work. -/
structure ReceiveLoop (η : Type) where
  stream : Stream
  target : Target η
  isCancelled : Bool := false
  ended : Option LoopEnd := none

/-- What a loop shares with its endpoint: filters and registered topics. -/
structure Subscription (η : Type) where
  filters : Filters := ∅
  registry : Registry η := ∅

/-- A handler that was called, and the message it was called with. -/
structure Call (η : Type) where
  handler : η
  message : Message

/-- What a body comes to: who was called, if anybody, how that ended, and the topics afterwards. -/
structure Delivery (η : Type) where
  call : Option (Call η)
  crash : Option String
  subscription : Subscription η

namespace Subscription

variable {η : Type}

/-- The message of a body that the filters accept, if it is one. -/
def accepted? (subscription : Subscription η) (body : ByteArray) : Option Message :=
  if subscription.filters.accepts body then (Message.decode body).toOption else none

/-- Deliver a message to one handler for all. -/
def deliverDirect (subscription : Subscription η) (behaviour : Behaviour η) (handler : η)
    (message : Message) : Delivery η :=
  let (verdict, registry) := (behaviour handler message).run subscription.registry
  { call := some ⟨handler, message⟩
    crash := match verdict with
      | .crashed reason => some reason
      | _ => none
    subscription := { subscription with registry } }

/-- Deliver a message to the handler of its topic. -/
def deliverRouted (subscription : Subscription η) (behaviour : Behaviour η) (message : Message) :
    Delivery η :=
  let routed := subscription.registry.dispatch behaviour message
  { call := routed.called.map fun handler => ⟨handler, message⟩
    crash := match routed.result with
      | .handlerCrashed reason => some reason
      | _ => none
    subscription := { subscription with registry := routed.registry } }

/-- Deliver a body. -/
def deliver (subscription : Subscription η) (behaviour : Behaviour η) (target : Target η)
    (body : ByteArray) : Delivery η :=
  match subscription.accepted? body with
  | none => ⟨none, none, subscription⟩
  | some message =>
      match target with
      | .direct handler => subscription.deliverDirect behaviour handler message
      | .routed => subscription.deliverRouted behaviour message

end Subscription

namespace ReceiveLoop

variable {η : Type}

/-- What a step of a loop changes. -/
structure Step (η : Type) where
  loop : ReceiveLoop η
  subscription : Subscription η
  call : Option (Call η)
  net : Network

/-- The loop with its end. -/
def finish (loop : ReceiveLoop η) (outcome : ReceiveOutcome) : ReceiveLoop η :=
  { loop with ended := some (.returned outcome) }

/-- One step of a loop; `stopped` tells whether the process is shutting down.  The reader of a loop that
crashes is let go. -/
def step (loop : ReceiveLoop η) (subscription : Subscription η) (behaviour : Behaviour η)
    (stopped : Bool) (net : Network) : Option (Step η) :=
  if loop.ended.isSome then none
  else if loop.isCancelled || stopped then some ⟨loop.finish .canceled, subscription, none, net⟩
  else
    match loop.stream.step net with
    | none => none
    | some (.hungry, stream, net) => some ⟨{ loop with stream }, subscription, none, net⟩
    | some (.finished, stream, net) =>
        some ⟨{ loop with stream }.finish .closed, subscription, none, net⟩
    | some (.failed fault, stream, net) =>
        some ⟨{ loop with stream }.finish (.failed (.transport "recv" fault)), subscription, none, net⟩
    | some (.frame body, stream, net) =>
        let delivery := subscription.deliver behaviour loop.target body
        match delivery.crash with
        | none => some ⟨{ loop with stream }, delivery.subscription, delivery.call, net⟩
        | some reason =>
            some ⟨{ loop with stream, ended := some (.crashed reason) }, delivery.subscription,
              delivery.call, net.dropReader stream.socket⟩

end ReceiveLoop

end DeviceBus
