import DeviceBus.Message
import DeviceBus.Registry

/-!
# Routing messages to handlers

A message goes to the handler of the entry that the registry gives for its head and method.  A handler
is known by a value of some type `η`, and a `Behaviour` says how it reacts to a message: it may register
further topics, one after the other, and then it ends with a verdict.  Routing a message runs at most one
handler, and the registry changes only by what that handler registers.
-/

namespace DeviceBus

/-- How a handler's run ended. -/
inductive Verdict where
  | succeeded
  | failed (error : BusError)
  | crashed (reason : String)
  deriving DecidableEq, Repr

/-- What a handler does when it is called: register topics, seeing each result, and end. -/
inductive Reaction (η : Type) where
  | finish (verdict : Verdict)
  | register (head method : String) (handler : Option η) (next : Except BusError Nat → Reaction η)

namespace Reaction

variable {η : Type}

/-- Carry out a reaction on a registry. -/
def run : Reaction η → Registry η → Verdict × Registry η
  | .finish verdict, registry => (verdict, registry)
  | .register head method handler next, registry =>
      let (result, registry) := registry.add head method handler
      (next result).run registry

end Reaction

/-- How each handler reacts to a message. -/
abbrev Behaviour (η : Type) := η → Message → Reaction η

/-- What became of a routed message. -/
inductive RoutingResult where
  | delivered
  | notFound
  | handlerFailed
  | handlerCrashed (reason : String)
  deriving DecidableEq, Repr

/-- The result that a handler's verdict leads to. -/
def RoutingResult.ofVerdict : Verdict → RoutingResult
  | .succeeded => .delivered
  | .failed _ => .handlerFailed
  | .crashed reason => .handlerCrashed reason

/-- A handler that was called was found. -/
@[simp] theorem RoutingResult.ofVerdict_ne_notFound (verdict : Verdict) :
    ofVerdict verdict ≠ .notFound := by
  cases verdict <;> simp [ofVerdict]

/-- A routed message: the handler that was called, what became of it, and the registry afterwards. -/
structure Routed (η : Type) where
  called : Option η
  result : RoutingResult
  registry : Registry η

namespace Registry

variable {η : Type}

/-- The handler that a message resolves to. -/
def handlerFor? (registry : Registry η) (message : Message) : Option η :=
  (registry.find? message.head message.method).bind registry.handler?

/-- Route a message. -/
def dispatch (registry : Registry η) (behaviour : Behaviour η) (message : Message) : Routed η :=
  match registry.handlerFor? message with
  | none => ⟨none, .notFound, registry⟩
  | some handler =>
      let (verdict, registry) := (behaviour handler message).run registry
      ⟨some handler, .ofVerdict verdict, registry⟩

end Registry

end DeviceBus
