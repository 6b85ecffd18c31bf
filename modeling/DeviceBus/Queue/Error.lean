/-!
# Errors of queues
-/

namespace DeviceBus

/-- Why a queue refused an operation. -/
inductive QueueError where
  /-- memory for a copy could not be had -/
  | allocation (bytes : Nat)
  /-- the queue holds all it may hold -/
  | full (limit : Nat)
  /-- an element does not fit into a slot -/
  | slotOverflow (size capacity : Nat)
  /-- a queue of this shape cannot be made -/
  | invalidConfig (reason : String)
  deriving DecidableEq, Repr

namespace QueueError

/-- The name of the cause. -/
def name : QueueError → String
  | .allocation _ => "Allocation"
  | .full _ => "Full"
  | .slotOverflow _ _ => "SlotOverflow"
  | .invalidConfig _ => "InvalidConfig"

/-- The error as a sentence. -/
def message : QueueError → String
  | .allocation bytes => "Allocation failed while copying " ++ toString bytes ++ " bytes"
  | .full limit => "Queue full (max " ++ toString limit ++ ")"
  | .slotOverflow size capacity =>
      "Element of " ++ toString size ++ " bytes exceeds slot capacity of " ++ toString capacity
        ++ " bytes"
  | .invalidConfig reason => "Invalid queue configuration: " ++ reason

/-- Whether the queue was too small for what was asked. -/
def isCapacity : QueueError → Bool
  | .full _ | .slotOverflow _ _ => true
  | _ => false

end QueueError

end DeviceBus
