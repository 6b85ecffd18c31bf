import DeviceBus.SystemFault

/-!
# Errors of bus operations

Each constructor is a cause.  The sentence that people see is a function of the cause.
-/

namespace DeviceBus

/-- Why an operation on the bus failed. -/
inductive BusError where
  /-- an address that no transport understands -/
  | invalidUrl (url : String)
  /-- a topic that may not be registered or published -/
  | invalidTopic (reason : String)
  /-- an operation that the endpoint's state does not allow -/
  | invalidState (operation state : String)
  /-- a transport operation that failed -/
  | transport (operation : String) (source : SystemFault)
  /-- memory that could not be had for a purpose -/
  | allocation (purpose : String)
  /-- a receive that was ended on purpose -/
  | canceled
  /-- a topic without handler -/
  | notFound (head method : String)
  /-- bytes that are no message -/
  | malformed (reason : String)
  /-- a connection that the other side has closed -/
  | closed
  /-- a handler's own failure -/
  | handler (reason : String)
  /-- a receive task that did not end by itself -/
  | receiveAborted (reason : String)
  deriving DecidableEq, Repr

namespace BusError

/-- The sentence about an address that no transport understands. -/
def invalidUrlSentence (url : String) : String :=
  "unsupported bus url '" ++ url ++ "' (expected ipc://<path> or tcp://<host>:<port>)"

/-- The error as a sentence. -/
def message : BusError → String
  | .invalidUrl url => "Invalid url: " ++ invalidUrlSentence url
  | .invalidTopic reason => "Invalid topic: " ++ reason
  | .invalidState operation state => "Cannot " ++ operation ++ " while endpoint is " ++ state
  | .transport operation source => "Transport " ++ operation ++ " failed: " ++ source.message
  | .allocation purpose => "Allocation failed: " ++ purpose
  | .canceled => "Receive canceled"
  | .notFound head method => "No handler registered for " ++ head ++ "/" ++ method
  | .malformed reason => "Malformed message: " ++ reason
  | .closed => "Connection closed by peer"
  | .handler reason => "Handler failed: " ++ reason
  | .receiveAborted reason => "Receive task aborted: " ++ reason

/-- An intentional end is not a failure. -/
def isCanceled : BusError → Bool
  | .canceled => true
  | _ => false

/-- The name of the cause. -/
def name : BusError → String
  | .invalidUrl _ => "InvalidUrl"
  | .invalidTopic _ => "InvalidTopic"
  | .invalidState _ _ => "InvalidState"
  | .transport _ _ => "Transport"
  | .allocation _ => "Allocation"
  | .canceled => "Canceled"
  | .notFound _ _ => "NotFound"
  | .malformed _ => "Malformed"
  | .closed => "Closed"
  | .handler _ => "Handler"
  | .receiveAborted _ => "ReceiveAborted"

/-- What a cause carries, as a description. -/
def details : BusError → String
  | .invalidUrl url => "(UrlError(" ++ Text.quote url ++ "))"
  | .invalidState operation state =>
      " \x7b operation: " ++ Text.quote operation ++ ", state: " ++ Text.quote state ++ " \x7d"
  | .transport operation source =>
      " \x7b operation: " ++ Text.quote operation ++ ", source: " ++ source.describe ++ " \x7d"
  | .notFound head method =>
      " \x7b head: " ++ Text.quote head ++ ", method: " ++ Text.quote method ++ " \x7d"
  | .invalidTopic text | .allocation text | .malformed text | .handler text | .receiveAborted text =>
      "(" ++ Text.quote text ++ ")"
  | .canceled | .closed => ""

/-- The error as a description. -/
def describe (error : BusError) : String := error.name ++ error.details

end BusError

end DeviceBus
