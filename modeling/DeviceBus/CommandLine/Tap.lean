import DeviceBus.CommandLine.Arguments
import DeviceBus.CommandLine.Log
import DeviceBus.Config.Load
import DeviceBus.Device.Operations
import DeviceBus.Text.Hexadecimal
import DeviceBus.Topic.Vocabulary

/-!
# The tap

The tap subscribes to the back of the proxy and reports every message that it sees, with the first bytes
of its payload.  Its arguments name the topics it listens to, each taken as a prefix; without topics it
listens to every known head.
-/

namespace DeviceBus.CommandLine

/-- What a tap is asked to do. -/
structure Tap where
  /-- the back of the proxy -/
  address : Url
  /-- the topics among the arguments -/
  topics : List String
  deriving DecidableEq, Repr

namespace Tap

/-- The part of the program that reports. -/
def source : String := "procbus_tap"

/-- How many bytes of a payload are reported. -/
def previewLength : Nat := 32

/-- Read arguments and settings. -/
def plan (files : Config.FileSource) (environment : List (String × String))
    (arguments : List String) : Except Config.LoadFault Tap :=
  let split := splitArguments arguments
  (Config.load files split.config environment).map fun settings =>
    ⟨settings.dialUrls.2, split.rest⟩

/-- The prefixes that the tap subscribes to. -/
def prefixes (tap : Tap) : List String :=
  if tap.topics = [] then Topic.heads.map (· ++ "/") else tap.topics

/-- Whether a topic has a head and a method. -/
def isWholeTopic (topic : String) : Bool := topic.toList.contains '/'

/-- What is reported before the first message. -/
def opening (tap : Tap) : List LogLine :=
  (tap.topics.filter fun topic => !isWholeTopic topic).map
      (fun topic =>
        { level := .warning, source, sentence := "Expected head/method, tapping as prefix"
          values := [("topic", .bare topic)] })
    ++ [{ source, sentence := "procbus-tap started", values := [("url", .bare tap.address.toText)] }]

/-- The report of a message. -/
def messageLine (message : Message) : LogLine where
  source
  sentence := "message"
  values :=
    [("topic", .quoted message.topic), ("len", .bare (toString message.payload.size)),
      ("payload", .bare (Text.hexadecimal (message.payload.data.toList.take previewLength)))]

/-- The name of an outcome in a report. -/
def outcomeName : ReceiveOutcome → String
  | .canceled => "Canceled"
  | .closed => "Closed"
  | .failed error => "Failed(" ++ error.describe ++ ")"

/-- What is reported when the tap has stopped. -/
def closing (outcome : ReceiveOutcome) : LogLine where
  source
  sentence := "procbus-tap stopped"
  values := [("outcome", .bare (outcomeName outcome))]

/-- The signal on which the tap stops. -/
def interrupt : String := "interrupt"

/-- A subscriber with the filters of the tap. -/
def subscriber (tap : Tap) : Subscriber Unit :=
  tap.prefixes.foldl Subscriber.subscribePrefix (.create tap.address (some interrupt))

/-- Every message is taken. -/
def behaviour : Behaviour Unit := fun _ _ => .finish .succeeded

/-- Connect the tap and let it receive. -/
def start (tap : Tap) (device : Device Unit) : Except BusError SubscriberId × Device Unit :=
  let (id, device) := device.addSubscriber tap.subscriber
  let (opened, device) := device.withSubscriber id fun subscriber net =>
    let (result, subscriber) := subscriber.openUp
    (result, subscriber, net)
  let (dialled, device) := device.withSubscriber id Subscriber.dial
  let (armed, device) := device.arm id (.direct ())
  match opened, dialled, armed with
  | .error error, _, _ => (.error error, device)
  | _, .error error, _ => (.error error, device)
  | _, _, .error error => (.error error, device)
  | .ok (), .ok (), .ok () => (.ok id, device)

/-- Interrupt the tap. -/
def stop (device : Device Unit) (id : SubscriberId) : Except BusError ReceiveOutcome × Device Unit :=
  match (device.giveSignal interrupt).withSubscriber id Subscriber.stop with
  | (.error error, device) => (.error error, device)
  | (.ok outcome, device) =>
      match device.withSubscriber id Subscriber.close with
      | (.error error, device) => (.error error, device)
      | (.ok (), device) => (.ok outcome, device)

end Tap

end DeviceBus.CommandLine
