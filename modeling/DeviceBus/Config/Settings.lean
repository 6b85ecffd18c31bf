import DeviceBus.Config.Endpoints
import DeviceBus.Queue.Bounded
import DeviceBus.Queue.Ring

/-!
# Settings

All settings of a process with their defaults, and what follows from them: the addresses that the proxy
binds, those that endpoints dial, and the endpoint table.
-/

namespace DeviceBus

/-- The sizes of the queues through which a process hands on received messages. -/
structure QueueSettings where
  maxLength : Nat := BoundedQueue.defaultLimit
  ringSlots : Nat := 32
  ringSlotSize : Nat := Envelope.payloadCapacity
  deriving DecidableEq, Repr

/-- Addresses of the proxy that replace those of the transport. -/
structure ProxySettings where
  front : Option Url := none
  back : Option Url := none
  deriving DecidableEq, Repr

/-- Settings of the bus. -/
structure BusSettings where
  transport : TransportKind := .default
  proxy : ProxySettings := {}
  /-- the addresses of every process, where they are given one by one -/
  endpoints : Option (List ProcessEndpoints) := none
  deriving DecidableEq, Repr

/-- Where recordings are kept, and how much of them. -/
structure RetentionSettings where
  directory : Option String := none
  maxSizeKb : Nat := 512 * 1024
  deriving DecidableEq, Repr

/-- How processes are watched over. -/
structure ProcessSettings where
  /-- the directory of the lock files -/
  lockDirectory : String := "/tmp"
  deriving DecidableEq, Repr

/-- All settings. -/
structure Settings where
  bus : BusSettings := {}
  queue : QueueSettings := {}
  retention : RetentionSettings := {}
  process : ProcessSettings := {}
  deriving DecidableEq, Repr

/-- Why settings could not be used. -/
inductive SettingsError where
  | url (text : String)
  | unknownProcess (number : Nat)
  | endpointTable (entries : Nat)
  deriving DecidableEq, Repr

namespace SettingsError

/-- The name of the cause. -/
def name : SettingsError → String
  | .url _ => "Url"
  | .unknownProcess _ => "UnknownProcess"
  | .endpointTable _ => "EndpointTable"

/-- The error as a sentence. -/
def message : SettingsError → String
  | .url text => BusError.invalidUrlSentence text
  | .unknownProcess number => "Unknown process id " ++ toString number
  | .endpointTable entries =>
      "Endpoint table needs one entry per process, got " ++ toString entries

end SettingsError

namespace QueueSettings

/-- The queue of envelopes of the given size. -/
def boundedQueue (settings : QueueSettings) : BoundedQueue := .ofLimit settings.maxLength

/-- The ring of the given size. -/
def ringQueue (settings : QueueSettings) : Except QueueError Ring :=
  Ring.create settings.ringSlots settings.ringSlotSize

end QueueSettings

namespace Settings

/-- A pair of addresses with those that the settings replace. -/
def withOverrides (settings : Settings) (urls : Url × Url) : Url × Url :=
  (settings.bus.proxy.front.getD urls.1, settings.bus.proxy.back.getD urls.2)

/-- The front and back addresses that the proxy binds. -/
def bindUrls (settings : Settings) : Url × Url :=
  settings.withOverrides settings.bus.transport.bindUrls

/-- The front and back addresses that endpoints dial. -/
def dialUrls (settings : Settings) : Url × Url :=
  settings.withOverrides settings.bus.transport.dialUrls

/-- The addresses of every process: the given ones, or the proxy's for all. -/
def endpointTable (settings : Settings) : Except SettingsError EndpointTable :=
  match settings.bus.endpoints with
  | some entries =>
      match EndpointTable.ofEntries entries with
      | .ok table => .ok table
      | .error count => .error (.endpointTable count)
  | none => .ok (.uniform settings.dialUrls.1 settings.dialUrls.2)

/-- The process with a number, if there is one. -/
def process? (number : Nat) : Except SettingsError ProcessId :=
  match ProcessId.ofNumber? number with
  | some process => .ok process
  | none => .error (.unknownProcess number)

/-- The addresses of a process. -/
def endpointsOf (settings : Settings) (process : ProcessId) : Except SettingsError ProcessEndpoints :=
  settings.endpointTable.map fun table => table.get process

/-- Whether nothing was changed.  Directories are compared by their components; addresses that are given
count as changes whatever they are. -/
def isDefault (settings : Settings) : Bool :=
  settings.bus = {} && settings.queue = {} && settings.retention = {}
    && Path.same settings.process.lockDirectory "/tmp"

end Settings

end DeviceBus
