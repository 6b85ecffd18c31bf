import DeviceBus.CommandLine.Arguments
import DeviceBus.CommandLine.Log
import DeviceBus.Config.Load
import DeviceBus.Device.Operations
import DeviceBus.SingletonLock

/-!
# The forwarder

The forwarder is the program that runs the proxy of a device.  It loads settings, makes sure that it is
the only one of its name, binds both addresses, and forwards until it is interrupted.  Each stage reports
what it did, and a stage that fails ends the program.
-/

namespace DeviceBus.CommandLine

namespace Forwarder

/-- The name under which the forwarder is the only one. -/
def processName : String := "procbus-proxy"

/-- Why a forwarder did not start. -/
inductive StartFault where
  | settings (fault : Config.LoadFault)
  | lock (error : LockError)
  | bus (error : BusError)
  deriving DecidableEq, Repr

/-- The fault as a description. -/
def StartFault.describe : StartFault → String
  | .settings fault => fault.describe
  | .lock error => error.describe
  | .bus error => error.describe

/-- A forwarder at work. -/
structure Running where
  lock : SingletonLock
  proxy : ProxyId

/-- The part of the program that reports. -/
def source : String := "procbus_proxy"

/-- The part that runs the proxy. -/
def proxySource : String := "procbus::bus::proxy"

/-- The part that listens. -/
def transportSource : String := "procbus::transport"

/-- Reports of a lock that was acquired. -/
def lockLines (lock : SingletonLock) : List LogLine :=
  let count : String × LogValue := ("restart_count", .bare (toString lock.restartCount))
  [{ source := "procbus::process", sentence := "Process lock acquired"
     values := [("name", .bare lock.name), count] },
   { source, sentence := "Singleton lock held", values := [count] }]

/-- What is reported while one address is bound. -/
def bindLines (net : Network) (url : Url) : List LogLine :=
  let removing : List LogLine := match url with
    | .ipc path =>
        if net.files.pathExists path then
          [{ source := transportSource, sentence := "Removing stale IPC socket"
             values := [("path", .bare path)] }]
        else []
    | .tcp _ => []
  let (result, net) := net.bind url
  let outcome : LogLine := match result with
    | .error fault =>
        { level := .error, source := proxySource, sentence := "Proxy bind failed"
          values := [("operation", .quoted "bind"), ("url", .bare url.toText),
            ("error", .bare fault.message)] }
    | .ok id =>
        let place : String × LogValue := match (net.listener? id).map Listener.url with
          | some (.tcp address) => ("address", .bare address)
          | some (.ipc path) => ("path", .bare path)
          | none => ("path", .bare "")
        { source := transportSource, sentence := "Listening"
          values := [place, ("transport", .quoted url.transport)] }
  removing ++ [outcome]

/-- What is reported while both addresses are bound; a failure at the front ends it. -/
def bindBothLines (net : Network) (front back : Url) : List LogLine :=
  match net.bind front with
  | (.error _, _) => bindLines net front
  | (.ok _, bound) => bindLines net front ++ bindLines bound back

/-- The values of a pair of addresses. -/
def addressValues (front back : Url) : List (String × LogValue) :=
  [("front", .bare front.toText), ("back", .bare back.toText)]

/-- What is reported when both addresses are bound: those that were asked for, and those that were had. -/
def runningLines (net : Network) (front back : Url) (proxy : Proxy) : List LogLine :=
  let address (id : ListenerId) (asked : Url) := ((net.listener? id).map Listener.url).getD asked
  [{ source, sentence := "procbus-proxy started", values := addressValues front back },
   { source := proxySource, sentence := "Bus proxy running"
     values := addressValues (address proxy.front front) (address proxy.back back) }]

/-- What is reported from the interruption to the end. -/
def closingLines : List LogLine :=
  [{ source, sentence := "Shutdown requested" },
   { source := proxySource, sentence := "Bus proxy stopped" },
   { source, sentence := "procbus-proxy stopped" }]

variable {η : Type}

/-- Bind both addresses of the settings and run the proxy, with the lock held. -/
def launch (device : Device η) (settings : Settings) (lock : SingletonLock) :
    (Except StartFault Running × List LogLine) × Device η :=
  let (front, back) := settings.bindUrls
  let lines := lockLines lock ++ bindBothLines device.net front back
  match device.startProxy front back with
  | (.error error, device) => ((.error (.bus error), lines), device)
  | (.ok proxy, device) =>
      let running := match device.proxies[proxy]? with
        | some bound => runningLines device.net front back bound
        | none => []
      ((.ok ⟨lock, proxy⟩, lines ++ running), device)

/-- Start a forwarder while some locks are held. -/
def start (device : Device η) (held : List SingletonLock) (environment : List (String × String))
    (arguments : List String) (pid : Nat) (now : Int) :
    (Except StartFault Running × List LogLine) × Device η :=
  match Config.load device.net.files.fileAt? (splitArguments arguments).config environment with
  | .error fault => ((.error (.settings fault), []), device)
  | .ok settings =>
      let (acquired, files) := SingletonLock.acquire held device.net.files
        settings.process.lockDirectory processName pid now
      let net := device.net
      let device := { device with net := { net with files } }
      match acquired with
      | .error error => ((.error (.lock error), []), device)
      | .ok lock => launch device settings lock

/-- Interrupt a forwarder. -/
def stop (device : Device η) (behaviour : Behaviour η) (running : Running) :
    List LogLine × Device η :=
  (closingLines, device.stopProxy behaviour running.proxy)

end Forwarder

end DeviceBus.CommandLine
