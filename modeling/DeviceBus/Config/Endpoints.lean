import DeviceBus.Url

/-!
# Which process dials which address

The device has five processes.  Each publishes through the front address of the proxy and subscribes
through its back address; an endpoint table gives the two addresses of every process.
-/

namespace DeviceBus

/-- The transport between processes. -/
inductive TransportKind where
  | ipc
  | tcp
  deriving DecidableEq, Repr

namespace TransportKind

/-- The name in descriptions. -/
def describe : TransportKind → String
  | ipc => "Ipc"
  | tcp => "Tcp"

/-- The transport when none is chosen. -/
def default : TransportKind := ipc

/-- The transport of a name in any case. -/
def ofName? (lowerName : String) : Option TransportKind :=
  if lowerName = "ipc" then some ipc
  else if lowerName = "tcp" then some tcp
  else none

/-- The front and back addresses that the proxy binds. -/
def bindUrls : TransportKind → Url × Url
  | ipc => (.ipc "/tmp/front.ipc", .ipc "/tmp/back.ipc")
  | tcp => (.tcp "0.0.0.0:5533", .tcp "0.0.0.0:5534")

/-- The front and back addresses that endpoints dial. -/
def dialUrls : TransportKind → Url × Url
  | ipc => (.ipc "/tmp/front.ipc", .ipc "/tmp/back.ipc")
  | tcp => (.tcp "127.0.0.1:5533", .tcp "127.0.0.1:5534")

end TransportKind

/-- The processes that share the bus. -/
inductive ProcessId where
  | main
  | hal
  | media
  | kvs
  | lvgl
  deriving DecidableEq, Repr

namespace ProcessId

/-- Every process in the order of their numbers. -/
def all : List ProcessId := [main, hal, media, kvs, lvgl]

/-- The number of a process. -/
def number : ProcessId → Nat
  | main => 0
  | hal => 1
  | media => 2
  | kvs => 3
  | lvgl => 4

/-- The process with a number. -/
def ofNumber? (number : Nat) : Option ProcessId := all[number]?

/-- The head under which a process publishes. -/
def head : ProcessId → String
  | main => "main"
  | hal => "hal"
  | media => "media"
  | kvs => "kvs"
  | lvgl => "lvgl"

/-- The name in descriptions. -/
def describe : ProcessId → String
  | main => "Main"
  | hal => "Hal"
  | media => "Media"
  | kvs => "Kvs"
  | lvgl => "Lvgl"

theorem number_lt (process : ProcessId) : process.number < 5 := by
  cases process <;> decide

end ProcessId

/-- The two addresses of one process. -/
structure ProcessEndpoints where
  /-- where its publish endpoint connects -/
  publish : Url
  /-- where its subscribe endpoint connects -/
  subscribe : Url
  deriving DecidableEq, Repr

/-- The addresses of every process, in the order of their numbers. -/
structure EndpointTable where
  entries : List ProcessEndpoints
  complete : entries.length = 5

namespace EndpointTable

/-- A table from the entries of all processes; the wrong number of entries is returned. -/
def ofEntries (entries : List ProcessEndpoints) : Except Nat EndpointTable :=
  if complete : entries.length = 5 then .ok ⟨entries, complete⟩ else .error entries.length

/-- The table in which every process dials the same addresses. -/
def uniform (publish subscribe : Url) : EndpointTable :=
  ⟨List.replicate 5 ⟨publish, subscribe⟩, List.length_replicate⟩

/-- The table for a transport: every process dials the proxy at its usual place. -/
def forTransport (kind : TransportKind) : EndpointTable := uniform kind.dialUrls.1 kind.dialUrls.2

/-- The addresses of a process. -/
def get (table : EndpointTable) (process : ProcessId) : ProcessEndpoints :=
  table.entries.get ⟨process.number, by rw [table.complete]; exact process.number_lt⟩

end EndpointTable

end DeviceBus
