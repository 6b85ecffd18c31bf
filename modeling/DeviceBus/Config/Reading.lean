import DeviceBus.Config.Layer
import DeviceBus.Config.Settings

/-!
# Reading settings from values

Scalars are taken liberally: a number may be written as text, and text as a number.  A table gives the
fields of a structure by name and a list gives them by position; fields that are not given keep their
defaults, and unknown ones are ignored.
-/

namespace DeviceBus.Config

/-- A value that is not of the expected kind. -/
def mismatch (value : Value) (expected : String) : LoadFault :=
  .mismatch value.describe expected none value.origin

/-- A value as an unsigned number of sixty-four bits. -/
def readUnsigned (value : Value) : Except LoadFault Nat :=
  match value with
  | .scalar origin (.integer number) =>
      if 0 ≤ number then .ok number.toNat
      else
        .error (.mismatch ("64-bit integer `" ++ toString number ++ "`")
          "an unsigned 64 bit or less integer" none origin)
  | .scalar _ (.boolean b) => .ok (if b then 1 else 0)
  | .scalar _ (.float number) => .ok number.toUnsigned64
  | .scalar _ (.text text) =>
      let lower := Text.lower text
      if lower = "true" ∨ lower = "on" ∨ lower = "yes" then .ok 1
      else if lower = "false" ∨ lower = "off" ∨ lower = "no" then .ok 0
      else
        match Number.unsigned? Number.maxUnsigned64 text.toList with
        | some number => .ok number
        | none => .error (mismatch value "an integer")
  | _ => .error (mismatch value "an integer")

/-- A value as text. -/
def readText (value : Value) : Except LoadFault String :=
  match value with
  | .scalar _ (.text text) => .ok text
  | .scalar _ (.boolean b) => .ok (toString b)
  | .scalar _ (.integer number) => .ok (toString number)
  | .scalar _ (.float number) => .ok number.toText
  | _ => .error (mismatch value "a string")

/-- A value as an address. -/
def readUrl (value : Value) : Except LoadFault Url := do
  let text ← readText value
  match Url.parse? text with
  | some url => .ok url
  | none => .error (.message (BusError.invalidUrlSentence text))

/-- A value that may be absent. -/
def readOptional {α : Type} (read : Value → Except LoadFault α) (value : Value) :
    Except LoadFault (Option α) :=
  match value with
  | .scalar _ .nil => .ok none
  | _ => (read value).map some

/-- A value as the name of a transport, in any case, or a table with the name as its only key. -/
def readTransport (value : Value) : Except LoadFault TransportKind :=
  let ofName := fun name =>
    match TransportKind.ofName? (Text.lower name) with
    | some kind => Except.ok kind
    | none =>
        .error (.message ("enum TransportKind does not have variant constructor " ++ name))
  match value with
  | .scalar _ (.text name) => ofName name
  | .table _ [(name, _)] => ofName name
  | _ =>
      .error (.message ("value of enum TransportKind should be represented by either string or table "
        ++ "with exactly one key"))

/-- The fields of a structure, by name or by position. -/
inductive Fields where
  | named (fields : List (String × Value))
  | placed (items : List Value)

/-- The fields that a value gives for a structure of a name. -/
def readFields (name : String) (value : Value) : Except LoadFault Fields :=
  match value with
  | .table _ fields => .ok (.named fields)
  | .list _ items => .ok (.placed items)
  | _ => .error (.message ("invalid type: " ++ value.describe ++ ", expected struct " ++ name))

namespace Fields

/-- Read one field, if it is given. -/
def field? {α : Type} (fields : Fields) (name : String) (index : Nat)
    (read : Value → Except LoadFault α) : Except LoadFault (Option α) :=
  match fields with
  | .named fields =>
      match fields.lookup name with
      | none => .ok none
      | some value => ((read value).mapError (LoadFault.withKey name)).map some
  | .placed items =>
      match items[index]? with
      | none => .ok none
      | some value => ((read value).mapError (LoadFault.withIndex index)).map some

/-- Read one field, or keep its default. -/
def field {α : Type} (fields : Fields) (name : String) (index : Nat)
    (read : Value → Except LoadFault α) (default : α) : Except LoadFault α :=
  (fields.field? name index read).map fun value => value.getD default

/-- Read one field that must be given, of a structure with a number of fields. -/
def required {α : Type} (fields : Fields) (structureName : String) (count : Nat) (name : String)
    (index : Nat) (read : Value → Except LoadFault α) : Except LoadFault α := do
  match ← fields.field? name index read with
  | some value => .ok value
  | none =>
      match fields with
      | .named _ => .error (.message ("missing field `" ++ name ++ "`"))
      | .placed _ =>
          .error (.message ("invalid length " ++ toString index ++ ", expected struct " ++ structureName
            ++ " with " ++ toString count ++ " elements"))

end Fields

/-- A value as the addresses of a process. -/
def readEndpoints (value : Value) : Except LoadFault ProcessEndpoints := do
  let fields ← readFields "ProcessEndpoints" value
  let publish ← fields.required "ProcessEndpoints" 2 "pub_url" 0 readUrl
  let subscribe ← fields.required "ProcessEndpoints" 2 "sub_url" 1 readUrl
  .ok ⟨publish, subscribe⟩

/-- Read the items of a list, the first of which has position `index`. -/
def readItems {α : Type} (read : Value → Except LoadFault α) :
    (index : Nat) → List Value → Except LoadFault (List α)
  | _, [] => .ok []
  | index, value :: rest => do
      let item ← (read value).mapError (LoadFault.withIndex index)
      let items ← readItems read (index + 1) rest
      .ok (item :: items)

/-- A value as a list. -/
def readList {α : Type} (read : Value → Except LoadFault α) (value : Value) :
    Except LoadFault (List α) :=
  match value with
  | .list _ items => readItems read 0 items
  | _ => .error (.message ("invalid type: " ++ value.describe ++ ", expected a sequence"))

/-- A value as the settings of the queues. -/
def readQueue (value : Value) : Except LoadFault QueueSettings := do
  let fields ← readFields "QueueConfig" value
  let usual : QueueSettings := {}
  let maxLength ← fields.field "max_length" 0 readUnsigned usual.maxLength
  let ringSlots ← fields.field "ring_slots" 1 readUnsigned usual.ringSlots
  let ringSlotSize ← fields.field "ring_slot_size" 2 readUnsigned usual.ringSlotSize
  .ok { maxLength, ringSlots, ringSlotSize }

/-- A value as the addresses of the proxy. -/
def readProxy (value : Value) : Except LoadFault ProxySettings := do
  let fields ← readFields "ProxyConfig" value
  let front ← fields.field "front_url" 0 (readOptional readUrl) none
  let back ← fields.field "back_url" 1 (readOptional readUrl) none
  .ok { front, back }

/-- A value as the settings of the bus. -/
def readBus (value : Value) : Except LoadFault BusSettings := do
  let fields ← readFields "BusConfig" value
  let transport ← fields.field "transport" 0 readTransport .default
  let proxy ← fields.field "proxy" 1 readProxy {}
  let endpoints ← fields.field "endpoints" 2 (readOptional (readList readEndpoints)) none
  .ok { transport, proxy, endpoints }

/-- A value as the settings of recordings. -/
def readRetention (value : Value) : Except LoadFault RetentionSettings := do
  let fields ← readFields "RetentionConfig" value
  let usual : RetentionSettings := {}
  let directory ← fields.field "directory" 0 (readOptional readText) none
  let maxSizeKb ← fields.field "max_size_kb" 1 readUnsigned usual.maxSizeKb
  .ok { directory, maxSizeKb }

/-- A value as the settings for watching over processes. -/
def readProcess (value : Value) : Except LoadFault ProcessSettings := do
  let fields ← readFields "ProcessConfig" value
  let usual : ProcessSettings := {}
  let lockDirectory ← fields.field "lock_dir" 0 readText usual.lockDirectory
  .ok { lockDirectory }

/-- The value that all layers make together as settings. -/
def readSettings (root : Value) : Except LoadFault Settings := do
  let fields ← readFields "Config" root
  let bus ← fields.field "bus" 0 readBus {}
  let queue ← fields.field "queue" 1 readQueue {}
  let retention ← fields.field "retention" 2 readRetention {}
  let process ← fields.field "process" 3 readProcess {}
  .ok { bus, queue, retention, process }

end DeviceBus.Config
