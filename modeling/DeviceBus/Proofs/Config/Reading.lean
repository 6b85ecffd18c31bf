import DeviceBus.Proofs.Config.Layers
import DeviceBus.Config.Reading

/-!
# What settings are read from

Each setting is read from the value that stands at its path, and keeps its default where nothing does.  A value
that a layer says may have been merged into what stood there before; reading it gives the same setting as if the
layer had said it of nothing.

* `Setting`: the settings, with their paths, their defaults and how they are read.
* `Setting.given_of_readSettings`: a setting is read from the value at its path.
* `Setting.read_alone`: what a setting is read from is what the last saying alone says.
-/

namespace DeviceBus.Config

open Value

/-- The settings that can be given. -/
inductive Setting where
  | transport
  | frontUrl
  | backUrl
  | endpoints
  | maxLength
  | ringSlots
  | ringSlotSize
  | directory
  | maxSizeKb
  | lockDirectory
  deriving DecidableEq

namespace Setting

/-- The key of a setting, name by name. -/
def path : Setting → List String
  | transport => ["bus", "transport"]
  | frontUrl => ["bus", "proxy", "front_url"]
  | backUrl => ["bus", "proxy", "back_url"]
  | endpoints => ["bus", "endpoints"]
  | maxLength => ["queue", "max_length"]
  | ringSlots => ["queue", "ring_slots"]
  | ringSlotSize => ["queue", "ring_slot_size"]
  | directory => ["retention", "directory"]
  | maxSizeKb => ["retention", "max_size_kb"]
  | lockDirectory => ["process", "lock_dir"]

/-- The values that a setting may have. -/
def Kind : Setting → Type
  | transport => TransportKind
  | frontUrl | backUrl => Option Url
  | endpoints => Option (List ProcessEndpoints)
  | maxLength | ringSlots | ringSlotSize | maxSizeKb => Nat
  | directory => Option String
  | lockDirectory => String

/-- The value of a setting among all settings. -/
def of (settings : Settings) : (setting : Setting) → setting.Kind
  | transport => settings.bus.transport
  | frontUrl => settings.bus.proxy.front
  | backUrl => settings.bus.proxy.back
  | endpoints => settings.bus.endpoints
  | maxLength => settings.queue.maxLength
  | ringSlots => settings.queue.ringSlots
  | ringSlotSize => settings.queue.ringSlotSize
  | directory => settings.retention.directory
  | maxSizeKb => settings.retention.maxSizeKb
  | lockDirectory => settings.process.lockDirectory

/-- How a setting is read from a value. -/
def read : (setting : Setting) → Value → Except LoadFault setting.Kind
  | transport => readTransport
  | frontUrl | backUrl => readOptional readUrl
  | endpoints => readOptional (readList readEndpoints)
  | maxLength | ringSlots | ringSlotSize | maxSizeKb => readUnsigned
  | directory => readOptional readText
  | lockDirectory => readText

end Setting

/-! ## Reading fields -/

theorem exists_of_bind_ok {ε α β : Type} {result : Except ε α} {next : α → Except ε β} {value : β}
    (h : (result >>= next) = .ok value) : ∃ first, result = .ok first ∧ next first = .ok value := by
  cases result with
  | error fault => cases h
  | ok first => exact ⟨first, rfl, h⟩

theorem exists_eq_ok {ε α : Type} {result : Except ε α} (h : result.toOption.isSome = true) :
    ∃ value, result = .ok value := by
  cases result with
  | error fault => cases h
  | ok value => exact ⟨value, rfl⟩

/-- A value is read if there is one, and the default is kept if there is none. -/
def Given {α : Type} (value? : Option Value) (read : Value → Except LoadFault α) (default result : α) : Prop :=
  match value? with
  | none => result = default
  | some value => read value = .ok result

section Fields

variable {α β : Type} {value : Value}

theorem given_field {fields : List (String × Value)} {name : String} {index : Nat}
    {read : Value → Except LoadFault α} {default result : α}
    (h : (Fields.named fields).field name index read default = .ok result) :
    Given (fields.lookup name) read default result := by
  simp only [Fields.field, Fields.field?] at h
  cases hfound : fields.lookup name with
  | none =>
      rw [hfound] at h
      exact (Except.ok.inj h).symm
  | some value =>
      rw [hfound] at h
      dsimp only at h
      cases hread : read value with
      | error fault =>
          rw [hread] at h
          cases h
      | ok inner =>
          rw [hread] at h
          cases h
          exact hread

/-- A table gives the fields of a structure by name. -/
theorem readFields_bind (h : value.isTable = true) (name : String) (next : Fields → Except LoadFault α) :
    (readFields name value >>= next) = next (.named value.asTable.2) := by
  cases value with
  | scalar origin value => cases h
  | list origin items => cases h
  | table origin fields => rfl

theorem at?_singleton (value : Value) (name : String) : value.at? [name] = value.asTable.2.lookup name := by
  rw [at?_cons]
  cases value.asTable.2.lookup name <;> rfl

theorem given_at? {name : String} {index : Nat} {read : Value → Except LoadFault α} {default result : α}
    (h : (Fields.named value.asTable.2).field name index read default = .ok result) :
    Given (value.at? [name]) read default result := by
  rw [at?_singleton]
  exact given_field h

/-- What is read from a table below is read from what stands below it. -/
theorem Given.below {name : String} {path : List String} {outer : Value → Except LoadFault α}
    {inner : Value → Except LoadFault β} {default result : α} (part : α → β)
    (h : Given (value.at? [name]) outer default result) (hclear : value.Clear (name :: path))
    (hbelow : ∀ child, child.Clear path → outer child = .ok result →
      Given (child.at? path) inner (part default) (part result)) :
    Given (value.at? (name :: path)) inner (part default) (part result) := by
  rw [at?_singleton] at h
  rw [at?_cons]
  cases hchild : value.asTable.2.lookup name with
  | none =>
      rw [hchild] at h
      exact congrArg part h
  | some child =>
      rw [hchild] at h
      exact hbelow child (hclear.2 child hchild) h

end Fields

section Structures

variable {value : Value}

theorem given_readQueue {queue : QueueSettings} (htable : value.isTable = true)
    (h : readQueue value = .ok queue) :
    Given (value.at? ["max_length"]) readUnsigned ({} : QueueSettings).maxLength queue.maxLength ∧
      Given (value.at? ["ring_slots"]) readUnsigned ({} : QueueSettings).ringSlots queue.ringSlots ∧
      Given (value.at? ["ring_slot_size"]) readUnsigned ({} : QueueSettings).ringSlotSize
        queue.ringSlotSize := by
  rw [readQueue, readFields_bind htable] at h
  obtain ⟨maxLength, hmaxLength, h⟩ := exists_of_bind_ok h
  obtain ⟨ringSlots, hringSlots, h⟩ := exists_of_bind_ok h
  obtain ⟨ringSlotSize, hringSlotSize, h⟩ := exists_of_bind_ok h
  cases h
  exact ⟨given_at? hmaxLength, given_at? hringSlots, given_at? hringSlotSize⟩

theorem given_readProxy {proxy : ProxySettings} (htable : value.isTable = true)
    (h : readProxy value = .ok proxy) :
    Given (value.at? ["front_url"]) (readOptional readUrl) none proxy.front ∧
      Given (value.at? ["back_url"]) (readOptional readUrl) none proxy.back := by
  rw [readProxy, readFields_bind htable] at h
  obtain ⟨front, hfront, h⟩ := exists_of_bind_ok h
  obtain ⟨back, hback, h⟩ := exists_of_bind_ok h
  cases h
  exact ⟨given_at? hfront, given_at? hback⟩

theorem given_readBus {bus : BusSettings} (htable : value.isTable = true) (h : readBus value = .ok bus) :
    Given (value.at? ["transport"]) readTransport .default bus.transport ∧
      Given (value.at? ["proxy"]) readProxy {} bus.proxy ∧
      Given (value.at? ["endpoints"]) (readOptional (readList readEndpoints)) none bus.endpoints := by
  rw [readBus, readFields_bind htable] at h
  obtain ⟨transport, htransport, h⟩ := exists_of_bind_ok h
  obtain ⟨proxy, hproxy, h⟩ := exists_of_bind_ok h
  obtain ⟨endpoints, hendpoints, h⟩ := exists_of_bind_ok h
  cases h
  exact ⟨given_at? htransport, given_at? hproxy, given_at? hendpoints⟩

theorem given_readRetention {retention : RetentionSettings} (htable : value.isTable = true)
    (h : readRetention value = .ok retention) :
    Given (value.at? ["directory"]) (readOptional readText) none retention.directory ∧
      Given (value.at? ["max_size_kb"]) readUnsigned ({} : RetentionSettings).maxSizeKb
        retention.maxSizeKb := by
  rw [readRetention, readFields_bind htable] at h
  obtain ⟨directory, hdirectory, h⟩ := exists_of_bind_ok h
  obtain ⟨maxSizeKb, hmaxSizeKb, h⟩ := exists_of_bind_ok h
  cases h
  exact ⟨given_at? hdirectory, given_at? hmaxSizeKb⟩

theorem given_readProcess {process : ProcessSettings} (htable : value.isTable = true)
    (h : readProcess value = .ok process) :
    Given (value.at? ["lock_dir"]) readText ({} : ProcessSettings).lockDirectory process.lockDirectory := by
  rw [readProcess, readFields_bind htable] at h
  obtain ⟨lockDirectory, hlockDirectory, h⟩ := exists_of_bind_ok h
  cases h
  exact given_at? hlockDirectory

theorem given_readSettings {settings : Settings} (htable : value.isTable = true)
    (h : readSettings value = .ok settings) :
    Given (value.at? ["bus"]) readBus {} settings.bus ∧
      Given (value.at? ["queue"]) readQueue {} settings.queue ∧
      Given (value.at? ["retention"]) readRetention {} settings.retention ∧
      Given (value.at? ["process"]) readProcess {} settings.process := by
  rw [readSettings, readFields_bind htable] at h
  obtain ⟨bus, hbus, h⟩ := exists_of_bind_ok h
  obtain ⟨queue, hqueue, h⟩ := exists_of_bind_ok h
  obtain ⟨retention, hretention, h⟩ := exists_of_bind_ok h
  obtain ⟨process, hprocess, h⟩ := exists_of_bind_ok h
  cases h
  exact ⟨given_at? hbus, given_at? hqueue, given_at? hretention, given_at? hprocess⟩

end Structures

/-- A setting is read from the value at its path, and keeps its default where nothing stands there. -/
theorem Setting.given_of_readSettings (setting : Setting) {root : Value} {settings : Settings}
    (hclear : root.Clear setting.path) (h : readSettings root = .ok settings) :
    Given (root.at? setting.path) setting.read (setting.of {}) (setting.of settings) := by
  have htable : root.isTable = true := by
    cases setting <;> exact hclear.1
  obtain ⟨hbus, hqueue, hretention, hprocess⟩ := given_readSettings htable h
  cases setting with
  | transport =>
      exact hbus.below BusSettings.transport hclear fun child hchild hread =>
        (given_readBus hchild.1 hread).1
  | frontUrl =>
      exact hbus.below (fun bus => bus.proxy.front) hclear fun child hchild hread =>
        (given_readBus hchild.1 hread).2.1.below ProxySettings.front hchild fun _ hinner hread =>
          (given_readProxy hinner.1 hread).1
  | backUrl =>
      exact hbus.below (fun bus => bus.proxy.back) hclear fun child hchild hread =>
        (given_readBus hchild.1 hread).2.1.below ProxySettings.back hchild fun _ hinner hread =>
          (given_readProxy hinner.1 hread).2
  | endpoints =>
      exact hbus.below BusSettings.endpoints hclear fun child hchild hread =>
        (given_readBus hchild.1 hread).2.2
  | maxLength =>
      exact hqueue.below QueueSettings.maxLength hclear fun child hchild hread =>
        (given_readQueue hchild.1 hread).1
  | ringSlots =>
      exact hqueue.below QueueSettings.ringSlots hclear fun child hchild hread =>
        (given_readQueue hchild.1 hread).2.1
  | ringSlotSize =>
      exact hqueue.below QueueSettings.ringSlotSize hclear fun child hchild hread =>
        (given_readQueue hchild.1 hread).2.2
  | directory =>
      exact hretention.below RetentionSettings.directory hclear fun child hchild hread =>
        (given_readRetention hchild.1 hread).1
  | maxSizeKb =>
      exact hretention.below RetentionSettings.maxSizeKb hclear fun child hchild hread =>
        (given_readRetention hchild.1 hread).2
  | lockDirectory =>
      exact hprocess.below ProcessSettings.lockDirectory hclear fun child hchild hread =>
        given_readProcess hchild.1 hread

/-! ## What a saying says alone -/

/-- Whether a saying says anything about what stands there: an empty table does not. -/
def Saying.defines : Saying → Bool
  | .put (.table _ []) => false
  | _ => true

/-- What a saying says where nothing was said before. -/
def Saying.alone (saying : Saying) : Value := saying.onto none

/-- A saying that sets an item of a list. -/
def Saying.isItem : Saying → Bool
  | .below (.position _) _ _ => true
  | _ => false

/-- An empty table leaves what stands there, and an empty table where nothing does. -/
theorem Saying.onto_of_not_defines {saying : Saying} (h : saying.defines = false)
    (current : Option Value) : saying.onto current = current.getD emptyTable := by
  unfold defines at h
  split at h
  · rfl
  · cases h

/-- The keys of a table. -/
def Value.keys (value : Value) : List String := value.asTable.2.map Prod.fst

theorem mem_keys_putField {name key : String} {value : Value} {fields : List (String × Value)} :
    name ∈ (putField key value fields).map Prod.fst ↔ name = key ∨ name ∈ fields.map Prod.fst := by
  induction fields with
  | nil => simp [putField]
  | cons field fields ih =>
      obtain ⟨other, present⟩ := field
      rw [putField]
      split
      · rename_i hother
        simp [hother]
      · rw [List.map_cons, List.mem_cons, ih, List.map_cons, List.mem_cons]
        exact or_left_comm

theorem mem_keys_mergeField (name key : String) (value target : Value) :
    name ∈ (mergeField key value target).keys ↔ name = Text.lower key ∨ name ∈ target.keys := by
  rw [mergeField_eq]
  exact mem_keys_putField

/-- Every field of a table that is merged is there afterwards, and so are those that were there before. -/
theorem mem_keys_mergeFields {name : String} {fields : List (String × Value)} {target : Value}
    (h : name ∈ target.keys ∨ ∃ field ∈ fields, Text.lower field.1 = name) :
    name ∈ (mergeFields fields target).keys := by
  induction fields generalizing target with
  | nil =>
      rcases h with htarget | ⟨_, hnone, _⟩
      · exact htarget
      · exact absurd hnone List.not_mem_nil
  | cons field fields ih =>
      obtain ⟨key, value⟩ := field
      rw [mergeFields]
      refine ih ?_
      rw [mem_keys_mergeField]
      rcases h with htarget | ⟨other, hother, hname⟩
      · exact .inl (.inr htarget)
      · rcases List.mem_cons.1 hother with rfl | hother
        · exact .inl (.inl hname.symm)
        · exact .inr ⟨other, hother, hname⟩

/-- Fields with one key in any case make a table with that key alone. -/
theorem mergeFields_of_one_key {key : String} {fields : List (String × Value)}
    (h : ∀ field ∈ fields, Text.lower field.1 = key) (present : Value) :
    ∃ merged, mergeFields fields (.table none [(key, present)]) = .table none [(key, merged)] := by
  induction fields generalizing present with
  | nil => exact ⟨present, rfl⟩
  | cons field fields ih =>
      obtain ⟨other, value⟩ := field
      have hother : Text.lower other = key := h (other, value) List.mem_cons_self
      rw [mergeFields, mergeField_eq, hother]
      show ∃ merged, mergeFields fields (.table none (putField key _ [(key, present)])) = _
      rw [putField, if_pos rfl]
      exact ih (fun field hfield => h field (List.mem_cons_of_mem _ hfield)) _

theorem mem_keys_place (value : Value) (name : String) (rest : List KeyStep) (current : Option Value) :
    spelled name rest ∈ (place value (.child name :: rest) current).keys := by
  rw [place_child]
  exact mem_keys_putField.2 (.inl rfl)

theorem isTable_mergeFields {fields : List (String × Value)} {target : Value}
    (h : target.isTable = true ∨ fields ≠ []) : (mergeFields fields target).isTable = true := by
  induction fields generalizing target with
  | nil => exact h.resolve_right (absurd rfl)
  | cons field fields ih =>
      obtain ⟨key, value⟩ := field
      rw [mergeFields, mergeField_eq]
      exact ih (.inl rfl)

/-- Everything that a saying that defines something makes of what stands there: a table, an item of a list, or a
value that does not depend on it. -/
theorem Saying.onto_cases {saying : Saying} (h : saying.defines = true) (current : Option Value) :
    (saying.onto current).isTable = true ∨
      (saying.isItem = true ∧ ∃ origin items, saying.onto current = .list origin items) ∨
      saying.alone = saying.onto current := by
  cases saying with
  | put value =>
      cases value with
      | scalar origin value => exact .inr (.inr rfl)
      | list origin items => exact .inr (.inr rfl)
      | table origin fields =>
          refine .inl (isTable_mergeFields (.inr ?_))
          rintro rfl
          cases h
  | below step rest value =>
      cases step with
      | child key =>
          refine .inl ?_
          show (place value (.child key :: rest) current).isTable = true
          rw [place_child]
          rfl
      | position index =>
          refine .inr (.inl ⟨rfl, ?_⟩)
          cases rest <;> exact ⟨_, _, rfl⟩

/-- A value that is read as something other than a transport is no table, and it is a list only if it is read as
the endpoints. -/
theorem Setting.kind_of_read {setting : Setting} (hother : setting ≠ .transport) {value : Value}
    {result : setting.Kind} (h : setting.read value = .ok result) :
    value.isTable = false ∧ ∀ origin items, value = .list origin items → setting = .endpoints := by
  cases value with
  | scalar origin value => exact ⟨rfl, fun _ _ heq => Value.noConfusion heq⟩
  | list origin items =>
      refine ⟨rfl, fun _ _ _ => ?_⟩
      cases setting
      case endpoints => rfl
      case transport => exact absurd rfl hother
      all_goals cases h
  | table origin fields =>
      cases setting
      case transport => exact absurd rfl hother
      all_goals cases h

/-- A table that is read as a transport has one key, the name of the transport. -/
theorem readTransport_table {value : Value} {kind : TransportKind} (htable : value.isTable = true)
    (h : readTransport value = .ok kind) :
    ∃ key, value.keys = [key] ∧ ∀ origin other,
      readTransport (.table origin [(key, other)]) = .ok kind := by
  cases value with
  | scalar origin value => cases htable
  | list origin items => cases htable
  | table origin fields =>
      cases fields with
      | nil => cases h
      | cons field rest =>
          cases rest with
          | nil => exact ⟨field.1, rfl, fun _ _ => h⟩
          | cons next rest => cases h

/-- A transport that is read from what a saying makes of a table is read from what it says alone. -/
theorem readTransport_alone {saying : Saying} (hdefines : saying.defines = true) {current : Option Value}
    {kind : TransportKind} (htable : (saying.onto current).isTable = true)
    (h : readTransport (saying.onto current) = .ok kind) : readTransport saying.alone = .ok kind := by
  obtain ⟨key, hkeys, hread⟩ := readTransport_table htable h
  cases saying with
  | put value =>
      cases value with
      | scalar origin value => cases htable
      | list origin items => cases htable
      | table origin fields =>
          -- every field has the one key that is there in the end
          have hone : ∀ field ∈ fields, Text.lower field.1 = key := by
            intro field hfield
            have hmem : Text.lower field.1 ∈ (mergeFields fields (current.getD emptyTable)).keys :=
              mem_keys_mergeFields (.inr ⟨field, hfield, rfl⟩)
            have hkeys : (mergeFields fields (current.getD emptyTable)).keys = [key] := hkeys
            rw [hkeys] at hmem
            exact List.mem_singleton.1 hmem
          cases fields with
          | nil => cases hdefines
          | cons field fields =>
              obtain ⟨merged, hmerged⟩ := mergeFields_of_one_key
                (fun other hother => hone other (List.mem_cons_of_mem _ hother))
                (field.2.onto none)
              have halone : (Saying.put (.table origin (field :: fields))).alone =
                  mergeFields fields (.table none [(key, field.2.onto none)]) := by
                show mergeFields fields (mergeField field.1 field.2 emptyTable) = _
                rw [mergeField_eq, hone field List.mem_cons_self]
                rfl
              rw [halone, hmerged]
              exact hread none merged
  | below step rest value =>
      cases step with
      | position index => cases rest <;> cases htable
      | child name =>
          have honto : (Saying.below (.child name) rest value).onto current =
              place value (.child name :: rest) current := rfl
          have halone : (Saying.below (.child name) rest value).alone =
              place value (.child name :: rest) none := rfl
          have hname : spelled name rest = key := by
            have hmem := mem_keys_place value name rest current
            rw [← honto, hkeys] at hmem
            exact List.mem_singleton.1 hmem
          rw [halone, place_child, hname]
          exact hread _ _

/-- A setting that is read from what a saying makes of what stands there is read from what it says alone. -/
theorem Setting.read_alone (setting : Setting) {saying : Saying} (hdefines : saying.defines = true)
    (hitem : setting = .endpoints → saying.isItem = false) {current : Option Value}
    {result : setting.Kind} (h : setting.read (saying.onto current) = .ok result) :
    setting.read saying.alone = .ok result := by
  by_cases htransport : setting = .transport
  · subst htransport
    rcases saying.onto_cases hdefines current with htable | ⟨-, origin, items, hlist⟩ | halone
    · exact readTransport_alone hdefines htable h
    · rw [hlist] at h
      cases h
    · rw [halone]
      exact h
  · obtain ⟨hnoTable, hlists⟩ := Setting.kind_of_read htransport h
    rcases saying.onto_cases hdefines current with htable | ⟨hisItem, origin, items, hlist⟩ | halone
    · rw [hnoTable] at htable
      cases htable
    · rw [hitem (hlists origin items hlist)] at hisItem
      cases hisItem
    · rw [halone]
      exact h

/-- Nothing is read from an empty table. -/
theorem Setting.read_emptyTable (setting : Setting) (result : setting.Kind) :
    setting.read emptyTable ≠ .ok result := by
  intro h
  cases setting <;> cases h

end DeviceBus.Config
