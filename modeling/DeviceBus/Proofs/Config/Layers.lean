import DeviceBus.Config.Layer

/-!
# What layers put at a path

Layers of settings are laid over one another key by key.  For one path of names this is a list of sayings, one
after the other: a value that is put there, or something that is set below it.  This module takes the whole
stack of layers apart into the sayings about one path, so that nothing else matters for what stands there.

* `Value.at?`: what stands at a path of names.
* `Saying`, `Layer.sayings`: what a layer says about a path, in order.
* `ancestors`, `Value.Clear`: the paths above a path, and a value that has tables there.
* `at?_stack`: what all layers put at a path is what their sayings make of nothing, one after the other.
-/

namespace DeviceBus.Config

/-- The paths above a path, the first name alone first. -/
def ancestors : List String → List (List String)
  | [] => []
  | name :: path => if path = [] then [] else [name] :: (ancestors path).map (name :: ·)

theorem ancestors_cons_cons (name next : String) (path : List String) :
    ancestors (name :: next :: path) = [name] :: (ancestors (next :: path)).map (name :: ·) :=
  if_neg (List.cons_ne_nil _ _)

namespace Value

/-- Whether a value is a table. -/
def isTable : Value → Bool
  | .table _ _ => true
  | _ => false

/-- What stands at a path of names. -/
def at? : Value → List String → Option Value
  | value, [] => some value
  | value, name :: path => (value.asTable.2.lookup name).bind fun child => at? child path

/-- All that stands at a path of names, where the case of keys does not count. -/
def within : Value → List String → List Value
  | value, [] => [value]
  | value, name :: path => value.asTable.2.flatMap fun field =>
      if Text.lower field.1 = name then within field.2 path else []

/-- A value that is a table, and has tables above a path if it has anything there. -/
def Clear : Value → List String → Prop
  | _, [] => True
  | value, name :: path => value.isTable = true ∧
      ∀ child, value.asTable.2.lookup name = some child → Clear child path

/-- A value that is a table, and has nothing but tables above a path in any case of its keys. -/
def Maps : Value → List String → Prop
  | _, [] => True
  | value, name :: path => value.isTable = true ∧
      ∀ field ∈ value.asTable.2, Text.lower field.1 = name → Maps field.2 path

/-- What a value makes of what stands where it is put: tables are merged, and any other value replaces it. -/
def onto (value : Value) (current : Option Value) : Value :=
  match value with
  | .table _ fields => mergeFields fields (current.getD emptyTable)
  | other => other

/-! ## One field -/

theorem lookup_cons_of_ne {key name : String} (h : name ≠ key) (value : Value)
    (fields : List (String × Value)) : ((key, value) :: fields).lookup name = fields.lookup name := by
  rw [List.lookup_cons, beq_false_of_ne h]

theorem lookup_putField_self (key : String) (value : Value) (fields : List (String × Value)) :
    (putField key value fields).lookup key = some value := by
  induction fields with
  | nil => exact List.lookup_cons_self
  | cons field fields ih =>
      obtain ⟨other, present⟩ := field
      rw [putField]
      split
      · exact List.lookup_cons_self
      · rename_i hother
        rw [lookup_cons_of_ne (Ne.symm hother), ih]

theorem lookup_putField_of_ne {key name : String} (h : key ≠ name) (value : Value)
    (fields : List (String × Value)) : (putField key value fields).lookup name = fields.lookup name := by
  induction fields with
  | nil => exact lookup_cons_of_ne (Ne.symm h) value []
  | cons field fields ih =>
      obtain ⟨other, present⟩ := field
      rw [putField]
      split
      · rename_i hother
        rw [lookup_cons_of_ne (Ne.symm h), lookup_cons_of_ne (hother ▸ Ne.symm h)]
      · by_cases hname : name = other
        · rw [hname, List.lookup_cons_self, List.lookup_cons_self]
        · rw [lookup_cons_of_ne hname, lookup_cons_of_ne hname, ih]

/-- A field is set by what its value makes of what stands there. -/
theorem mergeField_eq (key : String) (value target : Value) :
    mergeField key value target = .table target.asTable.1
      (putField (Text.lower key) (value.onto (target.asTable.2.lookup (Text.lower key)))
        target.asTable.2) := by
  cases value <;> rw [mergeField] <;> rfl

theorem at?_cons (value : Value) (name : String) (path : List String) :
    value.at? (name :: path) = (value.asTable.2.lookup name).bind (·.at? path) := rfl

/-- What a field that is set leaves at a path: at its own key what its value makes of what stands there, and
at another key what was there. -/
theorem at?_putField (origin : Option String) (key : String) (value : Value)
    (fields : List (String × Value)) (name : String) (path : List String) :
    (table origin (putField key value fields)).at? (name :: path) =
      if key = name then value.at? path else (fields.lookup name).bind (·.at? path) := by
  show ((putField key value fields).lookup name).bind _ = _
  split
  · rename_i heq
    rw [heq, lookup_putField_self, Option.bind_some]
  · rename_i hne
    rw [lookup_putField_of_ne hne]

theorem clear_putField {origin : Option String} {key : String} {value : Value}
    {fields : List (String × Value)} {name : String} {path : List String}
    (hvalue : key = name → value.Clear path)
    (hfields : ∀ child, fields.lookup name = some child → child.Clear path) :
    (table origin (putField key value fields)).Clear (name :: path) := by
  refine ⟨rfl, fun child hchild => ?_⟩
  have hchild : (putField key value fields).lookup name = some child := hchild
  by_cases heq : key = name
  · subst heq
    rw [lookup_putField_self] at hchild
    exact Option.some.inj hchild ▸ hvalue rfl
  · rw [lookup_putField_of_ne heq] at hchild
    exact hfields child hchild

/-- What a saying leaves, from what stood there before. -/
def lay (current : Option Value) (value : Value) : Option Value := some (value.onto current)

/-- What a value leaves at a path, where all is clear: what it puts there in any case of its keys, one after
the other. -/
def Traced (path : List String) : Prop :=
  ∀ (value : Value) (current : Option Value), value.Maps path →
    (∀ present, current = some present → present.Clear path) →
    (value.onto current).at? path = (value.within path).foldl lay (current.bind (·.at? path)) ∧
      (value.onto current).Clear path

/-- The fields of a table are set one after the other. -/
theorem traced_mergeFields {name : String} {path : List String} (htraced : Traced path)
    {fields : List (String × Value)}
    (hmaps : ∀ field ∈ fields, Text.lower field.1 = name → field.2.Maps path) {target : Value}
    (hclear : target.Clear (name :: path)) :
    (mergeFields fields target).at? (name :: path) =
        (fields.flatMap fun field =>
          if Text.lower field.1 = name then field.2.within path else []).foldl lay
            (target.at? (name :: path)) ∧
      (mergeFields fields target).Clear (name :: path) := by
  induction fields generalizing target with
  | nil => exact ⟨rfl, hclear⟩
  | cons field fields ih =>
      obtain ⟨key, value⟩ := field
      have hrest := fun field hfield => hmaps field (List.mem_cons_of_mem _ hfield)
      have hone : (mergeField key value target).at? (name :: path) =
          (if Text.lower key = name then value.within path else []).foldl lay
            (target.at? (name :: path)) ∧ (mergeField key value target).Clear (name :: path) := by
        rw [mergeField_eq, at?_putField]
        by_cases hkey : Text.lower key = name
        · have hvalue := htraced value (target.asTable.2.lookup name)
            (hmaps (key, value) List.mem_cons_self hkey) hclear.2
          rw [if_pos hkey, if_pos hkey, hkey]
          exact ⟨hvalue.1, clear_putField (fun _ => hvalue.2) hclear.2⟩
        · rw [if_neg hkey, if_neg hkey]
          exact ⟨rfl, clear_putField (fun heq => absurd heq hkey) hclear.2⟩
      rw [mergeFields, List.flatMap_cons, List.foldl_append, ← hone.1]
      exact ih hrest hone.2

theorem traced (path : List String) : Traced path := by
  -- induction on the path: a table passes what it is put on to its fields
  induction path with
  | nil =>
      intro value current _ _
      refine ⟨?_, trivial⟩
      cases current <;> rfl
  | cons name path ih =>
      intro value current hmaps hclear
      obtain ⟨htable, hfields⟩ := hmaps
      cases value with
      | scalar origin value => cases htable
      | list origin items => cases htable
      | table origin fields =>
          have hstart : current.bind (·.at? (name :: path)) =
              (current.getD emptyTable).at? (name :: path) := by
            cases current <;> rfl
          have hopen : (current.getD emptyTable).Clear (name :: path) := by
            cases current with
            | none => exact ⟨rfl, fun child hchild => absurd hchild.symm (Option.some_ne_none _)⟩
            | some present => exact hclear present rfl
          rw [hstart]
          exact traced_mergeFields ih hfields hopen

/-- A value that puts nothing but tables above a path has tables there. -/
theorem maps_of_ancestors {value : Value} {path : List String}
    (hhere : path ≠ [] → value.isTable = true)
    (habove : ∀ above ∈ ancestors path, ∀ other ∈ value.within above, other.isTable = true) :
    value.Maps path := by
  induction path generalizing value with
  | nil => trivial
  | cons name path ih =>
      refine ⟨hhere (List.cons_ne_nil _ _), fun field hfield hname => ?_⟩
      have hwithin : ∀ above, ∀ other ∈ field.2.within above, other ∈ value.within (name :: above) := by
        intro above other hother
        refine List.mem_flatMap.2 ⟨field, hfield, ?_⟩
        rw [if_pos hname]
        exact hother
      cases path with
      | nil => trivial
      | cons next path =>
          rw [ancestors_cons_cons] at habove
          refine ih (fun _ => ?_) fun above hmem other hother => ?_
          · exact habove [name] List.mem_cons_self _ (hwithin [] _ (List.mem_singleton_self _))
          · exact habove (name :: above)
              (List.mem_cons_of_mem _ (List.mem_map.2 ⟨above, hmem, rfl⟩)) _ (hwithin above _ hother)

end Value

/-! ## Sayings -/

open Value

/-- What is said about a path: a value is put there, or a value is set at some steps below it. -/
inductive Saying where
  | put (value : Value)
  | below (step : KeyStep) (rest : List KeyStep) (value : Value)

namespace Saying

/-- What a saying makes of what stands there. -/
def onto (saying : Saying) (current : Option Value) : Value :=
  match saying with
  | .put value => value.onto current
  | .below step rest value => setAt value (step :: rest) (current.getD absent)

/-- A saying that makes a table, or leaves one. -/
def isMap : Saying → Bool
  | .put value => value.isTable
  | .below (.child _) _ _ => true
  | .below (.position _) _ _ => false

/-- What a saying leaves, from what stood there before. -/
def lay (current : Option Value) (saying : Saying) : Option Value := some (saying.onto current)

end Saying

/-- How a name in a path is spelled in the tables that it leads through; the last one counts in lower case. -/
def spelled (name : String) (rest : List KeyStep) : String :=
  if rest = [] then Text.lower name else name

/-- What a value that is set at some steps says about a path. -/
def reached (value : Value) : List KeyStep → List String → List Saying
  | [], path => (value.within path).map .put
  | step :: rest, [] => [.below step rest value]
  | .child key :: rest, name :: path => if spelled key rest = name then reached value rest path else []
  | .position _ :: _, _ :: _ => []

/-- What a layer says about a path, in order. -/
def Layer.sayings (layer : Layer) (path : List String) : List Saying :=
  layer.flatMap fun field => reached field.2 (keyPath field.1) path

/-- The steps lead through tables to a path, or away from it. -/
def Leads (value : Value) : List KeyStep → List String → Prop
  | [], path => value.Maps path
  | _ :: _, [] => True
  | .child key :: rest, name :: path => spelled key rest = name → Leads value rest path
  | .position _ :: _, _ :: _ => False

/-- What a value that is set at some steps makes of what stands where the steps begin. -/
def place (value : Value) (steps : List KeyStep) (current : Option Value) : Value :=
  match steps with
  | [] => value.onto current
  | step :: rest => setAt value (step :: rest) (current.getD absent)

/-- A step to a name sets a field by what the other steps make of what stands there. -/
theorem place_child (value : Value) (key : String) (rest : List KeyStep) (current : Option Value) :
    place value (.child key :: rest) current =
      let target := current.getD absent
      .table target.asTable.1 (putField (spelled key rest)
        (place value rest (target.asTable.2.lookup (spelled key rest))) target.asTable.2) := by
  cases rest with
  | nil => exact mergeField_eq _ _ _
  | cons next rest => rfl

/-- What a value that is set at some steps leaves at a path, where all is clear: what it says about it, one
after the other. -/
theorem at?_place {value : Value} {steps : List KeyStep} {path : List String} {current : Option Value}
    (hleads : Leads value steps path)
    (hclear : ∀ present, current = some present → present.Clear path) :
    (place value steps current).at? path =
        (reached value steps path).foldl Saying.lay (current.bind (·.at? path)) ∧
      (place value steps current).Clear path := by
  induction steps generalizing path current with
  | nil =>
      obtain ⟨hat, hafter⟩ := traced path value current hleads hclear
      refine ⟨?_, hafter⟩
      rw [reached, List.foldl_map]
      exact hat
  | cons step rest ih =>
      cases path with
      | nil =>
          refine ⟨?_, trivial⟩
          cases current <;> rfl
      | cons name path =>
          cases step with
          | position index => exact hleads.elim
          | child key =>
              have hleads : spelled key rest = name → Leads value rest path := hleads
              have hfields : ∀ child, (current.getD absent).asTable.2.lookup name = some child →
                  child.Clear path := by
                cases current with
                | none => exact fun child hchild => absurd hchild.symm (Option.some_ne_none _)
                | some present => exact (hclear present rfl).2
              have hstart : current.bind (·.at? (name :: path)) =
                  ((current.getD absent).asTable.2.lookup name).bind (·.at? path) := by
                cases current <;> rfl
              rw [place_child, hstart, reached]
              dsimp only
              rw [at?_putField]
              by_cases hkey : spelled key rest = name
              · obtain ⟨hat, hafter⟩ := ih (hleads hkey) hfields
                rw [if_pos hkey, if_pos hkey, hkey]
                exact ⟨hat, clear_putField (fun _ => hafter) hfields⟩
              · rw [if_neg hkey, if_neg hkey]
                exact ⟨rfl, clear_putField (fun heq => absurd heq hkey) hfields⟩

/-- Steps that say nothing but tables above a path lead through tables to it. -/
theorem leads_of_ancestors {value : Value} {steps : List KeyStep} {path : List String}
    (hhere : path ≠ [] → ∀ saying ∈ reached value steps [], saying.isMap = true)
    (habove : ∀ above ∈ ancestors path, ∀ saying ∈ reached value steps above, saying.isMap = true) :
    Leads value steps path := by
  induction steps generalizing path with
  | nil =>
      refine maps_of_ancestors (fun hpath => ?_) fun above hmem other hother => ?_
      · exact hhere hpath (.put value) (List.mem_singleton_self _)
      · exact habove above hmem (.put other) (List.mem_map.2 ⟨other, hother, rfl⟩)
  | cons step rest ih =>
      cases path with
      | nil => trivial
      | cons name path =>
          cases step with
          | position index =>
              have hmap := hhere (List.cons_ne_nil _ _) (.below (.position index) rest value)
                (List.mem_singleton_self _)
              cases hmap
          | child key =>
              intro hkey
              have hinside : ∀ above, reached value (.child key :: rest) (name :: above) =
                  reached value rest above := fun above => if_pos hkey
              cases path with
              | nil => exact ih (fun hpath => absurd rfl hpath) fun _ hnone => absurd hnone List.not_mem_nil
              | cons next path =>
                  rw [ancestors_cons_cons] at habove
                  refine ih (fun _ saying hsaying => ?_) fun above hmem saying hsaying => ?_
                  · exact habove [name] List.mem_cons_self saying ((hinside []).symm ▸ hsaying)
                  · exact habove (name :: above) (List.mem_cons_of_mem _ (List.mem_map.2 ⟨above, hmem, rfl⟩))
                      saying ((hinside above).symm ▸ hsaying)

/-! ## Layers -/

/-- A layer that puts nothing but tables above a path. -/
def Layer.LeavesClear (layer : Layer) (path : List String) : Prop :=
  ∀ above ∈ ancestors path, ∀ saying ∈ layer.sayings above, saying.isMap = true

instance (layer : Layer) (path : List String) : Decidable (layer.LeavesClear path) :=
  inferInstanceAs (Decidable (∀ above ∈ ancestors path, ∀ saying ∈ layer.sayings above,
    saying.isMap = true))

/-- A name begins with a step to a name. -/
theorem exists_keyPath (name : String) : ∃ key rest, keyPath name = .child key :: rest := by
  unfold keyPath
  dsimp only
  split
  · split
    · exact ⟨_, _, rfl⟩
    · exact ⟨_, _, rfl⟩
  · exact ⟨_, _, rfl⟩

/-- What a layer leaves at a path is what it says about it, one after the other. -/
theorem at?_over {layer : Layer} {root : Value} {path : List String} (hlayer : layer.LeavesClear path)
    (hroot : root.Clear path) :
    (layer.over root).at? path = (layer.sayings path).foldl Saying.lay (root.at? path) ∧
      (layer.over root).Clear path := by
  induction layer generalizing root with
  | nil => exact ⟨rfl, hroot⟩
  | cons field layer ih =>
      obtain ⟨name, value⟩ := field
      obtain ⟨key, rest, hsteps⟩ := exists_keyPath name
      have hleads : Leads value (keyPath name) path := by
        refine leads_of_ancestors (fun _ saying hsaying => ?_) fun above hmem saying hsaying => ?_
        · rw [hsteps] at hsaying
          rw [List.mem_singleton.1 hsaying]
          rfl
        · exact hlayer above hmem saying (List.mem_flatMap.2 ⟨_, List.mem_cons_self, hsaying⟩)
      have hrest : Layer.LeavesClear layer path := fun above hmem saying hsaying =>
        hlayer above hmem saying (List.mem_append_right _ hsaying)
      have hone := @at?_place value (keyPath name) path (some root) hleads
        fun present hpresent => Option.some.inj hpresent ▸ hroot
      have hplace : place value (keyPath name) (some root) = setAt value (keyPath name) root := by
        rw [hsteps]
        rfl
      rw [hplace, Option.bind_some] at hone
      have hall := ih hrest hone.2
      rw [hone.1, ← List.foldl_append] at hall
      exact hall

/-- What all layers put at a path is what their sayings make of nothing, one after the other. -/
theorem at?_stack {layers : List Layer} {name : String} {path : List String}
    (h : ∀ layer ∈ layers, layer.LeavesClear (name :: path)) :
    (stack layers).at? (name :: path) =
        (layers.flatMap (Layer.sayings · (name :: path))).foldl Saying.lay none ∧
      (stack layers).Clear (name :: path) := by
  suffices hfrom : ∀ root : Value, root.Clear (name :: path) →
      (layers.foldl (fun root layer => layer.over root) root).at? (name :: path) =
          (layers.flatMap (Layer.sayings · (name :: path))).foldl Saying.lay (root.at? (name :: path)) ∧
        (layers.foldl (fun root layer => layer.over root) root).Clear (name :: path) from
    hfrom emptyTable ⟨rfl, fun child hchild => absurd hchild.symm (Option.some_ne_none _)⟩
  induction layers with
  | nil => exact fun root hroot => ⟨rfl, hroot⟩
  | cons layer layers ih =>
      intro root hroot
      have hone := at?_over (h layer List.mem_cons_self) hroot
      rw [List.foldl_cons, List.flatMap_cons, List.foldl_append, ← hone.1]
      exact ih (fun other hother => h other (List.mem_cons_of_mem _ hother)) _ hone.2

end DeviceBus.Config
