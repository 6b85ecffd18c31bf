import DeviceBus.Config.Load
import DeviceBus.Proofs.Config.Reading
import Mathlib.Data.List.Induction

/-!
# Which layer gives a setting

Settings come from four layers: the usual file, the file that the arguments name, the file that the environment
names, and the variables of the environment.  The last layer that says anything about the key of a setting gives
its value, whatever the layers say about other keys.

* `Layer.finalSaying`, `lastSaid`: what a layer says about a key in the end, and what the last layer says that says
  anything.
* `exists_onto_of_lastDefining`, `empty_of_lastDefining`: what sayings leave is what the last of them that says
  anything makes of something, or nothing.
* `Setting.value_of_lastSaid`, `Setting.eq_of_lastSaid`: the value of a setting is what was said last, so layers
  that say the same last about its key give it the same value.
* `precedence`: a setting has the value that the last layer says, and its default if none does.
* `endpoints_of_two_layers`: a list of endpoints that no layer gives.
-/

namespace DeviceBus.Config

open Value

/-! ## The last saying -/

/-- The last of some sayings that says anything. -/
def lastDefining (sayings : List Saying) : Option Saying :=
  (sayings.filter Saying.defines).getLast?

theorem lastDefining_append (sayings others : List Saying) :
    lastDefining (sayings ++ others) = (lastDefining others).or (lastDefining sayings) := by
  rw [lastDefining, List.filter_append, List.getLast?_append]
  rfl

theorem lastDefining_singleton (saying : Saying) :
    lastDefining [saying] = if saying.defines then some saying else none := by
  rw [lastDefining, List.filter_cons]
  split <;> rfl

theorem defines_of_lastDefining {sayings : List Saying} {saying : Saying}
    (h : lastDefining sayings = some saying) : saying.defines = true :=
  (List.mem_filter.1 (List.mem_of_getLast? h)).2

/-- What a layer says about a key in the end, if it says anything. -/
def Layer.finalSaying (layer : Layer) (path : List String) : Option Saying :=
  lastDefining (layer.sayings path)

/-- What the last layer says about a key that says anything. -/
def lastSaid (layers : List Layer) (path : List String) : Option Saying :=
  layers.reverse.findSome? (Layer.finalSaying · path)

theorem lastSaid_append_singleton (layers : List Layer) (layer : Layer) (path : List String) :
    lastSaid (layers ++ [layer]) path = (layer.finalSaying path).or (lastSaid layers path) := by
  rw [lastSaid, List.reverse_append, List.reverse_singleton, List.singleton_append, List.findSome?_cons]
  cases layer.finalSaying path <;> rfl

/-- The last layer that says anything says the last of all that is said. -/
theorem lastSaid_eq_lastDefining (layers : List Layer) (path : List String) :
    lastSaid layers path = lastDefining (layers.flatMap (Layer.sayings · path)) := by
  induction layers using List.reverseRecOn with
  | nil => rfl
  | append_singleton layers layer ih =>
      rw [lastSaid_append_singleton, List.flatMap_append, List.flatMap_singleton, lastDefining_append, ih]
      rfl

/-- What sayings leave where nothing stood is what the last one that says anything makes of what stood there by
then. -/
theorem exists_onto_of_lastDefining {sayings : List Saying} {saying : Saying}
    (h : lastDefining sayings = some saying) :
    ∃ current, sayings.foldl Saying.lay none = some (saying.onto current) := by
  -- from the end: a saying that says nothing leaves what is there
  induction sayings using List.reverseRecOn with
  | nil => exact absurd h.symm (Option.some_ne_none _)
  | append_singleton sayings last ih =>
      rw [lastDefining_append, lastDefining_singleton] at h
      rw [List.foldl_append, List.foldl_cons, List.foldl_nil, Saying.lay]
      cases hlast : last.defines with
      | true =>
          rw [hlast] at h
          exact ⟨_, by rw [Option.some.inj h]⟩
      | false =>
          rw [hlast] at h
          obtain ⟨current, hcurrent⟩ := ih h
          exact ⟨current, by rw [Saying.onto_of_not_defines hlast, hcurrent, Option.getD_some]⟩

/-- Sayings that say nothing leave an empty table or nothing where nothing stood. -/
theorem empty_of_lastDefining {sayings : List Saying} (h : lastDefining sayings = none) :
    sayings.foldl Saying.lay none = none ∨ sayings.foldl Saying.lay none = some emptyTable := by
  induction sayings using List.reverseRecOn with
  | nil => exact .inl rfl
  | append_singleton sayings last ih =>
      rw [lastDefining_append, lastDefining_singleton, Option.or_eq_none_iff] at h
      obtain ⟨hlast, hbefore⟩ := h
      have hnot : last.defines = false := Bool.eq_false_iff.2 fun hdefines => by
        rw [if_pos hdefines] at hlast
        exact absurd hlast (Option.some_ne_none _)
      rw [List.foldl_append, List.foldl_cons, List.foldl_nil, Saying.lay, Saying.onto_of_not_defines hnot]
      rcases ih hbefore with hnothing | hempty
      · rw [hnothing]
        exact .inr rfl
      · rw [hempty]
        exact .inr rfl

/-- A setting has the value that was said last, and its default if nothing was said. -/
theorem Setting.value_of_lastSaid (setting : Setting) {layers : List Layer} {settings : Settings}
    (hclear : ∀ layer ∈ layers, layer.LeavesClear setting.path)
    (h : readSettings (stack layers) = .ok settings) :
    (lastSaid layers setting.path = none → setting.of settings = setting.of {}) ∧
      ∀ saying, lastSaid layers setting.path = some saying →
        (setting = .endpoints → saying.isItem = false) →
        setting.read saying.alone = .ok (setting.of settings) := by
  obtain ⟨name, path, hpath⟩ : ∃ name path, setting.path = name :: path := by
    cases setting <;> exact ⟨_, _, rfl⟩
  rw [hpath] at hclear
  obtain ⟨hat, hstack⟩ := at?_stack hclear
  rw [← hpath] at hat hstack
  have hgiven := setting.given_of_readSettings hstack h
  rw [hat] at hgiven
  rw [lastSaid_eq_lastDefining]
  refine ⟨fun hnone => ?_, fun saying hsaying hitem => ?_⟩
  · rcases empty_of_lastDefining hnone with hnothing | hempty
    · rw [hnothing] at hgiven
      exact hgiven
    · rw [hempty] at hgiven
      exact absurd hgiven (setting.read_emptyTable _)
  · obtain ⟨current, hcurrent⟩ := exists_onto_of_lastDefining hsaying
    rw [hcurrent] at hgiven
    exact setting.read_alone (defines_of_lastDefining hsaying) hitem hgiven

section Agreement

variable {all all' : List Layer} {settings settings' : Settings}

/-- Layers that say the same last about the key of a setting give it the same value. -/
theorem Setting.eq_of_lastSaid (setting : Setting) (hread : readSettings (stack all) = .ok settings)
    (hread' : readSettings (stack all') = .ok settings')
    (hclear : ∀ layer ∈ all, layer.LeavesClear setting.path)
    (hclear' : ∀ layer ∈ all', layer.LeavesClear setting.path)
    (hsame : lastSaid all' setting.path = lastSaid all setting.path)
    (hitem : setting = .endpoints → ∀ saying ∈ lastSaid all setting.path, saying.isItem = false) :
    setting.of settings' = setting.of settings := by
  have hvalue := setting.value_of_lastSaid hclear hread
  have hvalue' := setting.value_of_lastSaid hclear' hread'
  cases hsaid : lastSaid all setting.path with
  | none => rw [hvalue.1 hsaid, hvalue'.1 (hsame.trans hsaid)]
  | some saying =>
      have hnoItem : setting = .endpoints → saying.isItem = false :=
        fun hsetting => hitem hsetting saying hsaid
      have hfirst := hvalue.2 saying hsaid hnoItem
      have hsecond := hvalue'.2 saying (hsame.trans hsaid) hnoItem
      exact Except.ok.inj (hsecond.symm.trans hfirst)

end Agreement

/-! ## Loading -/

/-- Settings that were loaded come from four layers. -/
theorem exists_layers_of_load {files : FileSource} {argument : Option String}
    {environment : List (String × String)} {settings : Settings}
    (h : load files argument environment = .ok settings) : ∃ usual given named,
      optionalLayer files usualFile = .ok usual ∧ namedLayer files argument = .ok given ∧
        namedLayer files (environment.lookup fileVariable) = .ok named ∧
        layers files argument environment = .ok [usual, given, named, .ofEnvironment environment] := by
  obtain ⟨all, hlayers, -⟩ := exists_of_bind_ok h
  have hall := hlayers
  obtain ⟨usual, husual, hlayers⟩ := exists_of_bind_ok hlayers
  obtain ⟨given, hgiven, hlayers⟩ := exists_of_bind_ok hlayers
  obtain ⟨named, hnamed, hlayers⟩ := exists_of_bind_ok hlayers
  obtain rfl := Except.ok.inj hlayers
  exact ⟨usual, given, named, husual, hgiven, hnamed, hall⟩

/-- Settings are read from what the layers put together. -/
theorem readSettings_of_load {files : FileSource} {argument : Option String}
    {environment : List (String × String)} {all : List Layer} {settings : Settings}
    (hall : layers files argument environment = .ok all)
    (hload : load files argument environment = .ok settings) : readSettings (stack all) = .ok settings := by
  rw [load, hall] at hload
  exact hload

/-- A file is looked for at its paths only. -/
theorem findFile?_congr {files other : FileSource} {name : String}
    (h : ∀ path ∈ pathsOf name, other path = files path) : findFile? other name = findFile? files name := by
  unfold findFile?
  generalize pathsOf name = paths at h
  induction paths with
  | nil => rfl
  | cons path paths ih =>
      rw [List.findSome?_cons, List.findSome?_cons, h path List.mem_cons_self,
        ih fun other hother => h other (List.mem_cons_of_mem _ hother)]

theorem findFile?_of_missing {files : FileSource} {name : String}
    (h : ∀ path ∈ pathsOf name, files path = none) : findFile? files name = none :=
  List.findSome?_eq_none_iff.2 fun path hpath => by rw [h path hpath, Option.map_none]

theorem namedLayer_congr {files other : FileSource} {name? : Option String}
    (h : ∀ name ∈ name?, ∀ path ∈ pathsOf name, other path = files path) :
    namedLayer other name? = namedLayer files name? := by
  cases name? with
  | none => rfl
  | some name =>
      simp only [namedLayer, requiredLayer, readFile, findFile?_congr (h name rfl)]

/-- A file that is not there makes a layer fail that must be there. -/
theorem namedLayer_of_missing {files : FileSource} {name : String}
    (h : ∀ path ∈ pathsOf name, files path = none) :
    ∃ fault, namedLayer files (some name) = .error fault := by
  have hfind : findFile? files name = none := findFile?_of_missing h
  simp only [namedLayer, requiredLayer, readFile, hfind]
  exact ⟨_, rfl⟩

/-- An empty file says nothing. -/
theorem ofText_empty (file : String) : Layer.ofText file "" = .ok [] := by
  have hdocuments : Yaml.documents "" = .ok [] := by rfl
  rw [Layer.ofText, hdocuments]

theorem optionalLayer_of_missing {files : FileSource} {name : String}
    (h : ∀ path ∈ pathsOf name, files path = none) : optionalLayer files name = .ok [] := by
  rw [optionalLayer, readFile, findFile?_of_missing h]

theorem optionalLayer_of_empty {files : FileSource} {name : String} (h : files name = some .empty) :
    optionalLayer files name = .ok [] := by
  have hfind : findFile? files name = some (name, .empty) := by
    rw [findFile?, pathsOf, List.findSome?_cons, h]
    rfl
  have htext : Text.decode .empty = .ok "" := by rfl
  rw [optionalLayer, readFile, hfind]
  dsimp only
  rw [htext]
  exact ofText_empty _

/-- A usual file that is not there counts as one that is there and empty. -/
theorem optionalLayer_missing_eq_empty {files empty : FileSource} {name : String}
    (hmissing : ∀ path ∈ pathsOf name, files path = none) (hempty : empty name = some .empty) :
    optionalLayer files name = optionalLayer empty name :=
  (optionalLayer_of_missing hmissing).trans (optionalLayer_of_empty hempty).symm

/-- Loading reads the files of the usual name, of the argument and of the variable, and no others. -/
theorem load_congr {files other : FileSource} {argument : Option String}
    {environment : List (String × String)}
    (husual : optionalLayer other usualFile = optionalLayer files usualFile)
    (hnamed : ∀ name, argument = some name ∨ environment.lookup fileVariable = some name →
      ∀ path ∈ pathsOf name, other path = files path) :
    load other argument environment = load files argument environment := by
  rw [load, load, layers, layers, husual, namedLayer_congr fun name hname => hnamed name (.inl hname),
    namedLayer_congr fun name hname => hnamed name (.inr hname)]

/-- Loading fails if a file is named that is not there. -/
theorem load_of_missing {files : FileSource} {argument : Option String}
    {environment : List (String × String)} {name : String}
    (hname : argument = some name ∨ environment.lookup fileVariable = some name)
    (hmissing : ∀ path ∈ pathsOf name, files path = none) :
    ∃ fault, load files argument environment = .error fault := by
  obtain ⟨fault, hfault⟩ := namedLayer_of_missing hmissing
  cases hload : load files argument environment with
  | error fault => exact ⟨fault, rfl⟩
  | ok settings =>
      obtain ⟨usual, given, named, -, hgiven, hnamed, -⟩ := exists_layers_of_load hload
      rcases hname with hargument | hvariable
      · rw [hargument, hfault] at hgiven
        cases hgiven
      · rw [hvariable, hfault] at hnamed
        cases hnamed

/-! ## Precedence -/

/-- Settings that were loaded have the values that the layers say last.

The layers are the usual file, the file of the argument, the file that the environment names and the variables of
the environment, in this order.  Where they put nothing but tables above the key of a setting,

* the setting is what the last layer that says anything about its key says alone, and its default if no layer
  does: an empty table says nothing, and a scalar or a list says itself;
* no other key of any layer matters to it.

Lists are replaced and not merged, so the endpoints are those of one layer as a whole.  That is not so where a key
names an item of their list by its position in brackets, which sets this item in the list of another layer.

A usual file that is not there counts as an empty one.  A file that the argument or the environment names must be
there: without it loading fails, whatever else there is. -/
theorem precedence (files : FileSource) (argument : Option String) (environment : List (String × String)) :
    (∀ settings, load files argument environment = .ok settings → ∃ usual given named,
      optionalLayer files usualFile = .ok usual ∧ namedLayer files argument = .ok given ∧
        namedLayer files (environment.lookup fileVariable) = .ok named ∧
        layers files argument environment = .ok [usual, given, named, .ofEnvironment environment]) ∧
    (∀ all settings (setting : Setting),
      layers files argument environment = .ok all → load files argument environment = .ok settings →
        (∀ layer ∈ all, layer.LeavesClear setting.path) →
        (lastSaid all setting.path = none → setting.of settings = setting.of {}) ∧
          ∀ saying, lastSaid all setting.path = some saying →
            (setting = .endpoints → saying.isItem = false) →
            setting.read saying.alone = .ok (setting.of settings)) ∧
    (∀ all settings files' argument' environment' all' settings' (setting : Setting),
      layers files argument environment = .ok all → load files argument environment = .ok settings →
        layers files' argument' environment' = .ok all' →
        load files' argument' environment' = .ok settings' →
        (∀ layer ∈ all, layer.LeavesClear setting.path) → (∀ layer ∈ all', layer.LeavesClear setting.path) →
        lastSaid all' setting.path = lastSaid all setting.path →
        (setting = .endpoints → ∀ saying ∈ lastSaid all setting.path, saying.isItem = false) →
        setting.of settings' = setting.of settings) ∧
    (∀ files', (∀ path ∈ pathsOf usualFile, files path = none) → files' usualFile = some .empty →
      (∀ name, argument = some name ∨ environment.lookup fileVariable = some name →
        ∀ path ∈ pathsOf name, files' path = files path) →
      load files argument environment = load files' argument environment) ∧
    ∀ name, argument = some name ∨ environment.lookup fileVariable = some name →
      (∀ path ∈ pathsOf name, files path = none) →
      ∃ fault, load files argument environment = .error fault := by
  refine ⟨fun settings hload => exists_layers_of_load hload, ?_, ?_, ?_, ?_⟩
  · intro all settings setting hall hload hclear
    exact setting.value_of_lastSaid hclear (readSettings_of_load hall hload)
  · intro all settings files' argument' environment' all' settings' setting hall hload hall' hload' hclear
      hclear' hsame hitem
    exact setting.eq_of_lastSaid (readSettings_of_load hall hload) (readSettings_of_load hall' hload') hclear
      hclear' hsame hitem
  · intro files' hmissing hempty hsame
    exact (load_congr (optionalLayer_missing_eq_empty hmissing hempty).symm hsame).symm
  · intro name hname hmissing
    exact load_of_missing hname hmissing

/-- The usual file and one more. -/
def rackFiles : FileSource := fun path =>
  if path = usualFile then some "queue:\n  max_length: 7\n".toUTF8
  else if path = "rack.yaml" then some "queue:\n  max_length: 8\n".toUTF8
  else none

/-- The length of the queue in the environment. -/
def rackVariables : List (String × String) := [("PROCBUS__QUEUE__MAX_LENGTH", "12")]

/-- Whether the layers of the rack leave two settings clear, and say nothing about the second. -/
def rackClear (all : List Layer) : Bool :=
  decide (∀ layer ∈ all, layer.LeavesClear Setting.maxLength.path) &&
    decide (∀ layer ∈ all, layer.LeavesClear Setting.lockDirectory.path) &&
    (lastSaid all Setting.lockDirectory.path).isNone

/-- The environment gives the greatest length of the queue, as the last of three layers, so it does not matter
whether the argument names a file; no layer gives the directory of the locks.  Of files that are not there the usual
one counts as empty, and another one makes loading fail. -/
theorem precedence_rack :
    (∃ settings settings' saying, load rackFiles (some "rack.yaml") rackVariables = .ok settings ∧
      load rackFiles none rackVariables = .ok settings' ∧
      (Layer.ofEnvironment rackVariables).finalSaying Setting.maxLength.path = some saying ∧
      readUnsigned saying.alone = .ok settings.queue.maxLength ∧
      settings.process.lockDirectory = "/tmp" ∧
      settings'.queue.maxLength = settings.queue.maxLength) ∧
    load (fun _ => none) none [] = load (fun path => if path = usualFile then some .empty else none) none [] ∧
    ∃ fault, load (fun _ => none) (some "rack.yaml") [] = .error fault := by
  obtain ⟨hlayers, hvalue, hothers, -⟩ := precedence rackFiles (some "rack.yaml") rackVariables
  obtain ⟨hlayers', -⟩ := precedence rackFiles none rackVariables
  obtain ⟨-, -, -, hempty, -⟩ := precedence (fun _ => none) none []
  obtain ⟨-, -, -, -, hmissing⟩ := precedence (fun _ => none) (some "rack.yaml") []
  refine ⟨?_, hempty _ (fun _ _ => rfl) rfl fun _ hname => absurd hname (by simp [fileVariable]),
    hmissing _ (.inl rfl) fun _ _ => rfl⟩
  have hsome : (load rackFiles (some "rack.yaml") rackVariables).toOption.isSome = true := by decide +kernel
  have hsome' : (load rackFiles none rackVariables).toOption.isSome = true := by decide +kernel
  have hclear : (layers rackFiles (some "rack.yaml") rackVariables).toOption.all rackClear = true := by
    decide +kernel
  have hclear' : (layers rackFiles none rackVariables).toOption.all rackClear = true := by decide +kernel
  have hfinal : ((Layer.ofEnvironment rackVariables).finalSaying Setting.maxLength.path).isSome = true := by
    decide +kernel
  obtain ⟨settings, hload⟩ := exists_eq_ok hsome
  obtain ⟨settings', hload'⟩ := exists_eq_ok hsome'
  obtain ⟨saying, hsaying⟩ := Option.isSome_iff_exists.1 hfinal
  obtain ⟨usual, given, named, -, -, -, hall⟩ := hlayers settings hload
  obtain ⟨usual', given', named', -, -, -, hall'⟩ := hlayers' settings' hload'
  rw [hall] at hclear
  rw [hall'] at hclear'
  simp only [Except.toOption, Option.all_some, rackClear, Bool.and_eq_true, decide_eq_true_eq,
    Option.isNone_iff_eq_none] at hclear hclear'
  have hlast : ∀ usual given named, lastSaid [usual, given, named, .ofEnvironment rackVariables]
      Setting.maxLength.path = some saying := by
    intro usual given named
    simp only [lastSaid, List.reverse_cons, List.reverse_nil, List.nil_append, List.cons_append,
      List.findSome?_cons, hsaying]
  refine ⟨settings, settings', saying, hload, hload', hsaying, ?_, ?_, ?_⟩
  · exact (hvalue _ _ .maxLength hall hload hclear.1.1).2 saying (hlast _ _ _) fun heq => by cases heq
  · exact (hvalue _ _ .lockDirectory hall hload hclear.1.2).1 hclear.2
  · exact hothers _ _ _ _ _ _ _ .maxLength hall hload hall' hload' hclear.1.1 hclear'.1.1
      ((hlast _ _ _).trans (hlast _ _ _).symm) fun heq => by cases heq

/-- A usual file that lists the endpoints of one process. -/
def listingFiles : FileSource := fun path =>
  if path = usualFile then
    some "bus:\n  endpoints:\n    - pub_url: ipc://a.ipc\n      sub_url: ipc://b.ipc\n".toUTF8
  else none

/-- A variable with one address of the first process, which it names by its position. -/
def bracketVariables : List (String × String) := [("PROCBUS__BUS__ENDPOINTS[0]__PUB_URL", "ipc://c.ipc")]

/-- The endpoints in the settings that are loaded, if they are given. -/
def loadedEndpoints? (files : FileSource) (environment : List (String × String)) :
    Option (List ProcessEndpoints) :=
  (load files none environment).toOption.bind fun settings => settings.bus.endpoints

/-- Whether layers leave the endpoints clear, and the last one that says anything about them says no list that could
be read alone. -/
def listsNothing (all : List Layer) : Bool :=
  decide (∀ layer ∈ all, layer.LeavesClear Setting.endpoints.path) &&
    (lastSaid all Setting.endpoints.path).any fun saying => !(Setting.endpoints.read saying.alone).isOk

/-- A key that names an item by its position changes this item in the list of another layer.  So the endpoints are
not those of the last layer that says anything about them, nor those of the file, whose key another key of
another layer has changed. -/
theorem endpoints_of_two_layers :
    loadedEndpoints? listingFiles [] = some [⟨.ipc "a.ipc", .ipc "b.ipc"⟩] ∧
    loadedEndpoints? listingFiles bracketVariables = some [⟨.ipc "c.ipc", .ipc "b.ipc"⟩] ∧
    ¬∀ (files : FileSource) (argument : Option String) (environment : List (String × String))
      (all : List Layer) (settings : Settings) (setting : Setting),
      layers files argument environment = .ok all → load files argument environment = .ok settings →
      (∀ layer ∈ all, layer.LeavesClear setting.path) →
      ∀ saying, lastSaid all setting.path = some saying →
        setting.read saying.alone = .ok (setting.of settings) := by
  have hmixed : loadedEndpoints? listingFiles bracketVariables = some [⟨.ipc "c.ipc", .ipc "b.ipc"⟩] := by
    decide +kernel
  refine ⟨by decide +kernel, hmixed, fun h => ?_⟩
  have hload : (load listingFiles none bracketVariables).toOption.isSome = true := by
    obtain ⟨settings, hsettings, -⟩ := Option.bind_eq_some_iff.1 hmixed
    rw [hsettings]
    rfl
  have hlists : (layers listingFiles none bracketVariables).toOption.all listsNothing = true := by
    decide +kernel
  obtain ⟨settings, hload⟩ := exists_eq_ok hload
  obtain ⟨_, _, _, -, -, -, hall⟩ := exists_layers_of_load hload
  rw [hall] at hlists
  simp only [Except.toOption, Option.all_some, listsNothing, Bool.and_eq_true, decide_eq_true_eq,
    Option.any_eq_true] at hlists
  obtain ⟨hclear, saying, hsaying, hfails⟩ := hlists
  rw [h _ _ _ _ _ .endpoints hall hload hclear saying hsaying] at hfails
  cases hfails

end DeviceBus.Config
