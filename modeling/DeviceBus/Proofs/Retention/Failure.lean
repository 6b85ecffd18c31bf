import DeviceBus.Proofs.Retention.Source

/-!
# What a failed save leaves

A save that fails leaves every file as it is that it did not remove to make room, except the one that its
destination leads to.  That one is written over once the copy has begun.  After a failure the cleanup removes
whatever stands at the destination, and it does not ask whether anything was copied: where making room has
removed the source, or one of the two files cannot be opened, it removes a file that has nothing to do with this
save.

* `cleaned`, `entry?_cleaned`: what the cleanup leaves of a file.
* `copyOrRemove_of_unbegun`, `copyOrRemove_of_begun`: the two ways in which a copy to an existing file fails.
* `Overwrites`: the copy has begun to write over a place.  `Cleans`: the cleanup removes what stands at a place,
  since the destination is that place itself, and no link that leads there.
* `fate_of_others`: all that a failed save can do to a file that it did not remove to make room.
* `not_others_survive`: a file is lost although nothing was copied over it.
-/

namespace DeviceBus.Retention

open FileTree

/-! ## The cleanup -/

/-- The tree once what stands at a path is removed, if it can be. -/
def cleaned (cleaning : Option SystemFault) (tree : FileTree) (path : String) : FileTree :=
  if cleaning = none then (tree.remove path).toOption.getD tree else tree

theorem copyOrRemove_of_fault {tree written : FileTree} {source destination : String} {now : Int}
    {mishaps : Mishaps} {fault : SystemFault}
    (hcopy : tree.copy source destination now mishaps.copying = (.error fault, written)) :
    copyOrRemove tree source destination now mishaps =
      (.error (.access destination fault), cleaned mishaps.cleaning written destination) := by
  simp only [copyOrRemove, hcopy, cleaned]
  cases mishaps.cleaning with
  | some _ => rfl
  | none => cases written.remove destination <;> rfl

/-- The cleanup removes what stands at the path itself, and nothing else, unless it fails. -/
theorem entry?_cleaned {cleaning : Option SystemFault} {tree : FileTree} {path : String} {place : Place}
    {entry : Entry} (hentry : tree.entry? place = some entry) (hplain : entry.isWay = false) :
    (cleaning = none ∧ tree.status false path = .ok (place, entry) →
        entry? (cleaned cleaning tree path) place = none) ∧
      (¬(cleaning = none ∧ tree.status false path = .ok (place, entry)) →
        entry? (cleaned cleaning tree path) place = some entry) := by
  by_cases hcleaning : cleaning = none
  · rw [cleaned, if_pos hcleaning]
    simp only [hcleaning, true_and]
    rcases remove_cases tree path with ⟨fault, hremove⟩ | ⟨other, found, hstatus, hfound, hremove⟩
    · rw [hremove]
      refine ⟨fun hstands => ?_, fun _ => hentry⟩
      -- what stands there and is no directory can be removed
      rw [remove, hstands] at hremove
      cases entry with
      | directory => cases hplain
      | file => cases hremove
      | link => cases hremove
      | socket => cases hremove
      | device => cases hremove
    · rw [hremove]
      have hother := entry_of_status hstatus
      have hroot : other ≠ [] := by
        rintro rfl
        exact hfound false (Option.some.inj hother).symm
      have herased : (Except.toOption (.ok (tree.erase other) : Except SystemFault FileTree)).getD tree =
          tree.erase other := rfl
      rw [herased, entry?_erase tree hroot]
      constructor
      · intro hstands
        rw [hstands] at hstatus
        cases hstatus
        exact if_pos rfl
      · intro hne
        rw [if_neg, hentry]
        rintro rfl
        rw [hentry] at hother
        cases hother
        exact hne hstatus
  · rw [cleaned, if_neg hcleaning]
    exact ⟨fun hcleans => absurd hcleans.1 hcleaning, fun _ => hentry⟩

/-! ## Copies that fail -/

section Copies

variable {tree : FileTree} {source destination : String} {now : Int} {mishaps : Mishaps} {place : Place}
  {contents : ByteArray} {modified : Int}

/-- Where the copy has not begun, the cleanup removes what stands at the destination all the same. -/
theorem copyOrRemove_of_unbegun (hfile : tree.entry? place = some (.file contents modified))
    {fault : SystemFault}
    (hcopy : tree.copy source destination now mishaps.copying = (.error fault, tree)) :
    let after := (copyOrRemove tree source destination now mishaps).2
    let cleans := mishaps.cleaning = none ∧
      tree.status false destination = .ok (place, .file contents modified)
    (cleans → after.entry? place = none) ∧
      (¬cleans → after.entry? place = some (.file contents modified)) := by
  rw [copyOrRemove_of_fault hcopy]
  exact entry?_cleaned hfile rfl

/-- A copy over a file that has begun succeeds unless it breaks off.  Then the file is removed if it stands at the
destination itself, and otherwise keeps what was written by then. -/
theorem copyOrRemove_of_begun (htree : tree.WellFormed)
    (hleads : tree.status true destination = .ok (place, .file contents modified))
    {found : Place} {read : ByteArray} {time : Int}
    (hsource : tree.status true source = .ok (found, .file read time))
    (hbegins : Begins mishaps.copying) {error : RetentionError}
    (herror : (copyOrRemove tree source destination now mishaps).1 = .error error) :
    let after := (copyOrRemove tree source destination now mishaps).2
    let cleans := mishaps.cleaning = none ∧
      tree.status false destination = .ok (place, .file contents modified)
    ∃ written fault, mishaps.copying = some (.brokenOff written fault) ∧
      (cleans → after.entry? place = none) ∧
      (¬cleans → after.entry? place =
        some (.file ((if found = place then .empty else read).extract 0 written) now)) := by
  intro after cleans
  have hplace := htree.placeToWrite_of_status hleads
  have hwritable := (resolve_of_placeToWrite hplace).2
  have hcopy := copy_eq hsource hplace now hbegins
  rcases hbegins with hnone | ⟨written, fault, hbroken⟩
  · have hended : copyResult mishaps.copying = .ok () := by rw [hnone]; rfl
    rw [hended] at hcopy
    simp only [copyOrRemove, hcopy] at herror
    cases herror
  · refine ⟨written, fault, hbroken, ?_⟩
    obtain ⟨part, hpart⟩ :
        ∃ part, (if found = place then ByteArray.empty else read).extract 0 written = part := ⟨_, rfl⟩
    rw [hbroken, copyResult, copied, hpart, ← hbroken] at hcopy
    rw [hpart, show after = _ from congrArg Prod.snd (copyOrRemove_of_fault hcopy)]
    have hfile := entry_of_status hleads
    have hwritten : entry? (tree.store place part now) place = some (.file part now) := by
      rcases tree.store_cases place part now with ⟨hstore, -⟩ | ⟨-, hdevice⟩
      · rw [hstore, entry?_put_self tree _ hwritable.ne_root]
      · cases hfile.symm.trans hdevice
    -- the destination is the place itself after writing exactly if it was before
    have hstands : (tree.store place part now).status false destination = .ok (place, .file part now) ↔
        tree.status false destination = .ok (place, .file contents modified) :=
      ⟨fun h => (keepsWays_of_store hwritable part now).status_of_replaced h rfl hfile rfl,
        fun h => (keepsWays_store hwritable part now).status_of_replaced h rfl hwritten rfl⟩
    have hcleaned := @entry?_cleaned mishaps.cleaning _ destination _ _ hwritten rfl
    rwa [hstands] at hcleaned

end Copies

/-! ## Saves that fail -/

/-- The tree once a save has made room. -/
def cleared (tree : FileTree) (directory source : String) (maxSizeKb : Nat)
    (stuck : List (Place × SystemFault)) : FileTree :=
  removeAll tree (removedBy tree directory source maxSizeKb stuck)

/-- The copy of a save has begun to write over a place: once room is made its source is still there, its
destination leads to the place, and both could be opened. -/
def Overwrites (tree : FileTree) (directory source : String) (maxSizeKb : Nat) (mishaps : Mishaps)
    (place : Place) : Prop :=
  Begins mishaps.copying ∧ ∃ name found read time, Path.fileName? source = some name ∧
    (cleared tree directory source maxSizeKb mishaps.stuck).status true source =
      .ok (found, .file read time) ∧
    (cleared tree directory source maxSizeKb mishaps.stuck).placeToWrite (Path.join directory name) = .ok place

/-- The cleanup after a failed copy removes what stands at a place: the path that the file is saved to is that of
the place itself, and no link that leads there, and nothing keeps the system from removing it. -/
def Cleans (tree : FileTree) (directory source : String) (mishaps : Mishaps) (place : Place) : Prop :=
  mishaps.cleaning = none ∧ ∃ name entry, Path.fileName? source = some name ∧
    tree.status false (Path.join directory name) = .ok (place, entry)

section Others

variable {tree : FileTree} {directory source : String} {maxSizeKb : Nat} {now : Int} {mishaps : Mishaps}
  {place : Place} {contents : ByteArray} {modified : Int}

theorem entry?_cleared (htree : tree.WellFormed) (hfile : tree.entry? place = some (.file contents modified))
    (hkept : place ∉ (removedBy tree directory source maxSizeKb mishaps.stuck).map Counted.place) :
    entry? (cleared tree directory source maxSizeKb mishaps.stuck) place =
      some (.file contents modified) := by
  rw [cleared, entry?_removeAll (standIn_removedBy htree directory source maxSizeKb mishaps.stuck).ne_root,
    if_neg hkept, hfile]

/-- Making room does not change whether the destination is the place of a file that is kept. -/
theorem cleans_iff (htree : tree.WellFormed) {name : String} (hname : Path.fileName? source = some name)
    (hfile : tree.entry? place = some (.file contents modified))
    (hkept : place ∉ (removedBy tree directory source maxSizeKb mishaps.stuck).map Counted.place) :
    Cleans tree directory source mishaps place ↔ mishaps.cleaning = none ∧
      (cleared tree directory source maxSizeKb mishaps.stuck).status false (Path.join directory name) =
        .ok (place, .file contents modified) := by
  have hstand := standIn_removedBy htree directory source maxSizeKb mishaps.stuck
  refine and_congr_right fun _ => ⟨?_, fun hstatus => ?_⟩
  · rintro ⟨name', entry, hname', hstatus⟩
    obtain rfl : name = name' := Option.some.inj (hname.symm.trans hname')
    obtain rfl : .file contents modified = entry :=
      Option.some.inj (hfile.symm.trans (entry_of_status hstatus))
    exact hstand.keepsWays.status hstatus (entry?_cleared htree hfile hkept)
  · exact ⟨name, _, hname, hstand.keepsWays_back.status hstatus hfile⟩

/-- What the copy of a save that fails does to a file that its destination leads to. -/
theorem fate_of_copied (htree : tree.WellFormed)
    (hfile : tree.entry? place = some (.file contents modified))
    (hkept : place ∉ (removedBy tree directory source maxSizeKb mishaps.stuck).map Counted.place)
    {found : Place} {read : ByteArray} {time : Int}
    (hsource : tree.status true source = .ok (found, .file read time))
    {name : String} (hname : Path.fileName? source = some name)
    (hover : SavesOver tree directory source place) {result : Except RetentionError String × FileTree}
    (hresult : result = copyOrRemove (cleared tree directory source maxSizeKb mishaps.stuck) source
      (Path.join directory name) now mishaps)
    {error : RetentionError} (herror : result.1 = .error error) :
    let after := result.2
    (Overwrites tree directory source maxSizeKb mishaps place →
      ∃ written fault, mishaps.copying = some (.brokenOff written fault) ∧
        (Cleans tree directory source mishaps place → after.entry? place = none) ∧
        (¬Cleans tree directory source mishaps place → after.entry? place =
          some (.file ((if found = place then .empty else read).extract 0 written) now))) ∧
    (¬Overwrites tree directory source maxSizeKb mishaps place →
      (found ∈ (removedBy tree directory source maxSizeKb mishaps.stuck).map Counted.place ∨
          ¬Begins mishaps.copying) ∧
        (Cleans tree directory source mishaps place → after.entry? place = none) ∧
        (¬Cleans tree directory source mishaps place →
          after.entry? place = some (.file contents modified))) := by
  intro after
  have hstand := standIn_removedBy htree directory source maxSizeKb mishaps.stuck
  have hways : tree.KeepsWays (cleared tree directory source maxSizeKb mishaps.stuck) := hstand.keepsWays
  have hcleared : (cleared tree directory source maxSizeKb mishaps.stuck).WellFormed :=
    hstand.wellFormed htree
  have hstands := entry?_cleared htree hfile hkept
  obtain ⟨name', entry, hname', hover⟩ := hover
  obtain rfl : name = name' := Option.some.inj (hname.symm.trans hname')
  obtain rfl : .file contents modified = entry :=
    Option.some.inj (hfile.symm.trans (entry_of_status hover))
  have hleads := hways.status hover hstands
  rw [show after = _ from congrArg Prod.snd hresult, cleans_iff htree hname hfile hkept]
  by_cases hremoved : found ∈ (removedBy tree directory source maxSizeKb mishaps.stuck).map Counted.place
  · have hgone : entry? (cleared tree directory source maxSizeKb mishaps.stuck) found = none := by
      rw [cleared, entry?_removeAll hstand.ne_root, if_pos hremoved]
    have hlost := hways.status_of_gone hsource rfl hgone
    refine ⟨fun hbegun => ?_, fun _ => ⟨.inl hremoved, ?_⟩⟩
    · obtain ⟨-, _, _, _, _, -, hreads, -⟩ := hbegun
      cases hlost.symm.trans hreads
    · exact copyOrRemove_of_unbegun hstands (copy_of_lost hlost (Path.join directory name) now mishaps.copying)
  · by_cases hbegins : Begins mishaps.copying
    · have hreads := hways.status hsource (entry?_cleared htree (entry_of_status hsource) hremoved)
      have hbegun : Overwrites tree directory source maxSizeKb mishaps place :=
        ⟨hbegins, name, found, read, time, hname, hreads, hcleared.placeToWrite_of_status hleads⟩
      refine ⟨fun _ => ?_, fun hnot => absurd hbegun hnot⟩
      rw [hresult] at herror
      exact copyOrRemove_of_begun hcleared hleads hreads hbegins herror
    · obtain ⟨fault, hcopy⟩ := copy_of_not_begins (cleared tree directory source maxSizeKb mishaps.stuck)
        source (Path.join directory name) now hbegins
      exact ⟨fun hbegun => absurd hbegun.1 hbegins,
        fun _ => ⟨.inr hbegins, copyOrRemove_of_unbegun hstands hcopy⟩⟩

/-- What a failed save does to a file that it did not remove to make room.

* If it was refused, it leaves everything as it is.
* If it was held up by a file that is stuck, it leaves the file as it is.
* If its destination does not lead to the file, it leaves the file as it is.
* If its destination leads there and the copy has begun, then the copy has broken off: the file is gone if the
  cleanup removes it, and holds what was written by then otherwise.
* If its destination leads there and the copy has not begun, then the source was removed to make room, or one of
  the two files could not be opened: the file is gone if the cleanup removes it, and stays as it is otherwise. -/
theorem fate_of_others (htree : tree.WellFormed) (hfile : tree.entry? place = some (.file contents modified))
    (hkept : place ∉ (removedBy tree directory source maxSizeKb mishaps.stuck).map Counted.place)
    {error : RetentionError}
    (herror : (save tree directory source maxSizeKb now mishaps).1 = .error error) :
    let removed := (removedBy tree directory source maxSizeKb mishaps.stuck).map Counted.place
    let after := (save tree directory source maxSizeKb now mishaps).2
    let cleans := Cleans tree directory source mishaps place
    (Refuses tree directory source maxSizeKb error → after = tree) ∧
    (∀ file fault, HeldUp tree directory source maxSizeKb mishaps.stuck file fault →
      after.entry? place = some (.file contents modified)) ∧
    (¬SavesOver tree directory source place → after.entry? place = some (.file contents modified)) ∧
    (¬Refuses tree directory source maxSizeKb error →
      (∀ file fault, ¬HeldUp tree directory source maxSizeKb mishaps.stuck file fault) →
      SavesOver tree directory source place →
      ∃ found read time, tree.status true source = .ok (found, .file read time) ∧
        (Overwrites tree directory source maxSizeKb mishaps place →
          ∃ written fault, mishaps.copying = some (.brokenOff written fault) ∧
            (cleans → after.entry? place = none) ∧
            (¬cleans → after.entry? place =
              some (.file ((if found = place then .empty else read).extract 0 written) now))) ∧
        (¬Overwrites tree directory source maxSizeKb mishaps place →
          (found ∈ removed ∨ ¬Begins mishaps.copying) ∧
            (cleans → after.entry? place = none) ∧
            (¬cleans → after.entry? place = some (.file contents modified)))) := by
  intro removed after cleans
  have hsafe : ¬SavesOver tree directory source place →
      entry? (save tree directory source maxSizeKb now mishaps).2 place =
        some (.file contents modified) := entry?_save htree hfile hkept
  rcases save_cases htree directory source maxSizeKb now mishaps with
    ⟨error', hrefused, hsave⟩ | ⟨found, read, time, files, name, haccepts, hsaved⟩
  · have hsame : error' = error := by
      rw [hsave] at herror
      exact Except.error.inj herror
    have hstays : after.entry? place = some (.file contents modified) := by
      rw [show after = tree from congrArg Prod.snd hsave]
      exact hfile
    exact ⟨fun _ => congrArg Prod.snd hsave, fun _ _ _ => hstays, hsafe,
      fun haccepted => absurd (hsame ▸ hrefused) haccepted⟩
  · refine ⟨fun hrefused => absurd haccepts hrefused.not_accepts, ?_⟩
    rcases hsaved with ⟨file, fault, hheld, hsave⟩ | ⟨hall, hsave⟩
    · have hstays : after.entry? place = some (.file contents modified) := by
        rw [show after = _ from congrArg Prod.snd hsave]
        exact entry?_cleared htree hfile hkept
      exact ⟨fun _ _ _ => hstays, hsafe, fun _ hnot => absurd hheld (hnot file fault)⟩
    · refine ⟨fun _ _ hheld => absurd hall hheld.ne_dueFor, hsafe,
        fun _ _ hover => ⟨found, read, time, haccepts.readable, ?_⟩⟩
      exact fate_of_copied htree hfile hkept haccepts.readable haccepts.named hover hsave herror

end Others

/-- A directory with a recording, and another one of the same name on a shelf in it, which takes up more than
half of a limit of 1 KiB. -/
def shelves : FileTree :=
  { fresh with
    entries := fresh.entries ++
      [(["home", "device", "d"], .directory false),
        (["home", "device", "d", "s"], .directory false),
        (["home", "device", "d", "s", "a"], .file ⟨Array.replicate 600 0⟩ 1),
        (["home", "device", "d", "a"], .file ⟨#[1]⟩ 2)] }

theorem wellFormed_shelves : shelves.WellFormed :=
  wellFormed_of_entries (by decide) (by decide) (by decide)

theorem entry?_shelves : shelves.entry? ["home", "device", "d", "a"] = some (.file ⟨#[1]⟩ 2) := rfl

set_option maxRecDepth 20000 in
theorem removedBy_shelves :
    (removedBy shelves "d" "d/s/a" 1).map Counted.place = [["home", "device", "d", "s", "a"]] := by
  cbv

set_option maxRecDepth 20000 in
/-- Saving the recording on the shelf leaves the directory with an empty shelf. -/
theorem save_shelves : save shelves "d" "d/s/a" 1 10 =
    (.error (.access "d/a" (.system .noSuchFile)),
      { fresh with entries := fresh.entries ++
          [(["home", "device", "d"], .directory false), (["home", "device", "d", "s"], .directory false)] }) := by
  cbv

set_option maxRecDepth 20000 in
/-- Nothing is copied once the recording on the shelf is removed to make room for it. -/
theorem not_overwrites_shelves : ¬Overwrites shelves "d" "d/s/a" 1 {} ["home", "device", "d", "a"] := by
  have hlost : (cleared shelves "d" "d/s/a" 1 []).status true "d/s/a" = .error (.system .noSuchFile) := by
    cbv
  rintro ⟨-, _, _, _, _, -, hreads, -⟩
  cases hlost.symm.trans hreads

/-- Saving the recording on the shelf removes it to make room for it, and the other one when that fails. -/
theorem fate_of_others_shelved :
    (save shelves "d" "d/s/a" 1 10).1 = .error (.access "d/a" (.system .noSuchFile)) ∧
      entry? (save shelves "d" "d/s/a" 1 10).2 ["home", "device", "d", "a"] = none := by
  have herror : (save shelves "d" "d/s/a" 1 10).1 = .error (.access "d/a" (.system .noSuchFile)) := by
    rw [save_shelves]
  obtain ⟨hrefused, -, -, hfails⟩ := fate_of_others wellFormed_shelves entry?_shelves
    (by rw [removedBy_shelves]; decide) herror
  have haccepted : ¬Refuses shelves "d" "d/s/a" 1 (.access "d/a" (.system .noSuchFile)) := by
    intro h
    have hgone : entry? (save shelves "d" "d/s/a" 1 10).2 ["home", "device", "d", "a"] = none := by
      rw [save_shelves]
      rfl
    rw [hrefused h] at hgone
    cases hgone
  have hname : Path.fileName? "d/s/a" = some "a" := by cbv
  have hjoin : Path.join "d" "a" = "d/a" := by cbv
  have hstands (followLast : Bool) : shelves.status followLast (Path.join "d" "a") =
      .ok (["home", "device", "d", "a"], .file ⟨#[1]⟩ 2) := by
    rw [hjoin]
    cases followLast <;> rfl
  have hcleans : Cleans shelves "d" "d/s/a" {} ["home", "device", "d", "a"] :=
    ⟨rfl, _, _, hname, hstands false⟩
  have hover : SavesOver shelves "d" "d/s/a" ["home", "device", "d", "a"] := ⟨_, _, hname, hstands true⟩
  have hfree (file : Counted) (fault : SystemFault) : ¬HeldUp shelves "d" "d/s/a" 1 [] file fault := by
    rintro ⟨hstuck, -⟩
    cases hstuck
  obtain ⟨_, _, _, -, -, hnothing⟩ := hfails haccepted hfree hover
  exact ⟨herror, (hnothing not_overwrites_shelves).2.1 hcleans⟩

/-- A file is removed after a failure although the copy has not begun to write over it. -/
theorem not_others_survive :
    ¬∀ (tree : FileTree) (directory source : String) (maxSizeKb : Nat) (now : Int) (place : Place)
      (contents : ByteArray) (modified : Int) (error : RetentionError), tree.WellFormed →
      tree.entry? place = some (.file contents modified) →
      place ∉ (removedBy tree directory source maxSizeKb).map Counted.place →
      (save tree directory source maxSizeKb now).1 = .error error →
      (∃ time, entry? (save tree directory source maxSizeKb now).2 place = some (.file contents time)) ∨
        Overwrites tree directory source maxSizeKb {} place := by
  intro h
  have hfate := h shelves "d" "d/s/a" 1 10 ["home", "device", "d", "a"] ⟨#[1]⟩ 2
    (.access "d/a" (.system .noSuchFile)) wellFormed_shelves entry?_shelves (by rw [removedBy_shelves]; decide)
  rw [save_shelves] at hfate
  rcases hfate rfl with ⟨_, hstays⟩ | hbegun
  · cases hstays
  · exact not_overwrites_shelves hbegun

end DeviceBus.Retention
