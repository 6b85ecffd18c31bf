import DeviceBus.Proofs.Files.Ways

/-!
# What changes a file tree

Files are written, copied and removed by paths.  Each such call leaves every directory where it is, and
each link unless that is what it removes.

* `WellFormed.store`, `keepsWays_store`: contents come to a place that can be written to.
* `Furnishes`, `furnishes_makeDirectories`: making directories adds directories, and changes nothing else.
* `remove_cases`: what is removed stood where the path leads, and was no directory.
* `copy_cases`: a copy fails and changes nothing, or it writes to where its destination leads.
-/

namespace DeviceBus.FileTree

variable {tree : FileTree}

/-! ## Single places -/

/-- Putting something where neither a directory nor a link stands keeps the ways. -/
theorem keepsWays_put {place : Place} (hplain : IsPlain ( tree.entry? place)) (entry : Entry) :
    tree.KeepsWays (tree.put place entry) where
  work := rfl
  ways := by
    intro other value hway hvalue
    have hroot : place ≠ [] := by
      rintro rfl
      cases hplain _ (entry?_root tree)
    rw [entry?_put tree entry hroot, if_neg, hvalue]
    rintro rfl
    rw [hplain value hvalue] at hway
    cases hway

theorem entry?_put_of_resolve {followLast toMake : Bool} {path : String} {place : Place}
    (hleads : tree.resolve followLast path toMake = .ok ⟨place, none⟩) (entry : Entry) (other : Place) :
    entry? (tree.put place entry) other = if other = place then some entry else tree.entry? other :=
  entry?_put tree entry (ne_root_of_none (entry_eq_of_resolve hleads).symm)

/-- What is put where a path leads to nothing is found by that path. -/
theorem status_of_put {followLast : Bool} {path : String} {place : Place} {entry : Entry}
    (hleads : tree.resolve followLast path true = .ok ⟨place, none⟩) (hentry : entry.isWay = false) :
    (tree.put place entry).status true path = .ok (place, entry) := by
  have hnone : tree.entry? place = none := (entry_eq_of_resolve hleads).symm
  have hself : entry? (tree.put place entry) place = some entry := by
    rw [entry?_put_of_resolve hleads, if_pos rfl]
  have hbefore : IsPlain ( tree.entry? place) := fun value hvalue => by
    cases hnone.symm.trans hvalue
  have hafter : IsPlain ( entry? (tree.put place entry) place) := fun value hvalue => by
    cases hself.symm.trans hvalue
    exact hentry
  have hresolve := (keepsWays_put hbefore entry).resolve hleads (.inr ⟨hbefore, hafter, fun _ => rfl⟩)
  rw [hself] at hresolve
  have hstatus := status_eq_ok_iff.2 (resolve_of_toMake hresolve)
  cases followLast with
  | true => exact hstatus
  | false =>
      refine status_of_follows hstatus fun target hlink => ?_
      rw [hlink] at hentry
      cases hentry

/-- Erasing what is no directory keeps the directories. -/
theorem keepsDirectories_erase {place : Place}
    (hplace : ∀ isSealed, tree.entry? place ≠ some (.directory isSealed)) :
    tree.KeepsDirectories (tree.erase place) where
  work := rfl
  directory := by
    intro other isSealed hentry
    rw [entry?_erase tree (ne_root_of_not_directory hplace), if_neg, hentry]
    rintro rfl
    exact hplace isSealed hentry
  link := by
    intro other target hentry
    rw [entry?_erase tree (ne_root_of_not_directory hplace)]
    split
    · exact .inr rfl
    · exact .inl hentry

/-- Erasing what is neither a directory nor a link keeps the ways. -/
theorem keepsWays_erase {place : Place} (hplace : place ≠ []) (hplain : IsPlain ( tree.entry? place)) :
    tree.KeepsWays (tree.erase place) where
  work := rfl
  ways := by
    intro other value hway hvalue
    rw [entry?_erase tree hplace, if_neg, hvalue]
    rintro rfl
    rw [hplain value hvalue] at hway
    cases hway

theorem keepsDirectories_refl (tree : FileTree) : tree.KeepsDirectories tree :=
  ⟨rfl, fun _ _ h => h, fun _ _ h => .inl h⟩

/-! ## Writing -/

namespace IsWritable

variable {place : Place}

theorem not_directory (h : tree.IsWritable place) (isSealed : Bool) :
    tree.entry? place ≠ some (.directory isSealed) := by
  intro hentry
  cases h.isPlain hentry

theorem ne_root (h : tree.IsWritable place) : place ≠ [] :=
  ne_root_of_not_directory h.not_directory

/-- What can be written to stands, or will, in a directory. -/
theorem parent (h : tree.IsWritable place) (htree : tree.WellFormed) :
    tree.HasDirectory place.dropLast := by
  rcases h with ⟨-, hcreate⟩ | ⟨contents, modified, hfile⟩ | hdevice
  · rw [mayCreate] at hcreate
    split at hcreate
    · exact ⟨_, ‹_›⟩
    · cases hcreate
  · exact htree.parent _ _ hfile
  · exact htree.parent _ _ hdevice

end IsWritable

/-- Contents stored twice are the later ones. -/
theorem store_store (tree : FileTree) (place : Place) (hplace : place ≠ [])
    (first second : ByteArray) (now : Int) :
    (tree.store place first now).store place second now = tree.store place second now := by
  by_cases hdevice : tree.entry? place = some .device
  · simp only [store, hdevice]
  · have hfirst : tree.store place first now = tree.put place (.file first now) := by
      rw [store]
      split
      · exact absurd ‹_› hdevice
      · rfl
    have hsecond : tree.store place second now = tree.put place (.file second now) := by
      rw [store]
      split
      · exact absurd ‹_› hdevice
      · rfl
    rw [hfirst, hsecond, store, entry?_put_self tree _ hplace]
    exact put_put tree place _ _

/-- Storing contents puts a file at the place, unless a device stands there. -/
theorem store_cases (tree : FileTree) (place : Place) (contents : ByteArray) (now : Int) :
    tree.store place contents now = tree.put place (.file contents now) ∧
        tree.entry? place ≠ some .device ∨
      tree.store place contents now = tree ∧ tree.entry? place = some .device := by
  rw [store]
  split
  · exact .inr ⟨rfl, ‹_›⟩
  · rename_i hdevice
    exact .inl ⟨rfl, hdevice⟩

theorem WellFormed.store (htree : tree.WellFormed) {place : Place} (h : tree.IsWritable place)
    (contents : ByteArray) (now : Int) : (tree.store place contents now).WellFormed := by
  rcases tree.store_cases place contents now with ⟨hstore, -⟩ | ⟨hstore, -⟩
  · rw [hstore]
    exact htree.put _ h.not_directory (h.parent htree)
  · rw [hstore]
    exact htree

theorem keepsWays_store {place : Place} (h : tree.IsWritable place) (contents : ByteArray) (now : Int) :
    tree.KeepsWays (tree.store place contents now) := by
  rcases tree.store_cases place contents now with ⟨hstore, -⟩ | ⟨hstore, -⟩
  · rw [hstore]
    exact keepsWays_put (fun _ => h.isPlain) _
  · rw [hstore]
    exact .refl tree

/-- What is stored is no way, so no way is new. -/
theorem keepsWays_of_store {place : Place} (h : tree.IsWritable place) (contents : ByteArray) (now : Int) :
    (tree.store place contents now).KeepsWays tree where
  work := (keepsWays_store h contents now).work.symm
  ways := by
    intro other entry hway hentry
    rcases tree.store_cases place contents now with ⟨hstore, -⟩ | ⟨hstore, -⟩
    · rw [hstore, entry?_put tree _ h.ne_root] at hentry
      split at hentry
      · cases hentry
        cases hway
      · exact hentry
    · rw [hstore] at hentry
      exact hentry

theorem entry?_store_of_ne {place other : Place} (h : tree.IsWritable place) (hother : other ≠ place)
    (contents : ByteArray) (now : Int) :
    entry? (tree.store place contents now) other = tree.entry? other := by
  rcases tree.store_cases place contents now with ⟨hstore, -⟩ | ⟨hstore, -⟩
  · rw [hstore, entry?_put tree _ h.ne_root, if_neg hother]
  · rw [hstore]

/-! ## Making directories -/

/-- Directories come to stand where nothing stood, and everything else stands as before. -/
structure Furnishes (before after : FileTree) : Prop where
  work : after.work = before.work
  kept : ∀ place entry, before.entry? place = some entry → after.entry? place = some entry
  added : ∀ place entry, after.entry? place = some entry →
    before.entry? place = some entry ∨ ∃ isSealed, entry = .directory isSealed

namespace Furnishes

variable {before between after : FileTree}

theorem refl (tree : FileTree) : tree.Furnishes tree :=
  ⟨rfl, fun _ _ hentry => hentry, fun _ _ hentry => .inl hentry⟩

theorem trans (first : before.Furnishes between) (second : between.Furnishes after) :
    before.Furnishes after where
  work := second.work.trans first.work
  kept place entry hentry := second.kept place entry (first.kept place entry hentry)
  added place entry hentry := by
    rcases second.added place entry hentry with hbetween | hdirectory
    · exact first.added place entry hbetween
    · exact .inr hdirectory

theorem keepsWays (h : before.Furnishes after) : before.KeepsWays after :=
  ⟨h.work, fun place entry _ hentry => h.kept place entry hentry⟩

end Furnishes

theorem furnishes_put {place : Place} (hnone : tree.entry? place = none) (isSealed : Bool) :
    tree.Furnishes (tree.put place (.directory isSealed)) := by
  have hroot := ne_root_of_none hnone
  refine ⟨rfl, fun other entry hentry => ?_, fun other entry hentry => ?_⟩
  · rw [entry?_put tree _ hroot, if_neg, hentry]
    rintro rfl
    cases hnone.symm.trans hentry
  · rw [entry?_put tree _ hroot] at hentry
    split at hentry
    · exact .inr ⟨isSealed, (Option.some.inj hentry).symm⟩
    · exact .inl hentry

theorem furnishes_makeDirectory {path : String} {after : FileTree}
    (h : tree.makeDirectory path = .ok after) : tree.Furnishes after := by
  unfold makeDirectory at h
  split at h
  · cases h
  · cases h
  · rename_i place hresolve
    split at h
    · cases h
      exact furnishes_put (entry_eq_of_resolve hresolve).symm false
    · cases h

theorem furnishes_makeDirectoriesUpward {reversed : List Path.Component} {after : FileTree}
    (h : tree.makeDirectoriesUpward reversed = .ok after) : tree.Furnishes after := by
  induction reversed generalizing after with
  | nil =>
      cases h
      exact .refl tree
  | cons last above ih =>
      simp only [makeDirectoriesUpward] at h
      split at h
      · rename_i made hmade
        cases h
        exact furnishes_makeDirectory hmade
      · -- the directory above is missing: it is made first, and then this one
        split at h
        · cases h
        · rename_i upper hupper
          split at h
          · rename_i made hmade
            cases h
            exact (ih hupper).trans (furnishes_makeDirectory hmade)
          · split at h
            · cases h
              exact ih hupper
            · cases h
      · split at h
        · cases h
          exact .refl tree
        · cases h

/-- Making directories adds directories, and changes nothing else. -/
theorem furnishes_makeDirectories {path : String} {after : FileTree}
    (h : tree.makeDirectories path = .ok after) : tree.Furnishes after :=
  furnishes_makeDirectoriesUpward h

/-! ## Removing -/

/-- What is removed stood where the path leads, and was no directory. -/
theorem remove_cases (tree : FileTree) (path : String) :
    (∃ fault, tree.remove path = .error fault) ∨
      ∃ place entry, tree.status false path = .ok (place, entry) ∧
        (∀ isSealed, entry ≠ .directory isSealed) ∧ tree.remove path = .ok (tree.erase place) := by
  rw [remove]
  split
  · exact .inl ⟨_, rfl⟩
  · exact .inl ⟨_, rfl⟩
  · rename_i place entry hdirectory hstatus
    exact .inr ⟨place, entry, hstatus, fun isSealed heq => hdirectory isSealed (by rw [heq]), rfl⟩

/-! ## Copying -/

/-- The source of a copy, once the destination is emptied: it is empty itself if the two are one file. -/
theorem entry?_store_empty {sourcePlace place : Place} {contents : ByteArray} {modified : Int}
    (hsource : tree.entry? sourcePlace = some (.file contents modified)) (h : tree.IsWritable place)
    (now : Int) :
    ∃ time, entry? (tree.store place .empty now) sourcePlace =
      some (.file (if sourcePlace = place then .empty else contents) time) := by
  by_cases hsame : sourcePlace = place
  · subst hsame
    rcases tree.store_cases sourcePlace .empty now with ⟨hstore, -⟩ | ⟨-, hdevice⟩
    · refine ⟨now, ?_⟩
      rw [hstore, entry?_put_self tree _ h.ne_root, if_pos rfl]
    · rw [hsource] at hdevice
      cases hdevice
  · refine ⟨modified, ?_⟩
    rw [entry?_store_of_ne h hsame, hsource, if_neg hsame]

@[simp] theorem copied_none (contents : ByteArray) : copied contents none = contents := rfl

/-- Nothing keeps a copy from opening both files. -/
def Begins (interruption : Option Interruption) : Prop :=
  interruption = none ∨ ∃ written fault, interruption = some (.brokenOff written fault)

theorem begins_of_ne {interruption : Option Interruption}
    (hsource : ∀ fault, interruption ≠ some (.sourceUnopened fault))
    (hdestination : ∀ fault, interruption ≠ some (.destinationUnopened fault)) : Begins interruption := by
  cases interruption with
  | none => exact .inl rfl
  | some interruption =>
      cases interruption with
      | sourceUnopened fault => exact absurd rfl (hsource fault)
      | destinationUnopened fault => exact absurd rfl (hdestination fault)
      | brokenOff written fault => exact .inr ⟨written, fault, rfl⟩

theorem openForCopy_eq {source destination : String} {sourcePlace place : Place} {contents : ByteArray}
    {modified : Int} (hsource : tree.status true source = .ok (sourcePlace, .file contents modified))
    (hplace : tree.placeToWrite destination = .ok place) {interruption : Option Interruption}
    (hbegins : Begins interruption) :
    tree.openForCopy source destination interruption = .ok (sourcePlace, place) := by
  rcases hbegins with rfl | ⟨_, _, rfl⟩ <;> simp only [openForCopy, hsource, hplace]

/-- A copy cannot open one of its files, or it opens a regular file and where something can be written. -/
theorem openForCopy_cases (tree : FileTree) (source destination : String)
    (interruption : Option Interruption) :
    (∃ fault, tree.openForCopy source destination interruption = .error fault) ∨
      Begins interruption ∧ ∃ sourcePlace contents modified place,
        tree.status true source = .ok (sourcePlace, .file contents modified) ∧
        tree.placeToWrite destination = .ok place := by
  unfold openForCopy
  split
  · exact .inl ⟨_, rfl⟩
  · exact .inl ⟨_, rfl⟩
  · rename_i hsource hopened
    split
    · exact .inl ⟨_, rfl⟩
    · exact .inl ⟨_, rfl⟩
    · rename_i hplace hwritable
      exact .inr ⟨begins_of_ne hopened hwritable, _, _, _, _, hsource, hplace⟩
  · exact .inl ⟨_, rfl⟩
  · exact .inl ⟨_, rfl⟩

/-- A copy that begins writes what it reads of its source: nothing if the destination leads to the source
itself. -/
theorem copy_eq {source destination : String} {sourcePlace place : Place} {contents : ByteArray}
    {modified : Int} (hsource : tree.status true source = .ok (sourcePlace, .file contents modified))
    (hplace : tree.placeToWrite destination = .ok place) (now : Int)
    {interruption : Option Interruption} (hbegins : Begins interruption) :
    tree.copy source destination now interruption =
      (copyResult interruption,
        tree.store place (copied (if sourcePlace = place then .empty else contents) interruption) now) := by
  have hwritable := (resolve_of_placeToWrite hplace).2
  obtain ⟨time, hread⟩ := entry?_store_empty (entry_of_status hsource) hwritable now
  simp only [copy, openForCopy_eq hsource hplace hbegins, hread, store_store tree place hwritable.ne_root]

/-- A copy fails and changes nothing, or it comes to write to where its destination leads. -/
theorem copy_cases (tree : FileTree) (source destination : String) (now : Int)
    (interruption : Option Interruption) :
    (∃ fault, tree.copy source destination now interruption = (.error fault, tree)) ∨
      Begins interruption ∧ ∃ sourcePlace contents modified place,
        tree.status true source = .ok (sourcePlace, .file contents modified) ∧
        tree.placeToWrite destination = .ok place ∧
        tree.copy source destination now interruption =
          (copyResult interruption,
            tree.store place
              (copied (if sourcePlace = place then .empty else contents) interruption) now) := by
  rcases openForCopy_cases tree source destination interruption with
    ⟨fault, hopen⟩ | ⟨hbegins, sourcePlace, contents, modified, place, hsource, hplace⟩
  · exact .inl ⟨fault, by simp only [copy, hopen]⟩
  · exact .inr ⟨hbegins, sourcePlace, contents, modified, place, hsource, hplace,
      copy_eq hsource hplace now hbegins⟩

/-- A copy without a source changes nothing. -/
theorem copy_of_lost {source : String} {fault : SystemFault}
    (hlost : tree.status true source = .error fault) (destination : String) (now : Int)
    (interruption : Option Interruption) :
    tree.copy source destination now interruption = (.error fault, tree) := by
  simp only [copy, openForCopy, hlost]

/-- A copy whose files cannot both be opened changes nothing. -/
theorem copy_of_not_begins (tree : FileTree) (source destination : String) (now : Int)
    {interruption : Option Interruption} (hnot : ¬Begins interruption) :
    ∃ fault, tree.copy source destination now interruption = (.error fault, tree) := by
  rcases copy_cases tree source destination now interruption with hfault | ⟨hbegins, -⟩
  · exact hfault
  · exact absurd hbegins hnot

/-- What a copy leaves keeps the ways. -/
theorem keepsWays_copy (tree : FileTree) (source destination : String) (now : Int)
    (interruption : Option Interruption) :
    tree.KeepsWays (tree.copy source destination now interruption).2 := by
  rcases copy_cases tree source destination now interruption with
    ⟨_, hcopy⟩ | ⟨-, _, _, _, _, -, hplace, hcopy⟩
  · rw [hcopy]
    exact .refl tree
  · rw [hcopy]
    exact keepsWays_store (resolve_of_placeToWrite hplace).2 _ now

/-- A copy depends on its destination by the place that it is written to. -/
theorem copy_congr {first second : String} (hplace : tree.placeToWrite first = tree.placeToWrite second)
    (source : String) (now : Int) (interruption : Option Interruption) :
    tree.copy source first now interruption = tree.copy source second now interruption := by
  unfold copy openForCopy
  rw [hplace]

end DeviceBus.FileTree
