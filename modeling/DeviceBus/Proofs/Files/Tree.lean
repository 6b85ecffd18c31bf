import DeviceBus.Files.Tree
import Mathlib.Data.List.Nodup

/-!
# What stands in a file tree

A file tree is a list of entries; its theory is told on `entry?`, what stands at each place.  Every change
of a tree puts one entry or erases one, and there is one equation for each that says what `entry?` becomes.

* `WellFormed`: every place is listed once, and the parent of what stands somewhere is a directory.
* `wellFormed_fresh`, `WellFormed.put`, `WellFormed.erase`: a new machine has a well-formed tree, and it
  stays so as long as no directory is replaced or erased.
* `filesWithin_erase`, `filesWithin_put`: how the regular files below a place change.
-/

namespace DeviceBus

namespace Entry

/-- What a path can lead through: a directory or a link. -/
def isWay : Entry → Bool
  | .directory _ => true
  | .link _ => true
  | _ => false

end Entry

namespace FileTree

/-! ## One entry more or less -/

@[simp] theorem entry?_root (tree : FileTree) : tree.entry? [] = some (.directory false) := rfl

theorem entry?_eq_lookup (tree : FileTree) {place : Place} (h : place ≠ []) :
    tree.entry? place = tree.entries.lookup place := if_neg h

/-- Where nothing stands, or no directory does, is not the root. -/
theorem ne_root_of_not_directory {tree : FileTree} {place : Place}
    (h : ∀ isSealed, tree.entry? place ≠ some (.directory isSealed)) : place ≠ [] := by
  intro hroot
  subst hroot
  exact h false rfl

theorem ne_root_of_none {tree : FileTree} {place : Place} (h : tree.entry? place = none) : place ≠ [] := by
  rintro rfl
  cases h

/-- Erasing a place from a list of entries. -/
theorem lookup_filter_ne (entries : List (Place × Entry)) (place other : Place) :
    (entries.filter fun entry => entry.1 ≠ place).lookup other =
      if other = place then none else entries.lookup other := by
  induction entries with
  | nil => simp
  | cons entry rest ih =>
      obtain ⟨first, value⟩ := entry
      rw [List.filter_cons]
      by_cases hfirst : first = place
      · subst first
        rw [if_neg (by simp), ih]
        split
        · rfl
        · have hbeq : (other == place) = false := by simpa using ‹¬other = place›
          rw [List.lookup_cons, hbeq]
      · rw [if_pos (by simpa using hfirst), List.lookup_cons, List.lookup_cons, ih]
        by_cases hother : other = first
        · subst other
          simp [hfirst]
        · have hbeq : (other == first) = false := by simpa using hother
          simp [hbeq]

theorem entry?_erase (tree : FileTree) {place other : Place} (hplace : place ≠ []) :
    entry? (tree.erase place) other = if other = place then none else tree.entry? other := by
  by_cases hother : other = []
  · subst hother
    rw [if_neg (Ne.symm hplace)]
    rfl
  · rw [entry?_eq_lookup _ hother, entry?_eq_lookup _ hother, erase, lookup_filter_ne]

/-- Where nothing stands, nothing stands after erasing. -/
theorem entry?_erase_of_none {tree : FileTree} {place : Place} (h : tree.entry? place = none)
    (other : Place) : entry? (tree.erase other) place = none := by
  have hroot := ne_root_of_none h
  rw [entry?_eq_lookup _ hroot] at h ⊢
  rw [erase, lookup_filter_ne, h, ite_self]

theorem entry?_put (tree : FileTree) {place other : Place} (entry : Entry) (hplace : place ≠ []) :
    entry? (tree.put place entry) other = if other = place then some entry else tree.entry? other := by
  by_cases hother : other = []
  · subst hother
    rw [if_neg (Ne.symm hplace)]
    rfl
  · have herase : entry? (tree.erase place) other = _ := entry?_erase tree hplace
    rw [entry?_eq_lookup _ hother] at herase ⊢
    rw [put, List.lookup_append, herase]
    by_cases hsame : other = place
    · simp [hsame]
    · have hbeq : (other == place) = false := by simpa using hsame
      simp [hsame, List.lookup_cons, hbeq]

@[simp] theorem entry?_put_self (tree : FileTree) {place : Place} (entry : Entry) (hplace : place ≠ []) :
    entry? (tree.put place entry) place = some entry := by
  rw [entry?_put tree entry hplace, if_pos rfl]

/-- The last entry put at a place is the one that stands there. -/
@[simp] theorem put_put (tree : FileTree) (place : Place) (first second : Entry) :
    (tree.put place first).put place second = tree.put place second := by
  simp [put, erase, List.filter_append, List.filter_filter]

/-! ## Well-formed trees -/

/-- Every place is listed once and the root is not listed; what stands somewhere stands in a directory; and
the working directory is one. -/
structure WellFormed (tree : FileTree) : Prop where
  nodup : (tree.entries.map Prod.fst).Nodup
  root : [] ∉ tree.entries.map Prod.fst
  parent : ∀ place entry, tree.entry? place = some entry →
    ∃ isSealed, tree.entry? place.dropLast = some (.directory isSealed)
  work : ∃ isSealed, tree.entry? tree.work = some (.directory isSealed)

theorem lookup_eq_some_iff_mem {entries : List (Place × Entry)} (hnodup : (entries.map Prod.fst).Nodup)
    (place : Place) (entry : Entry) :
    entries.lookup place = some entry ↔ (place, entry) ∈ entries := by
  induction entries with
  | nil => simp
  | cons head rest ih =>
      obtain ⟨first, value⟩ := head
      rw [List.map_cons, List.nodup_cons] at hnodup
      have hrest := ih hnodup.2
      by_cases hplace : place = first
      · subst hplace
        have hnot : (place, entry) ∉ rest := fun hmem =>
          hnodup.1 (List.mem_map.2 ⟨_, hmem, rfl⟩)
        simp [hnot, eq_comm]
      · have hbeq : (place == first) = false := by simpa using hplace
        simp [List.lookup_cons, hbeq, hrest, hplace]

namespace WellFormed

variable {tree : FileTree}

/-- The entries of a well-formed tree are what stands at the places below the root. -/
theorem mem_entries_iff (h : tree.WellFormed) {place : Place} {entry : Entry} :
    (place, entry) ∈ tree.entries ↔ place ≠ [] ∧ tree.entry? place = some entry := by
  rw [← lookup_eq_some_iff_mem h.nodup]
  constructor
  · intro hlookup
    have hplace : place ≠ [] := by
      intro hroot
      subst hroot
      rw [lookup_eq_some_iff_mem h.nodup] at hlookup
      exact h.root (List.mem_map_of_mem hlookup)
    exact ⟨hplace, by rw [entry?_eq_lookup _ hplace, hlookup]⟩
  · rintro ⟨hplace, hentry⟩
    rwa [entry?_eq_lookup _ hplace] at hentry

/-- Erasing what is no directory keeps a tree well-formed. -/
theorem erase (h : tree.WellFormed) {place : Place}
    (hplace : ∀ isSealed, tree.entry? place ≠ some (.directory isSealed)) :
    (tree.erase place).WellFormed := by
  have hroot : place ≠ [] := ne_root_of_not_directory hplace
  have hkeeps : ∀ other isSealed, tree.entry? other = some (.directory isSealed) →
      entry? (tree.erase place) other = some (.directory isSealed) := by
    intro other isSealed hother
    rw [entry?_erase tree hroot, if_neg, hother]
    rintro rfl
    exact hplace isSealed hother
  have hsub : (tree.erase place).entries.map Prod.fst |>.Sublist (tree.entries.map Prod.fst) :=
    List.filter_sublist.map _
  refine ⟨h.nodup.sublist hsub, fun hmem => h.root (hsub.subset hmem), ?_, ?_⟩
  · intro other entry hentry
    rw [entry?_erase tree hroot] at hentry
    split at hentry
    · cases hentry
    · obtain ⟨isSealed, hparent⟩ := h.parent other entry hentry
      exact ⟨isSealed, hkeeps _ _ hparent⟩
  · obtain ⟨isSealed, hwork⟩ := h.work
    exact ⟨isSealed, hkeeps _ _ hwork⟩

/-- Putting something into a directory, and not in the place of a directory, keeps a tree well-formed. -/
theorem put (h : tree.WellFormed) {place : Place} (entry : Entry)
    (hplace : ∀ isSealed, tree.entry? place ≠ some (.directory isSealed))
    (hparent : ∃ isSealed, tree.entry? place.dropLast = some (.directory isSealed)) :
    (tree.put place entry).WellFormed := by
  have hroot : place ≠ [] := ne_root_of_not_directory hplace
  have hkeeps : ∀ other isSealed, tree.entry? other = some (.directory isSealed) →
      entry? (tree.put place entry) other = some (.directory isSealed) := by
    intro other isSealed hother
    rw [entry?_put tree entry hroot, if_neg, hother]
    rintro rfl
    exact hplace isSealed hother
  have herase := h.erase hplace
  have hnew : place ∉ (tree.erase place).entries.map Prod.fst := by
    simp [FileTree.erase]
  refine ⟨?_, ?_, ?_, ?_⟩
  · rw [FileTree.put, List.map_append, List.map_singleton, List.nodup_append_comm]
    exact List.nodup_cons.2 ⟨hnew, herase.nodup⟩
  · rw [FileTree.put, List.map_append, List.mem_append, not_or]
    exact ⟨herase.root, by simpa using Ne.symm hroot⟩
  · intro other value hvalue
    rw [entry?_put tree entry hroot] at hvalue
    split at hvalue
    · subst other
      obtain ⟨isSealed, hdirectory⟩ := hparent
      exact ⟨isSealed, hkeeps _ _ hdirectory⟩
    · obtain ⟨isSealed, hdirectory⟩ := h.parent other value hvalue
      exact ⟨isSealed, hkeeps _ _ hdirectory⟩
  · obtain ⟨isSealed, hwork⟩ := h.work
    exact ⟨isSealed, hkeeps _ _ hwork⟩

end WellFormed

/-- Whether a tree is well-formed can be read off its list of entries. -/
theorem wellFormed_of_entries {tree : FileTree} (hnodup : (tree.entries.map Prod.fst).Nodup)
    (hroot : [] ∉ tree.entries.map Prod.fst)
    (hparent : ∀ place ∈ tree.work :: tree.entries.map fun entry => entry.1.dropLast,
      tree.entry? place ∈ [some (.directory false), some (.directory true)]) :
    tree.WellFormed where
  nodup := hnodup
  root := hroot
  parent := by
    intro place entry hentry
    by_cases hplace : place = []
    · subst hplace
      exact ⟨false, rfl⟩
    · rw [entry?_eq_lookup _ hplace, lookup_eq_some_iff_mem hnodup] at hentry
      have hmem := hparent place.dropLast (List.mem_cons_of_mem _ (List.mem_map_of_mem hentry))
      simp only [List.mem_cons, List.not_mem_nil, or_false] at hmem
      rcases hmem with hmem | hmem
      · exact ⟨_, hmem⟩
      · exact ⟨_, hmem⟩
  work := by
    have hmem := hparent tree.work List.mem_cons_self
    simp only [List.mem_cons, List.not_mem_nil, or_false] at hmem
    rcases hmem with hmem | hmem
    · exact ⟨_, hmem⟩
    · exact ⟨_, hmem⟩

theorem wellFormed_fresh : fresh.WellFormed :=
  wellFormed_of_entries (by decide) (by decide) (by decide)

/-! ## Regular files below a place -/

/-- The regular file that an entry is, if it lies at or below a place. -/
def fileWithin? (top : Place) (listed : Place × Entry) : Option (Place × ByteArray × Int) :=
  match listed.2 with
  | .file contents modified =>
      if isWithin top listed.1 then some (listed.1, contents, modified) else none
  | _ => none

theorem filesWithin_eq (tree : FileTree) (top : Place) :
    tree.filesWithin top = tree.entries.filterMap (fileWithin? top) := rfl

theorem fileWithin?_eq_some_iff {top : Place} {listed : Place × Entry}
    {file : Place × ByteArray × Int} :
    fileWithin? top listed = some file ↔
      isWithin top file.1 = true ∧ listed = (file.1, .file file.2.1 file.2.2) := by
  obtain ⟨place, entry⟩ := listed
  obtain ⟨other, contents, modified⟩ := file
  cases entry with
  | file c m =>
      simp only [fileWithin?, Option.ite_none_right_eq_some, Option.some.injEq, Prod.mk.injEq,
        Entry.file.injEq]
      constructor
      · rintro ⟨hwithin, rfl, rfl, rfl⟩
        exact ⟨hwithin, rfl, rfl, rfl⟩
      · rintro ⟨hwithin, rfl, rfl, rfl⟩
        exact ⟨hwithin, rfl, rfl, rfl⟩
  | directory _ => simp [fileWithin?]
  | link _ => simp [fileWithin?]
  | socket _ => simp [fileWithin?]
  | device => simp [fileWithin?]

theorem mem_filesWithin {tree : FileTree} {top : Place} {file : Place × ByteArray × Int} :
    file ∈ tree.filesWithin top ↔
      isWithin top file.1 = true ∧ (file.1, .file file.2.1 file.2.2) ∈ tree.entries := by
  rw [filesWithin_eq, List.mem_filterMap]
  constructor
  · rintro ⟨listed, hmem, hfile⟩
    obtain ⟨hwithin, rfl⟩ := fileWithin?_eq_some_iff.1 hfile
    exact ⟨hwithin, hmem⟩
  · rintro ⟨hwithin, hmem⟩
    exact ⟨_, hmem, fileWithin?_eq_some_iff.2 ⟨hwithin, rfl⟩⟩

/-- A well-formed tree lists every file once. -/
theorem WellFormed.nodup_filesWithin {tree : FileTree} (h : tree.WellFormed) (top : Place) :
    ((tree.filesWithin top).map Prod.fst).Nodup := by
  have hentries := h.nodup
  rw [List.Nodup, List.pairwise_map] at hentries ⊢
  rw [filesWithin_eq]
  refine hentries.filterMap _ ?_
  intro first second hne file hfile file' hfile'
  obtain ⟨-, rfl⟩ := fileWithin?_eq_some_iff.1 hfile
  obtain ⟨-, rfl⟩ := fileWithin?_eq_some_iff.1 hfile'
  exact hne

/-- Erasing a place takes its file, and no other, from those below a place. -/
theorem filesWithin_erase (tree : FileTree) (top place : Place) :
    (tree.erase place).filesWithin top =
      (tree.filesWithin top).filter fun file => file.1 ≠ place := by
  rw [filesWithin_eq, filesWithin_eq, erase, List.filterMap_filter, List.filter_filterMap]
  apply List.filterMap_congr
  intro listed _
  cases hfile : fileWithin? top listed with
  | none => simp
  | some file =>
      obtain ⟨-, rfl⟩ := fileWithin?_eq_some_iff.1 hfile
      simp [Option.filter_some]

/-- Putting something at a place adds its file, if it is one and lies below, in place of what was there. -/
theorem filesWithin_put (tree : FileTree) (top place : Place) (entry : Entry) :
    (tree.put place entry).filesWithin top =
      (tree.erase place).filesWithin top ++ (fileWithin? top (place, entry)).toList := by
  rw [filesWithin_eq, filesWithin_eq, put, List.filterMap_append]
  cases hfile : fileWithin? top (place, entry) with
  | none => simp [hfile]
  | some file => simp [hfile]

end FileTree

end DeviceBus
