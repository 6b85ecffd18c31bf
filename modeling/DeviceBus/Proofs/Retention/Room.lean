import DeviceBus.Retention
import DeviceBus.Proofs.Files.Change

/-!
# Making room

To make room for so many bytes, files are removed in the order of their changes until the rest fits the
limit together with what is to come.

* `byteLimit_eq`: a limit whose bytes fit a machine number is what it says.
* `evicted`: the files that have to go.
* `MakesRoom`: what is asked of them.  They are some of the files, none of them was changed after one that
  is left, what is left fits, without the last of them it would not, and nothing is removed for nothing.
* `makesRoom_evicted`: the files that have to go are such.
* `removeInOrder_cases`: they are removed one after the other, up to the first one that is stuck.
* `freeDownTo_cases`: unless one is stuck, there is always room in the end.
* `countedWithin_removeAll`: which files count once some are removed.
-/

namespace DeviceBus.Retention

/-! ## Sizes -/

/-- A limit whose bytes fit a machine number is what it says. -/
theorem byteLimit_eq {maxSizeKb : Nat} (hfits : maxSizeKb * 1024 ≤ Number.maxUnsigned64) :
    byteLimit maxSizeKb = maxSizeKb * 1024 := Nat.mod_eq_of_lt (Nat.lt_succ_of_le hfits)

/-- A limit is never more than it says. -/
theorem byteLimit_le (maxSizeKb : Nat) : byteLimit maxSizeKb ≤ maxSizeKb * 1024 := Nat.mod_le _ _

@[simp] theorem totalSize_nil : totalSize [] = 0 := rfl

@[simp] theorem totalSize_cons (file : Counted) (files : List Counted) :
    totalSize (file :: files) = file.size + totalSize files := rfl

@[simp] theorem totalSize_append (first second : List Counted) :
    totalSize (first ++ second) = totalSize first + totalSize second := by
  induction first with
  | nil => simp
  | cons file rest ih => simp [ih, Nat.add_assoc]

theorem totalSize_perm {first second : List Counted} (h : first.Perm second) :
    totalSize first = totalSize second := by
  induction h with
  | nil => rfl
  | cons file _ ih => simp [ih]
  | swap file other rest => simp only [totalSize_cons]; omega
  | trans _ _ ih ih' => exact ih.trans ih'

theorem totalSize_filter_le (files : List Counted) (keep : Counted → Bool) :
    totalSize (files.filter keep) ≤ totalSize files := by
  induction files with
  | nil => exact Nat.le_refl _
  | cons file rest ih =>
      rw [List.filter_cons]
      split
      · simp only [totalSize_cons]
        omega
      · simp only [totalSize_cons]
        omega

/-! ## What has to go -/

/-- The files that go are the first ones, and what is left has at most the bytes of the target. -/
theorem exists_kept (target : Nat) (files : List Counted) :
    ∃ kept, files = toRemove target (totalSize files) files ++ kept ∧ totalSize kept ≤ target := by
  induction files with
  | nil => exact ⟨[], rfl, Nat.zero_le _⟩
  | cons file rest ih =>
      rw [toRemove]
      split
      · exact ⟨file :: rest, rfl, ‹_›⟩
      · obtain ⟨kept, hrest, hkept⟩ := ih
        refine ⟨kept, ?_, hkept⟩
        rw [totalSize_cons, Nat.add_sub_cancel_left, List.cons_append, ← hrest]

/-- Before the last file that goes, there are more bytes than the target. -/
theorem lt_of_toRemove {target total : Nat} {files earlier : List Counted} {last : Counted}
    (h : toRemove target total files = earlier ++ [last]) : target < total - totalSize earlier := by
  induction files generalizing total earlier with
  | nil =>
      rw [toRemove] at h
      exact absurd h.symm (by simp)
  | cons file rest ih =>
      rw [toRemove] at h
      split at h
      · exact absurd h.symm (by simp)
      · cases earlier with
        | nil => simp only [totalSize_nil]; omega
        | cons first others =>
            rw [List.cons_append, List.cons.injEq] at h
            have hrest := ih h.2
            rw [← h.1, totalSize_cons]
            omega

/-! ## The order of removal -/

theorem perm_oldestFirst (files : List Counted) : (oldestFirst files).Perm files :=
  List.mergeSort_perm files _

theorem pairwise_oldestFirst (files : List Counted) :
    (oldestFirst files).Pairwise fun first second => first.modified ≤ second.modified := by
  have hsorted : (oldestFirst files).Pairwise fun a b => decide (a.modified ≤ b.modified) = true := by
    apply List.pairwise_mergeSort
    · intro a b c hab hbc
      simp only [decide_eq_true_eq] at hab hbc ⊢
      omega
    · intro a b
      simp only [Bool.or_eq_true, decide_eq_true_eq]
      omega
  exact hsorted.imp fun h => by simpa using h

/-! ## Room for a file -/

/-- The files that have to go so that so many bytes more fit the limit. -/
def evicted (limit size : Nat) (files : List Counted) : List Counted :=
  if limit < totalSize files + size then
    toRemove (limit - size) (totalSize files) (oldestFirst files)
  else []

/-- What is asked of files that are removed so that `size` bytes more fit a limit, and of those that are
kept: they are all files together; no file that is removed was changed after one that is kept; the kept
ones leave the room; before the last removal there was too little; and nothing is removed if there was
room. -/
structure MakesRoom (limit size : Nat) (files removed kept : List Counted) : Prop where
  parts : files.Perm (removed ++ kept)
  oldest : ∀ gone ∈ removed, ∀ left ∈ kept, gone.modified ≤ left.modified
  fits : totalSize kept + size ≤ limit
  needed : ∀ earlier last, removed = earlier ++ [last] →
    limit < totalSize files - totalSize earlier + size
  idle : totalSize files + size ≤ limit → removed = []

/-- What is removed makes room for any file that fits at all. -/
theorem makesRoom_evicted {limit size : Nat} (hsize : size ≤ limit) (files : List Counted) :
    ∃ kept, MakesRoom limit size files (evicted limit size files) kept := by
  rw [evicted]
  split
  · rename_i hfull
    have htotal := totalSize_perm (perm_oldestFirst files)
    obtain ⟨kept, hparts, hkept⟩ := exists_kept (limit - size) (oldestFirst files)
    rw [htotal] at hparts
    refine ⟨kept, ?_, ?_, ?_, ?_, ?_⟩
    · rw [← hparts]
      exact (perm_oldestFirst files).symm
    · have hsorted := pairwise_oldestFirst files
      rw [hparts, List.pairwise_append] at hsorted
      exact hsorted.2.2
    · omega
    · intro earlier last hlast
      have hbefore := lt_of_toRemove hlast
      omega
    · intro hroom
      omega
  · rename_i hroom
    refine ⟨files, .refl _, ?_, ?_, ?_, fun _ => rfl⟩
    · intro gone hgone
      exact absurd hgone List.not_mem_nil
    · omega
    · intro earlier last hlast
      exact absurd hlast (by simp)

/-! ## The tree without some files -/

/-- The tree without some files. -/
def removeAll (tree : FileTree) (files : List Counted) : FileTree :=
  files.foldl (fun tree file => tree.erase file.place) tree

/-- The bytes of the regular files at or below a place. -/
def sizeWithin (tree : FileTree) (top : Place) : Nat := totalSize (countedWithin tree top)

/-- What counts is a regular file of the tree. -/
theorem mem_countedWithin {tree : FileTree} {top : Place} {file : Counted} :
    file ∈ countedWithin tree top ↔
      FileTree.isWithin top file.place = true ∧
        ∃ contents, contents.size = file.size ∧
          (file.place, .file contents file.modified) ∈ tree.entries := by
  rw [countedWithin, List.mem_map]
  constructor
  · rintro ⟨found, hmem, rfl⟩
    obtain ⟨hwithin, hentry⟩ := FileTree.mem_filesWithin.1 hmem
    exact ⟨hwithin, _, rfl, hentry⟩
  · rintro ⟨hwithin, contents, hsize, hentry⟩
    refine ⟨(file.place, contents, file.modified), FileTree.mem_filesWithin.2 ⟨hwithin, hentry⟩, ?_⟩
    simp only [hsize]

/-- In a well-formed tree every file counts once. -/
theorem nodup_countedWithin {tree : FileTree} (h : tree.WellFormed) (top : Place) :
    ((countedWithin tree top).map Counted.place).Nodup := by
  rw [countedWithin, List.map_map]
  exact h.nodup_filesWithin top

theorem countedWithin_erase (tree : FileTree) (top place : Place) :
    countedWithin (tree.erase place) top =
      (countedWithin tree top).filter fun file => file.place ≠ place := by
  rw [countedWithin, FileTree.filesWithin_erase, countedWithin, List.filter_map]
  rfl

theorem removeAll_cons (tree : FileTree) (file : Counted) (files : List Counted) :
    removeAll tree (file :: files) = removeAll (tree.erase file.place) files := rfl

/-- The files that count once some are removed are the others. -/
theorem countedWithin_removeAll (tree : FileTree) (top : Place) (files : List Counted) :
    countedWithin (removeAll tree files) top =
      (countedWithin tree top).filter fun file => file.place ∉ files.map Counted.place := by
  induction files generalizing tree with
  | nil => simp [removeAll]
  | cons file rest ih =>
      rw [removeAll_cons, ih, countedWithin_erase, List.filter_filter]
      apply List.filter_congr
      intro other _
      rw [List.map_cons]
      by_cases hplace : other.place = file.place
      · simp [hplace]
      · simp [hplace]

/-- Without some files there are no more bytes. -/
theorem sizeWithin_removeAll_le (tree : FileTree) (top : Place) (files : List Counted) :
    sizeWithin (removeAll tree files) top ≤ sizeWithin tree top := by
  rw [sizeWithin, countedWithin_removeAll]
  exact totalSize_filter_le _ _

/-- The files that are kept when some are removed. -/
theorem filter_not_removed {files removed kept : List Counted}
    (hparts : files.Perm (removed ++ kept)) (hnodup : (files.map Counted.place).Nodup) :
    (files.filter fun file => file.place ∉ removed.map Counted.place).Perm kept := by
  refine (hparts.filter _).trans ?_
  have hplaces := (hparts.map Counted.place).nodup_iff.1 hnodup
  rw [List.map_append, List.nodup_append] at hplaces
  rw [List.filter_append]
  have hgone : removed.filter (fun file => file.place ∉ removed.map Counted.place) = [] := by
    rw [List.filter_eq_nil_iff]
    intro file hmem
    simpa using ⟨file, hmem, rfl⟩
  have hleft : kept.filter (fun file => file.place ∉ removed.map Counted.place) = kept := by
    rw [List.filter_eq_self]
    intro file hmem
    have hnot : file.place ∉ removed.map Counted.place := fun hplace =>
      hplaces.2.2 _ hplace _ (List.mem_map_of_mem hmem) rfl
    simpa using hnot
  rw [hgone, hleft, List.nil_append]

/-! ## Removing -/

/-- The files that come before the first one that is stuck. -/
def removable (stuck : List (Place × SystemFault)) (files : List Counted) : List Counted :=
  files.takeWhile fun file => (stuck.lookup file.place).isNone

theorem removable_subset {stuck : List (Place × SystemFault)} {files : List Counted} :
    removable stuck files ⊆ files :=
  (List.takeWhile_sublist _).subset

/-- Where nothing is stuck, every file comes before. -/
@[simp] theorem removable_nil (files : List Counted) : removable [] files = files := by
  induction files with
  | nil => rfl
  | cons file rest ih => exact congrArg (file :: ·) ih

/-- Files are removed in order, all of them or those before the first one that is stuck. -/
theorem removeInOrder_cases (stuck : List (Place × SystemFault)) (tree : FileTree) (files : List Counted) :
    (removable stuck files = files ∧ removeInOrder stuck tree files = (none, removeAll tree files)) ∨
      ∃ file fault rest, files = removable stuck files ++ file :: rest ∧
        stuck.lookup file.place = some fault ∧
        removeInOrder stuck tree files = (some (file, fault), removeAll tree (removable stuck files)) := by
  induction files generalizing tree with
  | nil => exact .inl ⟨rfl, rfl⟩
  | cons file rest ih =>
      rw [removeInOrder, removable, List.takeWhile_cons]
      cases hlookup : stuck.lookup file.place with
      | some fault => exact .inr ⟨file, fault, rest, rfl, hlookup, rfl⟩
      | none =>
          simp only [Option.isNone_none, if_true]
          rcases ih (tree.erase file.place) with ⟨hall, hremove⟩ | ⟨other, fault, left, hfiles, hstuck, hremove⟩
          · exact .inl ⟨congrArg _ hall, hremove⟩
          · exact .inr ⟨other, fault, left, congrArg _ hfiles, hstuck, hremove⟩

/-- The files that have to go are removed in order.  Unless one of them is stuck, there is room in the end. -/
theorem freeDownTo_cases (tree : FileTree) (directory : String) (files : List Counted) (target : Nat)
    (stuck : List (Place × SystemFault)) :
    let due := toRemove target (totalSize files) (oldestFirst files)
    (removable stuck due = due ∧
        freeDownTo tree directory files target stuck = (.ok (), removeAll tree due)) ∨
      ∃ file fault rest, due = removable stuck due ++ file :: rest ∧
        stuck.lookup file.place = some fault ∧
        freeDownTo tree directory files target stuck =
          (.error (.access (pathOf tree directory file) fault), removeAll tree (removable stuck due)) := by
  intro due
  have htotal := totalSize_perm (perm_oldestFirst files)
  obtain ⟨kept, hparts, hkept⟩ := exists_kept target (oldestFirst files)
  rw [htotal] at hparts
  have hsum : totalSize files = totalSize due + totalSize kept := by
    rw [← totalSize_append, ← hparts, htotal]
  rcases removeInOrder_cases stuck tree due with ⟨hall, hremove⟩ | ⟨file, fault, rest, hdue, hstuck, hremove⟩
  · refine .inl ⟨hall, ?_⟩
    have hroom : ¬target < totalSize files - totalSize due := by omega
    simp only [freeDownTo, due, hremove, if_neg hroom]
  · exact .inr ⟨file, fault, rest, hdue, hstuck, by simp only [freeDownTo, due, hremove]⟩

/-- Where nothing is stuck, removing files until they fit always succeeds. -/
theorem freeDownTo_eq (tree : FileTree) (directory : String) (files : List Counted) (target : Nat) :
    freeDownTo tree directory files target [] =
      (.ok (), removeAll tree (toRemove target (totalSize files) (oldestFirst files))) := by
  rcases freeDownTo_cases tree directory files target [] with ⟨-, hfreed⟩ | ⟨_, _, _, -, hstuck, -⟩
  · exact hfreed
  · cases hstuck

/-- It does not matter by which path files are removed, except for the path in the error. -/
theorem freeDownTo_congr (tree : FileTree) (first second : String) (files : List Counted) (target : Nat)
    (stuck : List (Place × SystemFault)) :
    (freeDownTo tree first files target stuck).2 = (freeDownTo tree second files target stuck).2 ∧
      (freeDownTo tree first files target stuck).1.isOk =
        (freeDownTo tree second files target stuck).1.isOk := by
  simp only [freeDownTo]
  generalize removeInOrder stuck tree _ = outcome
  obtain ⟨_ | ⟨file, fault⟩, after⟩ := outcome <;> exact ⟨rfl, rfl⟩

end DeviceBus.Retention
