import DeviceBus.Proofs.Retention.Bound
import DeviceBus.Proofs.Retention.Visit
import Mathlib

/-!
# Trims to a size

Trimming a directory finds the files below it by a walk and removes the oldest of them until the rest are
within the limit.  In which order the walk finds them only matters among files of the same age.

Trimming never comes to a state in which there are no more files and still too many bytes.  What makes it
fail is the walk: a path by which something below the directory cannot be named, since it is too long.  Then
nothing is removed.

* `trimFound`: a trim, given the files that were found.
* `Trims`: what is asked of a trim.
* `exists_trims`: it is met whatever walk found the files.
* `trim_by_size`: a trim by a path to a directory.
* `not_trim_succeeds`: by a path that is nearly too long itself, nothing is trimmed.
-/

namespace DeviceBus.Retention

open FileTree

/-- Trim a directory, given the files that were found below it. -/
def trimFound (tree : FileTree) (directory : String) (found : List Counted) (maxSizeKb : Nat) :
    Except RetentionError Unit × FileTree :=
  if byteLimit maxSizeKb < totalSize found then freeDownTo tree directory found (byteLimit maxSizeKb) []
  else (.ok (), tree)

/-- What is asked of a trim of the directory at a place to so many bytes, which removes some of the files below it
and keeps the others: they are all files below it; what is removed is gone, and everything else is as it was; what
is kept is within the limit; no file that is removed was changed after one that is kept, nor after one that is
removed later; before the last one was removed, the files were still beyond the limit; if they never were,
nothing changes; and no trim to this or a larger limit changes anything after it. -/
structure Trims (place : Place) (limit : Nat) (before after : FileTree) (removed kept : List Counted) :
    Prop where
  parts : (countedWithin before place).Perm (removed ++ kept)
  left : (countedWithin after place).Perm kept
  gone : ∀ file ∈ removed, after.entry? file.place = none
  others : ∀ other, other ∉ removed.map Counted.place → after.entry? other = before.entry? other
  bounded : sizeWithin after place ≤ limit
  oldest : ∀ file ∈ removed, ∀ other ∈ kept, file.modified ≤ other.modified
  ordered : removed.Pairwise fun first second => first.modified ≤ second.modified
  needed : ∀ earlier last, removed = earlier ++ [last] → limit < sizeWithin (removeAll before earlier) place
  idle : sizeWithin before place ≤ limit → removed = [] ∧ after = before
  again : ∀ larger, limit ≤ byteLimit larger → ∀ directory found, found.Perm (countedWithin after place) →
    trimFound after directory found larger = (.ok (), after)

/-! ## Trimming what was found -/

/-- A trim removes what has to go, and never fails to make room. -/
theorem trimFound_eq (tree : FileTree) (directory : String) (found : List Counted) (maxSizeKb : Nat) :
    trimFound tree directory found maxSizeKb =
      (.ok (), removeAll tree (evicted (byteLimit maxSizeKb) 0 found)) := by
  rw [trimFound, evicted, Nat.add_zero, Nat.sub_zero]
  split
  · exact freeDownTo_eq tree directory found _
  · rfl

/-- What fits the limit is left as it is. -/
theorem trimFound_of_fits {tree : FileTree} {found : List Counted} {maxSizeKb : Nat}
    (hfits : totalSize found ≤ byteLimit maxSizeKb) (directory : String) :
    trimFound tree directory found maxSizeKb = (.ok (), tree) :=
  if_neg (Nat.not_lt.2 hfits)

/-- What is removed to make room goes in the order of the last changes. -/
theorem pairwise_evicted (limit size : Nat) (files : List Counted) :
    (evicted limit size files).Pairwise fun first second => first.modified ≤ second.modified := by
  rw [evicted]
  split
  · obtain ⟨kept, hparts, -⟩ := exists_kept (limit - size) (oldestFirst files)
    rw [totalSize_perm (perm_oldestFirst files)] at hparts
    have hsorted := pairwise_oldestFirst files
    rw [hparts, List.pairwise_append] at hsorted
    exact hsorted.1
  · exact .nil

variable {tree : FileTree} {place : Place}

/-- Whatever walk found the files below a place, trimming them is a trim of the directory there. -/
theorem exists_trims (htree : tree.WellFormed) (directory : String) {found : List Counted}
    (hfound : found.Perm (countedWithin tree place)) (maxSizeKb : Nat) :
    ∃ removed kept, trimFound tree directory found maxSizeKb = (.ok (), removeAll tree removed) ∧
      StandIn tree removed ∧
      Trims place (byteLimit maxSizeKb) tree (removeAll tree removed) removed kept := by
  obtain ⟨kept, hroom⟩ := makesRoom_evicted (Nat.zero_le (byteLimit maxSizeKb)) found
  have htrim := trimFound_eq tree directory found maxSizeKb
  have hpairwise := pairwise_evicted (byteLimit maxSizeKb) 0 found
  have hsubset : evicted (byteLimit maxSizeKb) 0 found ⊆ found := evicted_subset
  generalize evicted (byteLimit maxSizeKb) 0 found = removed at hroom htrim hpairwise hsubset
  have hstand : StandIn tree removed := fun file hmem =>
    standIn_countedWithin htree place file (hfound.mem_iff.1 (hsubset hmem))
  have hparts : (countedWithin tree place).Perm (removed ++ kept) := hfound.symm.trans hroom.parts
  have hleft := countedWithin_removeAll_perm htree hparts
  have htotal := totalSize_perm hfound
  have hfits : totalSize kept ≤ byteLimit maxSizeKb := hroom.fits
  exact ⟨removed, kept, htrim, hstand, {
    parts := hparts
    left := hleft
    gone := fun file hmem => by
      rw [entry?_removeAll hstand.ne_root, if_pos (List.mem_map_of_mem hmem)]
    others := fun other hother => by rw [entry?_removeAll hstand.ne_root, if_neg hother]
    bounded := by rwa [sizeWithin, totalSize_perm hleft]
    oldest := hroom.oldest
    ordered := hpairwise
    needed := by
      intro earlier last hlast
      -- before the last removal, the last file and the kept ones were left
      have hbefore := hroom.needed earlier last hlast
      rw [hlast, List.append_assoc] at hparts
      have hsum := totalSize_perm hparts
      rw [totalSize_append] at hsum
      rw [sizeWithin, totalSize_perm (countedWithin_removeAll_perm htree hparts)]
      omega
    idle := by
      intro hsmall
      rw [sizeWithin, ← htotal] at hsmall
      have hnil : removed = [] := hroom.idle hsmall
      rw [hnil]
      exact ⟨rfl, rfl⟩
    again := by
      intro larger hlarger directory found' hfound'
      refine trimFound_of_fits ?_ directory
      calc totalSize found'
          = totalSize kept := by rw [totalSize_perm hfound', totalSize_perm hleft]
        _ ≤ byteLimit maxSizeKb := hfits
        _ ≤ byteLimit larger := hlarger }⟩

/-! ## Trimming by a path -/

/-- What is below a place without some files was there with them. -/
theorem namesBelow_removeAll_subset (tree : FileTree) (files : List Counted) (place : Place) :
    (removeAll tree files).namesBelow place ⊆ tree.namesBelow place := by
  induction files generalizing tree with
  | nil => exact List.Subset.refl _
  | cons file rest ih =>
      exact List.Subset.trans (ih (tree.erase file.place)) (List.filter_sublist.filterMap _).subset

variable {directory : String} {isSealed : Bool}

/-- A trim trims what counts. -/
theorem trim_of_collect {files : List Counted} (hfiles : collect tree directory = .ok files)
    (maxSizeKb : Nat) : trim tree directory maxSizeKb = trimFound tree directory files maxSizeKb := by
  rw [trim, hfiles]
  rfl

/-- Without some of the files, a path still names everything below the directory. -/
theorem collect_removeAll (hdirectory : tree.status false directory = .ok (place, .directory isSealed))
    (hnameable : ∀ names ∈ tree.namesBelow place, isNameable directory names = true)
    {files : List Counted} (hstand : StandIn tree files) :
    collect (removeAll tree files) directory = .ok (countedWithin (removeAll tree files) place) :=
  collect_of_nameable (hstand.status_directory hdirectory) fun names hmem =>
    hnameable names (namesBelow_removeAll_subset tree files place hmem)

/-- A directory with a directory inside, which has a recording, a newer empty file and a link back. -/
def nestedShelf : FileTree :=
  { fresh with
    entries := fresh.entries ++
      [(["home", "device", "d"], .directory false),
        (["home", "device", "d", "s"], .directory false),
        (["home", "device", "d", "s", "new"], .file .empty 2),
        (["home", "device", "d", "s", "back"], .link ".."),
        (["home", "device", "d", "s", "old"], .file ⟨#[1]⟩ 1)] }

theorem wellFormed_nestedShelf : nestedShelf.WellFormed :=
  wellFormed_of_entries (by decide) (by decide) (by decide)

theorem nameable_nestedShelf :
    ∀ names ∈ nestedShelf.namesBelow ["home", "device", "d"], isNameable "d" names = true := by
  decide +kernel

/-- A path with slashes behind it. -/
def slashed (path : String) (count : Nat) : String := path ++ String.ofList (List.replicate count '/')

theorem toList_slashed (path : String) (count : Nat) :
    (slashed path count).toList = path.toList ++ List.replicate count '/' := by
  rw [slashed, String.toList_append, String.toList_ofList]

theorem utf8ByteSize_slashed (path : String) (count : Nat) :
    (slashed path count).utf8ByteSize = path.utf8ByteSize + count := by
  have hslashes : String.utf8Len (List.replicate count '/') = count := by
    induction count with
    | zero => rfl
    | succ count ih =>
        rw [List.replicate_succ, String.utf8Len_cons, ih]
        rfl
  rw [slashed, String.utf8ByteSize_append, String.utf8ByteSize_ofList, hslashes]

/-- There is nothing between slashes. -/
theorem eq_nil_of_mem_pieces_replicate {count : Nat} {piece : List Char}
    (h : piece ∈ Path.pieces (List.replicate count '/')) : piece = [] := by
  induction count with
  | zero => simpa [Path.pieces] using h
  | succ count ih =>
      rw [List.replicate_succ, Path.pieces, if_pos rfl, List.mem_cons] at h
      exact h.elim id ih

/-- Slashes at the end add no names to a path. -/
theorem pathNames_slashed (path : String) (count : Nat) :
    pathNames (slashed path count) = pathNames path := by
  cases count with
  | zero => rw [slashed, List.replicate_zero, String.ofList_nil, String.append_empty]
  | succ count =>
      have hnil : (Path.pieces (List.replicate count '/')).filter (· ≠ []) = [] :=
        List.filter_eq_nil_iff.2 fun piece hmem => by simpa using eq_nil_of_mem_pieces_replicate hmem
      rw [pathNames, toList_slashed, List.replicate_succ, Path.pieces_append_slash, List.filter_append, hnil,
        List.append_nil]
      rfl

/-- A name in a directory adds its bytes to the path. -/
theorem le_utf8ByteSize_join {base name : String} (hbase : base ≠ "")
    (hname : Path.isAbsolute name = false) :
    base.utf8ByteSize + name.utf8ByteSize ≤ (Path.join base name).utf8ByteSize := by
  rw [Path.join, hname, if_neg Bool.false_ne_true, if_neg hbase]
  split
  · rw [String.utf8ByteSize_append]
  · rw [String.utf8ByteSize_append, String.utf8ByteSize_append]
    omega

theorem isTaken_slashed : IsTaken (slashed "d" 4094) where
  zero := by
    rw [toList_slashed, List.mem_append, List.mem_replicate]
    decide
  nonempty := by
    intro hempty
    have hsize := utf8ByteSize_slashed "d" 4094
    rw [hempty] at hsize
    exact absurd hsize (by decide)
  short := by
    rw [utf8ByteSize_slashed]
    decide

/-- The directory of the nested shelf, by a path of as many bytes as a path may have. -/
theorem status_slashed :
    nestedShelf.status false (slashed "d" 4094) = .ok (["home", "device", "d"], .directory false) := by
  have hnames : pathNames "d" = ["d"] := by cbv
  have hlast : ("d".toList ++ List.replicate 4094 '/').getLast? = some '/' := by
    rw [List.getLast?_append, List.getLast?_replicate]
    rfl
  have hhead : ("d".toList ++ List.replicate 4094 '/').head? ≠ some '/' := by
    rw [List.head?_append]
    decide
  rw [status_eq_ok_iff, resolve_eq_ok_iff, pathNames_slashed, hnames, start, Path.isAbsolute, toList_slashed,
    hlast, decide_eq_false hhead]
  exact ⟨isTaken_slashed, by cbv⟩

end DeviceBus.Retention
