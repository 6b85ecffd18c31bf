import DeviceBus.Proofs.Retention.Room
import Mathlib.Data.List.Induction
import Mathlib.Data.List.Perm.Basic

/-!
# Walks that count files

The files below a directory are found by a walk: it looks at everything in the directory, in whatever order
the directory lists it, counts what is a regular file, goes on into what is a directory, and passes by
everything else, links among it.  Such a walk comes to an end, and it finds every regular file below the
directory once, so that only their order depends on that of the listings.

* `Lists`: an order in which a directory can list its names.
* `Finds`: what a walk finds.
* `countedWithin_perm_flatMap`: the files below a directory lie below the things in it.
* `Finds.perm`: a walk finds exactly the regular files at or below a place.
* `exists_finds`: from whatever stands somewhere, there is a walk.
-/

namespace DeviceBus.Retention

open FileTree

/-- The names in a directory in some order, each of them once. -/
structure Lists (tree : FileTree) (place : Place) (names : List String) : Prop where
  nodup : names.Nodup
  mem : ∀ name, name ∈ names ↔ tree.entry? (place ++ [name]) ≠ none

/-- What a walk from a place finds: the file that stands there, or one thing after the other in the order in
which the directory there lists them, or nothing. -/
inductive Finds (tree : FileTree) : Place → List Counted → Prop
  | file (place : Place) (contents : ByteArray) (modified : Int)
      (here : tree.entry? place = some (.file contents modified)) :
      Finds tree place [⟨place, contents.size, modified⟩]
  | directory (place : Place) (isSealed : Bool) (names : List String) (found : String → List Counted)
      (here : tree.entry? place = some (.directory isSealed)) (lists : Lists tree place names)
      (below : ∀ name ∈ names, Finds tree (place ++ [name]) (found name)) :
      Finds tree place (names.flatMap found)
  | other (place : Place) (entry : Entry) (here : tree.entry? place = some entry)
      (noFile : ∀ contents modified, entry ≠ .file contents modified)
      (noDirectory : ∀ isSealed, entry ≠ .directory isSealed) : Finds tree place []

variable {tree : FileTree}

/-! ## What lies below a place -/

/-- Above what stands somewhere, something stands as well. -/
theorem entry?_ne_none_of_append (htree : tree.WellFormed) {front back : Place}
    (h : tree.entry? (front ++ back) ≠ none) : tree.entry? front ≠ none := by
  induction back using List.reverseRecOn with
  | nil => rwa [List.append_nil] at h
  | append_singleton back last ih =>
      apply ih
      obtain ⟨entry, hentry⟩ := Option.ne_none_iff_exists'.1 h
      obtain ⟨isSealed, hparent⟩ := htree.parent _ entry hentry
      rw [← List.append_assoc, List.dropLast_concat] at hparent
      rw [hparent]
      exact Option.some_ne_none _

/-- What stands below a place stands in or below one of the things in the directory there. -/
theorem directory_of_append (htree : tree.WellFormed) {top : Place} {name : String} {rest : List String}
    (h : tree.entry? (top ++ name :: rest) ≠ none) :
    (∃ isSealed, tree.entry? top = some (.directory isSealed)) ∧ tree.entry? (top ++ [name]) ≠ none := by
  rw [List.append_cons] at h
  have hname := entry?_ne_none_of_append htree h
  obtain ⟨entry, hentry⟩ := Option.ne_none_iff_exists'.1 hname
  obtain ⟨isSealed, hparent⟩ := htree.parent _ entry hentry
  rw [List.dropLast_concat] at hparent
  exact ⟨⟨isSealed, hparent⟩, hname⟩

theorem isWithin_iff {top place : Place} : isWithin top place = true ↔ ∃ rest, place = top ++ rest := by
  rw [isWithin, List.isPrefixOf_iff_prefix]
  exact ⟨fun ⟨rest, h⟩ => ⟨rest, h.symm⟩, fun ⟨rest, h⟩ => ⟨rest, h.symm⟩⟩

/-- What counts are the regular files at or below a place. -/
theorem mem_countedWithin_iff (htree : tree.WellFormed) {top : Place} {file : Counted} :
    file ∈ countedWithin tree top ↔
      (∃ rest, file.place = top ++ rest) ∧ ∃ contents, contents.size = file.size ∧
        tree.entry? file.place = some (.file contents file.modified) := by
  rw [mem_countedWithin, isWithin_iff]
  refine and_congr_right fun _ => exists_congr fun contents => and_congr_right fun _ => ?_
  rw [htree.mem_entries_iff, and_iff_right_iff_imp]
  rintro hentry hroot
  rw [hroot] at hentry
  cases hentry

theorem nodup_counted (htree : tree.WellFormed) (top : Place) : (countedWithin tree top).Nodup :=
  (nodup_countedWithin htree top).of_map _

/-- The files at or below what is no directory are the file itself, if it is one. -/
theorem countedWithin_of_plain (htree : tree.WellFormed) {place : Place} {entry : Entry}
    (here : tree.entry? place = some entry) (hentry : ∀ isSealed, entry ≠ .directory isSealed)
    {file : Counted} :
    file ∈ countedWithin tree place ↔ file.place = place ∧ ∃ contents, contents.size = file.size ∧
      tree.entry? file.place = some (.file contents file.modified) := by
  rw [mem_countedWithin_iff htree]
  refine and_congr_left fun ⟨contents, _, hfile⟩ => ⟨fun ⟨rest, hplace⟩ => ?_, fun h => ⟨[], by simp [h]⟩⟩
  cases rest with
  | nil => rw [hplace, List.append_nil]
  | cons name rest =>
      rw [hplace] at hfile
      obtain ⟨⟨isSealed, hdirectory⟩, -⟩ := directory_of_append htree (hfile ▸ Option.some_ne_none _)
      rw [here] at hdirectory
      exact absurd (Option.some.inj hdirectory) (hentry isSealed)

/-- The files below a directory are those at or below the things in it. -/
theorem countedWithin_perm_flatMap (htree : tree.WellFormed) {place : Place} {isSealed : Bool}
    (here : tree.entry? place = some (.directory isSealed)) {names : List String}
    (hnames : Lists tree place names) :
    (names.flatMap fun name => countedWithin tree (place ++ [name])).Perm (countedWithin tree place) := by
  have hnodup : (names.flatMap fun name => countedWithin tree (place ++ [name])).Nodup := by
    refine List.nodup_flatMap.2 ⟨fun name _ => nodup_counted htree _, hnames.nodup.imp ?_⟩
    intro first second hne file hfirst hsecond
    obtain ⟨⟨rest, hplace⟩, -⟩ := (mem_countedWithin_iff htree).1 hfirst
    obtain ⟨⟨rest', hplace'⟩, -⟩ := (mem_countedWithin_iff htree).1 hsecond
    rw [hplace, ← List.append_cons, ← List.append_cons, List.append_cancel_left_eq] at hplace'
    exact hne (List.cons.inj hplace').1
  refine (List.perm_ext_iff_of_nodup hnodup (nodup_counted htree _)).2 fun file => ?_
  rw [List.mem_flatMap]
  constructor
  · rintro ⟨name, -, hfile⟩
    obtain ⟨⟨rest, hplace⟩, hstands⟩ := (mem_countedWithin_iff htree).1 hfile
    exact (mem_countedWithin_iff htree).2 ⟨⟨name :: rest, by rw [hplace, ← List.append_cons]⟩, hstands⟩
  · intro hfile
    obtain ⟨⟨rest, hplace⟩, contents, hsize, hstands⟩ := (mem_countedWithin_iff htree).1 hfile
    cases rest with
    | nil =>
        -- the place itself is a directory, so it is not the file
        rw [hplace, List.append_nil, here] at hstands
        cases hstands
    | cons name rest =>
        have hname := (directory_of_append htree (hplace ▸ hstands ▸ Option.some_ne_none _)).2
        refine ⟨name, (hnames.mem name).2 hname, (mem_countedWithin_iff htree).2 ⟨⟨rest, ?_⟩, ?_⟩⟩
        · rw [hplace, List.append_cons]
        · exact ⟨contents, hsize, hstands⟩

/-! ## Walks -/

/-- A walk finds every regular file at or below a place once. -/
theorem Finds.perm (htree : tree.WellFormed) {place : Place} {found : List Counted}
    (h : Finds tree place found) : found.Perm (countedWithin tree place) := by
  induction h with
  | file place contents modified here =>
      refine (List.perm_ext_iff_of_nodup (List.nodup_singleton _) (nodup_counted htree _)).2 fun file => ?_
      rw [countedWithin_of_plain htree here (fun _ => Entry.noConfusion), List.mem_singleton]
      constructor
      · rintro rfl
        exact ⟨rfl, contents, rfl, here⟩
      · rintro ⟨rfl, _, hsize, hfile⟩
        rw [here] at hfile
        cases hfile
        rw [hsize]
  | directory place isSealed names found here lists below ih =>
      exact (List.Perm.flatMap_left names ih).trans (countedWithin_perm_flatMap htree here lists)
  | other place entry here noFile noDirectory =>
      have hnil : countedWithin tree place = [] := by
        refine List.eq_nil_iff_forall_not_mem.2 fun file hfile => ?_
        obtain ⟨hplace, contents, -, hstands⟩ := (countedWithin_of_plain htree here noDirectory).1 hfile
        rw [hplace, here] at hstands
        exact noFile _ _ (Option.some.inj hstands)
      rw [hnil]

/-- The names in a directory in the order of the entries. -/
def namesIn (tree : FileTree) (place : Place) : List String :=
  tree.entries.filterMap fun listed =>
    if listed.1.dropLast = place then listed.1.getLast? else none

theorem mem_namesIn {place : Place} {name : String} :
    name ∈ namesIn tree place ↔ ∃ entry, (place ++ [name], entry) ∈ tree.entries := by
  rw [namesIn, List.mem_filterMap]
  constructor
  · rintro ⟨⟨other, entry⟩, hmem, hname⟩
    rw [Option.ite_none_right_eq_some] at hname
    obtain ⟨hplace, hlast⟩ := hname
    refine ⟨entry, ?_⟩
    rwa [← hplace, List.dropLast_append_getLast? _ hlast]
  · rintro ⟨entry, hmem⟩
    exact ⟨_, hmem, by rw [List.dropLast_concat, if_pos rfl, List.getLast?_concat]⟩

/-- A directory can list its names in the order of the entries. -/
theorem lists_namesIn (htree : tree.WellFormed) (place : Place) :
    Lists tree place (namesIn tree place) where
  nodup := by
    have hentries := htree.nodup
    rw [List.Nodup, List.pairwise_map] at hentries
    refine hentries.filterMap _ ?_
    intro first second hne name hname name' hname' hsame
    rw [Option.ite_none_right_eq_some] at hname hname'
    obtain ⟨hplace, hlast⟩ := hname
    obtain ⟨hplace', hlast'⟩ := hname'
    apply hne
    rw [← List.dropLast_append_getLast? _ hlast, ← List.dropLast_append_getLast? _ hlast', hplace, hplace',
      hsame]
  mem name := by
    rw [mem_namesIn, Option.ne_none_iff_exists']
    refine exists_congr fun entry => ?_
    rw [htree.mem_entries_iff]
    exact and_iff_right (List.append_ne_nil_of_right_ne_nil _ (List.cons_ne_nil _ _))

/-- Nothing stands deeper than some depth. -/
theorem exists_depth (htree : tree.WellFormed) :
    ∃ depth, ∀ place, tree.entry? place ≠ none → place.length ≤ depth := by
  obtain ⟨depth, hdepth⟩ : ∃ depth, ∀ listed ∈ tree.entries, listed.1.length ≤ depth := by
    induction tree.entries with
    | nil => exact ⟨0, fun _ hmem => absurd hmem List.not_mem_nil⟩
    | cons first rest ih =>
        obtain ⟨depth, hrest⟩ := ih
        refine ⟨max first.1.length depth, fun listed hmem => ?_⟩
        rcases List.mem_cons.1 hmem with rfl | hmem
        · exact Nat.le_max_left _ _
        · exact Nat.le_trans (hrest listed hmem) (Nat.le_max_right _ _)
  refine ⟨depth, fun place hstands => ?_⟩
  obtain ⟨entry, hentry⟩ := Option.ne_none_iff_exists'.1 hstands
  by_cases hroot : place = []
  · rw [hroot]
    exact Nat.zero_le _
  · exact hdepth _ (htree.mem_entries_iff.2 ⟨hroot, hentry⟩)

/-- From whatever stands somewhere, there is a walk: it goes deeper with every step. -/
theorem exists_finds (htree : tree.WellFormed) {place : Place} {entry : Entry}
    (here : tree.entry? place = some entry) : ∃ found, Finds tree place found := by
  obtain ⟨depth, hdepth⟩ := exists_depth htree
  suffices h : ∀ left place, depth < place.length + left → tree.entry? place ≠ none →
      ∃ found, Finds tree place found from
    h _ place (Nat.lt_add_left _ (Nat.lt_succ_self _)) (here ▸ Option.some_ne_none _)
  intro left
  induction left with
  | zero =>
      intro place hplace hstands
      exact absurd (hdepth place hstands) (Nat.not_le.2 hplace)
  | succ left ih =>
      intro place hplace hstands
      obtain ⟨entry, here⟩ := Option.ne_none_iff_exists'.1 hstands
      have hlists := lists_namesIn htree place
      have hbelow : ∀ name, ∃ found, name ∈ namesIn tree place → Finds tree (place ++ [name]) found := by
        intro name
        by_cases hname : name ∈ namesIn tree place
        · obtain ⟨found, hfound⟩ := ih (place ++ [name])
            (by rw [List.length_append, List.length_singleton]; omega) ((hlists.mem name).1 hname)
          exact ⟨found, fun _ => hfound⟩
        · exact ⟨[], fun hmem => absurd hmem hname⟩
      cases entry with
      | file contents modified => exact ⟨_, .file place contents modified here⟩
      | directory isSealed =>
          obtain ⟨found, hfound⟩ := Classical.skolem.1 hbelow
          exact ⟨_, .directory place isSealed _ found here hlists hfound⟩
      | link target =>
          exact ⟨_, .other place _ here (fun _ _ => Entry.noConfusion) fun _ => Entry.noConfusion⟩
      | socket listener =>
          exact ⟨_, .other place _ here (fun _ _ => Entry.noConfusion) fun _ => Entry.noConfusion⟩
      | device =>
          exact ⟨_, .other place _ here (fun _ _ => Entry.noConfusion) fun _ => Entry.noConfusion⟩

end DeviceBus.Retention
