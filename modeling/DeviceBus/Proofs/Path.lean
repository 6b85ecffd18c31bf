import DeviceBus.Files.Tree
import Mathlib.Data.List.Basic

/-!
# Names in paths

A path is cut into pieces at its slashes, and its names are the pieces that hold something.  The name of a
file is a name that is not made of dots alone.

* `IsName`: a text that can stand as one name at the end of a path.
* `fileName?_of_getLast?`: a path whose last name is one ends in it.
* `pathNames_join`: joining such a name adds it behind the names of the path.
-/

namespace DeviceBus

namespace Path

/-! ## Pieces -/

theorem pieces_ne_nil (cs : List Char) : pieces cs ≠ [] := by
  cases cs with
  | nil => exact List.cons_ne_nil _ _
  | cons c rest =>
      rw [pieces]
      split
      · exact List.cons_ne_nil _ _
      · split
        · exact List.cons_ne_nil _ _
        · exact List.cons_ne_nil _ _

/-- A slash ends the pieces before it and begins those behind it. -/
theorem pieces_append_slash (first second : List Char) :
    pieces (first ++ '/' :: second) = pieces first ++ pieces second := by
  induction first with
  | nil => simp [pieces]
  | cons c rest ih =>
      by_cases hslash : c = '/'
      · simp [pieces, hslash, ih]
      · obtain ⟨piece, others, hpieces⟩ := List.exists_cons_of_ne_nil (pieces_ne_nil rest)
        simp [pieces, hslash, ih, hpieces]

/-- Text without a slash is one piece. -/
theorem pieces_of_not_mem {cs : List Char} (h : '/' ∉ cs) : pieces cs = [cs] := by
  induction cs with
  | nil => rfl
  | cons c rest ih =>
      rw [List.mem_cons, not_or] at h
      simp [pieces, Ne.symm h.1, ih h.2]

/-- A piece has its characters from the text, and no slash. -/
theorem mem_of_mem_pieces {cs piece : List Char} (hpiece : piece ∈ pieces cs) {c : Char}
    (hc : c ∈ piece) : c ∈ cs ∧ c ≠ '/' := by
  induction cs generalizing piece with
  | nil =>
      rw [pieces, List.mem_singleton] at hpiece
      subst hpiece
      exact absurd hc List.not_mem_nil
  | cons first rest ih =>
      rw [pieces] at hpiece
      split at hpiece
      · rcases List.mem_cons.1 hpiece with rfl | hpiece
        · exact absurd hc List.not_mem_nil
        · exact (ih hpiece hc).imp (List.mem_cons_of_mem _) id
      · obtain ⟨front, others, hpieces⟩ := List.exists_cons_of_ne_nil (pieces_ne_nil rest)
        rw [hpieces] at hpiece ih
        rcases List.mem_cons.1 hpiece with rfl | hpiece
        · rcases List.mem_cons.1 hc with rfl | hc
          · exact ⟨List.mem_cons_self, ‹_›⟩
          · exact (ih List.mem_cons_self hc).imp (List.mem_cons_of_mem _) id
        · exact (ih (List.mem_cons_of_mem _ hpiece) hc).imp (List.mem_cons_of_mem _) id

/-! ## Names -/

/-- A text that names something in a directory. -/
structure IsName (name : String) : Prop where
  nonempty : name ≠ ""
  current : name ≠ "."
  up : name ≠ ".."
  slash : '/' ∉ name.toList

/-- The piece that a name is. -/
theorem IsName.ofPiece? {piece : List Char} (h : IsName (String.ofList piece)) :
    Component.ofPiece? piece = some (.name (String.ofList piece)) := by
  have hnil : piece ≠ [] := fun heq => h.nonempty (by rw [heq])
  have hdot : piece ≠ ['.'] := fun heq => h.current (by rw [heq])
  have hdots : piece ≠ ['.', '.'] := fun heq => h.up (by rw [heq])
  simp [Component.ofPiece?, hnil, hdot, hdots]

/-- The last piece that holds something stands before empty ones only. -/
theorem exists_of_getLast?_filter {pieces : List (List Char)} {piece : List Char}
    (h : (pieces.filter (· ≠ [])).getLast? = some piece) :
    ∃ before behind, pieces = before ++ piece :: behind ∧ piece ≠ [] ∧ ∀ other ∈ behind, other = [] := by
  obtain ⟨front, hfront⟩ := List.getLast?_eq_some_iff.1 h
  obtain ⟨left, right, rfl, -, hright⟩ := List.filter_eq_append_iff.1 hfront
  obtain ⟨gap, behind, rfl, -, hpiece, hbehind⟩ := List.filter_eq_cons_iff.1 hright
  refine ⟨left ++ gap, behind, by simp, by simpa using hpiece, ?_⟩
  intro other hmem
  simpa using List.filter_eq_nil_iff.1 hbehind other hmem

/-- Empty pieces are no components. -/
theorem filterMap_ofPiece?_of_empty {pieces : List (List Char)} (h : ∀ piece ∈ pieces, piece = []) :
    pieces.filterMap Component.ofPiece? = [] := by
  rw [List.filterMap_eq_nil_iff]
  intro piece hmem
  rw [h piece hmem]
  rfl

/-- Nothing is cut off at the end of a path that does not end in a slash. -/
theorem withoutSlashes_of_not_endsInSlash {path : String} (h : endsInSlash path = false) :
    withoutSlashes path = path := by
  have hlast : path.toList.reverse.head? ≠ some '/' := by
    rw [List.head?_reverse]
    exact of_decide_eq_false h
  have hkept : path.toList.reverse.dropWhile (· = '/') = path.toList.reverse := by
    cases hreversed : path.toList.reverse with
    | nil => rfl
    | cons c rest =>
        have hc : c ≠ '/' := fun heq => hlast (by rw [hreversed, heq]; rfl)
        rw [List.dropWhile_cons, if_neg (by simpa using hc)]
  rw [withoutSlashes, hkept, List.reverse_reverse, String.ofList_toList]

end Path

namespace FileTree

open DeviceBus.Path

/-- The names of a path hold none of its slashes, and something. -/
theorem of_mem_pathNames {path name : String} (h : name ∈ pathNames path) :
    name ≠ "" ∧ ∀ c ∈ name.toList, c ∈ path.toList ∧ c ≠ '/' := by
  rw [pathNames, List.mem_map] at h
  obtain ⟨piece, hmem, rfl⟩ := h
  rw [List.mem_filter] at hmem
  constructor
  · intro hempty
    have hnil : piece = [] := String.ofList_eq_empty_iff.1 hempty
    simp [hnil] at hmem
  · intro c hc
    rw [String.toList_ofList] at hc
    exact mem_of_mem_pieces hmem.1 hc

/-- A path whose last name is not made of dots ends in that name. -/
theorem fileName?_of_getLast? {path name : String} (hlast : (pathNames path).getLast? = some name)
    (hcurrent : name ≠ ".") (hup : name ≠ "..") : fileName? path = some name ∧ IsName name := by
  obtain ⟨hempty, hchars⟩ := of_mem_pathNames (List.mem_of_getLast? hlast)
  have hname : IsName name := ⟨hempty, hcurrent, hup, fun hslash => (hchars _ hslash).2 rfl⟩
  refine ⟨?_, hname⟩
  rw [pathNames, List.getLast?_map, Option.map_eq_some_iff] at hlast
  obtain ⟨piece, hpiece, rfl⟩ := hlast
  obtain ⟨before, behind, hpieces, -, hbehind⟩ := exists_of_getLast?_filter hpiece
  have hcomponent := hname.ofPiece?
  rw [fileName?, components, hpieces]
  cases before with
  | nil =>
      have hnil : piece ≠ [] := fun heq => hempty (by rw [heq])
      have hdot : piece ≠ ['.'] := fun heq => hcurrent (by rw [heq])
      simp [hnil, hdot, hcomponent, filterMap_ofPiece?_of_empty hbehind]
  | cons first others =>
      simp [hcomponent, filterMap_ofPiece?_of_empty hbehind]

/-- Joining a name to a path adds it behind the names of the path. -/
theorem pathNames_join {base name : String} (hbase : base ≠ "") (hname : IsName name) :
    pathNames (join base name) = pathNames base ++ [name] := by
  have habsolute : isAbsolute name = false := by
    rw [isAbsolute, decide_eq_false_iff_not]
    intro hhead
    exact hname.slash (List.mem_of_head? hhead)
  have hpieces : pieces name.toList = [name.toList] := pieces_of_not_mem hname.slash
  have hnil : name.toList ≠ [] := fun heq => hname.nonempty (String.toList_eq_nil_iff.1 heq)
  rw [join, habsolute, if_neg Bool.false_ne_true, if_neg hbase]
  split
  · rename_i hslash
    obtain ⟨front, hfront⟩ := List.getLast?_eq_some_iff.1 hslash
    rw [pathNames, pathNames, String.toList_append, hfront, List.append_assoc, List.singleton_append,
      pieces_append_slash, pieces_append_slash, hpieces]
    simp [pieces, hnil]
  · rw [pathNames, pathNames, String.toList_append, String.toList_append, List.append_assoc]
    rw [show "/".toList ++ name.toList = '/' :: name.toList from rfl, pieces_append_slash, hpieces]
    simp [hnil]

end FileTree

end DeviceBus
