import DeviceBus.Text.Blank
import Mathlib.Data.List.Basic

/-!
# Text as lists of characters

What reads a text takes off something known in front of it, or blanks on both sides.  Both are told on the
list of its characters.

* `isPrefixOf?_toList_eq_some_iff`: what is left behind a known beginning.
* `trimBlank_between`, `exists_trimBlank`: trimming takes away the blanks at the ends, and those only.
-/

namespace DeviceBus.Text

/-- What is behind a known beginning. -/
theorem isPrefixOf?_toList_eq_some_iff {beginning text : String} {rest : List Char} :
    beginning.toList.isPrefixOf? text.toList = some rest ↔ text = beginning ++ String.ofList rest := by
  rw [List.isPrefixOf?_eq_some_iff_append_eq, ← String.toList_inj, String.toList_append,
    String.toList_ofList]
  exact eq_comm

/-! ## Blanks -/

/-- Digits are not blank. -/
theorem isBlank_of_isDigit {c : Char} (h : c.isDigit = true) : isBlank c = false := by
  have hbounds := Char.isDigit_iff_toNat.1 h
  have hzero : '0'.toNat = 48 := rfl
  have hnine : '9'.toNat = 57 := rfl
  have hspace : c ≠ ' ' := by
    rintro rfl
    exact absurd h (by decide)
  simp only [isBlank, Bool.or_eq_false_iff, Bool.and_eq_false_iff, decide_eq_false_iff_not]
  refine ⟨⟨⟨⟨⟨⟨⟨⟨⟨⟨?_, hspace⟩, ?_⟩, ?_⟩, ?_⟩, ?_⟩, ?_⟩, ?_⟩, ?_⟩, ?_⟩, ?_⟩
  all_goals omega

/-- No blank is taken away in front of text that does not begin with one. -/
theorem dropWhile_isBlank_append {core back : List Char} (hcore : ∀ c ∈ core, isBlank c = false)
    (hnonempty : core ≠ []) : (core ++ back).dropWhile isBlank = core ++ back := by
  obtain ⟨c, rest, rfl⟩ := List.exists_cons_of_ne_nil hnonempty
  rw [List.cons_append, List.dropWhile_cons, hcore c List.mem_cons_self, if_neg Bool.false_ne_true]

/-- Text between blank characters, without the blank ones at its ends, is what is left by trimming. -/
theorem trimBlank_between {front core back : List Char} (hfront : ∀ c ∈ front, isBlank c = true)
    (hcore : ∀ c ∈ core, isBlank c = false) (hnonempty : core ≠ [])
    (hback : ∀ c ∈ back, isBlank c = true) : trimBlank (front ++ core ++ back) = core := by
  rw [trimBlank, List.append_assoc, List.dropWhile_append_of_pos hfront,
    dropWhile_isBlank_append hcore hnonempty, List.reverse_append,
    List.dropWhile_append_of_pos fun c hmem => hback c (List.mem_reverse.1 hmem)]
  rw [← List.append_nil core.reverse,
    dropWhile_isBlank_append (fun c hmem => hcore c (List.mem_reverse.1 hmem))
      (List.reverse_ne_nil_iff.2 hnonempty),
    List.append_nil, List.reverse_reverse]

/-- Text without blank characters is not trimmed. -/
theorem trimBlank_of_not_blank {cs : List Char} (h : ∀ c ∈ cs, isBlank c = false) (hnonempty : cs ≠ []) :
    trimBlank cs = cs := by
  have hnone : ∀ c ∈ ([] : List Char), isBlank c = true := fun _ hmem => absurd hmem List.not_mem_nil
  have htrim := trimBlank_between hnone h hnonempty hnone
  rwa [List.nil_append, List.append_nil] at htrim

/-- What trimming takes away is blank and stands at the ends. -/
theorem exists_trimBlank (cs : List Char) : ∃ front back, cs = front ++ trimBlank cs ++ back ∧
    (∀ c ∈ front, isBlank c = true) ∧ ∀ c ∈ back, isBlank c = true := by
  refine ⟨cs.takeWhile isBlank, ((cs.dropWhile isBlank).reverse.takeWhile isBlank).reverse, ?_, ?_, ?_⟩
  · rw [trimBlank, List.append_assoc, ← List.reverse_append, List.takeWhile_append_dropWhile,
      List.reverse_reverse, List.takeWhile_append_dropWhile]
  · exact fun c hmem => List.all_eq_true.1 List.all_takeWhile c hmem
  · intro c hmem
    exact List.all_eq_true.1 List.all_takeWhile c (List.mem_reverse.1 hmem)

end DeviceBus.Text
