import DeviceBus.Number.Integer
import Mathlib.Data.Nat.Basic

/-!
# Numbers written and read back

A number is written in decimal digits, and reading them gives the number back, if it is within the bound.

* `digitsFrom?_eq`: what a string of decimal digits stands for.
* `Spells`, `unsigned?_eq_some_iff`: how a number can be spelled, and that it is read if it is spelled so.
* `unsigned?_repr`: a number within the bound is read back from how it is written.
-/

namespace DeviceBus.Number

/-- The value of a decimal digit. -/
theorem digitValue?_of_isDigit {c : Char} (h : c.isDigit = true) :
    digitValue? 10 c = some (c.toNat - '0'.toNat) := by
  have hbounds := Char.isDigit_iff_toNat.1 h
  have hle : '0' ≤ c ∧ c ≤ '9' := ⟨hbounds.1, hbounds.2⟩
  rw [digitValue?, if_pos hle, if_pos]
  have hnine : '9'.toNat = 57 := rfl
  have hzero : '0'.toNat = 48 := rfl
  omega

/-- Digits are read one after the other, each counting ten times less than the one before. -/
theorem digitsFrom?_eq {cs : List Char} (h : ∀ c ∈ cs, c.isDigit = true) (read : Nat) :
    digitsFrom? 10 read cs = some (Nat.ofDigitChars 10 cs read) := by
  induction cs generalizing read with
  | nil => rw [digitsFrom?, Nat.ofDigitChars_nil]
  | cons c rest ih =>
      rw [digitsFrom?, digitValue?_of_isDigit (h c List.mem_cons_self), Nat.ofDigitChars_cons,
        Nat.mul_comm 10 read]
      exact ih (fun d hmem => h d (List.mem_cons_of_mem _ hmem)) _

/-- Nothing but a decimal digit has a value. -/
theorem isDigit_of_digitValue? {c : Char} {value : Nat} (h : digitValue? 10 c = some value) :
    c.isDigit = true := by
  by_cases hdigit : '0' ≤ c ∧ c ≤ '9'
  · exact Char.isDigit_iff_toNat.2 hdigit
  · -- a letter stands for ten or more, and any other character for the radix itself
    have hlarge : ∀ first : Nat, ¬c.toNat - first + 10 < 10 := fun _ => by omega
    rw [digitValue?, if_neg hdigit] at h
    split at h
    · rw [if_neg (hlarge _)] at h
      cases h
    · split at h
      · rw [if_neg (hlarge _)] at h
        cases h
      · rw [if_neg (Nat.lt_irrefl 10)] at h
        cases h

theorem isDigit_of_digitsFrom? {cs : List Char} {read value : Nat}
    (h : digitsFrom? 10 read cs = some value) : ∀ c ∈ cs, c.isDigit = true := by
  induction cs generalizing read with
  | nil => exact fun _ hmem => absurd hmem List.not_mem_nil
  | cons c rest ih =>
      rw [digitsFrom?] at h
      split at h
      · cases h
      · rename_i digit hdigit
        intro d hmem
        rcases List.mem_cons.1 hmem with rfl | hmem
        · exact isDigit_of_digitValue? hdigit
        · exact ih h d hmem

/-- A string of decimal digits, at least one of them, that stands for a number. -/
structure IsDecimal (cs : List Char) (value : Nat) : Prop where
  nonempty : cs ≠ []
  digits : ∀ c ∈ cs, c.isDigit = true
  value : Nat.ofDigitChars 10 cs 0 = value

theorem digits?_eq_some_iff {cs : List Char} {value : Nat} :
    digits? 10 cs = some value ↔ IsDecimal cs value := by
  cases cs with
  | nil =>
      constructor
      · intro h
        cases h
      · intro h
        exact absurd rfl h.nonempty
  | cons c rest =>
      rw [digits?]
      constructor
      · intro h
        have hdigits := isDigit_of_digitsFrom? h
        rw [digitsFrom?_eq hdigits] at h
        exact ⟨List.cons_ne_nil _ _, hdigits, Option.some.inj h⟩
      · intro h
        rw [digitsFrom?_eq h.digits, h.value]

/-- How a number without minus sign can be spelled: in decimal digits, and a plus sign may stand in front. -/
def Spells (cs : List Char) (value : Nat) : Prop :=
  ∃ digits, IsDecimal digits value ∧ (cs = digits ∨ cs = '+' :: digits)

theorem Spells.nonempty {cs : List Char} {value : Nat} (h : Spells cs value) : cs ≠ [] := by
  obtain ⟨digits, hdigits, rfl | rfl⟩ := h
  · exact hdigits.nonempty
  · exact List.cons_ne_nil _ _

theorem Spells.mem {cs : List Char} {value : Nat} (h : Spells cs value) {c : Char} (hmem : c ∈ cs) :
    c.isDigit = true ∨ c = '+' := by
  obtain ⟨digits, hdigits, rfl | rfl⟩ := h
  · exact .inl (hdigits.digits c hmem)
  · rcases List.mem_cons.1 hmem with rfl | hmem
    · exact .inr rfl
    · exact .inl (hdigits.digits c hmem)

/-- Digits are read as a number within the bound. -/
def within? (bound : Nat) (digits : List Char) : Option Nat :=
  (digits? 10 digits).bind fun value => if value ≤ bound then some value else none

theorem within?_eq_some_iff {bound value : Nat} {digits : List Char} :
    within? bound digits = some value ↔ IsDecimal digits value ∧ value ≤ bound := by
  rw [within?, ← digits?_eq_some_iff]
  cases digits? 10 digits with
  | none => simp
  | some read => grind

/-- A number is read from the digits behind a plus sign, or from all of it. -/
theorem unsigned?_cases (bound : Nat) (cs : List Char) :
    (∃ rest, cs = '+' :: rest ∧ unsigned? bound cs = within? bound rest) ∨
      (∀ rest, cs ≠ '+' :: rest) ∧ unsigned? bound cs = within? bound cs := by
  by_cases hsign : ∃ rest, cs = '+' :: rest
  · obtain ⟨rest, rfl⟩ := hsign
    refine .inl ⟨rest, rfl, ?_⟩
    rw [unsigned?, within?]
    cases digits? 10 rest with
    | none => rfl
    | some value => rfl
  · have hnone : ∀ rest, cs ≠ '+' :: rest := fun rest heq => hsign ⟨rest, heq⟩
    refine .inr ⟨hnone, ?_⟩
    rw [unsigned?, within?]
    · cases digits? 10 cs with
      | none => rfl
      | some value => rfl
    · exact hnone

/-- A number is read exactly if it is spelled and within the bound. -/
theorem unsigned?_eq_some_iff {bound value : Nat} {cs : List Char} :
    unsigned? bound cs = some value ↔ Spells cs value ∧ value ≤ bound := by
  rcases unsigned?_cases bound cs with ⟨rest, rfl, hread⟩ | ⟨hsign, hread⟩
  · rw [hread, within?_eq_some_iff]
    refine and_congr_left fun _ => ⟨fun h => ⟨rest, h, .inr rfl⟩, ?_⟩
    rintro ⟨digits, hdigits, rfl | hsigned⟩
    · exact absurd (hdigits.digits '+' List.mem_cons_self) (by decide)
    · rwa [(List.cons.inj hsigned).2]
  · rw [hread, within?_eq_some_iff]
    refine and_congr_left fun _ => ⟨fun h => ⟨cs, h, .inl rfl⟩, ?_⟩
    rintro ⟨digits, hdigits, rfl | hsigned⟩
    · exact hdigits
    · exact absurd hsigned (hsign digits)

theorem isDigit_of_mem_repr {n : Nat} {c : Char} (h : c ∈ (toString n).toList) : c.isDigit = true := by
  rw [Nat.toString_eq_repr, Nat.toList_repr] at h
  exact Nat.isDigit_of_mem_toDigits (by decide) (by decide) h

theorem repr_ne_nil (n : Nat) : (toString n).toList ≠ [] := by
  rw [Nat.toString_eq_repr, Nat.toList_repr]
  exact Nat.toDigits_ne_nil

/-- A number is read back from its digits. -/
theorem digits?_repr (n : Nat) : digits? 10 (toString n).toList = some n := by
  obtain ⟨c, rest, hcons⟩ := List.exists_cons_of_ne_nil (repr_ne_nil n)
  have hdigits : digitsFrom? 10 0 (toString n).toList = some n := by
    rw [digitsFrom?_eq (fun _ => isDigit_of_mem_repr), Nat.toString_eq_repr, Nat.toList_repr,
      Nat.ofDigitChars_ten_toDigits]
  rw [hcons] at hdigits ⊢
  exact hdigits

/-- A number within the bound is read back from how it is written. -/
theorem unsigned?_repr {bound n : Nat} (h : n ≤ bound) :
    unsigned? bound (toString n).toList = some n := by
  rw [unsigned?, digits?_repr]
  · exact if_pos h
  · intro rest heq
    have hplus : '+'.isDigit = true := isDigit_of_mem_repr (by rw [heq]; exact List.mem_cons_self)
    exact absurd hplus (by decide)

end DeviceBus.Number
