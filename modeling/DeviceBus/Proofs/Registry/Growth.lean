import DeviceBus.Proofs.Registry.Lookup
import Mathlib.Order.Bounds.Basic

/-!
# How a registry grows

Topics are registered one after the other and never taken back, so a registry only grows: an entry stands at
its index for good, and a lookup that has found something finds the same for ever.  The room for entries is
doubled whenever it is used up, so it is never more than twice what is needed.

* `Grows`: every entry of one registry stands in another at the same index; what follows for indices
  (`Grows.entry_eq`, `Grows.handler_eq`) and for lookups (`Grows.find_eq`).
* `grows_add`, `grows_addAll`: calls make a registry grow, whether they are accepted or not.
* `Doubled`, `doubled_add`, `Doubled.isLeast`: the capacity is the least power of two that is enough.
* `growth_by_calls`: what any sequence of calls answers, and what it leaves behind.
-/

namespace DeviceBus.Registry

variable {η : Type}

/-! ## Entries stay -/

/-- Every entry of one registry stands in another at the same index. -/
def Grows (before after : Registry η) : Prop := before.entries <+: after.entries

namespace Grows

variable {before after : Registry η}

theorem refl (registry : Registry η) : registry.Grows registry := List.prefix_refl _

/-- An entry stays at its index. -/
theorem entry_eq (h : before.Grows after) {index : Nat} {entry : Entry η}
    (hentry : before.entry? index = some entry) : after.entry? index = some entry := by
  obtain ⟨more, hmore⟩ := h
  obtain ⟨hinside, -⟩ := List.getElem?_eq_some_iff.1 hentry
  rw [Registry.entry?, ← hmore, List.getElem?_append_left hinside]
  exact hentry

/-- A handler stays bound to its index. -/
theorem handler_eq (h : before.Grows after) {index : Nat} (hinside : index < before.size) :
    after.handler? index = before.handler? index := by
  have hentry : before.entry? index = some before.entries[index] := List.getElem?_eq_getElem hinside
  rw [Registry.handler?, Registry.handler?, hentry, h.entry_eq hentry]

/-- What was found is found again. -/
theorem find_eq (h : before.Grows after) {head method : String} {index : Nat}
    (hfound : before.find? head method = some index) : after.find? head method = some index := by
  obtain ⟨more, hmore⟩ := h
  rw [Registry.find?] at hfound ⊢
  rw [← hmore, List.findIdx?_append, hfound, Option.some_or]

end Grows

/-- A lookup gives the index of an entry. -/
theorem lt_size_of_find? {registry : Registry η} {head method : String} {index : Nat}
    (hfound : registry.find? head method = some index) : index < registry.size :=
  (List.findIdx?_eq_some_iff_getElem.1 hfound).1

theorem grows_push (registry : Registry η) (head method : String) (handler : Option η) :
    registry.Grows (registry.push head method handler) := List.prefix_append _ _

/-- A call makes a registry grow. -/
theorem grows_add (registry : Registry η) (head method : String) (handler : Option η) :
    registry.Grows (registry.add head method handler).2 := by
  obtain ⟨-, hadd⟩ | ⟨fault, -, hadd⟩ := registry.add_cases head method handler
  · rw [hadd]
    exact registry.grows_push head method handler
  · rw [hadd]
    exact Grows.refl registry

/-- Calls make a registry grow. -/
theorem grows_addAll (registry : Registry η) (additions : List (Addition η)) :
    registry.Grows (registry.addAll additions) := by
  rw [Grows, entries_addAll]
  exact List.prefix_append _ _

/-! ## What a call answers -/

/-- A call is accepted exactly if its pair has no fault, and it answers with the index of its entry. -/
theorem fst_add_eq_ok_iff (registry : Registry η) (head method : String) (handler : Option η)
    (index : Nat) :
    (registry.add head method handler).1 = .ok index ↔
      Topic.fault? head method = none ∧ index = registry.size := by
  obtain ⟨hfault, hadd⟩ | ⟨fault, hfault, hadd⟩ := registry.add_cases head method handler
  · rw [hadd, hfault]
    simp [eq_comm]
  · simp [hadd, hfault]

/-- The entry of an accepted call stands at the index that was the answer. -/
theorem entry_of_add {registry : Registry η} {head method : String} {handler : Option η} {index : Nat}
    (hanswer : (registry.add head method handler).1 = .ok index) :
    entry? (registry.add head method handler).2 index =
      some ⟨method, Topic.compose head method, handler⟩ := by
  obtain ⟨hfault, rfl⟩ := (fst_add_eq_ok_iff _ _ _ _ _).1 hanswer
  obtain ⟨-, hadd⟩ | ⟨fault, hfault', -⟩ := registry.add_cases head method handler
  · rw [hadd]
    exact List.getElem?_concat_length
  · rw [hfault] at hfault'
    cases hfault'

/-- A call that is refused changes nothing. -/
theorem add_eq_self_of_error {registry : Registry η} {head method : String} {handler : Option η}
    {error : BusError} (hanswer : (registry.add head method handler).1 = .error error) :
    (registry.add head method handler).2 = registry := by
  obtain ⟨-, hadd⟩ | ⟨fault, -, hadd⟩ := registry.add_cases head method handler
  · rw [hadd] at hanswer
    cases hanswer
  · rw [hadd]

/-- What some calls answer, one after the other. -/
def answers (registry : Registry η) : List (Addition η) → List (Except BusError Nat)
  | [] => []
  | addition :: additions =>
      let (answer, registry) := registry.add addition.head addition.method addition.handler
      answer :: registry.answers additions

/-! ## The room for entries -/

/-- The room is enough; and it is either none, or a power of two that is less than twice what is needed. -/
structure Doubled (registry : Registry η) : Prop where
  fits : registry.size ≤ registry.capacity
  tight : registry.capacity = 0 ∨
    registry.capacity.isPowerOfTwo ∧ registry.capacity < 2 * registry.size

theorem doubled_empty : Doubled (∅ : Registry η) := ⟨Nat.le_refl 0, .inl rfl⟩

theorem size_push (registry : Registry η) (head method : String) (handler : Option η) :
    (registry.push head method handler).size = registry.size + 1 :=
  List.length_append

/-- One more entry leaves the room as it is, or doubles it where it was used up. -/
theorem doubled_push {registry : Registry η} (h : registry.Doubled) (head method : String)
    (handler : Option η) : (registry.push head method handler).Doubled := by
  have hfits := h.fits
  have hsize := registry.size_push head method handler
  have hcapacity : (registry.push head method handler).capacity = registry.grownCapacity := rfl
  by_cases hfull : registry.size = registry.capacity
  · rw [grownCapacity, if_pos hfull] at hcapacity
    obtain hnone | ⟨hpower, -⟩ := h.tight
    · -- the first entry
      rw [hnone] at hfull hcapacity
      have hone : (registry.push head method handler).capacity = 1 := hcapacity
      exact ⟨by omega, .inr ⟨hone ▸ Nat.isPowerOfTwo_one, by omega⟩⟩
    · have hpositive := Nat.pos_of_isPowerOfTwo hpower
      have htwice : (registry.push head method handler).capacity = registry.capacity * 2 := by omega
      refine ⟨by omega, .inr ⟨?_, by omega⟩⟩
      rw [htwice]
      exact Nat.isPowerOfTwo_mul_two_of_isPowerOfTwo hpower
  · rw [grownCapacity, if_neg hfull] at hcapacity
    obtain hnone | ⟨hpower, htight⟩ := h.tight
    · omega
    · exact ⟨by omega, .inr ⟨hcapacity ▸ hpower, by omega⟩⟩

/-- The first power of two that is enough is what a registry that is not empty has room for. -/
theorem Doubled.isLeast {registry : Registry η} (h : registry.Doubled) (hsome : 0 < registry.size) :
    IsLeast {room | room.isPowerOfTwo ∧ registry.size ≤ room} registry.capacity := by
  have hfits := h.fits
  obtain hnone | ⟨⟨exponent, hpower⟩, htight⟩ := h.tight
  · omega
  refine ⟨⟨⟨exponent, hpower⟩, hfits⟩, ?_⟩
  rintro room ⟨⟨other, rfl⟩, henough⟩
  -- half the capacity is not enough, so no smaller exponent is
  have hlt : 2 ^ exponent < 2 ^ (other + 1) := by
    rw [← hpower, Nat.pow_succ]
    omega
  have hle : exponent ≤ other :=
    Nat.le_of_lt_succ ((Nat.pow_lt_pow_iff_right (by decide)).1 hlt)
  rw [hpower]
  exact Nat.pow_le_pow_right (by decide) hle

/-- A call adds one to the size if it is accepted, and keeps the room as it should be. -/
theorem doubled_add {registry : Registry η} (h : registry.Doubled) (head method : String)
    (handler : Option η) :
    (registry.add head method handler).2.Doubled ∧
      (registry.add head method handler).2.size =
        registry.size + (registry.add head method handler).1.isOk.toNat := by
  obtain ⟨-, hadd⟩ | ⟨fault, -, hadd⟩ := registry.add_cases head method handler
  · rw [hadd]
    exact ⟨doubled_push h head method handler, registry.size_push head method handler⟩
  · rw [hadd]
    exact ⟨h, rfl⟩

/-- After some calls a registry has one more entry for each that was accepted, and room as it should be. -/
theorem doubled_addAll {registry : Registry η} (h : registry.Doubled) (additions : List (Addition η)) :
    (registry.addAll additions).Doubled ∧
      (registry.addAll additions).size =
        registry.size + (registry.answers additions).countP Except.isOk := by
  induction additions generalizing registry with
  | nil => exact ⟨h, rfl⟩
  | cons addition additions ih =>
      obtain ⟨hstep, hsize⟩ := doubled_add h addition.head addition.method addition.handler
      obtain ⟨hrest, hall⟩ := ih hstep
      refine ⟨hrest, ?_⟩
      rw [addAll_cons, hall, hsize, answers, List.countP_cons]
      cases (registry.add addition.head addition.method addition.handler).1.isOk
      all_goals simp only [Bool.toNat_true, Bool.toNat_false, if_true, Bool.false_eq_true, if_false]
      all_goals omega

/-! ## Any calls -/

/-- **What calls leave behind.**  Let a registry be filled by any sequence of calls, with any texts, valid or
not, and with handlers or without.  Then

* the next call is accepted exactly if both parts are there, hold neither the zero character nor a slash, and
  keep to 31 bytes for the method and 127 for the whole topic;
* a call that is accepted answers with the size so far, and whatever is called later, its method, its topic and
  its handler stay at that index;
* a call that is refused changes nothing;
* there are as many entries as calls were accepted, and the capacity is zero without entries and otherwise the
  least power of two that is not below their number. -/
theorem growth_by_calls (additions : List (Addition η)) :
    let registry := (∅ : Registry η).addAll additions
    let accepted := ((∅ : Registry η).answers additions).countP Except.isOk
    (∀ head method handler,
      ((∃ index, (registry.add head method handler).1 = .ok index) ↔
        (head ≠ "" ∧ method ≠ "") ∧ ('\x00' ∉ head.toList ∧ '\x00' ∉ method.toList) ∧
          ('/' ∉ head.toList ∧ '/' ∉ method.toList) ∧ method.utf8ByteSize ≤ 31 ∧
            (Topic.compose head method).utf8ByteSize ≤ 127) ∧
      (∀ index, (registry.add head method handler).1 = .ok index →
        index = registry.size ∧ ∀ later,
          entry? ((registry.add head method handler).2.addAll later) index =
            some ⟨method, Topic.compose head method, handler⟩) ∧
      (∀ error, (registry.add head method handler).1 = .error error →
        (registry.add head method handler).2 = registry)) ∧
    registry.size = accepted ∧
    (accepted = 0 → registry.capacity = 0) ∧
    (0 < accepted → IsLeast {room | room.isPowerOfTwo ∧ accepted ≤ room} registry.capacity) ∧
    registry.size ≤ registry.capacity := by
  intro registry accepted
  obtain ⟨hdoubled, hsize⟩ : registry.Doubled ∧ registry.size = 0 + accepted :=
    doubled_addAll doubled_empty additions
  rw [Nat.zero_add] at hsize
  refine ⟨fun head method handler => ⟨?_, fun index hanswer => ?_, fun _ => add_eq_self_of_error⟩,
    hsize, fun hnone => ?_, fun hsome => ?_, hdoubled.fits⟩
  · have hlength : (Topic.compose head method).utf8ByteSize =
        head.utf8ByteSize + 1 + method.utf8ByteSize := by
      rw [Topic.compose, String.utf8ByteSize_append, String.utf8ByteSize_append]
      rfl
    rw [hlength]
    simp only [fst_add_eq_ok_iff, exists_and_left, exists_eq, and_true]
    exact Topic.fault?_eq_none_iff head method
  · refine ⟨((fst_add_eq_ok_iff _ _ _ _ _).1 hanswer).2, fun later => ?_⟩
    exact (grows_addAll _ later).entry_eq (entry_of_add hanswer)
  · obtain hzero | ⟨-, htight⟩ := hdoubled.tight
    · exact hzero
    · omega
  · rw [← hsize] at hsome ⊢
    exact hdoubled.isLeast hsome

/-- Of four calls one is refused, and there is room for four entries where there are three. -/
example :
    let registry := (∅ : Registry Nat).addAll
      [⟨"cam", "report", none⟩, ⟨"cam", "", none⟩, ⟨"hub", "report", none⟩, ⟨"kvs", "report", none⟩]
    registry.size = 3 ∧ registry.capacity = 4 := by
  decide +kernel

end DeviceBus.Registry
