import DeviceBus.Filters
import Mathlib.Tactic.ByContra

/-!
# Bytes as lists

Bodies, frames and buffers are arrays of bytes; their theory is told on lists.  `bytesOf` is the list of
the bytes of an array.  Each operation on arrays has one equation here that says what it does to the list,
and `beginsWith`, the test of the filters, is the prefix order on lists.
-/

namespace DeviceBus

/-- The bytes of an array, one after the other. -/
def bytesOf (array : ByteArray) : List UInt8 := array.data.toList

@[simp] theorem bytesOf_empty : bytesOf .empty = [] := rfl

@[simp] theorem bytesOf_append (first second : ByteArray) :
    bytesOf (first ++ second) = bytesOf first ++ bytesOf second := by
  simp [bytesOf]

@[simp] theorem bytesOf_push (array : ByteArray) (byte : UInt8) :
    bytesOf (array.push byte) = bytesOf array ++ [byte] := by
  simp [bytesOf]

@[simp] theorem length_bytesOf (array : ByteArray) : (bytesOf array).length = array.size := by
  rw [bytesOf, Array.length_toList]
  rfl

@[simp] theorem bytesOf_mk (array : Array UInt8) : bytesOf ⟨array⟩ = array.toList := rfl

theorem bytesOf_injective {first second : ByteArray} (h : bytesOf first = bytesOf second) :
    first = second := by
  apply ByteArray.ext
  exact Array.toList_inj.1 h

theorem bytesOf_inj {first second : ByteArray} : bytesOf first = bytesOf second ↔ first = second :=
  ⟨bytesOf_injective, congrArg bytesOf⟩

theorem bytesOf_extract (array : ByteArray) (start stop : Nat) :
    bytesOf (array.extract start stop) = ((bytesOf array).drop start).take (stop - start) := by
  simp [bytesOf, ByteArray.data_extract, List.extract_eq_take_drop]

/-- The first bytes of an array. -/
@[simp] theorem bytesOf_extract_zero (array : ByteArray) (stop : Nat) :
    bytesOf (array.extract 0 stop) = (bytesOf array).take stop := by
  rw [bytesOf_extract, List.drop_zero, Nat.sub_zero]

/-- What an array holds from some position on. -/
@[simp] theorem bytesOf_extract_size (array : ByteArray) (start : Nat) :
    bytesOf (array.extract start array.size) = (bytesOf array).drop start := by
  rw [bytesOf_extract, ← length_bytesOf, ← List.length_drop, List.take_length]

theorem getElem_bytesOf (array : ByteArray) {index : Nat} (h : index < array.size) :
    getElem (bytesOf array) index (by rw [length_bytesOf]; exact h) = array[index] := by
  simp [bytesOf, ByteArray.getElem_eq_getElem_data]

theorem drop_bytesOf (array : ByteArray) {index : Nat} (h : index < array.size) :
    (bytesOf array).drop index = array[index] :: (bytesOf array).drop (index + 1) := by
  rw [List.drop_eq_getElem_cons (by rw [length_bytesOf]; exact h), getElem_bytesOf array h]

theorem getElem?_bytesOf (array : ByteArray) (index : Nat) :
    (bytesOf array)[index]? = array[index]? := by
  by_cases h : index < array.size
  · rw [List.getElem?_eq_getElem (by rw [length_bytesOf]; exact h), getElem_bytesOf array h,
      getElem?_pos array index h]
  · rw [List.getElem?_eq_none (by rw [length_bytesOf]; omega), getElem?_neg array index h]

/-! ## The test of the filters -/

/-- The test goes on from some position exactly if what is left of one list begins what is left of the
other there. -/
theorem agreesFrom_iff (part whole : ByteArray) (index : Nat) :
    agreesFrom part whole index = true ↔
      (bytesOf part).drop index <+: (bytesOf whole).drop index := by
  fun_induction agreesFrom part whole index with
  | case1 index hpart hwhole =>
      have hshort : (bytesOf whole).drop index = [] := by
        rw [List.drop_eq_nil_iff, length_bytesOf]
        by_contra hlt
        rw [getElem?_pos whole index (by omega)] at hwhole
        cases hwhole
      rw [hshort, List.prefix_nil, List.drop_eq_nil_iff, length_bytesOf]
      exact iff_of_false Bool.false_ne_true (by omega)
  | case2 index hpart byte hwhole ih =>
      have hinside : index < whole.size := by
        by_contra hge
        rw [getElem?_neg whole index hge] at hwhole
        cases hwhole
      have hbyte : whole[index] = byte := by
        rw [getElem?_pos whole index hinside] at hwhole
        exact Option.some.inj hwhole
      rw [drop_bytesOf part hpart, drop_bytesOf whole hinside, hbyte, List.cons_prefix_cons]
      simp [ih]
  | case3 index hpart =>
      have hdone : (bytesOf part).drop index = [] := by
        rw [List.drop_eq_nil_iff, length_bytesOf]
        omega
      simp [hdone]

/-- One array begins another exactly if its list is a prefix of the other's. -/
theorem beginsWith_iff (part whole : ByteArray) :
    beginsWith part whole = true ↔ bytesOf part <+: bytesOf whole := by
  rw [beginsWith, agreesFrom_iff, List.drop_zero, List.drop_zero]

/-- A body is accepted exactly if some filter is a prefix of it. -/
theorem Filters.accepts_iff (filters : Filters) (body : ByteArray) :
    filters.accepts body = true ↔ ∃ filter ∈ filters.accepted, bytesOf filter <+: bytesOf body := by
  simp [Filters.accepts, List.any_eq_true, beginsWith_iff]

end DeviceBus
