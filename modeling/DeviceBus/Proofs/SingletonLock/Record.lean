import DeviceBus.Proofs.Number
import DeviceBus.Proofs.Text
import DeviceBus.SingletonLock
import Mathlib.Data.List.TakeWhile

/-!
# The record in a lock file

A lock file's first line holds the count of starts behind a label, and the second one the number of the
process.  From such a record the count is read back.

* `firstLine_append`: the first line ends at the first line break.
* `recordedCount?_record`: a count is read back from its record.
* `recordedCount?_beginning_label`, `recordedCount?_beginning_count`: what is read of a record that breaks off
  before the count, or behind it.
-/

namespace DeviceBus.SingletonLock

/-- The first line of a text ends before its first line break, if no other one stands before that. -/
theorem firstLine_append {line rest : List Char} (hbreak : '\n' ∉ line)
    (hreturn : line.getLast? ≠ some '\r') : firstLine (line ++ '\n' :: rest) = line := by
  have hline : (line ++ '\n' :: rest).takeWhile (· ≠ '\n') = line := by
    rw [List.takeWhile_append_of_pos]
    · simp
    · intro c hmem
      rw [decide_eq_true_eq]
      rintro rfl
      exact hbreak hmem
  rw [firstLine, hline, if_neg fun hends => hreturn hends.2]

/-- A text with a single line is its first line. -/
theorem firstLine_of_single {line : List Char} (hbreak : '\n' ∉ line) : firstLine line = line := by
  have hline : line.takeWhile (· ≠ '\n') = line := by
    rw [List.takeWhile_eq_self_iff]
    intro c hmem
    rw [decide_eq_true_eq]
    rintro rfl
    exact hbreak hmem
  rw [firstLine, hline, if_neg fun hends => Nat.lt_irrefl _ hends.1]

/-- A record is the label and the count, a line break, and what stands behind it. -/
theorem toList_record (count pid : Nat) : (record count pid).toList =
    (label.toList ++ (toString count).toList) ++ '\n' :: ("PID:" ++ toString pid ++ "\n").toList := by
  simp [record]

/-- A count is read from a text that begins with the label and the count, and goes on with a line break if it goes
on. -/
theorem recordedCount?_of_line {count : Nat} (hcount : count ≤ maxCount) {text : String} {rest : List Char}
    (htext : text.toList = (label.toList ++ (toString count).toList) ++ rest)
    (hrest : rest = [] ∨ ∃ more, rest = '\n' :: more) : recordedCount? text = some count := by
  have hdigit : ∀ c ∈ (toString count).toList, c.isDigit = true := fun _ => Number.isDigit_of_mem_repr
  have hbreak : '\n' ∉ label.toList ++ (toString count).toList := by
    rw [List.mem_append, not_or]
    refine ⟨by decide, fun hmem => ?_⟩
    exact absurd (hdigit _ hmem) (by decide)
  have hreturn : (label.toList ++ (toString count).toList).getLast? ≠ some '\r' := by
    rw [List.getLast?_append_of_ne_nil _ (Number.repr_ne_nil count)]
    intro hlast
    exact absurd (hdigit _ (List.mem_of_getLast? hlast)) (by decide)
  have hline : firstLine text.toList = label.toList ++ (toString count).toList := by
    rw [htext]
    rcases hrest with rfl | ⟨more, rfl⟩
    · rw [List.append_nil, firstLine_of_single hbreak]
    · exact firstLine_append hbreak hreturn
  have hprefix : label.toList.isPrefixOf? (label.toList ++ (toString count).toList) =
      some (toString count).toList := by
    rw [List.isPrefixOf?_eq_some_iff_append_eq]
  rw [recordedCount?, hline, hprefix]
  simp only
  rw [Text.trimBlank_of_not_blank (fun c hmem => Text.isBlank_of_isDigit (hdigit c hmem))
    (Number.repr_ne_nil count)]
  exact Number.unsigned?_repr hcount

/-- A count is read back from its record. -/
theorem recordedCount?_record {count : Nat} (hcount : count ≤ maxCount) (pid : Nat) :
    recordedCount? (record count pid) = some count :=
  recordedCount?_of_line hcount (toList_record count pid) (.inr ⟨_, rfl⟩)

/-! ## Records that break off -/

/-- The label, or the beginning of it, records no count. -/
theorem recordedCount?_label :
    ∀ written ≤ label.length, recordedCount? (String.ofList (label.toList.take written)) = none := by
  decide +kernel

/-- A record that breaks off before the count records none. -/
theorem recordedCount?_beginning_label {written : Nat} (hwritten : written ≤ label.length) (count pid : Nat) :
    recordedCount? (beginning (record count pid) written) = none := by
  have hlength : written ≤ label.toList.length := hwritten
  rw [beginning, toList_record, List.append_assoc, List.take_append_of_le_length hlength]
  exact recordedCount?_label written hwritten

/-- A record that breaks off behind the count records it. -/
theorem recordedCount?_beginning_count {count written : Nat} (hcount : count ≤ maxCount)
    (hwritten : (label ++ toString count).length ≤ written) (pid : Nat) :
    recordedCount? (beginning (record count pid) written) = some count := by
  have hlength : (label.toList ++ (toString count).toList).length ≤ written := by
    rwa [← String.toList_append, String.length_toList]
  have htext : (beginning (record count pid) written).toList = (label.toList ++ (toString count).toList) ++
      ('\n' :: ("PID:" ++ toString pid ++ "\n").toList).take
        (written - (label.toList ++ (toString count).toList).length) := by
    rw [beginning, String.toList_ofList, toList_record, List.take_append, List.take_of_length_le hlength]
  refine recordedCount?_of_line hcount htext ?_
  cases written - (label.toList ++ (toString count).toList).length with
  | zero => exact .inl rfl
  | succ more => exact .inr ⟨_, rfl⟩

end DeviceBus.SingletonLock
