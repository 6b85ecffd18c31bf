/-!
# Reading bytes as text

Text arrives as bytes.  `decode` accepts exactly the well-formed byte strings; for any other it reports
the first place where reading fails, and whether the bytes are wrong there or merely stop too early.
The bounds on the second byte are those of the standard: they exclude overlong forms, surrogates and
numbers above `10FFFF`.
-/

namespace DeviceBus.Text

/-- Why bytes are not text: a maximal ill-formed sequence of `length` bytes at `index`, or a sequence
that begins at `index` and is cut off by the end of the bytes. -/
inductive Utf8Fault where
  | illFormed (length index : Nat)
  | truncated (index : Nat)
  deriving DecidableEq, Repr

namespace Utf8Fault

/-- The fault in words. -/
def message : Utf8Fault → String
  | .illFormed length index =>
      "invalid utf-8 sequence of " ++ toString length ++ " bytes from index " ++ toString index
  | .truncated index => "incomplete utf-8 byte sequence from index " ++ toString index

end Utf8Fault

/-- What stands at the front of a byte string: a character that takes `extra` bytes after the first, an
ill-formed sequence of `length` bytes, or the beginning of a character that the end cuts off. -/
inductive Utf8Step where
  | character (extra : Nat)
  | illFormed (length : Nat)
  | truncated
  deriving DecidableEq, Repr

/-- A byte that may follow the first byte of a character. -/
def isContinuation (b : UInt8) : Bool := 0x80 ≤ b && b ≤ 0xBF

/-- How many bytes follow a first byte, and the bounds that the next byte must respect. -/
def leadBounds (lead : UInt8) : Option (Nat × UInt8 × UInt8) :=
  if lead ≤ 0x7F then some (0, 0, 0)
  else if 0xC2 ≤ lead && lead ≤ 0xDF then some (1, 0x80, 0xBF)
  else if lead = 0xE0 then some (2, 0xA0, 0xBF)
  else if lead = 0xED then some (2, 0x80, 0x9F)
  else if 0xE1 ≤ lead && lead ≤ 0xEF then some (2, 0x80, 0xBF)
  else if lead = 0xF0 then some (3, 0x90, 0xBF)
  else if 0xF1 ≤ lead && lead ≤ 0xF3 then some (3, 0x80, 0xBF)
  else if lead = 0xF4 then some (3, 0x80, 0x8F)
  else none

/-- Check the bytes after the second one: `needed` more continuation bytes, of which the first stands at
offset `offset` from the beginning of the character. -/
def continuationStep (extra : Nat) : (needed offset : Nat) → List UInt8 → Utf8Step
  | 0, _, _ => .character extra
  | _ + 1, _, [] => .truncated
  | needed + 1, offset, b :: rest =>
      if isContinuation b then continuationStep extra needed (offset + 1) rest else .illFormed offset

/-- Classify the front of `lead :: rest`. -/
def utf8Step (lead : UInt8) (rest : List UInt8) : Utf8Step :=
  match leadBounds lead with
  | none => .illFormed 1
  | some (0, _, _) => .character 0
  | some (extra + 1, low, high) =>
      match rest with
      | [] => .truncated
      | second :: others =>
          if low ≤ second && second ≤ high then continuationStep (extra + 1) extra 2 others
          else .illFormed 1

/-- The first fault of a byte string whose first byte has position `index`. -/
def firstFault? (index : Nat) : List UInt8 → Option Utf8Fault
  | [] => none
  | lead :: rest =>
      match utf8Step lead rest with
      | .character extra => firstFault? (index + 1 + extra) (rest.drop extra)
      | .illFormed length => some (.illFormed length index)
      | .truncated => some (.truncated index)
  termination_by bytes => bytes.length
  decreasing_by simp only [List.length_cons, List.length_drop]; omega

/-- Read bytes as text. -/
def decode (bytes : ByteArray) : Except Utf8Fault String :=
  if valid : bytes.IsValidUTF8 then .ok (String.fromUTF8 bytes valid)
  else .error ((firstFault? 0 bytes.data.toList).getD (.truncated bytes.size))

/-- Reading succeeds exactly on the bytes of a text, and gives that text. -/
theorem decode_eq_ok_iff (bytes : ByteArray) (text : String) :
    decode bytes = .ok text ↔ bytes = text.toByteArray := by
  unfold decode
  constructor
  · intro h
    split at h
    · injection h with h
      rw [← h]
      rfl
    · cases h
  · intro h
    subst h
    rw [dif_pos text.isValidUTF8]
    rfl

end DeviceBus.Text
