/-!
# Whole numbers in text

A number is an optional sign and one or more digits of a radix, and nothing else.  Reading is bounded:
a text whose value does not fit is refused, however it is spelled.
-/

namespace DeviceBus.Number

/-- The value of a digit in a radix up to sixteen. -/
def digitValue? (radix : Nat) (c : Char) : Option Nat :=
  let value :=
    if '0' ≤ c ∧ c ≤ '9' then c.toNat - '0'.toNat
    else if 'a' ≤ c ∧ c ≤ 'f' then c.toNat - 'a'.toNat + 10
    else if 'A' ≤ c ∧ c ≤ 'F' then c.toNat - 'A'.toNat + 10
    else radix
  if value < radix then some value else none

/-- The value of a string of digits that continues a number of value `read`. -/
def digitsFrom? (radix read : Nat) : List Char → Option Nat
  | [] => some read
  | c :: rest =>
      match digitValue? radix c with
      | none => none
      | some value => digitsFrom? radix (read * radix + value) rest

/-- The value of a non-empty string of digits. -/
def digits? (radix : Nat) : List Char → Option Nat
  | [] => none
  | c :: rest => digitsFrom? radix 0 (c :: rest)

/-- A number without minus sign, at most `bound`; a plus sign may stand in front. -/
def unsigned? (bound : Nat) (cs : List Char) : Option Nat :=
  let body := match cs with
    | '+' :: rest => rest
    | _ => cs
  match digits? 10 body with
  | some value => if value ≤ bound then some value else none
  | none => none

/-- The largest number of sixty-four bits. -/
def maxUnsigned64 : Nat := 0xffffffffffffffff

/-- Whether a number fits sixty-four bits with a sign. -/
def fitsSigned64 (value : Int) : Bool :=
  -0x8000000000000000 ≤ value && value < 0x8000000000000000

/-- A number with an optional sign that fits sixty-four bits with a sign. -/
def signed64? (radix : Nat) (cs : List Char) : Option Int :=
  let value? : Option Int := match cs with
    | '+' :: rest => (digits? radix rest).map Int.ofNat
    | '-' :: rest => (digits? radix rest).map fun value => -Int.ofNat value
    | _ => (digits? radix cs).map Int.ofNat
  match value? with
  | some value => if fitsSigned64 value then some value else none
  | none => none

end DeviceBus.Number
