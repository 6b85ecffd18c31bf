import DeviceBus.Number.Integer

/-!
# Binary fractions of sixty-four bits

A finite number is a sign, a mantissa below `2 ^ 53` and a power of two.  Decimal text is read to the
nearest such number, a tie going to the even mantissa; a number is written with the fewest digits that
read back as the same number, and always positionally.  All arithmetic is exact arithmetic on natural
numbers.
-/

namespace DeviceBus.Number

/-- A number of sixty-four bits in binary floating point. -/
inductive Binary64 where
  | nan
  | infinite (negative : Bool)
  | finite (negative : Bool) (mantissa : Nat) (exponent : Int)
  deriving DecidableEq, Repr

namespace Binary64

/-- A natural number as a fraction `numerator / denominator` times a power of two. -/
def scaled (numerator denominator : Nat) (exponent : Int) : Nat × Nat :=
  if 0 ≤ exponent then (numerator, denominator * Nat.pow 2 exponent.toNat)
  else (numerator * Nat.pow 2 (-exponent).toNat, denominator)

/-- The nearest natural number to a fraction; a tie goes to the even one. -/
def roundEven (numerator denominator : Nat) : Nat :=
  let quotient := numerator / denominator
  let twice := 2 * (numerator % denominator)
  if twice > denominator || (twice = denominator && quotient % 2 = 1) then quotient + 1 else quotient

/-- The least exponent for which a mantissa of fifty-three bits holds the fraction, never below the
exponent of the smallest numbers. -/
def exponentFor (numerator denominator : Nat) : Int :=
  let guess : Int := (numerator.log2 : Int) - (denominator.log2 : Int) - 53
  let (top, bottom) := scaled numerator denominator guess
  max (-1074) (if top / bottom < 0x20000000000000 then guess else guess + 1)

/-- The number nearest to a positive fraction. -/
def ofFraction (negative : Bool) (numerator denominator : Nat) : Binary64 :=
  let exponent := exponentFor numerator denominator
  let (top, bottom) := scaled numerator denominator exponent
  let mantissa := roundEven top bottom
  let (mantissa, exponent) :=
    if mantissa = 0x20000000000000 then (0x10000000000000, exponent + 1) else (mantissa, exponent)
  if exponent > 971 then .infinite negative else .finite negative mantissa exponent

/-- The number nearest to `digits * 10 ^ power`.  Powers far outside the range decide at once. -/
def ofDecimal (negative : Bool) (digits : Nat) (power : Int) : Binary64 :=
  if digits = 0 then .finite negative 0 0
  else
    let magnitude : Int := (Nat.toDigits 10 digits).length + power
    if magnitude > 400 then .infinite negative
    else if magnitude < -400 then .finite negative 0 0
    else if 0 ≤ power then ofFraction negative (digits * Nat.pow 10 power.toNat) 1
    else ofFraction negative digits (Nat.pow 10 (-power).toNat)

/-- The longest run of decimal digits at the front, and what follows it. -/
def spanDigits (cs : List Char) : List Char × List Char := cs.span Char.isDigit

/-- The exponent part of decimal text: nothing, or an `e` with a whole number. -/
def exponentPart? : List Char → Option Int
  | [] => some 0
  | c :: rest =>
      if c = 'e' ∨ c = 'E' then
        match rest with
        | '+' :: digits => (digits? 10 digits).map Int.ofNat
        | '-' :: digits => (digits? 10 digits).map fun value => -Int.ofNat value
        | _ => (digits? 10 rest).map Int.ofNat
      else none

/-- Decimal text without a sign. -/
def magnitude? (negative : Bool) (cs : List Char) : Option Binary64 :=
  let (whole, rest) := spanDigits cs
  let (fraction, rest) := match rest with
    | '.' :: rest => spanDigits rest
    | _ => ([], rest)
  if whole.isEmpty && fraction.isEmpty then none
  else do
    let power ← exponentPart? rest
    let digits ← digitsFrom? 10 0 (whole ++ fraction)
    some (ofDecimal negative digits (power - fraction.length))

/-- The words for numbers that are not finite, in any case. -/
def word? (negative : Bool) (cs : List Char) : Option Binary64 :=
  let lower := cs.map Char.toLower
  if lower = "inf".toList ∨ lower = "infinity".toList then some (.infinite negative)
  else if lower = "nan".toList then some .nan
  else none

/-- A number in text: an optional sign, then decimal text or a word. -/
def parse? (cs : List Char) : Option Binary64 :=
  match cs with
  | '+' :: rest => (word? false rest).or (magnitude? false rest)
  | '-' :: rest => (word? true rest).or (magnitude? true rest)
  | _ => (word? false cs).or (magnitude? false cs)

/-- The nearest whole number that fits sixty-four bits without sign: a half goes away from zero, what is
negative or no number gives zero, and what is too large gives the largest number. -/
def toUnsigned64 : Binary64 → Nat
  | .nan => 0
  | .infinite negative => if negative then 0 else maxUnsigned64
  | .finite negative mantissa exponent =>
      if negative then 0
      else
        let whole :=
          if 0 ≤ exponent then mantissa * Nat.pow 2 exponent.toNat
          else (2 * mantissa + Nat.pow 2 (-exponent).toNat) / Nat.pow 2 ((-exponent).toNat + 1)
        min whole maxUnsigned64

/-- The ends of the interval of fractions that round to a number with this mantissa, and the number
itself, each in quarters of the last place: lower end, number, upper end. -/
def neighbourhood (mantissa : Nat) (exponent : Int) : Nat × Nat × Nat :=
  if mantissa = 0x10000000000000 ∧ exponent > -1074 then
    (4 * mantissa - 1, 4 * mantissa, 4 * mantissa + 2)
  else (4 * mantissa - 2, 4 * mantissa, 4 * mantissa + 2)

/-- A decimal number: digits and a power of ten. -/
structure Decimal where
  digits : Nat
  power : Int
  deriving DecidableEq, Repr

/-- A decimal grid point as a fraction. -/
def Decimal.fraction (d : Decimal) : Nat × Nat :=
  if 0 ≤ d.power then (d.digits * Nat.pow 10 d.power.toNat, 1)
  else (d.digits, Nat.pow 10 (-d.power).toNat)

/-- Whether a decimal reads back as the number with this mantissa and exponent. -/
def readsBack (mantissa : Nat) (exponent : Int) (d : Decimal) : Bool :=
  let (low, _, high) := neighbourhood mantissa exponent
  let (top, bottom) := d.fraction
  -- compare top / bottom with end * 2 ^ (exponent - 2)
  let shift := exponent - 2
  let up := Nat.pow 2 shift.toNat
  let down := Nat.pow 2 (-shift).toNat
  let value := top * down
  let lower := low * up * bottom
  let upper := high * up * bottom
  if mantissa % 2 = 0 then lower ≤ value && value ≤ upper else lower < value && value < upper

/-- The distance of a decimal from the number, over a denominator that depends on the decimal's power
alone. -/
def distance (mantissa : Nat) (exponent : Int) (d : Decimal) : Nat :=
  let (top, bottom) := d.fraction
  let value := top * Nat.pow 2 (-exponent).toNat
  let exact := mantissa * Nat.pow 2 exponent.toNat * bottom
  (value - exact) + (exact - value)

/-- The best decimal with the given power of ten, if one of the number's two neighbours there reads
back. -/
def bestAt? (mantissa : Nat) (exponent power : Int) : Option Decimal :=
  let top := mantissa * Nat.pow 2 exponent.toNat * Nat.pow 10 (-power).toNat
  let bottom := Nat.pow 2 (-exponent).toNat * Nat.pow 10 power.toNat
  let below : Decimal := ⟨top / bottom, power⟩
  let above : Decimal := ⟨top / bottom + 1, power⟩
  match readsBack mantissa exponent below, readsBack mantissa exponent above with
  | true, true =>
      if distance mantissa exponent above < distance mantissa exponent below then some above
      else some below
  | true, false => some below
  | false, true => some above
  | false, false => none

/-- The first decimal that reads back when the power of ten is lowered step by step. -/
def shortestFrom (mantissa : Nat) (exponent : Int) : Nat → Int → Decimal
  | 0, power => ⟨0, power⟩
  | tries + 1, power =>
      match bestAt? mantissa exponent power with
      | some d => if d.digits = 0 then shortestFrom mantissa exponent tries (power - 1) else d
      | none => shortestFrom mantissa exponent tries (power - 1)

/-- The decimal with the fewest digits that reads back as a positive number. -/
def shortest (mantissa : Nat) (exponent : Int) : Decimal :=
  let size : Int := (mantissa.log2 : Int) + exponent
  -- a power of two is below the next power of ten by at most this many places
  let start : Int := size * 30103 / 100000 + 1
  shortestFrom mantissa exponent 24 start

/-- Positional text of a decimal. -/
def Decimal.positional (d : Decimal) : List Char :=
  let digits := Nat.toDigits 10 d.digits
  if 0 ≤ d.power then digits ++ List.replicate d.power.toNat '0'
  else
    let places := (-d.power).toNat
    let padded := List.replicate (places + 1 - digits.length) '0' ++ digits
    let whole := padded.take (padded.length - places)
    let fraction := (padded.drop (padded.length - places))
    let fraction := (fraction.reverse.dropWhile (· = '0')).reverse
    if fraction.isEmpty then whole else whole ++ '.' :: fraction

/-- A number in text. -/
def toText : Binary64 → String
  | .nan => "NaN"
  | .infinite negative => if negative then "-inf" else "inf"
  | .finite negative mantissa exponent =>
      let digits := if mantissa = 0 then ['0'] else (shortest mantissa exponent).positional
      String.ofList (if negative then '-' :: digits else digits)

/-- A number in text that always shows that it is a fraction. -/
def toPointedText : Binary64 → String
  | .finite negative mantissa exponent =>
      let text := toText (.finite negative mantissa exponent)
      if text.toList.contains '.' then text else text ++ ".0"
  | other => other.toText

end Binary64

end DeviceBus.Number
