import DeviceBus.Number.Integer

/-!
# Values of a YAML document

A document denotes a tree of lists and maps with scalars at its leaves.  A scalar written without quotes
is an absent value, a truth value, a whole number of sixty-four bits, a fraction, or text, in this order
of preference; a quoted scalar is always text.
-/

namespace DeviceBus.Yaml

/-- A value. -/
inductive Node where
  | null
  | boolean (value : Bool)
  | integer (value : Int)
  /-- a fraction, as it was written -/
  | real (written : String)
  | text (value : String)
  | list (items : List Node)
  | map (entries : List (Node × Node))
  deriving Repr

/-- The spellings of fractions that are no decimal text. -/
def specialReals : List String :=
  [".inf", ".Inf", ".INF", "+.inf", "+.Inf", "+.INF", "-.inf", "-.Inf", "-.INF", ".nan", ".NaN", ".NAN"]

/-- Digits with an optional sign and at most one point, followed perhaps by an exponent. -/
def looksDecimal (cs : List Char) : Bool :=
  let unsignedPart := match cs with
    | '+' :: rest => rest
    | '-' :: rest => rest
    | _ => cs
  let whole := unsignedPart.takeWhile Char.isDigit
  let rest := unsignedPart.dropWhile Char.isDigit
  let (fraction, rest) := match rest with
    | '.' :: rest => (rest.takeWhile Char.isDigit, rest.dropWhile Char.isDigit)
    | _ => ([], rest)
  let exponentFits := match rest with
    | [] => true
    | c :: rest =>
        (c = 'e' || c = 'E') &&
          match rest with
          | '+' :: digits => !digits.isEmpty && digits.all Char.isDigit
          | '-' :: digits => !digits.isEmpty && digits.all Char.isDigit
          | digits => !digits.isEmpty && digits.all Char.isDigit
  !(whole.isEmpty && fraction.isEmpty) && exponentFits

/-- The whole number that a scalar without quotes denotes, if it denotes one. -/
def plainInteger? (cs : List Char) : Option Int :=
  let marked := match cs with
    | '0' :: 'x' :: rest => Number.signed64? 16 rest
    | '0' :: 'o' :: rest => Number.signed64? 8 rest
    | '+' :: rest => Number.signed64? 10 rest
    | _ => none
  marked.or (Number.signed64? 10 cs)

/-- The value of a scalar without quotes. -/
def Node.ofPlain (cs : List Char) : Node :=
  let written := String.ofList cs
  match plainInteger? cs with
  | some value => .integer value
  | none =>
      if written = "" ∨ written = "~" ∨ written = "null" then .null
      else if written = "true" then .boolean true
      else if written = "false" then .boolean false
      else if specialReals.contains written || looksDecimal cs then .real written
      else .text written

end DeviceBus.Yaml
