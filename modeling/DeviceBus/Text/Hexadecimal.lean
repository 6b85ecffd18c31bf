/-!
# Bytes as text

Every byte is written as two hexadecimal digits, the higher one first.
-/

namespace DeviceBus.Text

/-- A digit below sixteen as a figure or a small letter. -/
def hexDigit (digit : Nat) : Char :=
  if digit < 10 then Char.ofNat ('0'.toNat + digit) else Char.ofNat ('a'.toNat + (digit - 10))

/-- Bytes as pairs of hexadecimal digits. -/
def hexadecimal (bytes : List UInt8) : String :=
  String.ofList (bytes.flatMap fun byte => [hexDigit (byte.toNat / 16), hexDigit (byte.toNat % 16)])

end DeviceBus.Text
