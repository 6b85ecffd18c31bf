import DeviceBus.Text.Printable

/-!
# Quoted text

Text in double quotes, as it stands in logs and in descriptions of values.  A backslash introduces the
short escapes; a character that is not printed is given by its code point in hexadecimal.  Names of files
are quoted in the same way, and there a single quote is escaped as well.
-/

namespace DeviceBus.Text

/-- A number in lowercase hexadecimal without leading zeros. -/
def hexNumber (n : Nat) : List Char := Nat.toDigits 16 n

/-- One character inside quotes. -/
def quoteChar (c : Char) : List Char :=
  if c = '\x00' then ['\\', '0']
  else if c = '\t' then ['\\', 't']
  else if c = '\r' then ['\\', 'r']
  else if c = '\n' then ['\\', 'n']
  else if c = '\\' then ['\\', '\\']
  else if c = '"' then ['\\', '"']
  else if isUnprintable c then ['\\', 'u', '\x7b'] ++ hexNumber c.toNat ++ ['\x7d']
  else [c]

/-- One character inside the quotes around a file's name. -/
def quotePathChar (c : Char) : List Char :=
  if c = '\'' then ['\\', '\''] else quoteChar c

/-- Text in double quotes. -/
def quote (text : String) : String :=
  String.ofList ('"' :: (text.toList.flatMap quoteChar ++ ['"']))

/-- The name of a file in double quotes. -/
def quotePath (text : String) : String :=
  String.ofList ('"' :: (text.toList.flatMap quotePathChar ++ ['"']))

end DeviceBus.Text
