/-!
# Lower case

Names of settings are compared without regard to case.  Every such name is written in the letters of
ASCII, so the lower case of those letters decides, and of the one other character whose lower case is
one of them.
-/

namespace DeviceBus.Text

/-- The lower case of a character, as far as it is a letter of ASCII. -/
def lowerChar (c : Char) : Char := if c = '\u212A' then 'k' else c.toLower

/-- Text in lower case. -/
def lower (text : String) : String := String.ofList (text.toList.map lowerChar)

end DeviceBus.Text
