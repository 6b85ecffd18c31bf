import DeviceBus.Text.Quoted

/-!
# Log lines

A program reports what it does in lines: how grave it is, which part reports it, a sentence, and named
values.  A value that is text of its own stands in quotes; one that was made into text stands bare.
-/

namespace DeviceBus.CommandLine

/-- How grave a report is. -/
inductive Level where
  | info
  | warning
  | error
  deriving DecidableEq, Repr

/-- The name of a level. -/
def Level.name : Level → String
  | info => "INFO"
  | warning => "WARN"
  | error => "ERROR"

/-- A value in a report. -/
inductive LogValue where
  | bare (text : String)
  | quoted (text : String)
  deriving DecidableEq, Repr

/-- A value as it is written. -/
def LogValue.toText : LogValue → String
  | bare text => text
  | quoted text => Text.quote text

/-- One report. -/
structure LogLine where
  level : Level := .info
  /-- the part of the program that reports -/
  source : String
  sentence : String
  values : List (String × LogValue) := []
  deriving DecidableEq, Repr

/-- A report as one line. -/
def LogLine.toText (line : LogLine) : String :=
  " ".intercalate
    (line.level.name :: (line.source ++ ":") :: line.sentence
      :: line.values.map fun (name, value) => name ++ "=" ++ value.toText)

/-- What a program prints on its way out when it gives up. -/
def farewell (reason : String) : String := "Error: " ++ reason ++ "\n"

end DeviceBus.CommandLine
