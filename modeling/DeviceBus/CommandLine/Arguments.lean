/-!
# Program arguments

Every program takes the path of a file with settings, as `--config PATH`, `-c PATH` or `--config=PATH`,
anywhere among its arguments.  The last one counts; the value after `--config` or `-c` is taken whatever
it looks like, and an option at the very end takes back what an earlier one said.
-/

namespace DeviceBus.CommandLine

/-- The path of the settings, if one is given, and the other arguments in their order. -/
structure Arguments where
  config : Option String
  rest : List String
  deriving DecidableEq, Repr

/-- The value of an argument that names the settings and their path in one. -/
def joinedValue? (argument : String) : Option String :=
  ("--config=".toList.isPrefixOf? argument.toList).map String.ofList

/-- Whether an argument announces the path of the settings. -/
def announcesConfig (argument : String) : Bool := argument = "--config" || argument = "-c"

/-- Split arguments, after some that have been read. -/
def splitFrom (config : Option String) : List String → Arguments
  | [] => ⟨config, []⟩
  | argument :: others =>
      match joinedValue? argument with
      | some path => splitFrom (some path) others
      | none =>
          if announcesConfig argument then
            match others with
            | [] => ⟨none, []⟩
            | path :: others => splitFrom (some path) others
          else
            let split := splitFrom config others
            ⟨split.config, argument :: split.rest⟩

/-- Split the arguments of a program. -/
def splitArguments (arguments : List String) : Arguments := splitFrom none arguments

end DeviceBus.CommandLine
