/-!
# Why settings could not be loaded
-/

namespace DeviceBus.Config

/-- Why settings could not be loaded. -/
inductive LoadFault where
  /-- a value of the wrong kind, with the path to it and its origin -/
  | mismatch (unexpected expected : String) (key origin : Option String)
  /-- any other fault of the values -/
  | message (text : String)
  /-- a file that must be there and cannot be read -/
  | unreadable (reason : String)
  /-- a file that does not hold settings -/
  | unparsable (file reason : String)
  deriving DecidableEq, Repr

namespace LoadFault

/-- Put a name in front of the path to a mismatch. -/
def withKey (key : String) : LoadFault → LoadFault
  | .mismatch unexpected expected path origin =>
      let path := match path with
        | none => key
        | some path => if path.toList.head? = some '[' then key ++ path else key ++ "." ++ path
      .mismatch unexpected expected (some path) origin
  | other => other

/-- Put a position in front of the path to a mismatch. -/
def withIndex (index : Nat) : LoadFault → LoadFault
  | .mismatch unexpected expected path origin =>
      .mismatch unexpected expected (some ("[" ++ toString index ++ "]" ++ path.getD "")) origin
  | other => other

/-- The name of the kind of cause. -/
def name : LoadFault → String
  | .mismatch .. => "Type"
  | .message _ => "Message"
  | .unreadable _ => "Foreign"
  | .unparsable _ _ => "FileParse"

/-- The cause as a sentence. -/
def cause : LoadFault → String
  | .mismatch unexpected expected key origin =>
      "invalid type: " ++ unexpected ++ ", expected " ++ expected
        ++ (match key with
          | some key => " for key `" ++ key ++ "`"
          | none => "")
        ++ (match origin with
          | some origin => " in " ++ origin
          | none => "")
  | .message text => text
  | .unreadable reason => reason
  | .unparsable file reason => reason ++ " in " ++ file

/-- The fault as a sentence. -/
def sentence (fault : LoadFault) : String := "Failed to load configuration: " ++ fault.cause

/-- The fault as a description. -/
def describe (fault : LoadFault) : String := "Load(" ++ fault.cause ++ ")"

end LoadFault

end DeviceBus.Config
