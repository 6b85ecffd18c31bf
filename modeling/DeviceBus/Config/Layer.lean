import DeviceBus.Config.KeyPath
import DeviceBus.Config.Fault
import DeviceBus.Yaml.Reader

/-!
# Layers of settings

Settings come in layers: files, and the variables of the environment.  A layer is a list of values, each
with the path at which it is set; laying one layer over another sets its values one after the other.
-/

namespace DeviceBus.Config

/-- Values and the names under which they are set, in order. -/
abbrev Layer := List (String × Value)

/-- Lay a layer over what the layers before it have set. -/
def Layer.over (layer : Layer) (root : Value) : Value :=
  layer.foldl (fun root field => Value.setAt field.2 (keyPath field.1) root) root

/-- What all layers set together, the first layer at the bottom. -/
def stack (layers : List Layer) : Value :=
  layers.foldl (fun root layer => layer.over root) Value.emptyTable

mutual

/-- The value of a node of a file. -/
def ofNode (file : String) : Yaml.Node → Except LoadFault Value
  | .null => .ok (.scalar (some file) .nil)
  | .boolean value => .ok (.scalar (some file) (.boolean value))
  | .integer value => .ok (.scalar (some file) (.integer value))
  | .real written =>
      match Number.Binary64.parse? written.toList with
      | some value => .ok (.scalar (some file) (.float value))
      | none => .error (.unparsable file "invalid float literal")
  | .text value => .ok (.scalar (some file) (.text value))
  | .list items => (ofNodes file items).map fun items => .list (some file) items
  | .map entries => (ofEntries file entries).map fun fields => .table (some file) fields

/-- The values of the items of a list. -/
def ofNodes (file : String) : List Yaml.Node → Except LoadFault (List Value)
  | [] => .ok []
  | node :: rest => do
      let value ← ofNode file node
      let values ← ofNodes file rest
      .ok (value :: values)

/-- The fields of a map.  Keys are texts or whole numbers. -/
def ofEntries (file : String) : List (Yaml.Node × Yaml.Node) → Except LoadFault (List (String × Value))
  | [] => .ok []
  | (key, node) :: rest => do
      let name ← match key with
        | .text name => Except.ok name
        | .integer number => Except.ok (toString number)
        | _ => Except.error (.unparsable file "a key is neither text nor a whole number")
      let value ← ofNode file node
      let fields ← ofEntries file rest
      .ok (if (fields.lookup name).isSome then fields else (name, value) :: fields)

end

/-- A fault of a file's text in words. -/
def faultReason : Yaml.Fault → String
  | .unexpectedEnd => "did not find expected node content"
  | .unexpectedSign sign => "found unexpected character " ++ Text.quote (String.ofList [sign])
  | .mappingNotAllowed => "mapping values are not allowed in this context"
  | .sequenceNotAllowed => "block sequence entries are not allowed in this context"
  | .invalidIndentation => "did not find expected key"
  | .invalidEscape => "found unknown escape character"
  | .duplicateKey => "duplicated key in mapping"
  | .trailingText => "did not find expected <document start>"

/-- The layer of a file's text.  A text without documents says nothing; otherwise there must be one
document, and it must be a map. -/
def Layer.ofText (file text : String) : Except LoadFault Layer :=
  match Yaml.documents text with
  | .error fault => .error (.unparsable file (faultReason fault))
  | .ok [] => .ok []
  | .ok [node] => do
      match ← ofNode file node with
      | .table _ fields => .ok fields
      | other =>
          let mismatch := LoadFault.mismatch other.describe "a map" none (some file)
          .error (.unparsable file mismatch.cause)
  | .ok documents =>
      .error (.unparsable file ("Got " ++ toString documents.length ++ " YAML documents, expected 1"))

/-- What the names of variables for settings begin with, in lower case. -/
def variableStart : List Char := "procbus__".toList

/-- Replace each pair of underscores, from the left, by a dot. -/
def dotted : List Char → List Char
  | '_' :: '_' :: rest => '.' :: dotted rest
  | c :: rest => c :: dotted rest
  | [] => []

/-- The value of a variable: a truth value in any case, a whole number, a fraction, or text. -/
def variableValue (text : String) : Scalar :=
  let lower := Text.lower text
  if lower = "true" then .boolean true
  else if lower = "false" then .boolean false
  else
    match Number.signed64? 10 text.toList with
    | some value => .integer value
    | none =>
        match Number.Binary64.parse? text.toList with
        | some value => .float value
        | none => .text text

/-- The setting that a variable makes, if its name is one for settings. -/
def ofVariable? (name value : String) : Option (String × Value) :=
  match variableStart.isPrefixOf? (Text.lower name).toList with
  | none => none
  | some rest =>
      some (String.ofList (dotted rest), .scalar (some "the environment") (variableValue value))

/-- The layer of the environment. -/
def Layer.ofEnvironment (environment : List (String × String)) : Layer :=
  environment.filterMap fun (name, value) => ofVariable? name value

end DeviceBus.Config
