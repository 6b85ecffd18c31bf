import DeviceBus.Yaml.Node
import DeviceBus.Yaml.Cursor

/-!
# Reading YAML

Lists and maps are written in lines, where indentation tells what belongs together, or in brackets.
`documents` reads all documents of a text.  Every function that calls itself is given fuel; a small multiple
of the text's length is always enough, since a few calls pass over at least one character.

Anchors, tags and scalars written as blocks of lines are refused.
-/

namespace DeviceBus.Yaml

/-- Fuel for reading a text: no reading step calls more than four others before it passes over a
character. -/
def fuelFor (cs : List Char) : Nat := 4 * cs.length + 8

/-- Two keys that are the same key of a map. -/
def sameKey : Node → Node → Bool
  | .null, .null => true
  | .boolean a, .boolean b => a = b
  | .integer a, .integer b => a = b
  | .real a, .real b => a = b
  | .text a, .text b => a = b
  | _, _ => false

/-- A map with one more entry; a key may not come twice. -/
def addEntry (entries : List (Node × Node)) (key value : Node) : Except Fault (List (Node × Node)) :=
  if entries.any fun entry => sameKey entry.1 key then .error .duplicateKey
  else .ok (entries ++ [(key, value)])

/-- The key of an entry of a map in lines, if one begins here: a scalar on one line with a colon. -/
def lineKey? (cursor : Cursor) : Option (Node × Cursor) :=
  match quotedScalar? cursor with
  | some (.ok (text, after)) =>
      let colon := after.nextInLine false
      -- a key may not hold a line break
      if cursor.rest.length - after.rest.length > (cursor.rest.takeWhile (· ≠ '\n')).length then none
      else
        match colon.rest with
        | ':' :: rest =>
            if blankNext rest then some (.text (String.ofList text), colon.advance 1) else none
        | _ => none
  | some (.error _) => none
  | none =>
      if !plainMayBegin false cursor.rest then none
      else
        let (line, rest) := plainLine false false cursor.rest
        match rest with
        | ':' :: _ => some (.ofPlain (trimEnd line), ⟨rest.drop 1, cursor.column + line.length + 1⟩)
        | _ => none

/-- Nothing but a comment may follow on the line. -/
def endOfLine (cursor : Cursor) : Except Fault Cursor :=
  let after := cursor.nextInLine false
  if after.atLineEnd then .ok after
  else
    match after.rest with
    | ':' :: _ => .error .mappingNotAllowed
    | _ => .error .trailingText

mutual

/-- A value in brackets, or a scalar between brackets. -/
def bracketNode : Nat → Cursor → Except Fault (Node × Cursor)
  | 0, _ => .error .unexpectedEnd
  | fuel + 1, cursor =>
      match cursor.rest with
      | [] => .error .unexpectedEnd
      | '[' :: _ => listItems fuel ((cursor.advance 1).next true) []
      | '{' :: _ => mapEntries fuel ((cursor.advance 1).next true) []
      | c :: rest =>
          match quotedScalar? cursor with
          | some (.ok (text, after)) => .ok (.text (String.ofList text), after)
          | some (.error fault) => .error fault
          | none =>
              if plainMayBegin true (c :: rest) then
                let (text, after) := plainScalar true (-1) (rest.length + 2) cursor
                .ok (.ofPlain text, after)
              else .error (.unexpectedSign c)

/-- The value after a key between brackets; the colon has been read. -/
def bracketValue : Nat → Cursor → Except Fault (Node × Cursor)
  | 0, _ => .error .unexpectedEnd
  | fuel + 1, cursor =>
      let next := cursor.next false
      match next.rest with
      | [] => .error .unexpectedEnd
      | c :: _ =>
          if c = ',' ∨ c = '}' ∨ c = ']' then .ok (.null, next) else bracketNode fuel next

/-- The items of a list in brackets, up to the closing one. -/
def listItems : Nat → Cursor → List Node → Except Fault (Node × Cursor)
  | 0, _, _ => .error .unexpectedEnd
  | fuel + 1, cursor, items =>
      match cursor.rest with
      | [] => .error .unexpectedEnd
      | ']' :: _ => .ok (.list items.reverse, cursor.advance 1)
      | _ =>
          match bracketNode fuel cursor with
          | .error fault => .error fault
          | .ok (item, after) =>
              let next := after.next false
              -- a key with a value stands for a map of one entry
              let pair : Except Fault (Node × Cursor) :=
                match next.rest with
                | ':' :: _ =>
                    match bracketValue fuel (next.advance 1) with
                    | .error fault => .error fault
                    | .ok (value, after) => .ok (.map [(item, value)], after.next false)
                | _ => .ok (item, next)
              match pair with
              | .error fault => .error fault
              | .ok (item, next) =>
                  match next.rest with
                  | ',' :: _ => listItems fuel ((next.advance 1).next true) (item :: items)
                  | ']' :: _ => .ok (.list (item :: items).reverse, next.advance 1)
                  | [] => .error .unexpectedEnd
                  | c :: _ => .error (.unexpectedSign c)

/-- The entries of a map in brackets, up to the closing one. -/
def mapEntries : Nat → Cursor → List (Node × Node) → Except Fault (Node × Cursor)
  | 0, _, _ => .error .unexpectedEnd
  | fuel + 1, cursor, entries =>
      match cursor.rest with
      | [] => .error .unexpectedEnd
      | '}' :: _ => .ok (.map entries, cursor.advance 1)
      | _ =>
          match bracketNode fuel cursor with
          | .error fault => .error fault
          | .ok (key, after) =>
              let next := after.next false
              let value : Except Fault (Node × Cursor) :=
                match next.rest with
                | ':' :: _ => bracketValue fuel (next.advance 1)
                | _ => .ok (.null, next)
              match value with
              | .error fault => .error fault
              | .ok (value, after) =>
                  match addEntry entries key value with
                  | .error fault => .error fault
                  | .ok entries =>
                      let next := after.next false
                      match next.rest with
                      | ',' :: _ => mapEntries fuel ((next.advance 1).next true) entries
                      | '}' :: _ => .ok (.map entries, next.advance 1)
                      | [] => .error .unexpectedEnd
                      | c :: _ => .error (.unexpectedSign c)

end

mutual

/-- A value in lines that is indented more than `indent`.  Where a line has already begun otherwise,
lists and maps in lines may not begin. -/
def lineNode : Nat → (indent : Int) → (fresh : Bool) → Cursor → Except Fault (Node × Cursor)
  | 0, _, _, _ => .error .unexpectedEnd
  | fuel + 1, indent, fresh, cursor =>
      if cursor.atDash then
        if fresh then dashItems fuel cursor.column cursor [] else .error .sequenceNotAllowed
      else
        match lineKey? cursor with
        | some _ =>
            if fresh then keyEntries fuel cursor.column cursor [] else .error .mappingNotAllowed
        | none =>
            match cursor.rest with
            | [] => .error .unexpectedEnd
            | c :: rest =>
                if c = '[' ∨ c = '{' then
                  match bracketNode (fuelFor cursor.rest) cursor with
                  | .error fault => .error fault
                  | .ok (node, after) => (endOfLine after).map fun after => (node, after)
                else
                  match quotedScalar? cursor with
                  | some (.error fault) => .error fault
                  | some (.ok (text, after)) =>
                      (endOfLine after).map fun after => (.text (String.ofList text), after)
                  | none =>
                      if plainMayBegin false (c :: rest) then
                        let (text, after) := plainScalar false indent (rest.length + 2) cursor
                        (endOfLine after).map fun after => (.ofPlain text, after)
                      else .error (.unexpectedSign c)

/-- The value after a key or a dash that stands at a column.  On later lines it must be indented more,
except that the list of a key may begin at the key's own column. -/
def valueAfter : Nat → (column : Nat) → (afterKey : Bool) → Cursor → Except Fault (Node × Cursor)
  | 0, _, _, _ => .error .unexpectedEnd
  | fuel + 1, column, afterKey, cursor =>
      let here := cursor.nextInLine true
      if here.atLineEnd then
        let next := here.next true
        if next.atEnd then .ok (.null, next)
        else if next.column > column then lineNode fuel column true next
        else if afterKey && next.column = column && next.atDash then dashItems fuel column next []
        else .ok (.null, next)
      else lineNode fuel column (!afterKey) here

/-- The entries of a map in lines whose keys stand at a column. -/
def keyEntries : Nat → (column : Nat) → Cursor → List (Node × Node) → Except Fault (Node × Cursor)
  | 0, _, _, _ => .error .unexpectedEnd
  | fuel + 1, column, cursor, entries =>
      match lineKey? cursor with
      | none => .error .trailingText
      | some (key, after) =>
          match valueAfter fuel column true after with
          | .error fault => .error fault
          | .ok (value, after) =>
              match addEntry entries key value with
              | .error fault => .error fault
              | .ok entries =>
                  let next := after.next true
                  if next.atEnd || next.column < column then .ok (.map entries, next)
                  else if next.column = column then keyEntries fuel column next entries
                  else .error .invalidIndentation

/-- The items of a list in lines whose dashes stand at a column. -/
def dashItems : Nat → (column : Nat) → Cursor → List Node → Except Fault (Node × Cursor)
  | 0, _, _, _ => .error .unexpectedEnd
  | fuel + 1, column, cursor, items =>
      match valueAfter fuel column false (cursor.advance 1) with
      | .error fault => .error fault
      | .ok (item, after) =>
          let next := after.next true
          if next.atEnd || next.column < column then .ok (.list (item :: items).reverse, next)
          else if next.column = column && next.atDash then dashItems fuel column next (item :: items)
          else if next.column = column then .ok (.list (item :: items).reverse, next)
          else .error .invalidIndentation

end

/-- The documents from a cursor on.  Once a document has begun, only a marker may follow it. -/
def documentsFrom : Nat → (begun : Bool) → Cursor → Except Fault (List Node)
  | 0, _, _ => .error .unexpectedEnd
  | fuel + 1, begun, cursor =>
      let here := cursor.next true
      if here.rest.isEmpty then .ok []
      else if here.atMarker then
        let after := here.advance 3
        if here.rest.head? = some '.' then documentsFrom fuel false after
        else
          let first := after.nextInLine true
          let start := first.next true
          let read : Except Fault (Node × Cursor) :=
            if !first.atLineEnd then lineNode (fuelFor first.rest) (-1) false first
            else if start.atEnd then .ok (.null, start)
            else lineNode (fuelFor start.rest) (-1) true start
          match read with
          | .error fault => .error fault
          | .ok (node, rest) => (documentsFrom fuel true rest).map (node :: ·)
      else if begun then .error .trailingText
      else
        match lineNode (fuelFor here.rest) (-1) true here with
        | .error fault => .error fault
        | .ok (node, rest) => (documentsFrom fuel true rest).map (node :: ·)

/-- All documents of a text. -/
def documents (text : String) : Except Fault (List Node) :=
  let cs := normaliseBreaks text.toList
  documentsFrom (cs.length + 1) false ⟨cs, 0⟩

end DeviceBus.Yaml
