/-!
# Reading positions and scalars

A cursor is the text that is still to be read and the column at which it stands.  Line breaks are line
feeds here: `normaliseBreaks` makes them so.  A scalar without quotes ends where a colon or a comment
sign is set apart by blanks, and inside brackets also at the brackets' own signs; line breaks in a scalar
are folded into spaces.
-/

namespace DeviceBus.Yaml

/-- Why a text is no sequence of documents. -/
inductive Fault where
  | unexpectedEnd
  | unexpectedSign (sign : Char)
  | mappingNotAllowed
  | sequenceNotAllowed
  | invalidIndentation
  | invalidEscape
  | duplicateKey
  | trailingText
  deriving DecidableEq, Repr

/-- The text that is still to be read, and its column. -/
structure Cursor where
  rest : List Char
  column : Nat

/-- Every line break as a line feed. -/
def normaliseBreaks : List Char → List Char
  | [] => []
  | '\r' :: '\n' :: rest => '\n' :: normaliseBreaks rest
  | c :: rest => (if c = '\r' then '\n' else c) :: normaliseBreaks rest

/-- A blank within a line. -/
def isSpace (c : Char) : Bool := c = ' ' || c = '\t'

/-- A sign of lists and maps in brackets. -/
def isBracketSign (c : Char) : Bool := c = ',' || c = '[' || c = ']' || c = '{' || c = '}'

/-- Whether a text begins with a blank or a line break, or is at its end. -/
def blankNext : List Char → Bool
  | [] => true
  | c :: _ => isSpace c || c = '\n'

/-- Whether the next sign belongs to lists and maps in brackets. -/
def bracketNext : List Char → Bool
  | [] => false
  | c :: _ => isBracketSign c

/-- Go on to the next token, past blanks, comments and line breaks.  Inside a comment everything up to
the line's end is passed over; a comment begins only at a sign that is `apart` from what precedes it. -/
def skip (comment apart : Bool) (column : Nat) : List Char → Cursor
  | [] => ⟨[], column⟩
  | c :: rest =>
      if c = '\n' then skip false true 0 rest
      else if comment then skip true true (column + 1) rest
      else if isSpace c then skip false true (column + 1) rest
      else if c = '#' && apart then skip true true (column + 1) rest
      else ⟨c :: rest, column⟩

/-- The same within a line: the line break is not passed over. -/
def skipInLine (comment apart : Bool) (column : Nat) : List Char → Cursor
  | [] => ⟨[], column⟩
  | c :: rest =>
      if c = '\n' then ⟨c :: rest, column⟩
      else if comment then skipInLine true true (column + 1) rest
      else if isSpace c then skipInLine false true (column + 1) rest
      else if c = '#' && apart then skipInLine true true (column + 1) rest
      else ⟨c :: rest, column⟩

/-- The next token after a cursor. -/
def Cursor.next (cursor : Cursor) (apart : Bool) : Cursor := skip false apart cursor.column cursor.rest

/-- The next token after a cursor on the same line. -/
def Cursor.nextInLine (cursor : Cursor) (apart : Bool) : Cursor :=
  skipInLine false apart cursor.column cursor.rest

/-- The cursor after some characters of the same line. -/
def Cursor.advance (cursor : Cursor) (count : Nat) : Cursor :=
  ⟨cursor.rest.drop count, cursor.column + count⟩

/-- Whether nothing is left on the line. -/
def Cursor.atLineEnd (cursor : Cursor) : Bool :=
  match cursor.rest with
  | [] => true
  | c :: _ => c = '\n'

/-- Whether a marker between documents stands here. -/
def Cursor.atMarker (cursor : Cursor) : Bool :=
  cursor.column = 0 &&
    match cursor.rest with
    | '-' :: '-' :: '-' :: rest => blankNext rest
    | '.' :: '.' :: '.' :: rest => blankNext rest
    | _ => false

/-- Whether the text or the document ends here. -/
def Cursor.atEnd (cursor : Cursor) : Bool := cursor.rest.isEmpty || cursor.atMarker

/-- Whether an entry of a list in lines begins here. -/
def Cursor.atDash (cursor : Cursor) : Bool :=
  match cursor.rest with
  | '-' :: rest => blankNext rest
  | _ => false

/-- Text without the blanks at its end. -/
def trimEnd (cs : List Char) : List Char := (cs.reverse.dropWhile isSpace).reverse

/-- The part of a scalar without quotes that stands on one line. -/
def plainLine (bracketed apart : Bool) : List Char → List Char × List Char
  | [] => ([], [])
  | c :: rest =>
      if c = '\n' || (c = '#' && apart) || (bracketed && isBracketSign c)
          || (c = ':' && (blankNext rest || (bracketed && bracketNext rest))) then
        ([], c :: rest)
      else
        let (line, rest) := plainLine bracketed (isSpace c) rest
        (c :: line, rest)

/-- Whether a scalar without quotes may begin here. -/
def plainMayBegin (bracketed : Bool) : List Char → Bool
  | [] => false
  | c :: rest =>
      if c = '-' || c = '?' || c = ':' then
        !blankNext rest && !(bracketed && bracketNext rest)
      else !(isBracketSign c || ['#', '&', '*', '!', '|', '>', '\'', '"', '%', '@', '`'].contains c)

/-- A number of lines that were left, folded: one break is a space, more are as many breaks but one. -/
def fold (breaks : Nat) : List Char :=
  if breaks ≤ 1 then [' '] else List.replicate (breaks - 1) '\n'

/-- Count line breaks and blanks up to the next character. -/
def skipBreaks (breaks column : Nat) : List Char → Nat × Cursor
  | [] => (breaks, ⟨[], column⟩)
  | c :: rest =>
      if c = '\n' then skipBreaks (breaks + 1) 0 rest
      else if isSpace c then skipBreaks breaks (column + 1) rest
      else (breaks, ⟨c :: rest, column⟩)

/-- A scalar without quotes, which goes on over lines indented more than `indent`. -/
def plainScalar (bracketed : Bool) (indent : Int) : Nat → Cursor → List Char × Cursor
  | 0, cursor => ([], cursor)
  | fuel + 1, cursor =>
      let (line, rest) := plainLine bracketed false cursor.rest
      let text := trimEnd line
      let here := cursor.advance text.length
      match rest with
      | '\n' :: _ =>
          let (breaks, after) := skipBreaks 0 here.column rest
          let goesOn := (after.column : Int) > indent && !after.atEnd
            && !(plainLine bracketed true after.rest).1.isEmpty
          if goesOn then
            let (more, last) := plainScalar bracketed indent fuel after
            (text ++ fold breaks ++ more, last)
          else (text, here)
      | _ => (text, here)

/-- The character of a short escape. -/
def shortEscape? (c : Char) : Option Char :=
  match c with
  | '0' => some '\x00'
  | 'a' => some '\x07'
  | 'b' => some '\x08'
  | 't' => some '\t'
  | '\t' => some '\t'
  | 'n' => some '\n'
  | 'v' => some '\x0b'
  | 'f' => some '\x0c'
  | 'r' => some '\r'
  | 'e' => some '\x1b'
  | ' ' => some ' '
  | '"' => some '"'
  | '/' => some '/'
  | '\\' => some '\\'
  | 'N' => some '\u0085'
  | '_' => some '\u00a0'
  | 'L' => some '\u2028'
  | 'P' => some '\u2029'
  | _ => none

/-- How many hexadecimal digits follow the sign of a long escape. -/
def longEscape? (c : Char) : Option Nat :=
  match c with
  | 'x' => some 2
  | 'u' => some 4
  | 'U' => some 8
  | _ => none

/-- The value of hexadecimal digits. -/
def hexValue? (cs : List Char) : Option Nat :=
  cs.foldl
    (fun value c => do
      let value ← value
      let digit ←
        if c.isDigit then some (c.toNat - '0'.toNat)
        else if 'a' ≤ c ∧ c ≤ 'f' then some (c.toNat - 'a'.toNat + 10)
        else if 'A' ≤ c ∧ c ≤ 'F' then some (c.toNat - 'A'.toNat + 10)
        else none
      some (16 * value + digit))
    (some 0)

/-- The rest of a scalar in single quotes, after the opening one.  A quote is written twice. -/
def singleQuoted : Nat → Cursor → List Char → Except Fault (List Char × Cursor)
  | 0, _, _ => .error .unexpectedEnd
  | fuel + 1, cursor, read =>
      match cursor.rest with
      | [] => .error .unexpectedEnd
      | '\'' :: '\'' :: rest => singleQuoted fuel ⟨rest, cursor.column + 2⟩ ('\'' :: read)
      | '\'' :: rest => .ok (read.reverse, ⟨rest, cursor.column + 1⟩)
      | '\n' :: _ =>
          let (breaks, after) := skipBreaks 0 cursor.column cursor.rest
          if after.atMarker then .error .unexpectedEnd
          else singleQuoted fuel after ((fold breaks).reverse ++ read.dropWhile isSpace)
      | c :: rest => singleQuoted fuel ⟨rest, cursor.column + 1⟩ (c :: read)

/-- The rest of a scalar in double quotes, after the opening one. -/
def doubleQuoted : Nat → Cursor → List Char → Except Fault (List Char × Cursor)
  | 0, _, _ => .error .unexpectedEnd
  | fuel + 1, cursor, read =>
      match cursor.rest with
      | [] => .error .unexpectedEnd
      | '"' :: rest => .ok (read.reverse, ⟨rest, cursor.column + 1⟩)
      | '\\' :: '\n' :: rest =>
          let (breaks, after) := skipBreaks 0 0 rest
          doubleQuoted fuel after (List.replicate breaks '\n' ++ read)
      | '\\' :: c :: rest =>
          match shortEscape? c with
          | some meant => doubleQuoted fuel ⟨rest, cursor.column + 2⟩ (meant :: read)
          | none =>
              match longEscape? c with
              | none => .error .invalidEscape
              | some count =>
                  match hexValue? (rest.take count) with
                  | some value =>
                      if (rest.take count).length = count ∧ value.isValidChar then
                        doubleQuoted fuel (cursor.advance (count + 2)) (Char.ofNat value :: read)
                      else .error .invalidEscape
                  | none => .error .invalidEscape
      | '\n' :: _ =>
          let (breaks, after) := skipBreaks 0 cursor.column cursor.rest
          if after.atMarker then .error .unexpectedEnd
          else doubleQuoted fuel after ((fold breaks).reverse ++ read.dropWhile isSpace)
      | c :: rest => doubleQuoted fuel ⟨rest, cursor.column + 1⟩ (c :: read)

/-- A scalar in quotes, if one begins here. -/
def quotedScalar? (cursor : Cursor) : Option (Except Fault (List Char × Cursor)) :=
  match cursor.rest with
  | '\'' :: rest => some (singleQuoted (rest.length + 1) ⟨rest, cursor.column + 1⟩ [])
  | '"' :: rest => some (doubleQuoted (rest.length + 1) ⟨rest, cursor.column + 1⟩ [])
  | _ => none

end DeviceBus.Yaml
