import Decisioning.Toml.Group
import Decisioning.Toml.Scalar
import Decisioning.Toml.Table

/-!
# TOML Documents

Reading a text as a table.

A text is cut into lines, of which each holds at most one statement: a header,
or a key and its value. Values and inline tables are read from the inside out,
so a group is turned into a value before the line around it is looked at.

## Main definitions

* `Toml.key?`: A dotted key.
* `Toml.value?`, `Toml.field?`: A value, and a key with its value.
* `Toml.Statement`: What a line says.
* `Toml.ofText?`: The table that a text denotes.
-/

namespace Decisioning

namespace Toml

/-- A token, or the value of a group of tokens. -/
inductive Part where
  | token (t : Token)
  | value (v : Toml)
deriving Inhabited

/-- How deep arrays and inline tables may nest. -/
def maxDepth : Nat := 79

/-- How many parts a dotted key may have. -/
def maxKeyParts : Nat := 79

/-- Drop elements from both ends of a list. -/
def trim {α : Type} (isBlank : α → Bool) (xs : List α) : List α :=
  ((xs.dropWhile isBlank).reverse.dropWhile isBlank).reverse

/-- Cut a list at separators; there is one piece more than there are separators. -/
def pieces {α : Type} (isSeparator : α → Bool) : List α → List (List α)
  | [] => [[]]
  | x :: rest =>
      if isSeparator x then [] :: pieces isSeparator rest
      else
        match pieces isSeparator rest with
        | piece :: others => (x :: piece) :: others
        | [] => [[x]]

/-- Whether a token is a blank within a line. -/
def Token.isSpace : Token → Bool
  | .blank _ => true
  | _ => false

/-- One part of a dotted key. -/
def keyPart? (tokens : List Token) : Option String :=
  match trim Token.isSpace tokens with
  | [.bare text] => some text
  | [.string false value] => some value
  | _ => none

/-- A dotted key. -/
def key? (tokens : List Token) : Option (List String) :=
  let parts := pieces (· = .mark '.') tokens
  if maxKeyParts < parts.length then none else parts.mapM keyPart?

namespace Part

/-- The token that a part is. -/
def token? : Part → Option Token
  | token t => some t
  | value _ => none

/-- Whether a part is a certain token. -/
def isToken (t : Token) (p : Part) : Bool := p.token? = some t

/-- Whether a part is a blank within a line. -/
def isSpace (p : Part) : Bool := p.token?.any Token.isSpace

/-- Whether a part is a blank or a line end. -/
def isBlank (p : Part) : Bool := p.isSpace || p.isToken .newline

/-- The text of a part of an unquoted literal. A blank counts, as it may stand
    between a date and a time. -/
def literal? : Part → Option String
  | token (.bare text) | token (.blank text) => some text
  | token (.mark c) => some (String.ofList [c])
  | _ => none

end Part

/-- The value that parts, without blanks around them, write. -/
def value? : List Part → Option Toml
  | [.value v] => some v
  | [.token (.string _ s)] => some (.string s)
  | parts => (parts.mapM Part.literal?).bind fun texts => ofLiteral? (String.join texts)

/-- A key and its value. -/
def field? (parts : List Part) : Option (List String × Toml) :=
  let (key, rest) := parts.span fun p => !p.isToken .equals
  match rest with
  | [] => none
  | _ :: value => do
      return (← key? (← key.mapM Part.token?), ← value? (trim Part.isSpace value))

/-- The value of an array with the given content. A comma may follow the last
    item. -/
def array? (content : List Part) : Option Toml :=
  let items := (pieces (Part.isToken .comma) content).map (trim Part.isBlank)
  let items := if items.getLast?.any List.isEmpty then items.dropLast else items
  (items.mapM value?).map .array

/-- The value of an inline table with the given content. -/
def inlineTable? (content : List Part) : Option Toml :=
  if content.all Part.isSpace then some (.table .inline [])
  else do
    let fields ← (pieces (Part.isToken .comma) content).mapM field?
    let entries ← fields.foldlM (fun entries (path, value) => bind? true value path entries) []
    return .table .inline entries

mutual

/-- The part that a group is, with groups nesting at most `depth` deep. -/
def part? (depth : Nat) : Group → Option Part
  | .token t => some (.token t)
  | .brackets content =>
      if depth = 0 then none
      else ((parts? (depth - 1) content).bind array?).map .value
  | .braces content =>
      if depth = 0 then none
      else ((parts? (depth - 1) content).bind inlineTable?).map .value

/-- The parts that a list of groups is. -/
def parts? (depth : Nat) : List Group → Option (List Part)
  | [] => some []
  | g :: rest =>
      match part? depth g, parts? depth rest with
      | some p, some ps => some (p :: ps)
      | _, _ => none

end

/-- What a line says. -/
inductive Statement where
  /-- Give a value to a key of the current table. -/
  | assign (path : List String) (value : Toml)
  /-- Make a new table the current one. -/
  | table (path : List String)
  /-- Make a further table under a repeated header the current one. -/
  | element (path : List String)

namespace Statement

/-- The token that a group is. -/
def token? : Group → Option Token
  | .token t => some t
  | _ => none

/-- The dotted key between the brackets of a header. -/
def headerKey? (content : List Group) : Option (List String) :=
  (content.mapM token?).bind key?

/-- The statement of a line that is not blank. -/
def ofGroups? (line : List Group) : Option Statement :=
  match trim (fun g => (token? g).any Token.isSpace) line with
  | [.brackets [.brackets content]] => (headerKey? content).map element
  | [.brackets content] => (headerKey? content).map table
  | groups => do
      let (path, value) ← field? (← parts? maxDepth groups)
      return assign path value

/-- The statement of a line, if there is one on it. -/
def ofLine? (line : List Group) : Option (Option Statement) :=
  if line.all fun g => (token? g).any Token.isSpace then some none
  else (ofGroups? line).map some

end Statement

/-- A document so far: its entries and the path of its current table. -/
structure Draft where
  entries : Entries
  current : List String

namespace Draft

/-- Carry out a statement. -/
def add? (draft : Draft) : Statement → Option Draft
  | .assign path value =>
      (atTable? (bind? true value path) draft.current draft.entries).map fun entries =>
        { draft with entries }
  | .table path => header? declare? path
  | .element path => header? append? path
where
  /-- Carry out a header. -/
  header? (add? : String → Entries → Option Entries) (path : List String) : Option Draft :=
    path.getLast?.bind fun key =>
      (atTable? (add? key) path.dropLast draft.entries).map fun entries =>
        { entries, current := path }

end Draft

/-- A text without the mark that may stand in front of it. -/
def withoutMark : List Char → List Char
  | '\uFEFF' :: rest => rest
  | cs => cs

/-- The entries of the table that a text denotes. -/
def ofText? (text : String) : Option Entries := do
  let groups ← Group.ofTokens? (← Token.ofChars? (withoutMark text.toList))
  let statements ← (Group.lines groups).mapM Statement.ofLine?
  let draft ← (statements.filterMap id).foldlM Draft.add? { entries := [], current := [] }
  return draft.entries

end Toml

end Decisioning
