import Decisioning.Json.Token

/-!
# Writing JSON

The two written forms of a value: the compact one, without any blank, for
cached files and one-line answers, and the indented one for reports.

Fields are written in the order in which the object holds them, which for
canonical values is the order of the keys.

## Main definitions

* `Json.compact`: The form without blanks.
* `Json.pretty`: One item or field a line, indented by two blanks a level;
  empty containers stay on their line.
-/

namespace Decisioning

namespace Json

/-- A word as characters. -/
private def boolChars : Bool → List Char
  | true => ['t', 'r', 'u', 'e']
  | false => ['f', 'a', 'l', 's', 'e']

mutual

/-- The compact form of a value. -/
def compactChars : Json → List Char
  | .null => ['n', 'u', 'l', 'l']
  | .bool b => boolChars b
  | .num n => n.chars
  | .str s => Token.quote s
  | .arr [] => ['[', ']']
  | .arr (item :: rest) => '[' :: compactChars item ++ compactItems rest
  | .obj [] => ['\x7b', '\x7d']
  | .obj ((key, value) :: rest) =>
      '\x7b' :: Token.quote key ++ ':' :: compactChars value ++ compactFields rest

/-- The items after the first one, each after a comma, and the end of the
    array. -/
def compactItems : List Json → List Char
  | [] => [']']
  | item :: rest => ',' :: compactChars item ++ compactItems rest

/-- The fields after the first one, each after a comma, and the end of the
    object. -/
def compactFields : List (String × Json) → List Char
  | [] => ['\x7d']
  | (key, value) :: rest =>
      ',' :: Token.quote key ++ ':' :: compactChars value ++ compactFields rest

end

/-- The compact form of a value, as text. -/
def compact (value : Json) : String := String.ofList value.compactChars

/-- A new line at an indentation level. -/
def newline (level : Nat) : List Char := '\n' :: List.replicate (2 * level) ' '

mutual

/-- The indented form of a value at a level. -/
def prettyChars (level : Nat) : Json → List Char
  | .null => ['n', 'u', 'l', 'l']
  | .bool b => boolChars b
  | .num n => n.chars
  | .str s => Token.quote s
  | .arr [] => ['[', ']']
  | .arr (item :: rest) =>
      '[' :: newline (level + 1) ++ prettyChars (level + 1) item ++ prettyItems level rest
  | .obj [] => ['\x7b', '\x7d']
  | .obj ((key, value) :: rest) =>
      '\x7b' :: newline (level + 1) ++ Token.quote key ++ ':' :: ' '
        :: prettyChars (level + 1) value ++ prettyFields level rest

/-- The items after the first one and the end of the array. -/
def prettyItems (level : Nat) : List Json → List Char
  | [] => newline level ++ [']']
  | item :: rest =>
      ',' :: newline (level + 1) ++ prettyChars (level + 1) item ++ prettyItems level rest

/-- The fields after the first one and the end of the object. -/
def prettyFields (level : Nat) : List (String × Json) → List Char
  | [] => newline level ++ ['\x7d']
  | (key, value) :: rest =>
      ',' :: newline (level + 1) ++ Token.quote key ++ ':' :: ' '
        :: prettyChars (level + 1) value ++ prettyFields level rest

end

/-- The indented form of a value, as text. -/
def pretty (value : Json) : String := String.ofList (value.prettyChars 0)

end Json

end Decisioning
