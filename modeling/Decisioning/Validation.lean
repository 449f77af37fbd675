import Decisioning.Json.Printer
import Decisioning.Surface

/-!
# Validation

What can be asked of a JSON value, and what is reported when it is not met.

A check answers with everything that is wrong with a value. Checks of one
aspect say nothing about values that do not have it: a check on fields holds of
everything but objects, a check on items of everything but arrays. To insist on
an object takes a check of its own, so each violation is reported by itself.

## Main definitions

* `Kind`: The kinds of values that can be asked for.
* `Violation`, `Violation.message`: What is wrong with a value.
* `Check`: What is asked of a value.
* `Check.all`, `Check.field`, `Check.items`, `Check.whenField`: Checks made of
  others.
-/

namespace Decisioning

/-- A kind of JSON values. -/
inductive Kind where
  | array
  | object
  | string
  /-- A number without fraction part, however it is written. -/
  | integer
deriving DecidableEq, Repr

namespace Kind

/-- The name of a kind. -/
def name : Kind → String
  | .array => "array"
  | .object => "object"
  | .string => "string"
  | .integer => "integer"

/-- Whether a value is of a kind. -/
def holds : Kind → Json → Bool
  | .array, value => value.isArray
  | .object, value => value.isObject
  | .string, value => value.isString
  | .integer, .num (.int _) => true
  | .integer, .num (.float x) => x.toInt?.isSome
  | .integer, _ => false

end Kind

/-- What is wrong with a value. -/
inductive Violation where
  /-- The value is of none of the allowed kinds. -/
  | wrongKind (value : Json) (first : Kind) (others : List Kind)
  /-- An object lacks a field. -/
  | missingField (name : String)
  /-- A string is empty. -/
  | emptyText (value : Json)
  /-- A string does not have the form of a surface. -/
  | notSurface (value : Json)
deriving DecidableEq, Repr

/-- The blanks that end a surface: the ASCII ones and four others. -/
def surfaceBlanks : List Char :=
  [' ', '\t', '\n', '\r', '\x0b', '\x0c', '\u00a0', '\ufeff', '\u2003', '\u2029']

namespace Violation

/-- The form of a surface: a letter, scheme characters, a separator, and at
    least one character that is no blank. -/
def surfaceForm : String :=
  "^[A-Za-z][A-Za-z0-9+.-]*://[^" ++ String.ofList surfaceBlanks ++ "]+$"

/-- A text in quotes. -/
def inQuotes (text : String) : String := "\"" ++ text ++ "\""

/-- The text that reports a violation. -/
def message : Violation → String
  | .wrongKind value first [] => value.compact ++ " is not of type " ++ inQuotes first.name
  | .wrongKind value first others =>
      value.compact ++ " is not of types "
        ++ String.intercalate ", " ((first :: others).map fun kind => inQuotes kind.name)
  | .missingField name => (Json.str name).compact ++ " is a required property"
  | .emptyText value => value.compact ++ " is shorter than 1 character"
  | .notSurface value => value.compact ++ " does not match " ++ inQuotes surfaceForm

end Violation

/-- What is asked of a value: answers what is wrong with it. -/
abbrev Check := Json → List Violation

/-- Whether a text has the form of a surface. -/
def hasSurfaceForm (text : String) : Bool :=
  match splitScheme? text.toList with
  | some (c :: scheme, rest) =>
      c.isAlpha && scheme.all isSchemeChar && !rest.isEmpty
        && rest.all fun c => !surfaceBlanks.contains c
  | _ => false

namespace Check

/-- All of several checks. -/
def all (checks : List Check) : Check := fun value => checks.flatMap fun check => check value

/-- The value is of one of some kinds. -/
def kind (first : Kind) (others : List Kind) : Check := fun value =>
  if (first :: others).any fun kind => kind.holds value then []
  else [.wrongKind value first others]

/-- An object has a field. -/
def required (name : String) : Check := fun value =>
  if value.isObject && (value.get? name).isNone then [.missingField name] else []

/-- The field of an object, if it has it, passes a check. -/
def field (name : String) (check : Check) : Check := fun value =>
  match value.get? name with
  | some fieldValue => check fieldValue
  | none => []

/-- Every item of an array passes a check. -/
def items (check : Check) : Check := fun value =>
  match value with
  | .arr values => values.flatMap check
  | _ => []

/-- A value passes a check, unless it is an object whose field has another
    value than the given text. -/
def whenField (name text : String) (check : Check) : Check := fun value =>
  if (value.get? name).all fun fieldValue => fieldValue = .str text then check value else []

/-- A string is not empty. -/
def nonempty : Check := fun value =>
  if value.asString?.any String.isEmpty then [.emptyText value] else []

/-- A string has the form of a surface. -/
def surface : Check := fun value =>
  if value.asString?.all hasSurfaceForm then [] else [.notSurface value]

end Check

end Decisioning
