import Decisioning.Json.Token

/-!
# Reading JSON

From tokens to syntax trees, and from syntax trees to values.

The grammar is checked by a machine that takes one token at a time and keeps
the containers that are still open on a stack, so it needs no look-ahead and
its recursion is over the tokens. It answers a syntax tree, in which fields
stand in the order of the text, with repetitions, and in which a token without
value may occur.

A value is asked of a tree in a second step. There a repeated key keeps its
last value, the fields are put in key order, and a tree that nests too deep or
holds a token without value has no value. A record that ignores some of its
fields can be read from a tree even if the ignored part has no value.

## Main definitions

* `RawJson`: Syntax trees.
* `RawJson.ofTokens?`: The grammar.
* `RawJson.value?`: The value of a tree, nested at most to a given depth.
* `Json.ofText?`: The value of a text.
-/

namespace Decisioning

/-- The syntax tree of a JSON text. -/
inductive RawJson where
  | null
  | bool (value : Bool)
  | number (value : Option Number)
  | string (value : Option String)
  | array (items : List RawJson)
  | object (fields : List (Option String × RawJson))
deriving Repr, Inhabited

namespace RawJson

/-- A container that is still open; its contents are held in reverse. -/
inductive Frame where
  /-- An array. -/
  | items (done : List RawJson)
  /-- An object between two fields. -/
  | fields (done : List (Option String × RawJson))
  /-- An object inside a field with the given key. -/
  | field (done : List (Option String × RawJson)) (key : Option String)

/-- What may come next, and the open containers, innermost first. -/
inductive ParseState where
  /-- A value. -/
  | value (stack : List Frame)
  /-- A value, or the end of the array that was just opened. -/
  | firstItem (stack : List Frame)
  /-- A key, or the end of the object that was just opened. -/
  | firstKey (stack : List Frame)
  /-- A key. -/
  | key (stack : List Frame)
  /-- The colon after a key. -/
  | colon (stack : List Frame)
  /-- A comma, or the end of the innermost container. -/
  | next (stack : List Frame)
  /-- Nothing: the text is complete. -/
  | complete (tree : RawJson)

/-- Hand a complete value to the innermost open container. -/
def deliver (tree : RawJson) : List Frame → Option ParseState
  | [] => some (.complete tree)
  | .items done :: stack => some (.next (.items (tree :: done) :: stack))
  | .field done key :: stack => some (.next (.fields ((key, tree) :: done) :: stack))
  | .fields _ :: _ => none

/-- Take the first token of a value. -/
def begin? (token : Token) (stack : List Frame) : Option ParseState :=
  match token with
  | .null => deliver .null stack
  | .bool b => deliver (.bool b) stack
  | .number n => deliver (.number n) stack
  | .string s => deliver (.string s) stack
  | .openArray => some (.firstItem (.items [] :: stack))
  | .openObject => some (.firstKey (.fields [] :: stack))
  | .closeArray | .closeObject | .comma | .colon => none

/-- Take a key of the innermost object. -/
def takeKey? (token : Token) : List Frame → Option ParseState
  | .fields done :: stack =>
      match token with
      | .string key => some (.colon (.field done key :: stack))
      | _ => none
  | _ => none

/-- End the innermost container. -/
def close? (token : Token) : List Frame → Option ParseState
  | .items done :: stack =>
      if token = .closeArray then deliver (.array done.reverse) stack else none
  | .fields done :: stack =>
      if token = .closeObject then deliver (.object done.reverse) stack else none
  | _ => none

/-- Go on in the innermost container after a comma. -/
def continue? : List Frame → Option ParseState
  | .items done :: stack => some (.value (.items done :: stack))
  | .fields done :: stack => some (.key (.fields done :: stack))
  | _ => none

/-- Take one token. -/
def step? (token : Token) : ParseState → Option ParseState
  | .value stack => begin? token stack
  | .firstItem stack => if token = .closeArray then close? token stack else begin? token stack
  | .firstKey stack => if token = .closeObject then close? token stack else takeKey? token stack
  | .key stack => takeKey? token stack
  | .colon stack => if token = .colon then some (.value stack) else none
  | .next stack => if token = .comma then continue? stack else close? token stack
  | .complete _ => none

/-- Take all tokens of a list. -/
def run? : ParseState → List Token → Option ParseState
  | state, [] => some state
  | state, token :: rest =>
      match step? token state with
      | none => none
      | some state' => run? state' rest

/-- The syntax tree of a list of tokens. -/
def ofTokens? (tokens : List Token) : Option RawJson :=
  match run? (.value []) tokens with
  | some (.complete tree) => some tree
  | _ => none

/-- The syntax tree of the pieces of a text. -/
def ofPieces? (pieces : List TextPiece) : Option RawJson :=
  (Token.ofPieces? pieces).bind ofTokens?

/-- The syntax tree of a text. -/
def ofText? (text : String) : Option RawJson := ofPieces? (TextPiece.ofText text)

mutual

/-- The value of a tree that nests arrays and objects at most `depth` deep. -/
def value? (depth : Nat) : RawJson → Option Json
  | .null => some .null
  | .bool b => some (.bool b)
  | .number n => n.map .num
  | .string s => s.map .str
  | .array items =>
      if depth = 0 then none else (items? (depth - 1) items).map .arr
  | .object fields =>
      if depth = 0 then none
      else (fields? (depth - 1) fields).map fun fs => .obj (sortEntries fs)

/-- The values of a list of trees. -/
def items? (depth : Nat) : List RawJson → Option (List Json)
  | [] => some []
  | tree :: rest =>
      match value? depth tree, items? depth rest with
      | some value, some values => some (value :: values)
      | _, _ => none

/-- The keys and values of a list of fields, in the order of the text. -/
def fields? (depth : Nat) : List (Option String × RawJson) → Option (List (String × Json))
  | [] => some []
  | (key, tree) :: rest =>
      match key, value? depth tree, fields? depth rest with
      | some key, some value, some fields => some ((key, value) :: fields)
      | _, _, _ => none

end

end RawJson

namespace Json

/-- How deep arrays and objects may nest in a text. -/
def maxDepth : Nat := 127

/-- Read a text as a value. -/
def ofText? (text : String) : Option Json :=
  (RawJson.ofText? text).bind (RawJson.value? maxDepth)

end Json

end Decisioning
