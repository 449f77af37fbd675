import Decisioning.Json.Printer
import Decisioning.Json.Raw
import Decisioning.Proofs.Lexing
import Decisioning.Proofs.SortedMap

/-!
# Values and Their Texts

Why a value comes back from its compact text.

A text is read in three steps, and each undoes a part of the writing. The lexer
finds the tokens that were written, the parser builds the tree that they spell, and
the tree has the value that was written. Each step goes on with what follows, be
it text, tokens or open containers, so each is stated for a value with anything
after it and then holds for what is inside of containers as well.

Three things can keep a value from coming back, and each concerns one step. A
number has to be read as the number that it was, which is known here of integers
that fit in 64 bits. A value must not nest deeper than the reader goes. And the
fields of an object must be in key order with each key once, which is how the
reader leaves them, `IsCanonical`.

## Main definitions

* `Json.HasWords`: All numbers of a value are integers that fit in 64 bits.
* `Json.nesting`: How deep arrays and objects nest.
* `Json.tokens`: The tokens of the compact text.
* `Json.tree`: The syntax tree of the compact text.

## Theorems

* `Json.lex?_compactChars`: The lexer finds the tokens.
* `Json.run?_tokens`: The parser builds the tree.
* `Json.value?_tree`: The tree has the value.
* `Json.ofPieces?_of_lex?`, `Json.ofText?_of_tree`: From the tokens of a text to its
  value, whatever stands between the tokens.
* `Json.ofPieces?_compact`: The tree of the compact text.
* `Json.ofText?_compact`: The value of the compact text.
-/

namespace Decisioning

namespace Json

mutual

/-- All numbers of a value are integers that fit in 64 bits. -/
def HasWords : Json → Prop
  | .null | .bool _ | .str _ => True
  | .num n => n.IsWord
  | .arr items => AllHaveWords items
  | .obj fields => FieldsHaveWords fields

/-- All numbers in a list of values are such integers. -/
def AllHaveWords : List Json → Prop
  | [] => True
  | item :: rest => HasWords item ∧ AllHaveWords rest

/-- All numbers in a list of fields are such integers. -/
def FieldsHaveWords : List (String × Json) → Prop
  | [] => True
  | (_, value) :: rest => HasWords value ∧ FieldsHaveWords rest

end

mutual

/-- How deep arrays and objects nest in a value. -/
def nesting : Json → Nat
  | .null | .bool _ | .num _ | .str _ => 0
  | .arr items => itemNesting items + 1
  | .obj fields => fieldNesting fields + 1

/-- How deep they nest in the items of an array. -/
def itemNesting : List Json → Nat
  | [] => 0
  | item :: rest => max (nesting item) (itemNesting rest)

/-- How deep they nest in the fields of an object. -/
def fieldNesting : List (String × Json) → Nat
  | [] => 0
  | (_, value) :: rest => max (nesting value) (fieldNesting rest)

end

mutual

/-- The tokens of the compact text of a value. -/
def tokens : Json → List Token
  | .null => [.null]
  | .bool b => [.bool b]
  | .num n => [.number (some n)]
  | .str s => [.string (some s)]
  | .arr [] => [.openArray, .closeArray]
  | .arr (item :: rest) => .openArray :: tokens item ++ itemTokens rest
  | .obj [] => [.openObject, .closeObject]
  | .obj ((key, value) :: rest) =>
      .openObject :: .string (some key) :: .colon :: tokens value ++ fieldTokens rest

/-- The tokens of the items after the first one and of the end of the array. -/
def itemTokens : List Json → List Token
  | [] => [.closeArray]
  | item :: rest => .comma :: tokens item ++ itemTokens rest

/-- The tokens of the fields after the first one and of the end of the object. -/
def fieldTokens : List (String × Json) → List Token
  | [] => [.closeObject]
  | (key, value) :: rest =>
      .comma :: .string (some key) :: .colon :: tokens value ++ fieldTokens rest

end

mutual

/-- The syntax tree of the text of a value. -/
def tree : Json → RawJson
  | .null => .null
  | .bool b => .bool b
  | .num n => .number (some n)
  | .str s => .string (some s)
  | .arr items => .array (itemTrees items)
  | .obj fields => .object (fieldTrees fields)

/-- The syntax trees of the items of an array. -/
def itemTrees : List Json → List RawJson
  | [] => []
  | item :: rest => tree item :: itemTrees rest

/-- The keys of an object with the syntax trees of their values. -/
def fieldTrees : List (String × Json) → List (Option String × RawJson)
  | [] => []
  | (key, value) :: rest => (some key, tree value) :: fieldTrees rest

end

section Lexing

open Token

theorem ended_compactItems (items : List Json) (rest : List Char) :
    Ended (compactItems items ++ rest) := by
  cases items <;> (rintro c ⟨⟩; exact ⟨by decide, by decide⟩)

theorem ended_compactFields (fields : List (String × Json)) (rest : List Char) :
    Ended (compactFields fields ++ rest) := by
  rcases fields with _ | ⟨⟨key, value⟩, fields⟩ <;>
    (rintro c ⟨⟩; exact ⟨by decide, by decide⟩)

mutual

/-- The lexer finds the tokens of a value in its compact text, with any text after
    it that does not go on with a number or a word. -/
theorem lex?_compactChars : ∀ (value : Json) (_ : value.HasWords) (done : List Token)
    {rest : List Char} (_ : Ended rest),
    lex? .between done ((compactChars value ++ rest).map .char)
      = lex? .between (value.tokens.reverse ++ done) (rest.map .char)
  | .null, _, done, _, hrest => lex?_null done hrest
  | .bool true, _, done, _, hrest => lex?_true done hrest
  | .bool false, _, done, _, hrest => lex?_false done hrest
  | .num _, hwords, done, _, hrest => lex?_number hwords done hrest
  | .str s, _, done, rest, _ => lex?_quote s done rest
  | .arr [], _, _, _, _ => rfl
  | .arr (item :: items), hwords, done, rest, _ => by
      rw [compactChars, List.cons_append, List.cons_append, List.append_assoc,
        lex?_punctuation rfl,
        lex?_compactChars item hwords.1 _ (ended_compactItems items rest),
        lex?_compactItems items hwords.2, tokens]
      simp only [List.reverse_cons, List.reverse_append, List.cons_append, List.append_assoc,
        List.nil_append]
  | .obj [], _, _, _, _ => rfl
  | .obj ((key, value) :: fields), hwords, done, rest, _ => by
      rw [compactChars]
      simp only [List.cons_append, List.append_assoc]
      rw [lex?_punctuation rfl, lex?_quote, lex?_punctuation rfl,
        lex?_compactChars value hwords.1 _ (ended_compactFields fields rest),
        lex?_compactFields fields hwords.2, tokens]
      simp only [List.reverse_cons, List.reverse_append, List.cons_append, List.append_assoc,
        List.nil_append]

/-- The same for the items after the first one, to the end of the array. -/
theorem lex?_compactItems : ∀ (items : List Json) (_ : AllHaveWords items) (done : List Token)
    (rest : List Char),
    lex? .between done ((compactItems items ++ rest).map .char)
      = lex? .between ((itemTokens items).reverse ++ done) (rest.map .char)
  | [], _, _, _ => rfl
  | item :: items, hwords, done, rest => by
      rw [compactItems, List.cons_append, List.cons_append, List.append_assoc,
        lex?_punctuation rfl,
        lex?_compactChars item hwords.1 _ (ended_compactItems items rest),
        lex?_compactItems items hwords.2, itemTokens]
      simp only [List.reverse_cons, List.reverse_append, List.cons_append, List.append_assoc,
        List.nil_append]

/-- The same for the fields after the first one, to the end of the object. -/
theorem lex?_compactFields : ∀ (fields : List (String × Json)) (_ : FieldsHaveWords fields)
    (done : List Token) (rest : List Char),
    lex? .between done ((compactFields fields ++ rest).map .char)
      = lex? .between ((fieldTokens fields).reverse ++ done) (rest.map .char)
  | [], _, _, _ => rfl
  | (key, value) :: fields, hwords, done, rest => by
      rw [compactFields]
      simp only [List.cons_append, List.append_assoc]
      rw [lex?_punctuation rfl, lex?_quote, lex?_punctuation rfl,
        lex?_compactChars value hwords.1 _ (ended_compactFields fields rest),
        lex?_compactFields fields hwords.2, fieldTokens]
      simp only [List.reverse_cons, List.reverse_append, List.cons_append, List.append_assoc,
        List.nil_append]

end

end Lexing

section Parsing

open RawJson

theorem run?_cons (state : ParseState) (token : Token) (rest : List Token) :
    run? state (token :: rest) = (step? token state).bind fun next => run? next rest := by
  rw [run?]
  cases step? token state <;> rfl

/-- The first token of a value does not end the array that was just opened. -/
theorem run?_firstItem (value : Json) (stack : List Frame) (rest : List Token) :
    run? (.firstItem stack) (value.tokens ++ rest)
      = run? (.value stack) (value.tokens ++ rest) := by
  cases value with
  | null | bool _ | num _ | str _ => rfl
  | arr items => cases items <;> rfl
  | obj fields => rcases fields with _ | ⟨⟨key, value⟩, fields⟩ <;> rfl

mutual

/-- The parser builds the tree of a value from its tokens and hands it to what is
    still open. -/
theorem run?_tokens : ∀ (value : Json) (stack : List Frame) (rest : List Token),
    run? (.value stack) (value.tokens ++ rest)
      = (deliver value.tree stack).bind fun next => run? next rest
  | .null, stack, rest => run?_cons (.value stack) .null rest
  | .bool b, stack, rest => run?_cons (.value stack) (.bool b) rest
  | .num n, stack, rest => run?_cons (.value stack) (.number (some n)) rest
  | .str s, stack, rest => run?_cons (.value stack) (.string (some s)) rest
  | .arr [], stack, rest => run?_cons (.firstItem (.items [] :: stack)) .closeArray rest
  | .arr (item :: items), stack, rest => by
      rw [tokens, List.cons_append, List.cons_append, List.append_assoc]
      change run? (.firstItem (.items [] :: stack)) _ = _
      rw [run?_firstItem, run?_tokens item]
      exact run?_itemTokens items [tree item] stack rest
  | .obj [], stack, rest => run?_cons (.firstKey (.fields [] :: stack)) .closeObject rest
  | .obj ((key, value) :: fields), stack, rest => by
      rw [tokens]
      simp only [List.cons_append, List.append_assoc]
      change run? (.value (.field [] (some key) :: stack)) _ = _
      rw [run?_tokens value]
      exact run?_fieldTokens fields [(some key, tree value)] stack rest

/-- The parser adds the items after the first one to an array and ends it. -/
theorem run?_itemTokens : ∀ (items : List Json) (done : List RawJson) (stack : List Frame)
    (rest : List Token),
    run? (.next (.items done :: stack)) (itemTokens items ++ rest)
      = (deliver (.array (done.reverse ++ itemTrees items)) stack).bind fun next => run? next rest
  | [], done, stack, rest => by
      rw [itemTrees, List.append_nil]
      exact run?_cons (.next (.items done :: stack)) .closeArray rest
  | item :: items, done, stack, rest => by
      rw [itemTokens, List.cons_append, List.cons_append, List.append_assoc]
      change run? (.value (.items done :: stack)) _ = _
      rw [run?_tokens item]
      change run? (.next (.items (tree item :: done) :: stack)) _ = _
      rw [run?_itemTokens items, List.reverse_cons, List.append_assoc]
      rfl

/-- The parser adds the fields after the first one to an object and ends it. -/
theorem run?_fieldTokens : ∀ (fields : List (String × Json))
    (done : List (Option String × RawJson)) (stack : List Frame) (rest : List Token),
    run? (.next (.fields done :: stack)) (fieldTokens fields ++ rest)
      = (deliver (.object (done.reverse ++ fieldTrees fields)) stack).bind
          fun next => run? next rest
  | [], done, stack, rest => by
      rw [fieldTrees, List.append_nil]
      exact run?_cons (.next (.fields done :: stack)) .closeObject rest
  | (key, value) :: fields, done, stack, rest => by
      rw [fieldTokens]
      simp only [List.cons_append, List.append_assoc]
      change run? (.value (.field done (some key) :: stack)) _ = _
      rw [run?_tokens value]
      change run? (.next (.fields ((some key, tree value) :: done) :: stack)) _ = _
      rw [run?_fieldTokens fields, List.reverse_cons, List.append_assoc]
      rfl

end

theorem ofTokens?_tokens (value : Json) : ofTokens? value.tokens = some value.tree := by
  have hrun := run?_tokens value [] []
  rw [List.append_nil] at hrun
  rw [ofTokens?, hrun]
  rfl

end Parsing

/-- A text in which the lexer finds the tokens of a value spells the tree of the value. -/
theorem ofPieces?_of_lex? {value : Json} {cs : List Char}
    (hlex : Token.lex? .between [] (cs.map .char)
      = Token.lex? .between value.tokens.reverse []) :
    RawJson.ofPieces? (TextPiece.ofText (String.ofList cs)) = some value.tree := by
  have htokens : Token.ofPieces? (TextPiece.ofText (String.ofList cs)) = some value.tokens := by
    rw [Token.ofPieces?, TextPiece.ofText, String.toList_ofList, hlex]
    change some (value.tokens.reverse.reverse ++ []) = _
    rw [List.reverse_reverse, List.append_nil]
  rw [RawJson.ofPieces?, htokens]
  exact ofTokens?_tokens value

/-- The compact text of a value spells its tree. -/
theorem ofPieces?_compact {value : Json} (hwords : value.HasWords) :
    RawJson.ofPieces? (TextPiece.ofText value.compact) = some value.tree := by
  have hlex := lex?_compactChars value hwords [] Token.ended_nil
  rw [List.append_nil, List.append_nil] at hlex
  exact ofPieces?_of_lex? hlex

section Values

open RawJson

/-- Entries in key order stay where they are when they are sorted. -/
theorem sortEntries_of_isSorted {fields : List (String × Json)} (h : IsSorted fields) :
    sortEntries fields = fields :=
  congrArg SortedMap.entries (SortedMap.ofList_entries ⟨fields, h⟩)

mutual

/-- The tree of a canonical value has that value, if the reader goes deep enough. -/
theorem value?_tree : ∀ (value : Json) (_ : value.IsCanonical) {depth : Nat}
    (_ : value.nesting ≤ depth), value? depth value.tree = some value
  | .null, _, _, _ => rfl
  | .bool _, _, _, _ => rfl
  | .num _, _, _, _ => rfl
  | .str _, _, _, _ => rfl
  | .arr items, hcanonical, depth, hdepth => by
      rw [nesting] at hdepth
      rw [tree, value?, if_neg (by omega), items?_itemTrees items hcanonical (by omega)]
      rfl
  | .obj fields, hcanonical, depth, hdepth => by
      rw [nesting] at hdepth
      rw [tree, value?, if_neg (by omega), fields?_fieldTrees fields hcanonical.2 (by omega),
        Option.map_some, sortEntries_of_isSorted hcanonical.1]

/-- The trees of canonical values have these values. -/
theorem items?_itemTrees : ∀ (items : List Json) (_ : AllCanonical items) {depth : Nat}
    (_ : itemNesting items ≤ depth), items? depth (itemTrees items) = some items
  | [], _, _, _ => rfl
  | item :: items, hcanonical, depth, hdepth => by
      rw [itemNesting] at hdepth
      rw [itemTrees, items?, value?_tree item hcanonical.1 (by omega),
        items?_itemTrees items hcanonical.2 (by omega)]

/-- The trees of fields with canonical values have these fields. -/
theorem fields?_fieldTrees : ∀ (fields : List (String × Json)) (_ : FieldsCanonical fields)
    {depth : Nat} (_ : fieldNesting fields ≤ depth),
    fields? depth (fieldTrees fields) = some fields
  | [], _, _, _ => rfl
  | (key, value) :: fields, hcanonical, depth, hdepth => by
      rw [fieldNesting] at hdepth
      have hvalue : value? depth value.tree = some value :=
        value?_tree value hcanonical.1 (by omega)
      have hfields : fields? depth (fieldTrees fields) = some fields :=
        fields?_fieldTrees fields hcanonical.2 (by omega)
      simp only [fieldTrees, fields?, hvalue, hfields]

end

/-- A value comes back from any text that spells its tree. -/
theorem ofText?_of_tree {value : Json} {text : String}
    (htree : RawJson.ofPieces? (TextPiece.ofText text) = some value.tree)
    (hcanonical : value.IsCanonical) (hnesting : value.nesting ≤ maxDepth) :
    ofText? text = some value := by
  rw [Json.ofText?, RawJson.ofText?, htree, Option.bind_some,
    value?_tree value hcanonical hnesting]

/-- A value comes back from its compact text. -/
theorem ofText?_compact {value : Json} (hcanonical : value.IsCanonical) (hwords : value.HasWords)
    (hnesting : value.nesting ≤ maxDepth) : ofText? value.compact = some value :=
  ofText?_of_tree (ofPieces?_compact hwords) hcanonical hnesting

end Values

end Json

end Decisioning
