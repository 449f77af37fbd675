import Decisioning.Proofs.JsonText

/-!
# Values and Their Indented Texts

Why a value comes back from its indented text as well.

The indented text has the tokens of the compact one, with blanks between them, so only
the first of the three steps of reading is another one. Between tokens the lexer passes
over blanks. Inside of a token it would not, but the blanks of the text stand where the
token before them is complete: after a bracket, a comma or a colon, and before the
bracket at the end of a container, where a blank ends a number or a word just as a
comma does.

## Theorems

* `Token.lex?_newline`: The lexer passes over the start of a line.
* `Json.lex?_prettyChars`: The lexer finds the tokens of the compact text.
* `Json.ofText?_pretty`: The value of the indented text, also with a line end after it.
-/

namespace Decisioning

namespace Token

theorem lex?_blank {c : Char} (h : isBlank c = true) (done : List Token) (rest : List Char) :
    lex? .between done ((c :: rest).map .char) = lex? .between done (rest.map .char) := by
  rw [lex?_cons, takeChar?, start?, if_pos h]
  rfl

theorem lex?_spaces (n : Nat) (done : List Token) (rest : List Char) :
    lex? .between done ((List.replicate n ' ' ++ rest).map .char)
      = lex? .between done (rest.map .char) := by
  induction n with
  | zero => rfl
  | succ n ih => rw [List.replicate_succ, List.cons_append, lex?_blank rfl, ih]

/-- The lexer passes over the start of a line. -/
theorem lex?_newline (level : Nat) (done : List Token) (rest : List Char) :
    lex? .between done ((Json.newline level ++ rest).map .char)
      = lex? .between done (rest.map .char) := by
  rw [Json.newline, List.cons_append, lex?_blank rfl, lex?_spaces]

end Token

namespace Json

section Lexing

open Token

theorem ended_prettyItems (level : Nat) (items : List Json) (rest : List Char) :
    Ended (prettyItems level items ++ rest) := by
  cases items <;> (rintro c ⟨⟩; exact ⟨by decide, by decide⟩)

theorem ended_prettyFields (level : Nat) (fields : List (String × Json)) (rest : List Char) :
    Ended (prettyFields level fields ++ rest) := by
  rcases fields with _ | ⟨⟨key, value⟩, fields⟩ <;>
    (rintro c ⟨⟩; exact ⟨by decide, by decide⟩)

mutual

/-- The lexer finds the tokens of a value in its indented text at any level, with any
    text after it that does not go on with a number or a word. -/
theorem lex?_prettyChars : ∀ (value : Json) (_ : value.HasWords) (level : Nat)
    (done : List Token) {rest : List Char} (_ : Ended rest),
    lex? .between done ((value.prettyChars level ++ rest).map .char)
      = lex? .between (value.tokens.reverse ++ done) (rest.map .char)
  | .null, _, _, done, _, hrest => lex?_null done hrest
  | .bool true, _, _, done, _, hrest => lex?_true done hrest
  | .bool false, _, _, done, _, hrest => lex?_false done hrest
  | .num _, hwords, _, done, _, hrest => lex?_number hwords done hrest
  | .str s, _, _, done, rest, _ => lex?_quote s done rest
  | .arr [], _, _, _, _, _ => rfl
  | .arr (item :: items), hwords, level, done, rest, _ => by
      rw [prettyChars]
      simp only [List.cons_append, List.append_assoc]
      rw [lex?_punctuation rfl, lex?_newline,
        lex?_prettyChars item hwords.1 _ _ (ended_prettyItems level items rest),
        lex?_prettyItems items hwords.2, tokens]
      simp only [List.reverse_cons, List.reverse_append, List.cons_append, List.append_assoc,
        List.nil_append]
  | .obj [], _, _, _, _, _ => rfl
  | .obj ((key, value) :: fields), hwords, level, done, rest, _ => by
      rw [prettyChars]
      simp only [List.cons_append, List.append_assoc]
      rw [lex?_punctuation rfl, lex?_newline, lex?_quote, lex?_punctuation rfl, lex?_blank rfl,
        lex?_prettyChars value hwords.1 _ _ (ended_prettyFields level fields rest),
        lex?_prettyFields fields hwords.2, tokens]
      simp only [List.reverse_cons, List.reverse_append, List.cons_append, List.append_assoc,
        List.nil_append]

/-- The same for the items after the first one, to the end of the array. -/
theorem lex?_prettyItems : ∀ (items : List Json) (_ : AllHaveWords items) (level : Nat)
    (done : List Token) (rest : List Char),
    lex? .between done ((prettyItems level items ++ rest).map .char)
      = lex? .between ((itemTokens items).reverse ++ done) (rest.map .char)
  | [], _, level, done, rest => by
      -- The bracket is on a line of its own.
      rw [prettyItems, List.append_assoc, lex?_newline]
      rfl
  | item :: items, hwords, level, done, rest => by
      rw [prettyItems]
      simp only [List.cons_append, List.append_assoc]
      rw [lex?_punctuation rfl, lex?_newline,
        lex?_prettyChars item hwords.1 _ _ (ended_prettyItems level items rest),
        lex?_prettyItems items hwords.2, itemTokens]
      simp only [List.reverse_cons, List.reverse_append, List.cons_append, List.append_assoc,
        List.nil_append]

/-- The same for the fields after the first one, to the end of the object. -/
theorem lex?_prettyFields : ∀ (fields : List (String × Json)) (_ : FieldsHaveWords fields)
    (level : Nat) (done : List Token) (rest : List Char),
    lex? .between done ((prettyFields level fields ++ rest).map .char)
      = lex? .between ((fieldTokens fields).reverse ++ done) (rest.map .char)
  | [], _, level, done, rest => by
      rw [prettyFields, List.append_assoc, lex?_newline]
      rfl
  | (key, value) :: fields, hwords, level, done, rest => by
      rw [prettyFields]
      simp only [List.cons_append, List.append_assoc]
      rw [lex?_punctuation rfl, lex?_newline, lex?_quote, lex?_punctuation rfl, lex?_blank rfl,
        lex?_prettyChars value hwords.1 _ _ (ended_prettyFields level fields rest),
        lex?_prettyFields fields hwords.2, fieldTokens]
      simp only [List.reverse_cons, List.reverse_append, List.cons_append, List.append_assoc,
        List.nil_append]

end

end Lexing

/-- A value comes back from its indented text, with or without the end of the line. -/
theorem ofText?_pretty {value : Json} (hcanonical : value.IsCanonical) (hwords : value.HasWords)
    (hnesting : value.nesting ≤ maxDepth) :
    ofText? value.pretty = some value ∧ ofText? (value.pretty ++ "\n") = some value := by
  have hended : Token.Ended ['\n'] := by
    rintro c ⟨⟩
    exact ⟨by decide, by decide⟩
  have hlex := lex?_prettyChars value hwords 0 [] Token.ended_nil
  rw [List.append_nil, List.append_nil] at hlex
  have hlexLine := lex?_prettyChars value hwords 0 [] hended
  rw [List.append_nil, Token.lex?_blank rfl] at hlexLine
  have hline : value.pretty ++ "\n" = String.ofList (value.prettyChars 0 ++ ['\n']) := by
    rw [String.ofList_append]
    rfl
  refine ⟨ofText?_of_tree (ofPieces?_of_lex? hlex) hcanonical hnesting, ?_⟩
  rw [hline]
  exact ofText?_of_tree (ofPieces?_of_lex? hlexLine) hcanonical hnesting

end Json

end Decisioning
