import Decisioning.Proofs.Numeral

/-!
# Reading Written Tokens

What the lexer makes of tokens as they are written.

The lexer does not look ahead, so it only knows that a number or a word has ended
when it meets a character that cannot continue it. In a written value that is a
comma, the end of a container or the end of the text, and `Ended` says so of what
comes next. Punctuation and strings end by themselves.

Inside a string every character stands for itself, but for quotes, backslashes and
control characters. Each of those is escaped, with a letter or as a UTF-16 unit,
and a unit that small is no half of a surrogate pair. So the parts of a string
literal are read one by one, whatever stands next to them.

## Main definitions

* `Token.Ended`: What comes next continues neither a number nor a word.
* `Token.writtenPart`: What the lexer makes of a written character.

## Theorems

* `Token.lex?_of_complete`: A token that is ended from outside.
* `Token.lex?_number`, `lex?_null`, `lex?_true`, `lex?_false`: Numbers and words.
* `Token.resolve?_writtenPart`: The parts of a string are its characters.
* `Token.lex?_quote`: Strings.
-/

namespace Decisioning

namespace Token

/-- What comes next continues neither a number nor a word. -/
def Ended (rest : List Char) : Prop :=
  ∀ c ∈ rest.head?, isNumeric c = false ∧ isLetter c = false

theorem ended_nil : Ended [] := fun _ hc => nomatch hc

theorem lex?_cons (state : LexState) (done : List Token) (c : Char) (rest : List Char) :
    lex? state done ((c :: rest).map .char)
      = match takeChar? c state with
        | none => none
        | some (next, tokens) => lex? next (tokens.reverse ++ done) (rest.map .char) := rfl

/-- A character that completes a token on its own. -/
theorem lex?_punctuation {c : Char} {token : Token} (h : start? c = some (.between, [token]))
    (done : List Token) (rest : List Char) :
    lex? .between done ((c :: rest).map .char) = lex? .between (token :: done) (rest.map .char) := by
  rw [lex?_cons, takeChar?, h]
  rfl

/-- A token that is complete when what comes next does not continue it, and is not
    lost at the end of the text. -/
theorem lex?_of_complete {state : LexState} {token : Token}
    (hfinish : finish? state = some [token])
    (htake : ∀ c, isNumeric c = false → isLetter c = false →
      takeChar? c state = (start? c).map fun next => (next.1, token :: next.2))
    (done : List Token) {rest : List Char} (hrest : Ended rest) :
    lex? state done (rest.map .char) = lex? .between (token :: done) (rest.map .char) := by
  cases rest with
  | nil =>
      change (finish? state).map _ = some ((token :: done).reverse ++ [])
      rw [hfinish, Option.map_some, List.reverse_cons, List.append_nil]
  | cons c rest =>
      rcases hrest c rfl with ⟨hnumeric, hletter⟩
      rw [lex?_cons, lex?_cons, htake c hnumeric hletter, takeChar?]
      cases start? c with
      | none => rfl
      | some next => simp only [Option.map_some, List.reverse_cons, List.append_assoc,
          List.singleton_append]

section Numbers

theorem isNumeric_of_startsNumber {c : Char} (h : startsNumber c = true) : isNumeric c = true := by
  rw [startsNumber, Bool.or_eq_true] at h
  unfold isNumeric
  rcases h with h | h <;> simp only [h, Bool.true_or, Bool.or_true]

theorem start?_of_startsNumber {c : Char} (h : startsNumber c = true) :
    start? c = some (.digits [c], []) := by
  -- Blanks and quotes come before the digits, and none of them is the sign.
  have hother : ∀ d : Char, startsNumber d = false → c ≠ d := by
    intro d hd heq
    rw [← heq, h] at hd
    cases hd
  have hblank : isBlank c = false := by
    simp only [isBlank, hother ' ' (by decide), hother '\n' (by decide), hother '\r' (by decide),
      hother '\t' (by decide), decide_false, Bool.or_self]
  simp only [start?, hblank, hother '"' (by decide), h, Bool.false_eq_true, ↓reduceIte]

theorem startsNumber_of_mem_intChars {n : Int} {c : Char} (h : c ∈ Number.intChars n) :
    startsNumber c = true := by
  have hdigit : ∀ {m : Nat}, c ∈ Nat.toDigits 10 m → startsNumber c = true := by
    intro m hc
    have hd := isDigit_of_mem_toDigits hc
    rw [Char.isDigit, Bool.and_eq_true, decide_eq_true_eq, decide_eq_true_eq] at hd
    rw [startsNumber, Bool.or_eq_true]
    exact Or.inl (decide_eq_true hd)
  cases n with
  | ofNat m => exact hdigit h
  | negSucc m =>
      rcases List.mem_cons.mp h with rfl | hc
      · rfl
      · exact hdigit hc

theorem intChars_ne_nil (n : Int) : Number.intChars n ≠ [] := by
  cases n with
  | ofNat m => exact Nat.toDigits_ne_nil
  | negSucc m => exact List.cons_ne_nil _ _

/-- A number literal goes on for as long as its characters do. -/
theorem lex?_digits {cs : List Char} (hcs : ∀ c ∈ cs, isNumeric c = true) (before : List Char)
    (done : List Token) (rest : List Char) :
    lex? (.digits before) done ((cs ++ rest).map .char)
      = lex? (.digits (cs.reverse ++ before)) done (rest.map .char) := by
  induction cs generalizing before with
  | nil => rfl
  | cons c cs ih =>
      rw [List.cons_append, lex?_cons, takeChar?, if_pos (hcs c List.mem_cons_self)]
      dsimp only
      rw [List.reverse_nil, List.nil_append, ih fun d hd => hcs d (List.mem_cons_of_mem _ hd),
        List.reverse_cons, List.append_assoc, List.singleton_append]

theorem lex?_number {n : Number} (h : n.IsWord) (done : List Token) {rest : List Char}
    (hrest : Ended rest) :
    lex? .between done ((n.chars ++ rest).map .char)
      = lex? .between (.number (some n) :: done) (rest.map .char) := by
  cases n with
  | float x => exact absurd h id
  | int m =>
      have hread : ofNumeral? (Number.intChars m) = some (.number (some (.int m))) :=
        ofNumeral?_chars h
      change lex? .between done ((Number.intChars m ++ rest).map .char) = _
      cases hchars : Number.intChars m with
      | nil => exact absurd hchars (intChars_ne_nil m)
      | cons c cs =>
          have hmem : ∀ d ∈ c :: cs, startsNumber d = true :=
            fun d hd => startsNumber_of_mem_intChars (hchars ▸ hd)
          have hall : (cs.reverse ++ [c]).reverse = c :: cs := by
            rw [List.reverse_append, List.reverse_reverse, List.reverse_singleton,
              List.singleton_append]
          rw [hchars] at hread
          rw [List.cons_append, lex?_cons, takeChar?,
            start?_of_startsNumber (hmem c List.mem_cons_self)]
          dsimp only
          rw [List.reverse_nil, List.nil_append,
            lex?_digits fun d hd => isNumeric_of_startsNumber (hmem d (List.mem_cons_of_mem _ hd))]
          -- The literal is complete now, and what comes next does not continue it.
          refine lex?_of_complete ?_ ?_ done hrest
          · rw [finish?, hall, hread]
            rfl
          · intro d hnumeric _
            rw [takeChar?, if_neg (Bool.eq_false_iff.mp hnumeric), hall, hread]
            cases start? d <;> rfl

end Numbers

section Words

/-- A word is complete when what comes next is no letter. -/
theorem lex?_word (letters : List Char) {token : Token}
    (h : ofWord? letters.reverse = some token) (done : List Token) {rest : List Char}
    (hrest : Ended rest) :
    lex? (.word letters) done (rest.map .char) = lex? .between (token :: done) (rest.map .char) := by
  refine lex?_of_complete ?_ ?_ done hrest
  · rw [finish?, h]
    rfl
  · intro c _ hletter
    rw [takeChar?, if_neg (Bool.eq_false_iff.mp hletter), h]
    cases start? c <;> rfl

variable (done : List Token) {rest : List Char} (hrest : Ended rest)
include hrest

theorem lex?_null :
    lex? .between done ((['n', 'u', 'l', 'l'] ++ rest).map .char)
      = lex? .between (.null :: done) (rest.map .char) :=
  lex?_word ['l', 'l', 'u', 'n'] rfl done hrest

theorem lex?_true :
    lex? .between done ((['t', 'r', 'u', 'e'] ++ rest).map .char)
      = lex? .between (.bool true :: done) (rest.map .char) :=
  lex?_word ['e', 'u', 'r', 't'] rfl done hrest

theorem lex?_false :
    lex? .between done ((['f', 'a', 'l', 's', 'e'] ++ rest).map .char)
      = lex? .between (.bool false :: done) (rest.map .char) :=
  lex?_word ['e', 's', 'l', 'a', 'f'] rfl done hrest

end Words

section Strings

/-- What the lexer makes of a written character: a UTF-16 unit for a control
    character without a letter of its own, else the character. -/
def writtenPart (c : Char) : StringPart :=
  if c.toNat < 0x20 ∧ c ≠ '\x08' ∧ c ≠ '\x0c' ∧ c ≠ '\n' ∧ c ≠ '\r' ∧ c ≠ '\t' then .unit c.toNat
  else .char c

theorem hexDigit?_hexChar {n : Nat} (h : n < 16) : hexDigit? (hexChar n) = some n := by
  have hall : ∀ n < 16, hexDigit? (hexChar n) = some n := by decide
  exact hall n h

/-- A written character is read as one part. -/
theorem lex?_escapeChar (c : Char) (parts : List StringPart) (done : List Token)
    (rest : List Char) :
    lex? (.quoted parts .plain) done ((escapeChar c ++ rest).map .char)
      = lex? (.quoted (writtenPart c :: parts) .plain) done (rest.map .char) := by
  by_cases hletter : c = '"' ∨ c = '\\' ∨ c = '\x08' ∨ c = '\x0c' ∨ c = '\n' ∨ c = '\r' ∨ c = '\t'
  · -- A letter stands for the character.
    rcases hletter with rfl | rfl | rfl | rfl | rfl | rfl | rfl <;> rfl
  · simp only [not_or] at hletter
    obtain ⟨hquote, hslash, hback, hfeed, hline, hreturn, htab⟩ := hletter
    by_cases hcontrol : c.toNat < 0x20
    · have hwritten : writtenPart c = .unit c.toNat :=
        if_pos ⟨hcontrol, hback, hfeed, hline, hreturn, htab⟩
      have hescape : escapeChar c
          = ['\\', 'u', '0', '0', hexChar (c.toNat / 16), hexChar (c.toNat % 16)] := by
        simp only [escapeChar, hquote, hslash, hback, hfeed, hline, hreturn, htab, hcontrol,
          ↓reduceIte]
      -- The first two of the four digits are zeros, and the others make up the unit.
      have hhigh : hexDigit? (hexChar (c.toNat / 16)) = some (c.toNat / 16) :=
        hexDigit?_hexChar (by omega)
      have hlow : hexDigit? (hexChar (c.toNat % 16)) = some (c.toNat % 16) :=
        hexDigit?_hexChar (by omega)
      have hvalue : (0 * 16 + c.toNat / 16) * 16 + c.toNat % 16 = c.toNat := by omega
      rw [hwritten, hescape]
      change lex? (.quoted parts (.unit 2 0)) done
        ((hexChar (c.toNat / 16) :: hexChar (c.toNat % 16) :: rest).map .char) = _
      rw [lex?_cons, takeChar?, inQuotes?, hhigh]
      change lex? (.quoted parts (.unit 1 (0 * 16 + c.toNat / 16))) done
        ((hexChar (c.toNat % 16) :: rest).map .char) = _
      rw [lex?_cons, takeChar?, inQuotes?, hlow]
      change lex? (.quoted (.unit ((0 * 16 + c.toNat / 16) * 16 + c.toNat % 16) :: parts) .plain)
        done (rest.map .char) = _
      rw [hvalue]
    · have hwritten : writtenPart c = .char c := if_neg fun h => hcontrol h.1
      have hescape : escapeChar c = [c] := by
        simp only [escapeChar, hquote, hslash, hback, hfeed, hline, hreturn, htab, hcontrol,
          ↓reduceIte]
      rw [hwritten, hescape, List.singleton_append, lex?_cons]
      simp only [takeChar?, inQuotes?, hquote, hslash, hcontrol, ↓reduceIte, List.reverse_nil,
        List.nil_append]

theorem lex?_flatMap_escapeChar (cs : List Char) (parts : List StringPart) (done : List Token)
    (rest : List Char) :
    lex? (.quoted parts .plain) done ((cs.flatMap escapeChar ++ rest).map .char)
      = lex? (.quoted ((cs.map writtenPart).reverse ++ parts) .plain) done (rest.map .char) := by
  induction cs generalizing parts with
  | nil => rfl
  | cons c cs ih =>
      rw [List.flatMap_cons, List.append_assoc, lex?_escapeChar, ih, List.map_cons,
        List.reverse_cons, List.append_assoc, List.singleton_append]

/-- A unit below the surrogates stands for a character, whatever comes next. -/
theorem resolve?_unit {u : Nat} (h : u < 0x20) (rest : List StringPart) :
    StringPart.resolve? (.unit u :: rest)
      = (StringPart.resolve? rest).map (Char.ofNat u :: ·) := by
  have hhigh : StringPart.isHigh u = false := decide_eq_false (by omega)
  have hlow : StringPart.isLow u = false := decide_eq_false (by omega)
  rcases rest with _ | ⟨part, rest⟩
  · simp only [StringPart.resolve?, hhigh, hlow, Bool.or_self, Bool.false_eq_true, ↓reduceIte]
  · cases part <;>
      simp only [StringPart.resolve?, hhigh, hlow, Bool.or_self, Bool.false_eq_true, ↓reduceIte]

theorem resolve?_writtenPart (cs : List Char) :
    StringPart.resolve? (cs.map writtenPart) = some cs := by
  induction cs with
  | nil => rfl
  | cons c cs ih =>
      rw [List.map_cons, writtenPart]
      split
      · rename_i hcontrol
        rw [resolve?_unit hcontrol.1, ih, Option.map_some, Char.ofNat_toNat]
      · rw [StringPart.resolve?, ih, Option.map_some]

theorem lex?_quote (s : String) (done : List Token) (rest : List Char) :
    lex? .between done ((quote s ++ rest).map .char)
      = lex? .between (.string (some s) :: done) (rest.map .char) := by
  have hopen : lex? .between done ((quote s ++ rest).map .char)
      = lex? (.quoted [] .plain) done ((s.toList.flatMap escapeChar ++ '"' :: rest).map .char) := by
    rw [quote, List.cons_append, List.cons_append, List.append_assoc]
    rfl
  have hclose : ∀ parts, lex? (.quoted parts .plain) done (('"' :: rest).map .char)
      = lex? .between
          (.string ((StringPart.resolve? parts.reverse).map String.ofList) :: done)
          (rest.map .char) := fun _ => rfl
  rw [hopen, lex?_flatMap_escapeChar, hclose, List.append_nil, List.reverse_reverse,
    resolve?_writtenPart, Option.map_some, String.ofList_toList]

end Strings

end Token

end Decisioning
