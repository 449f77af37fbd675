import Decisioning.Json.Literal
import Decisioning.Text.Piece

/-!
# JSON Tokens

The lexical form of JSON: punctuation, words, number literals and strings.

The lexer goes through the text once, with a state that says whether it is
between tokens or inside one. A token that is lexically well formed may still
have no value: a number beyond the largest float, or a string with half of a
surrogate pair or with a stray byte. Such a token is kept, without value,
because a text may hold it where no value is asked for.

## Main definitions

* `Token`: The tokens.
* `StringPart`, `StringPart.resolve?`: String contents before and after escapes
  are joined to characters.
* `Token.ofPieces?`: The lexer.
* `Token.quote`: The written form of a string.
-/

namespace Decisioning

/-- A JSON token. -/
inductive Token where
  | openArray
  | closeArray
  | openObject
  | closeObject
  | comma
  | colon
  | null
  | bool (value : Bool)
  /-- A number literal with its value, if it has one. -/
  | number (value : Option Number)
  /-- A string literal with its value, if it has one. -/
  | string (value : Option String)
deriving DecidableEq, Repr

/-- A character of a string literal, a UTF-16 unit given by an escape, or a byte
    that is no part of a character. -/
inductive StringPart where
  | char (c : Char)
  | unit (value : Nat)
  | stray
deriving DecidableEq, Repr

namespace StringPart

/-- Whether a UTF-16 unit is the first half of a surrogate pair. -/
def isHigh (u : Nat) : Bool := decide (0xD800 ≤ u ∧ u < 0xDC00)

/-- Whether a UTF-16 unit is the second half of a surrogate pair. -/
def isLow (u : Nat) : Bool := decide (0xDC00 ≤ u ∧ u < 0xE000)

/-- The character of a surrogate pair. -/
def ofPair (high low : Nat) : Char :=
  Char.ofNat (0x10000 + (high - 0xD800) * 0x400 + (low - 0xDC00))

/-- Join surrogate pairs to characters; half a pair has no value, and neither has
    a stray byte. -/
def resolve? : List StringPart → Option (List Char)
  | [] => some []
  | .stray :: _ => none
  | .char c :: rest => (resolve? rest).map (c :: ·)
  | .unit u :: .unit v :: rest =>
      if isHigh u then
        if isLow v then (resolve? rest).map (ofPair u v :: ·) else none
      else if isLow u then none
      else (resolve? (.unit v :: rest)).map (Char.ofNat u :: ·)
  | .unit u :: rest =>
      if isHigh u || isLow u then none else (resolve? rest).map (Char.ofNat u :: ·)

end StringPart

namespace Token

/-- Where in a string literal the lexer is. -/
inductive StringState where
  /-- Between two characters. -/
  | plain
  /-- After a backslash. -/
  | escape
  /-- Inside an escaped UTF-16 unit, with the number of digits still to come. -/
  | unit (missing value : Nat)
deriving DecidableEq, Repr

/-- The state of the lexer; the parts of an open token are held in reverse. -/
inductive LexState where
  /-- Between tokens. -/
  | between
  /-- Inside a word. -/
  | word (letters : List Char)
  /-- Inside a number literal. -/
  | digits (chars : List Char)
  /-- Inside a string literal. -/
  | quoted (parts : List StringPart) (state : StringState)
deriving DecidableEq, Repr

/-- The value of a hexadecimal digit. -/
def hexDigit? (c : Char) : Option Nat :=
  if '0' ≤ c ∧ c ≤ '9' then some (c.toNat - '0'.toNat)
  else if 'a' ≤ c ∧ c ≤ 'f' then some (c.toNat - 'a'.toNat + 10)
  else if 'A' ≤ c ∧ c ≤ 'F' then some (c.toNat - 'A'.toNat + 10)
  else none

/-- The character that a one-letter escape stands for. -/
def escaped? : Char → Option Char
  | '"' => some '"'
  | '\\' => some '\\'
  | '/' => some '/'
  | 'b' => some '\x08'
  | 'f' => some '\x0c'
  | 'n' => some '\n'
  | 'r' => some '\r'
  | 't' => some '\t'
  | _ => none

/-- The blanks that may stand between tokens. -/
def isBlank (c : Char) : Bool := c = ' ' || c = '\n' || c = '\r' || c = '\t'

/-- The characters that may occur in a number literal. -/
def isNumeric (c : Char) : Bool :=
  decide ('0' ≤ c ∧ c ≤ '9') || c = '-' || c = '+' || c = '.' || c = 'e' || c = 'E'

/-- The characters that may start a number literal. -/
def startsNumber (c : Char) : Bool := decide ('0' ≤ c ∧ c ≤ '9') || c = '-'

/-- The letters of words. -/
def isLetter (c : Char) : Bool := decide ('a' ≤ c ∧ c ≤ 'z')

/-- The token of a complete word. -/
def ofWord? : List Char → Option Token
  | ['n', 'u', 'l', 'l'] => some .null
  | ['t', 'r', 'u', 'e'] => some (.bool true)
  | ['f', 'a', 'l', 's', 'e'] => some (.bool false)
  | _ => none

/-- The token of a single punctuation character. -/
def punctuation? : Char → Option Token
  | '[' => some .openArray
  | ']' => some .closeArray
  | '\x7b' => some .openObject
  | '\x7d' => some .closeObject
  | ',' => some .comma
  | ':' => some .colon
  | _ => none

/-- The token of a complete number literal. -/
def ofNumeral? (cs : List Char) : Option Token :=
  (Literal.ofChars? cs).map fun l => .number l.number?

/-- Take a character between tokens. -/
def start? (c : Char) : Option (LexState × List Token) :=
  if isBlank c then some (.between, [])
  else if c = '"' then some (.quoted [] .plain, [])
  else if startsNumber c then some (.digits [c], [])
  else if isLetter c then some (.word [c], [])
  else (punctuation? c).map fun t => (.between, [t])

/-- Take a character inside a string literal. -/
def inQuotes? (parts : List StringPart) (c : Char) :
    StringState → Option (LexState × List Token)
  | .plain =>
      if c = '"' then
        some (.between, [.string ((StringPart.resolve? parts.reverse).map String.ofList)])
      else if c = '\\' then some (.quoted parts .escape, [])
      else if c.toNat < 0x20 then none
      else some (.quoted (.char c :: parts) .plain, [])
  | .escape =>
      if c = 'u' then some (.quoted parts (.unit 4 0), [])
      else (escaped? c).map fun e => (.quoted (.char e :: parts) .plain, [])
  | .unit missing value =>
      (hexDigit? c).map fun d =>
        let value := value * 16 + d
        if missing ≤ 1 then (.quoted (.unit value :: parts) .plain, [])
        else (.quoted parts (.unit (missing - 1) value), [])

/-- Take one character: the next state and the tokens that are now complete. -/
def takeChar? (c : Char) : LexState → Option (LexState × List Token)
  | .between => start? c
  | .word letters =>
      if isLetter c then some (.word (c :: letters), [])
      else do
        let token ← ofWord? letters.reverse
        let (state, tokens) ← start? c
        return (state, token :: tokens)
  | .digits chars =>
      if isNumeric c then some (.digits (c :: chars), [])
      else do
        let token ← ofNumeral? chars.reverse
        let (state, tokens) ← start? c
        return (state, token :: tokens)
  | .quoted parts state => inQuotes? parts c state

/-- Take a stray byte, which may only stand for a character of a string. -/
def takeStray? : LexState → Option (LexState × List Token)
  | .quoted parts .plain => some (.quoted (.stray :: parts) .plain, [])
  | _ => none

/-- Take one piece of the text. -/
def step? : TextPiece → LexState → Option (LexState × List Token)
  | .char c => takeChar? c
  | .stray => takeStray?

/-- The token that the end of the text completes, if there is one. -/
def finish? : LexState → Option (List Token)
  | .between => some []
  | .word letters => (ofWord? letters.reverse).map ([·])
  | .digits chars => (ofNumeral? chars.reverse).map ([·])
  | .quoted _ _ => none

/-- The tokens of a text from a given state on, after the tokens of `done`,
    which are held in reverse. -/
def lex? : LexState → (done : List Token) → List TextPiece → Option (List Token)
  | state, done, [] => (finish? state).map fun tokens => done.reverse ++ tokens
  | state, done, piece :: rest =>
      match step? piece state with
      | none => none
      | some (next, tokens) => lex? next (tokens.reverse ++ done) rest

/-- The tokens of a text. -/
def ofPieces? (pieces : List TextPiece) : Option (List Token) := lex? .between [] pieces

/-- A hexadecimal digit, in lower case. -/
def hexChar (n : Nat) : Char := Nat.digitChar n

/-- The written form of a character in a string literal: quotes, backslashes
    and control characters are escaped, and nothing else. -/
def escapeChar (c : Char) : List Char :=
  if c = '"' then ['\\', '"']
  else if c = '\\' then ['\\', '\\']
  else if c = '\x08' then ['\\', 'b']
  else if c = '\x0c' then ['\\', 'f']
  else if c = '\n' then ['\\', 'n']
  else if c = '\r' then ['\\', 'r']
  else if c = '\t' then ['\\', 't']
  else if c.toNat < 0x20 then
    ['\\', 'u', '0', '0', hexChar (c.toNat / 16), hexChar (c.toNat % 16)]
  else [c]

/-- The written form of a string literal. -/
def quote (s : String) : List Char :=
  '"' :: s.toList.flatMap escapeChar ++ ['"']

end Token

end Decisioning
