import Decisioning.Json.Token

/-!
# TOML Tokens

The lexical form of TOML: punctuation, bare words, strings, blanks and line
ends. Comments leave no token.

A word is lexed alike wherever it stands. Keys, numbers and dates are told
apart later, which is why a word ends at a dot, a plus or a colon, and why
blanks are kept: `1.5` is a number and `1 .5` is not.

There are four kinds of strings. Single quotes take everything literally, double
quotes know escapes, and three quotes of either kind open a block that may span
lines. A block drops a line end right after its opening, normalizes its other
line ends, and may end with up to two quotes of its own; a backslash at the end
of a line joins that line to the next word.

## Main definitions

* `Toml.Token`: The tokens.
* `Toml.Token.step?`: The lexer's reaction to one character.
* `Toml.Token.ofChars?`: The tokens of a text.
-/

namespace Decisioning

namespace Toml

/-- A TOML token. -/
inductive Token where
  | openBracket
  | closeBracket
  | openBrace
  | closeBrace
  | equals
  | comma
  /-- A run of letters, digits, hyphens and underscores. -/
  | bare (text : String)
  /-- A dot, a plus or a colon. -/
  | mark (c : Char)
  /-- A run of spaces and tabs. -/
  | blank (text : String)
  | newline
  /-- A string with its value; only one in a single line can be a key. -/
  | string (isBlock : Bool) (value : String)
deriving DecidableEq, Repr

namespace Token

/-- Where in a string the lexer is. -/
inductive Stage where
  /-- Between two characters. -/
  | text
  /-- After a backslash. -/
  | escape
  /-- Inside an escaped code point, with the number of digits still to come. -/
  | code (missing value : Nat)
  /-- At the very start of a block. -/
  | start
  /-- After quotes that may close a block. -/
  | quotes (count : Nat)
  /-- After a carriage return, which a line feed has to follow. -/
  | carriage (next : Stage)
  /-- After the backslash that ends a line of a block, before the line end. -/
  | lineJoin
  /-- After the line end that a backslash has joined. -/
  | indent
deriving DecidableEq, Repr

/-- The state of the lexer; the characters of an open token are in reverse. -/
inductive LexState where
  | between
  | comment
  /-- After a carriage return outside of strings. -/
  | carriage
  | blank (chars : List Char)
  | bare (chars : List Char)
  /-- After one or two quotes that open a string, or are an empty one. -/
  | opening (quote : Char) (count : Nat)
  /-- Inside a string. -/
  | quoted (isBlock : Bool) (quote : Char) (chars : List Char) (stage : Stage)
deriving DecidableEq, Repr

/-- The characters of a bare word. -/
def isBare (c : Char) : Bool := c.isAlphanum || c = '-' || c = '_'

/-- The blanks within a line. -/
def isBlank (c : Char) : Bool := c = ' ' || c = '\t'

/-- The characters that may stand in comments and strings: all but control
    characters other than the tab. -/
def isPrintable (c : Char) : Bool := c = '\t' || (decide (0x20 ≤ c.toNat) && c.toNat ≠ 0x7F)

/-- The token of a single punctuation character. -/
def punctuation? : Char → Option Token
  | '[' => some .openBracket
  | ']' => some .closeBracket
  | '\x7b' => some .openBrace
  | '\x7d' => some .closeBrace
  | '=' => some .equals
  | ',' => some .comma
  | '.' => some (.mark '.')
  | '+' => some (.mark '+')
  | ':' => some (.mark ':')
  | _ => none

/-- The character that a one-letter escape stands for. -/
def escaped? : Char → Option Char
  | '"' => some '"'
  | '\\' => some '\\'
  | 'b' => some '\x08'
  | 'f' => some '\x0c'
  | 'n' => some '\n'
  | 'r' => some '\r'
  | 't' => some '\t'
  | _ => none

/-- The character with a given code point, if there is one. -/
def charOfCode? (n : Nat) : Option Char :=
  if n.isValidChar then some (Char.ofNat n) else none

/-- The string token of reversed characters. -/
def ofReversed (isBlock : Bool) (chars : List Char) : Token :=
  .string isBlock (String.ofList chars.reverse)

/-- Take a character between tokens. -/
def start? (c : Char) : Option (LexState × List Token) :=
  if c = '\n' then some (.between, [.newline])
  else if c = '\r' then some (.carriage, [])
  else if c = '#' then some (.comment, [])
  else if c = '"' ∨ c = '\'' then some (.opening c 1, [])
  else if isBlank c then some (.blank [c], [])
  else if isBare c then some (.bare [c], [])
  else (punctuation? c).map fun t => (.between, [t])

/-- Take a character between tokens, after a token that it has ended. -/
def startAfter? (token : Token) (c : Char) : Option (LexState × List Token) :=
  (start? c).map fun (state, tokens) => (state, token :: tokens)

/-- Take a character in the text of a string. -/
def inText? (isBlock : Bool) (quote : Char) (chars : List Char) (c : Char) :
    Option (LexState × List Token) :=
  let go (chars : List Char) (stage : Stage) : Option (LexState × List Token) :=
    some (.quoted isBlock quote chars stage, [])
  if c = quote then
    if isBlock then go chars (.quotes 1) else some (.between, [ofReversed false chars])
  else if c = '\\' ∧ quote = '"' then go chars .escape
  else if isBlock && c = '\n' then go ('\n' :: chars) .text
  else if isBlock && c = '\r' then go chars (.carriage .text)
  else if isPrintable c then go (c :: chars) .text
  else none

/-- Take a character after a backslash. -/
def inEscape? (isBlock : Bool) (quote : Char) (chars : List Char) (c : Char) :
    Option (LexState × List Token) :=
  let go (chars : List Char) (stage : Stage) : Option (LexState × List Token) :=
    some (.quoted isBlock quote chars stage, [])
  if c = 'u' then go chars (.code 4 0)
  else if c = 'U' then go chars (.code 8 0)
  else if isBlock && isBlank c then go chars .lineJoin
  else if isBlock && c = '\n' then go chars .indent
  else if isBlock && c = '\r' then go chars (.carriage .indent)
  else (escaped? c).bind fun e => go (e :: chars) .text

/-- Take a character inside a string. -/
def inQuotes? (isBlock : Bool) (quote : Char) (chars : List Char) (c : Char) :
    Stage → Option (LexState × List Token)
  | .text => inText? isBlock quote chars c
  | .escape => inEscape? isBlock quote chars c
  | .code missing value => do
      let value := value * 16 + (← Decisioning.Token.hexDigit? c)
      if missing ≤ 1 then
        return (.quoted isBlock quote ((← charOfCode? value) :: chars) .text, [])
      return (.quoted isBlock quote chars (.code (missing - 1) value), [])
  | .start =>
      if c = '\n' then some (.quoted isBlock quote chars .text, [])
      else if c = '\r' then some (.quoted isBlock quote chars (.carriage .start), [])
      else inText? isBlock quote chars c
  | .quotes count =>
      if c = quote then
        if count = 4 then some (.between, [ofReversed true (quote :: quote :: chars)])
        else some (.quoted isBlock quote chars (.quotes (count + 1)), [])
      else if 3 ≤ count then
        startAfter? (ofReversed true (List.replicate (count - 3) quote ++ chars)) c
      else
        inText? isBlock quote (List.replicate count quote ++ chars) c
  | .carriage next =>
      if c ≠ '\n' then none
      else
        match next with
        | .text => some (.quoted isBlock quote ('\n' :: chars) .text, [])
        | .start => some (.quoted isBlock quote chars .text, [])
        | next => some (.quoted isBlock quote chars next, [])
  | .lineJoin =>
      if isBlank c then some (.quoted isBlock quote chars .lineJoin, [])
      else if c = '\n' then some (.quoted isBlock quote chars .indent, [])
      else if c = '\r' then some (.quoted isBlock quote chars (.carriage .indent), [])
      else none
  | .indent =>
      if isBlank c || c = '\n' then some (.quoted isBlock quote chars .indent, [])
      else if c = '\r' then some (.quoted isBlock quote chars (.carriage .indent), [])
      else inText? isBlock quote chars c

/-- Take one character: the next state and the tokens that are now complete. -/
def step? (c : Char) : LexState → Option (LexState × List Token)
  | .between => start? c
  | .comment =>
      if c = '\n' ∨ c = '\r' then start? c
      else if isPrintable c then some (.comment, [])
      else none
  | .carriage => if c = '\n' then some (.between, [.newline]) else none
  | .blank chars =>
      if isBlank c then some (.blank (c :: chars), [])
      else startAfter? (.blank (String.ofList chars.reverse)) c
  | .bare chars =>
      if isBare c then some (.bare (c :: chars), [])
      else startAfter? (.bare (String.ofList chars.reverse)) c
  | .opening quote count =>
      if c = quote then
        if count = 1 then some (.opening quote 2, [])
        else some (.quoted true quote [] .start, [])
      else if count = 1 then inText? false quote [] c
      else startAfter? (.string false "") c
  | .quoted isBlock quote chars stage => inQuotes? isBlock quote chars c stage

/-- The tokens that the end of the text completes. -/
def finish? : LexState → Option (List Token)
  | .between | .comment => some []
  | .blank chars => some [.blank (String.ofList chars.reverse)]
  | .bare chars => some [.bare (String.ofList chars.reverse)]
  | .opening _ 2 => some [.string false ""]
  | .quoted _ quote chars (.quotes count) =>
      if 3 ≤ count then
        some [ofReversed true (List.replicate (count - 3) quote ++ chars)]
      else none
  | _ => none

/-- The tokens of a text from a given state on, after the tokens of `done`,
    which are held in reverse. -/
def lex? : LexState → (done : List Token) → List Char → Option (List Token)
  | state, done, [] => (finish? state).map fun tokens => done.reverse ++ tokens
  | state, done, c :: rest =>
      match step? c state with
      | none => none
      | some (next, tokens) => lex? next (tokens.reverse ++ done) rest

/-- The tokens of a text. -/
def ofChars? (cs : List Char) : Option (List Token) := lex? .between [] cs

end Token

end Toml

end Decisioning
