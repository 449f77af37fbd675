import Decisioning.Text.Invisible

/-!
# Quoted Text

Text as it is shown in messages: between double quotes, with everything that
would be invisible or ambiguous written as an escape. Single quotes are kept.

## Main definitions

* `quoteChar`: The quoted form of a character.
* `quoteText`: The quoted form of a text.
-/

namespace Decisioning

/-- A character between double quotes. -/
def quoteChar (c : Char) : List Char :=
  if c = '"' then ['\\', '"']
  else if c = '\\' then ['\\', '\\']
  else if c = '\n' then ['\\', 'n']
  else if c = '\r' then ['\\', 'r']
  else if c = '\t' then ['\\', 't']
  else if c = '\x00' then ['\\', '0']
  else if isInvisible c then
    '\\' :: 'u' :: '\x7b' :: Nat.toDigits 16 c.toNat ++ ['\x7d']
  else [c]

/-- A text between double quotes. -/
def quoteText (text : String) : String :=
  String.ofList ('"' :: text.toList.flatMap quoteChar ++ ['"'])

end Decisioning
