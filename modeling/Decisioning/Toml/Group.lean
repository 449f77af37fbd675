import Decisioning.Toml.Token

/-!
# Bracketed Groups

Tokens with their brackets and braces matched up.

Matching comes before everything else because it decides where a statement
ends: a line end inside a group does not end it. What a group means, an array,
an inline table or the header of a table, is left to the reader of the
statement.

## Main definitions

* `Toml.Group`: A token, or a group of them.
* `Toml.Group.ofTokens?`: Match the brackets of a list of tokens.
* `Toml.Group.lines`: Cut a list at its line ends.
-/

namespace Decisioning

namespace Toml

/-- A token other than a bracket or brace, or what stands between two matching
    ones. -/
inductive Group where
  | token (t : Token)
  | brackets (content : List Group)
  | braces (content : List Group)
deriving Repr, Inhabited

namespace Group

/-- An open group: whether it has braces, and the content of the group around
    it, in reverse. -/
structure Frame where
  isBrace : Bool
  outer : List Group

/-- Close the innermost group, which must be of the given kind. -/
def close? (isBrace : Bool) (content : List Group) :
    List Frame → Option (List Group × List Frame)
  | [] => none
  | frame :: stack =>
      if frame.isBrace = isBrace then
        let group := if isBrace then braces content.reverse else brackets content.reverse
        some (group :: frame.outer, stack)
      else none

/-- Match brackets, from the content of the innermost group so far, in reverse,
    and the groups around it. -/
def match? (content : List Group) (stack : List Frame) : List Token → Option (List Group)
  | [] => if stack.isEmpty then some content.reverse else none
  | .openBracket :: rest => match? [] ({ isBrace := false, outer := content } :: stack) rest
  | .openBrace :: rest => match? [] ({ isBrace := true, outer := content } :: stack) rest
  | .closeBracket :: rest =>
      match close? false content stack with
      | some (content, stack) => match? content stack rest
      | none => none
  | .closeBrace :: rest =>
      match close? true content stack with
      | some (content, stack) => match? content stack rest
      | none => none
  | t :: rest => match? (.token t :: content) stack rest

/-- The groups of a list of tokens. -/
def ofTokens? (tokens : List Token) : Option (List Group) := match? [] [] tokens

/-- The lines of a list, without their line ends. -/
def lines : List Group → List (List Group)
  | [] => [[]]
  | .token .newline :: rest => [] :: lines rest
  | g :: rest =>
      match lines rest with
      | line :: others => (g :: line) :: others
      | [] => [[g]]

end Group

end Toml

end Decisioning
