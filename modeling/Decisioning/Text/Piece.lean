/-!
# Text with Stray Bytes

Bytes as text, also where they are not UTF-8. A byte that starts no character is
kept as a stray byte, and the next byte is looked at afresh, so that no
character after a stray byte is lost with it.

## Main definitions

* `TextPiece`: A character or a stray byte.
* `TextPiece.ofText`, `TextPiece.ofBytes`: The pieces of a text and of bytes.
-/

namespace Decisioning

/-- A character, or a byte that is no part of one. -/
inductive TextPiece where
  | char (c : Char)
  | stray
deriving DecidableEq, Repr

namespace TextPiece

/-- The pieces of a text: its characters. -/
def ofText (text : String) : List TextPiece := text.toList.map .char

/-- The pieces of bytes from a position on, after the pieces of `done`, which
    are held in reverse. -/
def ofBytesFrom (bytes : ByteArray) (done : List TextPiece) (position : Nat) : List TextPiece :=
  if position < bytes.size then
    match bytes.utf8DecodeChar? position with
    | some c => ofBytesFrom bytes (.char c :: done) (position + c.utf8Size)
    | none => ofBytesFrom bytes (.stray :: done) (position + 1)
  else done.reverse
termination_by bytes.size - position
decreasing_by
  · have := c.utf8Size_pos
    omega
  · omega

/-- The pieces of bytes; bytes that are UTF-8 as a whole are a text. -/
def ofBytes (bytes : ByteArray) : List TextPiece :=
  match String.fromUTF8? bytes with
  | some text => ofText text
  | none => ofBytesFrom bytes [] 0

end TextPiece

end Decisioning
