/-!
# White Space

The characters with the Unicode property White_Space: five ASCII controls and
the space, the next-line control, the no-break space, and the spaces and
separators of the general and the ideographic blocks. Zero-width characters and
the byte order mark are not among them.

## Main definitions

* `isWhiteSpace`: Membership in the property.
* `isBlankText`: A text with nothing but white space.
-/

namespace Decisioning

/-- Whether a character has the Unicode property White_Space. -/
def isWhiteSpace (c : Char) : Bool :=
  let n := c.toNat
  decide (0x09 ≤ n ∧ n ≤ 0x0D) || n = 0x20 || n = 0x85 || n = 0xA0 || n = 0x1680
    || decide (0x2000 ≤ n ∧ n ≤ 0x200A) || n = 0x2028 || n = 0x2029 || n = 0x202F
    || n = 0x205F || n = 0x3000

/-- Whether a text is empty up to white space. -/
def isBlankText (text : String) : Bool := text.toList.all isWhiteSpace

end Decisioning
