/-!
# Blanks

The characters with the Unicode property `White_Space`, and trimming them from both ends of a text.
-/

namespace Redaction.Text

/-- A blank: tab to carriage return, space, next line, and the spaces and separators beyond. -/
def isBlank (c : Char) : Bool :=
  let n := c.toNat
  (0x9 ≤ n && n ≤ 0xD) || n == 0x20 || n == 0x85 || n == 0xA0 || n == 0x1680 ||
    (0x2000 ≤ n && n ≤ 0x200A) || n == 0x2028 || n == 0x2029 || n == 0x202F || n == 0x205F ||
    n == 0x3000

/-- The text without the blanks at its end. -/
def trimEnd (cs : List Char) : List Char := (cs.reverse.dropWhile isBlank).reverse

/-- **The text without the blanks at its two ends.** -/
def trim (cs : List Char) : List Char := trimEnd (cs.dropWhile isBlank)

end Redaction.Text
