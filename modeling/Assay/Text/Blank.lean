/-!
# Blank characters

The blank characters are those with the Unicode property White_Space. `trim` removes them from
both ends of a text, and `words` cuts a text at every run of them.
-/
namespace Assay.Text

/-- A character with the property White_Space. The zero-width space, the byte order mark and the
information separators have not. -/
def isBlank (c : Char) : Bool :=
  let n := c.toNat
  (9 ≤ n && n ≤ 13) || n == 32 || n == 0x85 || n == 0xA0 || n == 0x1680 ||
    (0x2000 ≤ n && n ≤ 0x200A) || n == 0x2028 || n == 0x2029 || n == 0x202F || n == 0x205F ||
    n == 0x3000

/-- A text without the blanks at its two ends. -/
def trim (text : List Char) : List Char :=
  ((text.dropWhile isBlank).reverse.dropWhile isBlank).reverse

end Assay.Text
