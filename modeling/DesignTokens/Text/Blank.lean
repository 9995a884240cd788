import DesignTokens.Text.Ranges

/-!
# Blanks

The characters that count as blank around a theme's name and that end a malformed word: the white
space of Unicode, and the four separators U+001C to U+001F.
-/

namespace DesignTokens.Text

def blankRanges : List (Nat × Nat) :=
  [(0x9, 0xD), (0x1C, 0x20), (0x85, 0x85), (0xA0, 0xA0), (0x1680, 0x1680), (0x2000, 0x200A),
   (0x2028, 0x2029), (0x202F, 0x202F), (0x205F, 0x205F), (0x3000, 0x3000)]

def isBlank (c : Char) : Bool :=
  inRanges blankRanges c.toNat

/-- The text without the blanks at both ends. -/
def trim (text : List Char) : List Char :=
  ((text.dropWhile isBlank).reverse.dropWhile isBlank).reverse

example : apart blankRanges = true := by decide
example : trim ['\t', 'a', ' ', 'b', ' '] = ['a', ' ', 'b'] := by decide

end DesignTokens.Text
