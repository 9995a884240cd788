/-!
# Hexadecimal digits

Color literals and escapes are read and written digit by digit.
-/

namespace DesignTokens.Text

/-- The value of a hexadecimal digit in either case. -/
def hexDigit? (c : Char) : Option Nat :=
  if '0' ≤ c ∧ c ≤ '9' then some (c.toNat - 48)
  else if 'a' ≤ c ∧ c ≤ 'f' then some (c.toNat - 87)
  else if 'A' ≤ c ∧ c ≤ 'F' then some (c.toNat - 55)
  else none

/-- A code point in lower-case hexadecimal, padded with zeros to `width` digits. -/
def hexPadded (width code : Nat) : List Char :=
  let digits := Nat.toDigits 16 code
  List.replicate (width - digits.length) '0' ++ digits

example : hexPadded 4 0xE9 = ['0', '0', 'e', '9'] := by decide

end DesignTokens.Text
