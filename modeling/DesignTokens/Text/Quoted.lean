import DesignTokens.Text.Hexadecimal
import DesignTokens.Text.Printable

/-!
# Quoted text

Messages show a text inside quotes so that its ends and its invisible characters can be seen. The
quote is `'`, or `"` for a text that holds `'` and no `"`. The quote in use and the backslash are
escaped with a backslash, line ends and tabs by their letters, and every other character that is
not printable by its code point in two, four or eight hexadecimal digits.
-/

namespace DesignTokens.Text

/-- A character between the given quotes. -/
def quotedChar (quote : Char) (c : Char) : List Char :=
  if c = quote ∨ c = '\\' then ['\\', c]
  else if c = '\n' then ['\\', 'n']
  else if c = '\r' then ['\\', 'r']
  else if c = '\t' then ['\\', 't']
  else if isPrintable c then [c]
  else if c.toNat < 0x100 then '\\' :: 'x' :: hexPadded 2 c.toNat
  else if c.toNat < 0x10000 then '\\' :: 'u' :: hexPadded 4 c.toNat
  else '\\' :: 'U' :: hexPadded 8 c.toNat

/-- The quote that needs no escaping where there is one, else `'`. -/
def quoteFor (text : List Char) : Char :=
  if text.contains '\'' && !text.contains '"' then '"' else '\''

def quotedChars (text : List Char) : List Char :=
  let quote := quoteFor text
  quote :: text.flatMap (quotedChar quote) ++ [quote]

/-- A text as messages quote it. -/
def quoted (text : String) : String :=
  String.ofList (quotedChars text.toList)

example : quotedChars ['i', 't', '\'', 's'] = ['"', 'i', 't', '\'', 's', '"'] := by decide +kernel

end DesignTokens.Text
