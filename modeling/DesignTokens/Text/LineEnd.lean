/-!
# Line ends

Files come with three line ends: a line feed, a carriage return, or both. A text that is read from
a file has line feeds only.
-/

namespace DesignTokens.Text

/-- A text with every line end as a line feed. -/
def withLineFeeds : List Char → List Char
  | '\r' :: '\n' :: rest => '\n' :: withLineFeeds rest
  | '\r' :: rest => '\n' :: withLineFeeds rest
  | c :: rest => c :: withLineFeeds rest
  | [] => []

/-- The text in the bytes of a file, or nothing when they are not UTF-8. -/
def ofBytes? (bytes : ByteArray) : Option (List Char) :=
  (String.fromUTF8? bytes).map fun text => withLineFeeds text.toList

example : withLineFeeds ['a', '\r', '\n', '\r', 'b'] = ['a', '\n', '\n', 'b'] := by decide

end DesignTokens.Text
