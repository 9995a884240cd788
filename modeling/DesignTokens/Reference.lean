/-!
# References inside a text

A reference is `{name}`, where the name is not empty and holds no brace. `Reference.pieces` cuts a
text into references and the characters around them. All other braces are plain characters.

The text is cut from its end to its front: an opening brace starts a reference exactly when the
pieces after it are the characters of a name and a closing brace. No two references overlap, so
reading from the front finds the same ones.
-/

namespace DesignTokens.Reference

/-- A character that stands for itself, or a reference to the token of a name. -/
inductive Piece where
  | char (c : Char)
  | reference (name : List Char)
  deriving DecidableEq

/-- The characters in front of the first closing brace, and the pieces after it, when no opening
brace and no reference comes before it. -/
def upToBrace? : List Piece → Option (List Char × List Piece)
  | [] => none
  | .reference _ :: _ => none
  | .char c :: rest =>
    if c = '}' then some ([], rest)
    else if c = '{' then none
    else (upToBrace? rest).map fun found => (c :: found.1, found.2)

/-- The pieces of a text that starts with `c`, from the pieces of the text behind it. -/
def attach (c : Char) (pieces : List Piece) : List Piece :=
  if c = '{' then
    match upToBrace? pieces with
    | some (first :: name, rest) => .reference (first :: name) :: rest
    | _ => .char c :: pieces
  else .char c :: pieces

/-- The pieces of a text. -/
def pieces (text : List Char) : List Piece :=
  text.foldr attach []

/-- Whether a piece is a reference. -/
def Piece.isReference : Piece → Bool
  | .char _ => false
  | .reference _ => true

/-- Whether a text has a reference. -/
def occursIn (text : String) : Bool :=
  (pieces text.toList).any (·.isReference)

/-- The names of the references of a text, in order. -/
def names (text : String) : List String :=
  (pieces text.toList).filterMap fun
    | .char _ => none
    | .reference name => some (String.ofList name)

/-- A piece as it was written. -/
def Piece.written : Piece → List Char
  | .char c => [c]
  | .reference name => '{' :: name ++ ['}']

/-! ## Nothing is lost -/

theorem written_upToBrace? {pieces : List Piece} {name : List Char} {rest : List Piece}
    (h : upToBrace? pieces = some (name, rest)) :
    pieces.flatMap Piece.written = name ++ '}' :: rest.flatMap Piece.written := by
  induction pieces generalizing name rest with
  | nil => simp [upToBrace?] at h
  | cons piece others ih =>
    cases piece with
    | reference _ => simp [upToBrace?] at h
    | char c =>
      simp only [upToBrace?] at h
      split at h
      · simp_all [Piece.written]
      · split at h
        · simp at h
        · obtain ⟨⟨name', rest'⟩, found, same⟩ := Option.map_eq_some_iff.1 h
          simp only [Prod.mk.injEq] at same
          obtain ⟨rfl, rfl⟩ := same
          simp [Piece.written, ih found]

/-- The pieces, as they were written, are the text. -/
theorem written_pieces (text : List Char) :
    (pieces text).flatMap Piece.written = text := by
  induction text with
  | nil => rfl
  | cons c rest ih =>
    have step : pieces (c :: rest) = attach c (pieces rest) := rfl
    rw [step, attach]
    split
    · split
      · next found =>
        have := written_upToBrace? found
        simp_all [Piece.written]
      · simp [Piece.written, ih]
    · simp [Piece.written, ih]

example : pieces ['a', '{', 'b', '}'] = [.char 'a', .reference ['b']] := by decide
example : pieces ['{', '{', '}'] = [.char '{', .char '{', .char '}'] := by decide

end DesignTokens.Reference
