/-!
# What is left of a text

A reading step takes something off the front of a text and returns what is left. `Rest s` is a
text shorter than `s`, so a reader that takes one step after another ends. `AtMost s` is for steps
that may take nothing.

The functions here are the ways in which steps follow one another. A reader that is built from them
has no bound to prove by itself.
-/

namespace DesignTokens.Text

/-- A text shorter than `s`. -/
abbrev Rest (s : List Char) := { rest : List Char // rest.length < s.length }

/-- A text not longer than `s`. -/
abbrev AtMost (s : List Char) := { rest : List Char // rest.length ≤ s.length }

variable {s : List Char}

namespace Rest

/-- What is left after the first character. -/
def tail (c : Char) (s : List Char) : Rest (c :: s) :=
  ⟨s, Nat.lt_succ_self _⟩

/-- What is left of a text is left of the text with one more character in front. -/
def under (rest : Rest s) (c : Char) : Rest (c :: s) :=
  ⟨rest.1, Nat.lt_succ_of_lt rest.2⟩

/-- A step after a step. -/
def andThen (first : Rest s) (second : Rest first.1) : Rest s :=
  ⟨second.1, Nat.lt_trans second.2 first.2⟩

/-- A step that may take nothing, after a step. -/
def thenAtMost (first : Rest s) (second : AtMost first.1) : Rest s :=
  ⟨second.1, Nat.lt_of_le_of_lt second.2 first.2⟩

/-- A step as one that may take nothing. -/
def atMost (rest : Rest s) : AtMost s :=
  ⟨rest.1, Nat.le_of_lt rest.2⟩

end Rest

namespace AtMost

/-- Nothing is taken. -/
def all (s : List Char) : AtMost s :=
  ⟨s, Nat.le_refl _⟩

/-- What is left of a text is less than the text with one more character in front. -/
def under (rest : AtMost s) (c : Char) : Rest (c :: s) :=
  ⟨rest.1, Nat.lt_succ_of_le rest.2⟩

/-- A step after one that may take nothing. -/
def andThen (first : AtMost s) (second : Rest first.1) : Rest s :=
  ⟨second.1, Nat.lt_of_lt_of_le second.2 first.2⟩

/-- Two steps that may take nothing. -/
def thenAtMost (first : AtMost s) (second : AtMost first.1) : AtMost s :=
  ⟨second.1, Nat.le_trans second.2 first.2⟩

end AtMost

theorem length_dropWhile_le (p : Char → Bool) (s : List Char) :
    (s.dropWhile p).length ≤ s.length :=
  (List.dropWhile_suffix p).length_le

/-- The text without the characters of a class at its front. -/
def skip (p : Char → Bool) (s : List Char) : AtMost s :=
  ⟨s.dropWhile p, length_dropWhile_le p s⟩

/-- The text without its first characters. -/
def drop (count : Nat) (s : List Char) : AtMost s :=
  ⟨s.drop count, (List.drop_suffix count s).length_le⟩

/-- The text behind the first character, when that is one of a class. -/
def afterAny? (p : Char → Bool) : (s : List Char) → Option (Rest s)
  | [] => none
  | first :: s => if p first then some (.tail first s) else none

/-- The text behind a given character at the front. -/
def after? (c : Char) (s : List Char) : Option (Rest s) :=
  afterAny? (· == c) s

end DesignTokens.Text
