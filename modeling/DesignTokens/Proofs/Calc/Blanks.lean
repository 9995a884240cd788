import DesignTokens.Proofs.Calc.Seams

/-!
# A blank ends every token

What is cut off in front of a blank does not depend on what is behind it: the look at the character
behind a hyphen, the name of a variable, the parenthesis behind `calc` and the text of an error all
end at the blank at the latest (`extent_append_blank`). So a text with a blank in it is cut into the
tokens in front of it, the blank, and the tokens of the text behind it (`scan_splits_at_blank`).
-/

namespace DesignTokens.Calc

/-! ## Positions -/

/-- The token `n` characters further behind. -/
def Token.shift (n : Nat) (token : Token) : Token :=
  { token with pos := token.pos + n }

/-- The error `n` characters further behind. -/
def Error.shift (n : Nat) (e : Error) : Error :=
  { e with pos := e.pos + n }

/-- A text that stands further behind is cut alike, with every position further behind. -/
theorem scanAt_add (pos n : Nat) (text : List Char) :
    scanAt (pos + n) text =
      match scanAt pos text with
      | .error e => .error (e.shift n)
      | .ok tokens => .ok (tokens.map (·.shift n)) := by
  fun_induction scanAt pos text with
  | case1 pos => rw [scanAt]; rfl
  | case2 pos c rest fault fragment found =>
    rw [scanAt, found]
    simp [Error.shift]
  | case3 pos c rest kind k found ih =>
    have place : pos + n + k + 1 = pos + k + 1 + n := by omega
    rw [scanAt_cons found, place, ih]
    cases scanAt (pos + k + 1) (rest.drop k) with
    | error e => rfl
    | ok tokens => simp [Except.map, Token.shift, bind, Except.bind, pure, Except.pure]

/-! ## One token -/

section Extent

variable (c : Char) (rest behind : List Char)

theorem takeWhile_append_blank {p : Char → Bool} (stop : p ' ' = false) :
    (rest ++ ' ' :: behind).takeWhile p = rest.takeWhile p := by
  induction rest with
  | nil => simp [stop]
  | cons d others ih => simp only [List.cons_append, List.takeWhile_cons, ih]

theorem numberExtent_append_blank :
    numberExtent c (rest ++ ' ' :: behind) = numberExtent c rest := by
  rw [numberExtent, numberExtent, takeWhile_append_blank rest behind rfl]

/-- A variable in front of a blank is closed in front of it. -/
theorem exists_variableName?_append_blank {name : List Char} :
    (∃ after, variableName? (rest ++ ' ' :: behind) = some (name, after)) ↔
      ∃ after, variableName? rest = some (name, after) := by
  constructor
  · rintro ⟨after, called⟩
    obtain ⟨whole, nonempty, isName⟩ := variableName?_some called
    rcases Text.append_eq_append_cons whole with ⟨middle, rfl, -⟩ | ⟨middle, front, blank⟩
    · exact ⟨middle, variableName?_append ⟨name, nonempty, isName⟩ middle⟩
    · -- The blank would be in the name.
      obtain ⟨_, rfl, -⟩ := Text.exists_front_of_ne (by decide) blank
      have there : ' ' ∈ ['(', '-', '-'] ++ name := front ▸ by simp
      exact absurd (isName ' ' (by simpa using there)) (by decide)
  · rintro ⟨after, called⟩
    obtain ⟨rfl, nonempty, isName⟩ := variableName?_some called
    refine ⟨after ++ ' ' :: behind, ?_⟩
    simpa using variableName?_append ⟨name, nonempty, isName⟩ (after ++ ' ' :: behind)

/-- The name of a variable does not depend on what is behind a blank. -/
theorem map_variableName?_append_blank :
    (variableName? (rest ++ ' ' :: behind)).map (·.1) = (variableName? rest).map (·.1) := by
  ext name
  simpa using exists_variableName?_append_blank rest behind

theorem wordExtent_append_blank :
    wordExtent c (rest ++ ' ' :: behind) = wordExtent c rest := by
  have letters := takeWhile_append_blank rest behind (p := isWordChar) rfl
  have fragment := takeWhile_append_blank (c :: rest) behind (p := (!Text.isBlank ·)) (by decide)
  have fits : (rest.takeWhile isWordChar).length ≤ rest.length :=
    (List.takeWhile_prefix isWordChar).length_le
  rw [List.cons_append] at fragment
  unfold wordExtent
  simp only [letters, fragment]
  split
  · next starts =>
    -- The word has three letters at least, so the blank is behind them.
    have three : 3 ≤ (c :: rest.takeWhile isWordChar).length :=
      (List.isPrefixOf_iff_prefix.1 starts).length_le
    rw [List.length_cons] at three
    have names := map_variableName?_append_blank (rest.drop 2) behind
    rw [List.drop_append_of_le_length (by omega)]
    cases called : variableName? (rest.drop 2) with
    | none =>
      rw [called, Option.map_none, Option.map_eq_none_iff] at names
      rw [names]
    | some found =>
      obtain ⟨name, after⟩ := found
      rw [called, Option.map_some, Option.map_eq_some_iff] at names
      obtain ⟨⟨_, _⟩, called', rfl⟩ := names
      rw [called']
  · rw [List.drop_append_of_le_length fits]
    cases rest.drop (rest.takeWhile isWordChar).length with
    | nil => simp
    | cons d others => rfl

/-- What is cut off in front of a blank does not depend on what is behind it. -/
theorem extent_append_blank : extent c (rest ++ ' ' :: behind) = extent c rest := by
  unfold extent
  simp only [numberExtent_append_blank, wordExtent_append_blank]
  cases rest <;> rfl

end Extent

/-! ## All tokens -/

/-- A text in front of a blank is cut by itself, and so is the text behind the blank. -/
theorem scanAt_append_blank (pos : Nat) (front behind : List Char) :
    scanAt pos (front ++ ' ' :: behind) = do
      let before ← scanAt pos front
      let after ← scanAt (pos + front.length + 1) behind
      return before ++ ⟨.blank, [' '], ↑(pos + front.length)⟩ :: after := by
  fun_induction scanAt pos front with
  | case1 pos =>
    have blank : extent ' ' behind = .ok (.blank, 0) := rfl
    rw [List.nil_append, scanAt_single blank]
    rfl
  | case2 pos c rest fault fragment found =>
    rw [List.cons_append, scanAt, extent_append_blank, found]
    rfl
  | case3 pos c rest kind n found ih =>
    have fits : n ≤ rest.length := by
      rw [← length_take_of_extent found]
      exact List.length_take_le' _ _
    have place : pos + n + 1 + (rest.drop n).length = pos + (c :: rest).length := by
      rw [List.length_drop, List.length_cons]
      omega
    rw [place] at ih
    rw [List.cons_append, scanAt_cons ((extent_append_blank c rest behind).trans found),
      List.drop_append_of_le_length fits, List.take_append_of_le_length fits, ih]
    cases scanAt (pos + n + 1) (rest.drop n) with
    | error e => rfl
    | ok before =>
      cases scanAt (pos + (c :: rest).length + 1) behind <;> rfl

/-- A blank ends every token. The text in front of one and the text behind it are each cut as if
they stood by themselves, and the tokens of the second one stand further behind. An error in front
of the blank is the error of the whole, and else one behind it is. -/
theorem scan_splits_at_blank (a b : String) :
    scan (a ++ " " ++ b).toList =
      match scan a.toList, scan b.toList with
      | .error e, _ => .error e
      | .ok _, .error e => .error (e.shift (a.length + 1))
      | .ok before, .ok after =>
        .ok (before ++ ⟨.blank, [' '], a.length⟩ :: after.map (·.shift (a.length + 1))) := by
  have whole : (a ++ " " ++ b).toList = a.toList ++ ' ' :: b.toList := by
    simp [String.toList_append]
  have place : 0 + a.toList.length + 1 = 0 + (a.length + 1) := by
    rw [String.length_toList, Nat.add_assoc]
  unfold scan
  rw [whole, scanAt_append_blank, place, scanAt_add 0]
  cases scanAt 0 a.toList with
  | error e => rfl
  | ok before =>
    cases scanAt 0 b.toList with
    | error e => rfl
    | ok after => simp [bind, Except.bind, pure, Except.pure, String.length_toList]

end DesignTokens.Calc
