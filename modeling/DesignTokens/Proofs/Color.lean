import DesignTokens.Color
import DesignTokens.Proofs.Hexadecimal
import Mathlib.Data.List.TakeWhile

/-!
# Colors that are read and written

A literal that is read holds nothing but `#`, hexadecimal digits and at most a line end behind them
(`Channels.mem_of_ofLiteral`), and its channels are at most 255 (`Channels.lt_of_ofLiteral`).
Channels of that size are written as a list that is known as one
(`Channels.isChannelTriplet_text`). A call of `rgb` is no such list
(`not_isChannelTriplet_of_startsWithRgb`), and it is what `wrapRgb` makes of any text
(`startsWithRgb_wrapRgb`).
-/

namespace DesignTokens

namespace Channels

variable {literal : String} {channels : Channels}

theorem mem_of_mem_dropLineEnd {body : List Char} {c : Char} (there : c ∈ body) :
    c ∈ (dropLineEnd body).1 ∨ c = '\n' := by
  unfold dropLineEnd
  split
  · next last =>
    obtain ⟨front, rfl⟩ := List.getLast?_eq_some_iff.1 last
    simpa using there
  · exact .inl there

/-- A literal that is read is three or six hexadecimal digits behind `#`. -/
theorem exists_digits_of_ofLiteral (read : ofLiteral literal = .ok channels) :
    ∃ body digits, literal.toList = '#' :: body ∧
      (dropLineEnd body).1.mapM Text.hexDigit? = some digits ∧
      ((∃ r g b, digits = [r, g, b] ∧ channels = ⟨17 * r, 17 * g, 17 * b⟩) ∨
        ∃ r r' g g' b b', digits = [r, r', g, g', b, b'] ∧
          channels = ⟨16 * r + r', 16 * g + g', 16 * b + b'⟩) := by
  unfold ofLiteral at read
  split at read
  · next body spelled =>
    simp only at read
    split at read
    · next r g b each =>
      split at read
      · cases read
      · cases read
        exact ⟨body, _, spelled, each, .inl ⟨r, g, b, rfl, rfl⟩⟩
    · next r r' g g' b b' each =>
      cases read
      exact ⟨body, _, spelled, each, .inr ⟨r, r', g, g', b, b', rfl, rfl⟩⟩
    · cases read
  · cases read

theorem isHexLiteral_of_ofLiteral (read : ofLiteral literal = .ok channels) :
    isHexLiteral literal = true := by
  obtain ⟨body, -, spelled, -⟩ := exists_digits_of_ofLiteral read
  unfold isHexLiteral
  rw [spelled]
  rfl

theorem mem_of_ofLiteral (read : ofLiteral literal = .ok channels) :
    ∀ c ∈ literal.toList, c = '#' ∨ Text.IsHexDigit c ∨ c = '\n' := by
  obtain ⟨body, digits, spelled, each, -⟩ := exists_digits_of_ofLiteral read
  rw [spelled]
  intro c there
  rcases List.mem_cons.1 there with rfl | there
  · exact .inl rfl
  · exact .inr ((mem_of_mem_dropLineEnd there).imp_left (Text.forall_isHexDigit_of_mapM each c))

theorem lt_of_ofLiteral (read : ofLiteral literal = .ok channels) :
    channels.red < 256 ∧ channels.green < 256 ∧ channels.blue < 256 := by
  obtain ⟨body, digits, -, each, shape⟩ := exists_digits_of_ofLiteral read
  have small := Text.forall_lt_of_mapM_hexDigit? each
  rcases shape with ⟨r, g, b, rfl, rfl⟩ | ⟨r, r', g, g', b, b', rfl, rfl⟩
  all_goals
    simp only [List.forall_mem_cons] at small
    simp only
    omega

theorem toList_text (channels : Channels) :
    channels.text.toList = (toString channels.red).toList ++ ',' :: ' ' ::
      ((toString channels.green).toList ++ ',' :: ' ' :: (toString channels.blue).toList) := by
  have comma : (toString ", ").toList = [',', ' '] := rfl
  simp [text, String.toList_append, comma]

/-! ## Lists of channels -/

theorem isDecimalDigit_of_isDigit {c : Char} (digit : c.isDigit) :
    Text.isDecimalDigit c = true := by
  obtain ⟨low, high⟩ : 48 ≤ c.toNat ∧ c.toNat ≤ 57 := by
    simpa [Char.isDigit, UInt32.le_iff_toNat_le] using digit
  unfold Text.isDecimalDigit Text.inRanges
  refine List.any_eq_true.2 ⟨(0x30, 0x39), List.mem_cons_self, ?_⟩
  simp only [Bool.and_eq_true, decide_eq_true_eq]
  exact ⟨low, high⟩

theorem toList_toString (n : Nat) : (toString n).toList = Nat.toDigits 10 n := by
  simp

theorem isDecimalDigit_toString (n : Nat) :
    ∀ c ∈ (toString n).toList, Text.isDecimalDigit c = true := by
  intro c there
  rw [toList_toString] at there
  exact isDecimalDigit_of_isDigit (Nat.isDigit_of_mem_toDigits (by decide) (by decide) there)

theorem channelNumber?_toString {n : Nat} (small : n < 256) {rest : List Char}
    (stop : ∀ c ∈ rest.head?, Text.isDecimalDigit c = false) :
    channelNumber? ((toString n).toList ++ rest) = some rest := by
  have some : 1 ≤ (toString n).toList.length := by
    rw [toList_toString]
    exact Nat.length_toDigits_pos
  have few : (toString n).toList.length ≤ 3 := by
    rw [toList_toString]
    exact (Nat.length_toDigits_le_iff (by decide) (by decide)).2 (by omega)
  have ends : rest.takeWhile Text.isDecimalDigit = [] := by
    cases rest with
    | nil => rfl
    | cons c rest => exact List.takeWhile_cons_of_neg (by simp [stop c rfl])
  have taken : ((toString n).toList ++ rest).takeWhile Text.isDecimalDigit =
      (toString n).toList := by
    rw [List.takeWhile_append_of_pos (isDecimalDigit_toString n), ends, List.append_nil]
  unfold channelNumber?
  simp only [taken]
  rw [if_pos ⟨some, few⟩, List.drop_left]

/-- Channels that a literal can give are written as a list of channels. -/
theorem isChannelTriplet_text
    (small : channels.red < 256 ∧ channels.green < 256 ∧ channels.blue < 256) :
    isChannelTriplet channels.text = true := by
  obtain ⟨red, green, blue⟩ := small
  have last : channelNumber? ((toString channels.blue).toList ++ []) = some [] :=
    channelNumber?_toString blue nofun
  rw [List.append_nil] at last
  unfold isChannelTriplet
  rw [toList_text, channelNumber?_toString red (by simp; decide)]
  simp only [Option.bind_eq_bind, Option.bind_some, channelComma?]
  rw [channelNumber?_toString green (by simp; decide)]
  simp only [Option.bind_some, last]
  rfl

theorem chars_text (channels : Channels) :
    ∀ c ∈ channels.text.toList, Text.isDecimalDigit c ∨ c = ',' ∨ c = ' ' := by
  rw [toList_text]
  intro c there
  simp only [List.mem_append, List.mem_cons] at there
  rcases there with there | rfl | rfl | there | rfl | rfl | there
  · exact .inl (isDecimalDigit_toString _ c there)
  · exact .inr (.inl rfl)
  · exact .inr (.inr rfl)
  · exact .inl (isDecimalDigit_toString _ c there)
  · exact .inr (.inl rfl)
  · exact .inr (.inr rfl)
  · exact .inl (isDecimalDigit_toString _ c there)

/-- No list of channels starts as a call of `rgb`. -/
theorem startsWithRgb_text (channels : Channels) : startsWithRgb channels.text = false := by
  refine Bool.eq_false_iff.2 fun starts => ?_
  have letter : 'r' ∈ channels.text.toList :=
    (List.isPrefixOf_iff_prefix.1 starts).subset List.mem_cons_self
  exact absurd (channels.chars_text _ letter) (by decide)

end Channels

/-! ## Calls of `rgb` -/

theorem toList_rgbCall (value : String) :
    (rgbCall value).toList = 'r' :: 'g' :: 'b' :: '(' :: (value.toList ++ [')']) := by
  simp [rgbCall, String.toList_append]

/-- A call of `rgb` is longer than what is in it. -/
theorem rgbCall_ne (text : String) : rgbCall text ≠ text := by
  intro same
  have lengths := congrArg (fun text : String => text.toList.length) same
  simp only [toList_rgbCall, List.length_cons, List.length_append] at lengths
  omega

theorem rgbCall_injective : Function.Injective rgbCall := by
  intro a b same
  have chars := congrArg String.toList same
  rw [toList_rgbCall, toList_rgbCall] at chars
  exact String.toList_injective (by simpa using chars)

section Rgb

variable {text : String}

theorem exists_of_startsWithRgb (starts : startsWithRgb text = true) :
    ∃ rest, text.toList = 'r' :: 'g' :: 'b' :: rest := by
  obtain ⟨rest, whole⟩ := List.isPrefixOf_iff_prefix.1 starts
  exact ⟨rest, whole.symm⟩

theorem startsWithRgb_rgbCall (text : String) : startsWithRgb (rgbCall text) = true := by
  rw [startsWithRgb, toList_rgbCall]
  rfl

theorem wrapRgb_of_not_startsWithRgb (other : startsWithRgb text = false) :
    wrapRgb text = rgbCall text := by
  rw [wrapRgb, other]
  rfl

theorem startsWithRgb_wrapRgb (text : String) : startsWithRgb (wrapRgb text) = true := by
  unfold wrapRgb
  split
  · next starts => exact starts
  · exact startsWithRgb_rgbCall text

theorem wrapRgb_eq_self_iff : wrapRgb text = text ↔ startsWithRgb text = true := by
  cases starts : startsWithRgb text with
  | true => exact iff_of_true (if_pos starts) rfl
  | false =>
    rw [wrapRgb_of_not_startsWithRgb starts]
    exact iff_of_false (rgbCall_ne text) nofun

/-- A call of `rgb` is no list of channels. -/
theorem not_isChannelTriplet_of_startsWithRgb (starts : startsWithRgb text = true) :
    isChannelTriplet text = false := by
  obtain ⟨rest, whole⟩ := exists_of_startsWithRgb starts
  rw [isChannelTriplet, whole]
  rfl

theorem not_startsWithRgb_of_isChannelTriplet (triplet : isChannelTriplet text = true) :
    startsWithRgb text = false := by
  refine Bool.eq_false_iff.2 fun starts => ?_
  rw [not_isChannelTriplet_of_startsWithRgb starts] at triplet
  cases triplet

end Rgb

end DesignTokens
