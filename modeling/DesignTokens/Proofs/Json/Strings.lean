import DesignTokens.Json.Reader
import DesignTokens.Json.Writer
import DesignTokens.Proofs.Hexadecimal

/-!
# Strings are read back

Each character is written plainly, as a letter after a backslash, or by its UTF-16 units, and each
of these is read as that character (`leaves_readString_writtenChar`). So a string that is written is
read back whole (`leaves_readString_written`).
-/

namespace DesignTokens.Json

open DesignTokens.Text

variable {α : Type} {s : List Char}

/-- A reading step gives `a` and leaves `rest`. -/
def Leaves (step : Except Error (α × Rest s)) (a : α) (rest : List Char) : Prop :=
  ∃ shorter, step = .ok (a, ⟨rest, shorter⟩)

/-! ## Units -/

theorem hexPadded_four {unit : Nat} (fits : unit < 0x10000) :
    hexPadded 4 unit = [Nat.digitChar (unit / 16 / 16 / 16), Nat.digitChar (unit / 16 / 16 % 16),
      Nat.digitChar (unit / 16 % 16), Nat.digitChar (unit % 16)] := by
  rw [hexPadded_succ, hexPadded_succ, hexPadded_succ, hexPadded_one (by omega)]
  rfl

/-- A UTF-16 unit is read back from its digits. -/
theorem leaves_readUnit (next : Char) (rest : List Char) {unit : Nat} (fits : unit < 0x10000) :
    Leaves (readUnit (hexPadded 4 unit ++ next :: rest)) unit (next :: rest) := by
  have whole : ((unit / 16 / 16 / 16 * 16 + unit / 16 / 16 % 16) * 16 + unit / 16 % 16) * 16 +
      unit % 16 = unit := by omega
  rw [hexPadded_four fits]
  refine ⟨by simp, ?_⟩
  simp only [List.cons_append, List.nil_append, readUnit, hex4?]
  rw [hexDigit?_digitChar _ (by omega), hexDigit?_digitChar _ (by omega),
    hexDigit?_digitChar _ (by omega), hexDigit?_digitChar _ (by omega)]
  simp only [bind, Option.bind, pure, whole]
  rfl

/-! ## Escapes -/

theorem secondHalf?_escapedUnit (next : Char) (rest : List Char) {unit : Nat}
    (fits : unit < 0x10000) :
    ∃ step, secondHalf? (escapedUnit unit ++ next :: rest) = some step ∧
      Leaves step unit (next :: rest) := by
  have read := leaves_readUnit next rest fits
  unfold escapedUnit
  rw [hexPadded_four fits] at read ⊢
  simp only [List.cons_append, List.nil_append] at read ⊢
  obtain ⟨shorter, read⟩ := read
  refine ⟨_, rfl, ?_⟩
  rw [read]
  exact ⟨_, rfl⟩

/-- A character below `0x10000` is read back from its unit. -/
theorem leaves_readUnicode_unit {c next : Char} {rest : List Char} (single : c.toNat < 0x10000) :
    Leaves (readUnicode (hexPadded 4 c.toNat ++ next :: rest)) c (next :: rest) := by
  obtain ⟨shorter, read⟩ := leaves_readUnit next rest single
  have valid : c.toNat < 0xD800 ∨ 0xDFFF < c.toNat ∧ c.toNat < 0x110000 := c.valid
  have whole : ¬ (0xD800 ≤ c.toNat ∧ c.toNat ≤ 0xDFFF) := by omega
  have alone : ¬ (0xD800 ≤ c.toNat ∧ c.toNat ≤ 0xDBFF) := by omega
  refine ⟨shorter, ?_⟩
  unfold readUnicode
  rw [read]
  simp only [bind, Except.bind, if_neg alone, unitChar, if_neg whole, Char.ofNat_toNat]
  rfl

/-- Two halves of a pair of units are read as one character. -/
theorem leaves_readUnicode_pair {c next : Char} {rest : List Char} {high low : Nat}
    (isHigh : 0xD800 ≤ high ∧ high ≤ 0xDBFF) (isLow : 0xDC00 ≤ low ∧ low ≤ 0xDFFF)
    (whole : 0x10000 + (high - 0xD800) * 0x400 + (low - 0xDC00) = c.toNat) :
    Leaves (readUnicode (hexPadded 4 high ++ (escapedUnit low ++ next :: rest))) c
      (next :: rest) := by
  have highFits : high < 0x10000 := by omega
  have lowFits : low < 0x10000 := by omega
  obtain ⟨reply, second, shorter', read'⟩ :=
    secondHalf?_escapedUnit next rest lowFits
  obtain ⟨shorter, read⟩ :=
    leaves_readUnit '\\' ('u' :: (hexPadded 4 low ++ next :: rest)) highFits
  refine ⟨Nat.lt_trans shorter' shorter, ?_⟩
  have second : secondHalf? ('\\' :: 'u' :: (hexPadded 4 low ++ next :: rest)) = some reply :=
    second
  unfold readUnicode
  show (readUnit (hexPadded 4 high ++ '\\' :: 'u' :: (hexPadded 4 low ++ next :: rest)) >>= _) = _
  rw [read]
  simp only [bind, Except.bind, if_pos isHigh, second, read', if_pos isLow, whole, Char.ofNat_toNat]
  rfl

/-! ## Strings -/

/-- What is read after a `u` and the units of an escape. -/
theorem leaves_readString_unicode {opening : Nat} {units text rest s : List Char} {c : Char}
    (escape : Leaves (readUnicode units) c s) (reads : Leaves (readString opening s) text rest) :
    Leaves (readString opening ('\\' :: 'u' :: units)) (c :: text) rest := by
  obtain ⟨shorter, read⟩ := escape
  obtain ⟨shorter', read'⟩ := reads
  refine ⟨Nat.lt_trans (Nat.lt_trans shorter' shorter) (Nat.lt_add_of_pos_right Nat.two_pos), ?_⟩
  rw [readString, read]
  simp only [bind, Except.bind, read']
  rfl

theorem leaves_readString_letter {opening : Nat} {c letter next : Char} {text rest s : List Char}
    (other : letter ≠ 'u') (stands : escape? letter = some c)
    (reads : Leaves (readString opening (next :: s)) text rest) :
    Leaves (readString opening ('\\' :: letter :: next :: s)) (c :: text) rest := by
  obtain ⟨shorter, read⟩ := reads
  refine ⟨Nat.lt_trans shorter (Nat.lt_add_of_pos_right Nat.two_pos), ?_⟩
  rw [readString, stands, read]
  · rfl
  · exact fun same => other same

theorem leaves_readString_plain {opening : Nat} {c : Char} {text rest s : List Char}
    (visible : 0x20 ≤ c.toNat) (noQuote : c ≠ '"') (noBackslash : c ≠ '\\')
    (reads : Leaves (readString opening s) text rest) :
    Leaves (readString opening (c :: s)) (c :: text) rest := by
  obtain ⟨shorter, read⟩ := reads
  refine ⟨Nat.lt_succ_of_lt shorter, ?_⟩
  rw [readString, if_neg (Nat.not_lt.2 visible), read]
  · rfl
  · exact noQuote
  · exact fun same _ => noBackslash same
  · exact fun _ same _ => noBackslash same
  · exact fun _ _ same _ => noBackslash same

/-- How a character is written: as a letter after a backslash, as it is, or by one or two units. -/
theorem writtenChar_cases (c : Char) :
    (∃ letter, letter ≠ 'u' ∧ escape? letter = some c ∧ writtenChar c = ['\\', letter]) ∨
      (0x20 ≤ c.toNat ∧ c ≠ '"' ∧ c ≠ '\\' ∧ writtenChar c = [c]) ∨
      (c.toNat < 0x10000 ∧ writtenChar c = escapedUnit c.toNat) ∨
      ∃ high low, (0xD800 ≤ high ∧ high ≤ 0xDBFF) ∧ (0xDC00 ≤ low ∧ low ≤ 0xDFFF) ∧
        0x10000 + (high - 0xD800) * 0x400 + (low - 0xDC00) = c.toNat ∧
        writtenChar c = escapedUnit high ++ escapedUnit low := by
  have valid : c.toNat < 0xD800 ∨ 0xDFFF < c.toNat ∧ c.toNat < 0x110000 := c.valid
  unfold writtenChar
  split
  next same => subst same; exact .inl ⟨'"', by decide, rfl, rfl⟩
  split
  next same => subst same; exact .inl ⟨'\\', by decide, rfl, rfl⟩
  split
  next same => subst same; exact .inl ⟨'n', by decide, rfl, rfl⟩
  split
  next same => subst same; exact .inl ⟨'r', by decide, rfl, rfl⟩
  split
  next same => subst same; exact .inl ⟨'t', by decide, rfl, rfl⟩
  split
  next same => subst same; exact .inl ⟨'f', by decide, rfl, rfl⟩
  split
  next same => subst same; exact .inl ⟨'b', by decide, rfl, rfl⟩
  split
  next noQuote noBackslash _ _ _ _ _ visible =>
    exact .inr (.inl ⟨visible.1, noQuote, noBackslash, rfl⟩)
  split
  next single => exact .inr (.inr (.inl ⟨single, rfl⟩))
  next double =>
    exact .inr (.inr (.inr ⟨_, _, by omega, by omega, by omega, rfl⟩))

/-- Each character is read as it was written. -/
theorem leaves_readString_writtenChar {opening : Nat} {c next : Char} {text rest s : List Char}
    (reads : Leaves (readString opening (next :: s)) text rest) :
    Leaves (readString opening (writtenChar c ++ next :: s)) (c :: text) rest := by
  rcases writtenChar_cases c with ⟨letter, other, stands, written⟩ |
    ⟨visible, noQuote, noBackslash, written⟩ | ⟨single, written⟩ |
    ⟨high, low, isHigh, isLow, whole, written⟩
  · rw [written]
    exact leaves_readString_letter other stands reads
  · rw [written]
    exact leaves_readString_plain visible noQuote noBackslash reads
  · rw [written]
    exact leaves_readString_unicode (leaves_readUnicode_unit single) reads
  · rw [written, List.append_assoc]
    exact leaves_readString_unicode (leaves_readUnicode_pair isHigh isLow whole) reads

/-- A string is read back whole. -/
theorem leaves_readString_written (opening : Nat) (text rest : List Char) :
    Leaves (readString opening (text.flatMap writtenChar ++ '"' :: rest)) text rest := by
  induction text with
  | nil =>
    show Leaves (readString opening ('"' :: rest)) [] rest
    refine ⟨Nat.lt_succ_self _, ?_⟩
    rw [readString]
    rfl
  | cons c text ih =>
    rw [List.flatMap_cons, List.append_assoc]
    -- An escape is read only when something follows it. At the least the closing quote does.
    obtain ⟨next, s, behind⟩ : ∃ next s, text.flatMap writtenChar ++ '"' :: rest = next :: s :=
      List.exists_cons_of_ne_nil (by simp)
    rw [behind] at ih ⊢
    exact leaves_readString_writtenChar ih

end DesignTokens.Json
