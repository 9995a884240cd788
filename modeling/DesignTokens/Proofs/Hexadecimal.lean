import DesignTokens.Proofs.Outcome
import DesignTokens.Text.Hexadecimal

/-!
# Hexadecimal digits, read and written

The characters that are read as a digit are `0` to `9`, `a` to `f` and `A` to `F`
(`exists_hexDigit?_iff`), each as a number below 16. A number is written with one character for each
of its digits (`hexPadded_succ`), and two digits that are read are written as they were, in lower
case (`hexPadded_two`).
-/

namespace DesignTokens.Text

/-- A digit from 0 to 9, or a letter from a to f in either case. -/
def IsHexDigit (c : Char) : Prop :=
  ('0' ≤ c ∧ c ≤ '9') ∨ ('a' ≤ c ∧ c ≤ 'f') ∨ ('A' ≤ c ∧ c ≤ 'F')

instance (c : Char) : Decidable (IsHexDigit c) :=
  inferInstanceAs (Decidable (_ ∨ _))

/-! ## Reading -/

theorem exists_hexDigit?_iff {c : Char} : (∃ digit, hexDigit? c = some digit) ↔ IsHexDigit c := by
  unfold hexDigit? IsHexDigit
  split
  · next range => simp [range]
  · next other =>
    split
    · next range => simp [range]
    · next other' => simp [other, other']

/-- No digit comes after `f`. -/
theorem IsHexDigit.le {c : Char} (digit : IsHexDigit c) : c.toNat ≤ 102 := by
  have below {last : Char} (le : c ≤ last) (small : last.toNat ≤ 102) : c.toNat ≤ 102 :=
    Nat.le_trans le small
  rcases digit with ⟨-, high⟩ | ⟨-, high⟩ | ⟨-, high⟩
  · exact below high (by decide)
  · exact below high (by decide)
  · exact below high (by decide)

section Read

variable {c : Char} {digit : Nat}

/-- What holds of the digits among the characters up to `f` holds of every digit. -/
theorem of_hexDigit? (holds : Char → Nat → Prop) (read : hexDigit? c = some digit)
    (all : ∀ n ≤ 102, ∀ digit ∈ hexDigit? (Char.ofNat n), holds (Char.ofNat n) digit) :
    holds c digit := by
  have here := all c.toNat (exists_hexDigit?_iff.1 ⟨digit, read⟩).le digit
  rw [Char.ofNat_toNat] at here
  exact here read

theorem hexDigit?_lt (read : hexDigit? c = some digit) : digit < 16 :=
  of_hexDigit? (fun _ digit => digit < 16) read (by decide)

/-- A digit is written again in lower case. -/
theorem digitChar_of_hexDigit? (read : hexDigit? c = some digit) :
    Nat.digitChar digit = c.toLower :=
  of_hexDigit? (fun c digit => Nat.digitChar digit = c.toLower) read (by decide)

end Read

section Together

variable {chars : List Char} {digits : List Nat}

/-- Digits that are read together are read one by one. -/
theorem mapM_hexDigit?_iff :
    chars.mapM hexDigit? = some digits ↔
      List.Forall₂ (fun c digit => hexDigit? c = some digit) chars digits := by
  induction chars generalizing digits with
  | nil => simp [eq_comm]
  | cons c rest ih =>
    rw [List.mapM_cons]
    constructor
    · intro read
      obtain ⟨digit, first, read⟩ := Option.bind_eq_some_iff.1 read
      obtain ⟨others, behind, last⟩ := Option.bind_eq_some_iff.1 read
      cases last
      exact .cons first (ih.1 behind)
    · rintro (_ | ⟨first, behind⟩)
      rw [first, ih.2 behind]
      rfl

theorem forall_isHexDigit_of_mapM (read : chars.mapM hexDigit? = some digits) :
    ∀ c ∈ chars, IsHexDigit c := by
  intro c there
  exact exists_hexDigit?_iff.1 (exists_forall₂_iff.1 ⟨digits, mapM_hexDigit?_iff.1 read⟩ c there)

theorem forall_lt_of_mapM_hexDigit? (read : chars.mapM hexDigit? = some digits) :
    ∀ digit ∈ digits, digit < 16 := by
  intro digit there
  obtain ⟨c, -, first⟩ := exists_related (mapM_hexDigit?_iff.1 read) there
  exact hexDigit?_lt first

end Together

/-! ## Writing -/

theorem hexDigit?_digitChar : ∀ digit < 16, hexDigit? (Nat.digitChar digit) = some digit := by
  decide

theorem hexPadded_one {n : Nat} (small : n < 16) : hexPadded 1 n = [Nat.digitChar n] := by
  unfold hexPadded
  rw [Nat.toDigits_of_lt_base small]
  rfl

/-- One more digit stands behind the others. -/
theorem hexPadded_succ (width n : Nat) :
    hexPadded (width + 2) n = hexPadded (width + 1) (n / 16) ++ [Nat.digitChar (n % 16)] := by
  unfold hexPadded
  rw [Nat.toDigits_eq_if (b := 16) (n := n) (by decide)]
  split
  next small =>
    rw [Nat.div_eq_of_lt small, Nat.mod_eq_of_lt small, Nat.toDigits_zero]
    simp [List.replicate_succ']
  next =>
    simp

/-- Two digits that are read are written as they were, in lower case. -/
theorem hexPadded_two {c c' : Char} {high low : Nat} (first : hexDigit? c = some high)
    (second : hexDigit? c' = some low) :
    hexPadded 2 (16 * high + low) = [c.toLower, c'.toLower] := by
  have small := hexDigit?_lt second
  have above : (16 * high + low) / 16 = high := by omega
  have below : (16 * high + low) % 16 = low := by omega
  rw [hexPadded_succ, above, below, hexPadded_one (hexDigit?_lt first),
    digitChar_of_hexDigit? first, digitChar_of_hexDigit? second]
  rfl

end DesignTokens.Text
