import DesignTokens.Data.Shown
import DesignTokens.Proofs.Json.Keys
import DesignTokens.Proofs.Text
import DesignTokens.Toml.Reader

/-!
# Integers with too many digits

An integer with more digits than `Data.digitLimit` breaks no rule of JSON or TOML, and it is not read
(`Json.read_of_long`, `Toml.read_of_long`). What stands behind it does not matter, since the reading
stops there. So what has been read from JSON can always be shown in a report
(`Json.longInteger?_of_read`). Of TOML that is not so: integers in another base have no such bound.
-/

namespace DesignTokens

/-! ## Integers that can be written -/

theorem Data.longIntegerIn?_eq_none {items : List Data}
    (each : ∀ item ∈ items, item.longInteger? = none) : longIntegerIn? items = none := by
  induction items with
  | nil => rfl
  | cons item rest ih =>
    obtain ⟨here, behind⟩ := List.forall_mem_cons.1 each
    rw [longIntegerIn?, here, ih behind]
    rfl

theorem Data.longIntegerUnder?_eq_none {entries : List (String × Data)}
    (each : ∀ entry ∈ entries, entry.2.longInteger? = none) : longIntegerUnder? entries = none := by
  induction entries with
  | nil => rfl
  | cons entry rest ih =>
    obtain ⟨here, behind⟩ := List.forall_mem_cons.1 each
    rw [longIntegerUnder?, here, ih behind]
    rfl

/-! ## Integers that are not read -/

/-- The digits of an integer that is not read. -/
structure LongDigits (digits : List Char) : Prop where
  each : ∀ c ∈ digits, '0' ≤ c ∧ c ≤ '9'
  front : digits.head? ≠ some '0'
  long : Data.digitLimit < digits.length

example : LongDigits (List.replicate 4301 '9') :=
  ⟨fun c there => by rw [List.eq_of_mem_replicate there]; decide, by decide,
    by rw [List.length_replicate]; decide⟩

/-- The number in front of a text is over: no digit, no point and no exponent follow. -/
def EndsInteger (rest : List Char) : Prop :=
  ∀ c ∈ rest.head?, ¬ ('0' ≤ c ∧ c ≤ '9') ∧ c ≠ '_' ∧ c ≠ '.' ∧ c ≠ 'e' ∧ c ≠ 'E'

variable {digits rest : List Char}

theorem LongDigits.exists_cons (long : LongDigits digits) :
    ∃ c more, digits = c :: more ∧ ('0' ≤ c ∧ c ≤ '9') ∧ c ≠ '0' := by
  cases digits with
  | nil => exact absurd long.long (Nat.not_lt_zero _)
  | cons c more =>
    exact ⟨c, more, rfl, long.each c List.mem_cons_self, fun same => long.front (same ▸ rfl)⟩

theorem LongDigits.digit_of_mem_head? (long : LongDigits digits) :
    ∀ c ∈ (digits ++ rest).head?, '0' ≤ c ∧ c ≤ '9' := by
  obtain ⟨first, more, rfl, digit, -⟩ := long.exists_cons
  rintro _ ⟨⟩
  exact digit

theorem LongDigits.head?_append_ne_zero (long : LongDigits digits) :
    (digits ++ rest).head? ≠ some '0' := by
  obtain ⟨first, more, rfl, -, notZero⟩ := long.exists_cons
  exact fun same => notZero (Option.some.inj same)

/-- Behind a few digits there is another one. -/
theorem LongDigits.exists_drop (long : LongDigits digits) (rest : List Char) {n : Nat}
    (few : n < Data.digitLimit) :
    ∃ c, ((digits ++ rest).drop n).head? = some c ∧ '0' ≤ c ∧ c ≤ '9' := by
  have inside : n < digits.length := Nat.lt_trans few long.long
  refine ⟨digits[n], ?_, long.each _ (List.getElem_mem inside)⟩
  rw [List.head?_drop, List.getElem?_append_left inside, List.getElem?_eq_getElem inside]

/-- A digit is none of the other characters. -/
theorem ne_of_digit {c d : Char} (digit : '0' ≤ c ∧ c ≤ '9') (other : ¬ ('0' ≤ d ∧ d ≤ '9')) :
    c ≠ d := fun same => other (same ▸ digit)

theorem beq_eq_false_of_digit {c d : Char} (digit : '0' ≤ c ∧ c ≤ '9')
    (other : ¬ ('0' ≤ d ∧ d ≤ '9')) : (c == d) = false :=
  beq_eq_false_iff_ne.2 (ne_of_digit digit other)

/-- A text that starts with digits is not passed over where no digit is. -/
theorem LongDigits.dropWhile_eq (long : LongDigits digits) {p : Char → Bool}
    (other : ∀ c, '0' ≤ c ∧ c ≤ '9' → p c = false) :
    (digits ++ rest).dropWhile p = digits ++ rest :=
  Text.dropWhile_of_head? fun c there => other c (long.digit_of_mem_head? c there)

namespace Json

theorem isDigit_iff {c : Char} : isDigit c = true ↔ '0' ≤ c ∧ c ≤ '9' := by simp [isDigit]

theorem wholePart_of_long (long : LongDigits digits) (ends : EndsInteger rest) :
    wholePart (digits ++ rest) = (digits, rest) := by
  have inside : ∀ c ∈ digits, isDigit c := fun c there => isDigit_iff.2 (long.each c there)
  have stop : ∀ c ∈ rest.head?, isDigit c = false := fun c there =>
    Bool.eq_false_iff.2 fun digit => (ends c there).1 (isDigit_iff.1 digit)
  unfold wholePart
  split
  next zero => exact absurd (congrArg List.head? zero) long.head?_append_ne_zero
  next => rw [Text.takeWhile_append_stop inside stop, Text.dropWhile_append_stop inside stop]

theorem fractionPart_of_ends (ends : EndsInteger rest) : fractionPart rest = none := by
  unfold fractionPart
  split
  · exact absurd rfl (ends _ rfl).2.2.1
  · rfl

theorem exponentPart_of_ends (ends : EndsInteger rest) : exponentPart rest = none := by
  cases rest with
  | nil => rfl
  | cons c rest =>
    obtain ⟨-, -, -, small, capital⟩ := ends c rfl
    exact if_neg (not_or.2 ⟨small, capital⟩)

theorem readNumber_of_long (long : LongDigits digits) (ends : EndsInteger rest) :
    readNumber (digits ++ rest) =
      .error ⟨.tooManyDigits (String.ofList digits), (digits ++ rest).length⟩ := by
  have positive : ¬ (digits ++ rest).head? = some '-' := fun same =>
    absurd (long.digit_of_mem_head? _ same) (by decide)
  have nonempty : digits.isEmpty = false := by
    obtain ⟨c, more, rfl, -⟩ := long.exists_cons
    rfl
  unfold readNumber
  simp only [positive, Bool.false_eq_true, if_false, wholePart_of_long long ends,
    nonempty, fractionPart_of_ends ends, exponentPart_of_ends ends, Option.getD_none,
    List.isEmpty_nil, Option.isNone_none, Bool.and_self, if_true, if_pos long.long]
  rfl

/-- No word starts with a digit. -/
theorem find?_words_of_long (long : LongDigits digits) :
    words.find? (·.1.isPrefixOf (digits ++ rest)) = none := by
  obtain ⟨c, more, rfl, digit, -⟩ := long.exists_cons
  have other (d : Char) (letter : ¬ ('0' ≤ d ∧ d ≤ '9')) : (d == c) = false :=
    beq_eq_false_iff_ne.2 (ne_of_digit digit letter).symm
  simp [words, List.isPrefixOf, other 'n' (by decide), other 't' (by decide),
    other 'f' (by decide), other 'N' (by decide), other 'I' (by decide), other '-' (by decide)]

/-- A value that starts with a digit is a number. -/
theorem readValue_of_digit {s : List Char} (front : ∀ c ∈ s.head?, '0' ≤ c ∧ c ≤ '9') :
    readValue s = readScalar s := by
  unfold readValue
  split
  · exact absurd (front _ rfl) (by decide)
  · exact absurd (front _ rfl) (by decide)
  · exact absurd (front _ rfl) (by decide)
  · rfl

/-- A value that is an integer of too many digits is not read. -/
theorem readValue_of_long (long : LongDigits digits) (ends : EndsInteger rest) {s : List Char}
    (same : s = digits ++ rest) :
    readValue s = .error ⟨.tooManyDigits (String.ofList digits), (digits ++ rest).length⟩ := by
  subst same
  rw [readValue_of_digit long.digit_of_mem_head?]
  unfold readScalar readPlain
  rw [find?_words_of_long long]
  dsimp only
  rw [readNumber_of_long long ends]
  rfl

theorem isSpace_eq_false_of_digit {c : Char} (digit : '0' ≤ c ∧ c ≤ '9') : isSpace c = false := by
  have other {d : Char} := beq_eq_false_of_digit (d := d) digit
  unfold isSpace
  rw [other (by decide), other (by decide), other (by decide), other (by decide)]
  rfl

/-- A document that starts with an integer of too many digits is not read. -/
theorem read_of_long (long : LongDigits digits) (ends : EndsInteger rest) :
    read (digits ++ rest) =
      .error ⟨.tooManyDigits (String.ofList digits), (digits ++ rest).length⟩ := by
  have start : (Text.skip isSpace (digits ++ rest)).1 = digits ++ rest :=
    long.dropWhile_eq fun _ => isSpace_eq_false_of_digit
  have unmarked : ¬ (digits ++ rest).head? = some '\ufeff' := fun same =>
    absurd (long.digit_of_mem_head? _ same) (by decide)
  unfold read
  rw [if_neg unmarked]
  exact Except.bind_eq_error.2 (.inl (readValue_of_long long ends start))

/-- Every integer in a value that is read can be written. -/
theorem longInteger?_of_read {source : List Char} {value : Data}
    (read : Json.read source = .ok value) : value.longInteger? = none := by
  refine holds_of_read (P := (·.longInteger? = none)) ⟨fun _ => rfl, fun plain => ?_,
    fun each => Data.longIntegerIn?_eq_none each, fun _ each =>
      Data.longIntegerUnder?_eq_none each⟩ read
  cases plain with
  | integer less => rw [Data.longInteger?, if_neg (Nat.not_le_of_lt less)]
  | null | boolean | real => rfl

end Json

namespace Toml

theorem isDigit_iff {c : Char} : isDigit c = true ↔ '0' ≤ c ∧ c ≤ '9' := by simp [isDigit]

theorem moreDigits_of_each (each : ∀ c ∈ digits, '0' ≤ c ∧ c ≤ '9') (ends : EndsInteger rest) :
    moreDigits isDigit (digits ++ rest) = (digits, rest) := by
  induction digits with
  | nil =>
    cases rest with
    | nil => rfl
    | cons c rest =>
      obtain ⟨noDigit, noLine, -⟩ := ends c rfl
      have stop : isDigit c = false := Bool.eq_false_iff.2 (mt isDigit_iff.1 noDigit)
      rw [List.nil_append]
      unfold moreDigits
      split
      next same => exact absurd (List.cons.inj same).1 noLine
      next same =>
        cases same
        rw [if_neg (by simp [stop])]
      next same => cases same
  | cons c more ih =>
    obtain ⟨digit, behind⟩ := List.forall_mem_cons.1 each
    rw [List.cons_append]
    unfold moreDigits
    split
    next same => exact absurd (List.cons.inj same).1 (ne_of_digit digit (by decide))
    next same =>
      cases same
      rw [if_pos (isDigit_iff.2 digit), ih behind]
    next same => cases same

theorem wholeDigits?_of_long (long : LongDigits digits) (ends : EndsInteger rest) :
    wholeDigits? (digits ++ rest) = some (digits, rest) := by
  obtain ⟨c, more, rfl, digit, notZero⟩ := long.exists_cons
  unfold wholeDigits?
  split
  next same => exact absurd (List.cons.inj same).1 notZero
  next =>
    have behind := moreDigits_of_each (List.forall_mem_cons.1 long.each).2 ends
    rw [List.cons_append]
    unfold digits?
    dsimp only
    rw [if_pos (isDigit_iff.2 digit), behind]

theorem fraction?_of_ends (ends : EndsInteger rest) : fraction? rest = none := by
  unfold fraction?
  split
  · exact absurd rfl (ends _ rfl).2.2.1
  · rfl

theorem exponent?_of_ends (ends : EndsInteger rest) : exponent? rest = none := by
  cases rest with
  | nil => rfl
  | cons c rest =>
    obtain ⟨-, -, -, small, capital⟩ := ends c rfl
    exact if_neg (not_or.2 ⟨small, capital⟩)

theorem sign_of_digit {s : List Char} (front : ∀ c ∈ s.head?, '0' ≤ c ∧ c ≤ '9') :
    sign s = (false, s) := by
  unfold sign
  split
  · exact absurd (front _ rfl) (by decide)
  · exact absurd (front _ rfl) (by decide)
  · rfl

theorem basedInteger?_of_ne_zero {s : List Char} (front : s.head? ≠ some '0') :
    basedInteger? s = none := by
  unfold basedInteger?
  split
  · exact absurd rfl front
  · exact absurd rfl front
  · exact absurd rfl front
  · rfl

theorem number?_of_long (long : LongDigits digits) (ends : EndsInteger rest) :
    number? (digits ++ rest) = some (.error (.tooManyDigits (String.ofList digits))) := by
  have whole := wholeDigits?_of_long long ends
  unfold number? decimal?
  rw [basedInteger?_of_ne_zero long.head?_append_ne_zero, sign_of_digit long.digit_of_mem_head?]
  simp only [bind, Option.bind, whole, fraction?_of_ends ends, Option.getD_none,
    exponent?_of_ends ends, if_pos long.long]
  rfl

/-! ### Dates and times have a mark behind a few digits -/

theorem left_of_fixedDigits? {n value : Nat} {s left : List Char}
    (read : fixedDigits? n s = some (value, left)) : left = s.drop n := by
  unfold fixedDigits? at read
  dsimp only at read
  split at read <;> cases read
  rfl

theorem left_of_twoDigits? {least greatest value : Nat} {s left : List Char}
    (read : twoDigits? least greatest s = some (value, left)) : left = s.drop 2 := by
  obtain ⟨⟨n, behind⟩, digits, read⟩ := Option.bind_eq_some_iff.1 read
  obtain ⟨-, -, last⟩ := Option.bind_eq_some_iff.1 read
  cases last
  exact left_of_fixedDigits? digits

theorem mark?_of_head? {s : List Char} {c d : Char} (front : s.head? = some c) (other : c ≠ d) :
    mark? d s = none := by
  cases s with
  | nil => cases front
  | cons first rest =>
    cases front
    exact if_neg other

theorem time?_of_long (long : LongDigits digits) : time? (digits ++ rest) = none := by
  obtain ⟨c, front, digit⟩ := long.exists_drop rest (n := 2) (by decide)
  have noMark : mark? ':' ((digits ++ rest).drop 2) = none :=
    mark?_of_head? front (ne_of_digit digit (by decide))
  unfold time?
  cases hours : twoDigits? 0 23 (digits ++ rest) with
  | none => rfl
  | some read =>
    obtain ⟨hour, left⟩ := read
    cases left_of_twoDigits? hours
    simp only [bind, Option.bind, noMark]

theorem dateTime?_of_long (long : LongDigits digits) : dateTime? (digits ++ rest) = none := by
  obtain ⟨c, front, digit⟩ := long.exists_drop rest (n := 4) (by decide)
  have noMark : mark? '-' ((digits ++ rest).drop 4) = none :=
    mark?_of_head? front (ne_of_digit digit (by decide))
  unfold dateTime? date?
  cases year : fixedDigits? 4 (digits ++ rest) with
  | none => rfl
  | some read =>
    obtain ⟨year, left⟩ := read
    cases left_of_fixedDigits? year
    simp only [bind, Option.bind, noMark]

/-- A value that is an integer of too many digits is not read. -/
theorem readValue_of_long (long : LongDigits digits) (ends : EndsInteger rest) {s : List Char}
    (same : s = digits ++ rest) :
    readValue s = .error ⟨.tooManyDigits (String.ofList digits), (digits ++ rest).length⟩ := by
  have front : ∀ c ∈ s.head?, '0' ≤ c ∧ c ≤ '9' := same ▸ long.digit_of_mem_head?
  rw [← same]
  have noWord (word : String) {d : Char} {others : List Char} (letters : word.toList = d :: others)
      (notDigit : ¬ ('0' ≤ d ∧ d ≤ '9')) : ¬ word.toList.isPrefixOf s = true := fun starts => by
    obtain ⟨behind, rfl⟩ := List.isPrefixOf_iff_prefix.1 starts
    rw [letters] at front
    exact notDigit (front d rfl)
  have scalar : readScalar s = .error ⟨.tooManyDigits (String.ofList digits), s.length⟩ := by
    unfold readScalar
    rw [if_neg (noWord "true" rfl (by decide)),
      if_neg (noWord "false" rfl (by decide)), same, dateTime?_of_long long]
    dsimp only
    rw [time?_of_long long]
    dsimp only
    rw [number?_of_long long ends]
    rfl
  unfold readValue
  split
  · exact absurd (front _ rfl) (by decide)
  · exact absurd (front _ rfl) (by decide)
  · exact absurd (front _ rfl) (by decide)
  · exact absurd (front _ rfl) (by decide)
  · exact absurd (front _ rfl) (by decide)
  · exact absurd (front _ rfl) (by decide)
  · exact scalar

theorem isBlank_eq_false_of_digit {c : Char} (digit : '0' ≤ c ∧ c ≤ '9') : isBlank c = false := by
  unfold isBlank
  rw [beq_eq_false_of_digit digit (by decide), beq_eq_false_of_digit digit (by decide)]
  rfl

/-- The key `x` with an equals sign behind it. -/
theorem readKey_letter (s : List Char) :
    ∃ left, readKey ('x' :: '=' :: s) = .ok (["x"], left) ∧ left.1 = '=' :: s := by
  rw [readKey]
  exact ⟨_, rfl, rfl⟩

/-- A document that gives a key an integer of too many digits is not read. -/
theorem read_of_long (long : LongDigits digits) (ends : EndsInteger rest) :
    read ('x' :: '=' :: (digits ++ rest)) =
      .error ⟨.tooManyDigits (String.ofList digits), (digits ++ rest).length⟩ := by
  have start : (digits ++ rest).dropWhile isBlank = digits ++ rest :=
    long.dropWhile_eq fun _ => isBlank_eq_false_of_digit
  have pair : readPair ('x' :: '=' :: (digits ++ rest)) =
      .error ⟨.tooManyDigits (String.ofList digits), (digits ++ rest).length⟩ := by
    obtain ⟨left, key, same⟩ := readKey_letter (digits ++ rest)
    obtain ⟨behind, found, same⟩ := Text.after?_of_eq same
    have same : behind.1.dropWhile isBlank = digits ++ rest := by rw [same, start]
    rw [readPair]
    refine Except.bind_eq_error.2 (.inr ⟨_, key, ?_⟩)
    dsimp only
    rw [found]
    exact Except.bind_eq_error.2 (.inl (readValue_of_long long ends same))
  have statements : readStatements .start ('x' :: '=' :: (digits ++ rest)) =
      .error ⟨.tooManyDigits (String.ofList digits), (digits ++ rest).length⟩ := by
    rw [readStatements]
    refine Except.bind_eq_error.2 (.inl ?_)
    show readStatement .start ('x' :: '=' :: (digits ++ rest)) = _
    exact Except.bind_eq_error.2 (.inl pair)
  unfold read
  rw [statements]
  rfl

end Toml

end DesignTokens
