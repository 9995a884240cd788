import DesignTokens.Calc.Scan
import DesignTokens.Proofs.Calc.Grammar
import DesignTokens.Proofs.Text

/-!
# How tokens are spelled

Every token that `Calc.scan` cuts off is spelled as its kind asks for, and nothing is lost
(`scanAt_sound`). What is spelled as a token is cut off in front of whatever stops it
(`scanAt_spelled`), and nothing else stands behind a token that is cut off (`stops_of_extent`).
-/

namespace DesignTokens.Calc

/-! ## One token -/

/-- The spellings of a kind of token. A number may still end in its point. -/
def Spelled : Kind → List Char → Prop
  | .blank, text => text = [' ']
  | .opening, text => ∃ named, text = opener named
  | .closing, text => text = [')']
  | .operator, text => ∃ operator : BinaryOperator, text = [operator.char]
  | .customProperty, text => ∃ name : VariableName, text = name.call
  | .unit, text => ∃ unit : UnitName, text = unit.letters
  | .number, text => ∃ sign body, (sign = [] ∨ sign = ['-']) ∧ text = sign ++ body ∧ body ≠ [] ∧
      (∀ c ∈ body, isNumberChar c) ∧ body.count '.' ≤ 1

/-- The text behind a token goes on neither with the token nor with another one that starts like
it. -/
def Stops : Kind → List Char → List Char → Prop
  | .number, _, rest => ∀ c ∈ rest.head?, isNumberChar c = false
  | .unit, text, rest =>
    (∀ c ∈ rest.head?, isWordChar c = false) ∧ (text = ['c', 'a', 'l', 'c'] → rest.head? ≠ some '(')
  | .operator, text, rest =>
    text = ['-'] → ∀ c ∈ rest.head?, c ≠ '-' ∧ isNumberChar c = false
  | _, _, _ => True

theorem take_length_takeWhile (p : Char → Bool) (text : List Char) :
    text.take (text.takeWhile p).length = text.takeWhile p :=
  (List.prefix_iff_eq_take.mp (List.takeWhile_prefix p)).symm

theorem variableName?_some {text name after : List Char}
    (found : variableName? text = some (name, after)) :
    text = ['(', '-', '-'] ++ name ++ ')' :: after ∧ name ≠ [] ∧ ∀ c ∈ name, isNameChar c := by
  unfold variableName? at found
  split at found
  · next rest =>
    dsimp only at found
    split at found
    · next behind dropped =>
      split at found
      · simp at found
      · next nonempty =>
        obtain ⟨rfl, rfl⟩ : rest.takeWhile isNameChar = name ∧ behind = after := by
          simpa using found
        refine ⟨?_, by simpa using nonempty, List.all_eq_true.mp List.all_takeWhile⟩
        rw [← dropped, List.append_assoc, List.takeWhile_append_dropWhile]
        rfl
    · simp at found
  · simp at found

theorem spelled_of_numberExtent {c : Char} {rest : List Char} {kind : Kind} {n : Nat}
    (first : c = '-' ∧ rest.takeWhile isNumberChar ≠ [] ∨ isNumberChar c)
    (found : numberExtent c rest = .ok (kind, n)) : Spelled kind (c :: rest.take n) := by
  unfold numberExtent at found
  dsimp only at found
  split at found
  · simp at found
  · next few =>
    obtain ⟨rfl, rfl⟩ : Kind.number = kind ∧ (rest.takeWhile isNumberChar).length = n := by
      simpa using found
    rw [take_length_takeWhile]
    have digits : ∀ d ∈ rest.takeWhile isNumberChar, isNumberChar d :=
      List.all_eq_true.mp List.all_takeWhile
    rcases first with ⟨rfl, nonempty⟩ | number
    · refine ⟨['-'], _, .inr rfl, rfl, nonempty, digits, ?_⟩
      simpa using few
    · refine ⟨[], _, .inl rfl, rfl, by simp, ?_, by omega⟩
      rw [List.forall_mem_cons]
      exact ⟨number, digits⟩

theorem spelled_of_wordExtent {c : Char} {rest : List Char} {kind : Kind} {n : Nat}
    (first : isWordChar c) (found : wordExtent c rest = .ok (kind, n)) :
    Spelled kind (c :: rest.take n) := by
  have letters : ∀ d ∈ rest.takeWhile isWordChar, isWordChar d :=
    List.all_eq_true.mp List.all_takeWhile
  unfold wordExtent at found
  dsimp only at found
  split at found
  · next starts =>
    obtain ⟨more, same⟩ := List.isPrefixOf_iff_prefix.mp starts
    obtain ⟨rfl, front⟩ : 'v' = c ∧ 'a' :: 'r' :: more = rest.takeWhile isWordChar := by
      simpa using same
    have starts : ['a', 'r'] <+: rest.takeWhile isWordChar := ⟨more, front⟩
    obtain ⟨behind, rfl⟩ := starts.trans (List.takeWhile_prefix isWordChar)
    split at found
    · next name after called =>
      obtain ⟨rfl, rfl⟩ : Kind.customProperty = kind ∧ name.length + 6 = n := by
        simpa using found
      obtain ⟨same, nonempty, isName⟩ := variableName?_some called
      have same : behind = ['(', '-', '-'] ++ name ++ ')' :: after := same
      refine ⟨⟨name, nonempty, isName⟩, ?_⟩
      simp [same, VariableName.call, List.take_append, List.take_of_length_le]
    · simp at found
  · next notVariable =>
    split at found
    · next group =>
      obtain ⟨rfl, rfl⟩ : Kind.opening = kind ∧ 4 = n := by simpa using found
      obtain ⟨rfl, named⟩ : c = 'c' ∧ rest.takeWhile isWordChar = ['a', 'l', 'c'] := by
        simpa using group.1
      obtain ⟨behind, after⟩ := List.head?_eq_some_iff.mp group.2
      have whole := List.take_append_drop (rest.takeWhile isWordChar).length rest
      rw [take_length_takeWhile, after, named] at whole
      exact ⟨true, by simp [← whole, opener]⟩
    · obtain ⟨rfl, rfl⟩ : Kind.unit = kind ∧ (rest.takeWhile isWordChar).length = n := by
        simpa using found
      rw [take_length_takeWhile]
      refine ⟨⟨c :: rest.takeWhile isWordChar, by simp, ?_, ?_⟩, rfl⟩
      · rw [List.forall_mem_cons]
        exact ⟨first, letters⟩
      · rwa [List.isPrefixOf_iff_prefix] at notVariable

/-- The characters that are cut off together are spelled as their kind asks for. -/
theorem spelled_of_extent {c : Char} {rest : List Char} {kind : Kind} {n : Nat}
    (found : extent c rest = .ok (kind, n)) : Spelled kind (c :: rest.take n) := by
  have one {k : Kind} (same : (.ok (k, 0) : Extent) = .ok (kind, n)) : k = kind ∧ 0 = n := by
    simpa using same
  unfold extent at found
  split at found
  · next blank =>
    obtain ⟨rfl, rfl⟩ := one found
    simp [Spelled, blank]
  split at found
  · next hyphen =>
    have minus : Spelled .operator [c] := ⟨.minus, by rw [hyphen]; rfl⟩
    split at found
    · obtain ⟨rfl, rfl⟩ := one found
      exact minus
    · next d next =>
      split at found
      · simp at found
      -- A hyphen in front of a digit is the sign of a number, and an operator otherwise.
      split at found
      · next number =>
        refine spelled_of_numberExtent (.inl ⟨hyphen, ?_⟩) found
        obtain ⟨behind, rfl⟩ := List.head?_eq_some_iff.mp next
        simp [number]
      · obtain ⟨rfl, rfl⟩ := one found
        exact minus
  split at found
  · next number => exact spelled_of_numberExtent (.inr number) found
  split at found
  · next operator =>
    obtain ⟨rfl, rfl⟩ := one found
    rcases operator with rfl | rfl | rfl
    · exact ⟨.plus, rfl⟩
    · exact ⟨.times, rfl⟩
    · exact ⟨.divide, rfl⟩
  split at found
  · next opening =>
    obtain ⟨rfl, rfl⟩ := one found
    exact ⟨false, by simp [opener, opening]⟩
  split at found
  · next closing =>
    obtain ⟨rfl, rfl⟩ := one found
    simp [Spelled, closing]
  split at found
  · next word => exact spelled_of_wordExtent word found
  · simp at found

/-! ## All tokens -/

theorem scanAt_cons {pos : Nat} {c : Char} {rest : List Char} {kind : Kind} {n : Nat}
    (found : extent c rest = .ok (kind, n)) :
    scanAt pos (c :: rest) =
      (scanAt (pos + n + 1) (rest.drop n)).map (⟨kind, c :: rest.take n, pos⟩ :: ·) := by
  rw [scanAt, found]
  dsimp only
  cases scanAt (pos + n + 1) (rest.drop n) <;> rfl

/-- Every token is spelled as its kind asks for, and the tokens make up the text. -/
theorem scanAt_sound {pos : Nat} {text : List Char} {tokens : List Token}
    (scanned : scanAt pos text = .ok tokens) :
    (∀ token ∈ tokens, Spelled token.kind token.text) ∧ tokens.flatMap (·.text) = text := by
  fun_induction scanAt pos text generalizing tokens with
  | case1 pos =>
    obtain rfl : [] = tokens := by simpa using scanned
    simp
  | case2 pos c rest fault fragment found => simp at scanned
  | case3 pos c rest kind n found ih =>
    cases behind : scanAt (pos + n + 1) (rest.drop n) with
    | error e =>
      rw [behind] at scanned
      cases scanned
    | ok others =>
      rw [behind] at scanned
      cases scanned
      obtain ⟨spelled, whole⟩ := ih behind
      refine ⟨List.forall_mem_cons.mpr ⟨spelled_of_extent found, spelled⟩, ?_⟩
      rw [List.flatMap_cons, whole, List.cons_append, List.take_append_drop]

/-! ## Numbers -/

namespace IsMagnitude

variable {text : List Char}

theorem ne_nil (magnitude : IsMagnitude text) : text ≠ [] := by
  cases magnitude with
  | whole nonempty _ => exact nonempty
  | fraction => simp

theorem numberChars (magnitude : IsMagnitude text) : ∀ c ∈ text, isNumberChar c := by
  cases magnitude with
  | whole _ digits =>
    intro c member
    simp [isNumberChar, digits c member]
  | fraction front _ digits =>
    intro c member
    rcases List.mem_append.mp member with member | member
    · simp [isNumberChar, front c member]
    · rcases List.mem_cons.mp member with rfl | member
      · rfl
      · simp [isNumberChar, digits c member]

theorem point_not_mem {digits : List Char} (isDigits : ∀ c ∈ digits, isDigit c) :
    '.' ∉ digits := fun member => absurd (isDigits '.' member) (by decide)

theorem count_le_one (magnitude : IsMagnitude text) : text.count '.' ≤ 1 := by
  cases magnitude with
  | whole _ digits => simp [List.count_eq_zero.mpr (point_not_mem digits)]
  | fraction front _ digits =>
    simp [List.count_append, List.count_eq_zero.mpr (point_not_mem front),
      List.count_eq_zero.mpr (point_not_mem digits)]

theorem getLast?_ne_point (magnitude : IsMagnitude text) : text.getLast? ≠ some '.' := by
  cases magnitude with
  | whole _ digits => exact fun last => point_not_mem digits (List.mem_of_getLast? last)
  | @fraction front digits _ nonempty isDigits =>
    rw [List.getLast?_append, List.getLast?_cons_of_ne_nil nonempty,
      List.getLast?_eq_some_getLast nonempty, Option.some_or]
    intro last
    exact point_not_mem isDigits (Option.some.inj last ▸ List.getLast_mem nonempty)

end IsMagnitude

/-- What is spelled as a number and does not end in its point is a number. -/
theorem exists_numeral {text : List Char} (spelled : Spelled .number text)
    (last : text.getLast? ≠ some '.') : ∃ value : Numeral, value.written = text := by
  obtain ⟨sign, body, signed, rfl, nonempty, chars, few⟩ := spelled
  have digits {part : List Char} (sub : ∀ c ∈ part, c ∈ body) (none : '.' ∉ part) :
      ∀ c ∈ part, isDigit c := by
    intro c member
    have number := chars c (sub c member)
    rcases Bool.or_eq_true .. |>.mp number with digit | point
    · exact digit
    · exact absurd (beq_iff_eq.mp point ▸ member) none
  have magnitude : IsMagnitude body := by
    -- With one point at most, cutting there leaves two runs of digits.
    by_cases point : '.' ∈ body
    · obtain ⟨front, behind, rfl⟩ := List.append_of_mem point
      rw [List.count_append, List.count_cons_self] at few
      refine .fraction (digits (by simp +contextual) ?_) ?_ (digits (by simp +contextual) ?_)
      · exact List.count_eq_zero.mp (by omega)
      · rintro rfl
        exact last (by simp)
      · exact List.count_eq_zero.mp (by omega)
    · exact .whole nonempty (digits (fun _ member => member) point)
  rcases signed with rfl | rfl
  · exact ⟨⟨false, body, magnitude⟩, rfl⟩
  · exact ⟨⟨true, body, magnitude⟩, rfl⟩

theorem Numeral.spelled (value : Numeral) : Spelled .number value.written := by
  have magnitude := value.isMagnitude
  unfold Numeral.written
  split
  · exact ⟨['-'], _, .inr rfl, rfl, magnitude.ne_nil, magnitude.numberChars, magnitude.count_le_one⟩
  · exact ⟨[], _, .inl rfl, rfl, magnitude.ne_nil, magnitude.numberChars, magnitude.count_le_one⟩

theorem Numeral.getLast?_written (value : Numeral) : value.written.getLast? ≠ some '.' := by
  unfold Numeral.written
  split
  · rw [List.getLast?_cons_of_ne_nil value.isMagnitude.ne_nil]
    exact value.isMagnitude.getLast?_ne_point
  · exact value.isMagnitude.getLast?_ne_point

/-! ## Classes of characters -/

theorem numberExtent_append {c : Char} {digits rest : List Char}
    (isDigits : ∀ d ∈ digits, isNumberChar d) (few : (c :: digits).count '.' ≤ 1)
    (stop : ∀ d ∈ rest.head?, isNumberChar d = false) :
    numberExtent c (digits ++ rest) = .ok (.number, digits.length) := by
  rw [numberExtent, Text.takeWhile_append_stop isDigits stop]
  exact if_neg (by omega)

theorem le_iff_toNat {c d : Char} : c ≤ d ↔ c.toNat ≤ d.toNat := Iff.rfl

theorem toNat_of_numberChar {c : Char} (number : isNumberChar c) :
    46 ≤ c.toNat ∧ c.toNat ≤ 57 := by
  simp only [isNumberChar, isDigit, le_iff_toNat, Bool.or_eq_true, Bool.and_eq_true,
    decide_eq_true_eq, beq_iff_eq] at number
  rcases number with digit | rfl
  · exact ⟨Nat.le_trans (by decide) digit.1, digit.2⟩
  · decide

theorem toNat_of_wordChar {c : Char} (word : isWordChar c) : c.toNat = 37 ∨ 65 ≤ c.toNat := by
  simp only [isWordChar, isLetter, le_iff_toNat, Bool.or_eq_true, Bool.and_eq_true,
    decide_eq_true_eq, beq_iff_eq] at word
  rcases word with (small | capital) | rfl
  · exact .inr (Nat.le_trans (by decide) small.1)
  · exact .inr capital.1
  · exact .inl rfl

theorem not_numberChar_of_wordChar {c : Char} (word : isWordChar c) : isNumberChar c = false := by
  rw [Bool.eq_false_iff]
  intro number
  have := toNat_of_numberChar number
  have := toNat_of_wordChar word
  omega

theorem extent_word {c : Char} {rest : List Char} (word : isWordChar c) :
    extent c rest = wordExtent c rest := by
  have other {d : Char} (notWord : isWordChar d = false) : c ≠ d := by
    rintro rfl
    exact absurd word (by simp [notWord])
  have notNumber := not_numberChar_of_wordChar word
  simp [extent, word, notNumber, other (d := ' ') (by decide), other (d := '-') (by decide),
    other (d := '+') (by decide), other (d := '*') (by decide), other (d := '/') (by decide),
    other (d := '(') (by decide), other (d := ')') (by decide)]

theorem variableName?_append (name : VariableName) (rest : List Char) :
    variableName? (['(', '-', '-'] ++ name.chars ++ ')' :: rest) = some (name.chars, rest) := by
  have stop : ∀ c ∈ (')' :: rest).head?, isNameChar c = false := by
    rintro _ ⟨⟩
    decide
  simp [variableName?, Text.takeWhile_append_stop name.isName stop,
    Text.dropWhile_append_stop name.isName stop, name.nonempty]

/-! ## What follows a token -/

/-- Behind the characters of a class that are taken off comes none of the class. -/
theorem head?_drop_takeWhile (p : Char → Bool) (text : List Char) :
    ∀ c ∈ (text.drop (text.takeWhile p).length).head?, p c = false := by
  induction text with
  | nil => exact nofun
  | cons c rest ih =>
    cases here : p c with
    | true => simpa [here] using ih
    | false => simp [here]

theorem stops_of_numberExtent {c : Char} {rest : List Char} {kind : Kind} {n : Nat}
    (found : numberExtent c rest = .ok (kind, n)) : Stops kind (c :: rest.take n) (rest.drop n) := by
  unfold numberExtent at found
  dsimp only at found
  split at found
  · cases found
  · cases found
    exact head?_drop_takeWhile isNumberChar rest

theorem stops_of_wordExtent {c : Char} {rest : List Char} {kind : Kind} {n : Nat}
    (found : wordExtent c rest = .ok (kind, n)) : Stops kind (c :: rest.take n) (rest.drop n) := by
  unfold wordExtent at found
  dsimp only at found
  split at found
  · split at found
    · cases found
      trivial
    · cases found
  · split at found
    · cases found
      trivial
    · next notGroup =>
      cases found
      rw [take_length_takeWhile]
      exact ⟨head?_drop_takeWhile isWordChar rest, fun word opening => notGroup ⟨word, opening⟩⟩

/-- What stands behind a token that is cut off stops it. -/
theorem stops_of_extent {c : Char} {rest : List Char} {kind : Kind} {n : Nat}
    (found : extent c rest = .ok (kind, n)) : Stops kind (c :: rest.take n) (rest.drop n) := by
  unfold extent at found
  split at found
  · cases found
    trivial
  split at found
  · split at found
    · next none =>
      cases found
      intro _ d next
      rw [List.drop_zero, none] at next
      cases next
    · next d next =>
      split at found
      · cases found
      next notHyphen =>
      split at found
      · exact stops_of_numberExtent found
      · next notNumber =>
        cases found
        intro _ e there
        rw [List.drop_zero, next] at there
        cases there
        exact ⟨notHyphen, by simpa using notNumber⟩
  split at found
  · exact stops_of_numberExtent found
  split at found
  · next operator =>
    cases found
    intro hyphen
    obtain rfl : c = '-' := by simpa using hyphen
    contradiction
  split at found
  · cases found
    trivial
  split at found
  · cases found
    trivial
  split at found
  · exact stops_of_wordExtent found
  · cases found

theorem extent_number {c : Char} {letters rest : List Char} (spelled : Spelled .number (c :: letters))
    (stop : ∀ d ∈ rest.head?, isNumberChar d = false) :
    extent c (letters ++ rest) = .ok (.number, letters.length) := by
  obtain ⟨sign, body, signed, written, nonempty, chars, few⟩ := spelled
  have other {d e : Char} (number : isNumberChar d) (notNumber : isNumberChar e = false) : d ≠ e := by
    rintro rfl
    exact absurd number (by simp [notNumber])
  rcases signed with rfl | rfl
  · obtain rfl : c :: letters = body := written
    obtain ⟨one, digits⟩ := List.forall_mem_cons.mp chars
    have blank : c ≠ ' ' := other one (by decide)
    have hyphen : c ≠ '-' := other one (by decide)
    simpa [extent, blank, hyphen, one] using numberExtent_append digits few stop
  · obtain ⟨rfl, rfl⟩ : c = '-' ∧ letters = body := by simpa using written
    obtain ⟨first, digits, rfl⟩ := List.exists_cons_of_ne_nil nonempty
    have one : isNumberChar first := chars first List.mem_cons_self
    have hyphen : first ≠ '-' := other one (by decide)
    have number := numberExtent_append chars (c := '-') (by simpa using few) stop
    simpa [extent, hyphen, one] using number

theorem extent_unit {c : Char} {letters rest : List Char} (spelled : Spelled .unit (c :: letters))
    (stops : Stops .unit (c :: letters) rest) :
    extent c (letters ++ rest) = .ok (.unit, letters.length) := by
  obtain ⟨⟨_, _, isWord, notVariable⟩, rfl⟩ := spelled
  obtain ⟨stop, notGroup⟩ := stops
  obtain ⟨first, others⟩ := List.forall_mem_cons.mp isWord
  rw [← List.isPrefixOf_iff_prefix] at notVariable
  have notGroup : ¬ (c :: letters = ['c', 'a', 'l', 'c'] ∧ rest.head? = some '(') :=
    fun group => notGroup group.1 group.2
  rw [extent_word first, wordExtent, Text.takeWhile_append_stop others stop]
  rw [if_neg notVariable, List.drop_left, if_neg notGroup]

theorem extent_call (name : VariableName) {rest : List Char} :
    extent 'v' (['a', 'r', '(', '-', '-'] ++ name.chars ++ [')'] ++ rest) =
      .ok (.customProperty, name.chars.length + 6) := by
  have front : ['a', 'r', '(', '-', '-'] ++ name.chars ++ [')'] ++ rest =
      ['a', 'r'] ++ (['(', '-', '-'] ++ name.chars ++ ')' :: rest) := by simp
  have letters : ['a', 'r'].all isWordChar = true := rfl
  have word : (['a', 'r'] ++ (['(', '-', '-'] ++ name.chars ++ ')' :: rest)).takeWhile isWordChar =
      ['a', 'r'] := Text.takeWhile_append_stop (List.all_eq_true.1 letters) (by rintro _ ⟨⟩; decide)
  have called := variableName?_append name rest
  rw [front, extent_word (by decide), wordExtent, word]
  simp only [List.cons_append, List.nil_append] at called
  simp [called]

/-- What is spelled as a token is cut off as that token in front of what stops it. -/
theorem extent_of_spelled {kind : Kind} {c : Char} {letters rest : List Char}
    (spelled : Spelled kind (c :: letters)) (stops : Stops kind (c :: letters) rest) :
    extent c (letters ++ rest) = .ok (kind, letters.length) := by
  cases kind with
  | number => exact extent_number spelled stops
  | unit => exact extent_unit spelled stops
  | customProperty =>
    obtain ⟨name, written⟩ := spelled
    obtain ⟨rfl, rfl⟩ := List.cons.inj written
    simpa using extent_call name
  | operator =>
    obtain ⟨operator, written⟩ := spelled
    obtain ⟨rfl, rfl⟩ := List.cons.inj written
    cases operator with
    | plus | times | divide => rfl
    | minus =>
      -- A hyphen is an operator where nothing follows that makes it a sign or one of two hyphens.
      cases rest with
      | nil => rfl
      | cons d rest =>
        obtain ⟨hyphen, number⟩ := stops rfl d rfl
        simp [extent, BinaryOperator.char, hyphen, number]
  | opening =>
    obtain ⟨named, written⟩ := spelled
    cases named with
    | false => cases written; rfl
    | true =>
      cases written
      have word : ('a' :: 'l' :: 'c' :: '(' :: rest).takeWhile isWordChar = ['a', 'l', 'c'] := rfl
      show extent 'c' ('a' :: 'l' :: 'c' :: '(' :: rest) = _
      rw [extent_word (by decide), wordExtent, word]
      rfl
  | closing => cases spelled; rfl
  | blank => cases spelled; rfl

theorem Spelled.ne_nil {kind : Kind} {text : List Char} (spelled : Spelled kind text) :
    text ≠ [] := by
  cases kind with
  | number =>
    obtain ⟨sign, body, -, rfl, nonempty, -⟩ := spelled
    simp [nonempty]
  | unit => obtain ⟨unit, rfl⟩ := spelled; exact unit.nonempty
  | customProperty => obtain ⟨name, rfl⟩ := spelled; exact List.cons_ne_nil _ _
  | operator => obtain ⟨operator, rfl⟩ := spelled; exact List.cons_ne_nil _ _
  | opening => obtain ⟨named, rfl⟩ := spelled; cases named <;> exact List.cons_ne_nil _ _
  | closing | blank => cases spelled; exact List.cons_ne_nil _ _

/-- A token is cut off in front of what stops it, and the rest is cut up by itself. -/
theorem scanAt_spelled {kind : Kind} {text rest : List Char} {pos : Nat}
    (spelled : Spelled kind text) (stops : Stops kind text rest) :
    scanAt pos (text ++ rest) =
      (scanAt (pos + text.length) rest).map (⟨kind, text, pos⟩ :: ·) := by
  obtain ⟨c, letters, rfl⟩ := List.exists_cons_of_ne_nil spelled.ne_nil
  rw [List.cons_append, scanAt_cons (extent_of_spelled spelled stops), List.drop_left,
    List.take_left, List.length_cons, Nat.add_assoc]

theorem scanAt_single {c : Char} {kind : Kind} {pos : Nat} {rest : List Char}
    (found : extent c rest = .ok (kind, 0)) :
    scanAt pos (c :: rest) = (scanAt (pos + 1) rest).map (⟨kind, [c], pos⟩ :: ·) := by
  simpa using scanAt_cons found

theorem scanAt_operator (operator : BinaryOperator) {pos : Nat} {rest : List Char} :
    scanAt pos (operator.char :: ' ' :: rest) =
      (scanAt (pos + 1) (' ' :: rest)).map (⟨.operator, [operator.char], pos⟩ :: ·) := by
  refine scanAt_single ?_
  cases operator <;> rfl

end DesignTokens.Calc
