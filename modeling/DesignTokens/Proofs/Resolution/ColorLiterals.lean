import DesignTokens.Proofs.Resolution.Channels
import DesignTokens.Proofs.Source.Reading

/-!
# Color literals that are converted or refused

What is read as a color is `#` with three or six hexadecimal digits, and a line end may follow six
of them (`Channels.Spells`). Three digits with a line end behind them are refused for want of a
digit (`Channels.LacksDigit`), and all other texts as no color. What is read becomes three decimal
numbers whose hexadecimal digits are those of the literal (`Channels.Lists`).

A literal that lacks a digit is not reported. It is the only failure of this kind when a token is
written, and it is met at a token that references lead to (`color_literals_converted_or_refused`).
-/

namespace DesignTokens

open Inquiry Relation

/-! ## Decimal numbers -/

/-- A number in decimal digits, with no zero in front of other digits. -/
structure IsDecimal (text : String) (n : Nat) : Prop where
  digits : ∀ c ∈ text.toList, c.isDigit = true
  leading : text.toList.head? = some '0' → text = "0"
  value : Nat.ofDigitChars 10 text.toList 0 = n

/-- The digits of a number start with a zero only when the number is zero. -/
theorem head?_toDigits (n : Nat) : (Nat.toDigits 10 n).head? = some '0' → n = 0 := by
  induction n using Nat.strong_induction_on with
  | _ n ih =>
    -- The first digit of a number with several digits is that of the number without its last one.
    rw [Nat.toDigits_eq_if (by decide)]
    split
    · next small =>
      have digits : ∀ digit < 10, some (Nat.digitChar digit) = some '0' → digit = 0 := by decide
      exact digits n small
    · next large =>
      have more : 0 < n / 10 := Nat.div_pos (Nat.not_lt.1 large) (by decide)
      rw [List.head?_append_of_ne_nil _ Nat.toDigits_ne_nil]
      intro zero
      exact absurd (ih _ (Nat.div_lt_self (by omega) (by decide)) zero) more.ne'

theorem isDecimal_toString (n : Nat) : IsDecimal (toString n) n where
  digits c there := by
    rw [Channels.toList_toString] at there
    exact Nat.isDigit_of_mem_toDigits (by decide) (by decide) there
  leading zero := by
    rw [Channels.toList_toString] at zero
    rw [head?_toDigits n zero]
    rfl
  value := by rw [Channels.toList_toString, Nat.ofDigitChars_ten_toDigits]

namespace Channels

/-! ## Digits of literals -/

/-- Three or six hexadecimal digits. -/
structure IsHexColor (digits : List Char) : Prop where
  each : ∀ c ∈ digits, Text.IsHexDigit c
  length : digits.length = 3 ∨ digits.length = 6

/-- The literal is `#` with these digits behind it. A line end may follow six digits. -/
inductive Spells (literal : String) (digits : List Char) : Prop
  | whole : IsHexColor digits → literal.toList = '#' :: digits → Spells literal digits
  | ended : IsHexColor digits → digits.length = 6 → literal.toList = '#' :: (digits ++ ['\n']) →
      Spells literal digits

/-- The literal is `#` with three digits and a line end behind it. -/
def LacksDigit (literal : String) : Prop :=
  ∃ digits, IsHexColor digits ∧ digits.length = 3 ∧ literal.toList = '#' :: (digits ++ ['\n'])

/-- Each of three digits twice, and six digits as they are. -/
def doubled (digits : List Char) : List Char :=
  if digits.length = 3 then digits.flatMap fun c => [c, c] else digits

/-- The text lists three decimal numbers from 0 to 255, and these digits are their hexadecimal
ones, two for each, up to case. -/
inductive Lists (digits : List Char) : String → Prop
  | intro {r g b : Nat} {red green blue : String} : r < 256 → g < 256 → b < 256 →
      IsDecimal red r → IsDecimal green g → IsDecimal blue b →
      Text.hexPadded 2 r ++ Text.hexPadded 2 g ++ Text.hexPadded 2 b = digits.map Char.toLower →
      Lists digits (red ++ ", " ++ green ++ ", " ++ blue)

theorem exists_hexDigits {digits : List Char} (color : IsHexColor digits) :
    ∃ channels, HexDigits digits channels := by
  obtain ⟨each, three | six⟩ := color
  · obtain ⟨r, g, b, rfl⟩ := List.length_eq_three.1 three
    simp only [List.forall_mem_cons, ← Text.exists_hexDigit?_iff] at each
    obtain ⟨⟨_, red⟩, ⟨_, green⟩, ⟨_, blue⟩, -⟩ := each
    exact ⟨_, .doubled (.pairs red red green green blue blue)⟩
  · match digits, six with
    | [r, r', g, g', b, b'], _ =>
      simp only [List.forall_mem_cons, ← Text.exists_hexDigit?_iff] at each
      obtain ⟨⟨_, red⟩, ⟨_, red'⟩, ⟨_, green⟩, ⟨_, green'⟩, ⟨_, blue⟩, ⟨_, blue'⟩, -⟩ := each
      exact ⟨_, .pairs red red' green green' blue blue'⟩

section HexDigits

variable {digits : List Char} {channels : Channels}

/-- The channels of some digits are written with these digits. -/
theorem hexPadded_of_hexDigits (hex : HexDigits digits channels) :
    Text.hexPadded 2 channels.red ++ Text.hexPadded 2 channels.green ++
      Text.hexPadded 2 channels.blue = (doubled digits).map Char.toLower := by
  have pairs {r r' g g' b b' : Char} (hex : HexDigits [r, r', g, g', b, b'] channels) :
      Text.hexPadded 2 channels.red ++ Text.hexPadded 2 channels.green ++
        Text.hexPadded 2 channels.blue = [r, r', g, g', b, b'].map Char.toLower := by
    cases hex with
    | pairs red red' green green' blue blue' =>
      rw [Text.hexPadded_two red red', Text.hexPadded_two green green',
        Text.hexPadded_two blue blue']
      rfl
  cases hex with
  | pairs red red' green green' blue blue' => exact pairs (.pairs red red' green green' blue blue')
  | doubled hex => exact pairs hex

theorem lists_of_hexDigits (hex : HexDigits digits channels) :
    Lists (doubled digits) channels.text := by
  obtain ⟨red, green, blue⟩ := lt_of_ofLiteral (ofLiteral_of_hexDigits hex)
  exact .intro red green blue (isDecimal_toString _) (isDecimal_toString _) (isDecimal_toString _)
    (hexPadded_of_hexDigits hex)

end HexDigits

/-! ## What is read, and what is refused -/

section OfLiteral

variable {literal : String} {digits body : List Char}

theorem dropLineEnd_concat (front : List Char) : dropLineEnd (front ++ ['\n']) = (front, true) := by
  simp [dropLineEnd]

theorem dropLineEnd_cases (body : List Char) :
    (∃ front, body = front ++ ['\n'] ∧ dropLineEnd body = (front, true)) ∨
      dropLineEnd body = (body, false) := by
  by_cases last : body.getLast? = some '\n'
  · obtain ⟨front, rfl⟩ := List.getLast?_eq_some_iff.1 last
    exact .inl ⟨front, rfl, dropLineEnd_concat front⟩
  · exact .inr (if_neg last)

theorem ofLiteral_of_spells (spells : Spells literal digits) :
    ∃ channels, HexDigits digits channels ∧ ofLiteral literal = .ok channels := by
  cases spells with
  | whole color spelled =>
    obtain ⟨channels, hex⟩ := exists_hexDigits color
    refine ⟨channels, hex, ?_⟩
    rw [← ofLiteral_of_hexDigits hex, ← spelled, String.ofList_toList]
  | ended color six spelled =>
    obtain ⟨channels, hex⟩ := exists_hexDigits color
    refine ⟨channels, hex, ?_⟩
    simp only [ofLiteral, spelled, dropLineEnd_concat]
    cases hex with
    | pairs red red' green green' blue blue' => simp [red, red', green, green', blue, blue']
    | doubled _ => cases six

/-- The line end is counted as a fourth digit, so the three are not taken twice. -/
theorem ofLiteral_of_lacksDigit (lacks : LacksDigit literal) :
    ofLiteral literal = .error .noDigitForBlue := by
  obtain ⟨digits, color, three, spelled⟩ := lacks
  obtain ⟨channels, hex⟩ := exists_hexDigits color
  simp only [ofLiteral, spelled, dropLineEnd_concat]
  cases hex with
  | pairs => cases three
  | doubled hex =>
    cases hex with
    | pairs red _ green _ blue _ => simp [red, green, blue]

theorem isHexColor_of_mapM {values : List Nat} (read : digits.mapM Text.hexDigit? = some values)
    (length : values.length = 3 ∨ values.length = 6) : IsHexColor digits := by
  refine ⟨Text.forall_isHexDigit_of_mapM read, ?_⟩
  rwa [(Text.mapM_hexDigit?_iff.1 read).length_eq]

/-- What is not spelled with three or six digits is no color. -/
theorem ofLiteral_of_not_isHexColor
    (other : ∀ body, literal.toList = '#' :: body → ¬ IsHexColor (dropLineEnd body).1) :
    ofLiteral literal = .error .notHexadecimal := by
  unfold ofLiteral
  split
  · next body spelled =>
    dsimp only
    split
    · next read => exact absurd (isHexColor_of_mapM read (.inl rfl)) (other body spelled)
    · next read => exact absurd (isHexColor_of_mapM read (.inr rfl)) (other body spelled)
    · rfl
  · rfl

/-- Three or six digits spell a color, unless a line end follows three. -/
theorem spells_or_lacksDigit (spelled : literal.toList = '#' :: body)
    (color : IsHexColor (dropLineEnd body).1) :
    (∃ digits, Spells literal digits) ∨ LacksDigit literal := by
  rcases dropLineEnd_cases body with ⟨front, rfl, cut⟩ | cut
  · rw [cut] at color
    rcases color.length with three | six
    · exact .inr ⟨front, color, three, spelled⟩
    · exact .inl ⟨front, .ended color six spelled⟩
  · rw [cut] at color
    exact .inl ⟨body, .whole color spelled⟩

theorem ofLiteral_cases (literal : String) :
    (∃ digits, Spells literal digits) ∨ LacksDigit literal ∨
      ofLiteral literal = .error .notHexadecimal := by
  by_cases color : ∃ body, literal.toList = '#' :: body ∧ IsHexColor (dropLineEnd body).1
  · obtain ⟨body, spelled, color⟩ := color
    exact (spells_or_lacksDigit spelled color).imp_right .inl
  · exact .inr (.inr (ofLiteral_of_not_isHexColor fun body spelled here =>
      color ⟨body, spelled, here⟩))

theorem exists_ofLiteral_iff :
    (∃ channels, ofLiteral literal = .ok channels) ↔ ∃ digits, Spells literal digits := by
  refine ⟨fun ⟨channels, read⟩ => ?_, fun ⟨digits, spells⟩ => ?_⟩
  · rcases ofLiteral_cases literal with spells | lacks | refused
    · exact spells
    · cases (ofLiteral_of_lacksDigit lacks).symm.trans read
    · cases refused.symm.trans read
  · obtain ⟨channels, -, read⟩ := ofLiteral_of_spells spells
    exact ⟨channels, read⟩

theorem ofLiteral_eq_noDigitForBlue_iff :
    ofLiteral literal = .error .noDigitForBlue ↔ LacksDigit literal := by
  refine ⟨fun refused => ?_, ofLiteral_of_lacksDigit⟩
  rcases ofLiteral_cases literal with ⟨digits, spells⟩ | lacks | refused'
  · obtain ⟨_, -, read⟩ := ofLiteral_of_spells spells
    cases read.symm.trans refused
  · exact lacks
  · cases refused'.symm.trans refused

theorem ofLiteral_eq_notHexadecimal_iff :
    ofLiteral literal = .error .notHexadecimal ↔
      (¬ ∃ digits, Spells literal digits) ∧ ¬ LacksDigit literal := by
  constructor
  · rw [← exists_ofLiteral_iff, ← ofLiteral_eq_noDigitForBlue_iff]
    intro refused
    simp [refused]
  · rintro ⟨noColor, noLack⟩
    exact ((ofLiteral_cases literal).resolve_left noColor).resolve_left noLack

/-- A literal that lacks a digit is taken for a literal. -/
theorem isHexLiteral_of_lacksDigit (lacks : LacksDigit literal) : isHexLiteral literal = true := by
  obtain ⟨digits, -, -, spelled⟩ := lacks
  simp [isHexLiteral, spelled]

theorem occursIn_of_lacksDigit (lacks : LacksDigit literal) :
    Reference.occursIn literal = false := by
  obtain ⟨digits, ⟨each, -⟩, -, spelled⟩ := lacks
  refine Reference.occursIn_of_plain fun brace => ?_
  rw [spelled, List.mem_cons, List.mem_append, List.mem_singleton] at brace
  rcases brace with brace | brace | brace
  · exact absurd brace (by decide)
  · exact absurd (each _ brace) (by decide)
  · exact absurd brace (by decide)

end OfLiteral

/-- What a literal becomes lists its digits, and is known as a list of channels. -/
theorem lists_of_spells {literal text : String} {digits : List Char} {token : Option String}
    (spells : Spells literal digits) (written : channelsOf literal token = .ok text) :
    Lists (doubled digits) text ∧ isChannelTriplet text = true := by
  obtain ⟨channels, hex, read⟩ := ofLiteral_of_spells spells
  obtain ⟨channels', read', rfl⟩ := channelsOf_eq_ok_iff.1 written
  cases read.symm.trans read'
  exact ⟨lists_of_hexDigits hex, isChannelTriplet_text (lt_of_ofLiteral read)⟩

end Channels

/-! ## Colors that are computed -/

section Values

variable {library : Library} {s : Substitution} {u : Token} {failure : Failure}

theorem outcome_value_of_cssValue_eq_error
    (failed : outcome library (s.cssValue u) = .error failure) :
    outcome library (s.value false u) = .error failure := by
  rcases outcome_bind_eq_error.1 failed with failed | ⟨_, _, last⟩
  · exact failed
  · split at last <;> cases last

/-- A failure that is met at a token is reported, or a color of the token lacks a digit. -/
theorem FailsHere.resolve_or_lacksDigit {theme : Option String}
    (fails : FailsHere library theme u failure) :
    (∃ fault, failure = .resolve fault) ∨
      ∃ literal ∈ u.colorTexts, Channels.LacksDigit literal ∧
        failure = .noDigitForBlue literal := by
  cases fails with
  | color there refused =>
    rcases channelsOf_eq_error_iff.1 refused with ⟨-, rfl⟩ | ⟨lacks, rfl⟩
    · exact .inl ⟨_, rfl⟩
    · exact .inr ⟨_, there, Channels.ofLiteral_eq_noDigitForBlue_iff.1 lacks, rfl⟩
  | name refused =>
    rcases Library.find_eq_error refused with ⟨_, rfl⟩ | ⟨_, rfl⟩ <;> exact .inl ⟨_, rfl⟩
  | bundle => exact .inl ⟨_, rfl⟩

/-- What keeps a token from being written is reported, or references lead to a color that lacks a
digit. -/
theorem resolve_or_lacksDigit_of_cssValue
    (failed : outcome library (s.cssValue u) = .error failure) :
    (∃ fault, failure = .resolve fault) ∨
      ∃ v literal, ReflTransGen (Refers library s.theme) u v ∧ literal ∈ v.colorTexts ∧
        Channels.LacksDigit literal ∧ failure = .noDigitForBlue literal := by
  rcases exists_failsHere_of_valueAt (outcome_value_of_cssValue_eq_error failed) with
    ⟨_, cyclic⟩ | ⟨v, leads, here⟩
  · exact .inl ⟨_, cyclic⟩
  · refine here.resolve_or_lacksDigit.imp_right ?_
    rintro ⟨literal, there, lacks, failed⟩
    exact ⟨v, literal, leads, there, lacks, failed⟩

/-- A color that lacks a digit is never written. -/
theorem outcome_cssValue_of_lacksDigit {literal : String} (enough : s.room ≠ 0)
    (color : u.kind = .color) (plain : u.value = .plain literal)
    (lacks : Channels.LacksDigit literal) :
    outcome library (s.cssValue u) = .error (.noDigitForBlue literal) := by
  have refused : channelsOf literal (some u.id) = .error (.noDigitForBlue literal) :=
    channelsOf_eq_error_iff.2 (.inr ⟨Channels.ofLiteral_of_lacksDigit lacks, rfl⟩)
  refine outcome_bind_eq_error.2 (.inl ?_)
  rw [outcome_value_of_isHexLiteral enough color plain (Channels.isHexLiteral_of_lacksDigit lacks)
    (Channels.occursIn_of_lacksDigit lacks), refused]
  rfl

end Values

/-- A literal is converted exactly when it is `#` with three or six hexadecimal digits, and maybe a
line end behind six. It becomes the list of three decimal numbers with these digits. Three digits
with a line end behind them lack a digit, and every other text is reported as no color.

Whatever keeps a token from being written is reported too, unless it is a literal that lacks a
digit, of a token that references lead to. A color with such a literal is never written. -/
theorem color_literals_converted_or_refused (library : Library) (method : Method)
    (theme : Option String) :
    (∀ (literal : String) (token : Option String),
      ((∃ text, channelsOf literal token = .ok text) ↔ ∃ digits, Channels.Spells literal digits) ∧
      (∀ digits text, Channels.Spells literal digits → channelsOf literal token = .ok text →
        Channels.Lists (Channels.doubled digits) text ∧ isChannelTriplet text = true) ∧
      (channelsOf literal token = .error (.noDigitForBlue literal) ↔
        Channels.LacksDigit literal) ∧
      (channelsOf literal token = .error (.resolve (.invalidColor literal token)) ↔
        (¬ ∃ digits, Channels.Spells literal digits) ∧ ¬ Channels.LacksDigit literal)) ∧
    (∀ u failure,
      outcome library ((library.substitution method theme).cssValue u) = .error failure →
      (∃ fault, failure = .resolve fault) ∨
        ∃ v literal, ReflTransGen (Refers library theme) u v ∧ literal ∈ v.colorTexts ∧
          Channels.LacksDigit literal ∧ failure = .noDigitForBlue literal) ∧
    ∀ u ∈ library.tokens, u.kind = .color → ∀ literal, u.value = .plain literal →
      Channels.LacksDigit literal →
      outcome library ((library.substitution method theme).cssValue u) =
        .error (.noDigitForBlue literal) := by
  refine ⟨fun literal token => ⟨?_, ?_, ?_, ?_⟩, ?_, ?_⟩
  · rw [← Channels.exists_ofLiteral_iff]
    simp [channelsOf_eq_ok_iff]
  · exact fun digits text => Channels.lists_of_spells
  · simp [channelsOf_eq_error_iff, Channels.ofLiteral_eq_noDigitForBlue_iff]
  · simp [channelsOf_eq_error_iff, Channels.ofLiteral_eq_notHexadecimal_iff]
  · exact fun u failure => resolve_or_lacksDigit_of_cssValue
  · intro u here color literal plain lacks
    exact outcome_cssValue_of_lacksDigit (List.length_pos_of_mem here).ne' color plain lacks

/-! ## A line end behind a literal -/

/-- A color with a line end behind three digits, and one that refers to it. -/
def lineEndText : String :=
  "\x7b\"s\":\x7b\"a\":\x7b\"type\":\"color\",\"value\":\"#1f0\\n\"\x7d," ++
    "\"b\":\x7b\"type\":\"color\",\"value\":\"\x7ba\x7d\"\x7d\x7d\x7d"

def lineEndDocument : Entries Data :=
  [("s", .table [("a", .table [("type", .text "color"), ("value", .text "#1f0\n")]),
    ("b", .table [("type", .text "color"), ("value", .text "\x7ba\x7d")])])]

def lineEndDisk : Disk :=
  ⟨.directory [("tokens.json", .file lineEndText.toUTF8)], []⟩

/-- The library of the document. -/
def lineEnds : Library where
  tokens := [.color "s.a" "a" "#1f0\n", .color "s.b" "b" "\x7ba\x7d"]
  sets := [⟨"s", ["s.a", "s.b"]⟩]
  themes := []
  strictNames := false
  idsDistinct := by decide
  setsDistinct := by decide
  themesDistinct := List.nodup_nil
  listed := by decide

namespace lineEnds

set_option maxRecDepth 20000 in
theorem reads : Source.Reads lineEndText.toUTF8 (.table lineEndDocument) :=
  Source.reads_of_text (by decide +kernel) (by cbv)

theorem loaded : Source.load lineEndDisk (.ofText "tokens.json") false = ⟨[], .ok lineEnds⟩ :=
  Source.load_of_reads false (by decide) rfl reads rfl

theorem refused :
    outcome lineEnds ((lineEnds.substitution .static none).cssValue
      (.color "s.b" "b" "\x7ba\x7d")) = .error (.noDigitForBlue "#1f0\n") := by
  decide +kernel

theorem isHexColor_six : Channels.IsHexColor ['A', '0', 'b', '1', 'C', '2'] :=
  Channels.isHexColor_of_mapM rfl (.inr rfl)

theorem lacksDigit : Channels.LacksDigit "#1f0\n" :=
  ⟨['1', 'f', '0'], Channels.isHexColor_of_mapM rfl (.inl rfl), rfl, by decide⟩

end lineEnds

/-- The line end is passed over behind six digits. Behind three it keeps the color and the one that
refers to it from being written. -/
theorem color_literals_of_lineEnds :
    (Channels.Lists ['A', '0', 'b', '1', 'C', '2'] "160, 177, 194" ∧
      isChannelTriplet "160, 177, 194" = true) ∧
    (∃ v literal, ReflTransGen (Refers lineEnds none) (.color "s.b" "b" "\x7ba\x7d") v ∧
      literal ∈ v.colorTexts ∧ Channels.LacksDigit literal ∧
      Failure.noDigitForBlue "#1f0\n" = .noDigitForBlue literal) ∧
    outcome lineEnds ((lineEnds.substitution .static none).cssValue
      (.color "s.a" "a" "#1f0\n")) = .error (.noDigitForBlue "#1f0\n") := by
  obtain ⟨literals, failures, lacking⟩ := color_literals_converted_or_refused lineEnds .static none
  obtain ⟨-, lists, -, -⟩ := literals "#A0b1C2\n" none
  refine ⟨?_, ?_, ?_⟩
  · exact lists _ _ (.ended lineEnds.isHexColor_six rfl (by decide)) (by decide)
  · exact (failures _ _ lineEnds.refused).resolve_left nofun
  · exact lacking _ (by decide) rfl _ rfl lineEnds.lacksDigit

/-- More texts are converted than those of three or six digits behind `#`, not every other text is
reported as no color, and a color of a library that is loaded can keep itself from being written
without a report. -/
theorem not_converted_or_refused :
    (¬ ∀ (literal : String) (token : Option String),
      (∃ text, channelsOf literal token = .ok text) ↔
        ∃ digits, Channels.IsHexColor digits ∧ literal.toList = '#' :: digits) ∧
    (¬ ∀ (literal : String) (token : Option String) (failure : Failure),
      channelsOf literal token = .error failure →
        failure = .resolve (.invalidColor literal token)) ∧
    ¬ ∀ (disk : Disk) (entry : Path) (strictNames : Bool) (warnings : List Warning)
        (library : Library) (method : Method) (theme : Option String) (u : Token)
        (failure : Failure),
      Source.load disk entry strictNames = ⟨warnings, .ok library⟩ → u ∈ library.tokens →
      u.kind = .color →
      outcome library ((library.substitution method theme).cssValue u) = .error failure →
      failure.report? ≠ none := by
  refine ⟨fun exactly => ?_, fun only => ?_, fun reported => ?_⟩
  · obtain ⟨digits, ⟨each, -⟩, spelled⟩ := (exactly "#A0b1C2\n" none).1 ⟨"160, 177, 194", by decide⟩
    cases (List.cons.inj spelled).2
    exact absurd (each '\n' (by decide)) (by decide)
  · cases only "#1f0\n" none (.noDigitForBlue "#1f0\n") (by decide)
  · exact reported _ _ _ _ _ _ _ _ _ lineEnds.loaded (by decide) rfl lineEnds.refused rfl

end DesignTokens
