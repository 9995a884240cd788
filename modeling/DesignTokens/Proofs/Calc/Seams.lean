import DesignTokens.Proofs.Calc.Spelling
import DesignTokens.Proofs.Outcome
import DesignTokens.Proofs.Text
import Mathlib.Data.List.Chain

/-!
# Where tokens meet

A list of tokens is what `Calc.scan` cuts some text into exactly when

* the tokens stand one behind another from offset 0 on (`Tiles`);
* each of them is spelled as its kind asks for (`Spelled`);
* no token goes on into the one behind it (`Apart`).

Then it is the texts of the tokens, one after another, that are cut into them
(`scanAt_eq_ok_iff`). What the scanner looks at is the first character behind a token (`Stops`), and
that character tells enough of the token that it starts (`stops_iff_apart`).
-/

namespace DesignTokens.Calc

/-- Every token stands where the texts in front of it end, and the first one at `pos`. -/
def Tiles (pos : Nat) (tokens : List Token) : Prop :=
  ∀ front token behind, tokens = front ++ token :: behind →
    token.pos = ↑(pos + (front.flatMap (·.text)).length)

/-- Neighbours that are not read as one longer token or as other ones. -/
structure Apart (a b : Token) : Prop where
  /-- A number goes on with a number, unless that has a sign. -/
  sign : a.kind = .number → b.kind = .number → b.text.head? = some '-'
  /-- A unit goes on with whatever starts with a letter. -/
  letter : a.kind = .unit → b.kind ≠ .unit ∧ b.kind ≠ .customProperty ∧ b.text ≠ opener true
  /-- The word `calc` and a parenthesis open a group together. -/
  group : a.kind = .unit → a.text = ['c', 'a', 'l', 'c'] → b.text ≠ opener false
  /-- A hyphen is the sign of a number behind it, and two hyphens are refused. -/
  hyphen : a.kind = .operator → a.text = ['-'] → b.kind ≠ .number ∧ b.text ≠ ['-']

/-- The tokens of a text that stands at `pos`. -/
structure Scanned (pos : Nat) (tokens : List Token) : Prop where
  tiles : Tiles pos tokens
  spelled : ∀ token ∈ tokens, Spelled token.kind token.text
  apart : tokens.IsChain Apart

/-! ## The first character of a token -/

/-- The tokens that are spelled in a few ways only. -/
def signs : List (Kind × List Char) :=
  [(.blank, [' ']), (.opening, ['(']), (.opening, ['c', 'a', 'l', 'c', '(']), (.closing, [')']),
    (.operator, ['+']), (.operator, ['-']), (.operator, ['*']), (.operator, ['/'])]

section First

variable {kind : Kind} {c : Char} {letters : List Char}

/-- What the tokens of a kind are made of. -/
theorem Spelled.shape {text : List Char} (spelled : Spelled kind text) :
    (kind = .number ∧ ∀ c ∈ text, c = '-' ∨ isNumberChar c) ∨
      (kind = .unit ∧ ∀ c ∈ text, isWordChar c) ∨
      (kind = .customProperty ∧ ∃ name : VariableName, text = name.call) ∨ (kind, text) ∈ signs := by
  cases kind with
  | number =>
    obtain ⟨sign, body, signed, rfl, -, chars, -⟩ := spelled
    refine .inl ⟨rfl, fun c there => (List.mem_append.1 there).imp (fun here => ?_) (chars c)⟩
    rcases signed with rfl | rfl
    · cases here
    · exact List.mem_singleton.1 here
  | unit =>
    obtain ⟨unit, rfl⟩ := spelled
    exact .inr (.inl ⟨rfl, unit.isWord⟩)
  | customProperty => exact .inr (.inr (.inl ⟨rfl, spelled⟩))
  | operator =>
    obtain ⟨operator, rfl⟩ := spelled
    refine .inr (.inr (.inr ?_))
    cases operator <;> decide
  | opening =>
    obtain ⟨named, rfl⟩ := spelled
    refine .inr (.inr (.inr ?_))
    cases named <;> decide
  | closing | blank =>
    refine .inr (.inr (.inr ?_))
    rw [spelled]
    decide

theorem Spelled.first_of_unit (spelled : Spelled .unit (c :: letters)) : isWordChar c := by
  obtain ⟨unit, written⟩ := spelled
  exact unit.isWord c (written ▸ List.mem_cons_self)

theorem Spelled.first_of_number (spelled : Spelled .number (c :: letters)) :
    c = '-' ∨ isNumberChar c := by
  rcases spelled.shape with ⟨-, chars⟩ | ⟨other, -⟩ | ⟨other, -⟩ | sign
  · exact chars c List.mem_cons_self
  · cases other
  · cases other
  · simp [signs] at sign

theorem Spelled.first_of_customProperty (spelled : Spelled .customProperty (c :: letters)) :
    c = 'v' := by
  obtain ⟨name, written⟩ := spelled
  exact (List.cons.inj written).1

theorem Spelled.of_numberChar (spelled : Spelled kind (c :: letters)) (number : isNumberChar c) :
    kind = .number := by
  rcases spelled.shape with ⟨same, -⟩ | ⟨-, words⟩ | ⟨-, name, call⟩ | sign
  · exact same
  · rw [not_numberChar_of_wordChar (words c List.mem_cons_self)] at number
    cases number
  · rw [(List.cons.inj call).1] at number
    exact absurd number (by decide)
  · have none : ∀ sign ∈ signs, sign.2.head?.any isNumberChar = false := by decide
    exact absurd number (Bool.eq_false_iff.mp (none _ sign))

theorem Spelled.of_wordChar (spelled : Spelled kind (c :: letters)) (word : isWordChar c) :
    kind = .unit ∨ kind = .customProperty ∨ c :: letters = opener true := by
  rcases spelled.shape with ⟨-, chars⟩ | ⟨same, -⟩ | ⟨same, -⟩ | sign
  · rcases chars c List.mem_cons_self with rfl | number
    · exact absurd word (by decide)
    · rw [not_numberChar_of_wordChar word] at number
      cases number
  · exact .inl same
  · exact .inr (.inl same)
  · have only : ∀ sign ∈ signs, sign.2.head?.any isWordChar → sign.2 = opener true := by decide
    exact .inr (.inr (only _ sign word))

theorem Spelled.of_hyphen (spelled : Spelled kind ('-' :: letters)) :
    kind = .number ∨ '-' :: letters = ['-'] := by
  rcases spelled.shape with ⟨same, -⟩ | ⟨-, words⟩ | ⟨-, name, call⟩ | sign
  · exact .inl same
  · exact absurd (words '-' List.mem_cons_self) (by decide)
  · exact absurd (List.cons.inj call).1 (by decide)
  · have only : ∀ sign ∈ signs, sign.2.head? = some '-' → sign.2 = ['-'] := by decide
    exact .inr (only _ sign rfl)

/-- Only what opens a group and a variable have an opening parenthesis. -/
theorem Spelled.of_opening_mem (front : List Char) {behind : List Char}
    (spelled : Spelled kind (front ++ '(' :: behind)) :
    (kind = .opening ∧ behind = []) ∨
      (kind = .customProperty ∧ front = ['v', 'a', 'r'] ∧
        ∃ name : VariableName, behind = ['-', '-'] ++ name.chars ++ [')']) := by
  have there : '(' ∈ front ++ '(' :: behind := by simp
  rcases spelled.shape with ⟨-, chars⟩ | ⟨-, words⟩ | ⟨same, name, call⟩ | sign
  · exact absurd (chars '(' there) (by decide)
  · exact absurd (words '(' there) (by decide)
  · have other : '(' ∉ name.chars := fun here => absurd (name.isName _ here) (by decide)
    have none : '(' ∉ ['-', '-'] ++ name.chars ++ [')'] := by simp [other]
    have cut : name.call = ['v', 'a', 'r'] ++ '(' :: (['-', '-'] ++ name.chars ++ [')']) := rfl
    obtain ⟨rfl, rfl⟩ := Text.eq_of_once (by decide) none (cut ▸ call.symm)
    exact .inr ⟨same, rfl, name, rfl⟩
  · have only : ∀ sign ∈ signs, '(' ∈ sign.2 →
        sign.1 = .opening ∧ sign.2 = sign.2.dropLast ++ ['('] ∧ '(' ∉ sign.2.dropLast := by decide
    obtain ⟨same, last, none⟩ := only _ sign there
    exact .inl ⟨same, (Text.eq_of_once none List.not_mem_nil last.symm).2.symm⟩

/-- Only a blank has a blank. -/
theorem Spelled.of_blank_mem {front behind : List Char}
    (spelled : Spelled kind (front ++ ' ' :: behind)) : kind = .blank ∧ behind = [] := by
  have there : ' ' ∈ front ++ ' ' :: behind := by simp
  rcases spelled.shape with ⟨-, chars⟩ | ⟨-, words⟩ | ⟨-, name, call⟩ | sign
  · exact absurd (chars ' ' there) (by decide)
  · exact absurd (words ' ' there) (by decide)
  · have other : ' ' ∉ name.chars := fun here => absurd (name.isName _ here) (by decide)
    rw [call] at there
    simp [VariableName.call, other] at there
  · have only : ∀ sign ∈ signs, ' ' ∈ sign.2 → sign = (.blank, [' ']) := by decide
    obtain ⟨same, text⟩ := Prod.mk.inj (only _ sign there)
    exact ⟨same, (Text.eq_of_once List.not_mem_nil List.not_mem_nil text.symm).2.symm⟩

end First

/-- A token stops the one in front of it exactly when the two are apart. -/
theorem stops_iff_apart {a b : Token} {rest : List Char} (spelled : Spelled b.kind b.text) :
    Stops a.kind a.text (b.text ++ rest) ↔ Apart a b := by
  obtain ⟨kind, text, pos⟩ := a
  obtain ⟨kind', text', pos'⟩ := b
  obtain ⟨c, letters, rfl⟩ := List.exists_cons_of_ne_nil spelled.ne_nil
  have only {p : Char → Prop} : (∀ d ∈ (c :: letters ++ rest).head?, p d) ↔ p c := by simp
  dsimp only at spelled ⊢
  cases kind with
  | number =>
    refine only.trans ⟨fun stop => ⟨fun _ number => ?_, nofun, nofun, nofun⟩, fun apart => ?_⟩
    · subst number
      rcases spelled.first_of_number with rfl | number
      · rfl
      · rw [stop] at number
        cases number
    · refine Bool.eq_false_iff.mpr fun number => ?_
      obtain rfl : c = '-' := by simpa using apart.sign rfl (spelled.of_numberChar number)
      exact absurd number (by decide)
  | unit =>
    refine (and_congr only Iff.rfl).trans ⟨fun ⟨stop, notGroup⟩ => ⟨nofun, ?_, ?_, nofun⟩, ?_⟩
    · refine fun _ => ⟨?_, ?_, ?_⟩
      · rintro rfl
        exact absurd spelled.first_of_unit (by simp [stop])
      · rintro rfl
        rw [spelled.first_of_customProperty] at stop
        exact absurd stop (by decide)
      · rintro same
        rw [(List.cons.inj same).1] at stop
        exact absurd stop (by decide)
    · intro _ word same
      exact notGroup word (by rw [(List.cons.inj same).1]; rfl)
    · rintro apart
      obtain ⟨notUnit, notCall, notGroup⟩ := apart.letter rfl
      refine ⟨Bool.eq_false_iff.mpr fun word => ?_, fun word opening => ?_⟩
      · rcases spelled.of_wordChar word with unit | call | group
        · exact notUnit unit
        · exact notCall call
        · exact notGroup group
      · obtain rfl : c = '(' := by simpa using opening
        rcases spelled.of_opening_mem [] with ⟨-, rfl⟩ | ⟨-, none, -⟩
        · exact apart.group rfl word rfl
        · cases none
  | operator =>
    refine (imp_congr Iff.rfl only).trans ⟨fun stop => ⟨nofun, nofun, nofun, ?_⟩, ?_⟩
    · refine fun _ text => ⟨?_, fun same => ?_⟩
      · rintro rfl
        rcases spelled.first_of_number with rfl | number
        · exact (stop text).1 rfl
        · exact absurd number (by simp [(stop text).2])
      · exact (stop text).1 (List.cons.inj same).1
    · intro apart text
      obtain ⟨notNumber, notHyphen⟩ := apart.hyphen rfl text
      refine ⟨?_, Bool.eq_false_iff.mpr fun number => notNumber (spelled.of_numberChar number)⟩
      rintro rfl
      exact spelled.of_hyphen.elim notNumber notHyphen
  | customProperty | opening | closing | blank =>
    exact iff_of_true trivial ⟨nofun, nofun, nofun, nofun⟩

/-! ## All tokens -/

theorem tiles_nil (pos : Nat) : Tiles pos [] := by
  intro front token behind same
  cases front <;> cases same

theorem tiles_cons {pos : Nat} {token : Token} {rest : List Token} :
    Tiles pos (token :: rest) ↔ token.pos = pos ∧ Tiles (pos + token.text.length) rest := by
  constructor
  · intro tiles
    refine ⟨by simpa using tiles [] token rest rfl, fun front other behind same => ?_⟩
    rw [tiles (token :: front) other behind (by rw [same]; rfl), List.flatMap_cons,
      List.length_append, Nat.add_assoc]
  · rintro ⟨here, tiles⟩ front other behind same
    cases front with
    | nil =>
      obtain ⟨rfl, rfl⟩ := List.cons.inj same
      simpa using here
    | cons first front =>
      obtain ⟨rfl, rfl⟩ := List.cons.inj same
      rw [tiles front other behind rfl, List.flatMap_cons, List.length_append, Nat.add_assoc]

theorem scanned_cons {pos : Nat} {token : Token} {rest : List Token} :
    Scanned pos (token :: rest) ↔
      token.pos = pos ∧ Spelled token.kind token.text ∧ (∀ next ∈ rest.head?, Apart token next) ∧
        Scanned (pos + token.text.length) rest := by
  constructor
  · rintro ⟨tiles, spelled, apart⟩
    obtain ⟨here, tiles⟩ := tiles_cons.mp tiles
    obtain ⟨first, spelled⟩ := List.forall_mem_cons.mp spelled
    obtain ⟨next, apart⟩ := List.isChain_cons.mp apart
    exact ⟨here, first, next, tiles, spelled, apart⟩
  · rintro ⟨here, first, next, tiles, spelled, apart⟩
    exact ⟨tiles_cons.mpr ⟨here, tiles⟩, List.forall_mem_cons.mpr ⟨first, spelled⟩,
      List.isChain_cons.mpr ⟨next, apart⟩⟩

/-- The tokens behind some tokens of a text are the tokens of the text behind them. -/
theorem Scanned.behind {pos : Nat} {before after : List Token}
    (scanned : Scanned pos (before ++ after)) :
    Scanned (pos + (before.flatMap (·.text)).length) after := by
  obtain ⟨tiles, spelled, apart⟩ := scanned
  refine ⟨fun front token behind same => ?_, ?_, apart.right_of_append⟩
  · rw [tiles (before ++ front) token behind (by simp [same]), List.flatMap_append,
      List.length_append, Nat.add_assoc]
  · exact fun token there => spelled token (List.mem_append_right _ there)

/-- The end of a text stops every token. -/
theorem stops_nil {kind : Kind} {text : List Char} : Stops kind text [] := by
  cases kind with
  | number => exact nofun
  | unit => exact ⟨nofun, nofun⟩
  | operator => exact fun _ => nofun
  | customProperty | opening | closing | blank => trivial

/-- What follows a token stops it exactly when the next token is apart from it. -/
theorem stops_flatMap_iff {token : Token} {rest : List Token}
    (spelled : ∀ next ∈ rest, Spelled next.kind next.text) :
    Stops token.kind token.text (rest.flatMap (·.text)) ↔ ∀ next ∈ rest.head?, Apart token next := by
  cases rest with
  | nil => exact iff_of_true stops_nil nofun
  | cons next others =>
    rw [List.flatMap_cons, stops_iff_apart (spelled next List.mem_cons_self)]
    simp

/-- A token takes no more characters than there are: it is cut off again from its own text. -/
theorem length_take_of_extent {c : Char} {rest : List Char} {kind : Kind} {n : Nat}
    (found : extent c rest = .ok (kind, n)) : (rest.take n).length = n := by
  have again := extent_of_spelled (spelled_of_extent found) (stops_of_extent found)
  rw [List.take_append_drop, found] at again
  injection again with same
  exact (Prod.mk.inj same).2.symm

/-- A text is cut into a list of tokens exactly when the tokens make it up and are the tokens of a
text. -/
theorem scanAt_eq_ok_iff {pos : Nat} {text : List Char} {tokens : List Token} :
    scanAt pos text = .ok tokens ↔ tokens.flatMap (·.text) = text ∧ Scanned pos tokens := by
  constructor
  · intro scanned
    fun_induction scanAt pos text generalizing tokens with
    | case1 pos =>
      obtain rfl : [] = tokens := by simpa using scanned
      exact ⟨rfl, tiles_nil pos, List.forall_mem_nil _, .nil⟩
    | case2 pos c rest fault fragment found => simp at scanned
    | case3 pos c rest kind n found ih =>
      obtain ⟨others, behind, last⟩ := Except.bind_eq_ok.mp scanned
      cases last
      obtain ⟨whole, others⟩ := ih behind
      refine ⟨?_, scanned_cons.mpr ⟨rfl, spelled_of_extent found, ?_, ?_⟩⟩
      · rw [List.flatMap_cons, whole, List.cons_append, List.take_append_drop]
      · rw [← stops_flatMap_iff others.spelled, whole]
        exact stops_of_extent found
      · rwa [List.length_cons, length_take_of_extent found, ← Nat.add_assoc]
  · rintro ⟨rfl, scanned⟩
    induction tokens generalizing pos with
    | nil => rw [List.flatMap_nil, scanAt]
    | cons token rest ih =>
      obtain ⟨here, spelled, next, scanned⟩ := scanned_cons.mp scanned
      have stops := (stops_flatMap_iff scanned.spelled).mpr next
      rw [List.flatMap_cons, scanAt_spelled spelled stops, ih scanned, ← here]
      rfl

/-- A character of a text is in one of the tokens that the text is cut into. -/
theorem exists_token_of_char {tokens : List Token} {front behind : List Char} {c : Char}
    (whole : tokens.flatMap (·.text) = front ++ c :: behind) :
    ∃ before token after first last, tokens = before ++ token :: after ∧
      token.text = first ++ c :: last ∧ before.flatMap (·.text) ++ first = front ∧
      last ++ after.flatMap (·.text) = behind := by
  induction tokens generalizing front with
  | nil => simp at whole
  | cons token rest ih =>
    rw [List.flatMap_cons] at whole
    rcases Text.append_eq_append_cons whole with ⟨last, text, rfl⟩ | ⟨middle, rfl, others⟩
    · exact ⟨[], token, rest, front, last, rfl, text, rfl, rfl⟩
    · obtain ⟨before, other, after, first, last, rfl, text, rfl, rfl⟩ := ih others
      exact ⟨token :: before, other, after, first, last, rfl, text, by simp, rfl⟩

/-- Cutting a text into tokens and writing tokens one after another undo each other. -/
theorem scan_inverts_concatenation :
    (∀ (text : String) (tokens : List Token), scan text.toList = .ok tokens →
      tokens.flatMap (·.text) = text.toList ∧ Tiles 0 tokens) ∧
    (∀ tokens : List Token,
      (∃ text : String, scan text.toList = .ok tokens) ↔ Scanned 0 tokens) ∧
    ∀ tokens : List Token, Scanned 0 tokens → scan (tokens.flatMap (·.text)) = .ok tokens := by
  refine ⟨fun text tokens scanned => ?_, fun tokens => ⟨?_, fun scanned => ?_⟩, ?_⟩
  · obtain ⟨whole, scanned⟩ := scanAt_eq_ok_iff.mp scanned
    exact ⟨whole, scanned.tiles⟩
  · rintro ⟨text, scanned⟩
    exact (scanAt_eq_ok_iff.mp scanned).2
  · refine ⟨String.ofList (tokens.flatMap (·.text)), ?_⟩
    rw [String.toList_ofList]
    exact scanAt_eq_ok_iff.mpr ⟨rfl, scanned⟩
  · exact fun tokens scanned => scanAt_eq_ok_iff.mpr ⟨rfl, scanned⟩

/-- The tokens of `-1.5em-.5*calc(var(--a)`. -/
def dense : List Token :=
  [⟨.number, ['-', '1', '.', '5'], 0⟩, ⟨.unit, ['e', 'm'], 4⟩, ⟨.number, ['-', '.', '5'], 6⟩,
    ⟨.operator, ['*'], 9⟩, ⟨.opening, ['c', 'a', 'l', 'c', '('], 10⟩,
    ⟨.customProperty, ['v', 'a', 'r', '(', '-', '-', 'a', ')'], 15⟩]

theorem scan_inverts_concatenation_dense :
    scan "-1.5em-.5*calc(var(--a)".toList = .ok dense ∧
      dense.flatMap (·.text) = "-1.5em-.5*calc(var(--a)".toList ∧ Tiles 0 dense ∧
        Scanned 0 dense ∧ scan (dense.flatMap (·.text)) = .ok dense := by
  have cut : scan "-1.5em-.5*calc(var(--a)".toList = .ok dense := by decide +kernel
  obtain ⟨texts, tokens, again⟩ := scan_inverts_concatenation
  have scanned : Scanned 0 dense := (tokens dense).mp ⟨_, cut⟩
  obtain ⟨whole, tiles⟩ := texts _ _ cut
  exact ⟨cut, whole, tiles, scanned, again _ scanned⟩

end DesignTokens.Calc
