import DesignTokens.Kebab
import DesignTokens.Proofs.LowerCase
import DesignTokens.Proofs.Text

/-!
# Names in kebab case

A separator in a name ends a word and does nothing else: the words in front of it and the words
behind it are those of two names (`words_append`). So the kebab case of a name that is put together
is put together of those of its parts (`kebab_joins_words`). It is made of words in lower case with
one hyphen between two of them, and to cut it into words again finds the same ones.

A name in kebab case holds hyphens, characters of the name, and what those become in lower case,
which is never in front of `a` (`mem_of_mem_kebab`). So a sign that is not in the name does not come
up in its custom property.
-/

namespace DesignTokens

namespace Kebab

/-! ## Words -/

theorem segments_ne_nil (name : List Char) : segments name ≠ [] := by
  cases name with
  | nil => exact List.cons_ne_nil _ _
  | cons c rest =>
    rw [segments]
    split
    · exact List.cons_ne_nil _ _
    · split
      · exact List.cons_ne_nil _ _
      · split <;> exact List.cons_ne_nil _ _

/-- The segments hold all characters but the separators. -/
theorem flatten_segments (name : List Char) :
    (segments name).flatten = name.filter (!isSeparator ·) := by
  induction name with
  | nil => rfl
  | cons c rest ih =>
    obtain ⟨segment, others, found⟩ := List.exists_cons_of_ne_nil (segments_ne_nil rest)
    rw [segments, List.filter_cons, ← ih, found]
    cases isSeparator c with
    | true => rfl
    | false => cases endsWord c rest <;> rfl

theorem flatten_words (name : List Char) :
    (words name).flatten = name.filter (!isSeparator ·) := by
  rw [words, List.flatten_filter_not_isEmpty, flatten_segments]

theorem words_nonempty {name word : List Char} (there : word ∈ words name) : word ≠ [] := by
  simpa using (List.mem_filter.1 there).2

/-- What is in a word is in the name, and no separator. -/
theorem mem_of_mem_words {name word : List Char} {c : Char} (there : word ∈ words name)
    (inside : c ∈ word) : c ∈ name ∧ isSeparator c = false := by
  have whole : c ∈ (words name).flatten := List.mem_flatten.2 ⟨word, there, inside⟩
  rw [flatten_words] at whole
  simpa using List.mem_filter.1 whole

theorem not_letter_of_separator {c : Char} (separates : isSeparator c = true) :
    isCapital c = false ∧ isSmall c = false := by
  simp only [isSeparator, Bool.or_eq_true, beq_iff_eq] at separates
  rcases separates with ((rfl | rfl) | rfl) | rfl <;> decide

/-- No word ends for the sake of what is behind a separator. -/
theorem endsWord_append {c d : Char} (separates : isSeparator d = true) (rest behind : List Char) :
    endsWord c (rest ++ d :: behind) = endsWord c rest := by
  obtain ⟨notCapital, notSmall⟩ := not_letter_of_separator separates
  cases rest with
  | nil => simp [endsWord, notCapital]
  | cons e rest =>
    cases rest with
    | nil => simp [endsWord, notSmall]
    | cons f rest => rfl

theorem segments_append {d : Char} (separates : isSeparator d = true) (front behind : List Char) :
    segments (front ++ d :: behind) = segments front ++ segments behind := by
  induction front with
  | nil =>
    rw [List.nil_append, segments.eq_def (d :: behind)]
    simp only [separates, if_true]
    rfl
  | cons c rest ih =>
    obtain ⟨segment, others, found⟩ := List.exists_cons_of_ne_nil (segments_ne_nil rest)
    rw [List.cons_append, segments, segments, ih, found, endsWord_append separates]
    cases isSeparator c with
    | true => rfl
    | false => cases endsWord c rest <;> rfl

/-- The words in front of a separator and the words behind it are found by themselves. -/
theorem words_append {d : Char} (separates : isSeparator d = true) (front behind : List Char) :
    words (front ++ d :: behind) = words front ++ words behind := by
  rw [words, segments_append separates, List.filter_append]
  rfl

/-- Where there is neither a separator nor a capital no word ends. -/
theorem segments_of_plain {name : List Char}
    (plain : ∀ c ∈ name, isSeparator c = false ∧ isCapital c = false) : segments name = [name] := by
  induction name with
  | nil => rfl
  | cons c rest ih =>
    obtain ⟨⟨noSeparator, -⟩, behind⟩ := List.forall_mem_cons.1 plain
    have goesOn : endsWord c rest = false := by
      cases rest with
      | nil => rfl
      | cons d rest => simp [endsWord, (behind d List.mem_cons_self).2]
    rw [segments, ih behind, noSeparator, goesOn]
    rfl

/-! ## Words in lower case -/

/-- A word that stands in a name in kebab case. -/
structure IsWord (word : List Char) : Prop where
  nonempty : word ≠ []
  plain : ∀ c ∈ word, isSeparator c = false
  settled : ∀ c ∈ word, Text.Settled c

theorem not_separator_of_le {c : Char} (behind : 'a' ≤ c) : isSeparator c = false := by
  rw [Bool.eq_false_iff]
  intro separates
  simp only [isSeparator, Bool.or_eq_true, beq_iff_eq] at separates
  rcases separates with ((rfl | rfl) | rfl) | rfl <;> exact absurd behind (by decide)

theorem isWord_lower {name word : List Char} (there : word ∈ words name) :
    IsWord (Text.lower word) where
  nonempty := Text.lower_ne_nil (words_nonempty there)
  plain _ inside := by
    rcases Text.mem_of_mem_lower inside with here | behind
    · exact (mem_of_mem_words there here).2
    · exact not_separator_of_le behind
  settled _ inside := Text.settled_of_mem_lowerFrom inside

namespace IsWord

variable {word : List Char}

theorem hyphen_not_mem (isWord : IsWord word) : '-' ∉ word :=
  fun there => absurd (isWord.plain _ there) (by decide)

theorem words_eq (isWord : IsWord word) : words word = [word] := by
  have plain : ∀ c ∈ word, isSeparator c = false ∧ isCapital c = false := by
    refine fun c there => ⟨isWord.plain c there, ?_⟩
    simpa [isCapital] using (isWord.settled c there).not_capital
  rw [words, segments_of_plain plain]
  simp [isWord.nonempty]

end IsWord

/-- Words that are joined by hyphens are found again. -/
theorem words_intercalate {parts : List (List Char)} (each : ∀ part ∈ parts, IsWord part) :
    words (['-'].intercalate parts) = parts := by
  induction parts with
  | nil => rfl
  | cons first rest ih =>
    obtain ⟨here, behind⟩ := List.forall_mem_cons.1 each
    cases rest with
    | nil => simpa [List.intercalate] using here.words_eq
    | cons second others =>
      rw [List.intercalate_cons_cons, ← List.append_cons, words_append (by decide), here.words_eq,
        ih behind, List.singleton_append]

/-! ## Hyphens -/

/-- Hyphens stand between two words, one by one. -/
structure Hyphenated (text : List Char) : Prop where
  first : text.head? ≠ some '-'
  last : text.getLast? ≠ some '-'
  single : ¬ ['-', '-'] <:+: text

theorem hyphenated_of_not_mem {text : List Char} (plain : '-' ∉ text) : Hyphenated text where
  first there := plain (List.mem_of_head? there)
  last there := plain (List.mem_of_getLast? there)
  single inside := plain (inside.subset List.mem_cons_self)

theorem Hyphenated.join {word text : List Char} (nonempty : word ≠ []) (plain : '-' ∉ word)
    (behind : Hyphenated text) (more : text ≠ []) : Hyphenated (word ++ '-' :: text) where
  first there := by
    rw [List.head?_append_of_ne_nil _ nonempty] at there
    exact plain (List.mem_of_head? there)
  last there := by
    rw [List.getLast?_append_of_ne_nil _ (List.cons_ne_nil _ _),
      List.getLast?_cons_of_ne_nil more] at there
    exact behind.last there
  single := by
    rintro ⟨front, rest, whole⟩
    rw [List.append_assoc] at whole
    rcases Text.append_eq_append_cons whole.symm with ⟨_, rfl, -⟩ | ⟨middle, rfl, same⟩
    · exact plain (by simp)
    · -- The first of two hyphens in a row is the one behind the word, or in the text.
      cases middle with
      | nil =>
        obtain ⟨-, rfl⟩ := List.cons.inj same
        exact behind.first rfl
      | cons first middle =>
        obtain ⟨-, rfl⟩ := List.cons.inj same
        exact behind.single ⟨middle, rest, by simp⟩

theorem intercalate_ne_nil {parts : List (List Char)} (some : parts ≠ [])
    (nonempty : ∀ part ∈ parts, part ≠ []) : ['-'].intercalate parts ≠ [] := by
  obtain ⟨first, rest, rfl⟩ := List.exists_cons_of_ne_nil some
  have here := nonempty first List.mem_cons_self
  cases rest with
  | nil => simpa [List.intercalate] using here
  | cons second others =>
    rw [List.intercalate_cons_cons, ← List.append_cons]
    exact List.append_ne_nil_of_left_ne_nil here _

/-- Words that are joined by hyphens are hyphenated. -/
theorem hyphenated_intercalate {parts : List (List Char)} (each : ∀ part ∈ parts, IsWord part) :
    Hyphenated (['-'].intercalate parts) := by
  induction parts with
  | nil => exact hyphenated_of_not_mem List.not_mem_nil
  | cons first rest ih =>
    obtain ⟨here, behind⟩ := List.forall_mem_cons.1 each
    cases rest with
    | nil => exact hyphenated_of_not_mem (by simpa [List.intercalate] using here.hyphen_not_mem)
    | cons second others =>
      have more : ['-'].intercalate (second :: others) ≠ [] :=
        intercalate_ne_nil (List.cons_ne_nil _ _) fun part there => (behind part there).nonempty
      rw [List.intercalate_cons_cons, ← List.append_cons]
      exact (ih behind).join here.nonempty here.hyphen_not_mem more

end Kebab

/-! ## Names -/

/-- The words of a name in lower case. -/
theorem toList_kebab (name : String) :
    (kebab name).toList = ['-'].intercalate ((Kebab.words name.toList).map Text.lower) :=
  String.toList_ofList

theorem isWord_of_mem_kebab (name : String) :
    ∀ word ∈ (Kebab.words name.toList).map Text.lower, Kebab.IsWord word := by
  intro word there
  obtain ⟨own, isWord, rfl⟩ := List.mem_map.1 there
  exact Kebab.isWord_lower isWord

/-- What is in a name in kebab case is a hyphen, or in a word of it. -/
theorem exists_word_of_mem_kebab {name : String} {c : Char} (there : c ∈ (kebab name).toList) :
    c = '-' ∨ ∃ word ∈ Kebab.words name.toList, c ∈ Text.lower word := by
  rw [toList_kebab] at there
  refine (Text.mem_of_mem_intercalate there).imp_right ?_
  rintro ⟨part, isPart, inside⟩
  obtain ⟨word, isWord, rfl⟩ := List.mem_map.1 isPart
  exact ⟨word, isWord, inside⟩

/-- What is in a name in kebab case is a hyphen, or in the name, or not in front of `a`. -/
theorem mem_of_mem_kebab {name : String} {c : Char} (there : c ∈ (kebab name).toList) :
    c = '-' ∨ c ∈ name.toList ∨ 'a' ≤ c := by
  refine (exists_word_of_mem_kebab there).imp_right ?_
  rintro ⟨word, isWord, inside⟩
  exact (Text.mem_of_mem_lower inside).imp_left fun here =>
    (Kebab.mem_of_mem_words isWord here).1

/-- A name in kebab case is cut into the words of the name again. -/
theorem words_kebab (name : String) :
    Kebab.words (kebab name).toList = (Kebab.words name.toList).map Text.lower := by
  rw [toList_kebab, Kebab.words_intercalate (isWord_of_mem_kebab name)]

theorem kebab_kebab (name : String) : kebab (kebab name) = kebab name := by
  have again : Text.lower ∘ Text.lower = Text.lower := funext Text.lower_lower
  refine String.toList_injective ?_
  rw [toList_kebab, words_kebab, List.map_map, again, ← toList_kebab]

theorem kebab_eq_empty_iff {name : String} : kebab name = "" ↔ Kebab.words name.toList = [] := by
  rw [← String.toList_inj, toList_kebab]
  constructor
  · intro none
    by_contra some
    refine Kebab.intercalate_ne_nil ?_ (fun word there => ?_) none
    · simpa using some
    · exact (isWord_of_mem_kebab name word there).nonempty
  · intro none
    rw [none]
    rfl

/-- The words of a name say what it is in kebab case. -/
theorem kebab_congr {a b : String} (same : Kebab.words a.toList = Kebab.words b.toList) :
    kebab a = kebab b := by
  unfold kebab
  rw [same]

/-- Two names with a separator between them have a hyphen there, unless one of them has no word. -/
theorem kebab_append {c : Char} (separates : Kebab.isSeparator c = true) (a b : String) :
    kebab (a ++ String.singleton c ++ b) =
      "-".intercalate ([kebab a, kebab b].filter (· ≠ "")) := by
  have cut : Kebab.words (a ++ String.singleton c ++ b).toList =
      Kebab.words a.toList ++ Kebab.words b.toList := by
    rw [← Kebab.words_append separates]
    simp [String.toList_append]
  by_cases left : kebab a = ""
  · have same : kebab (a ++ String.singleton c ++ b) = kebab b :=
      kebab_congr (by rw [cut, kebab_eq_empty_iff.1 left, List.nil_append])
    rw [same]
    by_cases right : kebab b = "" <;> simp [left, right]
  · by_cases right : kebab b = ""
    · have same : kebab (a ++ String.singleton c ++ b) = kebab a :=
        kebab_congr (by rw [cut, kebab_eq_empty_iff.1 right, List.append_nil])
      rw [same]
      simp [left, right]
    · have some : (Kebab.words a.toList).map Text.lower ≠ [] := by
        simpa [kebab_eq_empty_iff] using left
      have more : (Kebab.words b.toList).map Text.lower ≠ [] := by
        simpa [kebab_eq_empty_iff] using right
      refine String.toList_injective ?_
      rw [toList_kebab, cut, List.map_append, Text.intercalate_append some more, ← toList_kebab,
        ← toList_kebab]
      simp [left, right, String.toList_append]

/-- A text of words in lower case with one hyphen between two of them. -/
structure IsKebab (text : String) : Prop extends Kebab.Hyphenated text.toList where
  plain : ∀ c ∈ text.toList, c ≠ '.' ∧ c ≠ '_' ∧ c ≠ ' ' ∧ ¬ ('A' ≤ c ∧ c ≤ 'Z')

theorem isKebab_kebab (name : String) : IsKebab (kebab name) where
  toHyphenated := by
    rw [toList_kebab]
    exact Kebab.hyphenated_intercalate (isWord_of_mem_kebab name)
  plain c there := by
    rcases exists_word_of_mem_kebab there with rfl | ⟨word, isWord, inside⟩
    · decide
    · have isWord := Kebab.isWord_lower isWord
      have noSeparator := isWord.plain c inside
      simp only [Kebab.isSeparator, Bool.or_eq_false_iff, beq_eq_false_iff_ne] at noSeparator
      obtain ⟨⟨⟨dot, underscore⟩, -⟩, blank⟩ := noSeparator
      exact ⟨dot, underscore, blank, (isWord.settled c inside).not_capital⟩

/-- What is put together with a separator is in kebab case what its parts are, with a hyphen between
those that have a word. A name in kebab case is made of words in lower case with one hyphen between
two of them, and it stays as it is when it is put into kebab case again. -/
theorem kebab_joins_words :
    (∀ a b : String, ∀ c ∈ ['.', '_', '-', ' '],
      kebab (a ++ String.singleton c ++ b) =
        "-".intercalate ([kebab a, kebab b].filter (· ≠ ""))) ∧
    ∀ a : String, IsKebab (kebab a) ∧ kebab (kebab a) = kebab a := by
  refine ⟨fun a b c separates => kebab_append ?_ a b, fun a => ⟨isKebab_kebab a, kebab_kebab a⟩⟩
  simpa [Kebab.isSeparator, or_assoc] using separates

/-- A separator at an end makes no word, and capitals make words on both sides of a dot. -/
theorem kebab_joins_words_of_brand :
    '.' ∈ ['.', '_', '-', ' '] ∧
      kebab ("Brand Colors_" ++ String.singleton '.' ++ "HTMLParser2Go") =
        "-".intercalate ["brand-colors", "html-parser2go"] ∧
      kebab ("--" ++ String.singleton '.' ++ "fontSize") = "font-size" := by
  have dot : '.' ∈ ['.', '_', '-', ' '] := List.mem_cons_self
  have joins := kebab_joins_words.1
  refine ⟨dot, (joins _ _ _ dot).trans ?_, (joins _ _ _ dot).trans ?_⟩
  · decide +kernel
  · decide +kernel

end DesignTokens
