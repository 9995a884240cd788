import DesignTokens.Proofs.Resolution.Calls

/-!
# All references, and only they

A text is scanned from its front (`Reference.Scans`): where a name in braces starts, it is taken as
a reference and the scan goes on behind it, and every other character stands for itself. The scan
gives the pieces of the text (`scans_iff`).

1. Two references in a text are the same or share no character (`Occurrence.eq_or_apart`), since a
   name holds no brace.
2. So nothing is missed or cut by what comes before it: every name in braces is a piece of its own,
   between the pieces of the text in front of it and those of the text behind it
   (`Occurrence.pieces_eq`), and there are no other references (`exists_occurrence`).
3. Resolving puts a text in the place of each reference and leaves the other characters as they are.
   Two texts in a row are resolved one after the other, unless a reference begins in the one and
   ends in the other (`resolve_append`).
-/

namespace DesignTokens

open Inquiry

namespace Reference

/-! ## Where references stand -/

/-- A reference in a text: a name in braces, with what is in front of it and behind it. -/
@[ext]
structure Occurrence (text : List Char) where
  front : List Char
  name : List Char
  behind : List Char
  isName : IsName (String.ofList name)
  whole : text = front ++ '{' :: (name ++ '}' :: behind)

namespace Occurrence

variable {text : List Char} {a b : Occurrence text}

/-- The place of its opening brace. -/
def start (a : Occurrence text) : Nat :=
  a.front.length

/-- The place behind its closing brace. -/
def stop (a : Occurrence text) : Nat :=
  a.start + a.name.length + 2

theorem opening_not_mem (a : Occurrence text) : '{' ∉ a.name := by
  simpa using a.isName.opening

theorem closing_not_mem (a : Occurrence text) : '}' ∉ a.name := by
  simpa using a.isName.closing

theorem eq_of_start_eq (same : a.start = b.start) : a = b := by
  obtain ⟨fronts, others⟩ := List.append_inj (a.whole.symm.trans b.whole) same
  obtain ⟨names, behinds⟩ := Text.eq_of_append_cons_eq a.closing_not_mem b.closing_not_mem
    (List.cons.inj others).2
  exact Occurrence.ext fronts names behinds

/-- What starts behind the opening brace of a reference starts behind its closing brace: there is
no brace in the name. -/
theorem stop_le_of_start_lt (before : a.start < b.start) : a.stop ≤ b.start := by
  unfold stop
  unfold start at before ⊢
  rcases Text.append_eq_append_cons (a.whole.symm.trans b.whole) with
    ⟨middle, longer, -⟩ | ⟨middle, fronts, opens⟩
  · rw [longer, List.length_append] at before
    omega
  · cases middle with
    | nil =>
      rw [fronts, List.append_nil] at before
      exact absurd before (lt_irrefl _)
    | cons c middle =>
      obtain ⟨rfl, names⟩ := List.cons.inj opens
      rcases Text.append_eq_append_cons names with ⟨_, inside, -⟩ | ⟨others, rfl, closes⟩
      · exact absurd (by simp [inside]) a.opening_not_mem
      · obtain ⟨others, rfl, -⟩ := Text.exists_front_of_ne (by decide) closes
        rw [fronts]
        simp only [List.length_append, List.length_cons]
        omega

/-- Two references are the same, or they share no character. -/
theorem eq_or_apart (a b : Occurrence text) : a = b ∨ a.stop ≤ b.start ∨ b.stop ≤ a.start := by
  rcases Nat.lt_trichotomy a.start b.start with before | same | behind
  · exact .inr (.inl (stop_le_of_start_lt before))
  · exact .inl (eq_of_start_eq same)
  · exact .inr (.inr (stop_le_of_start_lt behind))

/-- A reference is a piece of its own, wherever it stands. -/
theorem pieces_eq (a : Occurrence text) :
    pieces text = pieces a.front ++ .reference a.name :: pieces a.behind := by
  have around := pieces_around a.isName a.front a.behind
  rw [String.toList_ofList] at around
  rw [← around, List.append_assoc, List.cons_append, ← a.whole]

end Occurrence

/-! ## What is found -/

theorem written_ne_nil (piece : Piece) : piece.written ≠ [] := by
  cases piece <;> exact List.cons_ne_nil _ _

/-- Where pieces are cut is known from the characters in front of the cut. -/
theorem eq_of_append_eq {before before' after after' : List Piece}
    (same : before ++ after = before' ++ after')
    (written : before.flatMap Piece.written = before'.flatMap Piece.written) :
    before = before' ∧ after = after' := by
  have nothing {middle : List Piece} {chars : List Char}
      (same : chars = chars ++ middle.flatMap Piece.written) : middle = [] := by
    have none := List.flatMap_eq_nil_iff.1 (List.self_eq_append_right.1 same)
    refine List.eq_nil_iff_forall_not_mem.2 fun piece there => ?_
    exact written_ne_nil piece (none piece there)
  rcases List.append_eq_append_iff.1 same with ⟨middle, rfl, rfl⟩ | ⟨middle, rfl, rfl⟩
  · rw [List.flatMap_append] at written
    obtain rfl := nothing written
    simp
  · rw [List.flatMap_append] at written
    obtain rfl := nothing written.symm
    simp

/-- Each reference among the pieces of a text is a name in braces in the text. -/
theorem exists_occurrence {text name : List Char} {before after : List Piece}
    (found : pieces text = before ++ .reference name :: after) :
    ∃ a : Occurrence text, a.name = name ∧ pieces a.front = before ∧ pieces a.behind = after := by
  have isName : IsName (String.ofList name) := isName_of_mem_pieces (by rw [found]; simp)
  have whole := written_pieces text
  rw [found, List.flatMap_append, List.flatMap_cons] at whole
  let a : Occurrence text :=
    ⟨before.flatMap Piece.written, name, after.flatMap Piece.written, isName, by
      simpa [Piece.written] using whole.symm⟩
  obtain ⟨fronts, others⟩ := eq_of_append_eq (a.pieces_eq.symm.trans found) (written_pieces _)
  exact ⟨a, rfl, fronts, (List.cons.inj others).2⟩

theorem mem_names_iff {text name : String} :
    name ∈ names text ↔ ∃ a : Occurrence text.toList, String.ofList a.name = name := by
  rw [mem_names]
  constructor
  · rintro ⟨chars, there, same⟩
    obtain ⟨before, after, found⟩ := List.append_of_mem there
    obtain ⟨a, rfl, -⟩ := exists_occurrence found
    exact ⟨a, same⟩
  · rintro ⟨a, same⟩
    exact ⟨a.name, by rw [a.pieces_eq]; simp, same⟩

/-- A text has a reference exactly when a name in braces stands in it. -/
theorem occursIn_iff_occurrence {text : String} :
    occursIn text = true ↔ Nonempty (Occurrence text.toList) := by
  rw [occursIn_iff]
  constructor
  · rintro ⟨name, named⟩
    exact ⟨(mem_names_iff.1 named).choose⟩
  · rintro ⟨a⟩
    exact ⟨_, mem_names_iff.2 ⟨a, rfl⟩⟩

/-! ## Scanning from the front -/

/-- The pieces that a scan from the front finds in a text. -/
inductive Scans : List Char → List Piece → Prop
  | done : Scans [] []
  /-- A name in braces is taken whole. -/
  | reference {name behind : List Char} {others : List Piece} : IsName (String.ofList name) →
      Scans behind others → Scans ('{' :: (name ++ '}' :: behind)) (.reference name :: others)
  /-- A character with which no name in braces starts is passed over. -/
  | char {c : Char} {rest : List Char} {others : List Piece} :
      (∀ a : Occurrence (c :: rest), a.front ≠ []) →
      Scans rest others → Scans (c :: rest) (.char c :: others)

theorem pieces_reference {name : List Char} (isName : IsName (String.ofList name))
    (behind : List Char) :
    pieces ('{' :: (name ++ '}' :: behind)) = .reference name :: pieces behind :=
  Occurrence.pieces_eq ⟨[], name, behind, isName, rfl⟩

/-- A character with which no name in braces starts stands for itself. -/
theorem pieces_char {c : Char} {rest : List Char}
    (none : ∀ a : Occurrence (c :: rest), a.front ≠ []) :
    pieces (c :: rest) = .char c :: pieces rest := by
  have step : pieces (c :: rest) = attach c (pieces rest) := rfl
  rw [step, attach]
  split
  · next opening =>
    split
    · next first letters others found =>
      -- The pieces behind the brace would make it the start of a reference.
      have here : pieces (c :: rest) = [] ++ .reference (first :: letters) :: others := by
        rw [step, attach, if_pos opening, found]
        rfl
      obtain ⟨a, -, front, -⟩ := exists_occurrence here
      have empty := written_pieces a.front
      rw [front] at empty
      exact absurd empty.symm (none a)
    · rfl
  · rfl

theorem scans_pieces (text : List Char) : Scans text (pieces text) := by
  induction size : text.length using Nat.strong_induction_on generalizing text with
  | _ n ih =>
    subst size
    cases text with
    | nil => exact .done
    | cons c rest =>
      by_cases starts : ∃ a : Occurrence (c :: rest), a.front = []
      · obtain ⟨⟨front, name, behind, isName, whole⟩, rfl⟩ := starts
        rw [List.nil_append] at whole
        rw [whole, pieces_reference isName]
        refine .reference isName (ih _ ?_ behind rfl)
        rw [whole]
        simp only [List.length_cons, List.length_append]
        omega
      · have none : ∀ a : Occurrence (c :: rest), a.front ≠ [] := by simpa using starts
        rw [pieces_char none]
        exact .char none (ih _ (Nat.lt_succ_self _) rest rfl)

/-- A scan from the front finds the pieces of the text. -/
theorem scans_iff {text : List Char} {found : List Piece} :
    Scans text found ↔ found = pieces text := by
  constructor
  · intro scans
    induction scans with
    | done => rfl
    | reference isName _ ih => rw [pieces_reference isName, ih]
    | char none _ ih => rw [pieces_char none, ih]
  · rintro rfl
    exact scans_pieces text

end Reference

/-! ## Resolving -/

open Reference

section Resolve

variable {library : Library} {s : Substitution}

/-- A text is resolved exactly when something becomes of each name in braces, and then that stands
in the place of the name, and all other characters stand where they stood. -/
theorem outcome_resolve_iff {text result : String} {found : List Piece}
    (scans : Scans text.toList found) :
    outcome library (s.resolve text) = .ok result ↔
      ∃ value : String → String,
        (∀ a : Occurrence text.toList, outcome library
          (s.reference (s.value true) (String.ofList a.name)) =
            .ok (value (String.ofList a.name))) ∧
        result.toList = replace value found := by
  rw [scans_iff.1 scans]
  have whole (value : String → String) :
      (replaceIn value text).toList = replace value (pieces text.toList) := String.toList_ofList
  constructor
  · intro resolved
    have each := exists_of_outcome_substituteIn_eq_ok resolved
    choose! value computed using each
    cases (outcome_substituteIn computed).symm.trans resolved
    exact ⟨value, fun a => computed _ (mem_names_iff.2 ⟨a, rfl⟩), whole value⟩
  · rintro ⟨value, computed, spelled⟩
    rw [String.toList_injective (spelled.trans (whole value).symm)]
    refine outcome_substituteIn fun name named => ?_
    obtain ⟨a, rfl⟩ := mem_names_iff.1 named
    exact computed a

/-- Two texts in a row are resolved one after the other, unless a reference begins in the one and
ends in the other. -/
theorem resolve_append {front behind : String} (apart : ¬ Crosses front.toList behind.toList) :
    s.resolve (front ++ behind) = (do
      let left ← s.resolve front
      let right ← s.resolve behind
      return left ++ right) :=
  substituteIn_append apart

end Resolve

/-- Two names in braces are the same or share no character. A scan from the front finds each of them
as a piece of its own, between what it finds in the text in front of that and in the text behind it,
and it finds no others. Resolving a text puts something in the place of each of them and keeps all
other characters, in their order. So two texts in a row are resolved as each by itself, and fail
exactly when one of them fails, unless a name in braces begins in the one and ends in the other. A
text has a reference exactly when a name in braces stands in it. -/
theorem references_are_replaced (library : Library) (s : Substitution) (text : String) :
    (∀ a b : Occurrence text.toList, a = b ∨ a.stop ≤ b.start ∨ b.stop ≤ a.start) ∧
    (∃ found, (∀ other, Scans text.toList other ↔ other = found) ∧
      (∀ a : Occurrence text.toList, ∃ before after,
        found = before ++ .reference a.name :: after ∧ Scans a.front before ∧
          Scans a.behind after) ∧
      (∀ before name after, found = before ++ .reference name :: after →
        ∃ a : Occurrence text.toList, a.name = name ∧ Scans a.front before ∧
          Scans a.behind after) ∧
      ∀ result, outcome library (s.resolve text) = .ok result ↔
        ∃ value : String → String,
          (∀ a : Occurrence text.toList, outcome library
            (s.reference (s.value true) (String.ofList a.name)) =
              .ok (value (String.ofList a.name))) ∧
          result.toList = replace value found) ∧
    (∀ front behind : String, ¬ Crosses front.toList behind.toList →
      outcome library (s.resolve (front ++ behind)) = (do
        let left ← outcome library (s.resolve front)
        let right ← outcome library (s.resolve behind)
        return left ++ right) ∧
      ((∃ failure, outcome library (s.resolve (front ++ behind)) = .error failure) ↔
        (∃ failure, outcome library (s.resolve front) = .error failure) ∨
          ∃ failure, outcome library (s.resolve behind) = .error failure)) ∧
    (occursIn text = true ↔ Nonempty (Occurrence text.toList)) := by
  refine ⟨Occurrence.eq_or_apart, ⟨pieces text.toList, fun _ => scans_iff, fun a => ?_, ?_,
    fun result => outcome_resolve_iff (scans_pieces _)⟩, fun front behind apart => ?_,
    occursIn_iff_occurrence⟩
  · exact ⟨_, _, a.pieces_eq, scans_pieces _, scans_pieces _⟩
  · intro before name after found
    obtain ⟨a, named, rfl, rfl⟩ := exists_occurrence found
    exact ⟨a, named, scans_pieces _, scans_pieces _⟩
  · have joined : outcome library (s.resolve (front ++ behind)) = (do
        let left ← outcome library (s.resolve front)
        let right ← outcome library (s.resolve behind)
        return left ++ right) := by
      rw [resolve_append apart]
      simp only [outcome_bind, outcome_pure]
      rfl
    refine ⟨joined, ?_⟩
    rw [joined]
    cases outcome library (s.resolve front) <;> cases outcome library (s.resolve behind) <;>
      simp [bind, Except.bind, pure, Except.pure]

/-! ## Braces around braces -/

/-- A single length. -/
def thin : Library :=
  .ofTokens [.spacing "s.a" "a" "1px"] (by decide)

/-- A name in braces inside of braces is the only reference there, and an open brace in front of
another one is closed by nothing. -/
theorem references_are_replaced_nested :
    ¬ Crosses "\x7b{a}\x7d\x7b".toList "{a}\x7d".toList ∧
    outcome thin ((thin.substitution .static none).resolve ("\x7b{a}\x7d\x7b" ++ "{a}\x7d")) =
      .ok "{1px}{1px}" := by
  have unclosed : '}' ∉ ([] : List Char) := List.not_mem_nil
  have apart : ¬ Crosses "\x7b{a}\x7d\x7b".toList "{a}\x7d".toList :=
    not_crosses_of_opening unclosed
  have front : outcome thin ((thin.substitution .static none).resolve "\x7b{a}\x7d\x7b") =
      .ok "{1px}\x7b" := by
    decide +kernel
  have behind : outcome thin ((thin.substitution .static none).resolve "{a}\x7d") =
      .ok "1px\x7d" := by
    decide +kernel
  obtain ⟨-, -, joined, -⟩ :=
    references_are_replaced thin (thin.substitution .static none) "\x7b{a}\x7d"
  refine ⟨apart, ?_⟩
  rw [(joined _ _ apart).1, front, behind]
  rfl

end DesignTokens
