import DesignTokens.Proofs.Text
import DesignTokens.Reference

/-!
# Where a reference stands

Two texts in a row are read as each by itself, unless a name in braces begins in the one and ends
in the other (`pieces_append_of_not_crosses`). A reference is read as one wherever it stands. What
is in front of it and what is behind it are read as by themselves (`pieces_around`), because its own
braces keep an open brace in front of it from being closed. Braces around a name make a reference
exactly when the name is not empty and holds no brace (`isName_iff`).
-/

namespace DesignTokens.Reference

/-- A name that braces around it make a reference. -/
structure IsName (name : String) : Prop where
  nonempty : name.toList ≠ []
  opening : '{' ∉ name.toList
  closing : '}' ∉ name.toList

/-- The reference to a name, as it is written. -/
def braced (name : String) : String :=
  String.ofList ('{' :: name.toList ++ ['}'])

theorem toList_braced (name : String) : (braced name).toList = '{' :: name.toList ++ ['}'] :=
  String.toList_ofList

/-- Characters that open no reference stand for themselves. -/
theorem pieces_of_opening_not_mem {front : List Char} (plain : '{' ∉ front)
    (behind : List Char) :
    pieces (front ++ behind) = front.map .char ++ pieces behind := by
  induction front with
  | nil => rfl
  | cons c rest ih =>
    obtain ⟨other, plain⟩ : '{' ≠ c ∧ '{' ∉ rest := by simpa using plain
    have step : pieces (c :: (rest ++ behind)) = attach c (pieces (rest ++ behind)) := rfl
    rw [List.cons_append, step, ih plain, attach, if_neg (Ne.symm other)]
    rfl

theorem upToBrace?_name {name : List Char} (opening : '{' ∉ name) (closing : '}' ∉ name)
    (behind : List Piece) :
    upToBrace? (name.map .char ++ .char '}' :: behind) = some (name, behind) := by
  induction name with
  | nil => rfl
  | cons c rest ih =>
    obtain ⟨notOpening, opening⟩ : '{' ≠ c ∧ '{' ∉ rest := by simpa using opening
    obtain ⟨notClosing, closing⟩ : '}' ≠ c ∧ '}' ∉ rest := by simpa using closing
    rw [List.map_cons, List.cons_append, upToBrace?, if_neg (Ne.symm notClosing),
      if_neg (Ne.symm notOpening), ih opening closing]
    rfl

theorem upToBrace?_eq_some {pieces rest : List Piece} {name : List Char}
    (found : upToBrace? pieces = some (name, rest)) :
    pieces = name.map .char ++ .char '}' :: rest ∧ '{' ∉ name ∧ '}' ∉ name := by
  induction pieces generalizing name with
  | nil => cases found
  | cons piece others ih =>
    cases piece with
    | reference _ => cases found
    | char c =>
      rw [upToBrace?] at found
      split at found
      · next closing =>
        cases found
        exact ⟨by rw [closing]; rfl, List.not_mem_nil, List.not_mem_nil⟩
      · next notClosing =>
        split at found
        · cases found
        · next notOpening =>
          obtain ⟨⟨letters, behind⟩, inner, same⟩ := Option.map_eq_some_iff.1 found
          cases same
          obtain ⟨same, opening, closing⟩ := ih inner
          refine ⟨by rw [same]; rfl, ?_, ?_⟩
          · simpa [Ne.symm notOpening] using opening
          · simpa [Ne.symm notClosing] using closing

/-! ## Texts in a row -/

/-- A name in braces begins in the one text and ends in the other. -/
def Crosses (front behind : List Char) : Prop :=
  ∃ start first last rest, front = start ++ '{' :: first ∧ behind = last ++ '}' :: rest ∧
    IsName (String.ofList (first ++ last))

theorem not_crosses_of_plain {front behind : List Char} (plain : '{' ∉ front) :
    ¬ Crosses front behind := by
  rintro ⟨start, first, _, _, rfl, -⟩
  exact plain (by simp)

theorem not_crosses_of_unclosed {front behind : List Char} (unclosed : '}' ∉ behind) :
    ¬ Crosses front behind := by
  rintro ⟨_, _, last, rest, -, rfl, -⟩
  exact unclosed (by simp)

/-- A brace that opens behind plain text keeps a brace in front of the two from being closed. -/
theorem not_crosses_of_opening {front plain behind : List Char} (unclosed : '}' ∉ plain) :
    ¬ Crosses front (plain ++ '{' :: behind) := by
  rintro ⟨_, first, last, rest, -, same, -, unopened, -⟩
  rcases Text.append_eq_append_cons same with ⟨_, rfl, -⟩ | ⟨_, rfl, opens⟩
  · exact unclosed (by simp)
  · obtain ⟨_, rfl, -⟩ := Text.exists_front_of_ne (by decide) opens
    exact unopened (by simp)

/-- A brace that is not closed in some pieces can be closed behind them. -/
theorem upToBrace?_append (front behind : List Piece) :
    upToBrace? (front ++ behind) =
        (upToBrace? front).map (fun found => (found.1, found.2 ++ behind)) ∨
      ∃ first last rest, front = first.map .char ∧ '{' ∉ first ∧ '}' ∉ first ∧
        upToBrace? behind = some (last, rest) ∧
        upToBrace? (front ++ behind) = some (first ++ last, rest) := by
  induction front with
  | nil =>
    cases found : upToBrace? behind with
    | none => exact .inl found
    | some name => exact .inr ⟨[], name.1, name.2, rfl, by simp, by simp, rfl, found⟩
  | cons piece front ih =>
    cases piece with
    | reference name => exact .inl rfl
    | char c =>
      by_cases closing : c = '}'
      · subst closing
        exact .inl rfl
      by_cases opening : c = '{'
      · subst opening
        exact .inl rfl
      have step (pieces : List Piece) : upToBrace? (.char c :: pieces) =
          (upToBrace? pieces).map fun found => (c :: found.1, found.2) := by
        rw [upToBrace?, if_neg closing, if_neg opening]
      rw [List.cons_append, step, step]
      rcases ih with same | ⟨first, last, rest, rfl, noOpening, noClosing, found, through⟩
      · rw [same, Option.map_map, Option.map_map]
        exact .inl rfl
      · refine .inr ⟨c :: first, last, rest, rfl, ?_, ?_, found, by rw [through]; rfl⟩
        · simpa [Ne.symm opening] using noOpening
        · simpa [Ne.symm closing] using noClosing

theorem eq_of_pieces_eq {text chars : List Char} (plain : pieces text = chars.map .char) :
    text = chars := by
  have written := written_pieces text
  rw [plain, List.flatMap_map] at written
  simpa [Piece.written] using written.symm

/-- Where no name in braces begins in one text and ends in the other, both are read by
themselves. -/
theorem pieces_append_of_not_crosses {front behind : List Char} (apart : ¬ Crosses front behind) :
    pieces (front ++ behind) = pieces front ++ pieces behind := by
  induction front with
  | nil => rfl
  | cons c front ih =>
    have step (text : List Char) : pieces (c :: text) = attach c (pieces text) := rfl
    have apart' : ¬ Crosses front behind := by
      rintro ⟨start, first, last, rest, rfl, rfl, isName⟩
      exact apart ⟨c :: start, first, last, rest, rfl, rfl, isName⟩
    rw [List.cons_append, step, step, ih apart', attach, attach]
    split
    · next opening =>
      subst opening
      rcases upToBrace?_append (pieces front) (pieces behind) with same | crossing
      · rw [same]
        cases upToBrace? (pieces front) with
        | none => rfl
        | some found =>
          obtain ⟨name, others⟩ := found
          cases name <;> rfl
      · -- Only an empty name can be in the braces, and that makes no reference.
        obtain ⟨first, last, rest, fronts, noOpening, noClosing, found, through⟩ := crossing
        obtain rfl := eq_of_pieces_eq fronts
        obtain ⟨-, noOpening', noClosing'⟩ := upToBrace?_eq_some found
        have behinds := (written_pieces behind).symm.trans (written_upToBrace? found)
        rw [through]
        cases name : front ++ last with
        | nil =>
          obtain ⟨rfl, -⟩ := List.append_eq_nil_iff.1 name
          rfl
        | cons letter letters =>
          refine absurd ⟨[], front, last, _, rfl, behinds, ?_, ?_, ?_⟩ apart
          · simp [name]
          · simp [noOpening, noOpening']
          · simp [noClosing, noClosing']
    · rfl

/-! ## References in a text -/

/-- A reference is one wherever it stands. -/
theorem pieces_around {name : String} (isName : IsName name) (front behind : List Char) :
    pieces (front ++ '{' :: name.toList ++ '}' :: behind) =
      pieces front ++ .reference name.toList :: pieces behind := by
  obtain ⟨nonempty, opening, closing⟩ := isName
  have inside : pieces (name.toList ++ '}' :: behind) =
      name.toList.map .char ++ .char '}' :: pieces behind :=
    pieces_of_opening_not_mem opening _
  have here : pieces ('{' :: (name.toList ++ '}' :: behind)) =
      .reference name.toList :: pieces behind := by
    show attach '{' (pieces (name.toList ++ '}' :: behind)) = _
    rw [inside, attach, if_pos rfl, upToBrace?_name opening closing]
    obtain ⟨c, rest, same⟩ := List.exists_cons_of_ne_nil nonempty
    rw [same]
  have apart : ¬ Crosses front ('{' :: (name.toList ++ '}' :: behind)) :=
    not_crosses_of_opening (List.not_mem_nil (a := '}'))
  rw [List.append_assoc, List.cons_append, pieces_append_of_not_crosses apart, here]

/-- A text in which a reference stands has a reference. -/
theorem occursIn_around {name : String} (isName : IsName name) (front behind : String) :
    occursIn (front ++ braced name ++ behind) = true := by
  have cut : (front ++ braced name ++ behind).toList =
      front.toList ++ '{' :: name.toList ++ '}' :: behind.toList := by
    simp [String.toList_append, toList_braced]
  rw [occursIn, cut, pieces_around isName]
  simp [Piece.isReference]

theorem pieces_of_plain {text : List Char} (plain : '{' ∉ text) : pieces text = text.map .char := by
  simpa [pieces] using pieces_of_opening_not_mem plain []

/-- A brace that nothing closes stands for itself. -/
theorem pieces_of_unclosed {chars : List Char} (unopened : '{' ∉ chars) (unclosed : '}' ∉ chars) :
    pieces ('{' :: chars) = .char '{' :: chars.map .char := by
  have none : upToBrace? (chars.map .char) = none := by
    refine Option.eq_none_iff_forall_ne_some.2 fun found same => ?_
    obtain ⟨cut, -, -⟩ := upToBrace?_eq_some same
    have there : .char '}' ∈ chars.map Piece.char := by simp [cut]
    exact unclosed (by simpa using there)
  show attach '{' (pieces chars) = _
  rw [pieces_of_plain unopened, attach, if_pos rfl, none]

/-- A text without an opening brace has no reference. -/
theorem occursIn_of_plain {text : String} (plain : '{' ∉ text.toList) : occursIn text = false := by
  rw [occursIn, pieces_of_plain plain, List.any_map]
  exact List.any_eq_false.2 fun _ _ => Bool.false_ne_true

/-- A name in braces is a reference and nothing else. -/
theorem pieces_braced {name : String} (isName : IsName name) :
    pieces (braced name).toList = [.reference name.toList] := by
  rw [toList_braced]
  exact pieces_around isName [] []

/-! ## Which names make a reference -/

/-- Only names without a brace are read as references, and not the empty one. -/
theorem isName_of_mem_pieces {text name : List Char} (there : .reference name ∈ pieces text) :
    IsName (String.ofList name) := by
  induction text with
  | nil => cases there
  | cons c rest ih =>
    have plain (there : .reference name ∈ .char c :: pieces rest) : IsName (String.ofList name) :=
      ih (by simpa using there)
    have step : pieces (c :: rest) = attach c (pieces rest) := rfl
    rw [step, attach] at there
    split at there
    · split at there
      · next first letters others found =>
        obtain ⟨same, opening, closing⟩ := upToBrace?_eq_some found
        rcases List.mem_cons.1 there with same | there
        · cases same
          exact ⟨by simp, by simpa using opening, by simpa using closing⟩
        · exact ih (by simp [same, there])
      · exact plain there
    · exact plain there

/-- What braces around a name make is one reference for these names, and for no others. -/
theorem isName_iff {name : String} :
    IsName name ↔ pieces (braced name).toList = [.reference name.toList] := by
  refine ⟨pieces_braced, fun only => ?_⟩
  have there : .reference name.toList ∈ pieces (braced name).toList := by
    rw [only]
    exact List.mem_singleton_self _
  rw [← String.ofList_toList (s := name)]
  exact isName_of_mem_pieces there

end DesignTokens.Reference
