import DesignTokens.Proofs.Entries
import DesignTokens.Proofs.Json.Strings
import DesignTokens.Proofs.Text

/-!
# Documents are read back

A document is a text, or a table of documents. `Json.read` reads a document that `Json.write` has
laid out as the same document (`read_write`). A document is laid out between quotes or braces, so
it is read without looking at what stands behind it (`leaves_readValue`).
-/

namespace DesignTokens

/-- A text, or a table of documents under distinct keys. -/
inductive IsDocument : Data → Prop
  | text (s : String) : IsDocument (.text s)
  | table {entries : Entries Data} : entries.keys.Nodup →
      (∀ entry ∈ entries, IsDocument entry.2) → IsDocument (.table entries)

namespace Json

open DesignTokens.Text

/-! ## Blanks between the parts -/

theorem dropWhile_isSpace_of_blank {blank rest : List Char} {c : Char}
    (blanks : ∀ b ∈ blank, isSpace b = true) (front : isSpace c = false) :
    (blank ++ c :: rest).dropWhile isSpace = c :: rest := by
  rw [List.dropWhile_append_of_pos blanks, List.dropWhile_cons_of_neg (by simp [front])]

theorem isSpace_brace : isSpace '}' = false := rfl

theorem isSpace_of_mem_line {depth : Nat} {c : Char} (there : c ∈ ("\n" ++ indent depth).toList) :
    isSpace c = true := by
  rw [String.toList_append] at there
  rcases List.mem_append.1 there with there | there
  · rw [List.mem_singleton.1 there]
    rfl
  · unfold indent at there
    rw [String.toList_ofList] at there
    rw [List.eq_of_mem_replicate there]
    rfl

theorem toList_writeString_append (text : String) (rest : List Char) :
    (writeString text).toList ++ rest =
      '"' :: (text.toList.flatMap writtenChar ++ '"' :: rest) := by
  unfold writeString
  simp

/-- A document is laid out between quotes or braces. -/
theorem exists_front {d : Data} (document : IsDocument d) (depth : Nat) :
    ∃ c rest, (writeAt depth d).toList = c :: rest ∧ isSpace c = false ∧ c ≠ '\ufeff' := by
  cases document with
  | text s =>
    rw [writeAt, ← List.append_nil (writeString s).toList, toList_writeString_append]
    exact ⟨_, _, rfl, rfl, by decide⟩
  | @table entries _ _ =>
    rw [writeAt]
    unfold writeBlock
    split
    · exact ⟨_, _, rfl, rfl, by decide⟩
    · simp only [String.toList_append, List.append_assoc]
      exact ⟨_, _, rfl, rfl, by decide⟩

/-! ## Steps -/

theorem leaves_iff {α : Type} {s rest : List Char} {step : Except Error (α × Rest s)} {a : α} :
    Leaves step a rest ↔ ∃ left, step = .ok (a, left) ∧ left.1 = rest := by
  constructor
  · rintro ⟨shorter, read⟩
    exact ⟨_, read, rfl⟩
  · rintro ⟨left, read, rfl⟩
    exact ⟨left.2, read⟩

theorem val_andThen {s : List Char} (first : Rest s) (second : Rest first.1) :
    (first.andThen second).1 = second.1 := rfl

/-- A value is read from its layout, whatever stands behind it. -/
def ReadsBack (depth : Nat) (d : Data) : Prop :=
  ∀ rest, Leaves (readValue ((writeAt depth d).toList ++ rest)) d rest

theorem readsBack_text (depth : Nat) (text : String) : ReadsBack depth (.text text) := by
  intro rest
  rw [writeAt, toList_writeString_append]
  obtain ⟨shorter, read⟩ := leaves_readString_written
    ((text.toList.flatMap writtenChar ++ '"' :: rest).length + 1) text.toList rest
  refine leaves_iff.2 ⟨.under ⟨rest, shorter⟩ '"', ?_, rfl⟩
  rw [readValue]
  simp only [bind, Except.bind, read, String.ofList_toList]
  rfl

/-- A field is read with the blanks behind it. -/
theorem leaves_readField {depth : Nat} (key : String) {value : Data} (rest : List Char)
    (document : IsDocument value) (reads : ReadsBack depth value) :
    Leaves (readField ((writeString key ++ ": " ++ writeAt depth value).toList ++ rest))
      (key, value) (rest.dropWhile isSpace) := by
  have layout : (writeString key ++ ": " ++ writeAt depth value).toList ++ rest =
      '"' :: (key.toList.flatMap writtenChar ++
        '"' :: ':' :: ' ' :: ((writeAt depth value).toList ++ rest)) := by
    rw [String.toList_append, String.toList_append, List.append_assoc, List.append_assoc,
      toList_writeString_append]
    rfl
  rw [layout]
  obtain ⟨closed, read, sameClosed⟩ := leaves_iff.1 (leaves_readString_written
    ((key.toList.flatMap writtenChar ++
      '"' :: ':' :: ' ' :: ((writeAt depth value).toList ++ rest)).length + 1) key.toList
    (':' :: ' ' :: ((writeAt depth value).toList ++ rest)))
  have next : (closed.thenAtMost (skip isSpace closed.1)).1 =
      ':' :: ' ' :: ((writeAt depth value).toList ++ rest) := by
    show closed.1.dropWhile isSpace = _
    rw [sameClosed]
    rfl
  obtain ⟨colon, found, sameColon⟩ := after?_of_eq next
  -- Where the value starts: behind the colon and the blanks on both sides of it.
  let start := (closed.thenAtMost (skip isSpace closed.1)).andThen
    (colon.thenAtMost (skip isSpace colon.1))
  have front : start.1 = (writeAt depth value).toList ++ rest := by
    show colon.1.dropWhile isSpace = _
    obtain ⟨c, behind, front, visible, -⟩ := exists_front document depth
    rw [sameColon, front]
    have blanks : [' '].all isSpace = true := rfl
    exact dropWhile_isSpace_of_blank (List.all_eq_true.1 blanks) visible
  have reads := reads rest
  rw [← front] at reads
  obtain ⟨left, read', sameLeft⟩ := leaves_iff.1 reads
  refine leaves_iff.2 ⟨((start.andThen left).thenAtMost (skip isSpace left.1)).under '"', ?_, ?_⟩
  · rw [readField]
    simp only [bind, Except.bind, read, found]
    rw [read']
    simp only [String.ofList_toList]
    rfl
  · show left.1.dropWhile isSpace = _
    rw [sameLeft]

/-- The fields of a table start with the quote of the first name. -/
theorem exists_front_fields (separator : String) (depth : Nat) (key : String) (value : Data)
    (entries : List (String × Data)) (behind : List Char) :
    ∃ rest, (separator.intercalate (writeEntries depth ((key, value) :: entries))).toList ++
      behind = '"' :: rest := by
  cases entries with
  | nil =>
    rw [writeEntries, writeEntries, String.intercalate_singleton, String.toList_append,
      String.toList_append, List.append_assoc, List.append_assoc, toList_writeString_append]
    exact ⟨_, rfl⟩
  | cons next rest =>
    obtain ⟨nextKey, nextValue⟩ := next
    rw [writeEntries, writeEntries, String.intercalate_cons_cons]
    simp only [String.toList_append, List.append_assoc]
    rw [toList_writeString_append]
    exact ⟨_, rfl⟩

/-- Fields with a comma and blanks between them are read up to the closing brace. -/
theorem leaves_readFields {depth : Nat} {line : String} {blank : List Char} (rest : List Char)
    {key : String} {value : Data} {entries : List (String × Data)}
    (lines : ∀ c ∈ line.toList, isSpace c = true) (blanks : ∀ c ∈ blank, isSpace c = true)
    (documents : ∀ entry ∈ (key, value) :: entries, IsDocument entry.2)
    (reads : ∀ entry ∈ (key, value) :: entries, ReadsBack depth entry.2) :
    Leaves (readFields ((("," ++ line).intercalate
      (writeEntries depth ((key, value) :: entries))).toList ++ (blank ++ '}' :: rest)))
      ((key, value) :: entries) rest := by
  induction entries generalizing key value with
  | nil =>
    have document : IsDocument value := documents (key, value) List.mem_cons_self
    have read : ReadsBack depth value := reads (key, value) List.mem_cons_self
    rw [writeEntries, writeEntries, String.intercalate_singleton]
    obtain ⟨next, read, same⟩ := leaves_iff.1 (leaves_readField key
      (blank ++ '}' :: rest) document read)
    rw [dropWhile_isSpace_of_blank blanks isSpace_brace] at same
    obtain ⟨closed, found, sameClosed⟩ := after?_of_eq same
    refine leaves_iff.2 ⟨next.andThen closed, ?_, (val_andThen _ _).trans sameClosed⟩
    rw [readFields]
    simp only [bind, Except.bind, read, found]
    rfl
  | cons second entries ih =>
    obtain ⟨nextKey, nextValue⟩ := second
    have document : IsDocument value := documents (key, value) List.mem_cons_self
    have read : ReadsBack depth value := reads (key, value) List.mem_cons_self
    have documents' : ∀ entry ∈ (nextKey, nextValue) :: entries, IsDocument entry.2 :=
      fun entry there => documents entry (List.mem_cons_of_mem _ there)
    have others := ih documents' fun entry there => reads entry (List.mem_cons_of_mem _ there)
    -- What follows the comma is only looked at through the induction hypothesis, so it gets a name.
    generalize behind : (("," ++ line).intercalate
      (writeEntries depth ((nextKey, nextValue) :: entries))).toList ++ (blank ++ '}' :: rest) =
      more at others
    have layout : (("," ++ line).intercalate
        (writeEntries depth ((key, value) :: (nextKey, nextValue) :: entries))).toList ++
          (blank ++ '}' :: rest) =
        (writeString key ++ ": " ++ writeAt depth value).toList ++
          (',' :: (line.toList ++ more)) := by
      rw [← behind, writeEntries, writeEntries, String.intercalate_cons_cons, ← writeEntries]
      simp only [String.toList_append, List.append_assoc]
      rfl
    have front : more.dropWhile isSpace = more := by
      obtain ⟨_, front⟩ := exists_front_fields ("," ++ line) depth nextKey nextValue entries
        (blank ++ '}' :: rest)
      rw [behind] at front
      rw [front]
      rfl
    rw [layout]
    obtain ⟨next, read, same⟩ := leaves_iff.1 (leaves_readField key
      (',' :: (line.toList ++ more)) document read)
    have same : next.1 = ',' :: (line.toList ++ more) := same
    obtain ⟨comma, found, sameComma⟩ := after?_of_eq same
    have more_fields := after?_of_ne (c := '}') same (by decide)
    let start := next.andThen (comma.thenAtMost (skip isSpace comma.1))
    have frontStart : start.1 = more := by
      show comma.1.dropWhile isSpace = _
      rw [sameComma, List.dropWhile_append_of_pos lines, front]
    rw [← frontStart] at others
    obtain ⟨left, read', sameLeft⟩ := leaves_iff.1 others
    refine leaves_iff.2 ⟨start.andThen left, ?_, (val_andThen _ _).trans sameLeft⟩
    rw [readFields]
    simp only [bind, Except.bind, read, more_fields, found]
    rw [read']
    rfl

theorem layout_table_nil (depth : Nat) (rest : List Char) :
    (writeAt depth (.table [])).toList ++ rest = '{' :: '}' :: rest := by
  rw [writeAt, writeEntries, writeBlock, String.toList_append]
  rfl

theorem layout_table_cons (depth : Nat) (entry : String × Data) (entries : List (String × Data))
    (rest : List Char) :
    (writeAt depth (.table (entry :: entries))).toList ++ rest =
      '{' :: (("\n" ++ indent (depth + 1)).toList ++
        ((("," ++ ("\n" ++ indent (depth + 1))).intercalate
          (writeEntries (depth + 1) (entry :: entries))).toList ++
            (("\n" ++ indent depth).toList ++ '}' :: rest))) := by
  obtain ⟨key, value⟩ := entry
  rw [writeAt, writeEntries, writeBlock]
  · simp only [String.toList_append, List.append_assoc]
    rfl
  · nofun

/-- A document is read back from its layout. -/
theorem readsBack {d : Data} (document : IsDocument d) (depth : Nat) : ReadsBack depth d := by
  induction document generalizing depth with
  | text s => exact readsBack_text depth s
  | @table entries distinct documents ih =>
    intro rest
    cases entries with
    | nil =>
      rw [layout_table_nil]
      obtain ⟨closed, found, same⟩ := after?_of_eq (s := (skip isSpace ('}' :: rest)).1) rfl
      refine leaves_iff.2 ⟨((skip isSpace ('}' :: rest)).andThen closed).under '{', ?_, same⟩
      rw [readValue]
      simp only [found]
      rfl
    | cons entry entries =>
      obtain ⟨key, value⟩ := entry
      have lines : ∀ c ∈ ("\n" ++ indent (depth + 1)).toList, isSpace c = true :=
        fun _ => isSpace_of_mem_line
      have blanks : ∀ c ∈ ("\n" ++ indent depth).toList, isSpace c = true :=
        fun _ => isSpace_of_mem_line
      have fields := leaves_readFields rest lines blanks documents fun entry there =>
        ih entry there (depth + 1)
      obtain ⟨_, front⟩ := exists_front_fields ("," ++ ("\n" ++ indent (depth + 1))) (depth + 1) key
        value entries (("\n" ++ indent depth).toList ++ '}' :: rest)
      rw [layout_table_cons]
      generalize (("," ++ ("\n" ++ indent (depth + 1))).intercalate
        (writeEntries (depth + 1) ((key, value) :: entries))).toList ++
          (("\n" ++ indent depth).toList ++ '}' :: rest) = more at fields front ⊢
      have start : (skip isSpace (("\n" ++ indent (depth + 1)).toList ++ more)).1 = more := by
        show List.dropWhile isSpace _ = _
        rw [front]
        exact dropWhile_isSpace_of_blank lines rfl
      have notClosed := after?_of_ne (c := '}') (start.trans front) (by decide)
      rw [← start] at fields
      obtain ⟨left, read, same⟩ := leaves_iff.1 fields
      refine leaves_iff.2 ⟨((skip isSpace (("\n" ++ indent (depth + 1)).toList ++ more)).andThen
        left).under '{', ?_, same⟩
      rw [readValue]
      simp only [notClosed]
      rw [read]
      simp only [bind, Except.bind, Entries.ofList_of_nodup distinct]
      rfl

/-- A document is read back from its text, with or without the blanks and line ends behind it. -/
theorem read_write {d : Data} (document : IsDocument d) {blank : List Char}
    (blanks : ∀ c ∈ blank, isSpace c = true) : read ((write d).toList ++ blank) = .ok d := by
  obtain ⟨c, rest, front, visible, noMark⟩ := exists_front document 0
  have start : (skip isSpace ((write d).toList ++ blank)).1 = (write d).toList ++ blank := by
    show List.dropWhile isSpace ((writeAt 0 d).toList ++ blank) = (writeAt 0 d).toList ++ blank
    rw [front]
    have none : ∀ b ∈ ([] : List Char), isSpace b = true := fun _ there => nomatch there
    exact dropWhile_isSpace_of_blank none visible
  have reads : Leaves (readValue ((write d).toList ++ blank)) d blank := readsBack document 0 blank
  rw [← start] at reads
  obtain ⟨left, reads, same⟩ := leaves_iff.1 reads
  have marked : ¬ ((write d).toList ++ blank).head? = some '\ufeff' := by
    show ¬ ((writeAt 0 d).toList ++ blank).head? = some '\ufeff'
    rw [front]
    exact fun same => noMark (Option.some.inj same)
  have behind : (skip isSpace left.1).1 = [] := by
    show List.dropWhile isSpace left.1 = []
    rw [same, ← List.append_nil blank, List.dropWhile_append_of_pos blanks]
    rfl
  unfold read
  simp only [if_neg marked, bind, Except.bind, pure, Except.pure]
  rw [reads]
  simp only [behind]
  rfl

end Json

end DesignTokens
