import DesignTokens.Json.Reader
import DesignTokens.Proofs.Entries
import DesignTokens.Proofs.Outcome
import Mathlib.Data.List.TakeWhile

/-!
# Keys of tables

A field that is written twice keeps its place and takes the later value. So every table in a value
that is read has each of its keys once (`keyed_of_read`). That is one of the properties that pass from
the parts of a value to the value (`Kept`), and a value that is read has all of them
(`holds_of_read`). The induction is on the text that is left: a value ends before the field, the item
or the table that it is in.
-/

namespace DesignTokens

/-- Every table in the value has each of its keys once. -/
inductive Data.Keyed : Data → Prop
  | scalar {value : Data} : (∀ items, value ≠ .list items) → (∀ entries, value ≠ .table entries) →
      Keyed value
  | list {items : List Data} : (∀ item ∈ items, Keyed item) → Keyed (.list items)
  | table {entries : Entries Data} : entries.keys.Nodup → (∀ entry ∈ entries, Keyed entry.2) →
      Keyed (.table entries)

/-- What is found in a table of a value is such a value. -/
theorem Data.Keyed.of_get? {entries : Entries Data} {key : String} {value : Data}
    (keyed : (Data.table entries).Keyed) (found : entries.get? key = some value) : value.Keyed := by
  cases keyed with
  | scalar _ none => exact absurd rfl (none entries)
  | table _ each => exact each _ (Entries.mem_of_get? found)

theorem Data.Keyed.nodup {entries : Entries Data} (keyed : (Data.table entries).Keyed) :
    entries.keys.Nodup := by
  cases keyed with
  | scalar _ none => exact absurd rfl (none entries)
  | table distinct _ => exact distinct

theorem Data.Keyed.of_mem {items : List Data} {item : Data} (keyed : (Data.list items).Keyed)
    (there : item ∈ items) : item.Keyed := by
  cases keyed with
  | scalar none _ => exact absurd rfl (none items)
  | list each => exact each item there

namespace Json

open Text

/-! ## Words and numbers -/

/-- A value that is a word or a number. An integer has no more digits than can be written. -/
inductive IsPlain : Data → Prop
  | null : IsPlain .null
  | boolean (b : Bool) : IsPlain (.boolean b)
  | integer {n : Int} : n.natAbs < Nat.pow 10 Data.digitLimit → IsPlain (.integer n)
  | real (x : Double) : IsPlain (.real x)

theorem isDigit_of_mem_wholePart {s : List Char} {c : Char} (there : c ∈ (wholePart s).1) :
    isDigit c = true := by
  unfold wholePart at there
  split at there
  · rw [List.mem_singleton.1 there]
    rfl
  · exact List.mem_takeWhile_imp there

theorem digitsValue_lt {digits : List Char} (each : ∀ c ∈ digits, isDigit c = true) :
    digitsValue digits < Nat.pow 10 digits.length := by
  induction digits using List.reverseRecOn with
  | nil => decide
  | append_singleton front last ih =>
    obtain ⟨before, here⟩ := List.forall_mem_append.1 each
    have less := ih before
    have digit := here last List.mem_cons_self
    simp only [isDigit, Bool.and_eq_true, decide_eq_true_eq, Char.le_def, UInt32.le_iff_toNat_le]
      at digit
    have upper : last.toNat ≤ 57 := digit.2
    have value : digitsValue (front ++ [last]) = digitsValue front * 10 + (last.toNat - 48) :=
      List.foldl_append
    rw [value, List.length_append, List.length_singleton]
    show _ < Nat.pow 10 front.length * 10
    omega

/-- At most so many digits stand for a number of at most so many digits. -/
theorem digitsValue_lt_of_length_le {digits : List Char} {limit : Nat}
    (each : ∀ c ∈ digits, isDigit c = true) (short : digits.length ≤ limit) :
    digitsValue digits < Nat.pow 10 limit :=
  Nat.lt_of_lt_of_le (digitsValue_lt each) (Nat.pow_le_pow_right (by decide) short)

theorem isPlain_of_readNumber {s left : List Char} {value : Data}
    (read : readNumber s = .ok (value, left)) : IsPlain value := by
  unfold readNumber at read
  dsimp only at read
  generalize (if s.head? = some '-' then s.drop 1 else s) = body at read
  split at read
  · cases read
  · split at read
    · split at read
      · cases read
      next short =>
        cases read
        have less : digitsValue (wholePart body).1 < Nat.pow 10 Data.digitLimit :=
          digitsValue_lt_of_length_le (fun _ => isDigit_of_mem_wholePart) (Nat.le_of_not_gt short)
        refine .integer ?_
        split
        · rwa [Int.natAbs_neg, Int.natAbs_natCast]
        · rwa [Int.natAbs_natCast]
    · cases read
      exact .real _

theorem isPlain_of_mem_words {word : List Char × Data} (there : word ∈ words) :
    IsPlain word.2 := by
  unfold words at there
  simp only [List.mem_cons, List.not_mem_nil, or_false] at there
  rcases there with rfl | rfl | rfl | rfl | rfl | rfl <;> constructor

theorem isPlain_of_readScalar {s : List Char} {result : Data × Rest s}
    (read : readScalar s = .ok result) : IsPlain result.1 := by
  unfold readScalar at read
  obtain ⟨⟨value, left⟩, plain, last⟩ := Except.bind_eq_ok.1 read
  dsimp only at last
  split at last <;> cases last
  unfold readPlain at plain
  split at plain
  next found =>
    cases plain
    exact isPlain_of_mem_words (List.mem_of_find?_eq_some found)
  next => exact isPlain_of_readNumber plain

/-! ## What a reader keeps -/

/-- A property of values that the reader keeps: texts, words and numbers have it, and so do lists
and tables of values that have it. -/
structure Kept (P : Data → Prop) : Prop where
  text (text : String) : P (.text text)
  plain {value : Data} : IsPlain value → P value
  list {items : List Data} : (∀ item ∈ items, P item) → P (.list items)
  table {entries : Entries Data} : entries.keys.Nodup → (∀ entry ∈ entries, P entry.2) →
    P (.table entries)

/-- What is read from a text has a property. -/
structure ReadsOnly (P : Data → Prop) (s : List Char) : Prop where
  value : ∀ result, readValue s = .ok result → P result.1
  items : ∀ result, readItems s = .ok result → ∀ item ∈ result.1, P item
  fields : ∀ result, readFields s = .ok result → ∀ entry ∈ result.1, P entry.2

section Steps

variable {P : Data → Prop} (kept : Kept P) {s : List Char}
variable (shorter : ∀ left : Rest s, ReadsOnly P left.1)

include kept shorter

theorem holds_of_readValue {result : Data × Rest s} (read : readValue s = .ok result) :
    P result.1 := by
  unfold readValue at read
  split at read
  next r =>
    obtain ⟨⟨text, rest⟩, -, last⟩ := Except.bind_eq_ok.1 read
    cases last
    exact kept.text _
  next r =>
    have inside := shorter ((skip isSpace r).under _)
    dsimp only at read
    split at read
    next =>
      cases read
      exact kept.list fun _ there => absurd there List.not_mem_nil
    next =>
      obtain ⟨⟨items, rest⟩, found, last⟩ := Except.bind_eq_ok.1 read
      cases last
      exact kept.list (inside.items _ found)
  next r =>
    have inside := shorter ((skip isSpace r).under _)
    dsimp only at read
    split at read
    next =>
      cases read
      exact kept.table .nil fun _ there => absurd there List.not_mem_nil
    next =>
      obtain ⟨⟨fields, rest⟩, found, last⟩ := Except.bind_eq_ok.1 read
      cases last
      refine kept.table (Entries.nodup_keys_ofList fields) fun entry there => ?_
      exact inside.fields _ found entry (Entries.mem_ofList there)
  next => exact kept.plain (isPlain_of_readScalar read)

theorem holds_of_readItems {result : List Data × Rest s} (read : readItems s = .ok result) :
    ∀ item ∈ result.1, P item := by
  rw [readItems] at read
  obtain ⟨⟨first, left⟩, here, read⟩ := Except.bind_eq_ok.1 read
  have first := holds_of_readValue kept shorter here
  dsimp only at read
  split at read
  next =>
    cases read
    exact List.forall_mem_singleton.2 first
  next =>
    split at read
    next =>
      obtain ⟨⟨items, rest⟩, behind, last⟩ := Except.bind_eq_ok.1 read
      cases last
      exact List.forall_mem_cons.2 ⟨first, (shorter _).items _ behind⟩
    next => cases read

omit kept in
theorem holds_of_readField {result : (String × Data) × Rest s} (read : readField s = .ok result) :
    P result.1.2 := by
  unfold readField at read
  split at read
  next opened =>
    have behind (left : Rest opened) : ReadsOnly P left.1 := shorter (left.under '"')
    obtain ⟨⟨name, closed⟩, -, read⟩ := Except.bind_eq_ok.1 read
    dsimp only at read
    split at read
    next =>
      obtain ⟨⟨value, rest⟩, inside, last⟩ := Except.bind_eq_ok.1 read
      cases last
      exact (behind _).value _ inside
    next => cases read
  next => cases read

omit kept in
theorem holds_of_readFields {result : List (String × Data) × Rest s}
    (read : readFields s = .ok result) : ∀ entry ∈ result.1, P entry.2 := by
  rw [readFields] at read
  obtain ⟨⟨first, next⟩, here, read⟩ := Except.bind_eq_ok.1 read
  have first := holds_of_readField shorter here
  dsimp only at read
  split at read
  next =>
    cases read
    exact List.forall_mem_singleton.2 first
  next =>
    split at read
    next =>
      obtain ⟨⟨fields, rest⟩, behind, last⟩ := Except.bind_eq_ok.1 read
      cases last
      exact List.forall_mem_cons.2 ⟨first, (shorter _).fields _ behind⟩
    next => cases read

end Steps

theorem readsOnly {P : Data → Prop} (kept : Kept P) (s : List Char) : ReadsOnly P s :=
  have shorter (left : Rest s) : ReadsOnly P left.1 := readsOnly kept left.1
  ⟨fun _ => holds_of_readValue kept shorter, fun _ => holds_of_readItems kept shorter,
    fun _ => holds_of_readFields shorter⟩
termination_by s.length
decreasing_by exact left.2

/-- A property that the reader keeps holds of a whole document. -/
theorem holds_of_read {P : Data → Prop} (kept : Kept P) {source : List Char} {value : Data}
    (read : Json.read source = .ok value) : P value := by
  unfold Json.read at read
  split at read
  · cases read
  · obtain ⟨⟨found, left⟩, inside, read⟩ := Except.bind_eq_ok.1 read
    dsimp only at read
    split at read <;> cases read
    exact (readsOnly kept _).value _ inside

/-- Every table in a value that is read has each of its keys once. -/
theorem keyed_of_read {source : List Char} {value : Data} (read : Json.read source = .ok value) :
    value.Keyed := by
  refine holds_of_read ⟨fun _ => .scalar nofun nofun, fun plain => ?_, .list, .table⟩ read
  cases plain <;> exact .scalar nofun nofun

end Json

end DesignTokens
