import DesignTokens.Text.LowerCase
import Mathlib.Data.List.Basic

/-!
# Words in lower case

No run of the lower-case mapping leads to a character that a run moves (`lowerRuns_apart`). So a
word in lower case stays as it is when it is written in lower case again (`lower_lower`). What is in
it is in the word, or not in front of `a` (`mem_of_mem_lower`), and no capital of ASCII is left in it
(`Settled.not_capital`). A word of ASCII is written letter by letter (`lower_of_ascii`).
-/

namespace DesignTokens

namespace Text

/-! ## One character -/

/-- The code points that a run leads to are those of characters, and not in front of `a`. -/
theorem lowerRuns_lead : ∀ run ∈ lowerRuns, 'a'.toNat ≤ run.first + run.offset ∧
    (run.last + run.offset < 0xD800 ∨
      0xDFFF < run.first + run.offset ∧ run.last + run.offset < 0x110000) := by
  decide +kernel

/-- The other run covers no code point from `low` to `high`. Where these are taken `stepwise`, as
every second code point or as a single one, they may also stand between those that it covers. -/
def CaseRun.passesOver (low high : Nat) (stepwise : Bool) (other : CaseRun) : Bool :=
  Nat.blt high other.first || Nat.blt other.last low ||
    stepwise && Nat.beq other.step 2 && Nat.beq ((low - other.first) % 2) 1

/-- No run covers what the run leads to. -/
def CaseRun.endsApart (run : CaseRun) : Bool :=
  lowerRuns.all (CaseRun.passesOver (run.first + run.offset).toNat (run.last + run.offset).toNat
    (run.step == 2 || run.first == run.last))

theorem lowerRuns_apart : lowerRuns.all (·.endsApart) = true := by decide +kernel

/-- No run leads to `İ`. -/
theorem lowerRuns_dotted : ∀ run ∈ lowerRuns,
    run.last + run.offset < 'İ'.toNat ∨ 'İ'.toNat < run.first + run.offset := by
  decide +kernel

/-- The only characters of ASCII that a run moves are the capitals. -/
theorem lowerRuns_ascii : ∀ run ∈ lowerRuns, run.first < 128 →
    run.first = 'A'.toNat ∧ run.last = 'Z'.toNat ∧ run.offset = 32 := by
  decide +kernel

theorem toNat_lowerChar {c : Char} {run : CaseRun}
    (found : lowerRuns.find? (·.covers c.toNat) = some run) :
    ((lowerChar c).toNat : Int) = c.toNat + run.offset ∧ run.first ≤ c.toNat ∧
      c.toNat ≤ run.last ∧ (c.toNat - run.first) % run.step = 0 := by
  have covers := List.find?_some found
  simp only [CaseRun.covers, Bool.and_eq_true, decide_eq_true_eq, beq_iff_eq] at covers
  obtain ⟨⟨first, last⟩, steps⟩ := covers
  obtain ⟨low, high⟩ := lowerRuns_lead run (List.mem_of_find?_eq_some found)
  have valid : Nat.isValidChar (c.toNat + run.offset).toNat := by
    unfold Nat.isValidChar
    omega
  have read : (Char.ofNat (c.toNat + run.offset).toNat).toNat = (c.toNat + run.offset).toNat := by
    rw [Char.ofNat, dif_pos valid]
    rfl
  refine ⟨?_, first, last, steps⟩
  unfold lowerChar
  rw [found]
  dsimp only
  rw [read]
  omega

/-- A character that is not its own lower-case form is moved by a run. -/
theorem exists_run_of_moved {c : Char} (moved : lowerChar c ≠ c) :
    ∃ run ∈ lowerRuns, lowerRuns.find? (·.covers c.toNat) = some run := by
  cases found : lowerRuns.find? (·.covers c.toNat) with
  | none =>
    unfold lowerChar at moved
    rw [found] at moved
    exact absurd rfl moved
  | some run => exact ⟨run, List.mem_of_find?_eq_some found, rfl⟩

/-- A character is its own lower-case form, or that is not in front of `a`. -/
theorem lowerChar_eq_or_le (c : Char) : lowerChar c = c ∨ 'a' ≤ lowerChar c := by
  by_cases same : lowerChar c = c
  · exact .inl same
  · obtain ⟨run, there, found⟩ := exists_run_of_moved same
    obtain ⟨leads, first, -, -⟩ := toNat_lowerChar found
    obtain ⟨low, -⟩ := lowerRuns_lead run there
    refine .inr ?_
    show 'a'.toNat ≤ (lowerChar c).toNat
    omega

/-- A lower-case form is its own. -/
theorem lowerChar_lowerChar (c : Char) : lowerChar (lowerChar c) = lowerChar c := by
  by_cases same : lowerChar c = c
  · rw [same, same]
  by_contra again
  obtain ⟨run, there, found⟩ := exists_run_of_moved same
  obtain ⟨leads, first, last, steps⟩ := toNat_lowerChar found
  obtain ⟨other, there', found'⟩ := exists_run_of_moved again
  obtain ⟨-, first', last', steps'⟩ := toNat_lowerChar found'
  have apart := List.all_eq_true.1 (List.all_eq_true.1 lowerRuns_apart run there) other there'
  simp only [CaseRun.passesOver, Bool.or_eq_true, Bool.and_eq_true, beq_iff_eq, Nat.blt_eq,
    Nat.beq_eq] at apart
  rcases apart with (front | behind) | ⟨⟨two | single, two'⟩, between⟩
  · omega
  · omega
  · rw [two] at steps
    rw [two'] at steps'
    omega
  · rw [two'] at steps'
    omega

/-- No other character has `İ` for its form. -/
theorem lowerChar_ne_dotted {c : Char} (other : c ≠ 'İ') : lowerChar c ≠ 'İ' := by
  intro same
  have moved : lowerChar c ≠ c := fun own => other (own.symm.trans same)
  obtain ⟨run, there, found⟩ := exists_run_of_moved moved
  obtain ⟨leads, first, last, -⟩ := toNat_lowerChar found
  have apart := lowerRuns_dotted run there
  rw [same] at leads
  omega

/-- A character of ASCII that is no capital is its own lower-case form. -/
theorem lowerChar_of_not_capital {c : Char} (ascii : c.toNat < 128) (small : ¬ ('A' ≤ c ∧ c ≤ 'Z')) :
    lowerChar c = c := by
  by_contra moved
  obtain ⟨run, there, found⟩ := exists_run_of_moved moved
  obtain ⟨-, first, last, -⟩ := toNat_lowerChar found
  obtain ⟨isFirst, isLast, -⟩ := lowerRuns_ascii run there (Nat.lt_of_le_of_lt first ascii)
  have low : 'A'.toNat ≤ c.toNat := isFirst ▸ first
  have high : c.toNat ≤ 'Z'.toNat := isLast ▸ last
  exact small ⟨low, high⟩

/-- A capital of ASCII moves by 32. -/
theorem toNat_lowerChar_of_capital {c : Char} (capital : 'A' ≤ c ∧ c ≤ 'Z') :
    (lowerChar c).toNat = c.toNat + 32 := by
  have first : 65 ≤ c.toNat := capital.1
  have last : c.toNat ≤ 90 := capital.2
  have covers : (⟨0x41, 0x5A, 1, 32⟩ : CaseRun).covers c.toNat = true := by
    simp [CaseRun.covers, first, last, Nat.mod_one]
  have found : lowerRuns.find? (·.covers c.toNat) = some ⟨0x41, 0x5A, 1, 32⟩ :=
    List.find?_cons_of_pos covers
  have leads : ((lowerChar c).toNat : Int) = c.toNat + 32 := (toNat_lowerChar found).1
  omega

/-! ## Words -/

/-- Lower case leaves the character as it is, wherever it stands. -/
structure Settled (c : Char) : Prop where
  dotted : c ≠ 'İ'
  sigma : c ≠ 'Σ'
  own : lowerChar c = c

theorem Settled.not_capital {c : Char} (settled : Settled c) : ¬ ('A' ≤ c ∧ c ≤ 'Z') := by
  intro capital
  have moved := toNat_lowerChar_of_capital capital
  rw [settled.own] at moved
  omega

theorem settled_lowerChar {c : Char} (other : c ≠ 'İ') : Settled (lowerChar c) where
  dotted := lowerChar_ne_dotted other
  sigma same := by
    have own := lowerChar_lowerChar c
    rw [same] at own
    exact absurd own (by decide +kernel)
  own := lowerChar_lowerChar c

theorem settled_of_mem_lowerFrom {before text : List Char} {d : Char}
    (there : d ∈ lowerFrom before text) : Settled d := by
  induction text generalizing before with
  | nil => cases there
  | cons c rest ih =>
    rw [lowerFrom] at there
    rcases List.mem_append.1 there with here | behind
    · split at here
      · rcases List.mem_pair.1 here with rfl | rfl <;> constructor <;> decide +kernel
      · next other =>
        split at here
        · rw [List.mem_singleton.1 here]
          split <;> constructor <;> decide +kernel
        · rw [List.mem_singleton.1 here]
          exact settled_lowerChar other
    · exact ih behind

theorem lowerFrom_of_settled {before text : List Char} (settled : ∀ c ∈ text, Settled c) :
    lowerFrom before text = text := by
  induction text generalizing before with
  | nil => rfl
  | cons c rest ih =>
    obtain ⟨⟨dotted, sigma, own⟩, behind⟩ := List.forall_mem_cons.1 settled
    rw [lowerFrom, ih behind, if_neg dotted, if_neg sigma, own, List.singleton_append]

/-- A word in lower case stays as it is. -/
theorem lower_lower (word : List Char) : lower (lower word) = lower word :=
  lowerFrom_of_settled fun _ there => settled_of_mem_lowerFrom there

theorem lower_ne_nil {word : List Char} (nonempty : word ≠ []) : lower word ≠ [] := by
  cases word with
  | nil => exact absurd rfl nonempty
  | cons c rest =>
    unfold lower lowerFrom
    split
    · exact List.cons_ne_nil _ _
    · split <;> exact List.cons_ne_nil _ _

theorem mem_of_mem_lowerFrom {before text : List Char} {d : Char}
    (there : d ∈ lowerFrom before text) : d ∈ text ∨ 'a' ≤ d := by
  induction text generalizing before with
  | nil => cases there
  | cons c rest ih =>
    rw [lowerFrom] at there
    rcases List.mem_append.1 there with here | behind
    · split at here
      · refine .inr ?_
        rcases List.mem_pair.1 here with rfl | rfl <;> decide
      · split at here
        · refine .inr ?_
          rw [List.mem_singleton.1 here]
          split <;> decide
        · rw [List.mem_singleton.1 here]
          exact (lowerChar_eq_or_le c).imp_left fun same => by simp [same]
    · exact (ih behind).imp_left (List.mem_cons_of_mem c)

/-- What is in a word in lower case is in the word, or not in front of `a`. -/
theorem mem_of_mem_lower {word : List Char} {c : Char} (there : c ∈ lower word) :
    c ∈ word ∨ 'a' ≤ c :=
  mem_of_mem_lowerFrom there

theorem lowerFrom_of_ascii {before text : List Char} (ascii : ∀ c ∈ text, c.toNat < 128) :
    lowerFrom before text = text.map lowerChar := by
  induction text generalizing before with
  | nil => rfl
  | cons c rest ih =>
    obtain ⟨here, behind⟩ := List.forall_mem_cons.1 ascii
    have other {d : Char} (beyond : 128 ≤ d.toNat) : c ≠ d := by
      rintro rfl
      omega
    rw [lowerFrom, ih behind, if_neg (other (by decide)), if_neg (other (by decide)),
      List.singleton_append, List.map_cons]

/-- A word of ASCII is written in lower case letter by letter. -/
theorem lower_of_ascii {word : List Char} (ascii : ∀ c ∈ word, c.toNat < 128) :
    lower word = word.map lowerChar :=
  lowerFrom_of_ascii ascii

end Text

end DesignTokens
