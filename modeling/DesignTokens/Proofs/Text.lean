import DesignTokens.Text.Blank
import DesignTokens.Text.Rest
import DesignTokens.Text.Split
import Mathlib.Data.List.Basic

/-!
# Texts that are cut and joined

A text can be cut in front of the first character of a kind in one way only (`eq_of_append_cons_eq`).
No part of a text that is split holds the separator, and a text that is joined holds nothing but the
separator and what is in its parts.
-/

namespace DesignTokens

namespace Text

/-! ## Cuts -/

/-- An element of two lists in a row is in one of them. -/
theorem append_eq_append_cons {α : Type} {xs ys front behind : List α} {a : α}
    (same : xs ++ ys = front ++ a :: behind) :
    (∃ middle, xs = front ++ a :: middle ∧ behind = middle ++ ys) ∨
      ∃ middle, front = xs ++ middle ∧ ys = middle ++ a :: behind := by
  rcases List.append_eq_append_iff.mp same with ⟨middle, whole, rest⟩ | ⟨middle, whole, rest⟩
  · exact .inr ⟨middle, whole, rest⟩
  · cases middle with
    | nil => exact .inr ⟨[], by simpa using whole.symm, by simpa using rest.symm⟩
    | cons first middle =>
      obtain ⟨rfl, rfl⟩ := List.cons.inj rest
      exact .inl ⟨middle, whole, rfl⟩

/-- An element that is not the first one is behind it. -/
theorem exists_front_of_ne {α : Type} {first a : α} {rest front behind : List α}
    (other : first ≠ a) (same : first :: rest = front ++ a :: behind) :
    ∃ middle, front = first :: middle ∧ rest = middle ++ a :: behind := by
  cases front with
  | nil => exact absurd (List.cons.inj same).1 other
  | cons head middle =>
    obtain ⟨rfl, rest⟩ := List.cons.inj same
    exact ⟨middle, rfl, rest⟩

/-- Two texts that are equal are cut alike in front of the first `c`. -/
theorem eq_of_append_cons_eq {c : Char} {front front' behind behind' : List Char}
    (first : c ∉ front) (first' : c ∉ front')
    (same : front ++ c :: behind = front' ++ c :: behind') : front = front' ∧ behind = behind' := by
  rcases append_eq_append_cons same with ⟨middle, rfl, -⟩ | ⟨middle, rfl, rest⟩
  · exact absurd (by simp) first
  · cases middle with
    | nil => exact ⟨by simp, (List.cons.inj rest).2⟩
    | cons d middle =>
      obtain ⟨rfl, -⟩ := List.cons.inj rest
      exact absurd (by simp) first'

/-- A text is cut in one way only at a character that is there once. -/
theorem eq_of_once {c : Char} {front front' behind behind' : List Char} (before : c ∉ front)
    (after : c ∉ behind) (same : front ++ c :: behind = front' ++ c :: behind') :
    front = front' ∧ behind = behind' := by
  refine eq_of_append_cons_eq before (fun there => ?_) same
  have twice := congrArg (List.count c) same
  have some := List.count_pos_iff.2 there
  simp only [List.count_append, List.count_cons_self, List.count_eq_zero.2 before,
    List.count_eq_zero.2 after] at twice
  omega

/-! ## Classes of characters -/

theorem takeWhile_append_stop {p : Char → Bool} {front rest : List Char}
    (all : ∀ c ∈ front, p c) (stop : ∀ c ∈ rest.head?, p c = false) :
    (front ++ rest).takeWhile p = front := by
  rw [List.takeWhile_append_of_pos all]
  cases rest with
  | nil => simp
  | cons c rest => simp [stop c rfl]

theorem dropWhile_append_stop {p : Char → Bool} {front rest : List Char}
    (all : ∀ c ∈ front, p c) (stop : ∀ c ∈ rest.head?, p c = false) :
    (front ++ rest).dropWhile p = rest := by
  rw [List.dropWhile_append_of_pos all]
  cases rest with
  | nil => rfl
  | cons c rest => simp [stop c rfl]

/-- Characters of a class are passed over only at the front of a text. -/
theorem dropWhile_of_head? {p : Char → Bool} {s : List Char}
    (stop : ∀ c ∈ s.head?, p c = false) : s.dropWhile p = s := by
  cases s with
  | nil => rfl
  | cons c rest => exact List.dropWhile_cons_of_neg (by simp [stop c rfl])

theorem after?_of_eq {c : Char} {s rest : List Char} (front : s = c :: rest) :
    ∃ behind, after? c s = some behind ∧ behind.1 = rest := by
  subst front
  exact ⟨.tail c rest, if_pos (beq_self_eq_true c), rfl⟩

theorem after?_of_ne {c d : Char} {s rest : List Char} (front : s = d :: rest) (other : d ≠ c) :
    after? c s = none := by
  subst front
  exact if_neg (by simpa using other)

/-! ## Parts -/

theorem not_mem_of_mem_splitOn {separator : Char} {text part : List Char}
    (there : part ∈ text.splitOn separator) : separator ∉ part := by
  induction text generalizing part with
  | nil =>
    cases List.mem_singleton.1 there
    exact List.not_mem_nil
  | cons c rest ih =>
    rw [List.splitOn_cons_eq_if_modifyHead] at there
    split at there
    next =>
      rcases List.mem_cons.1 there with rfl | there
      · exact List.not_mem_nil
      · exact ih there
    next other =>
      obtain ⟨first, others, found⟩ :=
        List.exists_cons_of_ne_nil (List.splitOn_ne_nil separator rest)
      rw [found] at there ih
      rcases List.mem_cons.1 there with rfl | there
      · intro inside
        rcases List.mem_cons.1 inside with rfl | inside
        · exact other (beq_self_eq_true separator)
        · exact ih List.mem_cons_self inside
      · exact ih (List.mem_cons_of_mem _ there)

/-- A text without separators makes the last part longer. -/
theorem exists_splitOn_append {separator : Char} (text : List Char) {ending : List Char}
    (none : separator ∉ ending) :
    ∃ first last, text.splitOn separator = first ++ [last] ∧
      (text ++ ending).splitOn separator = first ++ [last ++ ending] := by
  induction text with
  | nil => exact ⟨[], [], List.splitOn_nil separator, List.splitOn_eq_singleton none⟩
  | cons c rest ih =>
    obtain ⟨first, last, split, split'⟩ := ih
    rw [List.cons_append, List.splitOn_cons_eq_if_modifyHead, List.splitOn_cons_eq_if_modifyHead,
      split, split']
    by_cases same : (c == separator) = true
    · rw [if_pos same, if_pos same]
      exact ⟨[] :: first, last, rfl, rfl⟩
    · rw [if_neg same, if_neg same]
      cases first with
      | nil => exact ⟨[], c :: last, rfl, rfl⟩
      | cons part others => exact ⟨(c :: part) :: others, last, rfl, rfl⟩

theorem parts_ne_nil (separator : Char) (text : String) : parts separator text ≠ [] :=
  List.map_eq_nil_iff.not.2 (List.splitOn_ne_nil separator text.toList)

/-- The parts say which text was split. -/
theorem parts_injective (separator : Char) : Function.Injective (parts separator) := by
  intro a b same
  have split : a.toList.splitOn separator = b.toList.splitOn separator :=
    List.map_injective_iff.2 (fun _ _ => String.ofList_inj.1) same
  have joined := congrArg [separator].intercalate split
  rw [List.intercalate_splitOn, List.intercalate_splitOn] at joined
  exact String.toList_inj.1 joined

/-- Two rows of parts are joined by one more separator. -/
theorem intercalate_append {separator : Char} {front behind : List (List Char)} (some : front ≠ [])
    (more : behind ≠ []) : [separator].intercalate (front ++ behind) =
      [separator].intercalate front ++ separator :: [separator].intercalate behind := by
  induction front with
  | nil => exact absurd rfl some
  | cons first rest ih =>
    rw [List.cons_append,
      List.intercalate_cons_of_ne_nil (List.append_ne_nil_of_right_ne_nil _ more)]
    cases rest with
    | nil => rw [List.intercalate_singleton, List.nil_append, ← List.append_cons]
    | cons second others =>
      rw [ih (List.cons_ne_nil _ _), List.intercalate_cons_cons, List.append_assoc _ _ (_ :: _)]

theorem mem_of_mem_intercalate {c separator : Char} {parts : List (List Char)}
    (there : c ∈ [separator].intercalate parts) : c = separator ∨ ∃ part ∈ parts, c ∈ part := by
  induction parts with
  | nil => cases there
  | cons first rest ih =>
    cases rest with
    | nil =>
      rw [List.intercalate, List.intersperse_singleton, List.flatten_singleton] at there
      exact .inr ⟨first, List.mem_cons_self, there⟩
    | cons second others =>
      have there : c ∈ first ++ ([separator] ++ [separator].intercalate (second :: others)) := there
      rcases List.mem_append.1 there with here | there
      · exact .inr ⟨first, List.mem_cons_self, here⟩
      · rcases List.mem_append.1 there with here | there
        · exact .inl (List.mem_singleton.1 here)
        · obtain same | ⟨part, isPart, inside⟩ := ih there
          · exact .inl same
          · exact .inr ⟨part, List.mem_cons_of_mem _ isPart, inside⟩

theorem mem_of_mem_trim {c : Char} {text : List Char} (there : c ∈ trim text) : c ∈ text := by
  unfold trim at there
  have there := (List.dropWhile_sublist _).subset (List.mem_reverse.1 there)
  exact (List.dropWhile_sublist _).subset (List.mem_reverse.1 there)

end Text

end DesignTokens
