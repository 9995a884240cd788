import DesignTokens.Noted
import Mathlib.Data.List.Forall2

/-!
# Outcomes of sequences

When a sequence of computations succeeds, all of them succeed, and when it fails, it fails as the
first that fails. The same lemmas are stated for `Except` and for `Noted`, where the notes are left
aside. A traversal relates its items to its results one by one (`Except.mapM_eq_ok_iff`).
-/

namespace DesignTokens

variable {ε ν α β γ : Type}

/-! ## Items of lists -/

/-- Items can be related one by one when each is related to something. -/
theorem exists_forall₂_iff {R : α → β → Prop} {xs : List α} :
    (∃ ys, List.Forall₂ R xs ys) ↔ ∀ x ∈ xs, ∃ y, R x y := by
  induction xs with
  | nil => exact ⟨fun _ => nofun, fun _ => ⟨[], .nil⟩⟩
  | cons x rest ih =>
    rw [List.forall_mem_cons, ← ih]
    constructor
    · rintro ⟨_, _ | ⟨here, behind⟩⟩
      exact ⟨⟨_, here⟩, _, behind⟩
    · rintro ⟨⟨y, here⟩, ys, behind⟩
      exact ⟨y :: ys, .cons here behind⟩

/-- Only the items themselves matter for what they are related to one by one. -/
theorem forall₂_congr_of_mem {R S : α → β → Prop} {xs : List α} {ys : List β}
    (same : ∀ x ∈ xs, ∀ y, R x y ↔ S x y) : List.Forall₂ R xs ys ↔ List.Forall₂ S xs ys := by
  have moves {R S : α → β → Prop} (each : ∀ x ∈ xs, ∀ y, R x y → S x y)
      (related : List.Forall₂ R xs ys) : List.Forall₂ S xs ys :=
    ((List.forall₂_and_left xs ys).2 ⟨each, related⟩).imp fun x y here => here.1 y here.2
  exact ⟨moves fun x there y => (same x there y).1, moves fun x there y => (same x there y).2⟩

/-- What is in the second of two related lists is related to something. -/
theorem exists_related {R : α → β → Prop} {as : List α} {bs : List β} {b : β}
    (related : List.Forall₂ R as bs) (there : b ∈ bs) : ∃ a ∈ as, R a b := by
  induction related with
  | nil => cases there
  | cons first _ ih =>
    rcases List.mem_cons.1 there with rfl | there
    · exact ⟨_, List.mem_cons_self, first⟩
    · obtain ⟨a, isItem, holds⟩ := ih there
      exact ⟨a, List.mem_cons_of_mem _ isItem, holds⟩

namespace Except

variable {x : Except ε α} {f : α → Except ε β}

theorem bind_eq_ok {b : β} : (x >>= f) = .ok b ↔ ∃ a, x = .ok a ∧ f a = .ok b := by
  cases x <;> simp [bind, Except.bind]

theorem bind_eq_error {e : ε} :
    (x >>= f) = .error e ↔ x = .error e ∨ ∃ a, x = .ok a ∧ f a = .error e := by
  cases x <;> simp [bind, Except.bind]

theorem map_eq_ok {g : α → β} {b : β} : x.map g = .ok b ↔ ∃ a, x = .ok a ∧ g a = b := by
  cases x <;> simp [Except.map]

theorem map_eq_error {g : α → β} {e : ε} : x.map g = .error e ↔ x = .error e := by
  cases x <;> simp [Except.map]

/-- A traversal succeeds with the results of its items, in their order. -/
theorem mapM_eq_ok_iff {xs : List α} {ys : List β} :
    xs.mapM f = .ok ys ↔ List.Forall₂ (fun x y => f x = .ok y) xs ys := by
  constructor
  · intro computed
    induction xs generalizing ys with
    | nil =>
      cases computed
      exact .nil
    | cons first rest ih =>
      rw [List.mapM_cons] at computed
      obtain ⟨y, here, computed⟩ := bind_eq_ok.1 computed
      obtain ⟨others, behind, last⟩ := bind_eq_ok.1 computed
      cases last
      exact .cons here (ih behind)
  · intro each
    induction each with
    | nil => rfl
    | cons here _ ih =>
      rw [List.mapM_cons, here, ih]
      rfl

/-- What the results of a traversal are related to one by one, the items are related to through
them. -/
theorem exists_mapM_forall₂_iff {R : β → γ → Prop} {xs : List α} {zs : List γ} :
    (∃ ys, xs.mapM f = .ok ys ∧ List.Forall₂ R ys zs) ↔
      List.Forall₂ (fun x z => ∃ y, f x = .ok y ∧ R y z) xs zs := by
  simp only [mapM_eq_ok_iff]
  constructor
  · rintro ⟨ys, computed, related⟩
    induction computed generalizing zs with
    | nil =>
      cases related
      exact .nil
    | cons here _ ih =>
      obtain _ | ⟨first, others⟩ := related
      exact .cons ⟨_, here, first⟩ (ih others)
  · intro each
    induction each with
    | nil => exact ⟨[], .nil, .nil⟩
    | cons here _ ih =>
      obtain ⟨y, computed, first⟩ := here
      obtain ⟨ys, behind, others⟩ := ih
      exact ⟨y :: ys, .cons computed behind, .cons first others⟩

/-- A traversal fails as the first of its items that fails. -/
theorem mapM_eq_error_iff {xs : List α} {e : ε} :
    xs.mapM f = .error e ↔ ∃ before x after, xs = before ++ x :: after ∧
      (∀ other ∈ before, ∃ y, f other = .ok y) ∧ f x = .error e := by
  induction xs with
  | nil =>
    refine ⟨nofun, ?_⟩
    rintro ⟨before, x, after, split, -⟩
    cases before <;> cases split
  | cons first rest ih =>
    rw [List.mapM_cons, bind_eq_error]
    constructor
    · rintro (here | ⟨y, passed, failed⟩)
      · exact ⟨[], first, rest, rfl, nofun, here⟩
      · rcases bind_eq_error.1 failed with behind | ⟨_, _, last⟩
        · obtain ⟨before, x, after, rfl, passed', fails⟩ := ih.1 behind
          exact ⟨first :: before, x, after, rfl,
            List.forall_mem_cons.2 ⟨⟨y, passed⟩, passed'⟩, fails⟩
        · cases last
    · rintro ⟨before, x, after, split, passed, fails⟩
      cases before with
      | nil =>
        cases split
        exact .inl fails
      | cons other before =>
        cases split
        obtain ⟨⟨y, here⟩, passed⟩ := List.forall_mem_cons.1 passed
        exact .inr ⟨y, here, bind_eq_error.2 (.inl (ih.2 ⟨before, x, after, rfl, passed, fails⟩))⟩

/-- A traversal fails as one of its items does. -/
theorem mapM_eq_error {xs : List α} {e : ε} (failed : xs.mapM f = .error e) :
    ∃ a ∈ xs, f a = .error e := by
  obtain ⟨before, a, after, rfl, -, fails⟩ := mapM_eq_error_iff.1 failed
  exact ⟨a, List.mem_append_right _ List.mem_cons_self, fails⟩

/-- A check of several items passes exactly when each of them passes. -/
theorem forM_eq_ok_iff {xs : List α} {check : α → Except ε PUnit} :
    xs.forM check = .ok () ↔ ∀ x ∈ xs, check x = .ok () := by
  induction xs with
  | nil => exact iff_of_true rfl nofun
  | cons first rest ih =>
    rw [List.forall_mem_cons, ← ih]
    refine bind_eq_ok.trans ?_
    exact ⟨fun ⟨_, here, behind⟩ => ⟨here, behind⟩, fun ⟨here, behind⟩ => ⟨_, here, behind⟩⟩

end Except

namespace Noted

variable {x : Noted ε ν α} {f : α → Noted ε ν β}

theorem outcome_bind_eq_ok {b : β} :
    (x >>= f).outcome = .ok b ↔ ∃ a, x.outcome = .ok a ∧ (f a).outcome = .ok b := by
  rcases x with ⟨notes, e | a⟩ <;> simp [bind, Noted.bind]

theorem outcome_bind_eq_error {e : ε} :
    (x >>= f).outcome = .error e ↔
      x.outcome = .error e ∨ ∃ a, x.outcome = .ok a ∧ (f a).outcome = .error e := by
  rcases x with ⟨notes, e' | a⟩ <;> simp [bind, Noted.bind]

end Noted

end DesignTokens
