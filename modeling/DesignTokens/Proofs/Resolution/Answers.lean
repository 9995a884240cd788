import DesignTokens.Inquiry
import DesignTokens.Proofs.Outcome
import Mathlib.Data.List.Forall2

/-!
# How a library answers a computation

`Inquiry.answer` takes one computation after another to one outcome after another, with the notes of
both (`answer_bind`). So what a computation gives can be worked out piece by piece:
`Inquiry.outcome` is its outcome without the notes, and the `outcome_…` lemmas say when a sequence
of two computations gives a result and when it gives a failure.
-/

namespace DesignTokens

namespace Inquiry

variable {α β : Type} {library : Library}

@[simp] theorem answer_pure (a : α) : answer library (pure a) = pure a := rfl

@[simp] theorem answer_fail (failure : Failure) :
    answer library (.fail failure : Inquiry α) = Noted.fail failure := rfl

/-- A sequence is answered one computation after another. -/
theorem answer_bind (x : Inquiry α) (f : α → Inquiry β) :
    answer library (x >>= f) = answer library x >>= fun a => answer library (f a) := by
  show answer library (x.bind f) = _
  induction x with
  | done a =>
    show answer library (f a) = (pure a : Noted Failure Warning α) >>= _
    rw [pure_bind]
  | fail failure => rfl
  | warn warning next ih =>
    simp only [Inquiry.bind, answer, ih]
    exact (LawfulMonad.bind_assoc _ _ _).symm
  | active theme next ih =>
    simp only [Inquiry.bind, answer]
    cases library.activeTokens theme with
    | ok tokens => exact ih tokens
    | error failure => rfl
  | shared theme next ih =>
    simp only [Inquiry.bind, answer]
    cases library.nameIndex theme with
    | ok index => exact ih index.shared
    | error failure => rfl
  | find theme name next ih =>
    simp only [Inquiry.bind, answer]
    cases library.find theme name with
    | ok token => exact ih token
    | error failure => rfl

/-- Sequences of computations that two libraries answer alike are answered alike. -/
theorem answer_bind_congr {A B : Library} {x y : Inquiry α} {f g : α → Inquiry β}
    (first : answer A x = answer B y) (second : ∀ a, answer A (f a) = answer B (g a)) :
    answer A (x >>= f) = answer B (y >>= g) := by
  simp only [answer_bind, first, second]

/-! ## Outcomes -/

/-- The outcome of a computation when a library answers its questions. -/
def outcome (library : Library) (x : Inquiry α) : Except Failure α :=
  (x.answer library).outcome

@[simp] theorem outcome_pure (a : α) : outcome library (pure a) = .ok a := rfl

@[simp] theorem outcome_fail (failure : Failure) :
    outcome library (.fail failure : Inquiry α) = .error failure := rfl

@[simp] theorem outcome_lift (result : Except Failure α) :
    outcome library (lift result) = result := by
  cases result <;> rfl

@[simp] theorem outcome_leave (warning : Warning) : outcome library (leave warning) = .ok () := rfl

/-- The library finds what a name stands for. -/
@[simp] theorem outcome_named (theme : Option String) (name : String) :
    outcome library (named theme name) = library.find theme name := by
  unfold outcome named
  rw [answer]
  cases library.find theme name <;> rfl

/-- The outcome of a sequence is that of one computation after another. -/
theorem outcome_bind {x : Inquiry α} {f : α → Inquiry β} :
    outcome library (x >>= f) = outcome library x >>= fun a => outcome library (f a) := by
  unfold outcome
  rw [answer_bind]
  rcases answer library x with ⟨notes, e | a⟩ <;> rfl

theorem outcome_bind_eq_ok {x : Inquiry α} {f : α → Inquiry β} {b : β} :
    outcome library (x >>= f) = .ok b ↔
      ∃ a, outcome library x = .ok a ∧ outcome library (f a) = .ok b := by
  rw [outcome_bind]
  exact Except.bind_eq_ok

theorem outcome_bind_eq_error {x : Inquiry α} {f : α → Inquiry β} {e : Failure} :
    outcome library (x >>= f) = .error e ↔
      outcome library x = .error e ∨
        ∃ a, outcome library x = .ok a ∧ outcome library (f a) = .error e := by
  rw [outcome_bind]
  exact Except.bind_eq_error

/-- The library tells which tokens are active. -/
@[simp] theorem outcome_activeTokens (theme : Option String) :
    outcome library (activeTokens theme) = library.activeTokens theme := by
  unfold outcome activeTokens
  rw [answer]
  cases library.activeTokens theme <;> rfl

/-- The library tells which names are shared. -/
@[simp] theorem outcome_sharedNames (theme : Option String) :
    outcome library (sharedNames theme) = (library.nameIndex theme).map (·.shared) := by
  unfold outcome sharedNames
  rw [answer]
  cases library.nameIndex theme <;> rfl

/-- A traversal gives the results of its items in order. -/
theorem outcome_mapM_eq_ok {xs : List α} {f : α → Inquiry β} {ys : List β}
    (computed : outcome library (xs.mapM f) = .ok ys) :
    List.Forall₂ (fun x y => outcome library (f x) = .ok y) xs ys := by
  induction xs generalizing ys with
  | nil =>
    rw [List.mapM_nil] at computed
    cases computed
    exact .nil
  | cons x rest ih =>
    rw [List.mapM_cons] at computed
    obtain ⟨y, first, computed⟩ := outcome_bind_eq_ok.1 computed
    obtain ⟨others, behind, last⟩ := outcome_bind_eq_ok.1 computed
    cases last
    exact .cons first (ih behind)

theorem answer_mapM_congr {xs : List α} {f g : α → Inquiry β}
    (same : ∀ x ∈ xs, answer library (f x) = answer library (g x)) :
    answer library (xs.mapM f) = answer library (xs.mapM g) := by
  induction xs with
  | nil => rfl
  | cons x rest ih =>
    rw [List.mapM_cons, List.mapM_cons]
    refine answer_bind_congr (same x List.mem_cons_self) fun y => ?_
    have behind := ih fun z there => same z (List.mem_cons_of_mem _ there)
    exact answer_bind_congr behind fun _ => rfl

/-- Computations that are answered alike have one outcome. -/
theorem outcome_congr {x y : Inquiry α} (same : answer library x = answer library y) :
    outcome library x = outcome library y :=
  congrArg Noted.outcome same

end Inquiry

end DesignTokens
