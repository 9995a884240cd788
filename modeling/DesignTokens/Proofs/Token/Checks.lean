import DesignTokens.Data.Issue
import DesignTokens.Proofs.Outcome
import Mathlib.Data.List.Forall2

/-!
# What a check gives and what it reports

A check of a value gives what it has read or reports its issues. `Checked.Meets` says once what a
check does, for all values and all issues. It goes through maps, through two checks that are made
whatever the first one finds, and through the checks of the items of a list.
-/

namespace DesignTokens

namespace Checked

variable {α β : Type}

/-- A check gives the values that it should, or reports all that offends, in the order of the
places, and then at least one place. -/
structure Meets (x : Checked α) (Value : α → Prop) (Offends : Issue → Prop)
    (places : List (List PathStep)) : Prop where
  ok_iff : ∀ a, x = .ok a ↔ Value a
  mem_iff : ∀ issue, issue ∈ x.issues ↔ Offends issue
  ordered : (x.issues.map (·.path)).Sublist places
  reports : x.issues = [] → ∃ a, x = .ok a

variable {x : Checked α} {Value : α → Prop} {Offends : Issue → Prop}
  {places : List (List PathStep)}

theorem issues_map (g : α → β) (x : Checked α) : issues (x.map g) = x.issues := by
  cases x <;> rfl

theorem Meets.map {g : α → β} {Value' : β → Prop} (meets : x.Meets Value Offends places)
    (values : ∀ b, Value' b ↔ ∃ a, Value a ∧ g a = b) :
    Meets (x.map g) Value' Offends places where
  ok_iff b := by
    rw [Except.map_eq_ok, values]
    simp only [meets.ok_iff]
  mem_iff issue := by rw [issues_map, meets.mem_iff]
  ordered := by
    rw [issues_map]
    exact meets.ordered
  reports none := by
    rw [issues_map] at none
    obtain ⟨a, ok⟩ := meets.reports none
    exact ⟨g a, by rw [ok]; rfl⟩

theorem Meets.congr {Value' : α → Prop} {Offends' : Issue → Prop}
    {places' : List (List PathStep)} (meets : x.Meets Value Offends places)
    (values : ∀ a, Value' a ↔ Value a) (offends : ∀ issue, Offends' issue ↔ Offends issue)
    (inside : places.Sublist places') : x.Meets Value' Offends' places' where
  ok_iff a := (meets.ok_iff a).trans (values a).symm
  mem_iff issue := (meets.mem_iff issue).trans (offends issue).symm
  ordered := meets.ordered.trans inside
  reports := meets.reports

/-- A check that finds one issue whatever the value. -/
theorem meets_error {issue : Issue} (none : ∀ a, ¬ Value a)
    (only : ∀ other, Offends other ↔ other = issue) :
    Meets (.error [issue] : Checked α) Value Offends [issue.path] where
  ok_iff a := iff_of_false nofun (none a)
  mem_iff other := List.mem_singleton.trans (only other).symm
  ordered := .refl _
  reports := nofun

/-- Two checks, the second one whatever the first one finds. -/
def both (x : Checked α) (y : Checked β) : Checked (α × β) :=
  match x, y with
  | .ok a, .ok b => .ok (a, b)
  | x, y => .error (x.issues ++ y.issues)

theorem issues_both (x : Checked α) (y : Checked β) : (both x y).issues = x.issues ++ y.issues := by
  cases x <;> cases y <;> rfl

theorem both_eq_ok_iff {y : Checked β} {a : α} {b : β} :
    both x y = .ok (a, b) ↔ x = .ok a ∧ y = .ok b := by
  cases x <;> cases y <;> simp [both]

theorem Meets.both {y : Checked β} {Value' : β → Prop} {Offends' : Issue → Prop}
    {places' : List (List PathStep)} (first : x.Meets Value Offends places)
    (second : y.Meets Value' Offends' places') :
    (Checked.both x y).Meets (fun pair => Value pair.1 ∧ Value' pair.2)
      (fun issue => Offends issue ∨ Offends' issue) (places ++ places') where
  ok_iff pair := by rw [both_eq_ok_iff, first.ok_iff, second.ok_iff]
  mem_iff issue := by rw [issues_both, List.mem_append, first.mem_iff, second.mem_iff]
  ordered := by
    rw [issues_both, List.map_append]
    exact first.ordered.append second.ordered
  reports none := by
    rw [issues_both, List.append_eq_nil_iff] at none
    obtain ⟨a, here⟩ := first.reports none.1
    obtain ⟨b, there⟩ := second.reports none.2
    exact ⟨(a, b), both_eq_ok_iff.2 ⟨here, there⟩⟩

theorem all_cons (x : Checked α) (rest : List (Checked α)) :
    all (x :: rest) = (both x (all rest)).map fun pair => pair.1 :: pair.2 := by
  cases x with
  | error found => rfl
  | ok a => cases more : all rest <;> simp [all, both, more, Except.map]

/-- The checks of some items one after another. -/
theorem Meets.all {ι : Type} {f : ι → Checked α} {Value : ι → α → Prop} {Offends : ι → Issue → Prop}
    {places : ι → List (List PathStep)} {items : List ι}
    (each : ∀ i ∈ items, (f i).Meets (Value i) (Offends i) (places i)) :
    (Checked.all (items.map f)).Meets (List.Forall₂ Value items)
      (fun issue => ∃ i ∈ items, Offends i issue) (items.flatMap places) := by
  induction items with
  | nil =>
    refine ⟨fun values => ?_, fun issue => ?_, .refl _, fun _ => ⟨[], rfl⟩⟩
    · rw [List.forall₂_nil_left_iff]
      exact ⟨fun same => (Except.ok.inj same).symm, fun same => same ▸ rfl⟩
    · exact ⟨nofun, fun ⟨_, there, _⟩ => absurd there List.not_mem_nil⟩
  | cons i rest ih =>
    obtain ⟨here, behind⟩ := List.forall_mem_cons.1 each
    -- The first check and the others are two checks, made whatever the first one finds.
    rw [List.map_cons, all_cons, List.flatMap_cons]
    simp only [List.exists_mem_cons_iff]
    refine (here.both (ih behind)).map fun values => ?_
    rw [List.forall₂_cons_left_iff]
    constructor
    · rintro ⟨a, others, first, more, rfl⟩
      exact ⟨(a, others), ⟨first, more⟩, rfl⟩
    · rintro ⟨⟨a, others⟩, ⟨first, more⟩, rfl⟩
      exact ⟨a, others, first, more, rfl⟩

end Checked

end DesignTokens
