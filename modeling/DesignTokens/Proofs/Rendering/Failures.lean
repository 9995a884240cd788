import DesignTokens.Proofs.Rendering.Agreement
import DesignTokens.Proofs.Rendering.Questions
import DesignTokens.Proofs.Resolution.Failures

/-!
# When rendering fails

Files are rendered one after another, and the tokens of each file one after another. Nothing but a
token stops this: placing a value warns at worst. So rendering fails exactly when a token of some
file has no value (`fails_files_iff`), whichever file and whichever token of it this is, and
whatever was rendered before. It never fails for a theme, a set or a token that is not there
(`failsOnly_files`).
-/

namespace DesignTokens

namespace Inquiry

variable {α β : Type} {library : Library}

/-- The computation ends with a failure. -/
def Fails (library : Library) (x : Inquiry α) : Prop :=
  ∃ failure, outcome library x = .error failure

theorem fails_or_ok (library : Library) (x : Inquiry α) :
    x.Fails library ∨ ∃ a, outcome library x = .ok a := by
  unfold Fails
  cases outcome library x with
  | error failure => exact .inl ⟨failure, rfl⟩
  | ok a => exact .inr ⟨a, rfl⟩

theorem not_fails_of_ok {x : Inquiry α} {a : α} (computed : outcome library x = .ok a) :
    ¬ x.Fails library := by
  rintro ⟨failure, failed⟩
  rw [computed] at failed
  cases failed

theorem not_fails_pure (a : α) : ¬ (pure a : Inquiry α).Fails library :=
  not_fails_of_ok rfl

/-- A sequence fails when its first computation does, or the one behind it. -/
theorem fails_bind_iff {x : Inquiry α} {f : α → Inquiry β} :
    (x >>= f).Fails library ↔
      x.Fails library ∨ ∃ a, outcome library x = .ok a ∧ (f a).Fails library := by
  constructor
  · rintro ⟨failure, failed⟩
    rcases outcome_bind_eq_error.1 failed with here | ⟨a, computed, behind⟩
    · exact .inl ⟨failure, here⟩
    · exact .inr ⟨a, computed, failure, behind⟩
  · rintro (⟨failure, here⟩ | ⟨a, computed, failure, behind⟩)
    · exact ⟨failure, outcome_bind_eq_error.2 (.inl here)⟩
    · exact ⟨failure, outcome_bind_eq_error.2 (.inr ⟨a, computed, behind⟩)⟩

/-- Nothing fails behind a computation when nothing that follows it can. -/
theorem fails_bind_of_total {x : Inquiry α} {f : α → Inquiry β}
    (total : ∀ a, ¬ (f a).Fails library) : (x >>= f).Fails library ↔ x.Fails library := by
  rw [fails_bind_iff]
  exact ⟨fun either => either.elim id fun ⟨a, _, behind⟩ => absurd behind (total a), .inl⟩

/-- A traversal fails exactly when one of its items does. -/
theorem fails_mapM_iff {xs : List α} {f : α → Inquiry β} :
    (xs.mapM f).Fails library ↔ ∃ x ∈ xs, (f x).Fails library := by
  induction xs with
  | nil =>
    rw [List.mapM_nil]
    exact ⟨fun fails => absurd fails (not_fails_pure _),
      fun ⟨_, there, _⟩ => absurd there List.not_mem_nil⟩
  | cons first rest ih =>
    have behind (y : β) : (do let ys ← rest.mapM f; pure (y :: ys)).Fails library ↔
        ∃ x ∈ rest, (f x).Fails library :=
      (fails_bind_of_total fun _ => not_fails_pure _).trans ih
    rw [List.mapM_cons, fails_bind_iff]
    constructor
    · rintro (here | ⟨y, -, later⟩)
      · exact ⟨first, List.mem_cons_self, here⟩
      · obtain ⟨x, there, fails⟩ := (behind y).1 later
        exact ⟨x, List.mem_cons_of_mem _ there, fails⟩
    · rintro ⟨x, there, fails⟩
      rcases List.mem_cons.1 there with rfl | there
      · exact .inl fails
      · rcases fails_or_ok library (f first) with here | ⟨y, computed⟩
        · exact .inl here
        · exact .inr ⟨y, computed, (behind y).2 ⟨x, there, fails⟩⟩

end Inquiry

open Inquiry

variable {library : Library} {s : Substitution}

/-! ## The tokens of a file -/

theorem Stylesheet.fails_ofTokens_iff {selector : String} {tokens : List Token} :
    (ofTokens s selector tokens).Fails library ↔
      ∃ u ∈ tokens, (Leaf.ofToken s u).Fails library := by
  have each (u : Token) :
      (Contribution.ofToken s u).Fails library ↔ (Leaf.ofToken s u).Fails library := by
    rw [Contribution.ofToken_eq]
    exact fails_bind_of_total fun _ => not_fails_pure _
  unfold ofTokens
  rw [fails_bind_of_total fun _ => not_fails_pure _, fails_mapM_iff]
  exact exists_congr fun u => and_congr_right fun _ => each u

theorem Document.fails_addTokens_iff {table : Entries Data} {tokens : List Token} :
    (addTokens s table tokens).Fails library ↔
      ∃ u ∈ tokens, (Leaf.ofToken s u).Fails library := by
  induction tokens generalizing table with
  | nil =>
    exact ⟨fun fails => absurd fails (not_fails_pure table),
      fun ⟨_, there, _⟩ => absurd there List.not_mem_nil⟩
  | cons first rest ih =>
    have behind (leaf : Leaf) :
        (leaveAll (placeNamed table first.name leaf).2 >>= fun _ =>
          addTokens s (placeNamed table first.name leaf).1 rest).Fails library ↔
        ∃ u ∈ rest, (Leaf.ofToken s u).Fails library := by
      rw [fails_bind_iff, ih]
      constructor
      · -- What placing leaves are warnings, and they stop nothing.
        rintro (fails | ⟨_, -, later⟩)
        · exact absurd fails (not_fails_of_ok (outcome_leaveAll _))
        · exact later
      · exact fun later => .inr ⟨(), outcome_leaveAll _, later⟩
    rw [addTokens, fails_bind_iff]
    constructor
    · rintro (here | ⟨leaf, -, later⟩)
      · exact ⟨first, List.mem_cons_self, here⟩
      · obtain ⟨u, there, fails⟩ := (behind leaf).1 later
        exact ⟨u, List.mem_cons_of_mem _ there, fails⟩
    · rintro ⟨u, there, fails⟩
      rcases List.mem_cons.1 there with rfl | there
      · exact .inl fails
      · rcases fails_or_ok library (Leaf.ofToken s first) with here | ⟨leaf, computed⟩
        · exact .inl here
        · exact .inr ⟨leaf, computed, (behind leaf).2 ⟨u, there, fails⟩⟩

theorem Document.fails_ofTokens_iff {tokens : List Token} :
    (ofTokens s tokens).Fails library ↔ ∃ u ∈ tokens, (Leaf.ofToken s u).Fails library := by
  unfold ofTokens
  rw [fails_bind_of_total fun _ => not_fails_pure _, fails_addTokens_iff]

/-! ## Files -/

/-- What references become in the files of themes. -/
def Format.method : Format → Method
  | .css => .customProperties
  | .json => .static

namespace Rendering

variable {format : Format} {scope : ThemeScope}

theorem fails_themeText_iff (scope : ThemeScope) {theme : Theme} {tokens : List Token} :
    (themeText library format scope theme tokens).Fails library ↔
      ∃ u ∈ tokens,
        (Leaf.ofToken (library.substitution format.method (some theme.name)) u).Fails library := by
  cases format with
  | css => exact (fails_bind_of_total fun _ => not_fails_pure _).trans Stylesheet.fails_ofTokens_iff
  | json => exact Document.fails_ofTokens_iff

theorem fails_setText_iff {tokens : List Token} :
    (setText library format tokens).Fails library ↔
      ∃ u ∈ tokens, (Leaf.ofToken (library.substitution .static none) u).Fails library := by
  cases format with
  | css => exact (fails_bind_of_total fun _ => not_fails_pure _).trans Stylesheet.fails_ofTokens_iff
  | json => exact Document.fails_ofTokens_iff

/-- The file of a theme fails exactly when an active token has no value under the theme. -/
theorem fails_themeFile_iff {theme : Theme} (there : theme ∈ library.themes) :
    (themeFile library format scope theme).Fails library ↔
      ∃ u ∈ library.tokensUnder theme,
        (Leaf.ofToken (library.substitution format.method (some theme.name)) u).Fails library := by
  have actives : outcome library (activeTokens (some theme.name)) =
      .ok (library.tokensUnder theme) := by
    rw [outcome_activeTokens, Library.activeTokens_of_mem there]
  unfold themeFile
  rw [fails_bind_iff, ← fails_themeText_iff scope]
  constructor
  · rintro (fails | ⟨tokens, computed, fails⟩)
    · exact absurd fails (not_fails_of_ok actives)
    · cases actives.symm.trans computed
      exact (fails_bind_of_total fun _ => not_fails_pure _).1 fails
  · intro fails
    exact .inr ⟨_, actives, (fails_bind_of_total fun _ => not_fails_pure _).2 fails⟩

theorem fails_setFile_iff {set : TokenSet} :
    (setFile library format set).Fails library ↔
      ∃ u ∈ library.tokensOf set,
        (Leaf.ofToken (library.substitution .static none) u).Fails library :=
  (fails_bind_of_total fun _ => not_fails_pure _).trans fails_setText_iff

/-- A token of some file has no value: an active token under its theme, or a token of a set when
there are no themes. -/
inductive HasNoValue (library : Library) (format : Format) (token : Token) : Prop
  | ofTheme {theme : Theme} : theme ∈ library.themes → token ∈ library.tokensUnder theme →
      (Leaf.ofToken (library.substitution format.method (some theme.name)) token).Fails library →
      HasNoValue library format token
  | ofSet {set : TokenSet} : library.themes = [] → set ∈ library.sets →
      token ∈ library.tokensOf set →
      (Leaf.ofToken (library.substitution .static none) token).Fails library →
      HasNoValue library format token

/-- Rendering fails exactly when a token of some file has no value. -/
theorem fails_files_iff (scope : ThemeScope) :
    (files library format scope).Fails library ↔ ∃ token, HasNoValue library format token := by
  unfold files
  by_cases none : library.themes = []
  · rw [if_pos (List.isEmpty_iff.2 none), fails_bind_of_total fun _ => not_fails_pure _,
      fails_mapM_iff]
    constructor
    · rintro ⟨set, there, fails⟩
      obtain ⟨token, inSet, fails⟩ := fails_setFile_iff.1 fails
      exact ⟨token, .ofSet none there inSet fails⟩
    · rintro ⟨token, ⟨there, _, _⟩ | ⟨_, there, inSet, fails⟩⟩
      · rw [none] at there
        exact absurd there List.not_mem_nil
      · exact ⟨_, there, fails_setFile_iff.2 ⟨token, inSet, fails⟩⟩
  · rw [if_neg fun empty => none (List.isEmpty_iff.1 empty),
      fails_bind_of_total fun _ => not_fails_pure _, fails_mapM_iff]
    constructor
    · rintro ⟨theme, there, fails⟩
      obtain ⟨token, active, fails⟩ := (fails_themeFile_iff there).1 fails
      exact ⟨token, .ofTheme there active fails⟩
    · rintro ⟨token, ⟨there, active, fails⟩ | ⟨empty, _, _, _⟩⟩
      · exact ⟨_, there, (fails_themeFile_iff there).2 ⟨token, active, fails⟩⟩
      · exact absurd empty none

end Rendering

/-! ## Reasons -/

section Reasons

variable {active : List Token} (actives : library.activeTokens s.theme = .ok active)

include actives

theorem Leaf.failsOnly_ofToken (u : Token) : FailsAsValue library (ofToken s u) := by
  unfold ofToken
  cases form : u.value with
  | bundle bundle => exact (failsOnly_properties actives u bundle).bind fun _ _ => failsOnly_pure _
  | plain raw =>
    have single : u.isBundle = false := by rw [Token.isBundle, form]; rfl
    exact (failsOnly_cssValue actives single).bind fun _ _ => failsOnly_pure _
  | shadow layers =>
    have single : u.isBundle = false := by rw [Token.isBundle, form]; rfl
    exact (failsOnly_cssValue actives single).bind fun _ _ => failsOnly_pure _

theorem Stylesheet.failsOnly_ofTokens (selector : String) (tokens : List Token) :
    FailsAsValue library (ofTokens s selector tokens) := by
  refine FailsOnly.bind (failsOnly_mapM fun u _ => ?_) fun _ _ => failsOnly_pure _
  rw [Contribution.ofToken_eq]
  exact (Leaf.failsOnly_ofToken actives u).bind fun _ _ => failsOnly_pure _

theorem Document.failsOnly_ofTokens (tokens : List Token) :
    FailsAsValue library (ofTokens s tokens) := by
  suffices added : ∀ table, FailsAsValue library (addTokens s table tokens) from
    (added []).bind fun _ _ => failsOnly_pure _
  induction tokens with
  | nil => exact fun _ => failsOnly_pure _
  | cons u rest ih =>
    intro table
    refine (Leaf.failsOnly_ofToken actives u).bind fun leaf _ => ?_
    exact (failsOnly_of_ok (outcome_leaveAll _)).bind fun _ _ => ih _

end Reasons

namespace Rendering

variable {format : Format} {scope : ThemeScope}

theorem failsOnly_themeFile {theme : Theme} (there : theme ∈ library.themes) :
    FailsAsValue library (themeFile library format scope theme) := by
  have actives := Library.activeTokens_of_mem there
  have asked : outcome library (activeTokens (some theme.name)) =
      .ok (library.tokensUnder theme) := by
    rw [outcome_activeTokens, actives]
  refine (failsOnly_of_ok asked).bind fun tokens _ => ?_
  refine FailsOnly.bind ?_ fun _ _ => failsOnly_pure _
  cases format with
  | css =>
    exact (Stylesheet.failsOnly_ofTokens actives _ tokens).bind fun _ _ => failsOnly_pure _
  | json => exact Document.failsOnly_ofTokens actives tokens

theorem failsOnly_setFile (set : TokenSet) : FailsAsValue library (setFile library format set) := by
  have actives : library.activeTokens none = .ok library.tokens := rfl
  refine FailsOnly.bind ?_ fun _ _ => failsOnly_pure _
  cases format with
  | css => exact (Stylesheet.failsOnly_ofTokens actives _ _).bind fun _ _ => failsOnly_pure _
  | json => exact Document.failsOnly_ofTokens actives _

/-- Rendering fails for the reasons of a value only. -/
theorem failsOnly_files : FailsAsValue library (files library format scope) := by
  unfold files
  split
  · exact (failsOnly_mapM fun set _ => failsOnly_setFile set).bind fun _ _ => failsOnly_pure _
  · exact (failsOnly_mapM fun theme there => failsOnly_themeFile there).bind fun _ _ =>
      failsOnly_pure _

end Rendering

end DesignTokens
