import DesignTokens.Proofs.Rendering.Agreement
import DesignTokens.Proofs.Resolution.Room
import DesignTokens.Proofs.Session.History

/-!
# Inactive tokens

What is computed under a theme asks about the active tokens of the theme and about nothing else. So
two libraries with the same active tokens under a theme compute the same values and the same files
for it, whatever else they hold (`inactive_tokens_have_no_influence`).
-/

namespace DesignTokens

open Inquiry

/-! ## Room for whole files -/

section Room

variable {library : Library} {tokens : List Token}

theorem Leaf.ignoresRoom_ofToken {u : Token} (here : u ∈ library.tokens) :
    IgnoresRoom library fun s => Leaf.ofToken s u := by
  intro s room enough enough'
  unfold Leaf.ofToken
  cases u.value with
  | bundle bundle =>
    have same := ignoresRoom_properties here bundle s room enough enough'
    exact answer_bind_congr same fun _ => rfl
  | plain raw =>
    exact answer_bind_congr (ignoresRoom_cssValue here s room enough enough') fun _ => rfl
  | shadow layers =>
    exact answer_bind_congr (ignoresRoom_cssValue here s room enough enough') fun _ => rfl

theorem Stylesheet.ignoresRoom_ofTokens (known : tokens ⊆ library.tokens) (selector : String) :
    IgnoresRoom library fun s => Stylesheet.ofTokens s selector tokens := by
  intro s room enough enough'
  refine answer_bind_congr (answer_mapM_congr fun u there => ?_) fun _ => rfl
  rw [Contribution.ofToken_eq, Contribution.ofToken_eq]
  have leaf := Leaf.ignoresRoom_ofToken (known there) s room enough enough'
  exact answer_bind_congr leaf fun _ => rfl

theorem Document.ignoresRoom_ofTokens (known : tokens ⊆ library.tokens) :
    IgnoresRoom library fun s => Document.ofTokens s tokens := by
  intro s room enough enough'
  have placed : ∀ table, answer library (addTokens (s.withRoom room) table tokens) =
      answer library (addTokens s table tokens) := by
    induction tokens with
    | nil => exact fun _ => rfl
    | cons u rest ih =>
      intro table
      have leaf := Leaf.ignoresRoom_ofToken (known List.mem_cons_self) s room enough enough'
      refine answer_bind_congr leaf fun leaf => answer_bind_congr rfl fun _ => ?_
      exact ih (List.subset_of_cons_subset known) _
  exact answer_bind_congr (placed []) fun _ => rfl

end Room

/-! ## Two libraries -/

section Libraries

variable {A B : Library} {title : String} {active : List Token} {α : Type}

/-- What is computed with a substitution under a theme, and not with its room, is computed alike in
libraries with the same active tokens. -/
theorem answer_eq_of_ignoresRoom (strict : A.strictNames = B.strictNames)
    (here : A.activeTokens (some title) = .ok active)
    (there : B.activeTokens (some title) = .ok active) {x : Substitution → Inquiry α}
    (asks : ∀ s : Substitution, s.theme = some title → (x s).AsksUnder (· = some title))
    (ignores : IgnoresRoom A x) (ignores' : IgnoresRoom B x) (method : Method) :
    answer A (x (A.substitution method (some title))) =
      answer B (x (B.substitution method (some title))) := by
  -- Both libraries are given the room of the larger one.
  let room := max A.tokens.length B.tokens.length
  have agree : ∀ theme, theme = some title → A.activeTokens theme = B.activeTokens theme := by
    rintro theme rfl
    rw [here, there]
  calc answer A (x (A.substitution method (some title)))
    _ = answer A (x ⟨method, some title, room⟩) :=
      (ignores (A.substitution method (some title)) room (Nat.le_refl _) (Nat.le_max_left _ _)).symm
    _ = answer B (x ⟨method, some title, room⟩) :=
      answer_eq_of_asksUnder (asks _ rfl) strict agree
    _ = answer B (x (B.substitution method (some title))) :=
      ignores' (B.substitution method (some title)) room (Nat.le_refl _) (Nat.le_max_right _ _)

theorem repliesAlike_of_ignoresRoom (strict : A.strictNames = B.strictNames)
    (here : A.activeTokens (some title) = .ok active)
    (there : B.activeTokens (some title) = .ok active) {x : Substitution → Inquiry α}
    (asks : ∀ s : Substitution, s.theme = some title → (x s).AsksUnder (· = some title))
    (ignores : IgnoresRoom A x) (ignores' : IgnoresRoom B x) (method : Method) :
    Session.RepliesAlike A B (x (A.substitution method (some title)))
      (x (B.substitution method (some title))) :=
  Session.repliesAlike_of_answer_eq (asks _ rfl) (asks _ rfl)
    (answer_eq_of_ignoresRoom strict here there asks ignores ignores' method)

namespace Rendering

variable {a b : Theme} {format : Format} {scope : ThemeScope}

/-- Themes of one name have files of one name. -/
theorem fileStem_eq (sameName : a.name = b.name) : a.fileStem = b.fileStem := by
  unfold Theme.fileStem
  rw [sameName]

theorem selector_eq (sameName : a.name = b.name) : scope.selector a = scope.selector b := by
  unfold ThemeScope.selector
  rw [fileStem_eq sameName]

theorem answer_themeText_eq (strict : A.strictNames = B.strictNames)
    (here : A.activeTokens (some a.name) = .ok active)
    (there : B.activeTokens (some a.name) = .ok active) (sameName : b.name = a.name) :
    answer A (themeText A format scope a active) = answer B (themeText B format scope b active) := by
  have known : active ⊆ A.tokens := fun _ => Library.mem_tokens_of_active here
  have known' : active ⊆ B.tokens := fun _ => Library.mem_tokens_of_active there
  unfold themeText
  rw [sameName, selector_eq sameName]
  cases format with
  | css =>
    refine answer_bind_congr ?_ fun _ => rfl
    exact answer_eq_of_ignoresRoom strict here there
      (fun s asked => Stylesheet.asksUnder_ofTokens asked _ active)
      (Stylesheet.ignoresRoom_ofTokens known _) (Stylesheet.ignoresRoom_ofTokens known' _) _
  | json =>
    exact answer_eq_of_ignoresRoom strict here there
      (fun s asked => Document.asksUnder_ofTokens asked active)
      (Document.ignoresRoom_ofTokens known) (Document.ignoresRoom_ofTokens known') _

/-- Themes of one name with the same active tokens have one file. -/
theorem answer_themeFile_eq (strict : A.strictNames = B.strictNames)
    (here : A.activeTokens (some a.name) = .ok active)
    (there : B.activeTokens (some a.name) = .ok active) (sameName : b.name = a.name) :
    answer A (themeFile A format scope a) = answer B (themeFile B format scope b) := by
  have actives : answer A (activeTokens (some a.name)) = pure active := by
    rw [activeTokens, answer, here]
    rfl
  have actives' : answer B (activeTokens (some b.name)) = pure active := by
    rw [activeTokens, answer, sameName, there]
    rfl
  unfold themeFile
  rw [answer_bind, answer_bind, actives, actives', pure_bind, pure_bind, fileStem_eq sameName]
  exact answer_bind_congr (answer_themeText_eq strict here there sameName) fun _ => rfl

end Rendering

end Libraries

open Session Rendering in
/-- Inactive tokens do not influence a theme. In two libraries with the same active tokens under a
theme, what is resolved and computed under the theme is the same, and so are the failures and the
warnings, those about shared names apart. Themes of this name have the same file, in both formats,
and it is written when both libraries are rendered, if no two themes have one name for their
files. -/
theorem inactive_tokens_have_no_influence {A B : Library} {title : String} {active : List Token}
    (strict : A.strictNames = B.strictNames)
    (here : A.activeTokens (some title) = .ok active)
    (there : B.activeTokens (some title) = .ok active) :
    (∀ method : Method,
      let s := A.substitution method (some title)
      let s' := B.substitution method (some title)
      (∀ text, RepliesAlike A B (s.resolve text) (s'.resolve text)) ∧
      ∀ u ∈ active,
        (∀ nested, RepliesAlike A B (s.value nested u) (s'.value nested u)) ∧
        RepliesAlike A B (s.cssValue u) (s'.cssValue u) ∧
        ∀ bundle, u.value = .bundle bundle →
          RepliesAlike A B (s.properties u bundle) (s'.properties u bundle)) ∧
    ∀ a ∈ A.themes, ∀ b ∈ B.themes, a.name = title → b.name = title →
      ∀ (format : Format) (scope : ThemeScope),
        RepliesAlike A B (themeFile A format scope a) (themeFile B format scope b) ∧
        ∀ written written', outcome A (files A format scope) = .ok written →
          outcome B (files B format scope) = .ok written' →
          (A.themes.map (·.fileStem)).Nodup → (B.themes.map (·.fileStem)).Nodup →
          ∃ text, written.get? (fileName format a) = some text ∧
            written'.get? (fileName format b) = some text := by
  have known : active ⊆ A.tokens := fun _ => Library.mem_tokens_of_active here
  have known' : active ⊆ B.tokens := fun _ => Library.mem_tokens_of_active there
  refine ⟨fun method => ⟨fun text => ?_, fun u live => ⟨fun nested => ?_, ?_, ?_⟩⟩, ?_⟩
  · exact repliesAlike_of_ignoresRoom strict here there
      (fun s asked => asksUnder_resolve asked text) (ignoresRoom_resolve text)
      (ignoresRoom_resolve text) method
  · exact repliesAlike_of_ignoresRoom strict here there
      (fun s asked => asksUnder_value asked nested u) (ignoresRoom_value (known live) nested)
      (ignoresRoom_value (known' live) nested) method
  · exact repliesAlike_of_ignoresRoom strict here there (fun s asked => asksUnder_cssValue asked u)
      (ignoresRoom_cssValue (known live)) (ignoresRoom_cssValue (known' live)) method
  · intro bundle _
    exact repliesAlike_of_ignoresRoom strict here there
      (fun s asked => asksUnder_properties asked u bundle)
      (ignoresRoom_properties (known live) bundle) (ignoresRoom_properties (known' live) bundle)
      method
  · rintro a mine b yours rfl sameName format scope
    have asks : (themeFile A format scope a).AsksUnder (· = some a.name) := asksUnder_themeFile rfl
    have asks' : (themeFile B format scope b).AsksUnder (· = some b.name) := asksUnder_themeFile rfl
    have same : answer A (themeFile A format scope a) = answer B (themeFile B format scope b) :=
      answer_themeFile_eq strict here there sameName
    refine ⟨repliesAlike_of_answer_eq asks asks' same, ?_⟩
    intro written written' rendered rendered' stems stems'
    obtain ⟨text, found, computed⟩ := exists_file_of_theme rendered stems mine
    obtain ⟨text', found', computed'⟩ := exists_file_of_theme rendered' stems' yours
    -- Both texts are computed from the active tokens of the theme.
    have actives := (Library.activeTokens_of_mem mine).symm.trans here
    have actives' := Library.activeTokens_of_mem yours
    rw [sameName] at actives'
    rw [Except.ok.inj actives] at computed
    rw [Except.ok.inj (actives'.symm.trans there)] at computed'
    have sameText : outcome A (themeText A format scope a active) =
        outcome B (themeText B format scope b active) :=
      congrArg Noted.outcome (answer_themeText_eq strict here there sameName)
    rw [computed, computed'] at sameText
    cases sameText
    exact ⟨text, found, found'⟩

/-! ## A theme beside another one -/

/-- A theme that uses one set. -/
def lightTheme : Theme := .ofSets "Light" [("core", .source)]

/-- A gap, and its double. -/
def coreTokens : List Token :=
  [.spacing "core.gap" "gap" "8px", .spacing "core.wide" "wide" "{gap} * 2"]

/-- One set and one theme that uses it. -/
def lightLibrary : Library where
  tokens := coreTokens
  sets := [⟨"core", ["core.gap", "core.wide"]⟩]
  themes := [lightTheme]
  strictNames := false
  idsDistinct := by decide
  setsDistinct := by decide
  themesDistinct := by decide
  listed := by decide

/-- Another set before it, with a gap of its own, and another theme. -/
def darkLibrary : Library where
  tokens := .spacing "dark.gap" "gap" "1px" :: coreTokens
  sets := [⟨"dark", ["dark.gap"]⟩, ⟨"core", ["core.gap", "core.wide"]⟩]
  themes := [.ofSets "Dark" [("dark", .enabled)], lightTheme]
  strictNames := false
  idsDistinct := by decide
  setsDistinct := by decide
  themesDistinct := by decide
  listed := by decide

theorem dark_tokens_have_no_influence :
    lightLibrary.strictNames = darkLibrary.strictNames ∧
      lightLibrary.activeTokens (some "Light") = .ok coreTokens ∧
      darkLibrary.activeTokens (some "Light") = .ok coreTokens ∧
      Session.RepliesAlike lightLibrary darkLibrary
        ((lightLibrary.substitution .static (some "Light")).resolve "{wide}")
        ((darkLibrary.substitution .static (some "Light")).resolve "{wide}") ∧
      outcome lightLibrary ((lightLibrary.substitution .static (some "Light")).resolve "{wide}") =
        .ok "calc(8px * 2)" := by
  have strict : lightLibrary.strictNames = darkLibrary.strictNames := rfl
  have here : lightLibrary.activeTokens (some "Light") = .ok coreTokens := by decide +kernel
  have there : darkLibrary.activeTokens (some "Light") = .ok coreTokens := by decide +kernel
  have same := ((inactive_tokens_have_no_influence strict here there).1 .static).1 "{wide}"
  exact ⟨strict, here, there, same, by decide +kernel⟩

end DesignTokens
