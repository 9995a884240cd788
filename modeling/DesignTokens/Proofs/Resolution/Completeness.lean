import DesignTokens.Proofs.Resolution.Braces

/-!
# Static resolution leaves no reference

What a reference becomes is not read again. So a brace in front of a reference and one behind it can
make a new reference out of the value between them, and that one stays. Where the active tokens use
braces for their references only (`TidyUnder`), no value has a brace, at any depth
(`givesNoBrace_valueAt`), and a text that is resolved has none (`static_resolution_complete`).
-/

namespace DesignTokens

open Inquiry Reference

/-- The texts of the tokens that are active under the theme are tidy. -/
def TidyUnder (library : Library) (theme : Option String) : Prop :=
  ∀ active, library.activeTokens theme = .ok active → ∀ t ∈ active, t.Tidy

/-- A text that is computed has no brace. -/
def GivesNoBrace (library : Library) (x : Inquiry String) : Prop :=
  ∀ text, outcome library x = .ok text → BraceFree text

/-! ## Calls around a value -/

section Calls

variable {text : String}

theorem braceFree_wrapRgb (free : BraceFree text) : BraceFree (wrapRgb text) := by
  unfold wrapRgb
  split
  · exact free
  · exact braceFree_rgbCall free

theorem braceFree_wrapCalc (free : BraceFree text) : BraceFree (wrapCalc text) := by
  unfold wrapCalc
  split
  · exact braceFree_append_iff.2 ⟨braceFree_append_iff.2 ⟨by decide, free⟩, by decide⟩
  · exact free

theorem braceFree_wrapColor (kind : TokenKind) (free : BraceFree text) :
    BraceFree (Substitution.wrapColor kind text) := by
  unfold Substitution.wrapColor
  split
  · exact braceFree_rgbCall free
  · exact free

end Calls

section Values

variable {library : Library} {s : Substitution} {t : Token} {nested : Bool}

/-- A tidy text is expanded to one without a brace when its references are. -/
theorem givesNoBrace_substituteIn {f : String → Inquiry String} {text : String} (tidy : Tidy text)
    (each : ∀ name, GivesNoBrace library (f name)) :
    GivesNoBrace library (substituteIn f text) := by
  intro result expanded
  have computed := exists_of_outcome_substituteIn_eq_ok expanded
  choose! value computed using computed
  cases (outcome_substituteIn computed).symm.trans expanded
  exact tidy.braceFree_replaceIn fun name named => each name _ (computed name named)

theorem givesNoBrace_plainValue {expand : String → Inquiry String} {raw : String} (tidy : Tidy raw)
    (expands : GivesNoBrace library (expand raw)) :
    GivesNoBrace library (Substitution.plainValue expand t nested raw) := by
  intro text computed
  unfold Substitution.plainValue at computed
  split at computed
  · obtain ⟨value, expanded, last⟩ := outcome_bind_eq_ok.1 computed
    have free := expands value expanded
    split at last <;> cases last
    · exact braceFree_wrapRgb free
    · exact free
  · next plain =>
    split at computed
    · rw [outcome_lift] at computed
      obtain ⟨channels, -, rfl⟩ := channelsOf_eq_ok_iff.1 computed
      exact braceFree_channels channels
    · cases computed
      exact tidy.braceFree (by simpa using plain)

/-- The value of an open token has no brace when its texts are tidy and tidy texts are expanded to
texts without one. -/
theorem givesNoBrace_openValue {expand : String → Inquiry String} (tidy : t.Tidy)
    (expands : ∀ raw, Tidy raw → GivesNoBrace library (expand raw)) :
    GivesNoBrace library (Substitution.openValue expand t nested) := by
  intro text computed
  unfold Token.Tidy Token.texts at tidy
  cases form : t.value with
  | plain raw =>
    simp only [form, List.forall_mem_singleton] at tidy
    unfold Substitution.openValue at computed
    rw [form] at computed
    obtain ⟨value, plain, last⟩ := outcome_bind_eq_ok.1 computed
    cases last
    exact braceFree_wrapCalc (givesNoBrace_plainValue tidy (expands raw tidy) value plain)
  | shadow layers =>
    simp only [form, List.forall_mem_flatMap] at tidy
    obtain ⟨raws, value, laidOut, expanded, rfl⟩ := (outcome_openValue_shadow form).1 computed
    have laid := tidy_intercalate (tidy_of_raws tidy laidOut)
    exact braceFree_wrapCalc (expands _ laid value expanded)
  | bundle properties =>
    unfold Substitution.openValue at computed
    rw [form] at computed
    cases computed

section Under

variable (static : s.method = .static) (tidyUnder : TidyUnder library s.theme)

include static tidyUnder

/-- A reference leads to an active token, whose texts are tidy, or becomes the broken word. -/
theorem givesNoBrace_reference {f : Token → Inquiry String}
    (each : ∀ u : Token, u.Tidy → GivesNoBrace library (f u)) (name : String) :
    GivesNoBrace library (s.reference f name) := by
  intro text computed
  have broken : BraceFree brokenWord := by decide
  rw [outcome_reference static] at computed
  split at computed
  · cases computed
  · cases computed
    exact broken
  · next u found =>
    split at computed
    · cases computed
      exact broken
    · obtain ⟨active, actives, -⟩ := Library.find?_of_find found
      have there := (Library.mem_active_of_find actives found).1
      exact each u (tidyUnder active actives u there) text computed

/-- Whatever tokens are open, the value of a token with tidy texts has no brace. -/
theorem givesNoBrace_valueAt (room : Nat) (chain : List String) (tidy : t.Tidy) :
    GivesNoBrace library (s.valueAt room chain nested t) := by
  -- The induction is on the room. Which token comes next is known only to be tidy.
  induction room generalizing chain nested t with
  | zero =>
    intro text computed
    cases computed
  | succ room ih =>
    rw [Substitution.valueAt]
    split
    · intro text computed
      cases computed
    · refine givesNoBrace_openValue tidy fun raw tidy => givesNoBrace_substituteIn tidy ?_
      exact givesNoBrace_reference static tidyUnder fun u tidy => ih _ tidy

theorem givesNoBrace_expandAt (room : Nat) (chain : List String) {text : String}
    (tidy : Tidy text) : GivesNoBrace library (s.expandAt room chain text) := by
  refine givesNoBrace_substituteIn tidy ?_
  exact givesNoBrace_reference static tidyUnder fun u tidy =>
    givesNoBrace_valueAt static tidyUnder room chain tidy

end Under

end Values

/-- Where the texts of the active tokens are tidy, static resolution is complete. What a tidy text
is resolved to has no brace, so that resolving it again changes nothing. The same holds for the
value of a token whose texts are tidy, nested or by itself, and as it is written to a file, and for
each property of a bundle whose text is tidy. -/
theorem static_resolution_complete (library : Library) (theme : Option String)
    (tidyUnder : TidyUnder library theme) :
    let s := library.substitution .static theme
    (∀ text, Tidy text → GivesNoBrace library (s.resolve text)) ∧
    (∀ t : Token, t.Tidy → ∀ nested, GivesNoBrace library (s.value nested t)) ∧
    (∀ t : Token, t.Tidy → GivesNoBrace library (s.cssValue t)) ∧
    (∀ (t : Token) (bundle values : Entries String), t.value = .bundle bundle →
      outcome library (s.properties t bundle) = .ok values →
      ∀ property raw, bundle.get? property = some raw → Tidy raw →
        ∃ text, values.get? property = some text ∧ BraceFree text) ∧
    ∀ text, BraceFree text → s.resolve text = pure text := by
  intro s
  have static : s.method = .static := rfl
  have under : TidyUnder library s.theme := tidyUnder
  refine ⟨fun text tidy => ?_, fun t tidy nested => ?_, fun t tidy result written => ?_, ?_,
    fun text free => resolve_plain free.1⟩
  · exact givesNoBrace_expandAt static under s.room [] tidy
  · exact givesNoBrace_valueAt static under s.room [] tidy
  · obtain ⟨value, computed, rfl⟩ := outcome_cssValue_eq_ok.1 written
    have free := givesNoBrace_valueAt static under s.room [] tidy value computed
    exact braceFree_wrapColor t.kind free
  · intro t bundle values form computed property raw there tidy
    obtain ⟨text, found, expanded⟩ := exists_get?_of_expandProperties computed there
    exact ⟨text, found, givesNoBrace_expandAt static under s.room [t.id] tidy text expanded⟩

/-! ## A panel -/

/-- A shadow whose color and lengths are references. -/
def halo : Token :=
  .boxShadow "s.halo" "halo" [⟨"{ink}", .inner, "{gap}", "0", "{wide}", "-{gap}"⟩]

/-- A composition with a color inside a call. -/
def panel : Token :=
  ⟨"s.panel", "panel", .composition, .bundle [("fill", "rgba({ink}, 0.5)")], rfl, by decide⟩

/-- The two, with the tokens that they refer to. -/
def panels : Library :=
  .ofTokens [.color "s.ink" "ink" "#102030", .spacing "s.gap" "gap" "4",
    .spacing "s.wide" "wide" "{gap} * 2", halo, panel] (by decide)

/-- A text, a shadow and a property in which no reference is left. -/
theorem static_resolution_complete_panels :
    BraceFree "solid calc(4 * 2) BROKEN_REF" ∧
    BraceFree "inset 4px 0px calc(4 * 2)px -4px rgb(16, 32, 48)" ∧
    BraceFree "rgba(16, 32, 48, 0.5)" := by
  have tidyUnder : TidyUnder panels none := by
    intro active actives
    cases actives
    decide
  obtain ⟨resolves, values, -, properties, -⟩ := static_resolution_complete panels none tidyUnder
  refine ⟨resolves "solid {wide} {lost}" (by decide) _ (by decide +kernel),
    values halo (by decide) true _ (by decide +kernel), ?_⟩
  have expanded : outcome panels ((panels.substitution .static none).properties panel
      [("fill", "rgba({ink}, 0.5)")]) = .ok [("fill", "rgba(16, 32, 48, 0.5)")] := by
    decide +kernel
  obtain ⟨text, there, free⟩ := properties panel _ _ rfl expanded "fill" _ rfl (by decide)
  exact Option.some.inj there ▸ free

/-- Tokens that are braces by themselves. -/
def brackets : Library :=
  .ofTokens [.spacing "s.open" "open" "\x7b", .spacing "s.close" "close" "\x7d"] (by decide)

-- Two references to them put a reference together, in a text that is tidy itself.
example : Tidy "{open}gap{close}" ∧
    outcome brackets ((brackets.substitution .static none).resolve "{open}gap{close}") =
      .ok "{gap}" :=
  ⟨by decide, by decide +kernel⟩

end DesignTokens
