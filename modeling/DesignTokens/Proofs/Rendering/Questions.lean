import DesignTokens.Proofs.Resolution.Questions
import DesignTokens.Query

/-!
# What rendering asks

The file of a theme asks under this theme, the file of a set asks without a theme. So every question
to a library has its themes in force, `Query.inForce`, and is worked out under them
(`Query.asksUnder_inquiry`).
-/

namespace DesignTokens

open Inquiry

variable {library : Library} {s : Substitution} {themes : Option String → Prop}

/-! ## The parts of a file -/

theorem Leaf.asksUnder_ofToken (asked : themes s.theme) (u : Token) :
    (Leaf.ofToken s u).AsksUnder themes := by
  unfold Leaf.ofToken
  cases u.value with
  | bundle bundle => exact (asksUnder_properties asked u bundle).bind fun _ => asksUnder_pure _
  | plain raw => exact (asksUnder_cssValue asked u).bind fun _ => asksUnder_pure _
  | shadow layers => exact (asksUnder_cssValue asked u).bind fun _ => asksUnder_pure _

/-- What a token adds to a stylesheet, from what it puts into a document. -/
def Contribution.ofLeaf (name : String) : Leaf → Contribution
  | .text value => .customProperty ⟨kebab name, value⟩
  | .properties entries =>
    .rule ⟨kebab name, entries.map fun (name, value) => ⟨kebab name, value⟩⟩

/-- Stylesheets and documents are made of the same values. -/
theorem Contribution.ofToken_eq (s : Substitution) (u : Token) :
    Contribution.ofToken s u = do return Contribution.ofLeaf u.name (← Leaf.ofToken s u) := by
  unfold Contribution.ofToken Leaf.ofToken
  cases u.value with
  | bundle bundle => simp [Contribution.ofLeaf]
  | plain raw => simp [Contribution.ofLeaf]
  | shadow layers => simp [Contribution.ofLeaf]

theorem Stylesheet.asksUnder_ofTokens (asked : themes s.theme) (selector : String)
    (tokens : List Token) : (Stylesheet.ofTokens s selector tokens).AsksUnder themes := by
  have each : (tokens.mapM (Contribution.ofToken s)).AsksUnder themes := by
    refine asksUnder_mapM fun u _ => ?_
    rw [Contribution.ofToken_eq]
    exact (Leaf.asksUnder_ofToken asked u).bind fun _ => asksUnder_pure _
  exact each.bind fun _ => asksUnder_pure _

namespace Document

theorem overwrite_clear {path : List String} {key : String} {value : Data} {table : Entries Data} :
    ∀ warning ∈ (overwrite path key value table).2, warning.isSharedName = false := by
  intro warning left
  unfold overwrite at left
  split at left
  · rw [List.mem_singleton.1 left]
    rfl
  · cases left

theorem addTexts_clear {path : List String} {texts : List (String × String)}
    {table : Entries Data} :
    ∀ warning ∈ (addTexts path texts table).2, warning.isSharedName = false := by
  unfold addTexts
  refine List.foldlRecOn (motive := fun placed : Placed =>
    ∀ warning ∈ placed.2, warning.isSharedName = false) texts _ ?_ ?_
  · exact fun _ left => absurd left List.not_mem_nil
  · intro placed before text _ warning left
    rcases List.mem_append.1 left with left | left
    · exact before warning left
    · exact overwrite_clear warning left

theorem place_clear {leaf : Leaf} (rest : List String) {path : List String} {table : Entries Data}
    {key : String} : ∀ warning ∈ (place path leaf table key rest).2,
      warning.isSharedName = false := by
  induction rest generalizing path table key with
  | nil =>
    unfold place
    split
    · exact addTexts_clear
    · exact overwrite_clear
  | cons next rest ih =>
    unfold place
    split
    · exact ih
    · exact overwrite_clear

/-- Placing a leaf warns of lost values and of nothing else. -/
theorem placeNamed_clear {table : Entries Data} {name : String} {leaf : Leaf} :
    ∀ warning ∈ (placeNamed table name leaf).2, warning.isSharedName = false := by
  unfold placeNamed
  split
  · exact fun _ left => absurd left List.not_mem_nil
  · exact place_clear _

theorem asksUnder_leaveAll {warnings : List Warning}
    (clear : ∀ warning ∈ warnings, warning.isSharedName = false) :
    (leaveAll warnings).AsksUnder themes := by
  induction warnings with
  | nil => exact asksUnder_pure _
  | cons warning rest ih =>
    refine .warn (clear warning List.mem_cons_self) (ih fun other there => ?_)
    exact clear other (List.mem_cons_of_mem _ there)

theorem asksUnder_addTokens (asked : themes s.theme) (tokens : List Token) (table : Entries Data) :
    (addTokens s table tokens).AsksUnder themes := by
  induction tokens generalizing table with
  | nil => exact asksUnder_pure _
  | cons u rest ih =>
    refine (Leaf.asksUnder_ofToken asked u).bind fun leaf => ?_
    exact (asksUnder_leaveAll placeNamed_clear).bind fun _ => ih _

theorem asksUnder_ofTokens (asked : themes s.theme) (tokens : List Token) :
    (Document.ofTokens s tokens).AsksUnder themes :=
  (asksUnder_addTokens asked tokens []).bind fun _ => asksUnder_pure _

end Document

/-! ## Files -/

namespace Rendering

variable {format : Format} {scope : ThemeScope}

theorem asksUnder_themeText {theme : Theme} (asked : themes (some theme.name))
    (tokens : List Token) : (themeText library format scope theme tokens).AsksUnder themes := by
  cases format with
  | css => exact (Stylesheet.asksUnder_ofTokens asked _ tokens).bind fun _ => asksUnder_pure _
  | json => exact Document.asksUnder_ofTokens asked tokens

/-- The file of a theme asks under this theme. -/
theorem asksUnder_themeFile {theme : Theme} (asked : themes (some theme.name)) :
    (themeFile library format scope theme).AsksUnder themes := by
  refine AsksUnder.bind (.active asked fun tokens => .done tokens) fun tokens => ?_
  exact (asksUnder_themeText asked tokens).bind fun _ => asksUnder_pure _

/-- The file of a set asks without a theme. -/
theorem asksUnder_setFile {set : TokenSet} (asked : themes none) :
    (setFile library format set).AsksUnder themes := by
  refine AsksUnder.bind ?_ fun _ => asksUnder_pure _
  unfold setText
  cases format with
  | css => exact (Stylesheet.asksUnder_ofTokens asked _ _).bind fun _ => asksUnder_pure _
  | json => exact Document.asksUnder_ofTokens asked _

/-- The themes under which a library is rendered: each of its own, or none when it has none. -/
def inForce (library : Library) : List (Option String) :=
  if library.themes.isEmpty then [none] else library.themes.map fun theme => some theme.name

theorem asksUnder_files (library : Library) (format : Format) (scope : ThemeScope) :
    (files library format scope).AsksUnder (· ∈ inForce library) := by
  unfold files inForce
  by_cases none : library.themes.isEmpty = true
  · rw [if_pos none, if_pos none]
    refine AsksUnder.bind (asksUnder_mapM fun set _ => ?_) fun _ => asksUnder_pure _
    exact asksUnder_setFile List.mem_cons_self
  · rw [if_neg none, if_neg none]
    refine AsksUnder.bind (asksUnder_mapM fun theme there => ?_) fun _ => asksUnder_pure _
    exact asksUnder_themeFile (List.mem_map_of_mem there)

end Rendering

/-! ## Questions -/

namespace Query

/-- The themes under which a question looks at active tokens. -/
def inForce (library : Library) : Query → List (Option String)
  | .named _ under => [under]
  | .active under => [under]
  | .shared under => [under]
  | .resolve _ _ under => [under]
  | .value _ _ _ under => [under]
  | .cssValue _ _ under => [under]
  | .properties _ _ under => [under]
  | .render _ _ => Rendering.inForce library
  | .everything => []
  | .token _ => []
  | .theme _ => []
  | .tokenSet _ => []
  | .tokensInSet _ => []

theorem asksUnder_lookup (id : String) : (lift (library.lookup id)).AsksUnder themes := by
  refine asksUnder_lift fun failure failed => ?_
  unfold Library.lookup at failed
  split at failed <;> cases failed
  rfl

theorem asksUnder_theme (name : String) : (lift (library.theme name)).AsksUnder themes :=
  asksUnder_lift fun _ failed => isAmbiguous_of_theme failed

theorem isAmbiguous_of_tokenSet {name : String} {failure : Failure}
    (failed : library.tokenSet name = .error failure) : failure.isAmbiguous = false := by
  unfold Library.tokenSet at failed
  split at failed <;> cases failed
  rfl

theorem asksUnder_format (name : String) : (lift (Format.ofName name)).AsksUnder themes := by
  refine asksUnder_lift fun failure failed => ?_
  unfold Format.ofName at failed
  split at failed <;> cases failed
  rfl

/-- A question is worked out under its themes in force. -/
theorem asksUnder_inquiry (library : Library) (query : Query) :
    (query.inquiry library).AsksUnder (· ∈ query.inForce library) := by
  cases query with
  | everything => exact asksUnder_pure _
  | token id => exact (asksUnder_lookup id).bind fun _ => asksUnder_pure _
  | named name under =>
    exact AsksUnder.bind (.find List.mem_cons_self fun _ => .done _) fun _ => asksUnder_pure _
  | active under =>
    exact AsksUnder.bind (.active List.mem_cons_self fun _ => .done _) fun _ => asksUnder_pure _
  | shared under =>
    exact AsksUnder.bind (.shared List.mem_cons_self fun _ => .done _) fun _ => asksUnder_pure _
  | theme name => exact (asksUnder_theme name).bind fun _ => asksUnder_pure _
  | tokenSet name =>
    refine AsksUnder.bind (asksUnder_lift fun _ failed => ?_) fun _ => asksUnder_pure _
    exact isAmbiguous_of_tokenSet failed
  | tokensInSet name =>
    refine AsksUnder.bind (asksUnder_lift fun _ failed => ?_) fun _ => asksUnder_pure _
    exact isAmbiguous_of_tokenSet (Except.map_eq_error.1 failed)
  | resolve text method under =>
    have asked : under ∈ inForce library (.resolve text method under) := List.mem_cons_self
    exact AsksUnder.bind (asksUnder_resolve asked text) fun _ => asksUnder_pure _
  | value id method nested under =>
    have asked : under ∈ inForce library (.value id method nested under) := List.mem_cons_self
    refine (asksUnder_lookup id).bind fun u => ?_
    exact AsksUnder.bind (asksUnder_value asked nested u) fun _ => asksUnder_pure _
  | cssValue id method under =>
    have asked : under ∈ inForce library (.cssValue id method under) := List.mem_cons_self
    refine (asksUnder_lookup id).bind fun u => ?_
    exact AsksUnder.bind (asksUnder_cssValue asked u) fun _ => asksUnder_pure _
  | properties id method under =>
    have asked : under ∈ inForce library (.properties id method under) := List.mem_cons_self
    refine (asksUnder_lookup id).bind fun u => ?_
    cases u.value with
    | bundle bundle =>
      exact AsksUnder.bind (asksUnder_properties asked u bundle) fun _ => asksUnder_pure _
    | plain raw => exact asksUnder_pure _
    | shadow layers => exact asksUnder_pure _
  | render name scope =>
    refine (asksUnder_format name).bind fun format => ?_
    exact (Rendering.asksUnder_files library format scope).bind fun _ => asksUnder_pure _

end Query

end DesignTokens
