import DesignTokens.Command
import DesignTokens.Proofs.Rendering.Documents
import DesignTokens.Proofs.Resolution.Edges

/-!
# What is reported and what is written

A name is looked up in the order of the active tokens and stands for the first token that has it. A
document is written in the same order and keeps the last. So a name that several active tokens share
is reported with the value of the first and written with the value of the last
(`written_value_of_last`), and the two agree for a name that one active token has.
-/

namespace DesignTokens

open Inquiry

variable {library : Library}

namespace Rendering

/-- The name of a theme's file. -/
def fileName (format : Format) (theme : Theme) : String :=
  theme.fileStem ++ "." ++ format.name

theorem outcome_themeFile_eq_ok {format : Format} {scope : ThemeScope} {theme : Theme}
    {file : String × String} (there : theme ∈ library.themes)
    (computed : outcome library (themeFile library format scope theme) = .ok file) :
    file.1 = fileName format theme ∧
      outcome library (themeText library format scope theme (library.tokensUnder theme)) =
        .ok file.2 := by
  obtain ⟨active, actives, computed⟩ := outcome_bind_eq_ok.1 computed
  rw [outcome_activeTokens, Library.activeTokens_of_mem there] at actives
  cases actives
  obtain ⟨text, rendered, last⟩ := outcome_bind_eq_ok.1 computed
  cases last
  exact ⟨rfl, rendered⟩

/-- The files of some themes, in their order. -/
theorem files_of_themes {format : Format} {scope : ThemeScope} {themes : List Theme}
    {written : Entries String} (known : themes ⊆ library.themes)
    (each : List.Forall₂ (fun theme file =>
      outcome library (themeFile library format scope theme) = .ok file) themes written) :
    written.keys = themes.map (fileName format) ∧
      ∀ theme ∈ themes, ∃ text, (fileName format theme, text) ∈ written ∧
        outcome library (themeText library format scope theme (library.tokensUnder theme)) =
          .ok text := by
  induction each with
  | nil => exact ⟨rfl, fun _ there => absurd there List.not_mem_nil⟩
  | @cons first file themes written here behind ih =>
    obtain ⟨name, text⟩ := file
    obtain ⟨rfl, computed⟩ := outcome_themeFile_eq_ok (known List.mem_cons_self) here
    obtain ⟨keys, others⟩ := ih (List.subset_of_cons_subset known)
    refine ⟨congrArg (fileName format first :: ·) keys, fun theme there => ?_⟩
    rcases List.mem_cons.1 there with rfl | there
    · exact ⟨text, List.mem_cons_self, computed⟩
    · obtain ⟨text, found, computed⟩ := others theme there
      exact ⟨text, List.mem_cons_of_mem _ found, computed⟩

theorem fileName_eq_iff {format : Format} {theme other : Theme} :
    fileName format theme = fileName format other ↔ theme.fileStem = other.fileStem := by
  unfold fileName
  rw [String.append_left_inj, String.append_left_inj]

theorem nodup_fileNames_iff {format : Format} {themes : List Theme} :
    (themes.map (fileName format)).Nodup ↔ (themes.map (·.fileStem)).Nodup := by
  unfold List.Nodup
  simp only [List.pairwise_map, ne_eq, fileName_eq_iff]

/-- The files are writes of one theme after another. -/
theorem exists_writes_of_files {format : Format} {scope : ThemeScope} {written : Entries String}
    (themes : library.themes ≠ [])
    (rendered : outcome library (files library format scope) = .ok written) :
    ∃ pairs, written = Entries.ofList pairs ∧
      List.Forall₂ (fun theme file =>
        outcome library (themeFile library format scope theme) = .ok file)
        library.themes pairs := by
  unfold files at rendered
  rw [if_neg (by simpa using themes)] at rendered
  obtain ⟨pairs, traversed, last⟩ := outcome_bind_eq_ok.1 rendered
  cases last
  exact ⟨pairs, rfl, outcome_mapM_eq_ok traversed⟩

/-- A theme has a file of its own when no two themes have one name for their files. -/
theorem exists_file_of_theme {format : Format} {scope : ThemeScope} {written : Entries String}
    (rendered : outcome library (files library format scope) = .ok written)
    (stems : (library.themes.map (·.fileStem)).Nodup) {theme : Theme}
    (there : theme ∈ library.themes) :
    ∃ text, written.get? (fileName format theme) = some text ∧
      outcome library (themeText library format scope theme (library.tokensUnder theme)) =
        .ok text := by
  obtain ⟨pairs, rfl, each⟩ := exists_writes_of_files (List.ne_nil_of_mem there) rendered
  obtain ⟨keys, each⟩ := files_of_themes (List.Subset.refl _) each
  have distinct : Entries.keys pairs |>.Nodup := by
    rw [keys]
    exact nodup_fileNames_iff.2 stems
  obtain ⟨text, found, computed⟩ := each theme there
  rw [Entries.ofList_of_nodup distinct]
  exact ⟨text, Entries.get?_of_mem distinct found, computed⟩

end Rendering

/-! ## A place of its own -/

/-- The place of a name is neither above nor below that of an active token, and no active bundle
has the name. -/
structure OwnPlace (active : List Token) (name : String) : Prop where
  above : ∀ u ∈ active, placeOf u.name <+: placeOf name → placeOf u.name = placeOf name
  below : ∀ u ∈ active, placeOf name <+: placeOf u.name → placeOf u.name = placeOf name
  single : ∀ u ∈ active, u.name = name → u.isBundle = false

theorem OwnPlace.apart {active : List Token} {name : String} (own : OwnPlace active name)
    {u : Token} (there : u ∈ active) (other : u.name ≠ name) :
    Apart (placeOf u.name) (placeOf name) :=
  ⟨fun leads => other (placeOf_injective (own.above u there leads)),
    fun leads => other (placeOf_injective (own.below u there leads))⟩

/-- Behind the last item with a property no item has it. -/
theorem exists_append_of_getLast?_filter {α : Type} {p : α → Bool} {items : List α} {last : α}
    (isLast : (items.filter p).getLast? = some last) :
    p last = true ∧
      ∃ before after, items = before ++ last :: after ∧ ∀ u ∈ after, p u = false := by
  rw [List.getLast?_filter] at isLast
  obtain ⟨holds, after, before, reversed, others⟩ := List.find?_eq_some_iff_append.1 isLast
  refine ⟨holds, before.reverse, after.reverse, ?_, fun u there => ?_⟩
  · rw [← List.reverse_reverse items, reversed]
    simp
  · simpa using others u (List.mem_reverse.1 there)

namespace Rendering

variable {scope : ThemeScope} {written : Entries String} {theme : Theme} {name : String}

/-- In the document of a theme, the text at a place of its own is the value of the last active token
that has the name. -/
theorem exists_text_of_last {last : Token}
    (rendered : outcome library (files library .json scope) = .ok written)
    (stems : (library.themes.map (·.fileStem)).Nodup) (there : theme ∈ library.themes)
    (own : OwnPlace (library.tokensUnder theme) name)
    (isLast : ((library.tokensUnder theme).filter (·.name = name)).getLast? = some last) :
    ∃ text document value, written.get? (theme.fileStem ++ ".json") = some text ∧
      Json.read text.toList = .ok document ∧
      outcome library ((library.substitution .static (some theme.name)).cssValue last) = .ok value ∧
      document.at? (placeOf name) = some (.text value) := by
  obtain ⟨text, found, computed⟩ := exists_file_of_theme rendered stems there
  obtain ⟨document, placed, read⟩ := Document.exists_document_of_ofTokens computed
  obtain ⟨named, before, after, split, others⟩ := exists_append_of_getLast?_filter isLast
  have named : last.name = name := of_decide_eq_true named
  have active : last ∈ library.tokensUnder theme :=
    split ▸ List.mem_append_right _ List.mem_cons_self
  -- Behind the last token with the name, every place is another one and apart from this one.
  have apart : ∀ v ∈ after, Apart (placeOf v.name) (placeOf last.name) := by
    intro v behind
    have active : v ∈ library.tokensUnder theme :=
      split ▸ List.mem_append_right _ (List.mem_cons_of_mem _ behind)
    exact named ▸ own.apart active (of_decide_eq_false (others v behind))
  rw [split] at placed
  obtain ⟨value, written, stands⟩ :=
    Document.at?_addTokens_last (own.single last active named) apart placed
  have fileName : fileName .json theme = theme.fileStem ++ ".json" := by
    unfold fileName
    rw [String.append_assoc]
    rfl
  exact ⟨text, .table document, value, fileName ▸ found, read, written, named ▸ stands⟩

/-- Every active token with a single value has one when the documents are rendered. -/
theorem exists_cssValue_of_active {u : Token}
    (rendered : outcome library (files library .json scope) = .ok written)
    (stems : (library.themes.map (·.fileStem)).Nodup) (there : theme ∈ library.themes)
    (active : u ∈ library.tokensUnder theme) (single : u.isBundle = false) :
    ∃ value, outcome library ((library.substitution .static (some theme.name)).cssValue u) =
      .ok value := by
  obtain ⟨text, _, computed⟩ := exists_file_of_theme rendered stems there
  obtain ⟨document, placed, _⟩ := Document.exists_document_of_ofTokens computed
  exact Document.exists_cssValue_of_addTokens placed active single

end Rendering

/-- A name that stands for a token with a single value is reported with that value. -/
theorem outcome_resolution {theme : Option String} {name text : String} {u : Token}
    (found : library.find theme name = .ok (some u)) (single : u.isBundle = false)
    (computed : outcome library ((library.substitution .static theme).cssValue u) = .ok text) :
    outcome library (Command.resolution library name theme .static) = .ok (some [text]) := by
  refine outcome_bind_eq_ok.2 ⟨some u, ?_, ?_⟩
  · rw [outcome_named, found]
  · cases form : u.value with
    | bundle bundle => simp [Token.isBundle, form, TokenValue.form] at single
    | plain raw =>
      simp only [form]
      exact outcome_bind_eq_ok.2 ⟨text, computed, rfl⟩
    | shadow layers =>
      simp only [form]
      exact outcome_bind_eq_ok.2 ⟨text, computed, rfl⟩

/-- The document of a theme holds, at a place of its own, the value of the last active token that
has the name. The name stands for the first of them: in what is reported, and in every reference. Where
names are strict, a name that several active tokens have is refused. What is reported is what is
written when one active token has the name. -/
theorem written_value_of_last (library : Library) (scope : ThemeScope) {written : Entries String}
    (rendered : outcome library (Rendering.files library .json scope) = .ok written)
    (stems : (library.themes.map (·.fileStem)).Nodup) {theme : Theme}
    (there : theme ∈ library.themes) {name : String}
    (named : ∃ u ∈ library.tokensUnder theme, u.name = name)
    (own : OwnPlace (library.tokensUnder theme) name) :
    let s := library.substitution .static (some theme.name)
    let sharing := (library.tokensUnder theme).filter (·.name = name)
    ∃ text document first last reported value,
      written.get? (theme.fileStem ++ ".json") = some text ∧
      Json.read text.toList = .ok document ∧
      sharing.head? = some first ∧ sharing.getLast? = some last ∧
      outcome library (s.cssValue first) = .ok reported ∧
      outcome library (s.cssValue last) = .ok value ∧
      document.at? (placeOf name) = some (.text value) ∧
      (library.strictNames = false ∨ sharing.length = 1 →
        library.find (some theme.name) name = .ok (some first) ∧
        outcome library (Command.resolution library name (some theme.name) .static) =
          .ok (some [reported]) ∧
        ∀ compute, outcome library (s.reference compute name) = outcome library (compute first)) ∧
      (library.strictNames = true → sharing.length ≠ 1 →
        library.find (some theme.name) name =
          .error (.resolve (.ambiguous name (sharing.map (·.id))))) ∧
      (sharing.length = 1 → value = reported) := by
  intro s sharing
  have actives := Library.activeTokens_of_mem there
  obtain ⟨u, active, hasName⟩ := named
  have shares : u ∈ sharing := List.mem_filter.2 ⟨active, decide_eq_true hasName⟩
  obtain ⟨first, others, split⟩ := List.exists_cons_of_ne_nil (List.ne_nil_of_mem shares)
  obtain ⟨last, isLast⟩ : ∃ last, sharing.getLast? = some last := by
    rw [split, List.getLast?_cons]
    exact ⟨_, rfl⟩
  have firstShares : first ∈ sharing := split ▸ List.mem_cons_self
  obtain ⟨firstActive, firstNamed⟩ := List.mem_filter.1 firstShares
  have single := own.single first firstActive (of_decide_eq_true firstNamed)
  obtain ⟨reported, computed⟩ :=
    Rendering.exists_cssValue_of_active rendered stems there firstActive single
  obtain ⟨text, document, value, file, read, lastComputed, stands⟩ :=
    Rendering.exists_text_of_last rendered stems there own isLast
  refine ⟨text, document, first, last, reported, value, file, read, by rw [split]; rfl, isLast,
    computed, lastComputed, stands, ?_, ?_, ?_⟩
  · -- The name stands for the first token unless strict names refuse it.
    intro lenient
    have lenient : library.strictNames = false ∨ others = [] := by
      rw [split] at lenient
      exact lenient.imp_right fun one => List.length_eq_zero_iff.1 (Nat.succ.inj one)
    have found := Library.find_of_sharing actives split lenient
    refine ⟨found, outcome_resolution found single computed, fun compute => ?_⟩
    rw [outcome_reference Library.substitution_method, Library.substitution_theme, found]
    simp [single]
  · intro strict several
    have several : others ≠ [] := by
      rintro rfl
      exact several (by rw [split]; rfl)
    rw [split]
    exact Library.find_of_several actives split strict several
  · -- With one token the first is the last, and its value has been computed once.
    intro one
    rw [split] at one isLast
    cases List.length_eq_zero_iff.1 (Nat.succ.inj one)
    cases isLast
    exact Except.ok.inj (lastComputed.symm.trans computed)

/-! ## A name that two sets share -/

/-- A theme that uses two sets. -/
def bothSets : Theme := .ofSets "T" [("a", .source), ("b", .enabled)]

/-- Two sets with a token of one name each, and a theme that uses both. -/
def twoSets : Library where
  tokens := [.spacing "a.x" "x" "1px", .spacing "b.x" "x" "2px"]
  sets := [⟨"a", ["a.x"]⟩, ⟨"b", ["b.x"]⟩]
  themes := [bothSets]
  strictNames := false
  idsDistinct := by decide
  setsDistinct := by decide
  themesDistinct := by decide
  listed := by decide

namespace twoSets

/-- The token of the first set. -/
def first : Token := .spacing "a.x" "x" "1px"

/-- The token of the second set. -/
def second : Token := .spacing "b.x" "x" "2px"

theorem rendered :
    outcome twoSets (Rendering.files twoSets .json .root) =
      .ok [("T.json", "\x7b\n  \"x\": \"2px\"\n\x7d\n")] := by
  decide +kernel

theorem stems : (twoSets.themes.map (·.fileStem)).Nodup :=
  List.nodup_singleton _

theorem sharing : (twoSets.tokensUnder bothSets).filter (·.name = "x") = [first, second] := by
  decide +kernel

theorem named : ∃ u ∈ twoSets.tokensUnder bothSets, u.name = "x" := by
  have there : first ∈ (twoSets.tokensUnder bothSets).filter (·.name = "x") :=
    sharing ▸ List.mem_cons_self
  exact ⟨first, (List.mem_filter.1 there).1, rfl⟩

theorem ownPlace : OwnPlace (twoSets.tokensUnder bothSets) "x" := by
  have named : ∀ u ∈ twoSets.tokensUnder bothSets, u.name = "x" ∧ u.isBundle = false := by
    decide +kernel
  constructor
  · intro u there _
    rw [(named u there).1]
  · intro u there _
    rw [(named u there).1]
  · exact fun u there _ => (named u there).2

theorem value_first :
    outcome twoSets ((twoSets.substitution .static (some "T")).cssValue first) = .ok "1px" := by
  decide +kernel

theorem value_second :
    outcome twoSets ((twoSets.substitution .static (some "T")).cssValue second) = .ok "2px" := by
  decide +kernel

end twoSets

theorem written_value_of_twoSets :
    ∃ text document, text = "\x7b\n  \"x\": \"2px\"\n\x7d\n" ∧
      Json.read text.toList = .ok document ∧ document.at? (placeOf "x") = some (.text "2px") ∧
      outcome twoSets (Command.resolution twoSets "x" (some "T") .static) = .ok (some ["1px"]) := by
  obtain ⟨text, document, first, last, reported, value, file, read, isFirst, isLast, computed,
    lastComputed, stands, finds, -⟩ := written_value_of_last twoSets .root twoSets.rendered
      twoSets.stems List.mem_cons_self twoSets.named twoSets.ownPlace
  rw [twoSets.sharing] at isFirst isLast
  cases isFirst
  cases isLast
  cases twoSets.value_first.symm.trans computed
  cases twoSets.value_second.symm.trans lastComputed
  exact ⟨text, document, (Option.some.inj file).symm, read, stands, (finds (.inl rfl)).2.1⟩

/-- Not every value that is reported is written: of two tokens that share a name the first is
reported and the second is written. -/
theorem reported_value_not_always_written :
    ¬ ∀ (library : Library) (scope : ThemeScope) (written : Entries String),
      outcome library (Rendering.files library .json scope) = .ok written →
      (library.themes.map (·.fileStem)).Nodup → ∀ theme ∈ library.themes, ∀ name,
      (∃ u ∈ library.tokensUnder theme, u.name = name) →
      OwnPlace (library.tokensUnder theme) name →
      ∃ text document u value, written.get? (theme.fileStem ++ ".json") = some text ∧
        Json.read text.toList = .ok document ∧
        library.find (some theme.name) name = .ok (some u) ∧
        outcome library ((library.substitution .static (some theme.name)).cssValue u) =
          .ok value ∧
        document.at? (placeOf name) = some (.text value) := by
  intro agrees
  have there : bothSets ∈ twoSets.themes := List.mem_cons_self
  obtain ⟨text, document, u, value, file, read, found, computed, stands⟩ := agrees twoSets .root _
    twoSets.rendered twoSets.stems bothSets there "x" twoSets.named twoSets.ownPlace
  have isLast : ((twoSets.tokensUnder bothSets).filter (·.name = "x")).getLast? =
      some twoSets.second := by
    rw [twoSets.sharing]
    rfl
  obtain ⟨text', document', value', file', read', computed', stands'⟩ :=
    Rendering.exists_text_of_last twoSets.rendered twoSets.stems there twoSets.ownPlace isLast
  cases Library.find_of_sharing (Library.activeTokens_of_mem there) twoSets.sharing (.inl rfl)
    |>.symm.trans found
  cases file.symm.trans file'
  cases read.symm.trans read'
  cases twoSets.value_first.symm.trans computed
  cases twoSets.value_second.symm.trans computed'
  have same : "1px" = "2px" := Data.text.inj (Option.some.inj (stands.symm.trans stands'))
  exact absurd same (by decide)

end DesignTokens
