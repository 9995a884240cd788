import DesignTokens.Proofs.Rendering.Failures
import DesignTokens.Proofs.Session.History
import DesignTokens.Proofs.Source.Reading
import DesignTokens.Proofs.Source.Selections

/-!
# What a theme sees

Under a theme of a library that is loaded, the active tokens are those of the sets that the theme's
definition gives a status other than disabled, the source sets first, and a name stands for the
first of them that has it (`ThemeView`). Whatever was asked before, no set and no token is missed
(`theme_visibility`).
-/

namespace DesignTokens

open Inquiry

/-! ## Names -/

namespace Library

variable {library : Library} {theme : Option String} {active : List Token} {name : String}

/-- Where names may be shared, a name stands for the first active token that has it. -/
theorem find_of_lenient (lenient : library.strictNames = false)
    (actives : library.activeTokens theme = .ok active) :
    library.find theme name = .ok (active.find? (·.name = name)) := by
  rw [← List.head?_filter]
  cases sharing : active.filter (·.name = name) with
  | nil =>
    rw [find_of_nameIndex (nameIndex_of_active actives)]
    unfold NameIndex.find
    rw [NameIndex.matching_of, sharing]
    rfl
  | cons first others => exact find_of_sharing actives sharing (.inl lenient)

/-- A name stands for nothing exactly when no active token has it. -/
theorem find_eq_none_iff (actives : library.activeTokens theme = .ok active) :
    library.find theme name = .ok none ↔ ∀ token ∈ active, token.name ≠ name := by
  constructor
  · intro finds
    obtain ⟨_, actives', none⟩ := find?_of_find finds
    cases actives.symm.trans actives'
    intro token there same
    exact List.find?_eq_none.1 none token there (decide_eq_true same)
  · intro apart
    have sharing : active.filter (·.name = name) = [] := by
      refine List.filter_eq_nil_iff.2 fun token there => ?_
      rw [decide_eq_true_iff]
      exact apart token there
    rw [find_of_nameIndex (nameIndex_of_active actives)]
    unfold NameIndex.find
    rw [NameIndex.matching_of, sharing]

end Library

/-! ## Views -/

/-- What a theme sees that gives sets the statuses `selected`: the tokens `active`, in every
session, whatever was asked before. -/
structure ThemeView (library : Library) (theme : Theme) (selected : Entries Data)
    (active : List Token) : Prop where
  sourceSets : theme.sourceSets = library.setsGiven Use.source.word selected
  enabledSets : theme.enabledSets = library.setsGiven Use.enabled.word selected
  inOrder : ∃ sources enabled, theme.sourceSets.mapM library.tokensInSet = .ok sources ∧
    theme.enabledSets.mapM library.tokensInSet = .ok enabled ∧
    active = sources.flatten ++ enabled.flatten
  distinct : (active.map (·.id)).Nodup
  known : active.Subperm library.tokens
  /-- A set is seen as a whole or not at all. -/
  exactly : ∀ set ∈ library.sets, ∀ token ∈ library.tokensOf set,
    (token ∈ active ↔
      ∃ status, selected.get? set.name = some status ∧ status.text? ≠ some disabledWord)
  answered : ∀ before,
    ((Session.after library before).activeTokens (some theme.name)).1.outcome = .ok active
  first : library.strictNames = false → ∀ before name,
    ((Session.after library before).run (named (some theme.name) name)).1.outcome =
      .ok (active.find? (·.name = name))
  nothing : ∀ before name,
    (((Session.after library before).run (named (some theme.name) name)).1.outcome = .ok none ↔
      ∀ token ∈ active, token.name ≠ name)

variable {library : Library}

theorem Session.outcome_activeTokens_after (before : List Query) (theme : Option String) :
    ((after library before).activeTokens theme).1.outcome = library.activeTokens theme := by
  obtain ⟨_, worked, -⟩ := (coherent_after library before).activeTokens theme
  rw [worked]
  rfl

theorem Session.outcome_named_after (before : List Query) (theme : Option String) (name : String) :
    ((after library before).run (named theme name)).1.outcome = library.find theme name := by
  have asks : (named theme name).AsksUnder fun _ => True := .find trivial fun _ => .done _
  rw [(coherent_after library before).outcome_run asks, outcome_named]

theorem activeSets_known {theme : Theme} {selected : Entries Data}
    (sets : theme.sets = selected.filterMap (Source.chosen? (library.sets.map (·.name))))
    (use : Use) : theme.setsUsed use ⊆ library.sets.map (·.name) := by
  intro name there
  rw [Source.setsUsed_eq sets, Library.setsGiven] at there
  obtain ⟨entry, given, rfl⟩ := List.mem_map.1 there
  obtain ⟨-, both⟩ := List.mem_filter.1 given
  rw [Bool.and_eq_true, Source.isSome_set?, List.contains_iff_mem] at both
  exact both.2

theorem ThemeView.of_selection {theme : Theme} {selected : Entries Data}
    (partitioned : library.Partitioned) (there : theme ∈ library.themes)
    (sets : theme.sets = selected.filterMap (Source.chosen? (library.sets.map (·.name))))
    (distinct : selected.keys.Nodup)
    (each : ∀ entry ∈ selected, ∃ use, Use.ofData entry.2 = .ok use) :
    ThemeView library theme selected (library.tokensUnder theme) where
  sourceSets := Source.setsUsed_eq sets .source
  enabledSets := Source.setsUsed_eq sets .enabled
  inOrder := ⟨_, _, Library.mapM_tokensInSet (activeSets_known sets .source),
    Library.mapM_tokensInSet (activeSets_known sets .enabled), Library.tokensUnder_eq theme⟩
  distinct := partitioned.nodup_tokensUnder theme
  known := partitioned.subperm_tokensUnder theme
  exactly set known token inSet := by
    rw [partitioned.mem_tokensUnder_iff known inSet]
    exact Source.mem_activeSets_iff sets distinct each known
  answered before := by
    rw [Session.outcome_activeTokens_after, Library.activeTokens_of_mem there]
  first lenient before name := by
    rw [Session.outcome_named_after]
    exact Library.find_of_lenient lenient (Library.activeTokens_of_mem there)
  nothing before name := by
    rw [Session.outcome_named_after]
    exact Library.find_eq_none_iff (Library.activeTokens_of_mem there)

/-- In a library that is loaded, the sets are the tokens of the library one set after another, each
set finds all tokens that it lists, rendering fails for the reasons of a value only, and each theme
sees what its definition in the input says. -/
theorem theme_visibility {disk : Disk} {entry : Path} {strictNames : Bool}
    {warnings : List Warning}
    (loaded : Source.load disk entry strictNames = ⟨warnings, .ok library⟩) :
    (∀ before, ((Session.after library before).activeTokens none).1.outcome =
      .ok library.tokens) ∧
    library.sets.flatMap library.tokensOf = library.tokens ∧
    (∀ set ∈ library.sets, library.tokensInSet set.name = .ok (library.tokensOf set) ∧
      (library.tokensOf set).map (·.id) = set.ids) ∧
    (∀ before format scope failure,
      ((Session.after library before).run (Rendering.files library format scope)).1.outcome =
        .error failure → failure.isOfValue = true) ∧
    ∃ raw, Source.read disk entry = .ok raw ∧
      ∀ theme ∈ library.themes, ∃ selected active, raw.Defines theme.name selected ∧
        ThemeView library theme selected active := by
  obtain ⟨raw, themes, found, partitioned, parsed, kept⟩ := Source.exists_parts_of_load loaded
  refine ⟨fun before => ?_, partitioned.flatMap_tokensOf,
    fun _ there => Library.tokensInSet_of_mem there, ?_, raw, found, ?_⟩
  · rw [Session.outcome_activeTokens_after]
    rfl
  · intro before format scope failure failed
    have asks := Rendering.asksUnder_files library format scope
    rw [(Session.coherent_after library before).outcome_run asks] at failed
    exact Rendering.failsOnly_files failure failed
  · intro theme there
    obtain ⟨selected, defines, distinct, each, sets⟩ :=
      Source.exists_selection_of_load (Source.distinct_of_read found).2 parsed (kept there)
    exact ⟨selected, _, defines, .of_selection partitioned there sets distinct each⟩

/-! ## One theme -/

/-- A theme with an enabled set, a source set, a disabled set, and a set that is not there. -/
def statusesText : String :=
  "\x7b\"$themes\":[\x7b\"name\":\"T\",\"selectedTokenSets\":\x7b\"b\":\"enabled\"," ++
    "\"a\":\"source\",\"c\":\"disabled\",\"z\":\"source\"\x7d\x7d]," ++
    "\"a\":\x7b\"x\":\x7b\"type\":\"spacing\",\"value\":\"1px\"\x7d\x7d," ++
    "\"b\":\x7b\"x\":\x7b\"type\":\"spacing\",\"value\":\"4px\"\x7d\x7d,\"c\":\x7b\x7d\x7d"

def statusesDocument : Entries Data :=
  [("$themes", .list [.table [("name", .text "T"), ("selectedTokenSets", .table
      [("b", .text "enabled"), ("a", .text "source"), ("c", .text "disabled"),
        ("z", .text "source")])]]),
    ("a", .table [("x", .table [("type", .text "spacing"), ("value", .text "1px")])]),
    ("b", .table [("x", .table [("type", .text "spacing"), ("value", .text "4px")])]),
    ("c", .table [])]

def statusesDisk : Disk :=
  ⟨.directory [("tokens.json", .file statusesText.toUTF8)], []⟩

/-- The library of the document. -/
def statuses : Library where
  tokens := [.spacing "a.x" "x" "1px", .spacing "b.x" "x" "4px"]
  sets := [⟨"a", ["a.x"]⟩, ⟨"b", ["b.x"]⟩, ⟨"c", []⟩]
  themes := [.ofSets "T" [("b", .enabled), ("a", .source)]]
  strictNames := false
  idsDistinct := by decide
  setsDistinct := by decide
  themesDistinct := by decide
  listed := by decide

namespace statuses

set_option maxRecDepth 20000 in
theorem reads : Source.Reads statusesText.toUTF8 (.table statusesDocument) :=
  Source.reads_of_text (by decide +kernel) (by cbv)

theorem loaded : Source.load statusesDisk (.ofText "tokens.json") false =
    ⟨[.unknownSet "T" "z"], .ok statuses⟩ :=
  Source.load_of_reads false (by decide) rfl reads rfl

end statuses

/-- The token of the source set is seen before that of the enabled set, and the name that they share
stands for it. -/
theorem visibility_of_statuses :
    Source.load statusesDisk (.ofText "tokens.json") false =
        ⟨[.unknownSet "T" "z"], .ok statuses⟩ ∧
      ∃ selected active,
        ThemeView statuses (.ofSets "T" [("b", .enabled), ("a", .source)]) selected active ∧
        active.map (·.id) = ["a.x", "b.x"] ∧
        (active.find? (·.name = "x")).map (·.id) = some "a.x" := by
  obtain ⟨-, -, -, -, raw, -, views⟩ := theme_visibility statuses.loaded
  obtain ⟨selected, active, -, view⟩ := views _ (.head _)
  have answered :
      Except.ok [.spacing "a.x" "x" "1px", .spacing "b.x" "x" "4px"] = Except.ok active :=
    view.answered []
  cases answered
  exact ⟨statuses.loaded, selected, _, view, rfl, rfl⟩

end DesignTokens
