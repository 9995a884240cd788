import DesignTokens.Proofs.Entries
import DesignTokens.Proofs.Rendering.Agreement
import DesignTokens.Proofs.Source.Reading

/-!
# The names of theme files

The files of a library with themes are named for the stems of the themes, and two themes of
different names may have one stem. The first of them gives the place of the file and the last of
them gives its text (`theme_files_by_stem`), so the others are lost (`not_one_file_per_theme`).
-/

namespace DesignTokens

open Inquiry

/-- Items that are related to the items of two lists together are related to those of each. -/
theorem exists_forall₂_of_append {α β : Type} {R : α → β → Prop} {first rest : List α}
    {others : List β} (related : List.Forall₂ R (first ++ rest) others) :
    ∃ front back, others = front ++ back ∧ List.Forall₂ R first front ∧
      List.Forall₂ R rest back := by
  induction first generalizing others with
  | nil => exact ⟨[], others, rfl, .nil, related⟩
  | cons a first ih =>
    cases related with
    | cons here behind =>
      obtain ⟨front, back, rfl, related, related'⟩ := ih behind
      exact ⟨_ :: front, back, rfl, .cons here related, related'⟩

namespace Rendering

variable {library : Library} {format : Format} {scope : ThemeScope} {written : Entries String}

/-- Files are in the order of the first themes of their stems. -/
theorem keys_of_theme_files (themes : library.themes ≠ [])
    (rendered : outcome library (files library format scope) = .ok written) :
    written.keys = (library.themes.map (fileName format)).eraseDups := by
  obtain ⟨pairs, rfl, each⟩ := exists_writes_of_files themes rendered
  rw [Entries.keys_ofList, (files_of_themes (List.Subset.refl _) each).1]

/-- The file of a stem is that of the last theme with this stem. -/
theorem text_of_last_theme (rendered : outcome library (files library format scope) = .ok written)
    {stem : String} {last : Theme}
    (isLast : (library.themes.filter (·.fileStem = stem)).getLast? = some last) :
    ∃ text, written.get? (stem ++ "." ++ format.name) = some text ∧
      outcome library (themeText library format scope last (library.tokensUnder last)) =
        .ok text := by
  obtain ⟨stem', before, after, split, others⟩ := exists_append_of_getLast?_filter isLast
  have there : last ∈ library.themes := split ▸ List.mem_append_right _ List.mem_cons_self
  obtain ⟨pairs, rfl, each⟩ := exists_writes_of_files (List.ne_nil_of_mem there) rendered
  have known : after ⊆ library.themes := by
    rw [split]
    exact List.subset_append_of_subset_right _ (List.subset_cons_self _ _)
  rw [split] at each
  obtain ⟨front, _, rfl, -, each⟩ := exists_forall₂_of_append each
  cases each with
  | @cons _ file _ back here behind =>
  obtain ⟨name, text⟩ := file
  obtain ⟨rfl, computed⟩ := outcome_themeFile_eq_ok there here
  cases of_decide_eq_true stem'
  refine ⟨text, Entries.get?_ofList_append front ?_, computed⟩
  -- No later theme has the stem, so no later file has the name.
  rw [(files_of_themes known behind).1]
  intro again
  obtain ⟨other, there, same⟩ := List.mem_map.1 again
  exact of_decide_eq_false (others other there) (fileName_eq_iff.1 same)

end Rendering

/-- The files of a library with themes are one for each stem, in the order of the first themes of
the stems, and each with the text of the last theme of its stem. So there is one file for each theme
exactly when no two themes have one stem. -/
theorem theme_files_by_stem (library : Library) (format : Format) (scope : ThemeScope)
    {written : Entries String} (themes : library.themes ≠ [])
    (rendered : outcome library (Rendering.files library format scope) = .ok written) :
    written.keys = (library.themes.map (Rendering.fileName format)).eraseDups ∧
    (written.length = library.themes.length ↔ (library.themes.map (·.fileStem)).Nodup) ∧
    ((library.themes.map (·.fileStem)).Nodup →
      written.keys = library.themes.map (Rendering.fileName format)) ∧
    ∀ theme ∈ library.themes, ∃ last text,
      (library.themes.filter (·.fileStem = theme.fileStem)).getLast? = some last ∧
      written.get? (Rendering.fileName format theme) = some text ∧
      outcome library (Rendering.themeText library format scope last (library.tokensUnder last)) =
        .ok text := by
  have keys := Rendering.keys_of_theme_files themes rendered
  refine ⟨keys, ?_, fun stems => ?_, fun theme there => ?_⟩
  · have length : written.length = written.keys.length := (List.length_map _).symm
    rw [length, keys, ← Rendering.nodup_fileNames_iff, ← length_eraseDups_eq_iff,
      List.length_map]
  · rw [keys, eraseDups_of_nodup (Rendering.nodup_fileNames_iff.2 stems)]
  · have sharing : theme ∈ library.themes.filter (·.fileStem = theme.fileStem) :=
      List.mem_filter.2 ⟨there, decide_eq_true rfl⟩
    have isLast := List.getLast?_eq_getLast_of_ne_nil (List.ne_nil_of_mem sharing)
    obtain ⟨text, found, computed⟩ := Rendering.text_of_last_theme rendered isLast
    exact ⟨_, text, isLast, found, computed⟩

/-! ## Two themes of one stem -/

/-- Two themes of one stem. Only the first selects the set. -/
def clashingText : String :=
  "\x7b\"$themes\":[\x7b\"name\":\"A/B\",\"selectedTokenSets\":\x7b\"s\":\"source\"\x7d\x7d," ++
    "\x7b\"name\":\"A-B\"\x7d]," ++
    "\"s\":\x7b\"x\":\x7b\"type\":\"spacing\",\"value\":\"1px\"\x7d\x7d\x7d"

def clashingDocument : Entries Data :=
  [("$themes", .list [.table [("name", .text "A/B"),
      ("selectedTokenSets", .table [("s", .text "source")])], .table [("name", .text "A-B")]]),
    ("s", .table [("x", .table [("type", .text "spacing"), ("value", .text "1px")])])]

def clashingDisk : Disk :=
  ⟨.directory [("tokens.json", .file clashingText.toUTF8)], []⟩

/-- The library of the document. -/
def clashingThemes : Library where
  tokens := [.spacing "s.x" "x" "1px"]
  sets := [⟨"s", ["s.x"]⟩]
  themes := [.ofSets "A/B" [("s", .source)], .ofSets "A-B" []]
  strictNames := false
  idsDistinct := by decide
  setsDistinct := by decide
  themesDistinct := by decide
  listed := by decide

namespace clashingThemes

set_option maxRecDepth 20000 in
theorem reads : Source.Reads clashingText.toUTF8 (.table clashingDocument) :=
  Source.reads_of_text (by decide +kernel) (by cbv)

theorem loaded :
    Source.load clashingDisk (.ofText "tokens.json") false = ⟨[], .ok clashingThemes⟩ :=
  Source.load_of_reads false (by decide) rfl reads rfl

theorem rendered :
    outcome clashingThemes (Rendering.files clashingThemes .json .root) =
      .ok [("A-B.json", "\x7b\x7d\n")] := by
  decide +kernel

end clashingThemes

/-- The one file holds the document of the last theme, in which no token is active. -/
theorem files_of_clashingThemes :
    clashingThemes.themes ≠ [] ∧
      ∃ written : Entries String,
        outcome clashingThemes (Rendering.files clashingThemes .json .root) = .ok written ∧
        written.keys = ["A-B.json"] ∧ written.get? "A-B.json" = some "\x7b\x7d\n" ∧
        outcome clashingThemes
          (Rendering.themeText clashingThemes .json .root (.ofSets "A-B" []) []) =
          .ok "\x7b\x7d\n" := by
  have themes : clashingThemes.themes ≠ [] := List.cons_ne_nil _ _
  obtain ⟨keys, -, -, texts⟩ :=
    theme_files_by_stem clashingThemes .json .root themes clashingThemes.rendered
  obtain ⟨last, text, isLast, found, computed⟩ := texts _ List.mem_cons_self
  cases (show some last = some (Theme.ofSets "A-B" []) from isLast.symm)
  cases (show some text = some "\x7b\x7d\n" from found.symm)
  exact ⟨themes, _, clashingThemes.rendered, keys, found, computed⟩

/-- A library with themes may be rendered to fewer files than it has themes. -/
theorem not_one_file_per_theme :
    ¬ ∀ (disk : Disk) (entry : Path) (strictNames : Bool) (warnings : List Warning)
        (library : Library) (format : Format) (scope : ThemeScope) (written : Entries String),
        Source.load disk entry strictNames = ⟨warnings, .ok library⟩ → library.themes ≠ [] →
        outcome library (Rendering.files library format scope) = .ok written →
        written.length = library.themes.length := by
  intro onePerTheme
  have same := onePerTheme _ _ _ _ _ _ _ _ clashingThemes.loaded (List.cons_ne_nil _ _)
    clashingThemes.rendered
  exact absurd same (by decide)

end DesignTokens
