import DesignTokens.Proofs.Command.Failures
import DesignTokens.Proofs.Rendering.Writing

/-!
# Where builds write

A build changes what is in its output directory and what is at the paths of its files, whether all
of them are written or not. The files of themes are below the output directory, and so are the files
of sets whose names go inward (`build_keeps_to_output`). Nothing keeps the name of a set from
leading elsewhere: a build can write over its own token input (`build_leaves_output`).
-/

namespace DesignTokens

open Inquiry Rendering

namespace Command

variable {disk : Disk} {overrides : Overrides} {file : Option Path} {settings : Settings}
  {files : Entries String}

theorem outcome_rendered_eq_ok :
    (rendered disk overrides file).outcome = .ok (settings, files) ↔
      settingsFor disk file overrides = .ok settings ∧
      ∃ library, (Source.load disk settings.entry settings.strictNames).outcome = .ok library ∧
        outcome library (Rendering.files library settings.format settings.scope) = .ok files := by
  unfold rendered
  rw [Noted.outcome_bind_eq_ok]
  constructor
  · rintro ⟨found, settled, behind⟩
    obtain ⟨library, loaded, behind⟩ := Noted.outcome_bind_eq_ok.1 behind
    obtain ⟨written, computed, last⟩ := Noted.outcome_bind_eq_ok.1 behind
    cases last
    rw [outcome_start_files] at computed
    exact ⟨settled, library, loaded, computed⟩
  · rintro ⟨settled, library, loaded, computed⟩
    refine ⟨settings, settled, Noted.outcome_bind_eq_ok.2 ⟨library, loaded, ?_⟩⟩
    refine Noted.outcome_bind_eq_ok.2 ⟨files, ?_, rfl⟩
    rw [outcome_start_files, computed]

/-- The disk after a build is the disk after its files were written, as far as that went. -/
theorem disk_run_build
    (isRendered : (rendered disk overrides file).outcome = .ok (settings, files)) :
    (run disk (.build overrides file)).disk =
      ((Output.write settings.output settings.clean files).run.run disk).2 := by
  show (runBuild disk overrides file).disk = _
  unfold runBuild
  generalize rendered disk overrides file = noted at isRendered
  obtain ⟨warnings, outcome⟩ := noted
  cases isRendered
  dsimp only
  generalize (Output.write settings.output settings.clean files).run.run disk = reached
  obtain ⟨e | written, later⟩ := reached
  · exact failed_disk _ _ _
  · rfl

end Command

/-- The disk after a build is another only in the output directory, at the paths of the files, and
where directories were made on the way to them. Each file is named after a theme, or after a set
when there are no themes. Themes, and sets whose names go inward, keep the build to the output
directory, what is below it, and the directories on the way to it. -/
theorem build_keeps_to_output (disk : Disk) (overrides : Overrides) (file : Option Path)
    {settings : Settings} {files : Entries String}
    (isRendered : (Command.rendered disk overrides file).outcome = .ok (settings, files)) :
    ∃ library, (Source.load disk settings.entry settings.strictNames).outcome = .ok library ∧
      (∀ written ∈ files, IsFileName library settings.format written.1) ∧
      Disk.Framed (Output.Written disk.working settings.output files)
        (Output.OnWay disk.working settings.output files)
        disk (Command.run disk (.build overrides file)).disk ∧
      ((library.themes ≠ [] ∨ ∀ set ∈ library.sets,
          (Path.ofText (set.name ++ "." ++ settings.format.name)).Inward) →
        Output.Confined settings.output disk (Command.run disk (.build overrides file)).disk) := by
  obtain ⟨-, library, loaded, computed⟩ := Command.outcome_rendered_eq_ok.1 isRendered
  have names (written : String × String) (there : written ∈ files) :
      IsFileName library settings.format written.1 := isFileName_of_files computed there
  have nonempty (written : String × String) (there : written ∈ files) :
      (Path.ofText written.1).components ≠ [] := (names written there).components_ne_nil
  have framed : Disk.Framed (Output.Written disk.working settings.output files)
      (Output.OnWay disk.working settings.output files) disk
      ((Output.write settings.output settings.clean files).run.run disk).2 :=
    Output.keeps_write settings.clean nonempty disk rfl
  rw [Command.disk_run_build isRendered]
  refine ⟨library, loaded, names, framed, fun inside => ?_⟩
  refine Output.confined_of_inward nonempty (fun written there => ?_) framed
  rcases names written there with ⟨-, same⟩ | ⟨none, isSet, same⟩
  · rw [same]
    exact inward_fileName settings.format _
  · rw [same]
    exact inside.resolve_left (fun some => some none) _ isSet

/-! ## One set -/

/-- The number of bytes in a file. -/
def Standing.size : Standing → Nat
  | .file bytes => bytes.size
  | _ => 0

/-- A document with one token in one set. -/
def spacingText (slug : String) : String :=
  "\x7b\"" ++ slug ++ "\":\x7b\"x\":\x7b\"type\":\"spacing\",\"value\":\"1px\"\x7d\x7d\x7d"

def spacingDocument (slug : String) : Entries Data :=
  [(slug, .table [("x", .table [("type", .text "spacing"), ("value", .text "1px")])])]

/-- The document, and a file of an earlier build. -/
def spacingDisk (slug : String) : Disk :=
  ⟨.directory [("tokens.json", .file (spacingText slug).toUTF8),
    ("build", .directory [("old.json", .file "\x7b\x7d".toUTF8)])], []⟩

/-- The library of the document. -/
def spacingLibrary (slug id : String) : Library where
  tokens := [.spacing id "x" "1px"]
  sets := [⟨slug, [id]⟩]
  themes := []
  strictNames := false
  idsDistinct := List.nodup_singleton _
  setsDistinct := List.nodup_singleton _
  themesDistinct := List.nodup_nil
  listed := by
    intro set there id listed
    cases List.mem_singleton.1 there
    exact listed

/-- What is written for the token. -/
def spacingOutput : String :=
  "\x7b\n  \"x\": \"1px\"\n\x7d\n"

namespace spacingLibrary

def overrides : Overrides :=
  ⟨some (.ofText "tokens.json"), some (.ofText "build"), some (.text "json"), none, none, none⟩

theorem asked :
    Command.ofArguments? ["build", "-e", "tokens.json", "-o", "build", "-f", "json"] =
      some (.build overrides none) := by
  rfl

def settings : Settings :=
  ⟨.ofText "tokens.json", .ofText "build", .json, .root, true, false, none⟩

set_option maxRecDepth 20000 in
theorem loaded_below : Source.load (spacingDisk "ui/a") (.ofText "tokens.json") false =
    ⟨[], .ok (spacingLibrary "ui/a" "ui.a.x")⟩ :=
  have reads : Source.Reads (spacingText "ui/a").toUTF8 (.table (spacingDocument "ui/a")) :=
    Source.reads_of_text (by decide +kernel) (by cbv)
  Source.load_of_reads false (by decide) rfl reads rfl

theorem rendered_below : (Command.rendered (spacingDisk "ui/a") overrides none).outcome =
    .ok (settings, [("ui/a.json", spacingOutput)]) :=
  Command.outcome_rendered_eq_ok.2
    ⟨rfl, _, congrArg Noted.outcome loaded_below, by decide +kernel⟩

set_option maxRecDepth 20000 in
theorem loaded_above : Source.load (spacingDisk "../tokens") (.ofText "tokens.json") false =
    ⟨[], .ok (spacingLibrary "../tokens" "...tokens.x")⟩ :=
  have reads : Source.Reads (spacingText "../tokens").toUTF8
      (.table (spacingDocument "../tokens")) :=
    Source.reads_of_text (by decide +kernel) (by cbv)
  Source.load_of_reads false (by decide) rfl reads rfl

theorem rendered_above : (Command.rendered (spacingDisk "../tokens") overrides none).outcome =
    .ok (settings, [("../tokens.json", spacingOutput)]) :=
  Command.outcome_rendered_eq_ok.2
    ⟨rfl, _, congrArg Noted.outcome loaded_above, by decide +kernel⟩

end spacingLibrary

/-- The file of a set whose name leads down is below the output directory. -/
theorem build_keeps_to_output_below :
    Command.ofArguments? ["build", "-e", "tokens.json", "-o", "build", "-f", "json"] =
        some (.build spacingLibrary.overrides none) ∧
      (Command.rendered (spacingDisk "ui/a") spacingLibrary.overrides none).outcome =
        .ok (spacingLibrary.settings, [("ui/a.json", spacingOutput)]) ∧
      Output.Confined (.ofText "build") (spacingDisk "ui/a")
        (Command.run (spacingDisk "ui/a") (.build spacingLibrary.overrides none)).disk := by
  obtain ⟨library, loaded, -, -, confined⟩ :=
    build_keeps_to_output (spacingDisk "ui/a") spacingLibrary.overrides none
      spacingLibrary.rendered_below
  have same : Except.ok (spacingLibrary "ui/a" "ui.a.x") = .ok library :=
    (congrArg Noted.outcome spacingLibrary.loaded_below).symm.trans loaded
  cases same
  exact ⟨spacingLibrary.asked, spacingLibrary.rendered_below, confined (.inr (by decide))⟩

/-- A build can write over its own token input, which is outside its output directory. -/
theorem build_leaves_output :
    ¬ ∀ (disk : Disk) (overrides : Overrides) (file : Option Path) (settings : Settings)
        (files : Entries String),
        (Command.rendered disk overrides file).outcome = .ok (settings, files) →
        Output.Confined settings.output disk (Command.run disk (.build overrides file)).disk := by
  intro confined
  have framed := confined _ _ _ _ _ spacingLibrary.rendered_above
  rw [Command.disk_run_build spacingLibrary.rendered_above] at framed
  rcases framed.elsewhere ["tokens.json"] (by decide) with same | ⟨-, nothing, -⟩
  · have same := congrArg Standing.size same
    exact absurd same (by decide +kernel)
  · cases nothing

end DesignTokens
