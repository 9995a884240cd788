import DesignTokens.Proofs.Rendering.Failures
import DesignTokens.Proofs.Session.Memory
import DesignTokens.Proofs.Source.Reading

/-!
# Builds that fail

A build that cannot be rendered ends with status 1 and leaves the disk as it was, whatever stops it
and however late (`failed_build_leaves_disk`). What can stop it are its settings, what the command
line makes of them, its tokens, and a token of some file that has no value (`unrendered_iff`).
-/

namespace DesignTokens

open Inquiry Rendering

namespace Command

variable {disk : Disk} {overrides : Overrides} {file : Option Path}

/-- What keeps a build from being rendered. -/
inductive Unrendered (disk : Disk) (overrides : Overrides) (file : Option Path) : Prop
  /-- The settings file cannot be used. -/
  | settings {failure : Failure} : settingsAt disk file = .error failure →
      Unrendered disk overrides file
  /-- The command line asks for what is not allowed, an unknown format among others. -/
  | override {found : Settings} {failure : Failure} : settingsAt disk file = .ok found →
      found.override overrides = .error failure → Unrendered disk overrides file
  | load {settings : Settings} {failure : Failure} :
      settingsFor disk file overrides = .ok settings →
      (Source.load disk settings.entry settings.strictNames).outcome = .error failure →
      Unrendered disk overrides file
  | value {settings : Settings} {library : Library} {token : Token} :
      settingsFor disk file overrides = .ok settings →
      (Source.load disk settings.entry settings.strictNames).outcome = .ok library →
      HasNoValue library settings.format token → Unrendered disk overrides file

theorem outcome_start_files (library : Library) (format : Format) (scope : ThemeScope) :
    ((Session.start library).run (files library format scope)).1.outcome =
      outcome library (files library format scope) :=
  (Session.coherent_start library).outcome_run (asksUnder_files library format scope)

theorem outcome_rendered_eq_error {failure : Failure} :
    (rendered disk overrides file).outcome = .error failure ↔
      settingsFor disk file overrides = .error failure ∨
      ∃ settings, settingsFor disk file overrides = .ok settings ∧
        ((Source.load disk settings.entry settings.strictNames).outcome = .error failure ∨
        ∃ library, (Source.load disk settings.entry settings.strictNames).outcome = .ok library ∧
          outcome library (files library settings.format settings.scope) = .error failure) := by
  unfold rendered
  rw [Noted.outcome_bind_eq_error]
  refine or_congr Iff.rfl (exists_congr fun settings => and_congr_right fun _ => ?_)
  rw [Noted.outcome_bind_eq_error]
  refine or_congr Iff.rfl (exists_congr fun library => and_congr_right fun _ => ?_)
  rw [Noted.outcome_bind_eq_error, outcome_start_files]
  constructor
  · rintro (failed | ⟨_, _, last⟩)
    · exact failed
    · cases last
  · exact .inl

theorem unrendered_iff : Unrendered disk overrides file ↔
    ∃ failure, (rendered disk overrides file).outcome = .error failure := by
  constructor
  · intro unrendered
    cases unrendered with
    | @settings failure failed =>
      have failed : settingsFor disk file overrides = .error failure :=
        Except.bind_eq_error.2 (.inl failed)
      exact ⟨failure, outcome_rendered_eq_error.2 (.inl failed)⟩
    | @override settings failure found failed =>
      have failed : settingsFor disk file overrides = .error failure :=
        Except.bind_eq_error.2 (.inr ⟨settings, found, failed⟩)
      exact ⟨failure, outcome_rendered_eq_error.2 (.inl failed)⟩
    | @load settings failure settled failed =>
      exact ⟨failure, outcome_rendered_eq_error.2 (.inr ⟨settings, settled, .inl failed⟩)⟩
    | @value settings library token settled loaded none =>
      obtain ⟨failure, failed⟩ := (fails_files_iff settings.scope).2 ⟨token, none⟩
      exact ⟨failure, outcome_rendered_eq_error.2
        (.inr ⟨settings, settled, .inr ⟨library, loaded, failed⟩⟩)⟩
  · rintro ⟨failure, failed⟩
    rcases outcome_rendered_eq_error.1 failed with failed | ⟨settings, settled, failed⟩
    · rcases Except.bind_eq_error.1 failed with failed | ⟨found, there, failed⟩
      · exact .settings failed
      · exact .override there failed
    · rcases failed with failed | ⟨library, loaded, failed⟩
      · exact .load settled failed
      · obtain ⟨token, none⟩ := (fails_files_iff settings.scope).1 ⟨failure, failed⟩
        exact .value settled loaded none

@[simp] theorem failed_status (failure : Failure) (warnings : List Warning) (disk : Disk) :
    (failed failure warnings disk).status = 1 := by
  unfold failed
  split <;> rfl

@[simp] theorem failed_disk (failure : Failure) (warnings : List Warning) (disk : Disk) :
    (failed failure warnings disk).disk = disk := by
  unfold failed
  split <;> rfl

end Command

/-- A build that cannot be rendered ends with status 1 and leaves the disk as it was. It reports the
failure or is stopped by it, and whether the output directory was to be removed makes no
difference. -/
theorem failed_build_leaves_disk (disk : Disk) (overrides : Overrides) (file : Option Path)
    (unrendered : Command.Unrendered disk overrides file) :
    ∃ warnings failure, Command.rendered disk overrides file = ⟨warnings, .error failure⟩ ∧
      Command.run disk (.build overrides file) = Command.failed failure warnings disk ∧
      (Command.run disk (.build overrides file)).status = 1 ∧
      (Command.run disk (.build overrides file)).disk = disk := by
  obtain ⟨failure, stopped⟩ := Command.unrendered_iff.1 unrendered
  obtain ⟨warnings, result⟩ : ∃ warnings,
      Command.rendered disk overrides file = ⟨warnings, .error failure⟩ :=
    ⟨(Command.rendered disk overrides file).notes, by rw [← stopped]⟩
  have ran : Command.run disk (.build overrides file) =
      Command.failed failure warnings disk := by
    show Command.runBuild disk overrides file = _
    unfold Command.runBuild
    rw [result]
  refine ⟨warnings, failure, result, ran, ?_, ?_⟩
  · rw [ran, Command.failed_status]
  · rw [ran, Command.failed_disk]

/-! ## The last set -/

/-- Two sets. The token of the second refers to itself. -/
def selfReferringText : String :=
  "\x7b\"a\":\x7b\"x\":\x7b\"type\":\"spacing\",\"value\":\"1px\"\x7d\x7d," ++
    "\"b\":\x7b\"y\":\x7b\"type\":\"spacing\",\"value\":\"\x7by\x7d\"\x7d\x7d\x7d"

def selfReferringDocument : Entries Data :=
  [("a", .table [("x", .table [("type", .text "spacing"), ("value", .text "1px")])]),
    ("b", .table [("y", .table [("type", .text "spacing"), ("value", .text "\x7by\x7d")])])]

/-- The document, and a file of an earlier build. -/
def selfReferringDisk : Disk :=
  ⟨.directory [("tokens.json", .file selfReferringText.toUTF8),
    ("build", .directory [("a.json", .file "\x7b\x7d".toUTF8)])], []⟩

/-- The library of the document. -/
def selfReferring : Library where
  tokens := [.spacing "a.x" "x" "1px", .spacing "b.y" "y" "\x7by\x7d"]
  sets := [⟨"a", ["a.x"]⟩, ⟨"b", ["b.y"]⟩]
  themes := []
  strictNames := false
  idsDistinct := by decide
  setsDistinct := by decide
  themesDistinct := by decide
  listed := by decide

namespace selfReferring

set_option maxRecDepth 20000 in
theorem reads : Source.Reads selfReferringText.toUTF8 (.table selfReferringDocument) :=
  Source.reads_of_text (by decide +kernel) (by cbv)

theorem loaded :
    Source.load selfReferringDisk (.ofText "tokens.json") false = ⟨[], .ok selfReferring⟩ :=
  Source.load_of_reads false (by decide) rfl reads rfl

/-- What the command line asks for. -/
def overrides : Overrides :=
  ⟨some (.ofText "tokens.json"), none, some (.text "json"), none, some (.boolean true), none⟩

theorem asked :
    Command.ofArguments? ["build", "-e", "tokens.json", "-f", "json", "--clean"] =
      some (.build overrides none) := by
  rfl

theorem settled : Command.settingsFor selfReferringDisk none overrides =
    .ok ⟨.ofText "tokens.json", .ofText "./build", .json, .root, true, false, none⟩ := by
  rfl

theorem fails : (Leaf.ofToken (selfReferring.substitution .static none)
    (.spacing "b.y" "y" "\x7by\x7d")).Fails selfReferring :=
  ⟨.resolve (.cyclic ["b.y", "b.y"]), by decide +kernel⟩

end selfReferring

/-- The build would have removed the directory with the earlier file first, and the file of the
first set is rendered before the token of the second fails. -/
theorem failed_build_leaves_earlier_files :
    Command.ofArguments? ["build", "-e", "tokens.json", "-f", "json", "--clean"] =
        some (.build selfReferring.overrides none) ∧
      Command.Unrendered selfReferringDisk selfReferring.overrides none ∧
      (Command.run selfReferringDisk (.build selfReferring.overrides none)).status = 1 ∧
      (Command.run selfReferringDisk (.build selfReferring.overrides none)).disk =
        selfReferringDisk := by
  have listed : Token.spacing "b.y" "y" "\x7by\x7d" ∈
      selfReferring.tokensOf ⟨"b", ["b.y"]⟩ := by decide +kernel
  have unrendered : Command.Unrendered selfReferringDisk selfReferring.overrides none :=
    .value selfReferring.settled (congrArg Noted.outcome selfReferring.loaded)
      (.ofSet rfl (.tail _ (.head _)) listed selfReferring.fails)
  obtain ⟨_, _, -, -, status, disk⟩ :=
    failed_build_leaves_disk selfReferringDisk selfReferring.overrides none unrendered
  exact ⟨selfReferring.asked, unrendered, status, disk⟩

end DesignTokens
