import Mathlib.Data.Option.Basic
import DesignTokens.Proofs.LongIntegers
import DesignTokens.Proofs.Source.Reading
import DesignTokens.Settings

/-!
# Which faults are reported

What is wrong with token input or with a settings file is reported by a failure that names it.
Faults of the values in a document are all reported, since whatever follows the reading checks what
it uses (`Source.isLoad_of_build`). Faults of the files themselves are not: a path that is too long,
bytes that are not UTF-8, and a text that is not read although it breaks no rule
(`Source.Unreported`). Of the settings some shapes are not checked either, and a value that is
refused may have no text to show (`Settings.Unreported`).

`unreported_iff` says when the reading stops so. A text that breaks no rule is not read when an
integer in it has too many digits. Values may nest to any depth here: what a machine does when it has
no room left is not a part of the readers.
-/

namespace DesignTokens

/-- The bytes of the file at a path are no text. -/
def Disk.NotText (disk : Disk) (path : Path) : Prop :=
  ∃ bytes, disk.read path = .ok bytes ∧ Text.ofBytes? bytes = none

/-- The bytes of the file at a path are a text. -/
def Disk.HoldsText (disk : Disk) (path : Path) (source : List Char) : Prop :=
  ∃ bytes, disk.read path = .ok bytes ∧ Text.ofBytes? bytes = some source

theorem Disk.HoldsText.not_notText {disk : Disk} {path : Path} {source : List Char}
    (holds : disk.HoldsText path source) : ¬ disk.NotText path := by
  obtain ⟨_, isFile, decoded⟩ := holds
  rintro ⟨_, isFile', notDecoded⟩
  cases isFile.symm.trans isFile'
  cases decoded.symm.trans notDecoded

theorem Disk.HoldsText.unique {disk : Disk} {path : Path} {source source' : List Char}
    (holds : disk.HoldsText path source) (holds' : disk.HoldsText path source') :
    source = source' := by
  obtain ⟨_, isFile, decoded⟩ := holds
  obtain ⟨_, isFile', decoded'⟩ := holds'
  cases isFile.symm.trans isFile'
  exact Option.some.inj (decoded.symm.trans decoded')

/-! ## Failures of other kinds -/

/-- A computation stops with a failure of another kind than the reported one. -/
def Escapes {α : Type} (reported : Failure → Prop) (x : Except Failure α) (failure : Failure) :
    Prop :=
  x = .error failure ∧ ¬ reported failure

section Escapes

variable {α β : Type} {reported : Failure → Prop} {x : Except Failure α} {failure : Failure}

theorem not_escapes (all : ∀ failure, x = .error failure → reported failure) :
    ¬ Escapes reported x failure :=
  fun ⟨stopped, unreported⟩ => unreported (all failure stopped)

theorem not_escapes_ok (a : α) : ¬ Escapes reported (.ok a) failure :=
  fun ⟨stopped, _⟩ => nomatch stopped

theorem escapes_bind_iff {f : α → Except Failure β} :
    Escapes reported (x >>= f) failure ↔
      Escapes reported x failure ∨ ∃ a, x = .ok a ∧ Escapes reported (f a) failure := by
  unfold Escapes
  rw [Except.bind_eq_error, or_and_right]
  refine or_congr_right ?_
  constructor
  · rintro ⟨⟨a, passed, stopped⟩, unreported⟩
    exact ⟨a, passed, stopped, unreported⟩
  · rintro ⟨a, passed, stopped, unreported⟩
    exact ⟨⟨a, passed, stopped⟩, unreported⟩

/-- Behind a computation whose failures are all reported only its result matters. -/
theorem escapes_bind_iff_of_reported {f : α → Except Failure β}
    (all : ∀ failure, x = .error failure → reported failure) :
    Escapes reported (x >>= f) failure ↔ ∃ a, x = .ok a ∧ Escapes reported (f a) failure :=
  escapes_bind_iff.trans (or_iff_right (not_escapes all))

/-- Nothing stops a computation that ends at once. -/
theorem escapes_bind_pure_iff {f : α → β} :
    Escapes reported (x >>= fun a => pure (f a)) failure ↔ Escapes reported x failure :=
  escapes_bind_iff.trans (or_iff_left fun ⟨a, _, escapes⟩ => not_escapes_ok (f a) escapes)

theorem escapes_mapM_iff {xs : List β} {f : β → Except Failure α} :
    Escapes reported (xs.mapM f) failure ↔ ∃ before x after, xs = before ++ x :: after ∧
      (∀ other ∈ before, ∃ y, f other = .ok y) ∧ Escapes reported (f x) failure := by
  unfold Escapes
  rw [Except.mapM_eq_error_iff]
  constructor
  · rintro ⟨⟨before, x, after, split, passed, stopped⟩, unreported⟩
    exact ⟨before, x, after, split, passed, stopped, unreported⟩
  · rintro ⟨before, x, after, split, passed, stopped, unreported⟩
    exact ⟨⟨before, x, after, split, passed, stopped⟩, unreported⟩

end Escapes

/-! ## Token input -/

namespace Source

variable {disk : Disk} {path entry directory : Path} {failure : Failure}

/-- The document of a file is not read, and no report says why. -/
inductive Undecoded (disk : Disk) (path : Path) : Failure → Prop
  | notText : disk.NotText path → Undecoded disk path .badEncoding
  /-- The text is not read for another reason than a rule that it breaks. -/
  | unread {source : List Char} {e : Json.Error} : disk.HoldsText path source →
      Json.read source = .error e → e.fault.isMalformed = false →
      Undecoded disk path (unread e source path)

/-- A file stops the reading without a report. -/
inductive Stops (disk : Disk) (path : Path) : Failure → Prop
  | tooLong : disk.TooLong path → Stops disk path (.disk (.fault .nameTooLong path))
  | undecoded {failure : Failure} : Undecoded disk path failure → Stops disk path failure

theorem not_isLoad_badEncoding : ¬ IsLoad .badEncoding :=
  fun ⟨_, _, _, same⟩ => nomatch same

theorem not_isLoad_disk (e : DiskError) : ¬ IsLoad (.disk e) :=
  fun ⟨_, _, _, same⟩ => nomatch same

/-- A text that is not read is reported exactly when it breaks a rule. -/
theorem isLoad_unread_iff {e : Json.Error} {source : List Char} :
    IsLoad (unread e source path) ↔ e.fault.isMalformed = true := by
  obtain ⟨fault, left⟩ := e
  cases fault with
  | tooManyDigits digits => exact iff_of_false (fun ⟨_, _, _, same⟩ => nomatch same) nofun
  | _ => exact iff_of_true ⟨_, _, _, rfl⟩ rfl

theorem Undecoded.exists_read (undecoded : Undecoded disk path failure) :
    ∃ bytes, disk.read path = .ok bytes := by
  rcases undecoded with ⟨bytes, isFile, -⟩ | ⟨⟨bytes, isFile, -⟩, -, -⟩ <;> exact ⟨bytes, isFile⟩

/-- The document of a file that is there is read, or reported, or undecoded. -/
theorem escapes_readDocument_iff (there : disk.exists? path = .ok true) :
    Escapes IsLoad (readDocument disk path) failure ↔ Undecoded disk path failure := by
  unfold Escapes readDocument
  cases isFile : disk.read path with
  | error e =>
    have noFile : ¬ Undecoded disk path failure := fun undecoded =>
      have ⟨_, isFile'⟩ := undecoded.exists_read
      nomatch isFile.symm.trans isFile'
    cases e with
    | nullCharacter =>
      -- Nothing would be at such a path.
      cases there.symm.trans (Disk.exists?_of_read_nullCharacter isFile)
    | fault cause path' =>
      refine iff_of_false ?_ noFile
      rintro ⟨⟨⟩, unreported⟩
      exact unreported ⟨_, _, _, rfl⟩
  | ok bytes =>
    cases decoded : Text.ofBytes? bytes with
    | none =>
      dsimp only
      rw [decoded]
      have notText : disk.NotText path := ⟨bytes, isFile, decoded⟩
      constructor
      · rintro ⟨⟨⟩, -⟩
        exact .notText notText
      · rintro (_ | ⟨holds, -, -⟩)
        · exact ⟨rfl, not_isLoad_badEncoding⟩
        · exact absurd notText holds.not_notText
    | some source =>
      dsimp only
      rw [decoded]
      have holds : disk.HoldsText path source := ⟨bytes, isFile, decoded⟩
      dsimp only
      cases isRead : Json.read source with
      | ok data =>
        refine iff_of_false (not_escapes_ok data) ?_
        rintro (notText | ⟨holds', isRead', -⟩)
        · exact holds.not_notText notText
        · cases holds.unique holds'
          cases isRead.symm.trans isRead'
      | error e =>
        constructor
        · rintro ⟨⟨⟩, unreported⟩
          rw [isLoad_unread_iff, Bool.not_eq_true] at unreported
          exact .unread holds isRead unreported
        · rintro (notText | ⟨holds', isRead', follows⟩)
          · exact absurd notText holds.not_notText
          · cases holds.unique holds'
            cases isRead.symm.trans isRead'
            rw [isLoad_unread_iff, follows]
            exact ⟨rfl, Bool.false_ne_true⟩

theorem escapes_readIfThere_iff :
    Escapes IsLoad (readIfThere disk path) failure ↔ Stops disk path failure := by
  unfold readIfThere
  cases there : disk.exists? path with
  | error e =>
    obtain ⟨tooLong, rfl⟩ := Disk.exists?_eq_error_iff.1 there
    constructor
    · rintro ⟨⟨⟩, -⟩
      exact .tooLong tooLong
    · rintro (_ | undecoded)
      · exact ⟨rfl, not_isLoad_disk _⟩
      · obtain ⟨_, isFile⟩ := undecoded.exists_read
        cases there.symm.trans (Disk.exists?_of_read isFile)
  | ok present =>
    cases present with
    | false =>
      refine iff_of_false (not_escapes_ok none) ?_
      rintro (tooLong | undecoded)
      · exact Disk.not_tooLong_of_exists? there tooLong
      · obtain ⟨_, isFile⟩ := undecoded.exists_read
        cases there.symm.trans (Disk.exists?_of_read isFile)
    | true =>
      refine escapes_bind_pure_iff.trans ((escapes_readDocument_iff there).trans ?_)
      refine ⟨.undecoded, ?_⟩
      rintro (tooLong | undecoded)
      · exact absurd tooLong (Disk.not_tooLong_of_exists? there)
      · exact undecoded

theorem isLoad_of_layoutOf (failed : layoutOf path = .error failure) : IsLoad failure := by
  unfold layoutOf at failed
  split at failed
  · cases failed
  · split at failed
    · cases failed
    · cases failed
      exact ⟨_, _, _, rfl⟩

theorem isLoad_of_setOrder {metadata : Option Data} {fallback : List String}
    (failed : setOrder metadata fallback path = .error failure) : IsLoad failure := by
  unfold setOrder at failed
  split at failed
  · cases failed
  · cases failed
  · split at failed
    · split at failed
      · cases failed
      · cases failed
        exact ⟨_, _, _, rfl⟩
    · cases failed
      exact ⟨_, _, _, rfl⟩

theorem isLoad_of_setInDocument {entries : Entries Data} {slug : String}
    (failed : setInDocument entries path slug = .error failure) : IsLoad failure := by
  unfold setInDocument at failed
  split at failed
  · cases failed
  · cases failed
    exact ⟨_, _, _, rfl⟩

theorem escapes_readSingle_iff (there : disk.exists? path = .ok true) :
    Escapes IsLoad (readSingle disk path) failure ↔ Undecoded disk path failure := by
  unfold readSingle
  refine escapes_bind_iff.trans ((or_iff_left ?_).trans (escapes_readDocument_iff there))
  rintro ⟨data, -, escapes⟩
  refine not_escapes (fun failure failed => ?_) escapes
  split at failed
  · cases failed
    exact ⟨_, _, _, rfl⟩
  · rcases Except.bind_eq_error.1 failed with failed | ⟨order, -, failed⟩
    · exact isLoad_of_setOrder failed
    · rcases Except.bind_eq_error.1 failed with failed | ⟨_, -, last⟩
      · obtain ⟨slug, -, failed⟩ := Except.mapM_eq_error failed
        exact isLoad_of_setInDocument failed
      · cases last

theorem escapes_setInDirectory_iff {slug : String} :
    Escapes IsLoad (setInDirectory disk directory slug) failure ↔
      Stops disk (setFile directory slug) failure := by
  unfold setInDirectory
  refine escapes_bind_iff.trans ((or_iff_left ?_).trans escapes_readIfThere_iff)
  rintro ⟨data, -, escapes⟩
  cases data with
  | none => exact escapes.2 (by cases escapes.1; exact ⟨_, _, _, rfl⟩)
  | some data => cases escapes.1

/-- The files of a directory that its reading gets to: the metadata, then the themes, then one set
after another. -/
inductive Reached (disk : Disk) (directory : Path) : Path → Prop
  | metadata : Reached disk directory (directory ++ metadataFile)
  | themes {metadata : Option Data} {slugs order : List String} :
      readIfThere disk (directory ++ metadataFile) = .ok metadata →
      discover disk directory = .ok slugs →
      setOrder metadata slugs (directory ++ metadataFile) = .ok order →
      Reached disk directory (directory ++ themesFile)
  | set {metadata themes : Option Data} {slugs before after : List String} {slug : String} :
      readIfThere disk (directory ++ metadataFile) = .ok metadata →
      discover disk directory = .ok slugs →
      setOrder metadata slugs (directory ++ metadataFile) = .ok (before ++ slug :: after) →
      readIfThere disk (directory ++ themesFile) = .ok themes →
      (∀ other ∈ before, ∃ set, setInDirectory disk directory other = .ok set) →
      Reached disk directory (setFile directory slug)

/-- What is there and is no directory is reported. -/
theorem isDirectory_of_escapes (there : disk.exists? directory = .ok true)
    (escapes : Escapes IsLoad (readDirectory disk directory) failure) :
    disk.isDirectory? directory = .ok true := by
  obtain ⟨node, isNode, -⟩ := Except.map_eq_ok.1 there
  cases isDirectory : disk.isDirectory? directory with
  | error e => cases isNode.symm.trans (Except.map_eq_error.1 isDirectory)
  | ok answer =>
    cases answer with
    | true => rfl
    | false =>
      unfold readDirectory at escapes
      rw [isDirectory] at escapes
      obtain ⟨⟨⟩, unreported⟩ := escapes
      exact absurd ⟨_, _, _, rfl⟩ unreported

/-- A directory is not read, and no report says why. -/
inductive Unlisted (disk : Disk) (directory : Path) : Failure → Prop
  /-- A file of the directory stops the reading. -/
  | file {path : Path} {failure : Failure} : Reached disk directory path →
      Stops disk path failure → Unlisted disk directory failure
  /-- The metadata are read, and then a directory below cannot be listed. -/
  | listing {metadata : Option Data} {e : DiskError} :
      readIfThere disk (directory ++ metadataFile) = .ok metadata →
      disk.placesBelow directory = .error e → Unlisted disk directory (.disk e)

theorem escapes_discover_iff :
    Escapes IsLoad (discover disk directory) failure ↔
      ∃ e, disk.placesBelow directory = .error e ∧ failure = .disk e := by
  unfold discover
  cases disk.placesBelow directory with
  | ok places => exact iff_of_false (not_escapes_ok _) fun ⟨_, same, _⟩ => nomatch same
  | error e =>
    constructor
    · rintro ⟨⟨⟩, -⟩
      exact ⟨e, rfl, rfl⟩
    · rintro ⟨_, ⟨⟩, rfl⟩
      exact ⟨rfl, not_isLoad_disk e⟩

theorem escapes_readDirectory_iff (isDirectory : disk.isDirectory? directory = .ok true) :
    Escapes IsLoad (readDirectory disk directory) failure ↔ Unlisted disk directory failure := by
  rw [readDirectory_of_isDirectory isDirectory]
  constructor
  · intro escapes
    rcases escapes_bind_iff.1 escapes with stops | ⟨metadata, read, escapes⟩
    · exact .file .metadata (escapes_readIfThere_iff.1 stops)
    rcases escapes_bind_iff.1 escapes with stops | ⟨slugs, discovered, escapes⟩
    · obtain ⟨e, unlisted, rfl⟩ := escapes_discover_iff.1 stops
      exact .listing read unlisted
    obtain ⟨order, ordered, escapes⟩ :=
      (escapes_bind_iff_of_reported fun _ => isLoad_of_setOrder).1 escapes
    rcases escapes_bind_iff.1 escapes with stops | ⟨themes, read', escapes⟩
    · exact .file (.themes read discovered ordered) (escapes_readIfThere_iff.1 stops)
    obtain ⟨before, slug, after, rfl, passed, stops⟩ :=
      escapes_mapM_iff.1 (escapes_bind_pure_iff.1 escapes)
    exact .file (.set read discovered ordered read' passed) (escapes_setInDirectory_iff.1 stops)
  · rintro (⟨reached, stops⟩ | ⟨read, unlisted⟩)
    · cases reached with
      | metadata => exact escapes_bind_iff.2 (.inl (escapes_readIfThere_iff.2 stops))
      | themes read discovered order =>
        refine escapes_bind_iff.2 (.inr ⟨_, read, escapes_bind_iff.2 (.inr ⟨_, discovered, ?_⟩)⟩)
        refine escapes_bind_iff.2 (.inr ⟨_, order, ?_⟩)
        exact escapes_bind_iff.2 (.inl (escapes_readIfThere_iff.2 stops))
      | set read discovered order read' passed =>
        refine escapes_bind_iff.2 (.inr ⟨_, read, escapes_bind_iff.2 (.inr ⟨_, discovered, ?_⟩)⟩)
        refine escapes_bind_iff.2 (.inr ⟨_, order, ?_⟩)
        refine escapes_bind_iff.2 (.inr ⟨_, read', escapes_bind_pure_iff.2 ?_⟩)
        exact escapes_mapM_iff.2 ⟨_, _, _, rfl, passed, escapes_setInDirectory_iff.2 stops⟩
    · refine escapes_bind_iff.2 (.inr ⟨_, read, escapes_bind_iff.2 (.inl ?_)⟩)
      exact escapes_discover_iff.2 ⟨_, unlisted, rfl⟩

/-- Token input is not read, and no report says why. -/
inductive Unreported (disk : Disk) (entry : Path) : Failure → Prop
  /-- The path itself is too long. -/
  | entry {layout : Layout} : layoutOf entry = .ok layout → disk.TooLong entry →
      Unreported disk entry (.disk (.fault .nameTooLong entry))
  | document {failure : Failure} : layoutOf entry = .ok .document →
      Undecoded disk entry failure → Unreported disk entry failure
  | directory {failure : Failure} : layoutOf entry = .ok .directory →
      disk.isDirectory? entry = .ok true → Unlisted disk entry failure →
      Unreported disk entry failure

theorem escapes_read_iff :
    Escapes IsLoad (read disk entry) failure ↔ Unreported disk entry failure := by
  unfold read
  refine (escapes_bind_iff_of_reported fun _ => isLoad_of_layoutOf).trans ?_
  cases there : disk.exists? entry with
  | error e =>
    obtain ⟨tooLong, rfl⟩ := Disk.exists?_eq_error_iff.1 there
    constructor
    · rintro ⟨layout, isLayout, ⟨⟩, -⟩
      exact .entry isLayout tooLong
    · rintro (⟨isLayout, -⟩ | ⟨isLayout, undecoded⟩ | ⟨-, isDirectory, -⟩)
      · exact ⟨_, isLayout, rfl, not_isLoad_disk _⟩
      · obtain ⟨_, isFile⟩ := undecoded.exists_read
        cases there.symm.trans (Disk.exists?_of_read isFile)
      · cases there.symm.trans (Disk.exists?_of_isDirectory? isDirectory)
  | ok present =>
    have short := Disk.not_tooLong_of_exists? there
    cases present with
    | false =>
      refine iff_of_false ?_ ?_
      · rintro ⟨layout, -, ⟨⟩, unreported⟩
        exact unreported ⟨_, _, _, rfl⟩
      · rintro (⟨-, tooLong⟩ | ⟨-, undecoded⟩ | ⟨-, isDirectory, -⟩)
        · exact short tooLong
        · obtain ⟨_, isFile⟩ := undecoded.exists_read
          cases there.symm.trans (Disk.exists?_of_read isFile)
        · cases there.symm.trans (Disk.exists?_of_isDirectory? isDirectory)
    | true =>
      constructor
      · rintro ⟨layout, isLayout, escapes⟩
        cases layout with
        | document => exact .document isLayout ((escapes_readSingle_iff there).1 escapes)
        | directory =>
          have isDirectory := isDirectory_of_escapes there escapes
          exact .directory isLayout isDirectory ((escapes_readDirectory_iff isDirectory).1 escapes)
      · rintro (⟨-, tooLong⟩ | ⟨isLayout, undecoded⟩ | ⟨isLayout, isDirectory, unlisted⟩)
        · exact absurd tooLong short
        · exact ⟨_, isLayout, (escapes_readSingle_iff there).2 undecoded⟩
        · exact ⟨_, isLayout, (escapes_readDirectory_iff isDirectory).2 unlisted⟩

/-- What is built from is read before, and everything behind the reading is reported. -/
theorem load_unreported_iff {strictNames : Bool} :
    (load disk entry strictNames).outcome = .error failure ∧ ¬ IsLoad failure ↔
      Unreported disk entry failure := by
  refine Iff.trans ⟨?_, ?_⟩ escapes_read_iff
  · rintro ⟨failed, unreported⟩
    rcases Noted.outcome_bind_eq_error.1 failed with failed | ⟨raw, -, failed⟩
    · exact ⟨failed, unreported⟩
    · exact absurd (isLoad_of_build failed) unreported
  · rintro ⟨failed, unreported⟩
    exact ⟨Noted.outcome_bind_eq_error.2 (.inl failed), unreported⟩

end Source

/-! ## Settings -/

namespace Settings

variable {disk : Disk} {file : Path} {document : Entries Data} {failure : Failure}

/-- A failure that names a fault of the settings. -/
def IsConfig (failure : Failure) : Prop :=
  ∃ fault file, failure = .config fault file

/-- The document in a settings file. -/
def Holds (disk : Disk) (file : Path) (document : Entries Data) : Prop :=
  ∃ source, disk.HoldsText file source ∧ Toml.read source = .ok document

/-- A section that is no table, or a path in the first section that is no text. -/
inductive Misshapen (document : Entries Data) : Prop
  | sectionNotATable {name : String} {value : Data} : name = "build" ∨ name = "resolve" →
      document.get? name = some value → value.table? = none → Misshapen document
  | pathNotText {entries : Entries Data} {key : String} {value : Data} :
      document.get? "build" = some (.table entries) → key = "entry" ∨ key = "output" →
      entries.get? key = some value → value.text? = none → Misshapen document

/-- The first value of a draft that is refused is one that cannot be written. -/
inductive Unwritable (draft : Draft) : Prop
  | format : draft.format.longInteger? ≠ none → Unwritable draft
  | scope {format : Format} : Draft.word Format.ofName? draft.format = some format →
      draft.scope.longInteger? ≠ none → Unwritable draft

/-- Settings are not read, and no report says why. -/
inductive Unreported (disk : Disk) (file : Path) : Prop
  /-- A null character is in the path. -/
  | nullCharacter : disk.read file = .error .nullCharacter → Unreported disk file
  /-- The file is no text. -/
  | notText : disk.NotText file → Unreported disk file
  /-- The text is not read for another reason than a rule that it breaks. -/
  | unread {source : List Char} {e : Toml.Error} : disk.HoldsText file source →
      Toml.read source = .error e → e.fault.isMalformed = false → Unreported disk file
  | misshapen {document : Entries Data} : Holds disk file document → Misshapen document →
      Unreported disk file
  | unwritable {document : Entries Data} {draft : Draft} : Holds disk file document →
      draftOf document file = .ok draft → Unwritable draft → Unreported disk file

/-- A text that is not read is reported exactly when it breaks a rule. -/
theorem isConfig_unread_iff {e : Toml.Error} {source : List Char} :
    IsConfig (unread e source file) ↔ e.fault.isMalformed = true := by
  obtain ⟨fault, left⟩ := e
  cases fault with
  | tooManyDigits digits => exact iff_of_false (fun ⟨_, _, same⟩ => nomatch same) nofun
  | _ => exact iff_of_true ⟨_, _, rfl⟩ rfl

/-- A value that is refused is reported exactly when it can be written. -/
theorem isConfig_refusal_iff {value : Data} {fault : String → ConfigFault} {file : Option Path} :
    IsConfig (Draft.refusal value fault file) ↔ value.longInteger? = none := by
  unfold Draft.refusal
  cases value.longInteger? with
  | some n => exact iff_of_false (fun ⟨_, _, same⟩ => nomatch same) nofun
  | none => exact iff_of_true ⟨_, _, rfl⟩ rfl

/-- A word can be written. -/
theorem longInteger?_of_word {α : Type} {ofName? : String → Option α} {value : Data} {a : α}
    (isWord : Draft.word ofName? value = some a) : value.longInteger? = none := by
  cases value with
  | text => rfl
  | _ => cases isWord

theorem escapes_check_iff {draft : Draft} :
    (∃ failure, Escapes IsConfig draft.check failure) ↔ Unwritable draft := by
  unfold Escapes Draft.check
  cases format : Draft.word Format.ofName? draft.format with
  | none =>
    constructor
    · rintro ⟨_, ⟨⟩, unreported⟩
      exact .format (mt isConfig_refusal_iff.2 unreported)
    · rintro (long | ⟨accepted, -⟩)
      · exact ⟨_, rfl, mt isConfig_refusal_iff.1 long⟩
      · cases format.symm.trans accepted
  | some word =>
    have written := longInteger?_of_word format
    cases scope : Draft.word ThemeScope.ofName? draft.scope with
    | none =>
      constructor
      · rintro ⟨_, ⟨⟩, unreported⟩
        exact .scope format (mt isConfig_refusal_iff.2 unreported)
      · rintro (long | ⟨-, long⟩)
        · exact absurd written long
        · exact ⟨_, rfl, mt isConfig_refusal_iff.1 long⟩
    | some =>
      refine iff_of_false ?_ ?_
      · rintro ⟨failure, stopped, unreported⟩
        dsimp only at stopped
        split at stopped <;> cases stopped
        exact unreported ⟨_, _, rfl⟩
      · rintro (long | ⟨-, long⟩)
        · exact long written
        · exact long (longInteger?_of_word scope)

theorem sectionOf_eq_error_iff {name : String} :
    sectionOf document name = .error failure ↔ failure = .sectionNotATable name ∧
      ∃ value, document.get? name = some value ∧ value.table? = none := by
  unfold sectionOf
  rcases document.get? name with _ | value
  · simp
  · cases value <;> simp [Data.table?, eq_comm]

theorem pathIn_eq_error_iff {entries : Entries Data} {base : Path} {key otherwise : String} :
    pathIn entries base key otherwise = .error failure ↔ failure = .pathNotText key ∧
      ∃ value, entries.get? key = some value ∧ value.text? = none := by
  unfold pathIn
  rcases entries.get? key with _ | value
  · simp
  · cases value <;> simp [Data.text?, eq_comm]

/-- What a section holds is in the document. -/
theorem get?_of_sectionOf {name key : String} {entries : Entries Data} {value : Data}
    (found : sectionOf document name = .ok entries) (there : entries.get? key = some value) :
    document.get? name = some (.table entries) := by
  unfold sectionOf at found
  split at found
  · cases found
    cases there
  next isTable =>
    cases found
    exact isTable
  · cases found

/-- A draft fails for the shape of its document, and with no report. -/
theorem misshapen_of_draftOf (failed : draftOf document file = .error failure) :
    Misshapen document ∧ ¬ IsConfig failure := by
  have sections {name : String} (listed : name = "build" ∨ name = "resolve")
      (failed : sectionOf document name = .error failure) :
      Misshapen document ∧ ¬ IsConfig failure := by
    obtain ⟨rfl, value, there, notTable⟩ := sectionOf_eq_error_iff.1 failed
    exact ⟨.sectionNotATable listed there notTable, fun ⟨_, _, same⟩ => nomatch same⟩
  have paths {build : Entries Data} {base : Path} {key otherwise : String}
      (found : sectionOf document "build" = .ok build) (listed : key = "entry" ∨ key = "output")
      (failed : pathIn build base key otherwise = .error failure) :
      Misshapen document ∧ ¬ IsConfig failure := by
    obtain ⟨rfl, value, there, notText⟩ := pathIn_eq_error_iff.1 failed
    exact ⟨.pathNotText (get?_of_sectionOf found there) listed there notText,
      fun ⟨_, _, same⟩ => nomatch same⟩
  rcases Except.bind_eq_error.1 failed with failed | ⟨build, found, failed⟩
  · exact sections (.inl rfl) failed
  rcases Except.bind_eq_error.1 failed with failed | ⟨_, -, failed⟩
  · exact paths found (.inl rfl) failed
  rcases Except.bind_eq_error.1 failed with failed | ⟨_, -, failed⟩
  · exact paths found (.inr rfl) failed
  rcases Except.bind_eq_error.1 failed with failed | ⟨_, -, last⟩
  · exact sections (.inr rfl) failed
  · cases last

theorem draftOf_of_misshapen (misshapen : Misshapen document) :
    ∃ failure, draftOf document file = .error failure := by
  cases drafted : draftOf document file with
  | error failure => exact ⟨failure, rfl⟩
  | ok draft =>
    obtain ⟨build, found, drafted⟩ := Except.bind_eq_ok.1 drafted
    obtain ⟨_, entry, drafted⟩ := Except.bind_eq_ok.1 drafted
    obtain ⟨_, output, drafted⟩ := Except.bind_eq_ok.1 drafted
    obtain ⟨_, found', -⟩ := Except.bind_eq_ok.1 drafted
    exfalso
    cases misshapen with
    | sectionNotATable listed there notTable =>
      have failed := sectionOf_eq_error_iff.2 ⟨rfl, _, there, notTable⟩
      rcases listed with rfl | rfl
      · cases failed.symm.trans found
      · cases failed.symm.trans found'
    | @pathNotText entries key value isTable listed there notText =>
      have section' : sectionOf document "build" = .ok entries := by
        unfold sectionOf
        rw [isTable]
      cases section'.symm.trans found
      have failed (base : Path) (otherwise : String) :
          pathIn build base key otherwise = .error (.pathNotText key) :=
        pathIn_eq_error_iff.2 ⟨rfl, value, there, notText⟩
      rcases listed with rfl | rfl
      · cases (failed _ _).symm.trans entry
      · cases (failed _ _).symm.trans output

/-- A document that could be read goes unreported for its shape, or for a value that cannot be
written. -/
theorem escapes_draft_iff :
    (∃ failure, Escapes IsConfig (draftOf document file >>= Draft.check) failure) ↔
      Misshapen document ∨ ∃ draft, draftOf document file = .ok draft ∧ Unwritable draft := by
  simp only [escapes_bind_iff, exists_or]
  refine or_congr ⟨?_, ?_⟩ ?_
  · rintro ⟨failure, failed, -⟩
    exact (misshapen_of_draftOf failed).1
  · intro misshapen
    obtain ⟨failure, failed⟩ := draftOf_of_misshapen misshapen
    exact ⟨failure, failed, (misshapen_of_draftOf failed).2⟩
  · rw [exists_comm]
    simp only [exists_and_left, escapes_check_iff]

/-- What goes wrong with settings that are a text is what goes wrong with reading it or with the
document. -/
theorem unreported_iff_of_holdsText {source : List Char} (holds : disk.HoldsText file source) :
    Unreported disk file ↔
      (∃ e, Toml.read source = .error e ∧ e.fault.isMalformed = false) ∨
        ∃ document, Toml.read source = .ok document ∧
          (Misshapen document ∨ ∃ draft, draftOf document file = .ok draft ∧ Unwritable draft) := by
  constructor
  · rintro (refused | notText | ⟨holds', failed, follows⟩ | ⟨⟨_, holds', read⟩, misshapen⟩ |
      ⟨⟨_, holds', read⟩, drafted, long⟩)
    · obtain ⟨_, isFile, -⟩ := holds
      cases refused.symm.trans isFile
    · exact absurd notText holds.not_notText
    · cases holds.unique holds'
      exact .inl ⟨_, failed, follows⟩
    · cases holds.unique holds'
      exact .inr ⟨_, read, .inl misshapen⟩
    · cases holds.unique holds'
      exact .inr ⟨_, read, .inr ⟨_, drafted, long⟩⟩
  · rintro (⟨e, failed, follows⟩ | ⟨document, read, misshapen | ⟨draft, drafted, long⟩⟩)
    · exact .unread holds failed follows
    · exact .misshapen ⟨_, holds, read⟩ misshapen
    · exact .unwritable ⟨_, holds, read⟩ drafted long

theorem load_unreported_iff :
    (∃ failure, load disk file = .error failure ∧ ¬ IsConfig failure) ↔ Unreported disk file := by
  unfold load
  cases isFile : disk.read file with
  | error e =>
    cases e with
    | nullCharacter =>
      exact iff_of_true ⟨_, rfl, fun ⟨_, _, same⟩ => nomatch same⟩ (.nullCharacter isFile)
    | fault cause path =>
      refine iff_of_false ?_ ?_
      · rintro ⟨_, ⟨⟩, unreported⟩
        exact unreported ⟨_, _, rfl⟩
      · rintro (refused | ⟨_, isFile', -⟩ | ⟨⟨_, isFile', -⟩, -⟩ | ⟨⟨_, ⟨_, isFile', -⟩, -⟩, -⟩ |
          ⟨⟨_, ⟨_, isFile', -⟩, -⟩, -⟩)
        · cases isFile.symm.trans refused
        all_goals cases isFile.symm.trans isFile'
  | ok bytes =>
    cases decoded : Text.ofBytes? bytes with
    | none =>
      dsimp only
      rw [decoded]
      exact iff_of_true ⟨_, rfl, fun ⟨_, _, same⟩ => nomatch same⟩ (.notText ⟨_, isFile, decoded⟩)
    | some source =>
      dsimp only
      rw [decoded, unreported_iff_of_holdsText ⟨bytes, isFile, decoded⟩]
      dsimp only
      cases read : Toml.read source with
      | error e =>
        constructor
        · rintro ⟨_, ⟨⟩, unreported⟩
          rw [isConfig_unread_iff, Bool.not_eq_true] at unreported
          exact .inl ⟨e, rfl, unreported⟩
        · rintro (⟨_, ⟨⟩, follows⟩ | ⟨_, ⟨⟩, -⟩)
          refine ⟨_, rfl, ?_⟩
          rw [isConfig_unread_iff, follows]
          exact Bool.false_ne_true
      | ok document =>
        refine escapes_draft_iff.trans ?_
        constructor
        · exact fun escapes => .inr ⟨document, rfl, escapes⟩
        · rintro (⟨_, ⟨⟩, -⟩ | ⟨_, ⟨⟩, escapes⟩)
          exact escapes

end Settings

/-! ## What is not reported -/

/-- A text with an integer of too many digits is not read, and no report says why. -/
theorem unreported_of_long {disk : Disk} {path : Path} {digits rest : List Char}
    (long : LongDigits digits) (ends : EndsInteger rest) :
    (disk.HoldsText path (digits ++ rest) →
        Source.Undecoded disk path (.badNumber (String.ofList digits))) ∧
      (disk.HoldsText path ('x' :: '=' :: (digits ++ rest)) → Settings.Unreported disk path) :=
  ⟨fun holds => .unread holds (Json.read_of_long long ends) rfl,
    fun holds => .unread holds (Toml.read_of_long long ends) rfl⟩

/-- When the reading of token input or of settings stops for a reason that no report names. The
integers that are not read are among the reasons. -/
theorem unreported_iff (disk : Disk) (path : Path) (strictNames : Bool) :
    (∀ failure, (Source.load disk path strictNames).outcome = .error failure ∧
        ¬ Source.IsLoad failure ↔ Source.Unreported disk path failure) ∧
      ((∃ failure, Settings.load disk path = .error failure ∧ ¬ Settings.IsConfig failure) ↔
        Settings.Unreported disk path) ∧
      ∀ digits rest, LongDigits digits → EndsInteger rest →
        (disk.HoldsText path (digits ++ rest) →
          Source.Undecoded disk path (.badNumber (String.ofList digits))) ∧
        (disk.HoldsText path ('x' :: '=' :: (digits ++ rest)) → Settings.Unreported disk path) :=
  ⟨fun _ => Source.load_unreported_iff, Settings.load_unreported_iff,
    fun _ _ long ends => unreported_of_long long ends⟩

/-- Token input that is no text, and settings with a number for a section, are refused with no
report of what is wrong with them. -/
theorem not_all_reported :
    ¬ (∀ (disk : Disk) (entry : Path) (strictNames : Bool),
      (∃ library, (Source.load disk entry strictNames).outcome = .ok library) ∨
        ∃ failure, (Source.load disk entry strictNames).outcome = .error failure ∧
          Source.IsLoad failure) ∧
    ¬ (∀ (disk : Disk) (file : Path),
      (∃ settings, Settings.load disk file = .ok settings) ∨
        ∃ failure, Settings.load disk file = .error failure ∧ Settings.IsConfig failure) := by
  constructor
  · intro all
    have unreported : Source.Unreported ⟨.directory [("tokens.json", .file ⟨#[0xFF]⟩)], []⟩
        (Path.ofText "tokens.json") .badEncoding :=
      .document rfl (.notText ⟨_, rfl, by decide⟩)
    obtain ⟨stopped, unreported⟩ := (@Source.load_unreported_iff _ _ _ false).2 unreported
    rcases all _ _ false with ⟨library, loaded⟩ | ⟨failure, stopped', reported⟩
    · cases loaded.symm.trans stopped
    · cases stopped'.symm.trans stopped
      exact unreported reported
  · intro all
    have decoded : Text.ofBytes? "build = 3".toUTF8 = some "build = 3".toList :=
      Text.ofBytes?_toUTF8 (by decide)
    have holds : Settings.Holds ⟨.directory [("figtok.toml", .file "build = 3".toUTF8)], []⟩
        settingsFile [("build", .integer 3)] := ⟨_, ⟨_, rfl, decoded⟩, by cbv⟩
    have misshapen : Settings.Misshapen [("build", .integer 3)] :=
      .sectionNotATable (.inl rfl) rfl rfl
    obtain ⟨failure, stopped, unreported⟩ :=
      Settings.load_unreported_iff.2 (.misshapen holds misshapen)
    rcases all _ settingsFile with ⟨settings, loaded⟩ | ⟨failure', stopped', reported⟩
    · cases loaded.symm.trans stopped
    · cases stopped'.symm.trans stopped
      exact unreported reported

end DesignTokens
