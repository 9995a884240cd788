import DesignTokens.Proofs.Disk.Making
import DesignTokens.Proofs.Rendering.Writing
import Mathlib.Data.List.Pairwise

/-!
# What is written

Files are written one after another below an output directory. When no file is at the place of
another, or on the way to it, all of them are there afterwards (`runs_writeFiles`).

Before that the output directory may be removed. It is removed where it is found and is named by its
own name, and then the written files are the only ones in it. A path that leads up at its end names
a directory that cannot be removed: it loses what is in it and nothing is written. A path that leads
through a directory that is not there yet finds nothing to remove, and then older files stay
(`write_outcome`).
-/

namespace DesignTokens.Output

open Disk

variable {working : List String} {directory : Path} {files rest : List (String × String)}
  {file other : String × String} {disk : Disk} {q : Path}

/-! ## Places of files -/

/-- The names of a file below the output directory. -/
def names (file : String × String) : List String :=
  (Path.ofText file.1).components

/-- The place of a file. -/
def target (working : List String) (directory : Path) (file : String × String) : List String :=
  (directory ++ Path.ofText file.1).place working

/-- Files that can be written below a directory, each in a place of its own. -/
structure Places (working : List String) (directory : Path) (files : List (String × String)) :
    Prop where
  short : Short directory.components
  fits : ∀ file ∈ files, Fits directory (Path.ofText file.1)
  named : ∀ file ∈ files, names file ≠ []
  /-- No file has the place of another, or one on the way to it. -/
  apart : files.Pairwise fun file other =>
    ¬ names file <+: names other ∧ ¬ names other <+: names file
  /-- The way to the directory does not lead through what is in it. -/
  direct : ∀ q ∈ directory.way, directory.place working <+: q.place working →
    q.place working = directory.place working

theorem Places.of_cons (places : Places working directory (file :: rest)) :
    Places working directory rest where
  short := places.short
  fits := fun other there => places.fits other (List.mem_cons_of_mem _ there)
  named := fun other there => places.named other (List.mem_cons_of_mem _ there)
  apart := (List.pairwise_cons.1 places.apart).2
  direct := places.direct

theorem settled_of_down {names : List String} (down : Down names) (here : List String) :
    Path.settled here names = here ++ names := by
  induction names generalizing here with
  | nil => exact (List.append_nil here).symm
  | cons name rest ih =>
    obtain ⟨⟨notUp, -⟩, down⟩ := List.forall_mem_cons.1 down
    rw [Path.settled_cons_of_ne notUp, ih down, List.append_assoc]
    rfl

theorem place_append {names : List String} (down : Down names) :
    Path.place working ⟨directory.root, directory.components ++ names⟩ =
      directory.place working ++ names := by
  unfold Path.place
  rw [Path.settled_append, settled_of_down down]

theorem target_eq (fits : Fits directory (Path.ofText file.1)) :
    target working directory file = directory.place working ++ names file := by
  unfold target
  rw [join_of_relative fits.relative, place_append fits.down]
  rfl

/-- On the way to a file are directories on the way to the output directory, and directories in it
on the way to the file. -/
theorem mem_way_parent (fits : Fits directory (Path.ofText file.1)) (named : names file ≠ [])
    (there : q ∈ (directory ++ Path.ofText file.1).parent.way) :
    q ∈ directory.way ∨ ∃ front, front <+: (names file).dropLast ∧
      q.place working = directory.place working ++ front := by
  obtain ⟨front, some, leads, rfl⟩ := Path.mem_way there
  rw [join_of_relative fits.relative] at leads ⊢
  have leads : front <+: (directory.components ++ names file).dropLast := leads
  rw [List.dropLast_append_of_ne_nil named] at leads
  obtain ⟨rest, whole⟩ := leads
  rcases List.append_eq_append_iff.1 whole with ⟨more, above, -⟩ | ⟨more, rfl, below⟩
  · exact .inl (Path.mem_way_of_front some ⟨more, above.symm⟩)
  · have leads : more <+: (names file).dropLast := ⟨rest, below.symm⟩
    have down : Down more := fun name there =>
      fits.down name ((leads.trans (List.dropLast_prefix _)).subset there)
    have isPlace : Path.place working ⟨directory.root, directory.components ++ more⟩ =
        directory.place working ++ more := place_append down
    exact .inr ⟨more, leads, isPlace⟩

/-- No file is in the place of another. -/
theorem Places.target_ne (places : Places working directory (file :: rest)) (there : other ∈ rest) :
    target working directory other ≠ target working directory file := by
  intro same
  rw [target_eq (places.fits other (List.mem_cons_of_mem _ there)),
    target_eq (places.fits file List.mem_cons_self)] at same
  have names := List.append_cancel_left same
  have apart := ((List.pairwise_cons.1 places.apart).1 other there).1
  rw [names] at apart
  exact apart List.prefix_rfl

/-- No file is on the way to another, or to itself. -/
theorem Places.place_ne (places : Places working directory files) (isFile : file ∈ files)
    (isOther : other ∈ files) (there : q ∈ (directory ++ Path.ofText other.1).parent.way) :
    q.place working ≠ target working directory file := by
  intro same
  rw [target_eq (places.fits file isFile)] at same
  rcases mem_way_parent (places.fits other isOther) (places.named other isOther) there with
    onWay | ⟨front, leads, isPlace⟩
  · have inside := places.direct q onWay (same ▸ List.prefix_append _ _)
    rw [inside] at same
    exact places.named file isFile (List.append_right_eq_self.1 same.symm)
  · rw [isPlace] at same
    obtain rfl := List.append_cancel_left same
    by_cases equal : file = other
    · subst equal
      have shorter := leads.length_le
      rw [List.length_dropLast] at shorter
      have some := List.length_pos_iff.2 (places.named file isFile)
      omega
    · have symmetric : Std.Symm fun file other : String × String =>
          ¬ names file <+: names other ∧ ¬ names other <+: names file :=
        ⟨fun _ _ apart => apart.symm⟩
      have apart := places.apart.forall isFile isOther equal
      exact apart.1 (leads.trans (List.dropLast_prefix _))

/-! ## Files that are written -/

/-- Nothing is in the way of the files: no file is where a directory is needed, and no directory in
the place of a file. -/
structure Open (disk : Disk) (directory : Path) (files : List (String × String)) : Prop where
  start : disk.top.standing (disk.origin directory) = .directory
  noFile : ∀ file ∈ files, ∀ q ∈ (directory ++ Path.ofText file.1).parent.way, ∀ bytes,
    disk.top.standing (q.place disk.working) ≠ .file bytes
  noDirectory : ∀ file ∈ files,
    disk.top.standing (target disk.working directory file) ≠ .directory

theorem Places.short_append (places : Places working directory files) (isFile : file ∈ files) :
    Short (directory.components ++ names file) := by
  intro name there notUp
  rcases List.mem_append.1 there with there | there
  · exact places.short name there notUp
  · exact ((places.fits file isFile).down name there).2

/-- A file is written when nothing is in its way. -/
theorem runs_writeFile (places : Places disk.working directory files) (isFile : file ∈ files)
    (way : Open disk directory files) :
    ∃ after, Runs (writeFile directory file) disk (directory ++ Path.ofText file.1) after ∧
      after.top.standing (target disk.working directory file) = .file file.2.toUTF8 := by
  have fits := places.fits file isFile
  have path : directory ++ Path.ofText file.1 =
      ⟨directory.root, directory.components ++ names file⟩ := join_of_relative fits.relative
  have some : (directory ++ Path.ofText file.1).components ≠ [] := by
    rw [path]
    exact List.append_ne_nil_of_right_ne_nil _ (places.named file isFile)
  have short : Short (directory ++ Path.ofText file.1).components := by
    rw [path]
    exact places.short_append isFile
  have start : disk.top.standing (disk.origin (directory ++ Path.ofText file.1)) =
      .directory := by
    rw [path]
    exact way.start
  obtain ⟨middle, after, runs, runs', written⟩ := runs_writeBelow some fits.admitted short start
    (way.noFile file isFile) (way.noDirectory file isFile)
    fun q there => places.place_ne isFile isFile there
  exact ⟨after, runs.bind (runs'.bind (runs_pure _ _)), written⟩

/-- Files that are written change their own places, and make the directories on the way to them. -/
theorem keeps_writeFiles (named : ∀ file ∈ files, names file ≠ []) :
    Keeps working (fun place => ∃ file ∈ files, place = target working directory file)
      (OnWay working directory files) (files.mapM (writeFile directory)) :=
  Keeps.mapM fun file there => keeps_writeFile (named file there) ⟨file, there, rfl⟩
    fun q onWay => ⟨file, there, q, onWay, rfl⟩

/-- Nothing comes in the way of the files behind one that is written. -/
theorem Open.of_framed {after : Disk} (places : Places disk.working directory (file :: rest))
    (way : Open disk directory (file :: rest))
    (framed : Framed (· = target disk.working directory file)
      (fun place => ∃ q ∈ (directory ++ Path.ofText file.1).parent.way,
        q.place disk.working = place) disk after) :
    Open after directory rest where
  start := by
    rw [origin_congr framed.working]
    refine framed.directory (fun same => ?_) way.start
    exact way.noDirectory file List.mem_cons_self (same ▸ way.start)
  noFile := fun other there q onWay bytes isFile => by
    rw [framed.working] at isFile
    have behind := List.mem_cons_of_mem file there
    have differs := places.place_ne List.mem_cons_self behind onWay
    exact way.noFile other behind q onWay bytes ((framed.file_iff differs).1 isFile)
  noDirectory := fun other there isDirectory => by
    rw [framed.working] at isDirectory
    have behind := List.mem_cons_of_mem file there
    have stays : ¬ ∃ q ∈ (directory ++ Path.ofText file.1).parent.way,
        q.place disk.working = target disk.working directory other :=
      fun ⟨q, onWay, same⟩ => places.place_ne behind List.mem_cons_self onWay same
    rw [framed.standing_eq (places.target_ne there) stays] at isDirectory
    exact way.noDirectory other behind isDirectory

/-- All files are written, and are there afterwards. -/
theorem runs_writeFiles (places : Places disk.working directory files)
    (way : Open disk directory files) :
    ∃ after, Runs (files.mapM (writeFile directory)) disk
        (files.map fun file => directory ++ Path.ofText file.1) after ∧
      ∀ file ∈ files,
        after.top.standing (target disk.working directory file) = .file file.2.toUTF8 := by
  induction files generalizing disk with
  | nil =>
    rw [List.mapM_nil]
    exact ⟨disk, runs_pure _ _, nofun⟩
  | cons file rest ih =>
    obtain ⟨middle, runs, written⟩ := runs_writeFile places List.mem_cons_self way
    have keeps : Keeps disk.working (· = target disk.working directory file)
        (fun place => ∃ q ∈ (directory ++ Path.ofText file.1).parent.way,
          q.place disk.working = place) (writeFile directory file) :=
      keeps_writeFile (places.named file List.mem_cons_self) rfl fun q there => ⟨q, there, rfl⟩
    have framed := keeps.framed rfl runs
    have places' : Places middle.working directory rest := by
      rw [framed.working]
      exact places.of_cons
    obtain ⟨after, runs', written'⟩ := ih places' (way.of_framed places framed)
    refine ⟨after, ?_, List.forall_mem_cons.2 ⟨?_, ?_⟩⟩
    · rw [List.mapM_cons]
      exact runs.bind (runs'.bind (runs_pure _ _))
    · -- The files behind it are in other places.
      have framed' := (keeps_writeFiles places'.named).framed rfl runs'
      rw [framed.working] at framed'
      have other : ¬ ∃ other ∈ rest,
          target disk.working directory file = target disk.working directory other :=
        fun ⟨other, there, same⟩ => places.target_ne there same.symm
      exact (framed'.file_iff other).2 written
    · rwa [framed.working] at written'

/-! ## The output directory -/

/-- The output directory is found, and what is in it is removed. -/
def Cleared (disk : Disk) (directory : Path) (clean : Bool) : Prop :=
  clean = true ∧ disk.exists? directory = .ok true

/-- Files can be written below an output directory that is a directory or is not there. What is
removed before is in the way of none. -/
structure Ready (disk : Disk) (directory : Path) (clean : Bool) (files : List (String × String)) :
    Prop where
  start : disk.top.standing (disk.origin directory) = .directory
  admitted : admits directory = .ok ()
  places : Places disk.working directory files
  noFileAbove : ∀ q ∈ directory.way, ∀ bytes,
    disk.top.standing (q.place disk.working) ≠ .file bytes
  noFile : ¬ Cleared disk directory clean → ∀ file ∈ files,
    ∀ q ∈ (directory ++ Path.ofText file.1).parent.way, ∀ bytes,
      disk.top.standing (q.place disk.working) ≠ .file bytes
  noDirectory : ¬ Cleared disk directory clean → ∀ file ∈ files,
    disk.top.standing (target disk.working directory file) ≠ .directory
  /-- The directory that the path is taken from is not removed itself. -/
  outside : Cleared disk directory clean → EndsInName directory →
    ¬ directory.place disk.working <+: disk.origin directory

/-- What is in the directory is gone, if it is cleared, and nothing else is another. -/
structure Emptied (cleared : Prop) (directory : Path) (before after : Disk) : Prop where
  working : after.working = before.working
  gone : cleared → ∀ place, directory.place before.working <+: place →
    after.top.standing place = .nothing
  kept : ∀ place, ¬ (cleared ∧ directory.place before.working <+: place) →
    after.top.standing place = before.top.standing place

variable {clean : Bool}

theorem Emptied.refl {cleared : Prop} (not : ¬ cleared) (disk : Disk) :
    Emptied cleared directory disk disk where
  working := rfl
  gone := fun is => absurd is not
  kept := fun _ _ => rfl

theorem Emptied.file_iff {cleared : Prop} {after : Disk} {place : List String} {bytes : ByteArray}
    (emptied : Emptied cleared directory disk after) :
    after.top.standing place = .file bytes ↔
      ¬ (cleared ∧ directory.place disk.working <+: place) ∧
        disk.top.standing place = .file bytes := by
  by_cases inside : cleared ∧ directory.place disk.working <+: place
  · rw [emptied.gone inside.1 place inside.2]
    exact iff_of_false nofun fun is => is.1 inside
  · rw [emptied.kept place inside]
    exact (and_iff_right inside).symm

/-- The path leads to a directory, if it leads to anything. -/
theorem Ready.locate (ready : Ready disk directory clean files)
    (there : disk.exists? directory = .ok true) :
    ∃ entries, disk.locate directory =
      .ok (directory.place disk.working, some (.directory entries)) := by
  obtain ⟨place, node, located⟩ := locate_of_exists? there
  cases node with
  | directory entries => exact ⟨entries, by rw [located, ← place_of_locate located]⟩
  | file bytes =>
    have isFile := Node.standing_of_get? (get?_of_locate located)
    rw [place_of_locate located] at isFile
    by_cases none : directory.components = []
    · -- The path of no names leads to where it starts.
      rw [place_eq, none] at isFile
      cases ready.start.symm.trans isFile
    · exact absurd isFile (ready.noFileAbove directory (Path.mem_way_self none) bytes)

/-- What is done before files are written. -/
def prepare (directory : Path) (clean : Bool) : DiskWork Unit :=
  if clean then clear directory else pure ()

theorem write_eq (directory : Path) (clean : Bool) (files : List (String × String)) :
    write directory clean files =
      prepare directory clean >>= fun _ => files.mapM (writeFile directory) := by
  cases clean <;> rfl

/-- An output directory that is found is removed by its own name. -/
theorem runs_clear (ready : Ready disk directory clean files) (ends : EndsInName directory)
    (cleared : Cleared disk directory clean) :
    ∃ after, Runs (clear directory) disk () after ∧
      Emptied (Cleared disk directory clean) directory disk after := by
  obtain ⟨entries, located⟩ := ready.locate cleared.2
  have removed : Runs (clear directory) disk ()
      { disk with top := disk.top.erase (directory.place disk.working) } :=
    Runs.bind (a := true) (runs_look cleared.2) (runs_removeTree ends located)
  refine ⟨_, removed, rfl, ?_, ?_⟩
  · rintro - place ⟨rest, rfl⟩
    exact Node.get?_eq_none_iff.1 (Node.get?_erase (ends.place_ne_nil _) (get?_of_locate located))
  · intro place outside
    exact Node.standing_erase (get?_of_locate located) fun inside => outside ⟨cleared, inside⟩

/-- The output directory is removed, if it is found and can be removed. -/
theorem runs_prepare (ready : Ready disk directory clean files)
    (removable : Cleared disk directory clean → EndsInName directory) :
    ∃ after, Runs (prepare directory clean) disk () after ∧
      Emptied (Cleared disk directory clean) directory disk after := by
  cases clean with
  | false => exact ⟨disk, runs_pure _ _, .refl (fun cleared => nomatch cleared.1) disk⟩
  | true =>
    have short : ¬ disk.TooLong directory := not_tooLong ready.admitted ready.places.short
    obtain ⟨present, there⟩ := exists_exists? short
    cases present with
    | false =>
      have missing : ¬ Cleared disk directory true := fun cleared =>
        nomatch there.symm.trans cleared.2
      exact ⟨disk, (runs_look there).bind (runs_pure _ _), .refl missing disk⟩
    | true => exact runs_clear ready (removable ⟨rfl, there⟩) ⟨rfl, there⟩

/-- Once what is removed is gone, nothing is in the way of the files. -/
theorem Ready.way {after : Disk} (ready : Ready disk directory clean files)
    (removable : Cleared disk directory clean → EndsInName directory)
    (emptied : Emptied (Cleared disk directory clean) directory disk after) :
    Open after directory files where
  start := by
    rw [origin_congr emptied.working, emptied.kept _ fun ⟨cleared, inside⟩ =>
      ready.outside cleared (removable cleared) inside]
    exact ready.start
  noFile := fun file there q onWay bytes isFile => by
    rw [emptied.working] at isFile
    obtain ⟨stays, wasFile⟩ := emptied.file_iff.1 isFile
    rcases mem_way_parent (ready.places.fits file there) (ready.places.named file there) onWay with
      above | ⟨front, -, isPlace⟩
    · exact ready.noFileAbove q above bytes wasFile
    · have inside : directory.place disk.working <+: q.place disk.working :=
        isPlace ▸ List.prefix_append _ _
      exact ready.noFile (fun cleared => stays ⟨cleared, inside⟩) file there q onWay bytes wasFile
  noDirectory := fun file there isDirectory => by
    rw [emptied.working] at isDirectory
    have inside : directory.place disk.working <+: target disk.working directory file := by
      rw [target_eq (ready.places.fits file there)]
      exact List.prefix_append _ _
    by_cases cleared : Cleared disk directory clean
    · cases (emptied.gone cleared _ inside).symm.trans isDirectory
    · rw [emptied.kept _ fun both => cleared both.1] at isDirectory
      exact ready.noDirectory cleared file there isDirectory

/-! ## What is there afterwards -/

/-- The files are there afterwards, and of the others those that were there and were not removed. -/
theorem runs_write_of_removable (ready : Ready disk directory clean files)
    (removable : Cleared disk directory clean → EndsInName directory) :
    ∃ after, Runs (write directory clean files) disk
        (files.map fun file => directory ++ Path.ofText file.1) after ∧
      ∀ place bytes, after.top.standing place = .file bytes ↔
        (∃ file ∈ files, place = target disk.working directory file ∧ bytes = file.2.toUTF8) ∨
        (∀ file ∈ files, place ≠ target disk.working directory file) ∧
          ¬ (Cleared disk directory clean ∧ directory.place disk.working <+: place) ∧
          disk.top.standing place = .file bytes := by
  obtain ⟨start, runs, emptied⟩ := runs_prepare ready removable
  have places : Places start.working directory files := emptied.working ▸ ready.places
  obtain ⟨after, runs', written⟩ := runs_writeFiles places (ready.way removable emptied)
  have framed := (keeps_writeFiles places.named).framed rfl runs'
  rw [emptied.working] at written framed
  refine ⟨after, write_eq directory clean files ▸ runs.bind runs', fun place bytes => ?_⟩
  by_cases isTarget : ∃ file ∈ files, place = target disk.working directory file
  · obtain ⟨file, there, rfl⟩ := isTarget
    rw [written file there]
    constructor
    · rintro ⟨⟩
      exact .inl ⟨file, there, rfl, rfl⟩
    · rintro (⟨other, there', same, rfl⟩ | ⟨apart, -⟩)
      · have stands := written other there'
        rw [← same, written file there] at stands
        exact stands
      · exact absurd rfl (apart file there)
  · rw [framed.file_iff isTarget, emptied.file_iff]
    constructor
    · exact fun others => .inr ⟨fun file there same => isTarget ⟨file, there, same⟩, others⟩
    · rintro (⟨file, there, same, -⟩ | ⟨-, others⟩)
      · exact absurd ⟨file, there, same⟩ isTarget
      · exact others

/-- A directory that is put in the place of another has no file in it. -/
theorem file_iff_of_put_empty {place other : List String} {bytes : ByteArray} {found : Node}
    (there : disk.top.get? place = some found) :
    (disk.top.put .empty place).standing other = .file bytes ↔
      ¬ place <+: other ∧ disk.top.standing other = .file bytes := by
  by_cases inside : place <+: other
  · obtain ⟨rest, rfl⟩ := inside
    refine iff_of_false (fun isFile => ?_) fun is => is.1 (List.prefix_append _ _)
    have isFile := Node.get?_eq_file_iff.2 isFile
    rw [Node.get?_put] at isFile
    cases rest <;> cases isFile
  · rw [Node.standing_put (Node.reaches_of_get? there) inside]
    exact (and_iff_right inside).symm

/-- A directory that cannot be removed loses what is in it, and nothing is written. -/
theorem write_fails (ready : Ready disk directory clean files)
    (cleared : Cleared disk directory clean) (fixed : ¬ EndsInName directory) :
    ∃ e after, (write directory clean files).run.run disk = (.error e, after) ∧
      ∀ place bytes, after.top.standing place = .file bytes ↔
        ¬ directory.place disk.working <+: place ∧ disk.top.standing place = .file bytes := by
  have prepared : prepare directory clean = clear directory := if_pos cleared.1
  obtain ⟨entries, located⟩ := ready.locate cleared.2
  obtain ⟨e, fails⟩ := removeTree_fails fixed located
  rw [write_eq, prepared]
  refine ⟨e, _, fails_bind (Runs.bind_fails (a := true) (runs_look cleared.2) fails), ?_⟩
  exact fun _ _ => file_iff_of_put_empty (get?_of_locate located)

/-- Files are written so that they are there, next to those that were there before and were not
removed, unless the output directory is found and cannot be removed. Then all that is in it is gone,
and no file is written. -/
theorem write_outcome (ready : Ready disk directory clean files) :
    ((Cleared disk directory clean → EndsInName directory) →
      ∃ after, Runs (write directory clean files) disk
          (files.map fun file => directory ++ Path.ofText file.1) after ∧
        ∀ place bytes, after.top.standing place = .file bytes ↔
          (∃ file ∈ files, place = target disk.working directory file ∧ bytes = file.2.toUTF8) ∨
          (∀ file ∈ files, place ≠ target disk.working directory file) ∧
            ¬ (Cleared disk directory clean ∧ directory.place disk.working <+: place) ∧
            disk.top.standing place = .file bytes) ∧
    (Cleared disk directory clean → ¬ EndsInName directory →
      ∃ e after, (write directory clean files).run.run disk = (.error e, after) ∧
        ∀ place bytes, after.top.standing place = .file bytes ↔
          ¬ directory.place disk.working <+: place ∧ disk.top.standing place = .file bytes) :=
  ⟨runs_write_of_removable ready, write_fails ready⟩

/-- A disk with an older file in a directory. -/
def builtDisk : Disk :=
  ⟨.directory [("build", .directory [("old.css", .file "x".toUTF8)])], []⟩

/-- Two files in different directories. -/
def twoFiles : List (String × String) := [("sub/a.css", "y"), ("b.css", "z")]

theorem twoFiles_ready : Ready builtDisk ⟨.working, ["build"]⟩ true twoFiles where
  start := rfl
  admitted := by decide +kernel
  places := {
    short := by decide +kernel
    fits := by decide +kernel
    named := by decide +kernel
    apart := by decide +kernel
    direct := by decide +kernel }
  noFileAbove := by
    rintro q there bytes isFile
    cases List.mem_singleton.1 there
    cases isFile
  noFile := fun missing => absurd ⟨rfl, rfl⟩ missing
  noDirectory := fun missing => absurd ⟨rfl, rfl⟩ missing
  outside := fun _ _ => by decide +kernel

/-- The older file is removed, and the two files are there. -/
theorem write_outcome_build :
    ∃ after, Runs (write ⟨.working, ["build"]⟩ true twoFiles) builtDisk
        [⟨.working, ["build", "sub", "a.css"]⟩, ⟨.working, ["build", "b.css"]⟩] after ∧
      after.top.standing ["build", "sub", "a.css"] = .file "y".toUTF8 ∧
      after.top.standing ["build", "b.css"] = .file "z".toUTF8 ∧
      ∀ bytes, after.top.standing ["build", "old.css"] ≠ .file bytes := by
  have ends : EndsInName ⟨.working, ["build"]⟩ := ⟨"build", rfl, by decide⟩
  obtain ⟨after, runs, holds⟩ := (write_outcome twoFiles_ready).1 fun _ => ends
  have paths : (twoFiles.map fun file => (⟨.working, ["build"]⟩ : Path) ++ Path.ofText file.1) =
      [⟨.working, ["build", "sub", "a.css"]⟩, ⟨.working, ["build", "b.css"]⟩] := by decide +kernel
  have first : target [] ⟨.working, ["build"]⟩ ("sub/a.css", "y") = ["build", "sub", "a.css"] := by
    decide +kernel
  have second : target [] ⟨.working, ["build"]⟩ ("b.css", "z") = ["build", "b.css"] := by
    decide +kernel
  rw [paths] at runs
  refine ⟨after, runs, ?_, ?_, fun bytes isFile => ?_⟩
  · exact (holds _ _).2 (.inl ⟨("sub/a.css", "y"), .head _, first.symm, rfl⟩)
  · exact (holds _ _).2 (.inl ⟨("b.css", "z"), .tail _ (.head _), second.symm, rfl⟩)
  · rcases (holds _ _).1 isFile with ⟨file, there, same, -⟩ | ⟨-, stays, -⟩
    · rcases List.mem_cons.1 there with rfl | there
      · rw [show builtDisk.working = [] from rfl, first] at same
        exact absurd same (by decide)
      · rw [List.mem_singleton.1 there, show builtDisk.working = [] from rfl, second] at same
        exact absurd same (by decide)
    · exact stays ⟨⟨rfl, rfl⟩, by decide⟩

/-- Files cannot always be written where nothing is in their way: the working directory loses what
is in it, and then cannot be removed. -/
theorem not_always_written :
    ¬ ∀ (disk : Disk) (directory : Path) (clean : Bool) (files : List (String × String)),
      Ready disk directory clean files →
        ∃ paths after, Runs (write directory clean files) disk paths after := by
  intro all
  have ready : Ready builtDisk Path.here true twoFiles := {
    start := rfl
    admitted := admits_root _
    places := {
      short := by decide +kernel
      fits := by decide +kernel
      named := by decide +kernel
      apart := by decide +kernel
      direct := by decide +kernel }
    noFileAbove := nofun
    noFile := fun missing => absurd ⟨rfl, rfl⟩ missing
    noDirectory := fun missing => absurd ⟨rfl, rfl⟩ missing
    outside := fun _ ⟨_, isLast, _⟩ => nomatch isLast }
  have fixed : ¬ EndsInName Path.here := fun ⟨_, isLast, _⟩ => nomatch isLast
  obtain ⟨e, after, fails, -⟩ := write_fails ready ⟨rfl, rfl⟩ fixed
  obtain ⟨paths, after', runs⟩ := all builtDisk Path.here true twoFiles ready
  cases runs.symm.trans fails

end DesignTokens.Output
