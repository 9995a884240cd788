import DesignTokens.Proofs.Disk.Making
import DesignTokens.Proofs.Library.Building
import DesignTokens.Proofs.Source.Reading

/-!
# One document or a directory

The same token input can come in one document or in a directory that holds the parts of the document
in files of their own (`InBothLayouts`). Both are refused, or both give the same library and the
same warnings (`load_of_both_layouts`).

A directory in the place of the themes file is what sets the layouts apart: a document may have a
set inside of it, but a directory is not read when its themes cannot be
(`not_load_of_both_layouts`).
-/

namespace DesignTokens.Source

/-- Two ways of loading go alike: both refuse the source, or both give the same library with the
same warnings. -/
inductive LoadsAlike : Noted Failure Warning Library → Noted Failure Warning Library → Prop
  | refused {x y : Noted Failure Warning Library} {failure failure' : Failure} :
      x.outcome = .error failure → y.outcome = .error failure' →
      IsLoad failure → IsLoad failure' → LoadsAlike x y
  | loaded {warnings : List Warning} {library : Library} :
      LoadsAlike ⟨warnings, .ok library⟩ ⟨warnings, .ok library⟩

/-! ## The parts of a document -/

/-- The slugs of a document's parts. The metadata and the themes are parts beside the sets. -/
def partSlugs (slugs : List String) : List String :=
  "$metadata" :: "$themes" :: slugs

/-- The parts of a document that it has, each with its place in a directory. -/
def partsOf (document : Entries Data) (slugs : List String) : List (List String × Data) :=
  (partSlugs slugs).filterMap fun slug => (document.get? slug).map (placeOfSlug slug, ·)

/-- A directory holds parts in files, and nothing but these files and the directories that they are
in. -/
structure Holds (directory : DesignTokens.Node) (parts : List (List String × Data)) : Prop where
  each : ∀ part ∈ parts, ∃ bytes, directory.get? part.1 = some (.file bytes) ∧ Reads bytes part.2
  only : ∀ inner ∈ directory.all, ∃ part ∈ parts, inner.1 <+: part.1

/-- A document with a listed order of its sets, in one file and in a directory. -/
structure InBothLayouts (disk disk' : Disk) (file directory : Path) (document : Entries Data)
    (slugs : List String) : Prop where
  listed : ∃ metadata, document.get? "$metadata" = some (.table metadata) ∧
    Entries.get? metadata "tokenSetOrder" = some (.list (slugs.map .text))
  /-- The slugs are relative paths in normal form. -/
  normal : ∀ slug ∈ slugs, IsNormal slug
  /-- No slug is that of the metadata or the themes. -/
  sets : ∀ slug ∈ slugs, slug ≠ "$metadata" ∧ slug ≠ "$themes"
  /-- No path to a file of a part is too long. -/
  fits : ∀ slug ∈ partSlugs slugs, Disk.Fits directory (.ofText (slug ++ ".json"))
  /-- The file holds the document. -/
  inFile : file.suffix = ".json" ∧
    ∃ place bytes, disk.locate file = .ok (place, some (.file bytes)) ∧
      Reads bytes (.table document)
  /-- The directory holds the parts of the document. -/
  inDirectory : directory.suffix = "" ∧
    ∃ place node, disk'.locate directory = .ok (place, some node) ∧
      Holds node (partsOf document slugs)

section Parts

variable {document : Entries Data} {slugs : List String} {slug : String} {place : List String}
  {data : Data} {node found : DesignTokens.Node}

theorem mem_partsOf :
    (place, data) ∈ partsOf document slugs ↔
      ∃ slug ∈ partSlugs slugs, document.get? slug = some data ∧ place = placeOfSlug slug := by
  unfold partsOf
  rw [List.mem_filterMap]
  constructor
  · rintro ⟨slug, there, same⟩
    obtain ⟨data, has, same⟩ := Option.map_eq_some_iff.1 same
    cases same
    exact ⟨slug, there, has, rfl⟩
  · rintro ⟨slug, there, has, rfl⟩
    exact ⟨slug, there, by rw [has]; rfl⟩

theorem isNormal_of_mem_partSlugs (normal : ∀ slug ∈ slugs, IsNormal slug)
    (there : slug ∈ partSlugs slugs) : IsNormal slug := by
  rcases List.mem_cons.1 there with rfl | there
  · unfold IsNormal
    decide
  rcases List.mem_cons.1 there with rfl | there
  · unfold IsNormal
    decide
  · exact normal slug there

/-- A part that the document has is in its file. -/
theorem file_of_holds (holds : Holds node (partsOf document slugs))
    (there : slug ∈ partSlugs slugs) (has : document.get? slug = some data) :
    ∃ bytes, node.get? (placeOfSlug slug) = some (.file bytes) ∧ Reads bytes data :=
  holds.each (placeOfSlug slug, data) (mem_partsOf.2 ⟨slug, there, has, rfl⟩)

/-- Where the document has no part, there is nothing or a directory with other parts. -/
theorem directory_of_holds (holds : Holds node (partsOf document slugs))
    (has : document.get? slug = none) (there : node.get? (placeOfSlug slug) = some found) :
    (∃ entries, found = .directory entries) ∧
      ∃ other ∈ partSlugs slugs, document.has other = true ∧
        placeOfSlug slug <+: placeOfSlug other := by
  have below : placeOfSlug slug ≠ [] := Text.parts_ne_nil _ _
  obtain ⟨⟨_, data⟩, listed, ⟨rest, inside⟩⟩ := holds.only _ (Node.mem_all_of_get? there below)
  obtain ⟨other, isPart, has', rfl⟩ := mem_partsOf.1 listed
  dsimp only at inside
  refine ⟨?_, other, isPart, Entries.has_of_get? has', ⟨rest, inside⟩⟩
  -- A file at this place would be that of the part itself.
  obtain ⟨bytes, isFile, -⟩ := file_of_holds holds isPart has'
  rw [← inside, Node.get?_append, there] at isFile
  cases rest with
  | nil =>
    rw [List.append_nil] at inside
    rw [placeOfSlug_injective inside, has'] at has
    cases has
  | cons name rest =>
    cases found with
    | file bytes => cases isFile
    | directory entries => exact ⟨entries, rfl⟩

end Parts

/-! ## What is read -/

section Layouts

variable {disk disk' : Disk} {file directory : Path} {document : Entries Data} {slugs : List String}
  {slug : String} {place : List String} {node : DesignTokens.Node} {data : Data}

/-- What is read of a document are its listed sets and its themes. -/
theorem read_file (both : InBothLayouts disk disk' file directory document slugs) :
    read disk file = (do
      let sets ← slugs.mapM (setInDocument document file)
      return ⟨Roster.of (·.slug) sets, (document.get? "$themes").getD (.list [])⟩) := by
  obtain ⟨metadata, isTable, listed⟩ := both.listed
  obtain ⟨ending, place, bytes, located, reads⟩ := both.inFile
  rw [read_of_reads ending located reads, isTable, setOrder_of_listed listed]
  rfl

/-- The files of the metadata and the themes are at the places of these parts. -/
theorem setFile_of_own (directory : Path) :
    setFile directory "$metadata" = directory ++ metadataFile ∧
      setFile directory "$themes" = directory ++ themesFile := by
  have metadata : "$metadata" ++ ".json" = "$metadata.json" := by decide
  have themes : "$themes" ++ ".json" = "$themes.json" := by decide
  unfold setFile metadataFile themesFile
  rw [metadata, themes]
  exact ⟨rfl, rfl⟩

/-- The file of a part is found below the directory at the place of the part. -/
theorem components_of_part (both : InBothLayouts disk disk' file directory document slugs)
    (there : slug ∈ partSlugs slugs) :
    (Path.ofText (slug ++ ".json")).components = placeOfSlug slug :=
  congrArg Path.components (ofText_slug (isNormal_of_mem_partSlugs both.normal there))

/-- What a directory has of a part is what the document has of it. -/
theorem readIfThere_of_has (both : InBothLayouts disk disk' file directory document slugs)
    (there : slug ∈ partSlugs slugs) (has : document.get? slug = some data) :
    readIfThere disk' (setFile directory slug) = .ok (some data) := by
  obtain ⟨-, place, node, located, holds⟩ := both.inDirectory
  obtain ⟨bytes, isFile, reads⟩ := file_of_holds holds there has
  rw [← components_of_part both there] at isFile
  exact readIfThere_of_locate (Disk.locate_below located (both.fits slug there) isFile) reads

/-- What the document lacks is missing from the directory, or a directory with other parts is in its
place and it cannot be read. -/
theorem readIfThere_of_lacks (both : InBothLayouts disk disk' file directory document slugs)
    (there : slug ∈ partSlugs slugs) (lacks : document.get? slug = none) :
    (readIfThere disk' (setFile directory slug) = .ok none ∧
      ∀ other ∈ partSlugs slugs, document.has other = true →
        ¬ placeOfSlug slug <+: placeOfSlug other) ∨
    ((∃ failure, readIfThere disk' (setFile directory slug) = .error failure ∧ IsLoad failure) ∧
      ∃ other ∈ partSlugs slugs, document.has other = true ∧
        placeOfSlug slug <+: placeOfSlug other) := by
  obtain ⟨-, place, node, located, holds⟩ := both.inDirectory
  have components := components_of_part both there
  have fits := both.fits slug there
  cases inside : node.get? (placeOfSlug slug) with
  | none =>
    refine .inl ⟨?_, fun other isPart has below => ?_⟩
    · rw [← components] at inside
      exact readIfThere_of_missing (Disk.node?_below located fits inside)
    · -- Nothing is below a place where nothing is.
      obtain ⟨rest, below⟩ := below
      obtain ⟨data, has⟩ := Entries.exists_get?_iff.2 has
      obtain ⟨bytes, isFile, -⟩ := file_of_holds holds isPart has
      rw [← below, Node.get?_append, inside] at isFile
      cases isFile
  | some found =>
    obtain ⟨⟨entries, rfl⟩, other⟩ := directory_of_holds holds lacks inside
    rw [← components] at inside
    obtain ⟨fault, path, token, unreadable⟩ :=
      readIfThere_of_directory (Disk.locate_below located fits inside)
    exact .inr ⟨⟨_, unreadable, fault, path, token, rfl⟩, other⟩

/-- The directories that the parts are in are listed: their paths lead to the files of parts. -/
theorem listable_of_both (both : InBothLayouts disk disk' file directory document slugs)
    (holds : Holds node (partsOf document slugs)) : Disk.Listable directory node := by
  intro place there
  obtain ⟨⟨_, inner⟩, listed, rfl⟩ := List.mem_map.1 there
  obtain ⟨⟨_, data⟩, isPart, leads⟩ := holds.only _ (List.mem_filter.1 listed).1
  obtain ⟨slug, there, -, rfl⟩ := mem_partsOf.1 isPart
  have admitted := (both.fits slug there).admitted
  rw [ofText_slug (isNormal_of_mem_partSlugs both.normal there)] at admitted
  exact Disk.admits_of_front (List.prefix_append_right_inj _ |>.2 leads) admitted

/-- What is read of a directory are the listed sets and the themes. -/
theorem read_directory (both : InBothLayouts disk disk' file directory document slugs) :
    read disk' directory = (do
      let themes ← readIfThere disk' (setFile directory "$themes")
      let sets ← slugs.mapM (setInDirectory disk' directory)
      return ⟨Roster.of (·.slug) sets, themes.getD (.list [])⟩) := by
  obtain ⟨metadata, isTable, listed⟩ := both.listed
  have metadataRead := readIfThere_of_has both List.mem_cons_self isTable
  obtain ⟨ending, place, node, located, holds⟩ := both.inDirectory
  have isDirectory : disk'.isDirectory? directory = .ok true := by
    -- Files have nothing inside, and the metadata are there.
    obtain ⟨bytes, isFile, -⟩ := file_of_holds holds List.mem_cons_self isTable
    unfold Disk.isDirectory?
    rw [Disk.node?_of_locate located]
    cases node with
    | file => cases isFile
    | directory => rfl
  obtain ⟨metadataFile', themesFile'⟩ := setFile_of_own directory
  rw [read_of_directory ending located]
  unfold readDirectory
  rw [isDirectory, ← metadataFile', ← themesFile']
  show (readIfThere disk' (setFile directory "$metadata") >>= fun metadata => _) = _
  rw [metadataRead]
  show (discover disk' directory >>= fun slugs => _) = _
  rw [discover_eq_ok located (listable_of_both both holds)]
  show (setOrder (some (.table metadata)) _ _ >>= fun order => _) = _
  rw [setOrder_of_listed listed]
  rfl

/-- No set that the document has is in a directory in the place of the themes file, unless the
document has themes. -/
def ThemesFree (document : Entries Data) (slugs : List String) : Prop :=
  document.get? "$themes" = none →
    ∀ slug ∈ slugs, document.has slug = true → ¬ ["$themes.json"] <+: placeOfSlug slug

theorem placeOfSlug_themes : placeOfSlug "$themes" = ["$themes.json"] := by decide

theorem themes_mem_partSlugs (slugs : List String) : "$themes" ∈ partSlugs slugs :=
  List.mem_cons_of_mem _ List.mem_cons_self

/-- The themes of the document are those of the directory. -/
theorem readIfThere_themes (both : InBothLayouts disk disk' file directory document slugs)
    (free : ThemesFree document slugs) :
    readIfThere disk' (setFile directory "$themes") = .ok (document.get? "$themes") := by
  have isPart := themes_mem_partSlugs slugs
  cases has : document.get? "$themes" with
  | some data => exact readIfThere_of_has both isPart has
  | none =>
    rcases readIfThere_of_lacks both isPart has with ⟨missing, -⟩ | ⟨-, other, isPart, has', inside⟩
    · exact missing
    · exfalso
      rw [placeOfSlug_themes] at inside
      rcases List.mem_cons.1 isPart with rfl | isPart
      · revert inside
        decide
      rcases List.mem_cons.1 isPart with rfl | isSet
      · cases (Entries.get?_eq_none_iff.1 has).symm.trans has'
      · exact free has other isSet has' inside

/-- A directory in the place of the themes file keeps the themes from being read. -/
theorem isLoad_readIfThere_themes (both : InBothLayouts disk disk' file directory document slugs)
    (inPlace : ¬ ThemesFree document slugs) :
    ∃ failure, readIfThere disk' (setFile directory "$themes") = .error failure ∧
      IsLoad failure := by
  unfold ThemesFree at inPlace
  push Not at inPlace
  obtain ⟨lacks, slug, there, has, inside⟩ := inPlace
  rcases readIfThere_of_lacks both (themes_mem_partSlugs slugs) lacks with ⟨-, none⟩ | ⟨refused, -⟩
  · rw [placeOfSlug_themes] at none
    exact absurd inside (none slug (List.mem_cons_of_mem _ (List.mem_cons_of_mem _ there)) has)
  · exact refused

/-- A set is read alike: both layouts lack it, or both have the same. -/
theorem alike_set (both : InBothLayouts disk disk' file directory document slugs)
    (there : slug ∈ slugs) :
    Alike SameContents (setInDocument document file slug)
      (setInDirectory disk' directory slug) := by
  have isPart : slug ∈ partSlugs slugs := List.mem_cons_of_mem _ (List.mem_cons_of_mem _ there)
  unfold setInDocument
  cases has : document.get? slug with
  | some data =>
    have same : setInDirectory disk' directory slug =
        .ok ⟨slug, some (setFile directory slug), data⟩ := by
      unfold setInDirectory
      dsimp only
      rw [readIfThere_of_has both isPart has]
      rfl
    rw [same]
    exact .accepted ⟨rfl, rfl⟩
  | none =>
    have refused : ∃ failure, setInDirectory disk' directory slug = .error failure ∧
        IsLoad failure := by
      unfold setInDirectory
      dsimp only
      rcases readIfThere_of_lacks both isPart has with
        ⟨missing, -⟩ | ⟨⟨failure, unreadable, isLoad⟩, -⟩
      · rw [missing]
        exact ⟨_, rfl, _, _, _, rfl⟩
      · rw [unreadable]
        exact ⟨failure, rfl, isLoad⟩
    obtain ⟨failure, refused, isLoad⟩ := refused
    rw [refused]
    exact .refused ⟨_, _, _, rfl⟩ isLoad

/-- Both layouts are read alike. -/
theorem alike_read (both : InBothLayouts disk disk' file directory document slugs)
    (free : ThemesFree document slugs) :
    Alike Raw.Same (read disk file) (read disk' directory) := by
  rw [read_file both, read_directory both, readIfThere_themes both free]
  refine (Alike.mapM fun slug there => alike_set both there).bind fun sets sets' same => ?_
  exact .accepted ⟨Roster.forall₂_of (fun _ _ here => here.1) same, rfl⟩

/-! ## What is built -/

/-- One way of loading goes as it goes. -/
theorem loadsAlike_self (raw : Raw) (strictNames : Bool) :
    LoadsAlike (build raw strictNames) (build raw strictNames) := by
  cases built : build raw strictNames with
  | mk warnings outcome =>
    cases outcome with
    | ok library => exact .loaded
    | error failure =>
      have isLoad := isLoad_of_build (congrArg Noted.outcome built)
      exact .refused rfl rfl isLoad isLoad

/-- The same sets and themes are built alike. -/
theorem loadsAlike_build {raw raw' : Raw} (same : raw.Same raw') (strictNames : Bool) :
    LoadsAlike (build raw strictNames) (build raw' strictNames) := by
  have alone := loadsAlike_self raw strictNames
  have parsed := alike_parseTokens same.sets
  unfold build at alone ⊢
  rw [← same.themes]
  generalize parseTokens raw.sets = first at alone parsed ⊢
  generalize parseTokens raw'.sets = second at parsed ⊢
  cases parsed with
  | refused isLoad isLoad' => exact .refused rfl rfl isLoad isLoad'
  | accepted same =>
    cases same
    exact alone

/-- The same token input in one document and in a directory is loaded alike: both are refused, or
both give the same library and the same warnings. Only a directory in the place of the themes file
is refused whatever the document gives. -/
theorem load_of_both_layouts (both : InBothLayouts disk disk' file directory document slugs)
    (strictNames : Bool) :
    (ThemesFree document slugs →
      LoadsAlike (load disk file strictNames) (load disk' directory strictNames)) ∧
    (¬ ThemesFree document slugs →
      ∃ failure, load disk' directory strictNames = ⟨[], .error failure⟩ ∧ IsLoad failure) := by
  constructor
  · intro free
    have reads := alike_read both free
    unfold load
    generalize read disk file = raw at reads ⊢
    generalize read disk' directory = raw' at reads ⊢
    cases reads with
    | refused isLoad isLoad' => exact .refused rfl rfl isLoad isLoad'
    | accepted same => exact loadsAlike_build same strictNames
  · intro inPlace
    obtain ⟨failure, refused, isLoad⟩ := isLoad_readIfThere_themes both inPlace
    refine ⟨failure, ?_, isLoad⟩
    unfold load
    rw [read_directory both, refused]
    rfl

end Layouts

/-! ## Two documents -/

/-- An order that names one set twice. -/
def orderData : Data := .table [("tokenSetOrder", .list (["a/b", "a/b"].map .text))]

def orderText : String := "\x7b\"tokenSetOrder\":[\"a/b\",\"a/b\"]\x7d"

/-- A theme of a set that the order leaves out. -/
def themesData : Data :=
  .list [.table [("name", .text "T"), ("selectedTokenSets", .table [("c", .text "source")])]]

def themesText : String :=
  "[\x7b\"name\":\"T\",\"selectedTokenSets\":\x7b\"c\":\"source\"\x7d\x7d]"

/-- A set of one token. -/
def setData : Data :=
  .table [("x", .table [("type", .text "spacing"), ("value", .text "1px")])]

def setText : String := "\x7b\"x\":\x7b\"type\":\"spacing\",\"value\":\"1px\"\x7d\x7d"

def themedDocument : Entries Data :=
  [("$metadata", orderData), ("$themes", themesData), ("a/b", setData), ("c", .table [])]

def themedText : String :=
  "\x7b\"$metadata\":" ++ orderText ++ ",\"$themes\":" ++ themesText ++ ",\"a/b\":" ++ setText ++
    ",\"c\":\x7b\x7d\x7d"

/-- The parts of the document in files of their own. -/
def themedDirectory : DesignTokens.Node :=
  .directory [("$metadata.json", .file orderText.toUTF8), ("$themes.json", .file themesText.toUTF8),
    ("a", .directory [("b.json", .file setText.toUTF8)])]

/-- The document in both layouts. -/
def themedDisk : Disk :=
  ⟨.directory [("tokens.json", .file themedText.toUTF8), ("tokens", themedDirectory)], []⟩

set_option maxRecDepth 20000 in
theorem reads_themed :
    Reads orderText.toUTF8 orderData ∧ Reads themesText.toUTF8 themesData ∧
      Reads setText.toUTF8 setData ∧ Reads themedText.toUTF8 (.table themedDocument) :=
  ⟨reads_of_text (by decide +kernel) (by cbv), reads_of_text (by decide +kernel) (by cbv),
    reads_of_text (by decide +kernel) (by cbv), reads_of_text (by decide +kernel) (by cbv)⟩

theorem holds_themed : Holds themedDirectory (partsOf themedDocument ["a/b", "a/b"]) where
  each := by
    obtain ⟨order, themes, set, -⟩ := reads_themed
    have parts : partsOf themedDocument ["a/b", "a/b"] =
        [(["$metadata.json"], orderData), (["$themes.json"], themesData),
          (["a", "b.json"], setData), (["a", "b.json"], setData)] := rfl
    simp only [parts, List.forall_mem_cons]
    exact ⟨⟨_, rfl, order⟩, ⟨_, rfl, themes⟩, ⟨_, rfl, set⟩, ⟨_, rfl, set⟩, nofun⟩
  only := by decide

theorem themed_inBothLayouts :
    InBothLayouts themedDisk themedDisk (.ofText "tokens.json") (.ofText "tokens") themedDocument
      ["a/b", "a/b"] where
  listed := ⟨_, rfl, rfl⟩
  normal := by
    unfold IsNormal
    decide
  sets := by decide
  fits := by decide
  inFile := ⟨by decide, ["tokens.json"], _, rfl, reads_themed.2.2.2⟩
  inDirectory := ⟨by decide, ["tokens"], _, rfl, holds_themed⟩

/-- Both layouts give one token and the warning that the theme selects a set that is not listed. -/
theorem load_of_themed :
    InBothLayouts themedDisk themedDisk (.ofText "tokens.json") (.ofText "tokens") themedDocument
      ["a/b", "a/b"] ∧
    ∃ library : Library, library.tokens.map (·.id) = ["a.b.x"] ∧
      load themedDisk (.ofText "tokens.json") false = ⟨[.unknownSet "T" "c"], .ok library⟩ ∧
      load themedDisk (.ofText "tokens") false = ⟨[.unknownSet "T" "c"], .ok library⟩ := by
  have alike := (load_of_both_layouts themed_inBothLayouts false).1 nofun
  have loaded : load themedDisk (.ofText "tokens.json") false =
      build ⟨[⟨"a/b", some (.ofText "tokens.json"), setData⟩], themesData⟩ false := by
    unfold load
    rw [read_file themed_inBothLayouts]
    rfl
  have warned : (load themedDisk (.ofText "tokens.json") false).notes = [.unknownSet "T" "c"] := by
    rw [loaded]
    decide +kernel
  have ids : (load themedDisk (.ofText "tokens.json") false).outcome.map
      (fun library => library.tokens.map (·.id)) = .ok ["a.b.x"] := by
    rw [loaded]
    decide +kernel
  obtain ⟨library, outcome, ids⟩ := Except.map_eq_ok.1 ids
  refine ⟨themed_inBothLayouts, library, ids, ?_⟩
  generalize load themedDisk (.ofText "tokens.json") false = x at alike warned outcome ⊢
  generalize load themedDisk (.ofText "tokens") false = y at alike ⊢
  cases alike with
  | refused failed => cases failed.symm.trans outcome
  | loaded =>
    cases outcome
    cases warned
    exact ⟨rfl, rfl⟩

/-- A document without themes, and a set of it that comes in the place of the themes file. -/
def shadowingDocument : Entries Data :=
  [("$metadata", .table [("tokenSetOrder", .list (["$themes.json/a"].map .text))]),
    ("$themes.json/a", setData)]

def shadowingOrder : String := "\x7b\"tokenSetOrder\":[\"$themes.json/a\"]\x7d"

def shadowingText : String :=
  "\x7b\"$metadata\":" ++ shadowingOrder ++ ",\"$themes.json/a\":" ++ setText ++ "\x7d"

/-- The document in both layouts. -/
def shadowingDisk : Disk :=
  ⟨.directory [("tokens.json", .file shadowingText.toUTF8),
    ("tokens", .directory [("$metadata.json", .file shadowingOrder.toUTF8),
      ("$themes.json", .directory [("a.json", .file setText.toUTF8)])])], []⟩

set_option maxRecDepth 20000 in
theorem reads_shadowing :
    Reads shadowingOrder.toUTF8
        (.table [("tokenSetOrder", .list (["$themes.json/a"].map .text))]) ∧
      Reads shadowingText.toUTF8 (.table shadowingDocument) :=
  ⟨reads_of_text (by decide +kernel) (by cbv), reads_of_text (by decide +kernel) (by cbv)⟩

theorem shadowing_inBothLayouts :
    InBothLayouts shadowingDisk shadowingDisk (.ofText "tokens.json") (.ofText "tokens")
      shadowingDocument ["$themes.json/a"] where
  listed := ⟨_, rfl, rfl⟩
  normal := by
    unfold IsNormal
    decide
  sets := by decide
  fits := by decide
  inFile := ⟨by decide, ["tokens.json"], _, rfl, reads_shadowing.2⟩
  inDirectory := by
    refine ⟨by decide, ["tokens"], _, rfl, ?_, by decide⟩
    have parts : partsOf shadowingDocument ["$themes.json/a"] =
        [(["$metadata.json"], .table [("tokenSetOrder", .list (["$themes.json/a"].map .text))]),
          (["$themes.json", "a.json"], setData)] := rfl
    simp only [parts, List.forall_mem_cons]
    exact ⟨⟨_, rfl, reads_shadowing.1⟩, ⟨_, rfl, reads_themed.2.2.1⟩, nofun⟩

/-- A document can be loaded while a directory of its parts cannot. -/
theorem not_load_of_both_layouts :
    ¬ ∀ (disk disk' : Disk) (file directory : Path) (document : Entries Data) (slugs : List String)
        (strictNames : Bool), InBothLayouts disk disk' file directory document slugs →
        LoadsAlike (load disk file strictNames) (load disk' directory strictNames) := by
  intro alike
  have alike := alike _ _ _ _ _ _ false shadowing_inBothLayouts
  have loaded : ∃ library,
      (load shadowingDisk (.ofText "tokens.json") false).outcome = .ok library := by
    unfold load
    rw [read_file shadowing_inBothLayouts]
    exact ⟨_, rfl⟩
  have inPlace : ¬ ThemesFree shadowingDocument ["$themes.json/a"] := by
    intro free
    exact free rfl _ List.mem_cons_self (by decide) (by decide)
  have refused : ∃ failure,
      (load shadowingDisk (.ofText "tokens") false).outcome = .error failure := by
    obtain ⟨failure, refused, -⟩ := isLoad_readIfThere_themes shadowing_inBothLayouts inPlace
    refine ⟨failure, ?_⟩
    unfold load
    rw [read_directory shadowing_inBothLayouts, refused]
    rfl
  obtain ⟨library, loaded⟩ := loaded
  obtain ⟨failure, refused⟩ := refused
  generalize load shadowingDisk (.ofText "tokens.json") false = x at alike loaded
  generalize load shadowingDisk (.ofText "tokens") false = y at alike refused
  cases alike with
  | refused failed => cases failed.symm.trans loaded
  | loaded => cases refused

end DesignTokens.Source
