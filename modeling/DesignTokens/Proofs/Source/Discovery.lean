import DesignTokens.Proofs.Disk.Tree
import DesignTokens.Proofs.Source.Layouts
import DesignTokens.Proofs.Source.Selections

/-!
# Which sets are discovered

Without metadata the sets of a directory are discovered by the names in it: every place with the
ending of a document gives a slug, unless a name on the way starts with a dollar sign
(`mem_discovered_iff`). By the slug the set is looked for again (`setFile_of_found`), at the same
place, unless the name is nothing but the ending (`refound`).

Where a file is found again for every slug, there is one set for each slug, in the order of the
slugs. Otherwise nothing is loaded (`load_discovers`).
-/

namespace DesignTokens

namespace Source

/-! ## Places of sets -/

/-- The name ends as that of a document, and no name on the way starts with a dollar sign. -/
structure IsSetPlace (place : List String) : Prop where
  ending : ∃ front stem, place = front ++ [stem ++ ".json"]
  free : ∀ name ∈ place, isOwnKey name = false

/-- Where the set of a slug is looked for that was made for a place. It is the same place, unless
the name is nothing but the ending. -/
def refound (place : List String) : List String :=
  if place.getLast? = some ".json" then place.dropLast ++ [".json.json"] else place

theorem refound_concat (front : List String) (stem : String) :
    refound (front ++ [stem ++ ".json"]) =
      front ++ [(if stem = "" then ".json" else stem) ++ ".json"] := by
  unfold refound
  rw [List.getLast?_concat, List.dropLast_concat]
  by_cases none : stem = ""
  · subst none
    rfl
  · have other : ¬ some (stem ++ ".json") = some ".json" := fun same =>
      none ((String.append_left_inj ".json").1 (Option.some.inj same : stem ++ ".json" = "" ++ ".json"))
    rw [if_neg other, if_neg none]

/-- The ending is cut off, unless nothing else is in the name. -/
theorem splitSuffix_json (stem : String) :
    (Path.splitSuffix (stem ++ ".json")).1 = if stem = "" then ".json" else stem := by
  have chars : (stem ++ ".json").toList = stem.toList ++ ['.', 'j', 's', 'o', 'n'] := by
    rw [String.toList_append]
    rfl
  have afterDot : (stem ++ ".json").toList.reverse.takeWhile (· ≠ '.') = ['n', 'o', 's', 'j'] := by
    rw [chars, List.reverse_append]
    rfl
  have front : (stem ++ ".json").toList.take ((stem ++ ".json").toList.length - 4 - 1) =
      stem.toList := by
    rw [chars, List.length_append]
    exact List.take_left' (by simp)
  unfold Path.splitSuffix
  dsimp only
  rw [afterDot, show ['n', 'o', 's', 'j'].length = 4 from rfl, front, String.ofList_toList]
  by_cases none : stem = ""
  · subst none
    rfl
  · have some : stem.toList ≠ [] := fun is => none (String.toList_eq_nil_iff.1 is)
    have longer : 4 < (stem ++ ".json").toList.length := by
      rw [chars, List.length_append]
      simp
    rw [if_pos ⟨longer, List.cons_ne_nil _ _, some⟩, if_neg none]

theorem isOwnKey_append {stem : String} (ending : String) (some : stem ≠ "") :
    isOwnKey (stem ++ ending) = isOwnKey stem := by
  obtain ⟨c, rest, front⟩ := List.exists_cons_of_ne_nil
    fun none => some (String.toList_eq_nil_iff.1 none)
  unfold isOwnKey
  rw [String.toList_append, front]
  rfl

theorem intercalate_concat_append (front : List String) (last ending : String) :
    "/".intercalate (front ++ [last]) ++ ending = "/".intercalate (front ++ [last ++ ending]) := by
  by_cases none : front = []
  · subst none
    simp
  · rw [String.intercalate_append_of_ne_nil none (List.cons_ne_nil _ _),
      String.intercalate_append_of_ne_nil none (List.cons_ne_nil _ _)]
    simp [String.append_assoc]

/-- The slug of a place with the ending of a document is the path where the set is looked for. -/
theorem slugOf?_eq_some_iff {place : List String} {slug : String} :
    slugOf? place = some slug ↔
      IsSetPlace place ∧ slug ++ ".json" = "/".intercalate (refound place) := by
  rcases List.eq_nil_or_concat place with rfl | ⟨front, name, rfl⟩
  · refine iff_of_false nofun ?_
    rintro ⟨⟨⟨front, stem, same⟩, -⟩, -⟩
    exact List.append_ne_nil_of_right_ne_nil front (List.cons_ne_nil _ _) same.symm
  rw [List.concat_eq_append]
  unfold slugOf?
  rw [List.getLast?_concat, List.dropLast_concat]
  dsimp only
  by_cases ends : ['.', 'j', 's', 'o', 'n'].isSuffixOf name.toList = true
  · obtain ⟨chars, same⟩ := List.isSuffixOf_iff_suffix.1 ends
    obtain ⟨stem, rfl⟩ : ∃ stem, name = stem ++ ".json" := by
      refine ⟨String.ofList chars, String.toList_inj.1 ?_⟩
      rw [String.toList_append, String.toList_ofList]
      exact same.symm
    have own : isOwnKey (if stem = "" then ".json" else stem) = isOwnKey (stem ++ ".json") := by
      by_cases none : stem = ""
      · subst none
        rfl
      · rw [if_neg none, isOwnKey_append ".json" none]
    have free : (front ++ [if stem = "" then ".json" else stem]).any isOwnKey = true ↔
        ¬ IsSetPlace (front ++ [stem ++ ".json"]) := by
      have isSet : IsSetPlace (front ++ [stem ++ ".json"]) ↔
          ∀ name ∈ front ++ [stem ++ ".json"], isOwnKey name = false :=
        ⟨fun is => is.free, fun free => ⟨⟨front, stem, rfl⟩, free⟩⟩
      rw [List.any_append, List.any_cons, own, ← List.any_cons, ← List.any_append, isSet]
      simp
    rw [if_pos ends, splitSuffix_json, refound_concat, ← intercalate_concat_append,
      String.append_left_inj]
    by_cases isSet : IsSetPlace (front ++ [stem ++ ".json"])
    · rw [if_neg fun any => free.1 any isSet, Option.some.injEq, and_iff_right isSet]
      exact eq_comm
    · rw [if_pos (free.2 isSet)]
      exact iff_of_false nofun fun both => isSet both.1
  · rw [if_neg ends]
    refine iff_of_false nofun ?_
    rintro ⟨⟨⟨front', stem, same⟩, -⟩, -⟩
    obtain ⟨rfl, last⟩ := List.append_inj' same rfl
    cases last
    rw [String.toList_append] at ends
    exact ends (List.isSuffixOf_iff_suffix.2 (List.suffix_append _ _))

theorem exists_slug {place : List String} (isSet : IsSetPlace place) :
    ∃ slug, slug ++ ".json" = "/".intercalate (refound place) := by
  obtain ⟨front, stem, rfl⟩ := isSet.ending
  exact ⟨_, by rw [refound_concat, intercalate_concat_append]⟩

theorem isSetPlace_iff {place : List String} :
    IsSetPlace place ↔ (slugOf? place).isSome = true := by
  rw [Option.isSome_iff_exists]
  constructor
  · intro isSet
    obtain ⟨slug, spelled⟩ := exists_slug isSet
    exact ⟨slug, slugOf?_eq_some_iff.2 ⟨isSet, spelled⟩⟩
  · rintro ⟨slug, isSlug⟩
    exact (slugOf?_eq_some_iff.1 isSlug).1

instance (place : List String) : Decidable (IsSetPlace place) := decidable_of_iff' _ isSetPlace_iff

/-! ## What is discovered -/

variable {disk : Disk} {directory : Path} {node : DesignTokens.Node} {place : List String}
  {slug : String}

/-- Something stands at the place of a set: a file or a directory. -/
def Found (node : DesignTokens.Node) (place : List String) : Prop :=
  IsSetPlace place ∧ ∃ found, node.get? place = some found

/-- A directory of token documents without metadata. -/
structure TokenDirectory (disk : Disk) (directory : Path) (node : DesignTokens.Node) : Prop where
  ending : directory.suffix = ""
  located : ∃ place, disk.locate directory = .ok (place, some node)
  isDirectory : node.isDirectory = true
  tree : node.IsTree
  fits : Disk.Fits directory metadataFile ∧ Disk.Fits directory themesFile
  admitted : ∀ place, Found node place →
    Disk.admits (directory ++ (⟨.working, refound place⟩ : Path)) = .ok ()
  noMetadata : node.get? ["$metadata.json"] = none
  /-- Every file that ends as a document does is one. -/
  documents : ∀ front stem bytes, node.get? (front ++ [stem ++ ".json"]) = some (.file bytes) →
    ∃ data, Reads bytes data

theorem IsSetPlace.ne_nil (isSet : IsSetPlace place) : place ≠ [] := by
  obtain ⟨front, stem, rfl⟩ := isSet.ending
  exact List.append_ne_nil_of_right_ne_nil _ (List.cons_ne_nil _ _)

/-- The slugs of all that is below a directory. -/
def discovered (node : DesignTokens.Node) : List String :=
  slugsOf (node.all.map (·.1))

/-- The slugs that are discovered are those of all that is found. -/
theorem mem_discovered_iff (tree : node.IsTree) :
    slug ∈ discovered node ↔
      ∃ place, Found node place ∧ slug ++ ".json" = "/".intercalate (refound place) := by
  unfold discovered slugsOf
  rw [List.mem_mergeSort, List.mem_filterMap]
  constructor
  · rintro ⟨place, there, isSlug⟩
    obtain ⟨⟨_, found⟩, listed, rfl⟩ := List.mem_map.1 there
    obtain ⟨isSet, spelled⟩ := slugOf?_eq_some_iff.1 isSlug
    exact ⟨_, ⟨isSet, found, (tree.mem_all_iff.1 listed).2⟩, spelled⟩
  · rintro ⟨place, ⟨isSet, found, there⟩, spelled⟩
    refine ⟨place, List.mem_map.2 ⟨(place, found), ?_, rfl⟩, slugOf?_eq_some_iff.2 ⟨isSet, spelled⟩⟩
    exact tree.mem_all_iff.2 ⟨isSet.ne_nil, there⟩

theorem pairwise_discovered (node : DesignTokens.Node) :
    (discovered node).Pairwise (· ≤ ·) := by
  have sorted : (discovered node).Pairwise fun a b => decide (a ≤ b) = true := by
    refine List.pairwise_mergeSort (fun a b c first second => ?_) (fun a b => ?_) _
    · exact decide_eq_true (String.le_trans (of_decide_eq_true first) (of_decide_eq_true second))
    · exact Bool.or_eq_true_iff.2 ((String.le_total a b).imp decide_eq_true decide_eq_true)
  exact sorted.imp of_decide_eq_true

/-! ## Finding sets again -/

/-- The names on the way to what is found are names, and so are those where it is looked for. -/
theorem isName_refound (input : TokenDirectory disk directory node) (found : Found node place) :
    ∀ name ∈ refound place, IsName name := by
  obtain ⟨isSet, inner, there⟩ := found
  have each := input.tree.isName_of_get? there
  unfold refound
  split
  · intro name inside
    rcases List.mem_append.1 inside with above | last
    · exact each name ((List.dropLast_prefix place).subset above)
    · rw [List.mem_singleton.1 last]
      decide +kernel
  · exact each

theorem refound_ne_nil (isSet : IsSetPlace place) : refound place ≠ [] := by
  obtain ⟨front, stem, rfl⟩ := isSet.ending
  rw [refound_concat]
  exact List.append_ne_nil_of_right_ne_nil _ (List.cons_ne_nil _ _)

/-- The file of a discovered slug is where it is looked for. -/
theorem setFile_of_found (input : TokenDirectory disk directory node) (found : Found node place)
    (spelled : slug ++ ".json" = "/".intercalate (refound place)) :
    setFile directory slug = directory ++ (⟨.working, refound place⟩ : Path) := by
  have each := isName_refound input found
  have isPath := Path.ofText_intercalate (refound_ne_nil found.1)
    (fun name there => (each name there).whole) fun name there => (each name there).not_idle
  unfold setFile
  rw [spelled, isPath]

theorem fits_refound (input : TokenDirectory disk directory node) (found : Found node place) :
    Disk.Fits directory ⟨.working, refound place⟩ where
  relative := rfl
  admitted := input.admitted place found
  down := fun name there =>
    ⟨(isName_refound input found name there).notUp, (isName_refound input found name there).short⟩

/-- A file where the set is looked for gives the set. -/
theorem setInDirectory_of_file {bytes : ByteArray} {data : Data}
    (input : TokenDirectory disk directory node) (found : Found node place)
    (spelled : slug ++ ".json" = "/".intercalate (refound place))
    (isFile : node.get? (refound place) = some (.file bytes)) (reads : Reads bytes data) :
    setInDirectory disk directory slug =
      .ok ⟨slug, some (directory ++ (⟨.working, refound place⟩ : Path)), data⟩ := by
  obtain ⟨here, located⟩ := input.located
  have located' := Disk.locate_below located (fits_refound input found) isFile
  unfold setInDirectory
  dsimp only
  rw [setFile_of_found input found spelled, readIfThere_of_locate located' reads]
  rfl

/-- Where no file is, no set is read. -/
theorem setInDirectory_refused (input : TokenDirectory disk directory node)
    (found : Found node place) (spelled : slug ++ ".json" = "/".intercalate (refound place))
    (noFile : ∀ bytes, node.get? (refound place) ≠ some (.file bytes)) :
    ∃ failure, setInDirectory disk directory slug = .error failure ∧ IsLoad failure := by
  obtain ⟨here, located⟩ := input.located
  have fits := fits_refound input found
  unfold setInDirectory
  dsimp only
  rw [setFile_of_found input found spelled]
  cases there : node.get? (refound place) with
  | none =>
    rw [readIfThere_of_missing (Disk.node?_below located fits there)]
    exact ⟨_, rfl, _, _, _, rfl⟩
  | some inner =>
    cases inner with
    | file bytes => exact absurd there (noFile bytes)
    | directory entries =>
      obtain ⟨fault, file, token, unreadable⟩ :=
        readIfThere_of_directory (Disk.locate_below located fits there)
      rw [unreadable]
      exact ⟨_, rfl, _, _, _, rfl⟩

/-- Every set that is found is found again: a file is where it is looked for. -/
def LeadsBack (node : DesignTokens.Node) : Prop :=
  ∀ place, Found node place → ∃ bytes, node.get? (refound place) = some (.file bytes)

theorem reads_refound {bytes : ByteArray} (input : TokenDirectory disk directory node)
    (isSet : IsSetPlace place) (isFile : node.get? (refound place) = some (.file bytes)) :
    ∃ data, Reads bytes data := by
  obtain ⟨front, stem, rfl⟩ := isSet.ending
  rw [refound_concat] at isFile
  exact input.documents _ _ _ isFile

/-! ## Reading a directory without metadata -/

/-- The metadata are looked for, and then everything below the directory is listed. -/
theorem read_tokenDirectory (input : TokenDirectory disk directory node) :
    read disk directory = (do
      let slugs ← discover disk directory
      let themes ← readIfThere disk (directory ++ themesFile)
      let sets ← slugs.mapM (setInDirectory disk directory)
      return ⟨Roster.of (·.slug) sets, themes.getD (.list [])⟩) := by
  obtain ⟨here, located⟩ := input.located
  have isDirectory : disk.isDirectory? directory = .ok true := by
    unfold Disk.isDirectory?
    rw [Disk.node?_of_locate located]
    exact congrArg Except.ok input.isDirectory
  have noMetadata : readIfThere disk (directory ++ metadataFile) = .ok none :=
    readIfThere_of_missing (Disk.node?_below located input.fits.1 input.noMetadata)
  rw [read_of_directory input.ending located, readDirectory_of_isDirectory isDirectory, noMetadata]
  rfl

theorem read_discovered (input : TokenDirectory disk directory node)
    (listable : Disk.Listable directory node) :
    read disk directory = (do
      let themes ← readIfThere disk (directory ++ themesFile)
      let sets ← (discovered node).mapM (setInDirectory disk directory)
      return ⟨Roster.of (·.slug) sets, themes.getD (.list [])⟩) := by
  obtain ⟨here, located⟩ := input.located
  rw [read_tokenDirectory input, discover_eq_ok located listable]
  rfl

/-- A directory below that cannot be listed keeps everything from being read. -/
theorem read_of_not_listable (input : TokenDirectory disk directory node)
    (unlistable : ¬ Disk.Listable directory node) :
    ∃ e, read disk directory = .error (.disk e) := by
  obtain ⟨here, located⟩ := input.located
  obtain ⟨e, unlisted⟩ := Disk.placesBelow_eq_error located unlistable
  refine ⟨e, ?_⟩
  rw [read_tokenDirectory input]
  unfold discover
  rw [unlisted]
  rfl

/-- The themes are read, unless a directory is in the place of their file. -/
theorem readIfThere_themesFile (input : TokenDirectory disk directory node) :
    (∃ themes, readIfThere disk (directory ++ themesFile) = .ok themes) ∨
      (∃ entries, node.get? ["$themes.json"] = some (.directory entries)) ∧
        ∃ failure, readIfThere disk (directory ++ themesFile) = .error failure ∧
          IsLoad failure := by
  obtain ⟨here, located⟩ := input.located
  have fits := input.fits.2
  have names : themesFile.components = ["$themes.json"] := by decide +kernel
  cases there : node.get? themesFile.components with
  | none => exact .inl ⟨_, readIfThere_of_missing (Disk.node?_below located fits there)⟩
  | some inner =>
    have located' := Disk.locate_below located fits there
    rw [names] at there
    cases inner with
    | file bytes =>
      obtain ⟨data, reads⟩ := input.documents [] "$themes" bytes there
      exact .inl ⟨_, readIfThere_of_locate located' reads⟩
    | directory entries =>
      obtain ⟨fault, file, token, unreadable⟩ := readIfThere_of_directory located'
      exact .inr ⟨⟨entries, there⟩, _, unreadable, _, _, _, rfl⟩

/-- The set of a slug is read from where it is looked for. -/
def IsRead (directory : Path) (node : DesignTokens.Node) (place : List String) (set : RawSet) :
    Prop :=
  set.slug ++ ".json" = "/".intercalate (refound place) ∧
    set.file = some (directory ++ (⟨.working, refound place⟩ : Path)) ∧
    ∃ bytes, node.get? (refound place) = some (.file bytes) ∧ Reads bytes set.data

theorem Reads.unique {bytes : ByteArray} {data data' : Data} (reads : Reads bytes data)
    (reads' : Reads bytes data') : data = data' := by
  obtain ⟨source, decoded, read⟩ := reads
  obtain ⟨source', decoded', read'⟩ := reads'
  cases decoded.symm.trans decoded'
  cases read.symm.trans read'
  rfl

/-- The set of a discovered slug is read from where it is looked for. -/
theorem setInDirectory_eq_ok_iff {set : RawSet} (input : TokenDirectory disk directory node)
    (found : Found node place) (spelled : slug ++ ".json" = "/".intercalate (refound place)) :
    setInDirectory disk directory slug = .ok set ↔
      set.slug = slug ∧ IsRead directory node place set := by
  by_cases isFile : ∃ bytes, node.get? (refound place) = some (.file bytes)
  · obtain ⟨bytes, isFile⟩ := isFile
    obtain ⟨data, reads⟩ := reads_refound input found.1 isFile
    rw [setInDirectory_of_file input found spelled isFile reads]
    constructor
    · rintro ⟨⟩
      exact ⟨rfl, spelled, rfl, bytes, isFile, reads⟩
    · rintro ⟨rfl, -, isPath, bytes', isFile', reads'⟩
      cases isFile.symm.trans isFile'
      rw [reads.unique reads', ← isPath]
  · have noFile (bytes) : node.get? (refound place) ≠ some (.file bytes) :=
      fun is => isFile ⟨bytes, is⟩
    obtain ⟨failure, refused, -⟩ := setInDirectory_refused input found spelled noFile
    rw [refused]
    exact iff_of_false nofun fun ⟨_, _, _, bytes, is, _⟩ => isFile ⟨bytes, is⟩

/-! ## The sets -/

theorem slug_of_setInDirectory {set : RawSet}
    (read : setInDirectory disk directory slug = .ok set) : set.slug = slug := by
  obtain ⟨data, -, read⟩ := Except.bind_eq_ok.1 read
  split at read
  · cases read
    rfl
  · cases read

theorem map_slug {slugs : List String} {sets : List RawSet}
    (related : List.Forall₂ (fun slug set => setInDirectory disk directory slug = .ok set)
      slugs sets) : sets.map (·.slug) = slugs := by
  induction related with
  | nil => rfl
  | cons read _ ih => rw [List.map_cons, ih, slug_of_setInDirectory read]

/-- Where every set is found again, there is one set for each slug. -/
theorem exists_sets (input : TokenDirectory disk directory node) (leadsBack : LeadsBack node) :
    ∃ sets, (discovered node).mapM (setInDirectory disk directory) = .ok sets ∧
      sets.map (·.slug) = discovered node ∧
      ∀ set, set ∈ sets ↔ ∃ place, Found node place ∧ IsRead directory node place set := by
  have each : ∀ slug ∈ discovered node,
      ∃ set, setInDirectory disk directory slug = .ok set := by
    intro slug there
    obtain ⟨place, found, spelled⟩ := (mem_discovered_iff input.tree).1 there
    obtain ⟨bytes, isFile⟩ := leadsBack place found
    obtain ⟨data, reads⟩ := reads_refound input found.1 isFile
    exact ⟨_, setInDirectory_of_file input found spelled isFile reads⟩
  obtain ⟨sets, related⟩ := exists_forall₂_iff.2 each
  refine ⟨sets, Except.mapM_eq_ok_iff.2 related, map_slug related, fun set => ⟨fun there => ?_, ?_⟩⟩
  · obtain ⟨slug, isSlug, read⟩ := exists_related related there
    obtain ⟨place, found, spelled⟩ := (mem_discovered_iff input.tree).1 isSlug
    exact ⟨place, found, ((setInDirectory_eq_ok_iff input found spelled).1 read).2⟩
  · rintro ⟨place, found, isRead⟩
    have isSlug : set.slug ∈ discovered node :=
      (mem_discovered_iff input.tree).2 ⟨place, found, isRead.1⟩
    have read := (setInDirectory_eq_ok_iff input found isRead.1).2 ⟨rfl, isRead⟩
    obtain ⟨set', there, read'⟩ := exists_related related.flip isSlug
    cases read.symm.trans read'
    exact there

/-- The sets that are read: one for each slug, in the order of the slugs. -/
theorem read_of_leadsBack (input : TokenDirectory disk directory node)
    (listable : Disk.Listable directory node) (leadsBack : LeadsBack node)
    (noDirectory : ∀ entries, node.get? ["$themes.json"] ≠ some (.directory entries)) :
    ∃ raw, read disk directory = .ok raw ∧ (raw.sets.map (·.slug)).Pairwise (· < ·) ∧
      ∀ set, set ∈ raw.sets ↔ ∃ place, Found node place ∧ IsRead directory node place set := by
  obtain ⟨sets, read, slugs, members⟩ := exists_sets input leadsBack
  obtain ⟨themes, themesRead⟩ := (readIfThere_themesFile input).resolve_right
    fun ⟨⟨entries, is⟩, _⟩ => noDirectory entries is
  refine ⟨⟨Roster.of (·.slug) sets, themes.getD (.list [])⟩, ?_, ?_, fun set => ?_⟩
  · rw [read_discovered input listable, themesRead]
    show ((discovered node).mapM (setInDirectory disk directory) >>= fun sets => _) = _
    rw [read]
    rfl
  · have sorted : ((Roster.of (·.slug) sets).map (·.slug)).Pairwise (· ≤ ·) :=
      (slugs ▸ pairwise_discovered node).sublist (Roster.map_key_of _ sets).1
    have distinct : ((Roster.of (·.slug) sets).map (·.slug)).Nodup := Roster.nodup_of _ sets
    exact (sorted.and distinct).imp fun both => Classical.byContradiction fun notLess =>
      both.2 (String.le_antisymm both.1 (String.not_lt.1 notLess))
  · have same : ∀ first ∈ sets, ∀ second ∈ sets, first.slug = second.slug → first = second := by
      intro first there second there' equal
      obtain ⟨place, found, isRead⟩ := (members first).1 there
      obtain ⟨place', found', isRead'⟩ := (members second).1 there'
      have reads := (setInDirectory_eq_ok_iff input found isRead.1).2 ⟨rfl, isRead⟩
      have reads' := (setInDirectory_eq_ok_iff input found' isRead'.1).2 ⟨rfl, isRead'⟩
      rw [← equal, reads] at reads'
      exact Except.ok.inj reads'
    exact (Roster.mem_of_iff same).trans (members set)

/-- What goes wrong with a set that is discovered is reported. -/
theorem isLoad_of_setInDirectory (input : TokenDirectory disk directory node)
    (there : slug ∈ discovered node) {failure : Failure}
    (refused : setInDirectory disk directory slug = .error failure) : IsLoad failure := by
  obtain ⟨place, found, spelled⟩ := (mem_discovered_iff input.tree).1 there
  by_cases isFile : ∃ bytes, node.get? (refound place) = some (.file bytes)
  · obtain ⟨bytes, isFile⟩ := isFile
    obtain ⟨data, reads⟩ := reads_refound input found.1 isFile
    cases refused.symm.trans (setInDirectory_of_file input found spelled isFile reads)
  · obtain ⟨failure', refused', isLoad⟩ :=
      setInDirectory_refused input found spelled fun bytes is => isFile ⟨bytes, is⟩
    cases refused.symm.trans refused'
    exact isLoad

/-- Where a set is not found again, nothing is read. -/
theorem isLoad_of_not_leadsBack (input : TokenDirectory disk directory node)
    (listable : Disk.Listable directory node) (lost : ¬ LeadsBack node) :
    ∃ failure, read disk directory = .error failure ∧ IsLoad failure := by
  rw [read_discovered input listable]
  rcases readIfThere_themesFile input with ⟨themes, themesRead⟩ | ⟨-, failure, refused, isLoad⟩
  · rw [themesRead]
    show ∃ failure, ((discovered node).mapM (setInDirectory disk directory) >>=
      fun sets => _) = .error failure ∧ _
    cases read : (discovered node).mapM (setInDirectory disk directory) with
    | error failure =>
      obtain ⟨slug, there, refused⟩ := Except.mapM_eq_error read
      exact ⟨failure, rfl, isLoad_of_setInDirectory input there refused⟩
    | ok sets =>
      -- All that is discovered would have been found again.
      refine absurd (fun place found => ?_) lost
      obtain ⟨slug, spelled⟩ := exists_slug found.1
      have isSlug := (mem_discovered_iff input.tree).2 ⟨place, found, spelled⟩
      obtain ⟨set, -, isSet⟩ := exists_related (Except.mapM_eq_ok_iff.1 read).flip isSlug
      obtain ⟨-, -, -, bytes, isFile, -⟩ := (setInDirectory_eq_ok_iff input found spelled).1 isSet
      exact ⟨bytes, isFile⟩
  · rw [refused]
    exact ⟨failure, rfl, isLoad⟩

/-- Well-formed sets with different ids, and themes, are a library with these sets. -/
theorem exists_library {raw : Raw} {builts : List (List Token)} {themes : List Theme}
    (gives : List.Forall₂ RawSet.Gives raw.sets builts)
    (distinct : (builts.flatten.map (·.id)).Nodup) (slugs : (raw.sets.map (·.slug)).Nodup)
    (parsed : (parseThemes (some (raw.sets.map (·.slug))) raw.themes).outcome = .ok themes)
    (strictNames : Bool) :
    ∃ library, (build raw strictNames).outcome = .ok library ∧
      library.sets = listedSets raw.sets builts := by
  have names := listedSets_names gives.length_eq
  have parsing := parseTokens_eq_ok.2 ⟨builts, gives, rfl, distinct⟩
  have listed : ∀ set ∈ listedSets raw.sets builts, ∀ id ∈ set.ids,
      id ∈ builts.flatten.map (·.id) := by
    intro set there id inside
    rw [← flatMap_listedSets gives.length_eq]
    exact List.mem_flatMap.2 ⟨set, there, inside⟩
  obtain ⟨library, built, -⟩ := Library.exists_build distinct listed themes strictNames
  have sets := Library.sets_of_build built
  rw [Roster.of_of_nodup (names ▸ slugs)] at sets
  refine ⟨library, Noted.outcome_bind_eq_ok.2 ⟨_, parsing, ?_⟩, sets⟩
  rw [← names] at parsed
  exact Noted.outcome_bind_eq_ok.2 ⟨themes, parsed, built⟩

/-- A directory without metadata gives one set for each slug that is found in it, in the order of
the slugs, and these are the sets of its library. A set that cannot be found again by its slug keeps
everything from being loaded: a directory with the ending of a document, or a file whose name is
nothing but that ending. So does a directory below whose path is too long to be listed. -/
theorem load_discovers (input : TokenDirectory disk directory node) (strictNames : Bool) :
    (Disk.Listable directory node → LeadsBack node →
      (∀ entries, node.get? ["$themes.json"] ≠ some (.directory entries)) →
      ∃ raw, read disk directory = .ok raw ∧ (raw.sets.map (·.slug)).Pairwise (· < ·) ∧
        (∀ set, set ∈ raw.sets ↔ ∃ place, Found node place ∧ IsRead directory node place set) ∧
        ∀ builts themes, List.Forall₂ RawSet.Gives raw.sets builts →
          (builts.flatten.map (·.id)).Nodup →
          (parseThemes (some (raw.sets.map (·.slug))) raw.themes).outcome = .ok themes →
          ∃ library, (load disk directory strictNames).outcome = .ok library ∧
            library.sets = listedSets raw.sets builts) ∧
    (Disk.Listable directory node → ¬ LeadsBack node →
      ∃ failure, (load disk directory strictNames).outcome = .error failure ∧ IsLoad failure) ∧
    (¬ Disk.Listable directory node →
      ∃ e, (load disk directory strictNames).outcome = .error (.disk e)) := by
  refine ⟨?_, ?_, ?_⟩
  · intro listable leadsBack noDirectory
    obtain ⟨raw, isRead, sorted, members⟩ := read_of_leadsBack input listable leadsBack noDirectory
    refine ⟨raw, isRead, sorted, members, fun builts themes gives distinct parsed => ?_⟩
    have slugs := (distinct_of_read isRead).1
    obtain ⟨library, built, sets⟩ := exists_library gives distinct slugs parsed strictNames
    refine ⟨library, Noted.outcome_bind_eq_ok.2 ⟨raw, isRead, built⟩, sets⟩
  · intro listable lost
    obtain ⟨failure, refused, isLoad⟩ := isLoad_of_not_leadsBack input listable lost
    exact ⟨failure, Noted.outcome_bind_eq_error.2 (.inl refused), isLoad⟩
  · intro unlistable
    obtain ⟨e, refused⟩ := read_of_not_listable input unlistable
    exact ⟨e, Noted.outcome_bind_eq_error.2 (.inl refused)⟩

/-- A directory with two documents in it. -/
def twoSets : DesignTokens.Node :=
  .directory [("b", .directory [("x.json", .file setText.toUTF8)]),
    ("a.json", .file setText.toUTF8)]

def twoSetsDisk : Disk := ⟨.directory [("tokens", twoSets)], []⟩

theorem reads_set : Reads setText.toUTF8 setData := reads_of_text (by decide +kernel) (by cbv)

/-- What holds of all that is listed holds of all that is found. -/
theorem TokenDirectory.of_all {here : List String} (ending : directory.suffix = "")
    (located : disk.locate directory = .ok (here, some node))
    (isDirectory : node.isDirectory = true)
    (tree : node.IsTree)
    (fits : Disk.Fits directory metadataFile ∧ Disk.Fits directory themesFile)
    (noMetadata : node.get? ["$metadata.json"] = none)
    (admitted : ∀ entry ∈ node.all,
      Disk.admits (directory ++ (⟨.working, refound entry.1⟩ : Path)) = .ok ())
    (documents : ∀ entry ∈ node.all, ∀ bytes, entry.2 = .file bytes → ∃ data, Reads bytes data) :
    TokenDirectory disk directory node where
  ending := ending
  located := ⟨here, located⟩
  isDirectory := isDirectory
  tree := tree
  fits := fits
  noMetadata := noMetadata
  admitted := fun place ⟨isSet, found, there⟩ =>
    admitted (place, found) (tree.mem_all_iff.2 ⟨isSet.ne_nil, there⟩)
  documents := fun front stem bytes there =>
    documents (front ++ [stem ++ ".json"], .file bytes)
      (tree.mem_all_iff.2 ⟨List.append_ne_nil_of_right_ne_nil _ (List.cons_ne_nil _ _), there⟩)
      bytes rfl

theorem twoSets_tree : twoSets.IsTree := by
  have file : (DesignTokens.Node.file setText.toUTF8).IsTree := .file _
  refine .directory (by decide) (by decide +kernel) ?_
  simp only [List.forall_mem_cons]
  refine ⟨.directory (by decide) (by decide +kernel) ?_, file, nofun⟩
  simp only [List.forall_mem_cons]
  exact ⟨file, nofun⟩

theorem twoSets_all : twoSets.all =
    [(["b"], .directory [("x.json", .file setText.toUTF8)]),
      (["b", "x.json"], .file setText.toUTF8), (["a.json"], .file setText.toUTF8)] := rfl

theorem twoSets_tokenDirectory : TokenDirectory twoSetsDisk (.ofText "tokens") twoSets := by
  refine .of_all (by decide +kernel) rfl rfl twoSets_tree (by decide +kernel) rfl
    (by decide +kernel) ?_
  simp only [twoSets_all, List.forall_mem_cons]
  refine ⟨fun _ is => (nomatch is), ?_, ?_, nofun⟩
  all_goals
    rintro bytes ⟨⟩
    exact ⟨_, reads_set⟩

theorem twoSets_leadsBack : LeadsBack twoSets := by
  rintro place ⟨isSet, found, there⟩
  have listed := twoSets_tree.mem_all_iff.2 ⟨isSet.ne_nil, there⟩
  simp only [twoSets_all, List.mem_cons, Prod.mk.injEq, List.not_mem_nil, or_false] at listed
  rcases listed with ⟨rfl, -⟩ | ⟨rfl, -⟩ | ⟨rfl, -⟩
  · exact absurd isSet (by decide +kernel)
  · exact ⟨_, rfl⟩
  · exact ⟨_, rfl⟩

/-- Both documents are read. -/
theorem load_discovers_two : TokenDirectory twoSetsDisk (.ofText "tokens") twoSets ∧
    ∃ raw, read twoSetsDisk (.ofText "tokens") = .ok raw ∧
      (raw.sets.map (·.slug)).Pairwise (· < ·) ∧
      ⟨"a", some (.ofText "tokens/a.json"), setData⟩ ∈ raw.sets ∧
      ⟨"b/x", some (.ofText "tokens/b/x.json"), setData⟩ ∈ raw.sets := by
  have input := twoSets_tokenDirectory
  obtain ⟨raw, isRead, sorted, members, -⟩ :=
    (load_discovers input false).1 (by decide +kernel) twoSets_leadsBack fun _ => nofun
  refine ⟨input, raw, isRead, sorted, (members _).2 ⟨["a.json"], ?_, ?_⟩,
    (members _).2 ⟨["b", "x.json"], ?_, ?_⟩⟩
  · exact ⟨by decide +kernel, _, rfl⟩
  · exact ⟨by decide +kernel, by decide +kernel, _, rfl, reads_set⟩
  · exact ⟨by decide +kernel, _, rfl⟩
  · exact ⟨by decide +kernel, by decide +kernel, _, rfl, reads_set⟩

/-- A directory with a document whose name is nothing but the ending. -/
def nameless : DesignTokens.Node := .directory [(".json", .file setText.toUTF8)]

def namelessDisk : Disk := ⟨.directory [("tokens", nameless)], []⟩

theorem nameless_tokenDirectory : TokenDirectory namelessDisk (.ofText "tokens") nameless := by
  have all : nameless.all = [([".json"], .file setText.toUTF8)] := rfl
  have tree : nameless.IsTree := by
    refine .directory (by decide) (by decide +kernel) ?_
    simp only [List.forall_mem_cons]
    exact ⟨.file _, nofun⟩
  refine .of_all (by decide +kernel) rfl rfl tree (by decide +kernel) rfl (by decide +kernel) ?_
  simp only [all, List.forall_mem_cons]
  refine ⟨?_, nofun⟩
  rintro bytes ⟨⟩
  exact ⟨_, reads_set⟩

/-- A file at the place of a set is not always read, even where it holds a set. -/
theorem not_all_found :
    TokenDirectory namelessDisk (.ofText "tokens") nameless ∧ IsSetPlace [".json"] ∧
      nameless.files = [([".json"], setText.toUTF8)] ∧ Reads setText.toUTF8 setData ∧
      (∃ built, RawSet.Gives ⟨"", none, setData⟩ built) ∧
      ∃ failure, (load namelessDisk (.ofText "tokens") false).outcome = .error failure := by
  have isSet : IsSetPlace [".json"] := by decide +kernel
  have lost : ¬ LeadsBack nameless := by
    intro leadsBack
    obtain ⟨bytes, isFile⟩ := leadsBack [".json"] ⟨isSet, _, rfl⟩
    cases isFile
  obtain ⟨failure, refused, -⟩ :=
    isLoad_of_not_leadsBack nameless_tokenDirectory (by decide +kernel) lost
  refine ⟨nameless_tokenDirectory, isSet, rfl, reads_set, ⟨_, _, rfl, .cons rfl .nil⟩, failure, ?_⟩
  exact Noted.outcome_bind_eq_error.2 (.inl refused)

end Source

end DesignTokens
