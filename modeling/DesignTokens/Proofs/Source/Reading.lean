import DesignTokens.Proofs.Disk.Looking
import DesignTokens.Proofs.Disk.Paths
import DesignTokens.Proofs.Source.Adding
import DesignTokens.Source.Input
import Mathlib.Data.List.Permutation

/-!
# Reading token input

Reading a file that holds a document gives the document (`readDocument_of_locate`), and the file of
a set is found below its directory by the parts of its slug (`ofText_slug`).

What is read decides whether a library can be built, and the files it was read from do not: sets of
the same contents are parsed alike (`alike_parseTokens`). Everything that goes wrong after reading
is a fault of the source (`isLoad_of_build`).
-/

namespace DesignTokens

/-! ## Documents in files -/

theorem Text.withLineFeeds_of_not_mem {text : List Char} (none : '\r' ∉ text) :
    Text.withLineFeeds text = text := by
  induction text with
  | nil => rfl
  | cons c rest ih =>
    have other : c ≠ '\r' := fun same => none (same ▸ List.mem_cons_self)
    rw [Text.withLineFeeds, ih fun there => none (List.mem_cons_of_mem _ there)]
    · exact fun _ same _ => other same
    · exact other

/-- A text without carriage returns is read back from its bytes. -/
theorem Text.ofBytes?_toUTF8 {text : String} (none : '\r' ∉ text.toList) :
    Text.ofBytes? text.toUTF8 = some text.toList := by
  have valid : text.toUTF8.IsValidUTF8 := text.isValidUTF8
  unfold Text.ofBytes? String.fromUTF8?
  rw [dif_pos valid]
  exact congrArg some (Text.withLineFeeds_of_not_mem none)

namespace Source

/-- The bytes of a file are a document with a value. -/
def Reads (bytes : ByteArray) (data : Data) : Prop :=
  ∃ source, Text.ofBytes? bytes = some source ∧ Json.read source = .ok data

theorem reads_of_text {text : String} {data : Data} (none : '\r' ∉ text.toList)
    (read : Json.read text.toList = .ok data) : Reads text.toUTF8 data :=
  ⟨text.toList, Text.ofBytes?_toUTF8 none, read⟩

section Files

variable {disk : Disk} {path : Path} {place : List String} {bytes : ByteArray} {data : Data}

theorem readDocument_of_locate (located : disk.locate path = .ok (place, some (.file bytes)))
    (reads : Reads bytes data) : readDocument disk path = .ok data := by
  obtain ⟨source, decoded, read⟩ := reads
  unfold readDocument Disk.read
  rw [located]
  simp only [decoded, read]

theorem readIfThere_of_locate (located : disk.locate path = .ok (place, some (.file bytes)))
    (reads : Reads bytes data) : readIfThere disk path = .ok (some data) := by
  unfold readIfThere Disk.exists?
  rw [Disk.node?_of_locate located]
  show (readDocument disk path >>= fun data => pure (some data)) = _
  rw [readDocument_of_locate located reads]
  rfl

/-- A directory in the place of a file cannot be read. -/
theorem readIfThere_of_directory {entries : List (String × DesignTokens.Node)}
    (located : disk.locate path = .ok (place, some (.directory entries))) :
    ∃ fault file token, readIfThere disk path = .error (.load fault file token) := by
  unfold readIfThere Disk.exists?
  rw [Disk.node?_of_locate located]
  show ∃ fault file token, (readDocument disk path >>= fun data => pure (some data)) = _
  unfold readDocument Disk.read
  rw [located]
  exact ⟨_, _, _, rfl⟩

/-- A path with the ending of a document is read as one. -/
theorem read_of_document {node : DesignTokens.Node} (ending : path.suffix = ".json")
    (located : disk.locate path = .ok (place, some node)) :
    read disk path = readSingle disk path := by
  unfold read layoutOf Disk.exists?
  rw [ending, Disk.node?_of_locate located]
  rfl

/-- What is read from a file is what its document says. -/
theorem read_of_reads {entries : Entries Data} (ending : path.suffix = ".json")
    (located : disk.locate path = .ok (place, some (.file bytes)))
    (reads : Reads bytes (.table entries)) :
    read disk path = (do
      let order ← setOrder (entries.get? "$metadata") (entries.keys.filter (!isOwnKey ·)) path
      let sets ← order.mapM (setInDocument entries path)
      return ⟨Roster.of (·.slug) sets, (entries.get? "$themes").getD (.list [])⟩) := by
  rw [read_of_document ending located]
  unfold readSingle
  rw [readDocument_of_locate located reads]
  rfl

/-- What is loaded from a file is built from its document. -/
theorem load_of_reads {entries : Entries Data} {library : Noted Failure Warning Library}
    (strictNames : Bool) (ending : path.suffix = ".json")
    (located : disk.locate path = .ok (place, some (.file bytes)))
    (reads : Reads bytes (.table entries))
    (built : (Noted.lift (do
        let order ← setOrder (entries.get? "$metadata") (entries.keys.filter (!isOwnKey ·)) path
        let sets ← order.mapM (setInDocument entries path)
        return ⟨Roster.of (·.slug) sets, (entries.get? "$themes").getD (.list [])⟩) >>=
      fun raw => build raw strictNames) = library) :
    load disk path strictNames = library := by
  unfold load
  rw [read_of_reads ending located reads, built]

/-- A path without an ending is read as a directory. -/
theorem read_of_directory {node : DesignTokens.Node} (ending : path.suffix = "")
    (located : disk.locate path = .ok (place, some node)) :
    read disk path = readDirectory disk path := by
  unfold read layoutOf Disk.exists?
  rw [ending, Disk.node?_of_locate located]
  rfl

/-- The slugs of what is listed are discovered. -/
theorem discover_eq_ok {node : DesignTokens.Node}
    (located : disk.locate path = .ok (place, some node)) (listable : Disk.Listable path node) :
    discover disk path = .ok (slugsOf (node.all.map (·.1))) := by
  unfold discover
  rw [Disk.placesBelow_eq_ok located listable]
  rfl

/-- What is read from a directory are the metadata, the themes and the sets in their order. -/
theorem readDirectory_of_isDirectory (isDirectory : disk.isDirectory? path = .ok true) :
    readDirectory disk path = (do
      let metadata ← readIfThere disk (path ++ metadataFile)
      let order ← setOrder metadata (← discover disk path) (path ++ metadataFile)
      let themes ← readIfThere disk (path ++ themesFile)
      let sets ← order.mapM (setInDirectory disk path)
      return ⟨Roster.of (·.slug) sets, themes.getD (.list [])⟩) := by
  unfold readDirectory
  rw [isDirectory]
  rfl

theorem readIfThere_of_missing (missing : disk.node? path = .ok none) :
    readIfThere disk path = .ok none := by
  unfold readIfThere Disk.exists?
  rw [missing]
  rfl

end Files

/-- The order of the sets is the one that the metadata list. -/
theorem setOrder_of_listed {metadata : Entries Data} {slugs : List String}
    (listed : metadata.get? "tokenSetOrder" = some (.list (slugs.map .text)))
    (fallback : List String) (file : Path) :
    setOrder (some (.table metadata)) fallback file = .ok slugs := by
  have texts : (slugs.map Data.text).mapM (·.text?) = some slugs := by
    clear listed
    induction slugs with
    | nil => rfl
    | cons slug rest ih =>
      rw [List.map_cons, List.mapM_cons, ih]
      rfl
  unfold setOrder
  simp only [Data.table?, Option.bind_some, listed, texts]

/-! ## The place of a set -/

/-- A slug that is a relative path in normal form: no part is empty, a single dot or two dots. -/
def IsNormal (slug : String) : Prop :=
  ∀ part ∈ Text.parts '/' slug, part ≠ "" ∧ part ≠ "." ∧ part ≠ ".."

/-- The place of a set's file in its directory. -/
def placeOfSlug (slug : String) : List String :=
  Text.parts '/' (slug ++ ".json")

theorem placeOfSlug_injective : Function.Injective placeOfSlug := fun _ _ same =>
  (String.append_left_inj _).1 (Text.parts_injective '/' same)

/-- The parts of a set's place are those of its slug, the last with the ending of a file. -/
theorem mem_placeOfSlug {slug name : String} (there : name ∈ placeOfSlug slug) :
    name ∈ Text.parts '/' slug ∨ ∃ last, name = last ++ ".json" := by
  have none : '/' ∉ ".json".toList := by decide
  obtain ⟨first, last, split, split'⟩ := Text.exists_splitOn_append slug.toList none
  unfold placeOfSlug Text.parts at there
  rw [String.toList_append, split', List.map_append] at there
  unfold Text.parts
  rw [split, List.map_append]
  rcases List.mem_append.1 there with there | there
  · exact .inl (List.mem_append_left _ there)
  · refine .inr ⟨String.ofList last, ?_⟩
    rw [List.mem_singleton.1 there, String.ofList_append, String.ofList_toList]

/-- No part of the place of a normal slug says nothing or leads up. -/
theorem plain_of_mem_placeOfSlug {slug name : String} (normal : IsNormal slug)
    (there : name ∈ placeOfSlug slug) : Path.isIdle name = false ∧ name ≠ ".." := by
  rcases mem_placeOfSlug there with there | ⟨last, rfl⟩
  · obtain ⟨notEmpty, notDot, notUp⟩ := normal name there
    refine ⟨?_, notUp⟩
    unfold Path.isIdle
    rw [beq_eq_false_iff_ne.2 notEmpty, beq_eq_false_iff_ne.2 notDot]
    rfl
  · -- The words in question do not end as the name does.
    have ends : ∀ word : String, last ++ ".json" = word → ".json".toList <:+ word.toList := by
      rintro _ rfl
      rw [String.toList_append]
      exact List.suffix_append _ _
    refine ⟨?_, fun same => absurd (ends _ same) (by decide)⟩
    unfold Path.isIdle
    rw [beq_eq_false_iff_ne.2 fun same => absurd (ends _ same) (by decide),
      beq_eq_false_iff_ne.2 fun same => absurd (ends _ same) (by decide)]
    rfl

/-- The path of a set's file is its place. -/
theorem ofText_slug {slug : String} (normal : IsNormal slug) :
    Path.ofText (slug ++ ".json") = ⟨.working, placeOfSlug slug⟩ := by
  have text : slug ++ ".json" = "/".intercalate (placeOfSlug slug) := by
    refine String.toList_inj.1 ?_
    have chars : (placeOfSlug slug).map String.toList =
        (slug ++ ".json").toList.splitOn '/' := by
      unfold placeOfSlug Text.parts
      rw [List.map_map]
      exact List.map_id'' (fun _ => String.toList_ofList) _
    rw [String.toList_intercalate, chars]
    exact (List.intercalate_splitOn '/').symm
  have some : placeOfSlug slug ≠ [] := Text.parts_ne_nil _ _
  have whole : ∀ name ∈ placeOfSlug slug, '/' ∉ name.toList := by
    intro name there
    obtain ⟨part, isPart, rfl⟩ := List.mem_map.1 there
    rw [String.toList_ofList]
    exact Text.not_mem_of_mem_splitOn isPart
  rw [text, Path.ofText_intercalate some whole fun name there =>
    (plain_of_mem_placeOfSlug normal there).1]

/-! ## Two ways to read -/

/-- Two computations go alike: both refuse the source, or their results are related. -/
inductive Alike {α β : Type} (related : α → β → Prop) : Except Failure α → Except Failure β → Prop
  | refused {failure failure' : Failure} : IsLoad failure → IsLoad failure' →
      Alike related (.error failure) (.error failure')
  | accepted {a : α} {b : β} : related a b → Alike related (.ok a) (.ok b)

section Alike

variable {α β α' β' : Type} {related : α → β → Prop} {related' : α' → β' → Prop}

theorem Alike.bind {x : Except Failure α} {y : Except Failure β} {f : α → Except Failure α'}
    {g : β → Except Failure β'} (first : Alike related x y)
    (next : ∀ a b, related a b → Alike related' (f a) (g b)) :
    Alike related' (x >>= f) (y >>= g) := by
  cases first with
  | refused left right => exact .refused left right
  | accepted same => exact next _ _ same

theorem Alike.mapM {γ : Type} {items : List γ} {f : γ → Except Failure α}
    {g : γ → Except Failure β} (each : ∀ item ∈ items, Alike related (f item) (g item)) :
    Alike (List.Forall₂ related) (items.mapM f) (items.mapM g) := by
  induction items with
  | nil => exact .accepted .nil
  | cons item rest ih =>
    rw [List.mapM_cons, List.mapM_cons]
    refine (each item List.mem_cons_self).bind fun a b same => ?_
    refine (ih fun other there => each other (List.mem_cons_of_mem _ there)).bind ?_
    intro others others' same'
    exact .accepted (.cons same same')

end Alike

/-! ## Sets of the same contents -/

/-- Two sets have one slug and hold the same. They may be read from different files. -/
def SameContents (set set' : RawSet) : Prop :=
  set.slug = set'.slug ∧ set.data = set'.data

/-- What was read is the same but for the files that it was read from. -/
structure Raw.Same (raw raw' : Raw) : Prop where
  sets : List.Forall₂ SameContents raw.sets raw'.sets
  themes : raw.themes = raw'.themes

section Sets

variable {sets sets' : List RawSet} {builts : List (List Token)} {parsed : Parsed}

theorem gives_of_sameContents (same : List.Forall₂ SameContents sets sets')
    (gives : List.Forall₂ RawSet.Gives sets builts) : List.Forall₂ RawSet.Gives sets' builts := by
  induction same generalizing builts with
  | nil => exact gives
  | cons here _ ih =>
    cases gives with
    | cons given gives =>
      refine .cons ?_ (ih gives)
      unfold RawSet.Gives at given ⊢
      rwa [here.1, here.2] at given

theorem listedSets_of_sameContents (same : List.Forall₂ SameContents sets sets')
    (builts : List (List Token)) : listedSets sets builts = listedSets sets' builts := by
  induction same generalizing builts with
  | nil => rfl
  | @cons set set' sets sets' here _ ih =>
    cases builts with
    | nil => rfl
    | cons built builts =>
      show (⟨set.slug, _⟩ :: listedSets sets builts : List TokenSet) = _
      rw [here.1, ih]
      rfl

theorem parseTokens_of_sameContents (same : List.Forall₂ SameContents sets sets')
    (parsing : parseTokens sets = .ok parsed) : parseTokens sets' = .ok parsed := by
  obtain ⟨builts, gives, rfl, distinct⟩ := parseTokens_eq_ok.1 parsing
  rw [listedSets_of_sameContents same]
  exact parseTokens_eq_ok.2 ⟨builts, gives_of_sameContents same gives, rfl, distinct⟩

/-- Sets of the same contents are parsed alike. -/
theorem alike_parseTokens (same : List.Forall₂ SameContents sets sets') :
    Alike Eq (parseTokens sets) (parseTokens sets') := by
  have same' : List.Forall₂ SameContents sets' sets :=
    same.flip.imp fun _ _ here => ⟨here.1.symm, here.2.symm⟩
  cases parsing : parseTokens sets with
  | ok parsed =>
    rw [parseTokens_of_sameContents same parsing]
    exact .accepted rfl
  | error failure =>
    cases parsing' : parseTokens sets' with
    | ok parsed => cases parsing.symm.trans (parseTokens_of_sameContents same' parsing')
    | error failure' =>
      exact .refused (isLoad_of_parseTokens parsing) (isLoad_of_parseTokens parsing')

end Sets

/-! ## Faults of the source -/

section Themes

variable {failure : Failure} {known : Option (List String)} {taken : List String} {name : String}

theorem isLoad_of_selectedSets {selected : List (String × Data)}
    (failed : (selectedSets name known selected).outcome = .error failure) : IsLoad failure := by
  induction selected with
  | nil => cases failed
  | cons entry rest ih =>
    unfold selectedSets at failed
    split at failed
    · cases failed
      exact ⟨_, _, _, rfl⟩
    · exact ih failed
    · split at failed
      · rcases Noted.outcome_bind_eq_error.1 failed with failed | ⟨_, _, failed⟩
        · cases failed
        · exact ih failed
      · rcases Noted.outcome_bind_eq_error.1 failed with failed | ⟨_, _, failed⟩
        · exact ih failed
        · cases failed

theorem isLoad_of_parseTheme {definition : Data}
    (failed : (parseTheme known taken definition).outcome = .error failure) : IsLoad failure := by
  have refused : ∀ fault, IsLoad (themeFailure fault) := fun fault => ⟨fault, _, _, rfl⟩
  unfold parseTheme at failed
  split at failed
  · cases failed
    exact refused _
  split at failed
  · cases failed
    exact refused _
  split at failed
  · cases failed
    exact refused _
  split at failed
  · rcases Noted.outcome_bind_eq_error.1 failed with failed | ⟨_, _, failed⟩
    · exact isLoad_of_selectedSets failed
    · cases failed
  · cases failed
    exact refused _

theorem isLoad_of_parseThemesFrom {definitions : List Data}
    (failed : (parseThemesFrom known taken definitions).outcome = .error failure) :
    IsLoad failure := by
  induction definitions generalizing taken with
  | nil => cases failed
  | cons definition rest ih =>
    rcases Noted.outcome_bind_eq_error.1 failed with failed | ⟨theme, _, failed⟩
    · exact isLoad_of_parseTheme failed
    · rcases Noted.outcome_bind_eq_error.1 failed with failed | ⟨_, _, failed⟩
      · exact ih failed
      · cases failed

theorem isLoad_of_parseThemes {data : Data}
    (failed : (parseThemes known data).outcome = .error failure) : IsLoad failure := by
  unfold parseThemes at failed
  split at failed
  · exact isLoad_of_parseThemesFrom failed
  · cases failed
    exact ⟨_, _, _, rfl⟩

theorem isLoad_of_libraryBuild {tokens : List Token} {sets : List TokenSet} {themes : List Theme}
    {strictNames : Bool} (failed : Library.build tokens sets themes strictNames = .error failure) :
    IsLoad failure := by
  unfold Library.build at failed
  dsimp only at failed
  split at failed
  · cases failed
    exact ⟨_, _, _, rfl⟩
  · cases failed

end Themes

/-- Everything that goes wrong after reading is a fault of the source. -/
theorem isLoad_of_build {raw : Raw} {strictNames : Bool} {failure : Failure}
    (failed : (build raw strictNames).outcome = .error failure) : IsLoad failure := by
  rcases Noted.outcome_bind_eq_error.1 failed with failed | ⟨parsed, _, failed⟩
  · exact isLoad_of_parseTokens failed
  · rcases Noted.outcome_bind_eq_error.1 failed with failed | ⟨themes, _, failed⟩
    · exact isLoad_of_parseThemes failed
    · exact isLoad_of_libraryBuild failed

end Source

end DesignTokens
