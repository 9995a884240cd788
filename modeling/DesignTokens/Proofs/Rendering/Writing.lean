import DesignTokens.Proofs.Disk.Changing
import DesignTokens.Proofs.Rendering.Agreement
import DesignTokens.Proofs.Source.Reading
import DesignTokens.Proofs.Text
import DesignTokens.Rendering.Output

/-!
# Where files are written

Writing keeps to the output directory and the paths of the files (`keeps_write`). A path that goes
inward, from no root and nowhere above where it starts, stays below the directory that it is taken
from (`place_join`). The names of theme files always go inward (`inward_fileName`). The name of the
file of a set is the name of the set with an ending, whatever that leads to.
-/

namespace DesignTokens

open Inquiry

/-! ## Paths that go inward -/

namespace Path

/-- Whether names that are followed from a place so many directories down lead above the top at no
name. -/
def goesInward : Nat → List String → Bool
  | _, [] => true
  | depth, name :: rest =>
    if name = ".." then depth != 0 && goesInward (depth - 1) rest else goesInward (depth + 1) rest

/-- The path is relative, and leads nowhere above the directory that it is taken from. -/
def Inward (path : Path) : Prop :=
  path.root = .working ∧ goesInward 0 path.components = true

instance (path : Path) : Decidable path.Inward :=
  inferInstanceAs (Decidable (_ ∧ _))

variable {directory inner path q : Path} {working names : List String}

theorem goesInward_of_not_mem (down : ".." ∉ names) (depth : Nat) :
    goesInward depth names = true := by
  induction names generalizing depth with
  | nil => rfl
  | cons name rest ih =>
    have notUp : name ≠ ".." := fun up => down (up ▸ List.mem_cons_self)
    rw [goesInward, if_neg notUp]
    exact ih (fun there => down (List.mem_cons_of_mem _ there)) _

theorem goesInward_of_front {depth : Nat} {front : List String} (leads : front <+: names)
    (inward : goesInward depth names = true) : goesInward depth front = true := by
  induction front generalizing depth names with
  | nil => rfl
  | cons name front ih =>
    obtain ⟨rest, rfl⟩ := leads
    have behind : front <+: front ++ rest := List.prefix_append _ _
    rw [List.cons_append, goesInward] at inward
    rw [goesInward]
    split at inward
    next up =>
      obtain ⟨below, inward⟩ := Bool.and_eq_true_iff.1 inward
      rw [if_pos up, below, ih behind inward]
      rfl
    next down =>
      rw [if_neg down]
      exact ih behind inward

/-- Names that go inward leave what is in front of the place that they are followed from. -/
theorem settled_of_goesInward (behind : List String)
    (inward : goesInward behind.length names = true) (here : List String) :
    Path.settled (here ++ behind) names = here ++ Path.settled behind names := by
  induction names generalizing behind with
  | nil => rfl
  | cons name rest ih =>
    rw [goesInward] at inward
    split at inward
    next up =>
      subst up
      obtain ⟨below, inward⟩ := Bool.and_eq_true_iff.1 inward
      have nonempty : behind ≠ [] := by
        rintro rfl
        cases below
      rw [Path.settled, Path.settled, List.dropLast_append_of_ne_nil nonempty]
      exact ih _ (by rwa [List.length_dropLast])
    next down =>
      rw [Path.settled_cons_of_ne down, Path.settled_cons_of_ne down, List.append_assoc]
      exact ih _ (by rwa [List.length_append])

/-- A path that goes inward leads below the place that it is taken from. -/
theorem place_join (inward : inner.Inward) :
    directory.place working <+: (directory ++ inner).place working := by
  rw [Disk.join_of_relative inward.1]
  unfold place
  generalize (if directory.root = .working then working else []) = start
  have inside := settled_of_goesInward [] inward.2 (Path.settled start directory.components)
  rw [List.append_nil] at inside
  rw [Path.settled_append, inside]
  exact List.prefix_append _ _

/-- On the way to a path that goes inward from a directory are directories on the way to it, and
directories below it. -/
theorem place_of_mem_way (inward : inner.Inward) (nonempty : inner.components ≠ [])
    (there : q ∈ (directory ++ inner).parent.way) :
    q ∈ directory.way ∨ directory.place working <+: q.place working := by
  obtain ⟨front, some, leads, rfl⟩ := mem_way there
  rw [Disk.join_of_relative inward.1] at leads ⊢
  have leads : front <+: (directory.components ++ inner.components).dropLast := leads
  rw [List.dropLast_append_of_ne_nil nonempty] at leads
  obtain ⟨rest, whole⟩ := leads
  rcases List.append_eq_append_iff.1 whole with ⟨more, above, -⟩ | ⟨more, rfl, below⟩
  · exact .inl (mem_way_of_front some ⟨more, above.symm⟩)
  · have leads : more <+: inner.components :=
      .trans ⟨rest, below.symm⟩ (List.dropLast_prefix _)
    have inside : Inward ⟨.working, more⟩ := ⟨rfl, goesInward_of_front leads inward.2⟩
    have join : directory ++ (⟨.working, more⟩ : Path) =
        ⟨directory.root, directory.components ++ more⟩ := Disk.join_of_relative rfl
    refine .inr ?_
    show _ <+: Path.place working ⟨directory.root, directory.components ++ more⟩
    rw [← join]
    exact place_join inside

/-- A single name goes inward, unless it is two dots. -/
theorem inward_of_not_mem {name : String} (whole : '/' ∉ name.toList) (notUp : name ≠ "..") :
    (ofText name).Inward := by
  have parts : Text.parts '/' name = [name] := by
    unfold Text.parts
    rw [List.splitOn_eq_singleton whole, List.map_singleton, String.ofList_toList]
  refine ⟨?_, ?_⟩
  · exact rootOf_of_head? fun slash => whole (List.mem_of_mem_head? slash)
  · refine goesInward_of_not_mem (fun up => ?_) 0
    unfold ofText at up
    rw [parts] at up
    exact notUp (List.mem_singleton.1 (List.mem_filter.1 up).1).symm

end Path

/-! ## Names of files -/

namespace Rendering

variable {library : Library} {format : Format} {scope : ThemeScope}

/-- No slash is in the stem of a theme's file. -/
theorem slash_not_mem_fileStem (theme : Theme) : '/' ∉ theme.fileStem.toList := by
  unfold Theme.fileStem
  rw [String.toList_ofList]
  intro there
  rcases Text.mem_of_mem_intercalate there with same | ⟨part, isPart, inside⟩
  · exact absurd same (by decide)
  · obtain ⟨whole, isWhole, rfl⟩ := List.mem_map.1 isPart
    exact Text.not_mem_of_mem_splitOn isWhole (Text.mem_of_mem_trim inside)

theorem slash_not_mem_ending (format : Format) : '/' ∉ ('.' :: format.name.toList) := by
  cases format <;> decide

theorem toList_name (stem : String) (format : Format) :
    (stem ++ "." ++ format.name).toList = stem.toList ++ '.' :: format.name.toList := by
  rw [String.toList_append, String.toList_append, List.append_assoc]
  rfl

/-- What ends as the names of a format do says something, and does not lead up. -/
theorem plain_of_ending (last : List Char) (format : Format) :
    Path.isIdle (String.ofList (last ++ '.' :: format.name.toList)) = false ∧
      String.ofList (last ++ '.' :: format.name.toList) ≠ ".." := by
  have ends (word : String) (same : String.ofList (last ++ '.' :: format.name.toList) = word) :
      '.' :: format.name.toList <:+ word.toList := by
    rw [← same, String.toList_ofList]
    exact List.suffix_append _ _
  have apart (word : String) (short : ¬ '.' :: format.name.toList <:+ word.toList) :
      String.ofList (last ++ '.' :: format.name.toList) ≠ word := fun same => short (ends word same)
  refine ⟨?_, apart _ (by cases format <;> decide)⟩
  unfold Path.isIdle
  rw [beq_eq_false_iff_ne.2 (apart _ (by cases format <;> decide)),
    beq_eq_false_iff_ne.2 (apart _ (by cases format <;> decide))]
  rfl

/-- The last component of a file's name has the ending of its format. -/
theorem components_of_name (stem : String) (format : Format) :
    (Path.ofText (stem ++ "." ++ format.name)).components ≠ [] := by
  obtain ⟨first, last, -, split⟩ :=
    Text.exists_splitOn_append stem.toList (slash_not_mem_ending format)
  have plain := (plain_of_ending last format).1
  have there : String.ofList (last ++ '.' :: format.name.toList) ∈
      (Path.ofText (stem ++ "." ++ format.name)).components := by
    refine List.mem_filter.2 ⟨?_, by rw [plain]; rfl⟩
    unfold Text.parts
    rw [toList_name, split]
    exact List.mem_map_of_mem (List.mem_append_right _ List.mem_cons_self)
  exact List.ne_nil_of_mem there

/-- The names of theme files go inward. -/
theorem inward_fileName (format : Format) (theme : Theme) :
    (Path.ofText (fileName format theme)).Inward := by
  refine Path.inward_of_not_mem ?_ ?_
  · unfold fileName
    rw [toList_name, List.mem_append]
    exact fun either => either.elim (slash_not_mem_fileStem theme) (slash_not_mem_ending format)
  · have plain := (plain_of_ending theme.fileStem.toList format).2
    rw [← toList_name, String.ofList_toList] at plain
    exact plain

/-- The name of the file of a theme, or of the file of a set when there are no themes. -/
inductive IsFileName (library : Library) (format : Format) (name : String) : Prop
  | ofTheme {theme : Theme} : theme ∈ library.themes → name = fileName format theme →
      IsFileName library format name
  | ofSet {set : TokenSet} : library.themes = [] → set ∈ library.sets →
      name = set.name ++ "." ++ format.name → IsFileName library format name

theorem IsFileName.components_ne_nil {name : String} (isName : IsFileName library format name) :
    (Path.ofText name).components ≠ [] := by
  rcases isName with ⟨-, rfl⟩ | ⟨-, -, rfl⟩
  · exact components_of_name _ format
  · exact components_of_name _ format

theorem isFileName_of_files {written : Entries String}
    (rendered : outcome library (files library format scope) = .ok written) {file : String × String}
    (there : file ∈ written) : IsFileName library format file.1 := by
  by_cases none : library.themes = []
  · unfold files at rendered
    rw [if_pos (List.isEmpty_iff.2 none)] at rendered
    obtain ⟨pairs, traversed, last⟩ := outcome_bind_eq_ok.1 rendered
    cases last
    obtain ⟨set, isSet, computed⟩ :=
      exists_related (outcome_mapM_eq_ok traversed) (Entries.mem_ofList there)
    obtain ⟨text, -, last⟩ := outcome_bind_eq_ok.1 computed
    cases last
    exact .ofSet none isSet rfl
  · obtain ⟨pairs, rfl, each⟩ := exists_writes_of_files none rendered
    have keys := (files_of_themes (List.Subset.refl _) each).1
    have isName : file.1 ∈ library.themes.map (fileName format) := by
      rw [← keys]
      exact List.mem_map_of_mem (Entries.mem_ofList there)
    obtain ⟨theme, isTheme, same⟩ := List.mem_map.1 isName
    exact .ofTheme isTheme same.symm

end Rendering

/-! ## Writing -/

namespace Output

open Disk

variable {free made : List String → Prop} {working : List String} {directory path : Path}
  {file : String × String}

theorem keeps_clear (isFree : ∀ place, directory.place working <+: place → free place) :
    Keeps working free made (clear directory) := by
  refine Keeps.look fun disk present here _ => ?_
  cases present with
  | false => exact .refl disk
  | true => exact keeps_removeTree isFree disk here

theorem keeps_writeFile (nonempty : (Path.ofText file.1).components ≠ [])
    (isFree : free ((directory ++ Path.ofText file.1).place working))
    (isMade : ∀ q ∈ (directory ++ Path.ofText file.1).parent.way, made (q.place working)) :
    Keeps working free made (writeFile directory file) := by
  have some : (directory ++ Path.ofText file.1).components ≠ [] := by
    show (Path.join directory (Path.ofText file.1)).components ≠ []
    unfold Path.join
    split
    · exact List.append_ne_nil_of_right_ne_nil _ nonempty
    · exact nonempty
  refine (keeps_makeDirectories isMade).bind fun _ => ?_
  exact (keeps_write some isFree).bind fun _ => keeps_pure _

/-- The place is in the output directory, or that of one of the files. -/
def Written (working : List String) (directory : Path) (files : List (String × String))
    (place : List String) : Prop :=
  directory.place working <+: place ∨
    ∃ file ∈ files, place = (directory ++ Path.ofText file.1).place working

/-- The place is that of a directory on the way to one of the files. -/
def OnWay (working : List String) (directory : Path) (files : List (String × String))
    (place : List String) : Prop :=
  ∃ file ∈ files, ∃ q ∈ (directory ++ Path.ofText file.1).parent.way, place = q.place working

/-- Writing changes what is in the output directory and at the places of the files, and makes the
directories on the way to them. -/
theorem keeps_write {files : List (String × String)} (clean : Bool)
    (nonempty : ∀ file ∈ files, (Path.ofText file.1).components ≠ []) :
    Keeps working (Written working directory files) (OnWay working directory files)
      (write directory clean files) := by
  have written : Keeps working (Written working directory files) (OnWay working directory files)
      (files.mapM (writeFile directory)) := Keeps.mapM fun file there =>
    keeps_writeFile (nonempty file there) (.inr ⟨file, there, rfl⟩)
      fun q onWay => ⟨file, there, q, onWay, rfl⟩
  unfold write
  cases clean with
  | false => exact written
  | true => exact (keeps_clear fun _ below => .inl below).bind fun _ => written

/-- The disk is another only in the directory, and where directories were made on the way to it. -/
def Confined (directory : Path) (before after : Disk) : Prop :=
  Framed (directory.place before.working <+: ·)
    (fun place => ∃ q ∈ directory.way, place = q.place before.working) before after

/-- Files whose names go inward are below the output directory, and so are the directories on the
way to them, apart from those on the way to the output directory. -/
theorem confined_of_inward {files : List (String × String)} {before after : Disk}
    (nonempty : ∀ file ∈ files, (Path.ofText file.1).components ≠ [])
    (inward : ∀ file ∈ files, (Path.ofText file.1).Inward)
    (framed : Framed (Written before.working directory files) (OnWay before.working directory files)
      before after) :
    Confined directory before after := by
  refine framed.mono ?_ ?_
  · rintro place (below | ⟨file, there, rfl⟩)
    · exact below
    · exact Path.place_join (inward file there)
  · rintro place ⟨file, there, q, onWay, rfl⟩
    rcases Path.place_of_mem_way (inward file there) (nonempty file there) onWay with above | below
    · exact .inr ⟨q, above, rfl⟩
    · exact .inl below

end Output

end DesignTokens
