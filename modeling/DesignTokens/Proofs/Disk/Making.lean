import DesignTokens.Proofs.Disk.Changing

/-!
# What work on a disk brings about

Directories are made all along a path on which no file stands (`runs_makeDirectories`), and a file
is written in a directory where no directory stands (`runs_write`). Removing a directory leaves
nothing in it (`runs_removeTree`), unless it is named by where it leads up from, and then only
itself is left (`removeTree_fails`).

What such work leaves as it is follows from the places that it keeps to (`Keeps.framed`).
-/

namespace DesignTokens

/-! ## What stands below -/

namespace Node

variable {node found : Node} {place rest : List String} {name : String} {bytes : ByteArray}

theorem standing_of_get? (there : node.get? place = some found) :
    node.standing place = .of (some found) :=
  congrArg Standing.of there

theorem exists_entries_iff :
    (∃ entries, node.get? place = some (.directory entries)) ↔
      node.standing place = .directory := by
  unfold standing
  rcases node.get? place with _ | _ | _ <;> simp [Standing.of]

theorem get?_eq_file_iff :
    node.get? place = some (.file bytes) ↔ node.standing place = .file bytes := by
  unfold standing
  rcases node.get? place with _ | _ | _ <;> simp [Standing.of]

theorem get?_eq_none_iff : node.get? place = none ↔ node.standing place = .nothing := by
  unfold standing
  rcases node.get? place with _ | _ | _ <;> simp [Standing.of]

/-- What is erased is gone with all that was in it. -/
theorem get?_erase (nonempty : place ≠ []) (there : node.get? place = some found) :
    (node.erase place).get? (place ++ rest) = none := by
  induction place generalizing node with
  | nil => exact absurd rfl nonempty
  | cons name others ih =>
    obtain ⟨child, isChild, behind⟩ := Option.bind_eq_some_iff.1 there
    cases others with
    | nil =>
      have gone : Entries.get? (node.entries.filter (·.1 != name)) name = none := by
        cases there : Entries.get? (node.entries.filter (·.1 != name)) name with
        | none => rfl
        | some child =>
          have kept := (List.mem_filter.1 (Entries.mem_of_get? there)).2
          exact absurd rfl (bne_iff_ne.1 kept)
      show (Entries.get? (node.entries.filter (·.1 != name)) name).bind _ = none
      rw [gone]
      rfl
    | cons next others =>
      rw [erase, isChild]
      show (Entries.get? (node.entries.put name _) name).bind _ = none
      rw [Entries.get?_put_self]
      exact ih (List.cons_ne_nil _ _) behind

end Node

/-! ## Paths that are not too long -/

namespace Disk

variable {path q : Path} {root : PathRoot} {front names : List String}

theorem admits_iff :
    admits path = .ok () ↔ '\x00' ∉ path.text.toList ∧ path.text.utf8ByteSize < pathLimit := by
  unfold admits
  split
  next there =>
    exact iff_of_false nofun fun within => within.1 (List.contains_iff_mem.1 there)
  next none =>
    have none : '\x00' ∉ path.text.toList := fun there => none (List.contains_iff_mem.2 there)
    split
    next long => exact iff_of_false nofun fun within => Nat.not_lt.2 long within.2
    next short => exact iff_of_true rfl ⟨none, Nat.lt_of_not_le short⟩

theorem admits_root (root : PathRoot) : admits ⟨root, []⟩ = .ok () := by
  cases root <;> decide +kernel

/-- The front of a path may be followed if the path may be. -/
theorem admits_of_front (leads : front <+: names) (admitted : admits ⟨root, names⟩ = .ok ()) :
    admits ⟨root, front⟩ = .ok () := by
  obtain ⟨rest, rfl⟩ := leads
  by_cases nonempty : front = []
  · rw [nonempty]
    exact admits_root root
  by_cases none : rest = []
  · rwa [none, List.append_nil] at admitted
  have longer : Path.text ⟨root, front ++ rest⟩ =
      Path.text ⟨root, front⟩ ++ ("/" ++ "/".intercalate rest) := by
    have some : front ++ rest ≠ [] := List.append_ne_nil_of_left_ne_nil nonempty rest
    have text {names : List String} (some : names ≠ []) :
        Path.text ⟨root, names⟩ = Path.PathRoot.text root ++ "/".intercalate names :=
      Path.text_of_ne_nil some
    rw [text nonempty, text some, String.intercalate_append_of_ne_nil nonempty none]
    simp only [String.append_assoc]
  obtain ⟨none, short⟩ := admits_iff.1 admitted
  rw [longer] at none short
  rw [String.toList_append] at none
  rw [String.utf8ByteSize_append] at short
  exact admits_iff.2 ⟨fun there => none (List.mem_append_left _ there), by omega⟩

theorem admits_of_mem_way (admitted : admits path = .ok ()) (there : q ∈ path.way) :
    admits q = .ok () := by
  obtain ⟨front, -, leads, rfl⟩ := Path.mem_way there
  exact admits_of_front leads admitted

theorem Short.of_subset (short : Short names) (part : front ⊆ names) : Short front :=
  fun name there => short name (part there)

/-! ## Paths through directories -/

variable {top : Node} {here before rest : List String} {name : String} {disk : Disk}

/-- All that is passed on the way of some names is a directory. -/
def Through (top : Node) (here names : List String) : Prop :=
  ∀ front, front <+: names → top.standing (Path.settled here front) = .directory

/-- Names are followed through directories to where they lead. -/
theorem follow_of_through (short : Short names) (through : Through top here names) :
    follow top here names =
      .ok (Path.settled here names, top.get? (Path.settled here names)) := by
  induction names generalizing here with
  | nil => rfl
  | cons name rest ih =>
    have short' : Short rest := short.of_subset (List.subset_cons_self _ _)
    obtain ⟨entries, start⟩ := Node.exists_entries_iff.2 (through [] List.nil_prefix)
    have start : top.get? here = some (.directory entries) := start
    rw [follow, start]
    by_cases up : name = ".."
    · subst up
      exact ih short' fun front leads =>
        through (".." :: front) (List.cons_prefix_cons.2 ⟨rfl, leads⟩)
    · have goesOn : Through top (here ++ [name]) rest := fun front leads => by
        rw [← Path.settled_cons_of_ne up]
        exact through (name :: front) (List.cons_prefix_cons.2 ⟨rfl, leads⟩)
      obtain ⟨inner, isInner⟩ := Node.exists_entries_iff.2 (goesOn [] List.nil_prefix)
      have isEntry : Entries.get? entries name = some (.directory inner) :=
        (get?_concat name start).symm.trans isInner
      dsimp only
      rw [if_neg up, if_neg (Nat.not_lt.2 (short name List.mem_cons_self up)),
        Entries.has_of_get? isEntry, Bool.true_or, if_pos rfl, Path.settled_cons_of_ne up]
      exact ih short' goesOn

/-- One more name is followed behind directories, whatever is there. -/
theorem follow_concat (short : Short (names ++ [name])) (through : Through top here names) :
    follow top here (names ++ [name]) =
      .ok (Path.settled here (names ++ [name]),
        top.get? (Path.settled here (names ++ [name]))) := by
  obtain ⟨entries, isDirectory⟩ := Node.exists_entries_iff.2 (through names List.prefix_rfl)
  have leads := follow_of_through (short.of_subset (List.subset_append_left _ _)) through
  rw [isDirectory] at leads
  rw [follow_append leads, Path.settled_append, follow, isDirectory]
  by_cases up : name = ".."
  · subst up
    rfl
  · have fits := short name (List.mem_append_right _ List.mem_cons_self) up
    dsimp only
    rw [if_neg up, if_neg (Nat.not_lt.2 fits), List.isEmpty_nil, Bool.or_true, if_pos rfl,
      Path.settled_cons_of_ne up]
    rfl

/-- A path behind directories leads to its place. -/
theorem locate_concat (admitted : admits ⟨root, names ++ [name]⟩ = .ok ())
    (short : Short (names ++ [name]))
    (through : Through disk.top (disk.origin ⟨root, names⟩) names) :
    disk.locate ⟨root, names ++ [name]⟩ =
      .ok (Path.settled (disk.origin ⟨root, names⟩) (names ++ [name]),
        disk.top.get? (Path.settled (disk.origin ⟨root, names⟩) (names ++ [name]))) := by
  have origin : disk.origin ⟨root, names ++ [name]⟩ = disk.origin ⟨root, names⟩ := rfl
  unfold locate
  rw [admitted, origin]
  show (follow disk.top _ (names ++ [name])).mapError _ = _
  rw [follow_concat short through]
  rfl

/-- Where paths start depends on the working directory only. -/
theorem origin_congr {after : Disk} (same : after.working = disk.working) (path : Path) :
    after.origin path = disk.origin path := by
  unfold origin
  rw [same]

theorem place_eq (path : Path) (disk : Disk) :
    path.place disk.working = Path.settled (disk.origin path) path.components := by
  unfold Path.place origin
  cases path.root <;> rfl

/-! ## Work that succeeds -/

section Work

variable {α β : Type} {free made : List String → Prop} {working place : List String} {a : α} {b : β}
  {after middle : Disk} {work : DiskWork α} {f : α → DiskWork β} {bytes : ByteArray}

/-- Work succeeds on a disk with a result, and leaves another disk. -/
def Runs (work : DiskWork α) (before : Disk) (a : α) (after : Disk) : Prop :=
  work.run.run before = (.ok a, after)

theorem runs_pure (a : α) (disk : Disk) : Runs (pure a) disk a disk := rfl

theorem Runs.bind (first : Runs work disk a middle) (second : Runs (f a) middle b after) :
    Runs (work >>= f) disk b after := by
  unfold Runs at first ⊢
  rw [run_bind, first]
  exact second

/-- Work that fails is not gone on with. -/
theorem fails_bind {e : DiskError} (fails : work.run.run disk = (.error e, after)) :
    (work >>= f).run.run disk = (.error e, after) := by
  rw [run_bind, fails]

theorem Runs.bind_fails {e : DiskError} (first : Runs work disk a middle)
    (fails : (f a).run.run middle = (.error e, after)) :
    (work >>= f).run.run disk = (.error e, after) := by
  unfold Runs at first
  rw [run_bind, first]
  exact fails

theorem runs_look {look : Disk → Except DiskError α} (looked : look disk = .ok a) :
    Runs (Disk.look look) disk a disk := by
  unfold Runs
  rw [run_look, looked]

/-- What work that succeeds leaves as it is. -/
theorem Keeps.framed (keeps : Keeps working free made work) (here : disk.working = working)
    (runs : Runs work disk a after) : Framed free made disk after := by
  have framed := keeps disk here
  rw [runs] at framed
  exact framed

theorem Framed.directory (framed : Framed free made disk after) (kept : ¬ free place)
    (was : disk.top.standing place = .directory) : after.top.standing place = .directory := by
  rcases framed.elsewhere place kept with same | ⟨-, -, isDirectory⟩
  · exact same.trans was
  · exact isDirectory

theorem Framed.file_iff (framed : Framed free made disk after) (kept : ¬ free place) :
    after.top.standing place = .file bytes ↔ disk.top.standing place = .file bytes := by
  rcases framed.elsewhere place kept with same | ⟨-, nothing, isDirectory⟩
  · rw [same]
  · rw [nothing, isDirectory]
    exact iff_of_false nofun nofun

theorem Framed.standing_eq (framed : Framed free made disk after) (kept : ¬ free place)
    (stays : ¬ made place) : after.top.standing place = disk.top.standing place :=
  (framed.elsewhere place kept).resolve_right fun isMade => stays isMade.1

end Work

/-! ## Directories -/

/-- A directory is made where no file is. -/
theorem runs_makeDirectory {place : List String}
    (located : disk.locate path = .ok (place, disk.top.get? place))
    (noFile : ∀ bytes, disk.top.standing place ≠ .file bytes) :
    ∃ after, Runs (makeDirectory path) disk () after ∧ after.top.standing place = .directory := by
  unfold makeDirectory
  cases there : disk.top.get? place with
  | none =>
    rw [there] at located
    refine ⟨{ disk with top := disk.top.put .empty place },
      Runs.bind (a := (place, none)) (runs_look located) rfl, ?_⟩
    have made := Node.get?_put disk.top .empty place []
    rw [List.append_nil] at made
    exact Node.standing_of_get? made
  | some node =>
    rw [there] at located
    cases node with
    | file bytes => exact absurd (Node.standing_of_get? there) (noFile bytes)
    | directory entries =>
      exact ⟨disk, (runs_look located).bind (runs_pure _ _), Node.standing_of_get? there⟩

/-- Directories are made one in the other. Each is made in one that stands there already: after the
names `before` all is passed through directories, and then the same holds one name later. -/
theorem runs_makeWay (admitted : ∀ q ∈ Path.wayFrom root before rest, admits q = .ok ())
    (short : Short (before ++ rest))
    (through : Through disk.top (disk.origin ⟨root, before⟩) before)
    (noFile : ∀ q ∈ Path.wayFrom root before rest, ∀ bytes,
      disk.top.standing (q.place disk.working) ≠ .file bytes) :
    ∃ after, Runs ((Path.wayFrom root before rest).forM makeDirectory) disk () after ∧
      Through after.top (disk.origin ⟨root, before⟩) (before ++ rest) := by
  induction rest generalizing before disk with
  | nil => exact ⟨disk, runs_pure _ _, by rwa [List.append_nil]⟩
  | cons name rest ih =>
    rw [List.append_cons] at short ⊢
    obtain ⟨admitted, admitted'⟩ := List.forall_mem_cons.1 admitted
    obtain ⟨noFile, noFile'⟩ := List.forall_mem_cons.1 noFile
    have located := locate_concat admitted (short.of_subset (List.subset_append_left _ _)) through
    have isPlace := place_of_locate located
    obtain ⟨middle, runs, isDirectory⟩ := runs_makeDirectory located (by rwa [isPlace])
    -- Nothing else is changed, so what was passed is passed again, and the new directory after it.
    have keeps : Keeps disk.working (fun _ => False)
        (· = Path.place disk.working ⟨root, before ++ [name]⟩)
        (makeDirectory ⟨root, before ++ [name]⟩) :=
      keeps_makeDirectory (List.append_ne_nil_of_right_ne_nil _ (List.cons_ne_nil _ _)) rfl
    have framed := keeps.framed rfl runs
    have origin : middle.origin ⟨root, before ++ [name]⟩ = disk.origin ⟨root, before⟩ :=
      origin_congr framed.working ⟨root, before⟩
    have through' : Through middle.top (middle.origin ⟨root, before ++ [name]⟩)
        (before ++ [name]) := by
      rw [origin]
      intro front leads
      rcases List.prefix_concat_iff.1 leads with rfl | leads
      · exact isDirectory
      · exact framed.directory not_false (through front leads)
    obtain ⟨after, runs', through''⟩ := ih admitted' short through' fun q there bytes isFile => by
      rw [framed.working] at isFile
      exact noFile' q there bytes ((framed.file_iff not_false).1 isFile)
    rw [origin] at through''
    exact ⟨after, runs.bind runs', through''⟩

/-- All directories on the way to a path are made where no file is on the way. -/
theorem runs_makeDirectories (admitted : admits path = .ok ()) (short : Short path.components)
    (start : disk.top.standing (disk.origin path) = .directory)
    (noFile : ∀ q ∈ path.way, ∀ bytes, disk.top.standing (q.place disk.working) ≠ .file bytes) :
    ∃ after, Runs (makeDirectories path) disk () after ∧
      Through after.top (disk.origin path) path.components := by
  have through : Through disk.top (disk.origin ⟨path.root, []⟩) [] := by
    intro front leads
    rw [List.prefix_nil.1 leads]
    exact start
  obtain ⟨after, runs, through'⟩ :=
    runs_makeWay (fun _ there => admits_of_mem_way admitted there) short through noFile
  refine ⟨after, ?_, through'⟩
  unfold makeDirectories
  rw [admitted]
  exact (runs_pure () disk).bind runs

/-! ## Files -/

/-- A file is written where no directory is. -/
theorem runs_write {place : List String} {bytes : ByteArray}
    (located : disk.locate path = .ok (place, disk.top.get? place))
    (noDirectory : disk.top.standing place ≠ .directory) :
    ∃ after, Runs (write path bytes) disk () after ∧ after.top.standing place = .file bytes := by
  have written : (disk.top.put (.file bytes) place).standing place = .file bytes := by
    have put := Node.get?_put disk.top (.file bytes) place []
    rw [List.append_nil] at put
    exact Node.standing_of_get? put
  refine ⟨{ disk with top := disk.top.put (.file bytes) place }, ?_, written⟩
  unfold write
  cases there : disk.top.get? place with
  | none =>
    rw [there] at located
    exact Runs.bind (a := (place, none)) (runs_look located) rfl
  | some node =>
    rw [there] at located
    cases node with
    | file old =>
      exact Runs.bind (a := (place, some (Node.file old))) (runs_look located) rfl
    | directory entries => exact absurd (Node.standing_of_get? there) noDirectory

/-- A file is written in directories that are made for it, when nothing is in the way and its place
is not on the way to itself. -/
theorem runs_writeBelow {bytes : ByteArray} (some : path.components ≠ [])
    (admitted : admits path = .ok ()) (short : Short path.components)
    (start : disk.top.standing (disk.origin path) = .directory)
    (noFile : ∀ q ∈ path.parent.way, ∀ bytes,
      disk.top.standing (q.place disk.working) ≠ .file bytes)
    (noDirectory : disk.top.standing (path.place disk.working) ≠ .directory)
    (offWay : ∀ q ∈ path.parent.way, q.place disk.working ≠ path.place disk.working) :
    ∃ middle after, Runs (makeDirectories path.parent) disk () middle ∧
      Runs (write path bytes) middle () after ∧
      after.top.standing (path.place disk.working) = .file bytes := by
  obtain ⟨root, components⟩ := path
  obtain ⟨names, name, rfl⟩ := List.eq_nil_or_concat components |>.resolve_left some
  rw [List.concat_eq_append] at *
  have parent : Path.parent ⟨root, names ++ [name]⟩ = ⟨root, names⟩ :=
    congrArg (Path.mk root) List.dropLast_concat
  rw [parent] at noFile offWay ⊢
  have admitted' : admits ⟨root, names⟩ = .ok () :=
    admits_of_front (List.prefix_append _ _) admitted
  have short' : Short names := short.of_subset (List.subset_append_left _ _)
  -- The directories are made first, and lead to the place of the file.
  obtain ⟨middle, runs, through⟩ := runs_makeDirectories admitted' short' start noFile
  have keeps : Keeps disk.working (fun _ => False)
      (fun place => ∃ q ∈ Path.way ⟨root, names⟩, q.place disk.working = place)
      (makeDirectories ⟨root, names⟩) := keeps_makeDirectories fun q there => ⟨q, there, rfl⟩
  have framed := keeps.framed rfl runs
  have located := locate_concat admitted short (origin_congr framed.working _ ▸ through)
  rw [place_of_locate located, framed.working] at located
  have stays : ¬ ∃ q ∈ Path.way ⟨root, names⟩,
      q.place disk.working = Path.place disk.working ⟨root, names ++ [name]⟩ :=
    fun ⟨q, there, same⟩ => offWay q there same
  rw [← framed.standing_eq not_false stays] at noDirectory
  obtain ⟨after, runs', written⟩ := runs_write located noDirectory
  exact ⟨middle, after, runs, runs', written⟩

/-! ## Removing -/

/-- A path that ends in a name of its own, and not where it is itself. -/
def EndsInName (path : Path) : Prop :=
  ∃ name, path.components.getLast? = some name ∧ name ≠ ".."

theorem EndsInName.place_ne_nil (ends : EndsInName path) (working : List String) :
    path.place working ≠ [] := by
  obtain ⟨name, isLast, notUp⟩ := ends
  obtain ⟨front, split⟩ := List.getLast?_eq_some_iff.1 isLast
  unfold Path.place
  rw [split, Path.settled_append, Path.settled_cons_of_ne notUp]
  exact List.append_ne_nil_of_right_ne_nil _ (List.cons_ne_nil _ _)

/-- A directory that is named by its own name is removed with all that is in it. -/
theorem runs_removeTree {entries : List (String × Node)} (ends : EndsInName path)
    (located : disk.locate path = .ok (path.place disk.working, some (.directory entries))) :
    Runs (removeTree path) disk ()
      { disk with top := disk.top.erase (path.place disk.working) } := by
  obtain ⟨name, isLast, notUp⟩ := ends
  refine Runs.bind (a := (path.place disk.working, some (.directory entries)))
    (runs_look located) ?_
  dsimp only
  rw [isLast]
  split
  next none => cases none
  next up =>
    cases up
    exact absurd rfl notUp
  next => rfl

/-- Otherwise the directory stays, with nothing in it, and the work fails. -/
theorem removeTree_fails {entries : List (String × Node)} (ends : ¬ EndsInName path)
    (located : disk.locate path = .ok (path.place disk.working, some (.directory entries))) :
    ∃ e, (removeTree path).run.run disk =
      (.error e, { disk with top := disk.top.put .empty (path.place disk.working) }) := by
  unfold removeTree
  rw [run_bind, run_look, located]
  cases isLast : path.components.getLast? with
  | none => exact ⟨_, rfl⟩
  | some name =>
    by_cases up : name = ".."
    · subst up
      exact ⟨_, rfl⟩
    · exact absurd ⟨name, isLast, up⟩ ends

end Disk

end DesignTokens
