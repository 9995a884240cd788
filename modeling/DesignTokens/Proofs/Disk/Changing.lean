import DesignTokens.Proofs.Disk.Looking
import DesignTokens.Proofs.Disk.Paths

/-!
# What work on a disk changes

What stands at a place is nothing, a directory, or a file with its bytes. Work on a disk keeps to
some places (`Disk.Keeps`) when nothing else changes, apart from directories that are made where
nothing stood. Each operation keeps to the place of its path, and work that is put together keeps to
the places of its parts, also when a part fails.

Where a path leads does not depend on what is on the disk: a path that can be followed leads to
`Path.place`.
-/

namespace DesignTokens

/-! ## What stands at a place -/

/-- What stands at a place. -/
inductive Standing where
  | nothing
  | directory
  | file (bytes : ByteArray)

def Standing.of : Option Node → Standing
  | none => .nothing
  | some (.directory _) => .directory
  | some (.file bytes) => .file bytes

theorem Entries.get?_filter_of_ne {α : Type} {entries : Entries α} {key other : String}
    (apart : other ≠ key) :
    Entries.get? (entries.filter (·.1 != key)) other = entries.get? other := by
  induction entries with
  | nil => rfl
  | cons entry rest ih =>
    obtain ⟨k, v⟩ := entry
    by_cases same : k = key
    · subst same
      have skipped : ¬ (other == k) = true := fun is => apart (beq_iff_eq.1 is)
      rw [List.filter_cons_of_neg (by simp), ih, Entries.get?_cons, if_neg skipped]
    · rw [List.filter_cons_of_pos (by simpa using same), Entries.get?_cons, Entries.get?_cons, ih]

namespace Node

variable {node new found : Node} {place other : List String} {name : String}

def standing (node : Node) (place : List String) : Standing :=
  .of (node.get? place)

theorem standing_cons (node : Node) (name : String) (rest : List String) :
    node.standing (name :: rest) = .of ((node.entries.get? name).bind (·.get? rest)) := rfl

/-- Every place in front of the last name is a directory. -/
def Reaches (node : Node) : List String → Prop
  | [] => True
  | [_] => node.isDirectory
  | name :: next :: rest =>
    ∃ child, node.entries.get? name = some child ∧ child.Reaches (next :: rest)

theorem reaches_of_get? (there : node.get? place = some found) : node.Reaches place := by
  induction place generalizing node with
  | nil => exact trivial
  | cons name rest ih =>
    obtain ⟨child, isChild, behind⟩ := Option.bind_eq_some_iff.1 there
    cases rest with
    | nil =>
      cases node with
      | file bytes => cases isChild
      | directory entries => rfl
    | cons next rest => exact ⟨child, isChild, ih behind⟩

/-- Anything can be reached in a directory. -/
theorem reaches_concat {entries : List (String × Node)}
    (directory : node.get? place = some (.directory entries)) : node.Reaches (place ++ [name]) := by
  induction place generalizing node with
  | nil =>
    cases directory
    rfl
  | cons first rest ih =>
    obtain ⟨child, isChild, behind⟩ := Option.bind_eq_some_iff.1 directory
    have inside := ih behind
    cases rest with
    | nil => exact ⟨child, isChild, inside⟩
    | cons next rest => exact ⟨child, isChild, inside⟩

theorem get?_put (node new : Node) (place rest : List String) :
    (node.put new place).get? (place ++ rest) = new.get? rest := by
  induction place generalizing node with
  | nil => rfl
  | cons name others ih =>
    rw [put, List.cons_append, get?]
    show (Entries.get? (Entries.put _ _ _) name).bind _ = _
    rw [Entries.get?_put_self]
    exact ih _

/-- A node is a directory, and stands as one, when it has an entry. -/
theorem standing_nil_of_entry {child : Node} (isChild : node.entries.get? name = some child) :
    node.standing [] = .directory := by
  cases node with
  | file bytes => cases isChild
  | directory entries => rfl

/-- Putting a node changes nothing apart from its place. -/
theorem standing_put (reaches : node.Reaches place) (apart : ¬ place <+: other) :
    (node.put new place).standing other = node.standing other := by
  induction place generalizing node other with
  | nil => exact absurd (List.nil_prefix) apart
  | cons name rest ih =>
    rw [put]
    cases other with
    | nil =>
      cases rest with
      | nil =>
        cases node with
        | file bytes => cases reaches
        | directory entries => rfl
      | cons next rest =>
        obtain ⟨child, isChild, -⟩ := reaches
        rw [standing_nil_of_entry isChild]
        rfl
    | cons first others =>
      rw [standing_cons, standing_cons]
      by_cases same : first = name
      · subst same
        cases rest with
        | nil => exact absurd (List.prefix_append [first] others) apart
        | cons next rest =>
          obtain ⟨child, isChild, reaches⟩ := reaches
          have behind : ¬ next :: rest <+: others := fun leads =>
            apart (List.cons_prefix_cons.2 ⟨rfl, leads⟩)
          show Standing.of ((Entries.get? (Entries.put _ _ _) first).bind _) = _
          rw [Entries.get?_put_self, isChild]
          exact ih reaches behind
      · show Standing.of ((Entries.get? (Entries.put _ _ _) first).bind _) = _
        rw [Entries.get?_put_of_ne _ _ same]

/-- Erasing a node changes nothing apart from its place. -/
theorem standing_erase (there : node.get? place = some found) (apart : ¬ place <+: other) :
    (node.erase place).standing other = node.standing other := by
  induction place generalizing node other with
  | nil => exact absurd (List.nil_prefix) apart
  | cons name rest ih =>
    obtain ⟨child, isChild, behind⟩ := Option.bind_eq_some_iff.1 there
    cases rest with
    | nil =>
      rw [erase]
      cases other with
      | nil =>
        rw [standing_nil_of_entry isChild]
        rfl
      | cons first others =>
        have differs : first ≠ name := by
          rintro rfl
          exact apart (List.prefix_append [first] others)
        rw [standing_cons, standing_cons]
        show Standing.of ((Entries.get? (List.filter _ _) first).bind _) = _
        rw [Entries.get?_filter_of_ne differs]
    | cons next rest =>
      rw [erase, isChild]
      cases other with
      | nil =>
        rw [standing_nil_of_entry isChild]
        rfl
      | cons first others =>
        rw [standing_cons, standing_cons]
        show Standing.of ((Entries.get? (Entries.put _ _ _) first).bind _) = _
        by_cases same : first = name
        · subst same
          have apart : ¬ next :: rest <+: others := fun leads =>
            apart (List.cons_prefix_cons.2 ⟨rfl, leads⟩)
          rw [Entries.get?_put_self, isChild]
          exact ih behind apart
        · rw [Entries.get?_put_of_ne _ _ same]

end Node

/-! ## Where paths lead -/

theorem Path.settled_cons_of_ne {name : String} (notUp : name ≠ "..") (before rest : List String) :
    settled before (name :: rest) = settled (before ++ [name]) rest := by
  rw [settled]
  exact notUp

theorem Path.settled_append (before first rest : List String) :
    settled before (first ++ rest) = settled (settled before first) rest := by
  induction first generalizing before with
  | nil => rfl
  | cons name first ih =>
    by_cases up : name = ".."
    · subst up
      exact ih before.dropLast
    · rw [List.cons_append, settled_cons_of_ne up, settled_cons_of_ne up, ih]

namespace Disk

variable {top found : Node} {here place names : List String} {disk : Disk} {path : Path}

theorem place_of_follow {found : Option Node} (leads : follow top here names = .ok (place, found)) :
    place = Path.settled here names := by
  induction names generalizing here with
  | nil =>
    cases leads
    rfl
  | cons name rest ih =>
    rw [follow] at leads
    split at leads
    · cases leads
    · cases leads
    · split at leads
      next up =>
        subst up
        exact ih leads
      next notUp =>
        rw [Path.settled_cons_of_ne notUp]
        split at leads
        · cases leads
        · split at leads
          · exact ih leads
          · cases leads

/-- What is in front of something is there too. -/
theorem exists_get?_dropLast (there : top.get? here = some found) :
    ∃ above, top.get? here.dropLast = some above := by
  rcases List.eq_nil_or_concat here with rfl | ⟨front, last, rfl⟩
  · exact ⟨top, rfl⟩
  · rw [List.concat_eq_append, Node.get?_append] at there
    rw [List.concat_eq_append, List.dropLast_concat]
    obtain ⟨above, isAbove, -⟩ := Option.bind_eq_some_iff.1 there
    exact ⟨above, isAbove⟩

/-- Where a path leads to nothing, it leads through directories up to there. -/
theorem reaches_of_follow (leads : follow top here names = .ok (place, none))
    (nonempty : names ≠ []) : top.Reaches place := by
  induction names generalizing here with
  | nil => exact absurd rfl nonempty
  | cons name rest ih =>
    rw [follow] at leads
    split at leads
    · cases leads
    · cases leads
    next entries directory =>
      split at leads
      next up =>
        cases rest with
        | nil =>
          obtain ⟨above, isAbove⟩ := exists_get?_dropLast directory
          have missing := get?_of_follow leads
          rw [place_of_follow leads] at missing
          cases isAbove.symm.trans missing
        | cons next rest => exact ih leads (List.cons_ne_nil _ _)
      next notUp =>
        split at leads
        · cases leads
        · split at leads
          next =>
            cases rest with
            | nil =>
              rw [place_of_follow leads]
              exact Node.reaches_concat directory
            | cons next rest => exact ih leads (List.cons_ne_nil _ _)
          next => cases leads

/-! ## Work -/

/-- The disk is another only at free places, and where directories were made that stood nowhere. -/
structure Framed (free made : List String → Prop) (before after : Disk) : Prop where
  working : after.working = before.working
  elsewhere : ∀ place, ¬ free place → after.top.standing place = before.top.standing place ∨
    made place ∧ before.top.standing place = .nothing ∧ after.top.standing place = .directory

variable {free made free' made' : List String → Prop} {α β : Type}

theorem Framed.refl (disk : Disk) : Framed free made disk disk :=
  ⟨rfl, fun _ _ => .inl rfl⟩

theorem Framed.trans {first second third : Disk} (one : Framed free made first second)
    (two : Framed free made second third) : Framed free made first third := by
  refine ⟨two.working.trans one.working, fun place kept => ?_⟩
  rcases one.elsewhere place kept with same | ⟨isMade, nothing, directory⟩
  · rw [← same]
    exact two.elsewhere place kept
  · rcases two.elsewhere place kept with same | ⟨-, nothing', -⟩
    · exact .inr ⟨isMade, nothing, same.trans directory⟩
    · cases directory.symm.trans nothing'

theorem Framed.mono {before after : Disk} (framed : Framed free made before after)
    (freer : ∀ place, free place → free' place)
    (maker : ∀ place, made place → free' place ∨ made' place) :
    Framed free' made' before after := by
  refine ⟨framed.working, fun place kept => ?_⟩
  rcases framed.elsewhere place fun is => kept (freer place is) with same | ⟨isMade, others⟩
  · exact .inl same
  · exact .inr ⟨(maker place isMade).resolve_left kept, others⟩

theorem run_bind (work : DiskWork α) (f : α → DiskWork β) (disk : Disk) :
    (work >>= f).run.run disk =
      match work.run.run disk with
      | (.ok a, later) => (f a).run.run later
      | (.error e, later) => (.error e, later) := by
  rw [ExceptT.run_bind, StateT.run_bind]
  obtain ⟨e | a, later⟩ := work.run.run disk <;> rfl

theorem run_look (f : Disk → Except DiskError α) (disk : Disk) :
    (look f).run.run disk = (f disk, disk) := by
  unfold look
  rw [run_bind]
  show (MonadExcept.ofExcept (f disk) : DiskWork α).run.run disk = _
  cases f disk <;> rfl

/-- From the working directory, work changes free places only, and makes directories. -/
def Keeps (working : List String) (free made : List String → Prop) (work : DiskWork α) : Prop :=
  ∀ disk : Disk, disk.working = working → Framed free made disk (work.run.run disk).2

section Work

variable {working : List String}

theorem keeps_pure (a : α) : Keeps working free made (pure a : DiskWork α) :=
  fun disk _ => .refl disk

/-- Work that stops half-way has changed what it has changed until then. -/
theorem Keeps.bind {work : DiskWork α} {f : α → DiskWork β} (first : Keeps working free made work)
    (second : ∀ a, Keeps working free made (f a)) : Keeps working free made (work >>= f) := by
  intro disk here
  have one := first disk here
  rw [run_bind]
  generalize work.run.run disk = reached at one ⊢
  obtain ⟨e | a, later⟩ := reached
  · exact one
  · exact one.trans (second a later (one.working.trans here))

theorem Keeps.look {f : Disk → Except DiskError α} {next : α → DiskWork β}
    (each : ∀ disk a, disk.working = working → f disk = .ok a →
      Framed free made disk ((next a).run.run disk).2) :
    Keeps working free made (Disk.look f >>= next) := by
  intro disk here
  rw [run_bind, run_look]
  cases looked : f disk with
  | error e => exact .refl disk
  | ok a => exact each disk a here looked

theorem Keeps.forM {items : List α} {f : α → DiskWork PUnit}
    (each : ∀ item ∈ items, Keeps working free made (f item)) :
    Keeps working free made (items.forM f) := by
  induction items with
  | nil => exact keeps_pure _
  | cons item rest ih =>
    refine (each item List.mem_cons_self).bind fun _ => ?_
    exact ih fun other there => each other (List.mem_cons_of_mem _ there)

theorem Keeps.mapM {items : List α} {f : α → DiskWork β}
    (each : ∀ item ∈ items, Keeps working free made (f item)) :
    Keeps working free made (items.mapM f) := by
  induction items with
  | nil =>
    rw [List.mapM_nil]
    exact keeps_pure _
  | cons item rest ih =>
    rw [List.mapM_cons]
    refine (each item List.mem_cons_self).bind fun _ => ?_
    refine Keeps.bind ?_ fun _ => keeps_pure _
    exact ih fun other there => each other (List.mem_cons_of_mem _ there)

/-! ## Operations -/

theorem place_of_locate {place : List String} {found : Option Node}
    (located : disk.locate path = .ok (place, found)) : place = path.place disk.working := by
  have leads := place_of_follow (follow_of_locate located)
  unfold origin at leads
  unfold Path.place
  rw [leads]
  cases path.root <;> rfl

theorem get?_of_locate {place : List String} {found : Option Node}
    (located : disk.locate path = .ok (place, found)) : disk.top.get? place = found :=
  get?_of_follow (follow_of_locate located)

theorem reaches_of_locate {place : List String} {found : Option Node}
    (located : disk.locate path = .ok (place, found)) (nonempty : path.components ≠ []) :
    disk.top.Reaches place := by
  have leads := follow_of_locate located
  cases found with
  | none => exact reaches_of_follow leads nonempty
  | some found => exact Node.reaches_of_get? (get?_of_follow leads)

/-- Below a place where no directory is, nothing stands. -/
theorem standing_below {node : Node} {place rest : List String} (nonempty : rest ≠ [])
    (none : ∀ entries, node.get? place ≠ some (.directory entries)) :
    node.standing (place ++ rest) = .nothing := by
  unfold Node.standing
  rw [Node.get?_append]
  obtain ⟨name, rest, rfl⟩ := List.exists_cons_of_ne_nil nonempty
  cases found : node.get? place with
  | none => rfl
  | some child =>
    cases child with
    | file bytes => rfl
    | directory entries => exact absurd found (none entries)

/-- What is put at a place where no directory is changes that place only, if it is empty inside. -/
theorem standing_put_new {node new : Node} {place other : List String}
    (reaches : node.Reaches place)
    (none : ∀ entries, node.get? place ≠ some (.directory entries)) (empty : new.entries = [])
    (differs : other ≠ place) :
    (node.put new place).standing other = node.standing other := by
  by_cases leads : place <+: other
  · obtain ⟨rest, rfl⟩ := leads
    have nonempty : rest ≠ [] := fun is => differs (by rw [is, List.append_nil])
    rw [standing_below nonempty none]
    unfold Node.standing
    rw [Node.get?_put]
    obtain ⟨name, rest, rfl⟩ := List.exists_cons_of_ne_nil nonempty
    rw [Node.get?, empty]
    rfl
  · exact Node.standing_put reaches leads

/-- Work at a path is work at its place. -/
theorem Keeps.locate {next : List String × Option Node → DiskWork β}
    (each : ∀ disk found, disk.top.get? (path.place working) = found →
      (path.components ≠ [] → disk.top.Reaches (path.place working)) →
      Framed free made disk ((next (path.place working, found)).run.run disk).2) :
    Keeps working free made (Disk.look (·.locate path) >>= next) := by
  refine Keeps.look fun disk reached here located => ?_
  obtain ⟨place, found⟩ := reached
  have isPlace := place_of_locate located
  rw [here] at isPlace
  subst isPlace
  exact each disk found (get?_of_locate located) (reaches_of_locate located)

theorem keeps_makeDirectory (nonempty : path.components ≠ []) (isMade : made (path.place working)) :
    Keeps working free made (makeDirectory path) := by
  refine Keeps.locate fun disk found inside reaches => ?_
  cases found with
  | some node => cases node <;> exact .refl disk
  | none =>
    refine ⟨rfl, fun other _ => ?_⟩
    have none : ∀ entries, disk.top.get? (path.place working) ≠ some (.directory entries) := by
      rw [inside]
      exact fun _ => nofun
    by_cases same : other = path.place working
    · subst same
      refine .inr ⟨isMade, ?_, ?_⟩
      · rw [Node.standing, inside]
        rfl
      · show (disk.top.put .empty (path.place working)).standing (path.place working) = _
        have put := Node.get?_put disk.top .empty (path.place working) []
        rw [List.append_nil] at put
        rw [Node.standing, put]
        rfl
    · exact .inl (standing_put_new (reaches nonempty) none rfl same)

theorem keeps_makeDirectories (isMade : ∀ q ∈ path.way, made (q.place working)) :
    Keeps working free made (makeDirectories path) := by
  refine Keeps.bind ?_ fun _ => Keeps.forM fun q there => ?_
  · cases admits path with
    | ok _ => exact keeps_pure ()
    | error e => exact fun disk _ => .refl disk
  · obtain ⟨front, nonempty, -, rfl⟩ := Path.mem_way there
    exact keeps_makeDirectory nonempty (isMade _ there)

theorem keeps_write {bytes : ByteArray} (nonempty : path.components ≠ [])
    (isFree : free (path.place working)) : Keeps working free made (write path bytes) := by
  refine Keeps.locate fun disk found inside reaches => ?_
  have written
      (none : ∀ entries, disk.top.get? (path.place working) ≠ some (.directory entries)) :
      Framed free made disk
        { disk with top := disk.top.put (.file bytes) (path.place working) } := by
    refine ⟨rfl, fun other kept => .inl ?_⟩
    have differs : other ≠ path.place working := by
      rintro rfl
      exact kept isFree
    exact standing_put_new (reaches nonempty) none rfl differs
  cases found with
  | none => exact written fun _ => by rw [inside]; exact nofun
  | some node =>
    cases node with
    | file old => exact written fun _ => by rw [inside]; exact nofun
    | directory entries => exact .refl disk

theorem keeps_removeTree (isFree : ∀ place, path.place working <+: place → free place) :
    Keeps working free made (removeTree path) := by
  refine Keeps.locate fun disk found inside _ => ?_
  cases found with
  | none => exact .refl disk
  | some node =>
    cases node with
    | file bytes => exact .refl disk
    | directory entries =>
      have emptied : Framed free made disk
          { disk with top := disk.top.put .empty (path.place working) } := by
        refine ⟨rfl, fun other kept => .inl ?_⟩
        exact Node.standing_put (Node.reaches_of_get? inside) fun leads => kept (isFree other leads)
      have erased : Framed free made disk
          { disk with top := disk.top.erase (path.place working) } := by
        refine ⟨rfl, fun other kept => .inl ?_⟩
        exact Node.standing_erase inside fun leads => kept (isFree other leads)
      dsimp only
      split
      · exact emptied
      · exact emptied
      · exact erased

end Work

end Disk

end DesignTokens
