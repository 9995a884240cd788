import DesignTokens.Disk
import DesignTokens.Proofs.Entries
import DesignTokens.Proofs.Outcome
import Mathlib.Data.List.Basic

/-!
# Looking below a directory

A path that goes on below a directory is followed inside of that directory. So whether something is
there, and what, depends on the directory alone: `locate_below` for what is there, and `node?_below`
for a place where nothing is. What is there is listed among all that is inside
(`Node.mem_all_of_get?`).
-/

namespace DesignTokens

theorem Node.get?_append (node : Node) (first rest : List String) :
    node.get? (first ++ rest) = (node.get? first).bind (·.get? rest) := by
  induction first generalizing node with
  | nil => rfl
  | cons name first ih =>
    rw [List.cons_append, Node.get?, Node.get?, Option.bind_assoc]
    congr 1
    exact funext ih

/-! ## What is inside -/

section Inside

variable {node found child : Node} {place : List String} {name : String}
  {entries : List (String × Node)}

/-- An entry of a directory is inside, and so is all that is inside of it. -/
theorem Node.mem_insideEntries (there : (name, child) ∈ entries) (before : List String) :
    (before ++ [name], child) ∈ insideEntries before entries ∧
      inside (before ++ [name]) child ⊆ insideEntries before entries := by
  induction entries with
  | nil => cases there
  | cons entry rest ih =>
    rw [insideEntries]
    rcases List.mem_cons.1 there with rfl | behind
    · refine ⟨List.mem_append_left _ List.mem_cons_self, fun inner here => ?_⟩
      exact List.mem_append_left _ (List.mem_cons_of_mem _ here)
    · obtain ⟨here, below⟩ := ih behind
      exact ⟨List.mem_append_right _ here, fun inner there => List.mem_append_right _ (below there)⟩

/-- What is at a place below a node is listed among what is inside. -/
theorem Node.mem_all_of_get? (there : node.get? place = some found) (below : place ≠ []) :
    (place, found) ∈ node.all := by
  suffices listed : ∀ before, (before ++ place, found) ∈ node.inside before from listed []
  induction place generalizing node with
  | nil => exact absurd rfl below
  | cons name rest ih =>
    intro before
    obtain ⟨child, isChild, behind⟩ := Option.bind_eq_some_iff.1 there
    cases node with
    | file bytes => cases isChild
    | directory entries =>
      rw [inside]
      obtain ⟨here, inner⟩ := mem_insideEntries (Entries.mem_of_get? isChild) before
      cases rest with
      | nil =>
        cases behind
        exact here
      | cons next rest =>
        rw [List.append_cons]
        exact inner (ih behind (List.cons_ne_nil next rest) _)

end Inside

namespace Disk

variable {top node : Node} {here there place first rest names : List String}

/-! ## Following a path -/

/-- What a path leads to is what is at the place where it leads. -/
theorem get?_of_follow {found : Option Node}
    (leads : follow top here names = .ok (place, found)) : top.get? place = found := by
  induction names generalizing here with
  | nil =>
    cases leads
    rfl
  | cons name rest ih =>
    rw [follow] at leads
    split at leads
    · cases leads
    · cases leads
    · split at leads
      · exact ih leads
      · split at leads
        · cases leads
        · split at leads
          · exact ih leads
          · cases leads

/-- What is at a name in a directory. -/
theorem get?_concat {entries : List (String × Node)} (name : String)
    (directory : top.get? here = some (.directory entries)) :
    top.get? (here ++ [name]) = Entries.get? entries name := by
  rw [Node.get?_append, directory]
  show (Entries.get? entries name).bind some = _
  exact Option.bind_fun_some _

/-- The rest of a path is followed from where its first part leads. -/
theorem follow_append (leads : follow top here first = .ok (there, some node)) :
    follow top here (first ++ rest) = follow top there rest := by
  induction first generalizing here with
  | nil =>
    rw [follow] at leads
    injection leads with same
    injection same with same _
    rw [List.nil_append, same]
  | cons name behind ih =>
    rw [follow] at leads
    rw [List.cons_append, follow]
    split at leads
    · cases leads
    · cases leads
    next entries directory =>
    split at leads
    next up =>
      rw [if_pos up]
      exact ih leads
    next notUp =>
    rw [if_neg notUp]
    split at leads
    · cases leads
    next short =>
    rw [if_neg short]
    split at leads
    next goesOn =>
      cases missing : Entries.has entries name with
      | true => exact ih leads
      | false =>
        -- The last name of a path may be missing, but then nothing is found at it.
        rw [missing, Bool.false_or, List.isEmpty_iff] at goesOn
        subst goesOn
        have found := get?_of_follow leads
        rw [follow] at leads
        injection leads with same
        injection same with same _
        rw [← same, get?_concat name directory] at found
        cases missing.symm.trans (Entries.has_of_get? found)
    · cases leads

/-- Names that lead down: none leads up, and none is too long for a name. -/
def Down (names : List String) : Prop :=
  ∀ name ∈ names, name ≠ ".." ∧ name.utf8ByteSize ≤ nameLimit

instance (names : List String) : Decidable (Down names) :=
  inferInstanceAs (Decidable (∀ name ∈ names, name ≠ ".." ∧ name.utf8ByteSize ≤ nameLimit))

/-- Names that lead down are followed to what is there. -/
theorem follow_of_get? {found : Node} (down : Down names) (start : top.get? here = some node)
    (there : node.get? names = some found) :
    follow top here names = .ok (here ++ names, some found) := by
  induction names generalizing here node with
  | nil =>
    cases there
    rw [follow, start, List.append_nil]
  | cons name rest ih =>
    obtain ⟨⟨notUp, short⟩, down⟩ := List.forall_mem_cons.1 down
    obtain ⟨child, isChild, inside⟩ := Option.bind_eq_some_iff.1 there
    cases node with
    | file bytes => cases isChild
    | directory entries =>
      have isChild : Entries.get? entries name = some child := isChild
      have has : Entries.has entries name = true := Entries.has_of_get? isChild
      have next := (get?_concat name start).trans isChild
      rw [follow, start]
      simp only [notUp, has, Nat.not_lt.2 short, if_false, Bool.true_or, if_true]
      rw [ih down next inside, List.append_assoc]
      rfl

/-- Where nothing is, names that lead down lead to nothing, or end at a file or before the end. -/
theorem follow_of_get?_none (down : Down names) (start : top.get? here = some node)
    (none : node.get? names = none) :
    (∃ place, follow top here names = .ok (place, .none)) ∨
      follow top here names = .error .notFound ∨ follow top here names = .error .notADirectory := by
  induction names generalizing here node with
  | nil => cases none
  | cons name rest ih =>
    obtain ⟨⟨notUp, short⟩, down⟩ := List.forall_mem_cons.1 down
    rw [follow, start]
    cases node with
    | file bytes => exact .inr (.inr rfl)
    | directory entries =>
      simp only [notUp, Nat.not_lt.2 short, if_false]
      have none : (Entries.get? entries name).bind (·.get? rest) = .none := none
      rw [← Entries.isSome_get?]
      cases isChild : Entries.get? entries name with
      | some child =>
        rw [isChild] at none
        exact ih down ((get?_concat name start).trans isChild) none
      | none =>
        cases rest with
        | nil =>
          refine .inl ⟨here ++ [name], ?_⟩
          simp only [List.isEmpty_nil, Bool.or_true, if_true]
          rw [follow, get?_concat name start, isChild]
        | cons next rest => exact .inr (.inl rfl)

/-! ## Looking at a disk -/

variable {disk : Disk} {directory inner path : Path}

/-- A path that can be below a directory: it is not too long and leads down. -/
structure Fits (directory inner : Path) : Prop where
  relative : inner.root = .working
  admitted : admits (directory ++ inner) = .ok ()
  down : Down inner.components

theorem fits_iff : Fits directory inner ↔
    inner.root = .working ∧ admits (directory ++ inner) = .ok () ∧ Down inner.components :=
  ⟨fun ⟨relative, admitted, down⟩ => ⟨relative, admitted, down⟩,
    fun ⟨relative, admitted, down⟩ => ⟨relative, admitted, down⟩⟩

instance (directory inner : Path) : Decidable (Fits directory inner) :=
  decidable_of_iff' _ fits_iff

theorem join_of_relative (relative : inner.root = .working) :
    directory ++ inner = ⟨directory.root, directory.components ++ inner.components⟩ :=
  if_pos relative

theorem follow_of_locate {found : Option Node} (located : disk.locate path = .ok (place, found)) :
    follow disk.top (disk.origin path) path.components = .ok (place, found) := by
  obtain ⟨_, _, followed⟩ := Except.bind_eq_ok.1 located
  cases leads : follow disk.top (disk.origin path) path.components with
  | ok reached =>
    rw [leads] at followed
    cases followed
    rfl
  | error fault =>
    rw [leads] at followed
    cases followed

/-- A path below a directory is followed from the place of the directory. -/
theorem locate_append (located : disk.locate directory = .ok (place, some node))
    (fits : Fits directory inner) :
    disk.locate (directory ++ inner) =
      (follow disk.top place inner.components).mapError (.fault · (directory ++ inner)) := by
  have leads := follow_of_locate located
  have follows :
      follow disk.top (disk.origin (directory ++ inner)) (directory ++ inner).components =
        follow disk.top place inner.components := by
    rw [join_of_relative fits.relative]
    exact follow_append leads
  unfold locate
  rw [fits.admitted, follows]
  rfl

/-- What is at a place in a directory is found below the directory. -/
theorem locate_below {found : Node} (located : disk.locate directory = .ok (place, some node))
    (fits : Fits directory inner) (there : node.get? inner.components = some found) :
    disk.locate (directory ++ inner) = .ok (place ++ inner.components, some found) := by
  have start := get?_of_follow (follow_of_locate located)
  rw [locate_append located fits, follow_of_get? fits.down start there]
  rfl

/-- Where nothing is in a directory, nothing is found below it. -/
theorem node?_below (located : disk.locate directory = .ok (place, some node))
    (fits : Fits directory inner) (none : node.get? inner.components = none) :
    disk.node? (directory ++ inner) = .ok .none := by
  have start := get?_of_follow (follow_of_locate located)
  unfold node?
  rw [locate_append located fits]
  rcases follow_of_get?_none fits.down start none with ⟨reached, leads⟩ | leads | leads
  · rw [leads]
    rfl
  · rw [leads]
    rfl
  · rw [leads]
    rfl

/-- Every directory below a directory is listed by a path that may be followed. -/
def Listable (path : Path) (node : Node) : Prop :=
  ∀ place ∈ node.directories, admits (path ++ (⟨.working, place⟩ : Path)) = .ok ()

instance (path : Path) (node : Node) : Decidable (Listable path node) :=
  inferInstanceAs (Decidable
    (∀ place ∈ node.directories, admits (path ++ (⟨.working, place⟩ : Path)) = .ok ()))

theorem placesBelow_eq_ok (located : disk.locate path = .ok (place, some node))
    (listable : Listable path node) : disk.placesBelow path = .ok (node.all.map (·.1)) := by
  unfold placesBelow
  rw [located]
  exact Except.bind_eq_ok.2 ⟨(), Except.forM_eq_ok_iff.2 listable, rfl⟩

/-- A directory with a directory that cannot be listed is not listed. -/
theorem placesBelow_eq_error (located : disk.locate path = .ok (place, some node))
    (unlistable : ¬ Listable path node) : ∃ e, disk.placesBelow path = .error e := by
  unfold placesBelow
  rw [located]
  cases listed : node.directories.forM fun place => admits (path ++ (⟨.working, place⟩ : Path)) with
  | ok => exact absurd (Except.forM_eq_ok_iff.1 listed) unlistable
  | error e => exact ⟨e, Except.bind_eq_error.2 (.inl listed)⟩

theorem node?_of_locate {found : Node} (located : disk.locate path = .ok (place, some found)) :
    disk.node? path = .ok (some found) := by
  unfold node?
  rw [located]

/-! ## Errors -/

section Errors

variable {bytes : ByteArray} {e : DiskError}

/-- No name is too long. -/
def Short (names : List String) : Prop :=
  ∀ name ∈ names, name ≠ ".." → name.utf8ByteSize ≤ nameLimit

instance (names : List String) : Decidable (Short names) :=
  inferInstanceAs (Decidable (∀ name ∈ names, name ≠ ".." → name.utf8ByteSize ≤ nameLimit))

/-- Following a path ends at a place, before the end of the path, or at a name that is too long. -/
theorem follow_eq_error {fault : DiskFault} (stops : follow top here names = .error fault) :
    fault = .notFound ∨ fault = .notADirectory ∨ fault = .nameTooLong ∧ ¬ Short names := by
  induction names generalizing here with
  | nil => cases stops
  | cons name rest ih =>
    have behind {here : List String} (stops : follow top here rest = .error fault) :
        fault = .notFound ∨ fault = .notADirectory ∨
          fault = .nameTooLong ∧ ¬ Short (name :: rest) :=
      (ih stops).imp_right fun others => others.imp_right fun ⟨isLong, long⟩ =>
        ⟨isLong, fun short => long fun other there => short other (List.mem_cons_of_mem _ there)⟩
    rw [follow] at stops
    split at stops
    · cases stops
      exact .inl rfl
    · cases stops
      exact .inr (.inl rfl)
    · split at stops
      · exact behind stops
      next notUp =>
        split at stops
        next long =>
          cases stops
          refine .inr (.inr ⟨rfl, fun short => ?_⟩)
          exact Nat.not_lt.2 (short name List.mem_cons_self notUp) long
        · split at stops
          · exact behind stops
          · cases stops
            exact .inl rfl

/-- A path that is too long, or has a name in it that is. -/
def TooLong (disk : Disk) (path : Path) : Prop :=
  disk.locate path = .error (.fault .nameTooLong path)

theorem locate_eq_error (stops : disk.locate path = .error e) :
    e = .nullCharacter ∨ ∃ fault, e = .fault fault path ∧
      (fault = .notFound ∨ fault = .notADirectory ∨
        fault = .nameTooLong ∧ ¬ (admits path = .ok () ∧ Short path.components)) := by
  unfold locate at stops
  rcases Except.bind_eq_error.1 stops with refused | ⟨_, -, stops⟩
  · have notAdmitted : admits path ≠ .ok () := fun admitted => nomatch admitted.symm.trans refused
    unfold admits at refused
    split at refused
    · cases refused
      exact .inl rfl
    · split at refused
      · cases refused
        exact .inr ⟨_, rfl, .inr (.inr ⟨rfl, fun within => notAdmitted within.1⟩)⟩
      · cases refused
  · cases followed : follow disk.top (disk.origin path) path.components with
    | ok reached =>
      rw [followed] at stops
      cases stops
    | error fault =>
      rw [followed] at stops
      cases stops
      refine .inr ⟨fault, rfl, (follow_eq_error followed).imp_right fun others => ?_⟩
      exact others.imp_right fun ⟨isLong, long⟩ => ⟨isLong, fun within => long within.2⟩

/-- A path is not too long when neither it nor a name in it is. -/
theorem not_tooLong (admitted : admits path = .ok ()) (short : Short path.components) :
    ¬ disk.TooLong path := by
  intro tooLong
  rcases locate_eq_error tooLong with ⟨⟨⟩⟩ | ⟨fault, same, isLong⟩
  cases same
  rcases isLong with ⟨⟨⟩⟩ | ⟨⟨⟩⟩ | ⟨-, within⟩
  exact within ⟨admitted, short⟩

/-- Asking whether anything is at a path fails when the path is too long, and not otherwise. -/
theorem exists?_eq_error_iff :
    disk.exists? path = .error e ↔ disk.TooLong path ∧ e = .fault .nameTooLong path := by
  unfold exists? node? TooLong
  cases located : disk.locate path with
  | ok reached => simp [Except.map]
  | error e' =>
    rcases locate_eq_error located with rfl | ⟨fault, rfl, rfl | rfl | ⟨rfl, -⟩⟩
    · simp [Except.map]
    · simp [Except.map]
    · simp [Except.map]
    · simp [Except.map, eq_comm]

theorem not_tooLong_of_exists? {present : Bool} (there : disk.exists? path = .ok present) :
    ¬ disk.TooLong path :=
  fun tooLong => nomatch there.symm.trans (exists?_eq_error_iff.2 ⟨tooLong, rfl⟩)

/-- What is there is found. -/
theorem locate_of_exists? (there : disk.exists? path = .ok true) :
    ∃ place node, disk.locate path = .ok (place, some node) := by
  obtain ⟨found, isNode, present⟩ := Except.map_eq_ok.1 there
  obtain ⟨node, rfl⟩ := Option.isSome_iff_exists.1 present
  unfold node? at isNode
  split at isNode
  next place node located =>
    cases isNode
    exact ⟨place, _, located⟩
  all_goals cases isNode

/-- Something can be asked for unless it is too long. -/
theorem exists_exists? (short : ¬ disk.TooLong path) :
    ∃ present, disk.exists? path = .ok present := by
  cases there : disk.exists? path with
  | ok present => exact ⟨present, rfl⟩
  | error e => exact absurd (exists?_eq_error_iff.1 there).1 short

theorem read_eq_ok_iff :
    disk.read path = .ok bytes ↔ ∃ place, disk.locate path = .ok (place, some (.file bytes)) := by
  unfold read
  rcases disk.locate path with e | ⟨place, _ | node⟩
  · simp
  · simp
  · cases node <;> simp

theorem exists?_of_read (isFile : disk.read path = .ok bytes) : disk.exists? path = .ok true := by
  obtain ⟨place, located⟩ := read_eq_ok_iff.1 isFile
  unfold exists?
  rw [node?_of_locate located]
  rfl

theorem exists?_of_read_nullCharacter (refused : disk.read path = .error .nullCharacter) :
    disk.exists? path = .ok false := by
  unfold read at refused
  split at refused
  · cases refused
  · cases refused
  · cases refused
  next located =>
    cases refused
    unfold exists? node?
    rw [located]
    rfl

theorem exists?_of_isDirectory? (isDirectory : disk.isDirectory? path = .ok true) :
    disk.exists? path = .ok true := by
  obtain ⟨node, isNode, holds⟩ := Except.map_eq_ok.1 isDirectory
  unfold exists?
  rw [isNode]
  cases node with
  | none => cases holds
  | some node => rfl

end Errors

end Disk

end DesignTokens
