import DesignTokens.Proofs.Disk.Looking

/-!
# Trees of files

In a tree of files the entries of every directory have names of their own (`Node.IsTree`). Then all
that is listed inside is what is at the places below (`Node.IsTree.mem_all_iff`), and the way to it
leads through names (`Node.IsTree.isName_of_get?`).
-/

namespace DesignTokens

/-- A name that an entry of a directory can have. -/
structure IsName (name : String) : Prop where
  nonempty : name ≠ ""
  notHere : name ≠ "."
  notUp : name ≠ ".."
  whole : '/' ∉ name.toList
  short : name.utf8ByteSize ≤ Disk.nameLimit

theorem isName_iff {name : String} : IsName name ↔ name ≠ "" ∧ name ≠ "." ∧ name ≠ ".." ∧
    '/' ∉ name.toList ∧ name.utf8ByteSize ≤ Disk.nameLimit :=
  ⟨fun ⟨nonempty, notHere, notUp, whole, short⟩ => ⟨nonempty, notHere, notUp, whole, short⟩,
    fun ⟨nonempty, notHere, notUp, whole, short⟩ => ⟨nonempty, notHere, notUp, whole, short⟩⟩

instance (name : String) : Decidable (IsName name) := decidable_of_iff' _ isName_iff

theorem IsName.not_idle {name : String} (isName : IsName name) : Path.isIdle name = false := by
  unfold Path.isIdle
  rw [beq_eq_false_iff_ne.2 isName.nonempty, beq_eq_false_iff_ne.2 isName.notHere]
  rfl

namespace Node

/-- The entries of every directory have different names. -/
inductive IsTree : Node → Prop
  | file (bytes : ByteArray) : IsTree (.file bytes)
  | directory {entries : List (String × Node)} : (entries.map (·.1)).Nodup →
      (∀ entry ∈ entries, IsName entry.1) → (∀ entry ∈ entries, IsTree entry.2) →
      IsTree (.directory entries)

variable {node found : Node} {place before : List String} {entries : List (String × Node)}

theorem mem_insideEntries_iff : (place, found) ∈ insideEntries before entries ↔
    ∃ entry ∈ entries, (place, found) = (before ++ [entry.1], entry.2) ∨
      (place, found) ∈ inside (before ++ [entry.1]) entry.2 := by
  induction entries with
  | nil => simp [insideEntries]
  | cons entry rest ih =>
    rw [insideEntries, List.cons_append, List.mem_cons, List.mem_append, ih,
      List.exists_mem_cons_iff, or_assoc]

/-- What is inside of a tree is what is at the places below. -/
theorem IsTree.mem_inside_iff (tree : node.IsTree) :
    (place, found) ∈ node.inside before ↔
      ∃ below, below ≠ [] ∧ place = before ++ below ∧ node.get? below = some found := by
  induction tree generalizing before with
  | file bytes =>
    rw [inside]
    refine iff_of_false List.not_mem_nil ?_
    rintro ⟨below, some, -, there⟩
    obtain ⟨name, rest, rfl⟩ := List.exists_cons_of_ne_nil some
    cases there
  | @directory entries distinct names trees ih =>
    rw [inside, mem_insideEntries_iff]
    constructor
    · rintro ⟨⟨name, child⟩, isEntry, here | below⟩
      · cases here
        have isChild : Entries.get? entries name = some child :=
          Entries.get?_of_mem distinct isEntry
        refine ⟨[name], List.cons_ne_nil _ _, rfl, ?_⟩
        show (Entries.get? entries name).bind _ = _
        rw [isChild]
        rfl
      · obtain ⟨rest, more, rfl, there⟩ := (ih _ isEntry).1 below
        have isChild : Entries.get? entries name = some child :=
          Entries.get?_of_mem distinct isEntry
        refine ⟨name :: rest, List.cons_ne_nil _ _, (List.append_cons _ _ _).symm, ?_⟩
        show (Entries.get? entries name).bind _ = _
        rw [isChild]
        exact there
    · rintro ⟨below, some, rfl, there⟩
      obtain ⟨name, rest, rfl⟩ := List.exists_cons_of_ne_nil some
      obtain ⟨child, isChild, behind⟩ := Option.bind_eq_some_iff.1 there
      have isEntry : (name, child) ∈ entries := Entries.mem_of_get? isChild
      refine ⟨(name, child), isEntry, ?_⟩
      cases rest with
      | nil =>
        cases behind
        exact .inl rfl
      | cons next rest =>
        refine .inr ((ih _ isEntry).2 ⟨next :: rest, List.cons_ne_nil _ _, ?_, behind⟩)
        exact List.append_cons _ _ _

theorem IsTree.mem_all_iff (tree : node.IsTree) :
    (place, found) ∈ node.all ↔ place ≠ [] ∧ node.get? place = some found := by
  unfold all
  rw [tree.mem_inside_iff]
  constructor
  · rintro ⟨below, some, rfl, there⟩
    exact ⟨some, there⟩
  · rintro ⟨some, there⟩
    exact ⟨place, some, rfl, there⟩

/-- The way to something leads through names. -/
theorem IsTree.isName_of_get? (tree : node.IsTree) (there : node.get? place = some found) :
    ∀ name ∈ place, IsName name := by
  induction place generalizing node with
  | nil => exact fun _ => nofun
  | cons first rest ih =>
    obtain ⟨child, isChild, behind⟩ := Option.bind_eq_some_iff.1 there
    cases tree with
    | file => cases isChild
    | directory distinct names trees =>
      have isEntry := Entries.mem_of_get? isChild
      exact List.forall_mem_cons.2 ⟨names _ isEntry, ih (trees _ isEntry) behind⟩

end Node

end DesignTokens
