import DesignTokens.Disk.Path
import DesignTokens.Proofs.Text

/-!
# Paths and their texts

Names that are joined with slashes are read as the path of these names (`Path.ofText_intercalate`).
On the way to a path are the paths of its first names, and itself (`Path.mem_way`).
-/

namespace DesignTokens.Path

variable {path q : Path} {names : List String}

/-! ## Texts -/

theorem text_of_ne_nil (some : path.components ≠ []) :
    path.text = PathRoot.text path.root ++ "/".intercalate path.components :=
  if_neg fun none => some none.2

/-- Without a slash at its front a text is a path from the working directory. -/
theorem rootOf_of_head? {text : List Char} (other : text.head? ≠ some '/') :
    rootOf text = .working := by
  unfold rootOf
  split <;> simp_all

theorem parts_intercalate (some : names ≠ []) (whole : ∀ name ∈ names, '/' ∉ name.toList) :
    Text.parts '/' ("/".intercalate names) = names := by
  have split : (['/'].intercalate (names.map String.toList)).splitOn '/' =
      names.map String.toList :=
    List.splitOn_intercalate '/' (by simpa using whole) (by simpa using some)
  unfold Text.parts
  rw [String.toList_intercalate]
  show List.map _ ((['/'].intercalate _).splitOn '/') = _
  rw [split, List.map_map]
  exact List.map_id'' (fun name => String.ofList_toList) names

/-- The first character of a text of names is that of the first name. -/
theorem head?_intercalate {first : String} (some : first ≠ "") (rest : List String) :
    ("/".intercalate (first :: rest)).toList.head? = first.toList.head? := by
  obtain ⟨c, chars, front⟩ := List.exists_cons_of_ne_nil
    fun none => some (String.toList_eq_nil_iff.1 none)
  cases rest with
  | nil => rw [String.intercalate_singleton]
  | cons second others =>
    rw [String.intercalate_cons_cons, String.toList_append, String.toList_append, front]
    rfl

/-- Names that are joined with slashes are read as the path of these names. -/
theorem ofText_intercalate (some : names ≠ []) (whole : ∀ name ∈ names, '/' ∉ name.toList)
    (spoken : ∀ name ∈ names, isIdle name = false) :
    ofText ("/".intercalate names) = ⟨.working, names⟩ := by
  have kept : names.filter (!isIdle ·) = names := by
    refine List.filter_eq_self.2 fun name there => ?_
    rw [spoken name there]
    rfl
  have relative : rootOf ("/".intercalate names).toList = .working := by
    obtain ⟨first, rest, rfl⟩ := List.exists_cons_of_ne_nil some
    have nonempty : first ≠ "" := by
      rintro rfl
      cases spoken "" List.mem_cons_self
    refine rootOf_of_head? fun slash => ?_
    rw [head?_intercalate nonempty] at slash
    exact whole first List.mem_cons_self (List.mem_of_mem_head? slash)
  unfold ofText
  rw [parts_intercalate some whole, relative, kept]

/-! ## Ways -/

theorem mem_wayFrom {root : PathRoot} {before rest : List String}
    (there : q ∈ wayFrom root before rest) :
    ∃ front, front ≠ [] ∧ front <+: rest ∧ q = ⟨root, before ++ front⟩ := by
  induction rest generalizing before with
  | nil => cases there
  | cons component rest ih =>
    rcases List.mem_cons.1 there with rfl | there
    · exact ⟨[component], List.cons_ne_nil _ _, List.prefix_append [component] rest, rfl⟩
    · obtain ⟨front, -, leads, rfl⟩ := ih there
      refine ⟨component :: front, List.cons_ne_nil _ _, ?_, ?_⟩
      · exact List.cons_prefix_cons.2 ⟨rfl, leads⟩
      · rw [List.append_assoc]
        rfl

theorem mem_way (there : q ∈ path.way) :
    ∃ front, front ≠ [] ∧ front <+: path.components ∧ q = ⟨path.root, front⟩ :=
  mem_wayFrom there

theorem mem_way_of_front {root : PathRoot} {before front rest : List String} (nonempty : front ≠ [])
    (leads : front <+: rest) : ⟨root, before ++ front⟩ ∈ wayFrom root before rest := by
  induction rest generalizing before front with
  | nil => exact absurd (List.prefix_nil.1 leads) nonempty
  | cons component rest ih =>
    obtain ⟨first, others, rfl⟩ := List.exists_cons_of_ne_nil nonempty
    obtain ⟨rfl, behind⟩ := List.cons_prefix_cons.1 leads
    cases others with
    | nil => exact List.mem_cons_self
    | cons second others =>
      rw [List.append_cons]
      exact List.mem_cons_of_mem _ (ih (List.cons_ne_nil _ _) behind)

theorem mem_way_self (some : path.components ≠ []) : path ∈ path.way := by
  show ⟨path.root, [] ++ path.components⟩ ∈ wayFrom path.root [] path.components
  exact mem_way_of_front some List.prefix_rfl

end DesignTokens.Path
