import DesignTokens.Source.Tokens

/-!
# Places in token sets

What the walk through a token set visits is said without the walk: `Visited entries position path
value` holds of the values below keys that are not a group's own, and inside groups only. `path` are
the keys to the value, and `position` are the places of these keys in their groups, so that the
order of positions is the order of the document.

The nodes that the walk lists are the tokens and the stray values among the visited values
(`mem_placesIn`), in the order of their positions (`pairwise_placesIn`).
-/

namespace DesignTokens.Source

mutual
/-- A value is visited at another one or inside it. Nothing is visited inside a token. -/
inductive VisitedAt : Data → List Nat → List String → Data → Prop
  | self (value : Data) : VisitedAt value [] [] value
  | inside {entries : Entries Data} {position : List Nat} {path : List String} {value : Data} :
      typeWord? entries = none → Visited entries position path value →
      VisitedAt (.table entries) position path value

/-- A value is visited inside a group. -/
inductive Visited : Entries Data → List Nat → List String → Data → Prop
  | entry {entries : Entries Data} {i : Nat} {key : String} {below value : Data}
      {position : List Nat} {path : List String} :
      entries[i]? = some (key, below) → isOwnKey key = false →
      VisitedAt below position path value → Visited entries (i :: position) (key :: path) value
end

/-- The node that a visited value is, if it is no group. -/
inductive Node.IsOf : Node → List String → Data → Prop
  | token {path : List String} {word : String} {entries : Entries Data} :
      typeWord? entries = some word → IsOf (.token path word entries) path (.table entries)
  | stray {path : List String} {value : Data} : value.table? = none → IsOf (.stray path) path value

/-! ## The walk with positions -/

mutual
/-- The nodes at and inside the value at `path`, with their positions. -/
def placesAt (position : List Nat) (path : List String) : Data → List (List Nat × Node)
  | .table entries =>
    match typeWord? entries with
    | some word => [(position, .token path word entries)]
    | none => placesIn position path 0 entries
  | _ => [(position, .stray path)]

/-- The nodes inside a group, from its `i`th entry on. -/
def placesIn (position : List Nat) (path : List String) (i : Nat) :
    List (String × Data) → List (List Nat × Node)
  | [] => []
  | (key, value) :: rest =>
    if isOwnKey key then placesIn position path (i + 1) rest
    else placesAt (position ++ [i]) (path ++ [key]) value ++ placesIn position path (i + 1) rest
end

mutual
/-- The walk lists these nodes. -/
theorem map_placesAt (position : List Nat) (path : List String) :
    ∀ value : Data, (placesAt position path value).map (·.2) = nodesAt path value
  | .table entries => by
    rw [placesAt, nodesAt]
    cases typeWord? entries with
    | some word => rfl
    | none => exact map_placesIn position path 0 entries
  | .null | .boolean _ | .integer _ | .real _ | .text _ | .list _ | .moment _ => rfl

theorem map_placesIn (position : List Nat) (path : List String) (i : Nat) :
    ∀ entries : List (String × Data),
      (placesIn position path i entries).map (·.2) = nodesIn path entries
  | [] => rfl
  | (key, value) :: rest => by
    rw [placesIn, nodesIn]
    split
    · exact map_placesIn position path (i + 1) rest
    · rw [List.map_append, map_placesAt _ _ value, map_placesIn position path (i + 1) rest]
end

/-! ## What is visited -/

section Visits

variable {value leaf : Data} {entries rest : Entries Data} {key word : String} {node : Node}
  {position q : List Nat} {path : List String}

/-- Nothing is visited inside a value that is no table. -/
theorem visitedAt_of_stray (stray : value.table? = none)
    (visited : VisitedAt value position path leaf) : position = [] ∧ path = [] ∧ leaf = value := by
  cases visited with
  | self => exact ⟨rfl, rfl, rfl⟩
  | inside => cases stray

/-- Nothing is visited inside a token. -/
theorem visitedAt_of_token (typed : typeWord? entries = some word)
    (visited : VisitedAt (.table entries) position path leaf) :
    position = [] ∧ path = [] ∧ leaf = .table entries := by
  cases visited with
  | self => exact ⟨rfl, rfl, rfl⟩
  | inside group => cases group.symm.trans typed

theorem isOf_iff_of_stray (stray : value.table? = none) :
    node.IsOf path value ↔ node = .stray path := by
  constructor
  · intro isOf
    cases isOf with
    | token => cases stray
    | stray => rfl
  · rintro rfl
    exact .stray stray

theorem isOf_iff_of_token (typed : typeWord? entries = some word) :
    node.IsOf path (.table entries) ↔ node = .token path word entries := by
  constructor
  · intro isOf
    cases isOf with
    | token typed' =>
      cases typed'.symm.trans typed
      rfl
    | stray stray => cases stray
  · rintro rfl
    exact .token typed

/-- A group is no node. -/
theorem not_isOf_of_group (group : typeWord? entries = none) :
    ¬ node.IsOf path (.table entries) := by
  intro isOf
  cases isOf with
  | token typed => cases group.symm.trans typed
  | stray stray => cases stray

/-- The first entry of a group is visited unless its key is the group's own. -/
theorem visited_cons_zero :
    Visited ((key, value) :: rest) (0 :: position) path leaf ↔
      isOwnKey key = false ∧ ∃ below, path = key :: below ∧ VisitedAt value position below leaf := by
  constructor
  · rintro ⟨here, visible, inside⟩
    cases here
    exact ⟨visible, _, rfl, inside⟩
  · rintro ⟨visible, below, rfl, inside⟩
    exact .entry rfl visible inside

theorem visited_cons_succ {entry : String × Data} {j : Nat} :
    Visited (entry :: rest) ((j + 1) :: position) path leaf ↔
      Visited rest (j :: position) path leaf := by
  constructor
  · rintro ⟨there, visible, inside⟩
    exact .entry there visible inside
  · rintro ⟨there, visible, inside⟩
    exact .entry there visible inside

/-- What is listed of a value inside which nothing is visited. -/
theorem mem_alone {own : Node}
    (alone : ∀ {position path leaf}, VisitedAt value position path leaf →
      position = [] ∧ path = [] ∧ leaf = value)
    (isOwn : node.IsOf path value ↔ node = own) :
    (q, node) ∈ [(position, own)] ↔
      ∃ q' path' leaf, q = position ++ q' ∧ VisitedAt value q' path' leaf ∧
        node.IsOf (path ++ path') leaf := by
  rw [List.mem_singleton, Prod.mk.injEq, ← isOwn]
  constructor
  · rintro ⟨rfl, isOf⟩
    exact ⟨[], [], value, (List.append_nil _).symm, .self value, by rwa [List.append_nil]⟩
  · rintro ⟨q', path', leaf, rfl, visited, isOf⟩
    obtain ⟨rfl, rfl, rfl⟩ := alone visited
    rw [List.append_nil] at isOf ⊢
    exact ⟨rfl, isOf⟩

end Visits

mutual
/-- The nodes listed are the visited values that are no groups. -/
theorem mem_placesAt {position q : List Nat} {path : List String} {node : Node} :
    ∀ value : Data, (q, node) ∈ placesAt position path value ↔
      ∃ q' path' leaf, q = position ++ q' ∧ VisitedAt value q' path' leaf ∧
        node.IsOf (path ++ path') leaf
  | .table entries => by
    rw [placesAt]
    cases typed : typeWord? entries with
    | some word => exact mem_alone (visitedAt_of_token typed) (isOf_iff_of_token typed)
    | none =>
      refine (mem_placesIn entries).trans ⟨?_, ?_⟩
      · rintro ⟨j, q', path', leaf, rfl, visited, isOf⟩
        rw [Nat.zero_add]
        exact ⟨_, path', leaf, rfl, .inside typed visited, isOf⟩
      · rintro ⟨q', path', leaf, rfl, visited, isOf⟩
        cases visited with
        | self =>
          -- The group itself is visited, but it is no node.
          rw [List.append_nil] at isOf
          exact absurd isOf (not_isOf_of_group typed)
        | inside _ visited =>
          cases visited with
          | @entry _ j _ _ _ position path there visible inside =>
            refine ⟨j, position, _, leaf, by rw [Nat.zero_add], .entry there visible inside, isOf⟩
  | .null | .boolean _ | .integer _ | .real _ | .text _ | .list _ | .moment _ =>
    mem_alone (visitedAt_of_stray rfl) (isOf_iff_of_stray rfl)

theorem mem_placesIn {position q : List Nat} {path : List String} {i : Nat} {node : Node} :
    ∀ entries : List (String × Data), (q, node) ∈ placesIn position path i entries ↔
      ∃ j q' path' leaf, q = position ++ (i + j) :: q' ∧ Visited entries (j :: q') path' leaf ∧
        node.IsOf (path ++ path') leaf
  | [] => by
    refine ⟨nofun, ?_⟩
    rintro ⟨j, q', path', leaf, -, ⟨there, -, -⟩, -⟩
    cases there
  | (key, value) :: rest => by
    have behind : (q, node) ∈ placesIn position path (i + 1) rest ↔
        ∃ j q' path' leaf, q = position ++ (i + (j + 1)) :: q' ∧
          Visited ((key, value) :: rest) ((j + 1) :: q') path' leaf ∧
          node.IsOf (path ++ path') leaf := by
      simp only [mem_placesIn rest, visited_cons_succ, Nat.add_assoc, Nat.add_comm 1]
    rw [placesIn]
    split
    next own =>
      -- The first entry is passed over, so what is visited is behind it.
      rw [behind]
      constructor
      · rintro ⟨j, found⟩
        exact ⟨j + 1, found⟩
      · rintro ⟨_ | j, found⟩
        · obtain ⟨q', path', leaf, -, visited, -⟩ := found
          cases own.symm.trans (visited_cons_zero.1 visited).1
        · exact ⟨j, found⟩
    next visible =>
      rw [List.mem_append, mem_placesAt value, behind]
      constructor
      · rintro (⟨q', path', leaf, rfl, visited, isOf⟩ | ⟨j, found⟩)
        · refine ⟨0, q', key :: path', leaf, ?_, ?_, ?_⟩
          · rw [List.append_assoc]
            rfl
          · exact visited_cons_zero.2 ⟨by simpa using visible, path', rfl, visited⟩
          · rwa [List.append_assoc] at isOf
        · exact ⟨j + 1, found⟩
      · rintro ⟨_ | j, found⟩
        · obtain ⟨q', path', leaf, rfl, visited, isOf⟩ := found
          obtain ⟨-, below, rfl, inside⟩ := visited_cons_zero.1 visited
          refine .inl ⟨q', below, leaf, ?_, inside, ?_⟩
          · rw [List.append_assoc]
            rfl
          · rwa [List.append_assoc]
        · exact .inr ⟨j, found⟩
end

/-- The nodes listed of a whole set are the visited values that are no groups. -/
theorem mem_placesIn_set {position q : List Nat} {node : Node} {entries : Entries Data} :
    (q, node) ∈ placesIn position [] 0 entries ↔
      ∃ q' path value, q = position ++ q' ∧ Visited entries q' path value ∧
        node.IsOf path value := by
  rw [mem_placesIn]
  constructor
  · rintro ⟨j, q', path, value, rfl, visited, isOf⟩
    rw [Nat.zero_add]
    exact ⟨_, path, value, rfl, visited, isOf⟩
  · rintro ⟨q', path, value, rfl, visited, isOf⟩
    cases visited with
    | @entry _ j _ _ _ q' _ there visible inside =>
      exact ⟨j, q', _, value, by rw [Nat.zero_add], .entry there visible inside, isOf⟩

/-! ## The order of the document -/

mutual
/-- Nodes inside a value are below its position. -/
theorem pairwise_placesAt (position : List Nat) (path : List String) :
    ∀ value : Data, ((placesAt position path value).map (·.1)).Pairwise (· < ·)
  | .table entries => by
    rw [placesAt]
    cases typeWord? entries with
    | some word => exact List.pairwise_singleton _ _
    | none => exact pairwise_placesIn position path 0 entries
  | .null | .boolean _ | .integer _ | .real _ | .text _ | .list _ | .moment _ =>
    List.pairwise_singleton _ _

/-- The nodes are listed in the order of their positions. -/
theorem pairwise_placesIn (position : List Nat) (path : List String) (i : Nat) :
    ∀ entries : List (String × Data),
      ((placesIn position path i entries).map (·.1)).Pairwise (· < ·)
  | [] => .nil
  | (key, value) :: rest => by
    have behind := pairwise_placesIn position path (i + 1) rest
    rw [placesIn]
    split
    · exact behind
    · rw [List.map_append, List.pairwise_append]
      refine ⟨pairwise_placesAt _ _ value, behind, fun q here r there => ?_⟩
      obtain ⟨⟨_, node⟩, listed, rfl⟩ := List.mem_map.1 here
      obtain ⟨⟨_, node'⟩, listed', rfl⟩ := List.mem_map.1 there
      obtain ⟨q', _, _, rfl, -⟩ := (mem_placesAt value).1 listed
      obtain ⟨j, r', _, _, rfl, -⟩ := (mem_placesIn rest).1 listed'
      -- The positions part at the index of the entry.
      show position ++ [i] ++ q' < position ++ (i + 1 + j) :: r'
      rw [List.append_assoc]
      refine List.append_left_lt (List.Lex.rel ?_)
      omega
end

end DesignTokens.Source
