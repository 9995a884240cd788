import DesignTokens.Proofs.Library.Building
import DesignTokens.Proofs.Source.Adding
import DesignTokens.Proofs.Source.Places

/-!
# Which token sets are accepted

`WellFormed sets` says, without the walk, which token sets are accepted: every visited value is a
table, every token gives a token, and no two tokens have one id. `parseTokens` accepts these sets
and refuses all others. What it makes of accepted sets are their tokens in the order of the
document, with each set listing its own, and a library can be built of them
(`parseTokens_accepts_wellFormed`).
-/

namespace DesignTokens

theorem Token.names_of_ofData {id name : String} {kind : TokenKind} {value : Data} {token : Token}
    (built : Token.ofData id name kind value = .ok token) : token.id = id ∧ token.name = name := by
  unfold Token.ofData at built
  dsimp only at built
  split at built
  all_goals
    obtain ⟨_, -, rfl⟩ := Except.map_eq_ok.1 built
    exact ⟨rfl, rfl⟩

namespace Source

/-- A token in some token sets. Its position starts with the place of its set. -/
structure TokenPlace where
  position : List Nat
  slug : String
  path : List String
  word : String
  fields : Entries Data

namespace TokenPlace

/-- The keys from the set to the token. -/
def name (p : TokenPlace) : String :=
  ".".intercalate p.path

/-- The name behind the slug, which has dots for slashes. -/
def id (p : TokenPlace) : String :=
  idStem p.slug ++ "." ++ p.name

/-- The token is visited in a set, the one of index `k`. -/
def InSet (p : TokenPlace) (k : Nat) (set : RawSet) : Prop :=
  ∃ position entries, p.position = k :: position ∧ p.slug = set.slug ∧ set.data = .table entries ∧
    Visited entries position p.path (.table p.fields) ∧ typeWord? p.fields = some p.word

/-- The token is visited in one of the sets. -/
def IsIn (p : TokenPlace) (sets : List RawSet) : Prop :=
  ∃ k set, sets[k]? = some set ∧ p.InSet k set

/-- The place gives a token: the kind is known, there is a value, and it has the form that the kind
asks for. -/
def Gives (p : TokenPlace) (token : Token) : Prop :=
  ∃ kind value, TokenKind.ofWord? p.word = some kind ∧
    field p.fields "value" "$value" = some value ∧ value ≠ .null ∧
    Token.ofData p.id p.name kind value = .ok token

end TokenPlace

/-- Sets that are accepted. -/
structure WellFormed (sets : List RawSet) : Prop where
  /-- Every set is a table. -/
  tables : ∀ set ∈ sets, ∃ entries, set.data = .table entries
  /-- Every visited value is a table, a token or a group. -/
  nodes : ∀ set ∈ sets, ∀ entries, set.data = .table entries → ∀ position path value,
    Visited entries position path value → ∃ fields, value = .table fields
  tokens : ∀ p : TokenPlace, p.IsIn sets → ∃ token, p.Gives token
  /-- Two tokens of one id are in one place. -/
  distinct : ∀ p q : TokenPlace, p.IsIn sets → q.IsIn sets → p.id = q.id → p.position = q.position

/-! ## The tokens of a set -/

/-- The tokens among some nodes of a set. -/
def tokenPlaces (slug : String) (listed : List (List Nat × Node)) : List TokenPlace :=
  listed.filterMap fun (position, node) =>
    match node with
    | .token path word fields => some ⟨position, slug, path, word, fields⟩
    | .stray _ => none

/-- The tokens of a set of index `k`. -/
def RawSet.places (k : Nat) (set : RawSet) : List TokenPlace :=
  match set.data with
  | .table entries => tokenPlaces set.slug (placesIn [k] [] 0 entries)
  | _ => []

section Sets

variable {slug : String} {set : RawSet} {k : Nat} {p q : TokenPlace}

theorem mem_tokenPlaces {listed : List (List Nat × Node)} :
    p ∈ tokenPlaces slug listed ↔
      p.slug = slug ∧ (p.position, Node.token p.path p.word p.fields) ∈ listed := by
  unfold tokenPlaces
  rw [List.mem_filterMap]
  constructor
  · rintro ⟨⟨position, node⟩, there, same⟩
    cases node with
    | token path word fields =>
      cases same
      exact ⟨rfl, there⟩
    | stray path => cases same
  · rintro ⟨rfl, there⟩
    exact ⟨_, there, rfl⟩

/-- The tokens of a set are those that are visited. -/
theorem mem_places : p ∈ set.places k ↔ p.InSet k set := by
  unfold RawSet.places TokenPlace.InSet
  cases set.data with
  | table entries =>
    rw [mem_tokenPlaces, mem_placesIn_set]
    constructor
    · rintro ⟨slug, position, path, value, place, visited, isOf⟩
      cases isOf with
      | token typed => exact ⟨position, entries, place, slug, rfl, visited, typed⟩
    · rintro ⟨position, _, place, slug, ⟨⟩, visited, typed⟩
      exact ⟨slug, position, p.path, _, place, visited, .token typed⟩
  | null | boolean | integer | real | text | list | moment =>
    exact ⟨nofun, fun ⟨_, _, _, _, form, _⟩ => by cases form⟩

theorem head?_of_inSet (there : p.InSet k set) : p.position.head? = some k := by
  obtain ⟨position, entries, place, -⟩ := there
  rw [place]
  rfl

theorem pairwise_places (k : Nat) (set : RawSet) :
    (set.places k).Pairwise (·.position < ·.position) := by
  unfold RawSet.places
  split
  next entries _ =>
    refine List.Pairwise.filterMap _ ?_ (List.pairwise_map.1 (pairwise_placesIn [k] [] 0 entries))
    rintro ⟨position, node⟩ ⟨position', node'⟩ before p first q second
    cases node with
    | stray => cases first
    | token =>
      cases node' with
      | stray => cases second
      | token =>
        cases first
        cases second
        exact before
  · exact .nil

/-- A node gives a token as its place does. -/
theorem toToken_eq_ok {p : TokenPlace} {token : Token} :
    (Node.token p.path p.word p.fields).toToken p.slug = .ok token ↔ p.Gives token := by
  unfold Node.toToken
  constructor
  · intro given
    dsimp only at given
    split at given
    · cases given
    next kind known =>
    split at given
    · cases given
    · cases given
    next value notNull found =>
    split at given
    next built accepted =>
      cases given
      exact ⟨kind, value, known, found, notNull, accepted⟩
    · cases given
  · rintro ⟨kind, value, known, found, notNull, accepted⟩
    dsimp only
    rw [known, found]
    dsimp only
    split
    next missing => cases missing
    next null => exact absurd (Option.some.inj null) notNull
    next other _ same =>
      cases same
      have accepted : Token.ofData (idStem p.slug ++ "." ++ (Node.token p.path p.word p.fields).name)
          (Node.token p.path p.word p.fields).name kind value = .ok token := accepted
      rw [accepted]

/-- The token that a place gives has its id and its name. -/
theorem names_of_gives {token : Token} (gives : p.Gives token) :
    token.id = p.id ∧ token.name = p.name := by
  obtain ⟨kind, value, -, -, -, built⟩ := gives
  exact Token.names_of_ofData built

theorem map_id_of_gives {places : List TokenPlace} {built : List Token}
    (gives : List.Forall₂ TokenPlace.Gives places built) :
    built.map (·.id) = places.map (·.id) := by
  induction gives with
  | nil => rfl
  | cons given _ ih => rw [List.map_cons, List.map_cons, ih, (names_of_gives given).1]

/-- Nodes give tokens when none of them is stray and the places of the tokens give them. -/
theorem toTokens_iff {listed : List (List Nat × Node)} {built : List Token} :
    List.Forall₂ (fun node token => node.toToken slug = .ok token) (listed.map (·.2)) built ↔
      (∀ position path, (position, Node.stray path) ∉ listed) ∧
        List.Forall₂ TokenPlace.Gives (tokenPlaces slug listed) built := by
  induction listed generalizing built with
  | nil => simp [tokenPlaces]
  | cons first rest ih =>
    obtain ⟨position, node⟩ := first
    cases node with
    | stray path =>
      constructor
      · rintro (_ | ⟨given, -⟩)
        cases given
      · rintro ⟨clear, -⟩
        exact absurd List.mem_cons_self (clear position path)
    | token path word fields =>
      show List.Forall₂ _ (Node.token path word fields :: rest.map (·.2)) _ ↔
        _ ∧ List.Forall₂ _ (⟨position, slug, path, word, fields⟩ :: tokenPlaces slug rest) _
      rw [List.forall₂_cons_left_iff, List.forall₂_cons_left_iff]
      have place : ∀ {token : Token}, (Node.token path word fields).toToken slug = .ok token ↔
          TokenPlace.Gives ⟨position, slug, path, word, fields⟩ token :=
        toToken_eq_ok (p := ⟨position, slug, path, word, fields⟩)
      constructor
      · rintro ⟨token, others, given, gives, rfl⟩
        obtain ⟨clear, gives⟩ := ih.1 gives
        refine ⟨fun position path there => ?_, token, others, place.1 given, gives, rfl⟩
        rcases List.mem_cons.1 there with same | there
        · cases same
        · exact clear position path there
      · rintro ⟨clear, token, others, given, gives, rfl⟩
        refine ⟨token, others, place.2 given, ih.2 ⟨fun position path there => ?_, gives⟩, rfl⟩
        exact clear position path (List.mem_cons_of_mem _ there)

/-- What is visited in a set holds no stray values. -/
theorem not_mem_stray_iff {entries : Entries Data} :
    (∀ position path, (position, Node.stray path) ∉ placesIn [k] [] 0 entries) ↔
      ∀ position path value, Visited entries position path value →
        ∃ fields, value = .table fields := by
  simp only [mem_placesIn_set]
  constructor
  · intro clear position path value visited
    -- A visited value that is no table is a stray node.
    cases form : value.table? with
    | none => exact absurd ⟨position, path, value, rfl, visited, .stray form⟩ (clear _ path)
    | some fields =>
      cases value <;> cases form
      exact ⟨fields, rfl⟩
  · rintro tables _ path ⟨position, path', value, -, visited, isOf⟩
    obtain ⟨fields, rfl⟩ := tables position path' value visited
    cases isOf with
    | stray stray => cases stray

/-- A set gives tokens when it and all that is visited in it are tables, and its tokens give
them. -/
theorem gives_iff (k : Nat) {built : List Token} :
    set.Gives built ↔
      (∃ entries, set.data = .table entries ∧ ∀ position path value,
        Visited entries position path value → ∃ fields, value = .table fields) ∧
      List.Forall₂ TokenPlace.Gives (set.places k) built := by
  unfold RawSet.Gives RawSet.places
  cases set.data with
  | table entries =>
    have listed : nodes entries = (placesIn [k] [] 0 entries).map (·.2) :=
      (map_placesIn [k] [] 0 entries).symm
    constructor
    · rintro ⟨_, ⟨⟩, gives⟩
      rw [listed, toTokens_iff, not_mem_stray_iff] at gives
      exact ⟨⟨entries, rfl, gives.1⟩, gives.2⟩
    · rintro ⟨⟨_, ⟨⟩, tables⟩, gives⟩
      refine ⟨entries, rfl, ?_⟩
      rw [listed, toTokens_iff, not_mem_stray_iff]
      exact ⟨tables, gives⟩
  | null | boolean | integer | real | text | list | moment =>
    exact ⟨fun ⟨_, form, _⟩ => by (cases form), fun ⟨⟨_, form, _⟩, _⟩ => by cases form⟩

end Sets

/-! ## The tokens of all sets -/

/-- The tokens of some sets, the first of index `k`. -/
def placesFrom (k : Nat) : List RawSet → List TokenPlace
  | [] => []
  | set :: rest => set.places k ++ placesFrom (k + 1) rest

section Sources

variable {sets : List RawSet} {p q : TokenPlace} {i k : Nat}

theorem mem_placesFrom :
    p ∈ placesFrom i sets ↔ ∃ k set, sets[k]? = some set ∧ p.InSet (i + k) set := by
  induction sets generalizing i with
  | nil => exact ⟨nofun, fun ⟨_, _, there, _⟩ => by cases there⟩
  | cons first rest ih =>
    rw [placesFrom, List.mem_append, mem_places, ih]
    constructor
    · rintro (here | ⟨k, set, there, inSet⟩)
      · exact ⟨0, first, rfl, here⟩
      · exact ⟨k + 1, set, there, by rwa [Nat.add_right_comm] at inSet⟩
    · rintro ⟨_ | k, set, there, inSet⟩
      · cases there
        exact .inl inSet
      · exact .inr ⟨k, set, there, by rwa [Nat.add_right_comm]⟩

theorem le_head_of_mem_placesFrom (there : p ∈ placesFrom i sets) :
    ∃ k, i ≤ k ∧ p.position.head? = some k := by
  obtain ⟨k, set, -, inSet⟩ := mem_placesFrom.1 there
  exact ⟨i + k, Nat.le_add_right i k, head?_of_inSet inSet⟩

/-- The tokens are listed in the order of their positions. -/
theorem pairwise_placesFrom (i : Nat) (sets : List RawSet) :
    (placesFrom i sets).Pairwise (·.position < ·.position) := by
  induction sets generalizing i with
  | nil => exact .nil
  | cons set rest ih =>
    refine List.pairwise_append.2 ⟨pairwise_places i set, ih (i + 1), fun p here q there => ?_⟩
    -- The index of the set comes first in a position.
    obtain ⟨position, entries, place, -⟩ := mem_places.1 here
    obtain ⟨k, behind, head⟩ := le_head_of_mem_placesFrom there
    obtain ⟨tail, place'⟩ := List.head?_eq_some_iff.1 head
    rw [place, place']
    exact List.Lex.rel behind

/-- The tokens of one set are those whose position starts with its index. -/
theorem filter_placesFrom {set : RawSet} (there : sets[k]? = some set) :
    (placesFrom i sets).filter (·.position.head? = some (i + k)) = set.places (i + k) := by
  induction sets generalizing i k with
  | nil => cases there
  | cons first rest ih =>
    rw [placesFrom, List.filter_append]
    have own : ∀ p ∈ first.places i, p.position.head? = some i :=
      fun p here => head?_of_inSet (mem_places.1 here)
    cases k with
    | zero =>
      cases there
      -- Positions in later sets start with a greater index.
      have others : (placesFrom (i + 1) rest).filter (·.position.head? = some i) = [] := by
        refine List.filter_eq_nil_iff.2 fun p behind same => ?_
        obtain ⟨k, later, head⟩ := le_head_of_mem_placesFrom behind
        cases head.symm.trans (of_decide_eq_true same)
        omega
      rw [Nat.add_zero, others, List.append_nil]
      exact List.filter_eq_self.2 fun p here => decide_eq_true (own p here)
    | succ k =>
      have none : (first.places i).filter (·.position.head? = some (i + (k + 1))) = [] := by
        refine List.filter_eq_nil_iff.2 fun p here same => ?_
        cases (own p here).symm.trans (of_decide_eq_true same)
      rw [none, List.nil_append, Nat.add_comm k 1, ← Nat.add_assoc]
      exact ih there

/-- Sets give the tokens of their places. -/
theorem forall₂_of_gives {builts : List (List Token)}
    (gives : List.Forall₂ RawSet.Gives sets builts) :
    List.Forall₂ TokenPlace.Gives (placesFrom i sets) builts.flatten := by
  induction gives generalizing i with
  | nil => exact .nil
  | cons given _ ih => exact List.rel_append ((gives_iff i).1 given).2 ih

/-- Each set lists the ids of its own tokens. -/
theorem listedSets_of_gives {builts : List (List Token)}
    (gives : List.Forall₂ RawSet.Gives sets builts) :
    listedSets sets builts =
      sets.mapIdx fun k set => ⟨set.slug, (set.places (i + k)).map (·.id)⟩ := by
  induction gives generalizing i with
  | nil => rfl
  | @cons set built rest builts given _ ih =>
    rw [List.mapIdx_cons]
    show ⟨set.slug, built.map (·.id)⟩ :: listedSets rest builts = _
    rw [map_id_of_gives ((gives_iff i).1 given).2, ih (i := i + 1)]
    simp only [Nat.add_zero, Nat.add_assoc, Nat.add_comm 1]

/-- The tokens of some sets, in the order of the document. -/
theorem mem_placesFrom_zero : p ∈ placesFrom 0 sets ↔ p.IsIn sets := by
  simp only [mem_placesFrom, Nat.zero_add]
  rfl

/-! ## What is accepted -/

/-- Sets that give tokens of distinct ids are well-formed. -/
theorem wellFormed_of_gives {builts : List (List Token)}
    (gives : List.Forall₂ RawSet.Gives sets builts) (distinct : (builts.flatten.map (·.id)).Nodup) :
    WellFormed sets where
  tables set there := by
    obtain ⟨built, given⟩ := exists_forall₂_iff.1 ⟨builts, gives⟩ set there
    exact given.imp fun _ given => given.1
  nodes set there entries form position path value visited := by
    obtain ⟨built, given⟩ := exists_forall₂_iff.1 ⟨builts, gives⟩ set there
    obtain ⟨⟨_, form', tables⟩, -⟩ := (gives_iff 0).1 given
    cases form.symm.trans form'
    exact tables position path value visited
  tokens p there :=
    exists_forall₂_iff.1 ⟨_, forall₂_of_gives gives⟩ p (mem_placesFrom_zero.2 there)
  distinct p q here there same := by
    rw [map_id_of_gives (forall₂_of_gives gives)] at distinct
    rw [List.inj_on_of_nodup_map distinct (mem_placesFrom_zero.2 here)
      (mem_placesFrom_zero.2 there) same]

/-- Well-formed sets give tokens of distinct ids. -/
theorem exists_gives_of_wellFormed (wellFormed : WellFormed sets) :
    ∃ builts, List.Forall₂ RawSet.Gives sets builts ∧ (builts.flatten.map (·.id)).Nodup := by
  have each : ∀ set ∈ sets, ∃ built, set.Gives built := by
    intro set there
    obtain ⟨k, place⟩ := List.getElem?_of_mem there
    obtain ⟨entries, form⟩ := wellFormed.tables set there
    obtain ⟨built, given⟩ : ∃ built, List.Forall₂ TokenPlace.Gives (set.places k) built :=
      exists_forall₂_iff.2 fun p inSet => wellFormed.tokens p ⟨k, set, place, mem_places.1 inSet⟩
    exact ⟨built, (gives_iff k).2 ⟨⟨entries, form, wellFormed.nodes set there entries form⟩, given⟩⟩
  obtain ⟨builts, gives⟩ := exists_forall₂_iff.2 each
  refine ⟨builts, gives, ?_⟩
  rw [map_id_of_gives (forall₂_of_gives (i := 0) gives)]
  -- Two tokens listed are in two places, and so they have two ids.
  refine List.pairwise_map.2 ((pairwise_placesFrom 0 sets).imp_of_mem ?_)
  intro p q here there before same
  have onePlace := wellFormed.distinct p q (mem_placesFrom_zero.1 here)
    (mem_placesFrom_zero.1 there) same
  rw [onePlace] at before
  exact List.lt_irrefl _ before

end Sources

/-- What is parsed of some sets are the tokens of these places.

* The places are those of the tokens in the sets, in the order of the sets and of the document in
  each.
* Each place gives its token, under its id and with its name.
* Each set lists the ids of its own tokens, and so every id is listed once. -/
structure Complete (sets : List RawSet) (places : List TokenPlace) (parsed : Parsed) : Prop where
  mem_iff : ∀ p, p ∈ places ↔ p.IsIn sets
  ordered : places.Pairwise (·.position < ·.position)
  given : List.Forall₂ (fun p token => p.Gives token ∧ token.id = p.id ∧ token.name = p.name) places
    parsed.tokens
  distinct : (parsed.tokens.map (·.id)).Nodup
  sets : parsed.sets = sets.mapIdx fun k set =>
    ⟨set.slug, (places.filter (·.position.head? = some k)).map (·.id)⟩
  listed : parsed.sets.flatMap (·.ids) = parsed.tokens.map (·.id)

theorem complete_of_gives {sets : List RawSet} {builts : List (List Token)}
    (gives : List.Forall₂ RawSet.Gives sets builts) (distinct : (builts.flatten.map (·.id)).Nodup) :
    Complete sets (placesFrom 0 sets) ⟨builts.flatten, listedSets sets builts⟩ where
  mem_iff _ := mem_placesFrom_zero
  ordered := pairwise_placesFrom 0 sets
  given := (forall₂_of_gives gives).imp fun p token given => ⟨given, names_of_gives given⟩
  distinct := distinct
  sets := by
    rw [listedSets_of_gives (i := 0) gives]
    refine List.ext_getElem? fun k => ?_
    rw [List.getElem?_mapIdx, List.getElem?_mapIdx]
    cases there : sets[k]? with
    | none => rfl
    | some set =>
      have own := filter_placesFrom (i := 0) there
      rw [Nat.zero_add] at own
      simp only [Option.map_some, own, Nat.zero_add]
  listed := flatMap_listedSets gives.length_eq

/-- The token sets that are accepted are the well-formed ones, and all others are refused as faults
of the source. What is parsed of accepted sets is complete, and a library can be built of it. -/
theorem parseTokens_accepts_wellFormed (sets : List RawSet) :
    ((∃ parsed, parseTokens sets = .ok parsed) ↔ WellFormed sets) ∧
    (¬ WellFormed sets →
      ∃ fault file token, parseTokens sets = .error (.load fault file token)) ∧
    ∀ parsed, parseTokens sets = .ok parsed →
      (∃ places, Complete sets places parsed) ∧
      ∀ themes strictNames, ∃ library,
        Library.build parsed.tokens parsed.sets themes strictNames = .ok library ∧
          library.tokens = parsed.tokens := by
  have accepted : (∃ parsed, parseTokens sets = .ok parsed) ↔ WellFormed sets := by
    constructor
    · rintro ⟨parsed, parsing⟩
      obtain ⟨builts, gives, -, distinct⟩ := parseTokens_eq_ok.1 parsing
      exact wellFormed_of_gives gives distinct
    · intro wellFormed
      obtain ⟨builts, gives, distinct⟩ := exists_gives_of_wellFormed wellFormed
      exact ⟨_, parseTokens_eq_ok.2 ⟨builts, gives, rfl, distinct⟩⟩
  refine ⟨accepted, fun refused => ?_, fun parsed parsing => ?_⟩
  · cases parsing : parseTokens sets with
    | ok parsed => exact absurd (accepted.1 ⟨parsed, parsing⟩) refused
    | error failure =>
      obtain ⟨fault, file, token, rfl⟩ := isLoad_of_parseTokens parsing
      exact ⟨fault, file, token, rfl⟩
  · obtain ⟨builts, gives, rfl, distinct⟩ := parseTokens_eq_ok.1 parsing
    have complete := complete_of_gives gives distinct
    refine ⟨⟨_, complete⟩, Library.exists_build distinct fun set there id listed => ?_⟩
    rw [← complete.listed]
    exact List.mem_flatMap.2 ⟨set, there, listed⟩

/-- A token of a single text, spelled with plain field names. -/
def spacingData (raw : String) : Data :=
  .table [("type", .text "spacing"), ("value", .text raw)]

/-- Two sets: a token in a group that is itself called `value`, behind a key of the set's own, and a
token of the same name. -/
def nestedSets : List RawSet :=
  [⟨"base", none, .table [("$description", .null), ("value", .table [("gap", spacingData "8px")]),
      ("wide", .table [("$type", .text "spacing"), ("$value", .integer 16)])]⟩,
    ⟨"mode/dark", none, .table [("value", .table [("gap", spacingData "1px")])]⟩]

theorem nestedSets_accepted :
    WellFormed nestedSets ∧ ∃ parsed places, parseTokens nestedSets = .ok parsed ∧
      Complete nestedSets places parsed ∧
      parsed.tokens.map (·.id) = ["base.value.gap", "base.wide", "mode.dark.value.gap"] := by
  have ids : (parseTokens nestedSets).map (fun parsed => parsed.tokens.map (·.id)) =
      .ok ["base.value.gap", "base.wide", "mode.dark.value.gap"] := by decide +kernel
  obtain ⟨parsed, parsing, ids⟩ := Except.map_eq_ok.1 ids
  obtain ⟨accepted, -, complete⟩ := parseTokens_accepts_wellFormed nestedSets
  obtain ⟨places, complete⟩ := (complete parsed parsing).1
  exact ⟨accepted.1 ⟨parsed, parsing⟩, parsed, places, parsing, complete, ids⟩

/-- Slugs with a slash and with a dot may give one id. -/
example :
    (parseTokens [⟨"a/b", none, .table [("gap", spacingData "8px")]⟩,
      ⟨"a.b", none, .table [("gap", spacingData "1px")]⟩]).map (·.tokens) =
        .error (.load (.duplicateToken "a.b.gap") none (some "gap")) := by
  decide +kernel

end Source

end DesignTokens
