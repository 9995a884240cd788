import DesignTokens.Proofs.Resolution.Edges
import Mathlib.Data.List.Chain
import Mathlib.Data.List.Perm.Subperm

/-!
# Cycles of references

A value in static form opens the tokens that it refers to, those open the tokens that they refer to,
and so on. The ids of the open tokens form a chain without repetition (`Opens`), so there are never
more of them than the library has tokens, and the computation ends.

1. `answer_valueAt_room`: the room is never used up. A larger one changes no answer.
2. `ends_of_outcome_valueAt`: a token with a value reaches no cycle of references.
3. `exists_trail_of_cyclic`: a cycle that is reported is there. The chain reported is a trail along
   references that ends at one of its own tokens.
-/

namespace DesignTokens

open Inquiry Relation

variable {library : Library} {theme : Option String}

/-! ## The chain of open tokens -/

/-- Distinct ids of tokens of the library. -/
structure Opens (library : Library) (chain : List String) : Prop where
  distinct : chain.Nodup
  known : chain ⊆ library.tokens.map (·.id)

namespace Opens

variable {chain : List String} {u : Token}

theorem nil : Opens library [] := ⟨.nil, List.nil_subset _⟩

/-- A token that is not open yet can be opened. -/
theorem snoc (opens : Opens library chain) (here : u ∈ library.tokens) (new : u.id ∉ chain) :
    Opens library (chain ++ [u.id]) := by
  constructor
  · refine List.nodup_append.2 ⟨opens.distinct, List.nodup_singleton _, ?_⟩
    rintro id there _ last rfl
    rw [List.mem_singleton.1 last] at there
    exact new there
  · refine List.append_subset.2 ⟨opens.known, ?_⟩
    rintro id last
    rw [List.mem_singleton.1 last]
    exact List.mem_map_of_mem here

/-- No more tokens are open than there are tokens. -/
theorem length_le (opens : Opens library chain) : chain.length ≤ library.tokens.length := by
  have fits := (opens.distinct.subperm opens.known).length_le
  rwa [List.length_map] at fits

/-- When as many tokens are open as there are tokens, every token is open. -/
theorem mem_of_full (opens : Opens library chain) (full : library.tokens.length ≤ chain.length)
    (here : u ∈ library.tokens) : u.id ∈ chain := by
  by_contra new
  have fits := (opens.snoc here new).length_le
  rw [List.length_append, List.length_singleton] at fits
  omega

end Opens

/-! ## The computation ends -/

/-- A value that is asked for: the ids of the tokens that are open, and the token. -/
structure Call where
  chain : List String
  token : Token

/-- Computing the value of `call` asks for that of `next`. -/
def Call.Asks (library : Library) (theme : Option String) (call next : Call) : Prop :=
  call.token.id ∉ call.chain ∧ next.chain = call.chain ++ [call.token.id] ∧
    Refers library theme call.token next.token

/-- The open tokens are tokens of the library without repetition, and so is the next one. -/
structure Call.Valid (library : Library) (call : Call) : Prop where
  opens : Opens library call.chain
  here : call.token ∈ library.tokens

theorem Call.Valid.next {call next : Call} (valid : call.Valid library)
    (asks : call.Asks library theme next) : next.Valid library := by
  obtain ⟨new, extended, refers⟩ := asks
  exact ⟨extended ▸ valid.opens.snoc valid.here new, refers.mem⟩

theorem Call.Valid.of_reachable {call last : Call} (valid : call.Valid library)
    (reaches : ReflTransGen (Call.Asks library theme) call last) : last.Valid library := by
  induction reaches with
  | refl => exact valid
  | tail _ asks ih => exact ih.next asks

/-- No value asks for values forever: each question lets one token less be opened. -/
theorem Call.Valid.acc {call : Call} (valid : call.Valid library) :
    Acc (fun next call => Call.Asks library theme call next) call := by
  induction free : library.tokens.length - call.chain.length generalizing call with
  | zero =>
    refine ⟨_, fun next asks => ?_⟩
    have full := valid.opens.mem_of_full (by omega) valid.here
    exact absurd full asks.1
  | succ free ih =>
    refine ⟨_, fun next asks => ih (valid.next asks) ?_⟩
    obtain ⟨_, extended, _⟩ := asks
    rw [extended, List.length_append, List.length_singleton]
    omega

/-- Room for all tokens is room enough: it does not matter how much there is. -/
theorem answer_valueAt_room {s : Substitution} {room room' : Nat}
    {chain : List String} {nested : Bool} {u : Token} (opens : Opens library chain)
    (here : u ∈ library.tokens) (enough : library.tokens.length ≤ room + chain.length)
    (enough' : library.tokens.length ≤ room' + chain.length) :
    answer library (s.valueAt room chain nested u) =
      answer library (s.valueAt room' chain nested u) := by
  induction room generalizing room' chain nested u with
  | zero =>
    have already := opens.mem_of_full (by omega) here
    rw [valueAt_of_mem already, valueAt_of_mem already]
  | succ room ih =>
    by_cases already : u.id ∈ chain
    · rw [valueAt_of_mem already, valueAt_of_mem already]
    · cases room' with
      | zero => exact absurd (opens.mem_of_full (by omega) here) already
      | succ room' =>
        refine answer_valueAt_congr already already fun v refers => ?_
        have longer : (chain ++ [u.id]).length = chain.length + 1 := List.length_append
        exact ih (opens.snoc here already) refers.mem (by omega) (by omega)

/-- A text is expanded alike with any room that is enough. -/
theorem answer_expandAt_room {s : Substitution} {room room' : Nat} {chain : List String}
    {text : String} (opens : Opens library chain)
    (enough : library.tokens.length ≤ room + chain.length)
    (enough' : library.tokens.length ≤ room' + chain.length) :
    answer library (s.expandAt room chain text) = answer library (s.expandAt room' chain text) := by
  refine Reference.answer_substituteIn_congr fun name _ => ?_
  refine answer_reference_congr fun u found _ => ?_
  exact answer_valueAt_room opens (Library.mem_tokens_of_find found) enough enough'

/-! ## A token with a value reaches no cycle -/

/-- A cycle of references can be reached from `t`. -/
def ReachesCycle (library : Library) (theme : Option String) (t : Token) : Prop :=
  ∃ u, ReflTransGen (Refers library theme) t u ∧ TransGen (Refers library theme) u u

/-- References lead from `u` to an end, whichever of them are followed. -/
abbrev Ends (library : Library) (theme : Option String) (u : Token) : Prop :=
  Acc (fun v u => Refers library theme u v) u

theorem Ends.reachable {u v : Token} (ends : Ends library theme u)
    (reaches : ReflTransGen (Refers library theme) u v) : Ends library theme v := by
  induction reaches with
  | refl => exact ends
  | tail _ refers ih => exact ih.inv refers

theorem Ends.not_cycle {u : Token} (ends : Ends library theme u) :
    ¬ TransGen (Refers library theme) u u := by
  induction ends with
  | intro u _ ih =>
    intro cycle
    -- The cycle can be entered one token later, where the induction hypothesis excludes it.
    obtain ⟨v, refers, back⟩ := TransGen.head'_iff.1 cycle
    exact ih v refers (TransGen.tail' back refers)

theorem Ends.not_reachesCycle {u : Token} (ends : Ends library theme u) :
    ¬ ReachesCycle library theme u := by
  rintro ⟨v, reaches, cycle⟩
  exact (ends.reachable reaches).not_cycle cycle

/-- When a value is computed in static form, all references from the token lead to an end. -/
theorem ends_of_outcome_valueAt {s : Substitution} (static : s.method = .static) {room : Nat}
    {chain : List String} {nested : Bool} {u : Token} {text : String}
    (computed : outcome library (s.valueAt room chain nested u) = .ok text) :
    Ends library s.theme u := by
  induction room generalizing chain nested u text with
  | zero => cases computed
  | succ room ih =>
    refine ⟨_, fun v refers => ?_⟩
    obtain ⟨text, computed⟩ := (outcome_valueAt_eq_ok static computed).2 v refers
    exact ih computed

/-! ## A cycle that is reported is there -/

theorem ids_concat (way : List Token) (last : Token) :
    (way ++ [last]).map (·.id) = way.map (·.id) ++ [last.id] := by
  rw [List.map_append]
  rfl

/-- Tokens of the library along references, with one more at the end. Those before it are
distinct. -/
structure Trail (library : Library) (theme : Option String) (way : List Token) (last : Token) :
    Prop where
  known : way ⊆ library.tokens
  here : last ∈ library.tokens
  distinct : (way.map (·.id)).Nodup
  follows : (way ++ [last]).IsChain (Refers library theme)

namespace Trail

variable {way : List Token} {last : Token}

theorem start (here : last ∈ library.tokens) : Trail library theme [] last :=
  ⟨List.nil_subset _, here, .nil, .singleton _⟩

theorem opens (trail : Trail library theme way last) : Opens library (way.map (·.id)) :=
  ⟨trail.distinct, List.map_subset _ trail.known⟩

/-- A trail goes on along a reference while its tokens are distinct. -/
theorem step {next : Token} (trail : Trail library theme way last)
    (new : last.id ∉ way.map (·.id)) (refers : Refers library theme last next) :
    Trail library theme (way ++ [last]) next := by
  constructor
  · exact List.append_subset.2 ⟨trail.known, fun _ last => List.mem_singleton.1 last ▸ trail.here⟩
  · exact refers.mem
  · rw [ids_concat]
    exact (trail.opens.snoc trail.here new).distinct
  · refine List.isChain_append.2 ⟨trail.follows, .singleton _, ?_⟩
    rintro u isLast v isNext
    rw [List.getLast?_concat, Option.mem_def, Option.some.injEq] at isLast
    cases isLast
    cases isNext
    exact refers

/-- A trail whose last id is on the way ends at a token that is on the way. -/
theorem mem_of_id_mem (trail : Trail library theme way last) (already : last.id ∈ way.map (·.id)) :
    last ∈ way := by
  obtain ⟨u, there, same⟩ := List.mem_map.1 already
  exact Library.eq_of_id_eq (trail.known there) trail.here same ▸ there

theorem transGen_of_isChain {u v : Token} {between : List Token}
    (follows : (u :: between ++ [v]).IsChain (Refers library theme)) :
    TransGen (Refers library theme) u v := by
  induction between generalizing u with
  | nil => exact .single (List.isChain_pair.1 follows)
  | cons next rest ih =>
    obtain ⟨refers, follows⟩ := List.isChain_cons_cons.1 follows
    exact .head refers (ih follows)

/-- A trail that ends at a token on the way reaches a cycle from where it starts. -/
theorem reachesCycle {first : Token} (trail : Trail library theme way last) (closes : last ∈ way)
    (starts : way.head? = some first) : ReachesCycle library theme first := by
  obtain ⟨before, after, rfl⟩ := List.mem_iff_append.1 closes
  have follows := trail.follows
  rw [List.append_assoc] at follows
  have cycle := transGen_of_isChain (List.isChain_append.1 follows).2.1
  cases before with
  | nil =>
    cases starts
    exact ⟨last, .refl, cycle⟩
  | cons u rest =>
    cases starts
    have reaches : TransGen (Refers library theme) first last := by
      -- The trail is cut off where it comes to its last token for the first time.
      have whole : ((first :: rest ++ [last]) ++ (after ++ [last])).IsChain
          (Refers library theme) := by simpa using follows
      exact transGen_of_isChain (List.isChain_append.1 whole).1
    exact ⟨last, reaches.to_reflTransGen, cycle⟩

end Trail

/-- The chain of a cycle that is reported is a trail that begins with the tokens that are open and
ends at a token on the way. -/
theorem exists_trail_of_cyclic {s : Substitution} {room : Nat} {path : List Token} {nested : Bool}
    {u : Token} {reported : List String}
    (trail : Trail library s.theme path u) (enough : library.tokens.length ≤ room + path.length)
    (failed : outcome library (s.valueAt room (path.map (·.id)) nested u) =
      .error (.resolve (.cyclic reported))) :
    ∃ way last, Trail library s.theme way last ∧ last ∈ way ∧ path ++ [u] <+: way ++ [last] ∧
      reported = (way ++ [last]).map (·.id) := by
  induction room generalizing path nested u with
  | zero =>
    have full : library.tokens.length ≤ (path.map (·.id)).length := by
      rw [List.length_map]
      omega
    -- All tokens are open, so `u` is, and the report at the end of the room is a true one.
    have already := trail.opens.mem_of_full full trail.here
    cases failed
    exact ⟨path, u, trail, trail.mem_of_id_mem already, List.prefix_rfl, (ids_concat path u).symm⟩
  | succ room ih =>
    rcases outcome_valueAt_eq_error failed with
      ⟨already, same⟩ | ⟨new, here | ⟨v, refers, failed⟩⟩
    · cases same
      rw [← ids_concat]
      exact ⟨path, u, trail, trail.mem_of_id_mem already, List.prefix_rfl, rfl⟩
    · exact absurd rfl (here.ne_cyclic reported)
    · -- The token that reports the cycle is opened behind this one, so the trail goes on to it.
      have longer : (path ++ [u]).length = path.length + 1 := List.length_append
      rw [← ids_concat] at failed
      obtain ⟨way, last, onward, closes, begins, same⟩ :=
        ih (trail.step new refers) (by omega) failed
      exact ⟨way, last, onward, closes, (List.prefix_append _ _).trans begins, same⟩

/-! ## What a cycle report says -/

/-- A token of the library with the id `a` refers to one with the id `b`. -/
def RefersById (library : Library) (theme : Option String) (a b : String) : Prop :=
  ∃ u v, u ∈ library.tokens ∧ Refers library theme u v ∧ u.id = a ∧ v.id = b

/-- Ids along references, from that of `t` on, without repetition up to the last one, which is one
of those before it. -/
structure CycleWitness (library : Library) (theme : Option String) (t : Token)
    (chain : List String) : Prop where
  starts : chain.head? = some t.id
  distinct : chain.dropLast.Nodup
  closes : ∃ id ∈ chain.dropLast, chain.getLast? = some id
  follows : chain.IsChain (RefersById library theme)

theorem Trail.witness {way : List Token} {last t : Token} (trail : Trail library theme way last)
    (closes : last ∈ way) (starts : way.head? = some t) :
    CycleWitness library theme t ((way ++ [last]).map (·.id)) := by
  have known : ∀ u ∈ way ++ [last], u ∈ library.tokens := by
    intro u there
    rcases List.mem_append.1 there with there | there
    · exact trail.known there
    · exact List.mem_singleton.1 there ▸ trail.here
  constructor
  · rw [List.head?_map, List.head?_append, starts]
    rfl
  · rw [ids_concat, List.dropLast_concat]
    exact trail.distinct
  · rw [ids_concat, List.dropLast_concat, List.getLast?_concat]
    exact ⟨last.id, List.mem_map_of_mem closes, rfl⟩
  · refine (List.isChain_map _).2 (trail.follows.imp_of_mem_imp fun u v hu _ refers => ?_)
    exact ⟨u, v, known u hu, refers, rfl, rfl⟩

/-- The value of a token in static form is computed in finitely many steps. The chain of open
tokens never repeats an id, so it is never longer than the list of tokens, and the room for it
decides nothing. A cycle is reported with a true witness. A value that is reported to be cyclic has
a cycle in reach, and a token with a cycle in reach has no value. -/
theorem static_value_ends_or_reports_cycle (library : Library) (theme : Option String) {t : Token}
    (here : t ∈ library.tokens) (nested : Bool) :
    let s := library.substitution .static theme
    (Acc (fun next call => Call.Asks library theme call next) ⟨[], t⟩ ∧
      (∀ call, ReflTransGen (Call.Asks library theme) ⟨[], t⟩ call →
        call.chain.Nodup ∧ (call.token.id ∉ call.chain →
          (call.chain ++ [call.token.id]).Nodup ∧
            (call.chain ++ [call.token.id]).length ≤ library.tokens.length)) ∧
      ∀ room ≥ library.tokens.length,
        answer library (s.valueAt room [] nested t) = answer library (s.value nested t)) ∧
    (∀ chain, outcome library (s.value nested t) = .error (.resolve (.cyclic chain)) →
      CycleWitness library theme t chain) ∧
    (ReachesCycle library theme t → ∀ text, outcome library (s.value nested t) ≠ .ok text) ∧
    (¬ ReachesCycle library theme t → ∀ chain,
      outcome library (s.value nested t) ≠ .error (.resolve (.cyclic chain))) := by
  intro s
  have start : Call.Valid library ⟨[], t⟩ := ⟨.nil, here⟩
  have reported : ∀ chain, outcome library (s.value nested t) = .error (.resolve (.cyclic chain)) →
      ∃ way last, Trail library theme way last ∧ last ∈ way ∧ way.head? = some t ∧
        chain = (way ++ [last]).map (·.id) := by
    intro chain failed
    obtain ⟨way, last, trail, closes, ⟨rest, begins⟩, same⟩ :=
      exists_trail_of_cyclic (s := s) (Trail.start here) (Nat.le_refl _) failed
    refine ⟨way, last, trail, closes, ?_, same⟩
    cases way with
    | nil => cases closes
    | cons first way =>
      cases begins
      rfl
  refine ⟨⟨start.acc, fun call reaches => ?_, fun room enough => ?_⟩, ?_, ?_, ?_⟩
  · have valid := start.of_reachable reaches
    refine ⟨valid.opens.distinct, fun new => ?_⟩
    have opened := valid.opens.snoc valid.here new
    exact ⟨opened.distinct, opened.length_le⟩
  · exact answer_valueAt_room .nil here enough (Nat.le_refl _)
  · intro chain failed
    obtain ⟨way, last, trail, closes, starts, rfl⟩ := reported chain failed
    exact trail.witness closes starts
  · intro reaches text computed
    exact (ends_of_outcome_valueAt (s := s) rfl computed).not_reachesCycle reaches
  · intro acyclic chain failed
    obtain ⟨way, last, trail, closes, starts, rfl⟩ := reported chain failed
    exact acyclic (trail.reachesCycle closes starts)

/-- Two tokens that refer to each other. -/
def loop : Library :=
  .ofTokens [.spacing "s.a" "a" "{b}", .spacing "s.b" "b" "{a}"] (by decide)

theorem static_value_loop :
    Token.spacing "s.a" "a" "{b}" ∈ loop.tokens ∧
      CycleWitness loop none (.spacing "s.a" "a" "{b}") ["s.a", "s.b", "s.a"] := by
  have here : Token.spacing "s.a" "a" "{b}" ∈ loop.tokens := List.mem_cons_self
  refine ⟨here, (static_value_ends_or_reports_cycle loop none here false).2.1 _ ?_⟩
  decide +kernel

end DesignTokens
