import DesignTokens.Proofs.Outcome
import DesignTokens.Source.Tokens
import Mathlib.Data.List.Forall2
import Mathlib.Data.List.Nodup

/-!
# Adding tokens

The tokens of some sets are added one after another, and a second token of an id is refused. Added
together, they are the tokens that the nodes give one by one, if no two of them have one id
(`parseTokens_eq_ok`). Everything else is refused with a fault of the source
(`isLoad_of_parseTokens`).
-/

namespace DesignTokens

namespace Source

/-! ## How tokens are added -/

section Adding

variable {slug : String} {file : Option Path} {data : Data}

/-- Nodes give tokens of new ids, each its own, behind the tokens before them. -/
theorem addNodes_eq_ok {before result : List Token} {nodes : List Node}
    (distinct : (before.map (·.id)).Nodup) :
    addNodes slug file before nodes = .ok result ↔
      ∃ built, List.Forall₂ (fun node token => node.toToken slug = .ok token) nodes built ∧
        result = before ++ built ∧ (result.map (·.id)).Nodup := by
  induction nodes generalizing before with
  | nil =>
    constructor
    · intro added
      cases added
      exact ⟨[], .nil, (List.append_nil _).symm, distinct⟩
    · rintro ⟨_, ⟨⟩, rfl, -⟩
      rw [List.append_nil]
      rfl
  | cons node rest ih =>
    rw [addNodes]
    cases given : node.toToken slug with
    | error fault =>
      refine ⟨nofun, ?_⟩
      rintro ⟨_, _ | ⟨given', -⟩, -⟩
      cases given.symm.trans given'
    | ok token =>
      by_cases old : before.any (·.id = token.id) = true
      · -- A second token of an id is refused.
        dsimp only
        rw [if_pos old]
        refine ⟨nofun, ?_⟩
        rintro ⟨_, _ | ⟨given', -⟩, rfl, distinct⟩
        cases given.symm.trans given'
        obtain ⟨first, there, same⟩ := List.any_eq_true.1 old
        rw [List.map_append, List.nodup_append] at distinct
        exact absurd (of_decide_eq_true same)
          (distinct.2.2 _ (List.mem_map_of_mem there) _ List.mem_cons_self)
      · -- A new id is put behind the others, and they stay distinct.
        have new : token.id ∉ before.map (·.id) := by
          intro there
          obtain ⟨first, there, same⟩ := List.mem_map.1 there
          exact old (List.any_eq_true.2 ⟨first, there, decide_eq_true same⟩)
        have distinct' : ((before ++ [token]).map (·.id)).Nodup := by
          rw [List.map_append]
          exact List.nodup_append_comm.1 (List.nodup_cons.2 ⟨new, distinct⟩)
        dsimp only
        rw [if_neg old, ih distinct']
        constructor
        · rintro ⟨built, gives, rfl, distinct⟩
          exact ⟨token :: built, .cons given gives, List.append_assoc _ _ _, distinct⟩
        · rintro ⟨_, _ | ⟨given', gives⟩, rfl, distinct⟩
          cases given.symm.trans given'
          exact ⟨_, gives, List.append_cons _ _ _, distinct⟩

/-- A set gives the tokens of its nodes. -/
def RawSet.Gives (set : RawSet) (built : List Token) : Prop :=
  ∃ entries, set.data = .table entries ∧
    List.Forall₂ (fun node token => node.toToken set.slug = .ok token) (nodes entries) built

/-- The sets with the ids of their tokens. -/
def listedSets (sets : List RawSet) (builts : List (List Token)) : List TokenSet :=
  List.zipWith (fun set built => ⟨set.slug, built.map (·.id)⟩) sets builts

/-- The ids of all sets are those of all tokens. -/
theorem flatMap_listedSets {sets : List RawSet} {builts : List (List Token)}
    (length : sets.length = builts.length) :
    (listedSets sets builts).flatMap (·.ids) = builts.flatten.map (·.id) := by
  induction sets generalizing builts with
  | nil =>
    cases List.eq_nil_of_length_eq_zero length.symm
    rfl
  | cons set rest ih =>
    obtain ⟨built, others, rfl⟩ := List.exists_cons_of_length_eq_add_one length.symm
    rw [List.flatten_cons, List.map_append, ← ih (Nat.succ.inj length)]
    rfl

theorem addSet_eq_ok {set : RawSet} {before after : Parsed}
    (distinct : (before.tokens.map (·.id)).Nodup) :
    addSet set.slug set.file set.data before = .ok after ↔
      ∃ built, set.Gives built ∧
        after = ⟨before.tokens ++ built, before.sets ++ [⟨set.slug, built.map (·.id)⟩]⟩ ∧
        (after.tokens.map (·.id)).Nodup := by
  unfold addSet RawSet.Gives
  cases set.data with
  | table entries =>
    dsimp only
    rw [Except.bind_eq_ok]
    constructor
    · rintro ⟨tokens, added, last⟩
      obtain ⟨built, gives, rfl, distinct⟩ := (addNodes_eq_ok distinct).1 added
      cases last
      exact ⟨built, ⟨entries, rfl, gives⟩, by rw [List.drop_left], distinct⟩
    · rintro ⟨built, ⟨_, ⟨⟩, gives⟩, rfl, distinct'⟩
      refine ⟨_, (addNodes_eq_ok distinct).2 ⟨built, gives, rfl, distinct'⟩, ?_⟩
      rw [List.drop_left]
      rfl
  | null | boolean | integer | real | text | list | moment =>
    exact ⟨nofun, fun ⟨_, ⟨_, form, _⟩, _⟩ => by cases form⟩

theorem addSets_eq_ok {sets : List RawSet} {before after : Parsed}
    (distinct : (before.tokens.map (·.id)).Nodup) :
    addSets before sets = .ok after ↔
      ∃ builts, List.Forall₂ RawSet.Gives sets builts ∧
        after = ⟨before.tokens ++ builts.flatten, before.sets ++ listedSets sets builts⟩ ∧
        (after.tokens.map (·.id)).Nodup := by
  induction sets generalizing before with
  | nil =>
    constructor
    · intro added
      cases added
      exact ⟨[], .nil, by simp [listedSets], distinct⟩
    · rintro ⟨_, ⟨⟩, rfl, -⟩
      simp [addSets, listedSets]
  | cons set rest ih =>
    rw [addSets, Except.bind_eq_ok]
    constructor
    · rintro ⟨middle, added, added'⟩
      obtain ⟨built, gives, rfl, distinct⟩ := (addSet_eq_ok distinct).1 added
      obtain ⟨builts, others, rfl, distinct⟩ := (ih distinct).1 added'
      refine ⟨built :: builts, .cons gives others, ?_, distinct⟩
      simp [listedSets]
    · rintro ⟨_, _ | ⟨gives, others⟩, rfl, distinct'⟩
      next built builts =>
      -- The ids up to the first set are among all ids.
      have distinct'' : ((before.tokens ++ built).map (·.id)).Nodup := by
        rw [List.flatten_cons, ← List.append_assoc, List.map_append] at distinct'
        exact distinct'.of_append_left
      refine ⟨_, (addSet_eq_ok distinct).2 ⟨built, gives, rfl, distinct''⟩, ?_⟩
      refine (ih distinct'').2 ⟨builts, others, ?_, distinct'⟩
      simp [listedSets]

/-- What is parsed are the tokens of all nodes, in order. -/
theorem parseTokens_eq_ok {sets : List RawSet} {parsed : Parsed} :
    parseTokens sets = .ok parsed ↔
      ∃ builts, List.Forall₂ RawSet.Gives sets builts ∧
        parsed = ⟨builts.flatten, listedSets sets builts⟩ ∧
        (builts.flatten.map (·.id)).Nodup := by
  have none : (Parsed.tokens ⟨[], []⟩ |>.map (·.id)).Nodup := .nil
  unfold parseTokens
  rw [addSets_eq_ok none]
  constructor
  · rintro ⟨builts, gives, rfl, distinct⟩
    exact ⟨builts, gives, rfl, distinct⟩
  · rintro ⟨builts, gives, rfl, distinct⟩
    exact ⟨builts, gives, rfl, distinct⟩

/-! ## How sets are refused -/

/-- A failure that names a fault of the source. -/
def IsLoad (failure : Failure) : Prop :=
  ∃ fault file token, failure = .load fault file token

theorem isLoad_of_addNodes {before : List Token} {nodes : List Node} {failure : Failure}
    (failed : addNodes slug file before nodes = .error failure) : IsLoad failure := by
  induction nodes generalizing before with
  | nil => cases failed
  | cons node rest ih =>
    rw [addNodes] at failed
    split at failed
    · cases failed
      exact ⟨_, _, _, rfl⟩
    · split at failed
      · cases failed
        exact ⟨_, _, _, rfl⟩
      · exact ih failed

theorem isLoad_of_addSet {before : Parsed} {failure : Failure}
    (failed : addSet slug file data before = .error failure) : IsLoad failure := by
  unfold addSet at failed
  split at failed
  · rcases Except.bind_eq_error.1 failed with failed | ⟨_, _, last⟩
    · exact isLoad_of_addNodes failed
    · cases last
  · cases failed
    exact ⟨_, _, _, rfl⟩

theorem isLoad_of_parseTokens {sets : List RawSet} {failure : Failure}
    (failed : parseTokens sets = .error failure) : IsLoad failure := by
  suffices refused : ∀ before, addSets before sets = .error failure → IsLoad failure from
    refused _ failed
  clear failed
  induction sets with
  | nil => exact fun _ failed => by cases failed
  | cons set rest ih =>
    intro before failed
    rcases Except.bind_eq_error.1 failed with failed | ⟨after, _, failed⟩
    · exact isLoad_of_addSet failed
    · exact ih after failed

end Adding

end Source

end DesignTokens
