import DesignTokens.Proofs.Entries
import DesignTokens.Proofs.Library.Building
import DesignTokens.Proofs.Library.Names
import DesignTokens.Proofs.Session.History

/-!
# Strict names

Strict names refuse a name that several active tokens share, and change nothing else. A library with
strict names and the one that is built from the same parts without them go in step through every
computation, until a name is refused (`conservative_answer`). So they reply alike, unless the reply
is the refusal of a name that is shared under a theme in force
(`strict_names_change_refusals_only`).
-/

namespace DesignTokens

open Inquiry

/-! ## Names in an index -/

namespace NameIndex

theorem nodup_keys_of (tokens : List Token) : (of tokens).keys.Nodup := by
  suffices kept : ∀ index : NameIndex, index.keys.Nodup → (tokens.foldl add index).keys.Nodup from
    kept [] .nil
  induction tokens with
  | nil => exact fun _ distinct => distinct
  | cons token rest ih => exact fun _ distinct => ih _ (Entries.nodup_keys_put _ _ distinct)

/-- A name of several tokens is among the shared names, with all of them. -/
theorem get?_shared {index : NameIndex} {name : String} (distinct : index.keys.Nodup)
    (several : 1 < (index.matching name).length) :
    index.shared.get? name = some (index.matching name) := by
  unfold matching at several ⊢
  cases found : index.get? name with
  | none =>
    rw [found] at several
    exact absurd several (Nat.not_lt_zero 1)
  | some tokens =>
    rw [found] at several
    have kept : (name, tokens) ∈ index.shared :=
      List.mem_filter.2 ⟨Entries.mem_of_get? found, decide_eq_true several⟩
    exact Entries.get?_of_mem (distinct.sublist (List.filter_sublist.map _)) kept

/-- A name of several tokens is refused where names are strict. Every other name is found as where
they are not. -/
theorem find_strict (index : NameIndex) (strict : Bool) (name : String) :
    (1 < (index.matching name).length ∧ index.find strict name =
      .error (.resolve (.ambiguous name ((index.matching name).map (·.id))))) ∨
    index.find strict name = index.find false name ∧ ∃ token, index.find strict name = .ok token := by
  unfold find
  cases index.matching name with
  | nil => exact .inr ⟨rfl, none, rfl⟩
  | cons first others =>
    cases others with
    | nil => exact .inr (by simp)
    | cons second others => cases strict <;> simp

end NameIndex

/-! ## One question -/

namespace Library

variable {library : Library} {theme : Option String}

/-- Several active tokens share a name under a theme, the tokens with these ids. -/
def Shares (library : Library) (theme : Option String) (name : String)
    (candidates : List String) : Prop :=
  2 ≤ candidates.length ∧
    ∃ names tokens, outcome library (sharedNames theme) = .ok names ∧
      names.get? name = some tokens ∧ tokens.map (·.id) = candidates

theorem activeTokens_lenient (theme : Option String) :
    library.lenient.activeTokens theme = library.activeTokens theme := by
  cases theme <;> rfl

theorem nameIndex_lenient (theme : Option String) :
    library.lenient.nameIndex theme = library.nameIndex theme := by
  unfold nameIndex
  rw [activeTokens_lenient]

theorem sharedWarnings_lenient (theme : Option String) :
    library.lenient.sharedWarnings theme = library.sharedWarnings theme := by
  unfold sharedWarnings
  rw [nameIndex_lenient]

theorem isAmbiguous_of_activeTokens {failure : Failure}
    (failed : library.activeTokens theme = .error failure) : failure.isAmbiguous = false := by
  cases theme with
  | none => cases failed
  | some title => exact isAmbiguous_of_theme (Except.map_eq_error.1 failed)

theorem isAmbiguous_of_nameIndex {failure : Failure}
    (failed : library.nameIndex theme = .error failure) : failure.isAmbiguous = false :=
  isAmbiguous_of_activeTokens (Except.map_eq_error.1 failed)

/-- A name that is shared under the theme may be refused. Every other name stands for the token for
which it stands where names may be shared. -/
theorem find_lenient (theme : Option String) (name : String) :
    (∃ candidates, library.find theme name = .error (.resolve (.ambiguous name candidates)) ∧
      library.Shares theme name candidates) ∨
    library.find theme name = library.lenient.find theme name ∧
      ∀ failure, library.find theme name = .error failure → failure.isAmbiguous = false := by
  cases indexed : library.nameIndex theme with
  | error failure =>
    have failed : library.find theme name = .error failure := Except.bind_eq_error.2 (.inl indexed)
    have failed' : library.lenient.find theme name = .error failure :=
      Except.bind_eq_error.2 (.inl ((nameIndex_lenient theme).trans indexed))
    refine .inr ⟨failed.trans failed'.symm, fun other same => ?_⟩
    cases failed.symm.trans same
    exact isAmbiguous_of_nameIndex indexed
  | ok index =>
    have found' := find_of_nameIndex ((nameIndex_lenient theme).trans indexed) name
    rw [find_of_nameIndex indexed name]
    rcases index.find_strict library.strictNames name with ⟨several, refused⟩ | ⟨same, token, found⟩
    · obtain ⟨active, -, rfl⟩ := Except.map_eq_ok.1 indexed
      have shared : outcome library (sharedNames theme) = .ok (NameIndex.of active).shared := by
        rw [outcome_sharedNames, indexed]
        rfl
      exact .inl ⟨_, refused, by rwa [List.length_map], _, _, shared,
        NameIndex.get?_shared (NameIndex.nodup_keys_of active) several, rfl⟩
    · refine .inr ⟨same.trans found'.symm, fun failure failed => ?_⟩
      cases found.symm.trans failed

end Library

/-! ## Whole computations -/

section Computations

variable {α : Type} {library : Library} {themes : Option String → Prop}

/-- What a library answers, against what it answers when names may be shared: the same, or the
refusal of a name that is shared under one of the themes, after the same warnings. -/
inductive Conservative (library : Library) (themes : Option String → Prop) :
    Noted Failure Warning α → Noted Failure Warning α → Prop
  | same {reply : Noted Failure Warning α} :
      (∀ failure, reply.outcome = .error failure → failure.isAmbiguous = false) →
      Conservative library themes reply reply
  | refused {reply other : Noted Failure Warning α} {theme : Option String} {name : String}
      {candidates : List String} : themes theme → library.Shares theme name candidates →
      reply.outcome = .error (.resolve (.ambiguous name candidates)) →
      reply.notes <+: other.notes → Conservative library themes reply other

theorem Conservative.fail {failure : Failure} (clear : failure.isAmbiguous = false) :
    Conservative library themes (Noted.fail failure : Noted Failure Warning α)
      (Noted.fail failure) := by
  refine .same fun other same => ?_
  cases same
  exact clear

/-- A warning that both leave first. -/
theorem Conservative.warn {warning : Warning} {reply other : Noted Failure Warning α}
    (behind : Conservative library themes reply other) :
    Conservative library themes (Noted.note warning >>= fun _ => reply)
      (Noted.note warning >>= fun _ => other) := by
  cases behind with
  | same clear => exact .same clear
  | refused inForce shares refusal first =>
    exact .refused inForce shares refusal ((List.prefix_append_right_inj [warning]).2 first)

/-- What is refused is shared. -/
theorem Conservative.shares {reply other : Noted Failure Warning α} {name : String}
    {candidates : List String} (step : Conservative library themes reply other)
    (refusal : reply.outcome = .error (.resolve (.ambiguous name candidates))) :
    (∃ theme, themes theme ∧ library.Shares theme name candidates) ∧
      reply.notes <+: other.notes := by
  cases step with
  | same clear => cases clear _ refusal
  | refused inForce shares refusal' first =>
    cases refusal'.symm.trans refusal
    exact ⟨⟨_, inForce, shares⟩, first⟩

/-- Without a refusal both answers are the same. -/
theorem Conservative.eq {reply other : Noted Failure Warning α}
    (step : Conservative library themes reply other)
    (admitted : ∀ name candidates,
      reply.outcome ≠ .error (.resolve (.ambiguous name candidates))) : reply = other := by
  cases step with
  | same clear => rfl
  | refused inForce shares refusal first => exact absurd refusal (admitted _ _)

/-- Both libraries go in step until a name is refused. -/
theorem conservative_answer {x : Inquiry α} (asks : x.AsksUnder themes) :
    Conservative library themes (answer library x) (answer library.lenient x) := by
  induction asks with
  | done a => exact .same fun failure failed => by cases failed
  | fail clear => exact .fail clear
  | warn clear _ ih => exact ih.warn
  | @active theme next asked _ ih =>
    rw [answer, answer, Library.activeTokens_lenient]
    cases actives : library.activeTokens theme with
    | error failure => exact .fail (Library.isAmbiguous_of_activeTokens actives)
    | ok tokens => exact ih tokens
  | @shared theme next asked _ ih =>
    rw [answer, answer, Library.nameIndex_lenient]
    cases indexed : library.nameIndex theme with
    | error failure => exact .fail (Library.isAmbiguous_of_nameIndex indexed)
    | ok index => exact ih index.shared
  | @find theme name next asked _ ih =>
    rw [answer, answer]
    rcases library.find_lenient theme name with ⟨candidates, refused, shares⟩ | ⟨same, clear⟩
    · -- The strict library stops here, before either has left more warnings.
      rw [refused]
      exact .refused asked shares rfl List.nil_prefix
    · rw [← same]
      cases found : library.find theme name with
      | error failure => exact .fail (clear failure found)
      | ok token => exact ih token

end Computations

/-! ## Sessions -/

namespace Query

theorem inquiry_lenient (library : Library) (query : Query) :
    query.inquiry library.lenient = query.inquiry library := by
  cases query <;> rfl

end Query

namespace Session

variable {α : Type} {library : Library} {session : Session} {themes : Option String → Prop}

/-- Where no name is shared under the themes asked about, no warning says so. -/
theorem Replies.withoutShared_eq {x : Inquiry α} {reply : Reply α}
    (replies : session.Replies library x reply) (asks : x.AsksUnder themes)
    (none : ∀ theme, themes theme → library.sharedWarnings theme = []) :
    reply.1.withoutShared = reply.1 := by
  obtain ⟨-, blocks⟩ := replies.grown
  unfold Noted.withoutShared
  rw [blocks.filter_eq fun theme there => ?_]
  have met := mem_foldl_remember.1 (List.mem_filter.1 there).1
  exact none theme (asks.of_mem_indexes (met.resolve_left List.not_mem_nil))

end Session

open Session in
/-- Strict names are a conservative check. When a library with strict names is built, so is the one
without them from the same parts, and for every question, whatever was asked before in each:

* when the strict library refuses a name, several active tokens share it under a theme in force, and
  these are the candidates. The warnings up to the refusal are left without strict names too.
* When it does not, the outcomes are the same, whether results or failures, and so are the warnings,
  those about shared names apart.
* When no names are shared under the themes in force, the replies are the same. -/
theorem strict_names_change_refusals_only {tokens : List Token} {sets : List TokenSet}
    {themes : List Theme} {strict : Library}
    (built : Library.build tokens sets themes true = .ok strict) :
    ∃ lenient, Library.build tokens sets themes false = .ok lenient ∧
      ∀ (query : Query) (before before' : List Query),
        let reply := ((after strict before).ask query).1
        let reply' := ((after lenient before').ask query).1
        (∀ name candidates, reply.outcome = .error (.resolve (.ambiguous name candidates)) →
          (∃ theme ∈ query.inForce strict, strict.Shares theme name candidates) ∧
          reply.withoutShared.notes <+: reply'.withoutShared.notes) ∧
        ((∀ name candidates, reply.outcome ≠ .error (.resolve (.ambiguous name candidates))) →
          reply.outcome = reply'.outcome ∧
          reply.withoutShared.notes = reply'.withoutShared.notes) ∧
        ((∀ theme ∈ query.inForce strict, ∀ names,
            outcome strict (sharedNames theme) = .ok names → names = []) →
          reply = reply') := by
  refine ⟨strict.lenient, by rw [Library.build_lenient, built]; rfl, ?_⟩
  intro query before before' reply reply'
  have replies : Replies _ _ _ _ := (coherent_after strict before).ask query
  have replies' := (coherent_after strict.lenient before').ask query
  have asks := query.asksUnder_inquiry strict
  rw [query.inquiry_lenient] at replies'
  have step : Conservative strict (· ∈ query.inForce strict) _ _ := conservative_answer asks
  rw [← replies.answer, ← replies'.answer] at step
  refine ⟨fun name candidates refusal => step.shares refusal, fun admitted => ?_, fun unshared => ?_⟩
  · have same : reply.withoutShared = reply'.withoutShared := step.eq admitted
    have outcomes : reply.withoutShared.outcome = reply'.withoutShared.outcome := by rw [same]
    exact ⟨outcomes, by rw [same]⟩
  · -- A refusal would name a shared name, and there is none.
    have admitted : ∀ name candidates,
        reply.outcome ≠ .error (.resolve (.ambiguous name candidates)) := by
      intro name candidates refusal
      obtain ⟨⟨theme, inForce, -, names, tokens, shared, found, -⟩, -⟩ := step.shares refusal
      rw [unshared theme inForce names shared] at found
      cases found
    have unwarned : ∀ theme, theme ∈ query.inForce strict → strict.sharedWarnings theme = [] := by
      intro theme inForce
      cases indexed : strict.nameIndex theme with
      | error failure => exact Library.sharedWarnings_of_error indexed
      | ok index =>
        have none : index.shared = [] :=
          unshared theme inForce _ (by rw [outcome_sharedNames, indexed]; rfl)
        rw [Library.sharedWarnings_of_ok indexed, NameIndex.warnings, none]
        rfl
    have unwarned' : ∀ theme, theme ∈ query.inForce strict →
        strict.lenient.sharedWarnings theme = [] := by
      intro theme inForce
      rw [Library.sharedWarnings_lenient]
      exact unwarned theme inForce
    calc reply
      _ = reply.withoutShared := (replies.withoutShared_eq asks unwarned).symm
      _ = reply'.withoutShared := step.eq admitted
      _ = reply' := replies'.withoutShared_eq asks unwarned'

/-! ## A name that two tokens share -/

/-- A gap in two sets, and a name of its own. -/
def gaps : List Token :=
  [.spacing "core.gap" "gap" "8px", .spacing "dark.gap" "gap" "1px",
    .spacing "core.wide" "wide" "16px"]

/-- These tokens where names are strict. -/
def strictGaps : Library :=
  { Library.ofTokens gaps (by decide) with strictNames := true }

theorem strict_names_refuse_gap :
    Library.build gaps [] [] true = .ok strictGaps ∧ ∃ lenient,
      Library.build gaps [] [] false = .ok lenient ∧
      ((Session.start strictGaps).ask (.named "gap" none)).1.outcome =
        .error (.resolve (.ambiguous "gap" ["core.gap", "dark.gap"])) ∧
      strictGaps.Shares none "gap" ["core.gap", "dark.gap"] ∧
      ((Session.start lenient).ask (.named "wide" none)).1.outcome =
        .ok (.named (some (.spacing "core.wide" "wide" "16px"))) := by
  have built : Library.build gaps [] [] true = .ok strictGaps := Library.build_self strictGaps
  obtain ⟨lenient, built', replies⟩ := strict_names_change_refusals_only built
  have refused : ((Session.start strictGaps).ask (.named "gap" none)).1.outcome =
      .error (.resolve (.ambiguous "gap" ["core.gap", "dark.gap"])) := by decide +kernel
  have found : ((Session.start strictGaps).ask (.named "wide" none)).1.outcome =
      .ok (.named (some (.spacing "core.wide" "wide" "16px"))) := by decide +kernel
  obtain ⟨⟨theme, inForce, shares⟩, -⟩ := (replies (.named "gap" none) [] []).1 _ _ refused
  have same := (replies (.named "wide" none) [] []).2.1 fun name candidates refusal => by
    cases found.symm.trans refusal
  rw [List.mem_singleton.1 inForce] at shares
  exact ⟨built, lenient, built', refused, shares, same.1.symm.trans found⟩

end DesignTokens
