import DesignTokens.Proofs.Rendering.Questions
import DesignTokens.Proofs.Session.Memory

/-!
# Questions one after another

A session answers questions in any order, failed ones among them, and remembers on the way. Each
reply has the outcome that the question has in a new session, and the same warnings, apart from
those about shared names (`reply_independent_of_history`). Those are left for each theme once, by
the first question that has the index of its names worked out.
-/

namespace DesignTokens

namespace Session

variable {library : Library} {session : Session}

theorem askAll_cons (session : Session) (query : Query) (rest : List Query) :
    session.askAll (query :: rest) =
      ((session.ask query).1 :: ((session.ask query).2.askAll rest).1,
        ((session.ask query).2.askAll rest).2) := rfl

theorem askAll_append (session : Session) (first second : List Query) :
    session.askAll (first ++ second) =
      ((session.askAll first).1 ++ ((session.askAll first).2.askAll second).1,
        ((session.askAll first).2.askAll second).2) := by
  induction first generalizing session with
  | nil => rfl
  | cons query rest ih =>
    rw [List.cons_append, askAll_cons, ih, askAll_cons]
    rfl

/-- Every question has its reply. -/
theorem length_askAll (session : Session) (queries : List Query) :
    (session.askAll queries).1.length = queries.length := by
  induction queries generalizing session with
  | nil => rfl
  | cons query rest ih => exact congrArg (· + 1) (ih _)

namespace Coherent

/-- The reply to a question is the answer of the library. -/
theorem ask (coherent : session.Coherent library) (query : Query) :
    session.Replies library (query.inquiry library) (session.ask query) := by
  unfold Session.ask
  rw [coherent.same]
  exact coherent.run (query.asksUnder_inquiry library)

theorem askAll (coherent : session.Coherent library) (queries : List Query) :
    (session.askAll queries).2.Coherent library := by
  induction queries generalizing session with
  | nil => exact coherent
  | cons query rest ih => exact ih (coherent.ask query).coherent

/-- The themes whose index is worked out in a run are those that the questions look into. -/
theorem indexed_askAll (coherent : session.Coherent library) (queries : List Query) :
    (session.askAll queries).2.indexed =
      (queries.flatMap fun query => (query.inquiry library).indexes library).foldl remember
        session.indexed := by
  induction queries generalizing session with
  | nil => rfl
  | cons query rest ih =>
    rw [List.flatMap_cons, List.foldl_append, ← (coherent.ask query).indexed]
    exact ih (coherent.ask query).coherent

/-- In a run, the warnings about the shared names of each theme are left in one piece. -/
theorem blocks_askAll (coherent : session.Coherent library) (queries : List Query) :
    ∃ built, (session.askAll queries).2.indexed = session.indexed ++ built ∧
      library.BlocksOf built ((session.askAll queries).1.flatMap (·.notes)) := by
  induction queries generalizing session with
  | nil => exact ⟨[], (List.append_nil _).symm, .nil⟩
  | cons query rest ih =>
    have replies := coherent.ask query
    obtain ⟨built, grown, blocks⟩ := replies.blocks
    obtain ⟨others, more, behind⟩ := ih replies.coherent
    refine ⟨built ++ others, ?_, blocks.append behind⟩
    rw [← List.append_assoc, ← grown]
    exact more

end Coherent

/-- The session after some questions to a library. -/
def after (library : Library) (before : List Query) : Session :=
  ((start library).askAll before).2

theorem coherent_after (library : Library) (before : List Query) :
    (after library before).Coherent library :=
  (coherent_start library).askAll before

theorem nodup_indexed_after (library : Library) (before : List Query) :
    (after library before).indexed.Nodup := by
  unfold after
  rw [(coherent_start library).indexed_askAll]
  exact nodup_foldl_remember .nil

/-- Whatever was asked before, two computations on two libraries have one outcome, and they leave the
same warnings, those about shared names apart. -/
def RepliesAlike {α : Type} (A B : Library) (x y : Inquiry α) : Prop :=
  ∀ before before' : List Query,
    ((after A before).run x).1.withoutShared = ((after B before').run y).1.withoutShared

/-- Computations with one answer are replied to alike. -/
theorem repliesAlike_of_answer_eq {α : Type} {A B : Library} {x y : Inquiry α}
    {themes themes' : Option String → Prop} (asks : x.AsksUnder themes)
    (asks' : y.AsksUnder themes') (same : x.answer A = y.answer B) : RepliesAlike A B x y := by
  intro before before'
  rw [((coherent_after A before).run asks).answer, ((coherent_after B before').run asks').answer]
  exact same

/-- A new session has worked out the index of those themes that the question looks into. -/
theorem indexed_ask_start (library : Library) (query : Query) :
    ((start library).ask query).2.indexed =
      ((query.inquiry library).indexes library).foldl remember [] :=
  ((coherent_start library).ask query).indexed

end Session

open Session in
/-- Replies do not depend on what was asked before, and warnings about shared names are left once.

* A question in a sequence has the outcome that it has in a new session, and leaves the same
  warnings, those about shared names apart.
* It has the index of names worked out for the themes for which it has so in a new session, without
  those whose index was worked out before. For each of these themes it leaves the warnings about the
  shared names in one piece, also when it fails afterwards, and it leaves no others about shared
  names.
* So in the whole sequence these warnings are left once for each theme whose index any question has
  worked out. -/
theorem reply_independent_of_history (library : Library) :
    (∀ (before : List Query) (query : Query) (behind : List Query),
      let reply := (after library before).ask query
      let first := (start library).ask query
      let built := first.2.indexed.filter fun theme => theme ∉ (after library before).indexed
      ((start library).askAll (before ++ query :: behind)).1[before.length]? = some reply.1 ∧
      reply.1.outcome = first.1.outcome ∧
      reply.1.notes.filter (fun warning => !warning.isSharedName) =
        first.1.notes.filter (fun warning => !warning.isSharedName) ∧
      reply.2.indexed = (after library before).indexed ++ built ∧ reply.2.indexed.Nodup ∧
      library.BlocksOf built reply.1.notes) ∧
    ∀ queries : List Query,
      let run := (start library).askAll queries
      run.2.indexed.Nodup ∧ library.BlocksOf run.2.indexed (run.1.flatMap (·.notes)) ∧
      ∀ theme, theme ∈ run.2.indexed ↔
        ∃ query ∈ queries, theme ∈ ((start library).ask query).2.indexed := by
  refine ⟨fun before query behind => ?_, fun queries => ⟨?_, ?_, fun theme => ?_⟩⟩
  · have replies := (coherent_after library before).ask query
    have fresh := (coherent_start library).ask query
    have same := replies.answer.trans fresh.answer.symm
    obtain ⟨grown, blocks⟩ := replies.grown
    rw [← indexed_ask_start] at grown blocks
    have outcome := congrArg Noted.outcome same
    have own := congrArg Noted.notes same
    refine ⟨?_, outcome, own, grown, ?_, blocks⟩
    · have place := length_askAll (start library) before
      rw [askAll_append, List.getElem?_append_right (Nat.le_of_eq place), place, Nat.sub_self,
        askAll_cons]
      rfl
    · rw [replies.indexed]
      exact nodup_foldl_remember (nodup_indexed_after library before)
  · exact nodup_indexed_after library queries
  · obtain ⟨built, grown, blocks⟩ := (coherent_start library).blocks_askAll queries
    rw [grown]
    exact blocks
  · show theme ∈ (after library queries).indexed ↔ _
    unfold after
    rw [(coherent_start library).indexed_askAll, mem_foldl_remember, List.mem_flatMap]
    simp only [indexed_ask_start, mem_foldl_remember]
    exact ⟨fun met => met.elim nofun fun met => met.imp fun _ there => ⟨there.1, .inr there.2⟩,
      fun ⟨query, asked, met⟩ => .inr ⟨query, asked, met.resolve_left nofun⟩⟩

end DesignTokens
