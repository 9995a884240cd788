import DesignTokens.Proofs.Library.Names
import DesignTokens.Proofs.Resolution.Questions
import DesignTokens.Session
import Mathlib.Data.List.Induction
import Mathlib.Data.List.Nodup

/-!
# What a session remembers

A session keeps the active tokens and the name indexes that it has worked out. It is coherent when
they are those of its library. A coherent session stays coherent, and what it replies is the answer
of the library together with warnings about shared names (`Coherent.run`):

* the outcome and all other warnings are those of `Inquiry.answer`, whatever is remembered;
* the warnings about the shared names of a theme are left when the index of its names is worked out,
  all in one piece, and the themes whose index is worked out are put behind those before them.
-/

namespace DesignTokens

/-- The reply without the warnings about shared names. -/
def Noted.withoutShared {α : Type} (reply : Noted Failure Warning α) : Noted Failure Warning α :=
  ⟨reply.notes.filter fun warning => !warning.isSharedName, reply.outcome⟩

namespace Library

/-- The warnings about the names that the active tokens of a theme share. -/
def sharedWarnings (library : Library) (theme : Option String) : List Warning :=
  match library.nameIndex theme with
  | .ok index => index.warnings
  | .error _ => []

/-- Notes with the warnings about the shared names of some themes: those of one theme after those of
another, each in one piece, with other notes before, between and behind. -/
inductive BlocksOf (library : Library) : List (Option String) → List Warning → Prop
  | nil : BlocksOf library [] []
  | note {themes : List (Option String)} {notes : List Warning} {warning : Warning} :
      warning.isSharedName = false → BlocksOf library themes notes →
      BlocksOf library themes (warning :: notes)
  | block {themes : List (Option String)} {notes : List Warning} (theme : Option String) :
      BlocksOf library themes notes →
      BlocksOf library (theme :: themes) (library.sharedWarnings theme ++ notes)

variable {library : Library}

theorem isSharedName_of_mem_sharedWarnings {theme : Option String} {warning : Warning}
    (there : warning ∈ library.sharedWarnings theme) : warning.isSharedName = true := by
  unfold sharedWarnings at there
  split at there
  · obtain ⟨entry, -, rfl⟩ := List.mem_map.1 there
    rfl
  · cases there

theorem sharedWarnings_of_ok {theme : Option String} {index : NameIndex}
    (indexed : library.nameIndex theme = .ok index) :
    library.sharedWarnings theme = index.warnings := by
  unfold sharedWarnings
  rw [indexed]

theorem sharedWarnings_of_error {theme : Option String} {failure : Failure}
    (failed : library.nameIndex theme = .error failure) : library.sharedWarnings theme = [] := by
  unfold sharedWarnings
  rw [failed]

theorem filter_sharedWarnings (theme : Option String) :
    (library.sharedWarnings theme).filter (fun warning => !warning.isSharedName) = [] := by
  refine List.filter_eq_nil_iff.2 fun warning there => ?_
  simp [isSharedName_of_mem_sharedWarnings there]

theorem BlocksOf.append {themes themes' : List (Option String)} {notes notes' : List Warning}
    (first : library.BlocksOf themes notes) (second : library.BlocksOf themes' notes') :
    library.BlocksOf (themes ++ themes') (notes ++ notes') := by
  induction first with
  | nil => exact second
  | note clear _ ih => exact .note clear ih
  | block theme _ ih =>
    rw [List.append_assoc]
    exact .block theme ih

/-- Without any shared name there is no warning of one. -/
theorem BlocksOf.filter_eq {themes : List (Option String)} {notes : List Warning}
    (blocks : library.BlocksOf themes notes)
    (none : ∀ theme ∈ themes, library.sharedWarnings theme = []) :
    notes.filter (fun warning => !warning.isSharedName) = notes := by
  induction blocks with
  | nil => rfl
  | note clear _ ih =>
    rw [List.filter_cons_of_pos (by rw [clear]; rfl), ih none]
  | block theme _ ih =>
    rw [none theme List.mem_cons_self, List.nil_append]
    exact ih fun other there => none other (List.mem_cons_of_mem _ there)

end Library

/-! ## Themes in the order in which they are met -/

/-- Puts a theme behind the others, unless it is among them. -/
def remember (known : List (Option String)) (theme : Option String) : List (Option String) :=
  if theme ∈ known then known else known ++ [theme]

theorem remember_of_mem {known : List (Option String)} {theme : Option String}
    (already : theme ∈ known) : remember known theme = known := if_pos already

theorem remember_of_not_mem {known : List (Option String)} {theme : Option String}
    (new : theme ∉ known) : remember known theme = known ++ [theme] := if_neg new

theorem mem_remember {known : List (Option String)} {theme other : Option String} :
    other ∈ remember known theme ↔ other ∈ known ∨ other = theme := by
  by_cases already : theme ∈ known
  · rw [remember_of_mem already]
    exact ⟨.inl, fun either => either.elim id fun same => same ▸ already⟩
  · rw [remember_of_not_mem already, List.mem_append, List.mem_singleton]

theorem nodup_remember {known : List (Option String)} {theme : Option String}
    (distinct : known.Nodup) : (remember known theme).Nodup := by
  by_cases already : theme ∈ known
  · rwa [remember_of_mem already]
  · rw [remember_of_not_mem already]
    exact List.nodup_append_comm.1 (List.nodup_cons.2 ⟨already, distinct⟩)

theorem nodup_foldl_remember {known themes : List (Option String)} (distinct : known.Nodup) :
    (themes.foldl remember known).Nodup := by
  induction themes generalizing known with
  | nil => exact distinct
  | cons theme rest ih => exact ih (nodup_remember distinct)

theorem mem_foldl_remember {known themes : List (Option String)} {theme : Option String} :
    theme ∈ themes.foldl remember known ↔ theme ∈ known ∨ theme ∈ themes := by
  induction themes generalizing known with
  | nil => simp
  | cons first rest ih =>
    rw [List.foldl_cons, ih, mem_remember, List.mem_cons, or_assoc]

/-- What is remembered behind `known` is what is remembered from the start, without `known`. -/
theorem foldl_remember (known themes : List (Option String)) :
    themes.foldl remember known =
      known ++ (themes.foldl remember []).filter fun theme => theme ∉ known := by
  -- From the end, since a theme is remembered or not by all those before it.
  induction themes using List.reverseRecOn with
  | nil => simp
  | append_singleton before theme ih =>
    have met : theme ∈ before.foldl remember known ↔
        theme ∈ known ∨ theme ∈ before.foldl remember [] := by
      rw [mem_foldl_remember, mem_foldl_remember]
      simp
    rw [List.foldl_concat, List.foldl_concat]
    by_cases old : theme ∈ before.foldl remember []
    · rw [remember_of_mem (met.2 (.inr old)), remember_of_mem old, ih]
    · rw [remember_of_not_mem old, List.filter_append]
      by_cases already : theme ∈ known
      · rw [remember_of_mem (met.2 (.inl already)), ih]
        simp [already]
      · rw [remember_of_not_mem fun there => (met.1 there).elim already old, ih]
        simp [already]

/-- The themes whose index of names a computation looks into, in order. -/
def Inquiry.indexes {α : Type} (library : Library) : Inquiry α → List (Option String)
  | .done _ => []
  | .fail _ => []
  | .warn _ next => indexes library next
  | .active theme next =>
    match library.activeTokens theme with
    | .ok tokens => indexes library (next tokens)
    | .error _ => []
  | .shared theme next =>
    match library.nameIndex theme with
    | .ok index => theme :: indexes library (next index.shared)
    | .error _ => []
  | .find theme name next =>
    match library.nameIndex theme with
    | .ok index =>
      theme ::
        match index.find library.strictNames name with
        | .ok token => indexes library (next token)
        | .error _ => []
    | .error _ => []

theorem Inquiry.AsksUnder.of_mem_indexes {α : Type} {library : Library} {x : Inquiry α}
    {themes : Option String → Prop} (asks : x.AsksUnder themes) {theme : Option String}
    (there : theme ∈ x.indexes library) : themes theme := by
  induction asks with
  | done a => cases there
  | fail clear => cases there
  | warn clear _ ih => exact ih there
  | active asked _ ih =>
    rw [Inquiry.indexes] at there
    split at there
    · exact ih _ there
    · cases there
  | shared asked _ ih =>
    rw [Inquiry.indexes] at there
    split at there
    · rcases List.mem_cons.1 there with rfl | there
      · exact asked
      · exact ih _ there
    · cases there
  | find asked _ ih =>
    rw [Inquiry.indexes] at there
    split at there
    · rcases List.mem_cons.1 there with rfl | there
      · exact asked
      · split at there
        · exact ih _ there
        · cases there
    · cases there

namespace Session

variable {α : Type} {library : Library} {session : Session}

/-- The themes whose index of names is remembered, in the order in which they were worked out. -/
def indexed (session : Session) : List (Option String) :=
  session.names.map (·.1)

/-- What is remembered is what the library says. -/
structure Coherent (session : Session) (library : Library) : Prop where
  same : session.library = library
  active : ∀ theme tokens, session.active.lookup theme = some tokens →
    library.activeTokens theme = .ok tokens
  names : ∀ theme index, session.names.lookup theme = some index →
    library.nameIndex theme = .ok index

theorem coherent_start (library : Library) : (start library).Coherent library :=
  ⟨rfl, nofun, nofun⟩

theorem lookup_concat {β : Type} {known : List (Option String × β)} {theme other : Option String}
    {old new : β} (found : (known ++ [(theme, new)]).lookup other = some old) :
    known.lookup other = some old ∨ other = theme ∧ old = new := by
  rw [List.lookup_append] at found
  cases before : known.lookup other with
  | some older =>
    rw [before] at found
    exact .inl found
  | none =>
    rw [before, Option.none_or, List.lookup_cons] at found
    split at found
    next same => exact .inr ⟨beq_iff_eq.1 same, (Option.some.inj found).symm⟩
    next => cases found

theorem mem_indexed_iff {theme : Option String} :
    theme ∈ session.indexed ↔ ∃ index, session.names.lookup theme = some index := by
  unfold indexed
  rw [← Option.isSome_iff_exists, ← Option.ne_none_iff_isSome, Ne, List.lookup_eq_none_iff]
  simp

/-! ## Single questions -/

namespace Coherent

/-- The active tokens are those of the library, remembered or not. -/
theorem activeTokens (coherent : session.Coherent library) (theme : Option String) :
    ∃ later, session.activeTokens theme = (Noted.lift (library.activeTokens theme), later) ∧
      later.Coherent library ∧ later.indexed = session.indexed := by
  unfold Session.activeTokens
  cases remembered : session.active.lookup theme with
  | some tokens =>
    rw [coherent.active theme tokens remembered]
    exact ⟨session, rfl, coherent, rfl⟩
  | none =>
    rw [coherent.same]
    cases actives : library.activeTokens theme with
    | error failure => exact ⟨_, rfl, coherent, rfl⟩
    | ok tokens =>
      refine ⟨_, rfl, ⟨rfl, fun other old found => ?_, coherent.names⟩, rfl⟩
      rcases lookup_concat found with found | ⟨rfl, rfl⟩
      · exact coherent.active other old found
      · exact actives

/-- The index of names is that of the library. When it is worked out for the first time, the
warnings about its shared names are left, and its theme is remembered. -/
theorem nameIndex_of_ok (coherent : session.Coherent library) {theme : Option String}
    {index : NameIndex} (indexed : library.nameIndex theme = .ok index) :
    ∃ later, session.nameIndex theme =
        (⟨if theme ∈ session.indexed then [] else library.sharedWarnings theme, .ok index⟩, later) ∧
      later.Coherent library ∧ later.indexed = remember session.indexed theme := by
  unfold Session.nameIndex
  cases remembered : session.names.lookup theme with
  | some old =>
    have already := mem_indexed_iff.2 ⟨old, remembered⟩
    cases (coherent.names theme old remembered).symm.trans indexed
    rw [if_pos already, remember_of_mem already]
    exact ⟨session, rfl, coherent, rfl⟩
  | none =>
    have new : theme ∉ session.indexed := by
      intro there
      obtain ⟨old, found⟩ := mem_indexed_iff.1 there
      rw [remembered] at found
      cases found
    obtain ⟨tokens, actives, rfl⟩ := Except.map_eq_ok.1 indexed
    obtain ⟨later, worked, coherent, kept⟩ := coherent.activeTokens theme
    rw [if_neg new, remember_of_not_mem new, worked, actives, Library.sharedWarnings_of_ok indexed]
    refine ⟨_, rfl, ⟨coherent.same, coherent.active, fun other old found => ?_⟩, ?_⟩
    · rcases lookup_concat found with found | ⟨rfl, rfl⟩
      · exact coherent.names other old found
      · exact indexed
    · show (later.names ++ [(theme, NameIndex.of tokens)]).map (·.1) = _
      rw [List.map_append, ← kept]
      rfl

/-- An index that the library does not have is not remembered. -/
theorem nameIndex_of_error (coherent : session.Coherent library) {theme : Option String}
    {failure : Failure} (failed : library.nameIndex theme = .error failure) :
    ∃ later, session.nameIndex theme = (Noted.fail failure, later) ∧
      later.Coherent library ∧ later.indexed = session.indexed := by
  unfold Session.nameIndex
  cases remembered : session.names.lookup theme with
  | some old => cases (coherent.names theme old remembered).symm.trans failed
  | none =>
    obtain ⟨later, worked, coherent, kept⟩ := coherent.activeTokens theme
    rw [worked, Except.map_eq_error.1 failed]
    exact ⟨later, rfl, coherent, kept⟩

end Coherent

/-! ## Whole computations -/

/-- What a session on `library` replies to a computation: the answer of the library, together with
the warnings about the shared names of the themes whose index is worked out. -/
structure Replies (session : Session) (library : Library) (x : Inquiry α) (reply : Reply α) :
    Prop where
  answer : reply.1.withoutShared = x.answer library
  coherent : reply.2.Coherent library
  indexed : reply.2.indexed = (x.indexes library).foldl remember session.indexed
  blocks : ∃ built, reply.2.indexed = session.indexed ++ built ∧
    library.BlocksOf built reply.1.notes

/-- The themes whose index is worked out are those that a new session looks into, without those
known before. The warnings about the names that they share are left. -/
theorem Replies.grown {x : Inquiry α} {reply : Reply α} (replies : session.Replies library x reply) :
    let built := ((x.indexes library).foldl remember []).filter (· ∉ session.indexed)
    reply.2.indexed = session.indexed ++ built ∧ library.BlocksOf built reply.1.notes := by
  intro built
  have indexed : reply.2.indexed = session.indexed ++ built := by
    rw [← foldl_remember]
    exact replies.indexed
  obtain ⟨built', grown, blocks⟩ := replies.blocks
  cases List.append_cancel_left (indexed.symm.trans grown)
  exact ⟨indexed, blocks⟩

/-- A reply without notes that ends where it starts. -/
theorem Replies.of_quiet {x : Inquiry α} {outcome : Except Failure α} {later : Session}
    (answer : x.answer library = ⟨[], outcome⟩) (indexes : x.indexes library = [])
    (coherent : later.Coherent library) (kept : later.indexed = session.indexed) :
    session.Replies library x (⟨[], outcome⟩, later) := by
  refine ⟨answer.symm, coherent, ?_, [], ?_, .nil⟩
  · rw [indexes, kept]
    rfl
  · rw [List.append_nil, kept]

/-- A computation goes on in the session after the index of a theme. -/
theorem Replies.of_index {x next : Inquiry α} {theme : Option String} {later : Session}
    {reply : Reply α} (kept : later.indexed = remember session.indexed theme)
    (sameAnswer : x.answer library = next.answer library)
    (sameIndexes : x.indexes library = theme :: next.indexes library)
    (replies : later.Replies library next reply) :
    session.Replies library x
      (⟨(if theme ∈ session.indexed then [] else library.sharedWarnings theme) ++ reply.1.notes,
        reply.1.outcome⟩, reply.2) := by
  obtain ⟨built, grown, blocks⟩ := replies.blocks
  have indexed : reply.2.indexed = (x.indexes library).foldl remember session.indexed := by
    rw [sameIndexes, List.foldl_cons, ← kept]
    exact replies.indexed
  by_cases already : theme ∈ session.indexed
  · -- A remembered index leaves no warnings again.
    rw [remember_of_mem already] at kept
    rw [if_pos already]
    refine ⟨?_, replies.coherent, indexed, built, ?_, blocks⟩
    · rw [sameAnswer]
      exact replies.answer
    · rw [grown, kept]
  · rw [remember_of_not_mem already] at kept
    rw [if_neg already]
    refine ⟨?_, replies.coherent, indexed, theme :: built, ?_, .block theme blocks⟩
    · rw [sameAnswer, ← replies.answer]
      unfold Noted.withoutShared
      rw [List.filter_append, Library.filter_sharedWarnings]
      rfl
    · rw [grown, kept, List.append_assoc]
      rfl

/-- The reply of a coherent session is the answer of its library. -/
theorem Coherent.run {x : Inquiry α} {themes : Option String → Prop} (asks : x.AsksUnder themes)
    (coherent : session.Coherent library) : session.Replies library x (session.run x) := by
  induction asks generalizing session with
  | done a => exact .of_quiet rfl rfl coherent rfl
  | fail clear => exact .of_quiet rfl rfl coherent rfl
  | @warn warning next clear _ ih =>
    obtain ⟨answer, later, indexed, built, grown, blocks⟩ := ih coherent
    refine ⟨?_, later, indexed, built, grown, .note clear blocks⟩
    rw [Inquiry.answer, ← answer]
    show Noted.withoutShared ⟨warning :: _, _⟩ = _
    unfold Noted.withoutShared
    rw [List.filter_cons_of_pos (by rw [clear]; rfl)]
    cases (session.run next).1.outcome <;> rfl
  | @active theme next asked _ ih =>
    obtain ⟨later, worked, coherent, kept⟩ := coherent.activeTokens theme
    rw [Session.run, worked]
    cases actives : library.activeTokens theme with
    | error failure =>
      refine .of_quiet ?_ ?_ coherent kept
      · rw [Inquiry.answer, actives]
        rfl
      · rw [Inquiry.indexes, actives]
    | ok tokens =>
      obtain ⟨answer, coherent, indexed, built, grown, blocks⟩ := ih tokens coherent
      refine ⟨?_, coherent, ?_, built, kept ▸ grown, blocks⟩
      · rw [Inquiry.answer, actives]
        exact answer
      · rw [Inquiry.indexes, actives, ← kept]
        exact indexed
  | @shared theme next asked _ ih =>
    cases indexed : library.nameIndex theme with
    | error failure =>
      obtain ⟨later, worked, coherent, kept⟩ := coherent.nameIndex_of_error indexed
      rw [Session.run, worked]
      refine .of_quiet ?_ ?_ coherent kept
      · rw [Inquiry.answer, indexed]
        rfl
      · rw [Inquiry.indexes, indexed]
    | ok index =>
      obtain ⟨later, worked, coherent, kept⟩ := coherent.nameIndex_of_ok indexed
      rw [Session.run, worked]
      refine .of_index kept ?_ ?_ (ih index.shared coherent)
      · rw [Inquiry.answer, indexed]
      · rw [Inquiry.indexes, indexed]
  | @find theme name next asked _ ih =>
    cases indexed : library.nameIndex theme with
    | error failure =>
      obtain ⟨later, worked, coherent, kept⟩ := coherent.nameIndex_of_error indexed
      have unfound : library.find theme name = .error failure :=
        Except.bind_eq_error.2 (.inl indexed)
      rw [Session.run, worked]
      refine .of_quiet ?_ ?_ coherent kept
      · rw [Inquiry.answer, unfound]
        rfl
      · rw [Inquiry.indexes, indexed]
    | ok index =>
      obtain ⟨later, worked, coherent, kept⟩ := coherent.nameIndex_of_ok indexed
      have found := Library.find_of_nameIndex indexed name
      rw [Session.run, worked]
      simp only [Reply.andThen, coherent.same]
      cases finds : index.find library.strictNames name with
      | error failure =>
        -- The index is worked out and remembered, although the name is refused.
        have stopped : later.Replies library (.fail failure : Inquiry α)
            (Noted.fail failure, later) := .of_quiet rfl rfl coherent rfl
        refine .of_index kept ?_ ?_ stopped
        · rw [Inquiry.answer, Inquiry.answer, found, finds]
        · rw [Inquiry.indexes, Inquiry.indexes, indexed]
          simp only [finds]
      | ok token =>
        refine .of_index kept ?_ ?_ (ih token coherent)
        · rw [Inquiry.answer, found, finds]
        · rw [Inquiry.indexes, indexed]
          simp only [finds]

/-- A computation has the outcome that the library answers, whatever is remembered. -/
theorem Coherent.outcome_run {x : Inquiry α} {themes : Option String → Prop}
    (coherent : session.Coherent library) (asks : x.AsksUnder themes) :
    (session.run x).1.outcome = Inquiry.outcome library x := by
  unfold Inquiry.outcome
  rw [← (coherent.run asks).answer]
  rfl

end Session

end DesignTokens
