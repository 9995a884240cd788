import DesignTokens.Proofs.Json.Keys
import DesignTokens.Proofs.Library.Building
import DesignTokens.Proofs.Library.Sets
import DesignTokens.Proofs.Source.Adding
import DesignTokens.Source.Input

/-!
# What is loaded

A library that is loaded is partitioned: its sets list its tokens, one set after another
(`exists_parts_of_load`). Each of its themes is defined in the input, and uses those sets that the
library has and that the definition does not disable, in the order of the definition
(`exists_selection_of_load`).
-/

namespace DesignTokens

/-- The sets of the library that a selection gives a status, in the order of the selection. -/
def Library.setsGiven (library : Library) (word : String) (selected : Entries Data) : List String :=
  (selected.filter fun (name, status) =>
    status.text? = some word && (library.set? name).isSome).map (·.1)

namespace Source

/-! ## What is read -/

section Read

variable {disk : Disk} {path entry : Path} {raw : Raw} {data : Data}

theorem keyed_of_readDocument (read : readDocument disk path = .ok data) : data.Keyed := by
  unfold readDocument at read
  split at read
  · cases read
  · cases read
  · split at read
    · cases read
    · split at read <;> cases read
      next found => exact Json.keyed_of_read found

theorem keyed_of_readIfThere (read : readIfThere disk path = .ok (some data)) : data.Keyed := by
  obtain ⟨present, -, read⟩ := Except.bind_eq_ok.1 read
  split at read
  · obtain ⟨found, read, last⟩ := Except.bind_eq_ok.1 read
    cases last
    exact keyed_of_readDocument read
  · cases read

theorem keyed_nil : (Data.list []).Keyed := .list fun _ there => absurd there List.not_mem_nil

/-- No two sets that are read have one slug, and the tables of the themes have distinct keys. -/
theorem distinct_of_read (read : Source.read disk entry = .ok raw) :
    (raw.sets.map (·.slug)).Nodup ∧ raw.themes.Keyed := by
  obtain ⟨layout, -, read⟩ := Except.bind_eq_ok.1 read
  obtain ⟨present, -, read⟩ := Except.bind_eq_ok.1 read
  split at read
  · cases layout with
    | document =>
      obtain ⟨data, document, read⟩ := Except.bind_eq_ok.1 read
      have keyed := keyed_of_readDocument document
      cases data with
      | table entries =>
        obtain ⟨order, -, read⟩ := Except.bind_eq_ok.1 read
        obtain ⟨sets, -, last⟩ := Except.bind_eq_ok.1 read
        cases last
        refine ⟨Roster.nodup_of _ _, ?_⟩
        cases found : Entries.get? entries "$themes" with
        | none => exact keyed_nil
        | some themes => exact keyed.of_get? found
      | null | boolean | integer | real | text | list | moment => cases read
    | directory =>
      obtain ⟨isDirectory, -, read⟩ := Except.bind_eq_ok.1 read
      split at read
      · obtain ⟨metadata, -, read⟩ := Except.bind_eq_ok.1 read
        obtain ⟨discovered, -, read⟩ := Except.bind_eq_ok.1 read
        obtain ⟨order, -, read⟩ := Except.bind_eq_ok.1 read
        obtain ⟨themes, found, read⟩ := Except.bind_eq_ok.1 read
        obtain ⟨sets, -, last⟩ := Except.bind_eq_ok.1 read
        cases last
        refine ⟨Roster.nodup_of _ _, ?_⟩
        cases themes with
        | none => exact keyed_nil
        | some themes => exact keyed_of_readIfThere found
      · cases read
  · cases read

end Read

/-! ## Themes -/

section Themes

variable {theme : Theme} {known taken : List String}

/-- A status is one of three words. -/
theorem ofData_eq_ok {status : Data} {use : Option Use} :
    Use.ofData status = .ok use ↔ status.text? = some (use.elim disabledWord Use.word) := by
  constructor
  · intro used
    unfold Use.ofData at used
    split at used
    next word =>
      split at used
      next disabled =>
        cases used
        exact congrArg some (beq_iff_eq.1 disabled)
      next =>
        split at used
        next source =>
          cases used
          exact congrArg some (beq_iff_eq.1 source)
        next =>
          split at used
          next enabled =>
            cases used
            exact congrArg some (beq_iff_eq.1 enabled)
          next => cases used
    next => cases used
  · intro word
    cases status with
    | text written =>
      cases word
      rcases use with _ | _ | _ <;> rfl
    | null | boolean | integer | real | list | table | moment => cases word

/-- The use that an entry of a selection puts its set to, unless the set is unknown or disabled. -/
def chosen? (known : List String) : String × Data → Option (String × Use)
  | (name, status) =>
    match Use.ofData status with
    | .ok (some use) => if known.contains name then some (name, use) else none
    | _ => none

theorem selectedSets_eq_ok {name : String} {selected : List (String × Data)}
    {sets : List (String × Use)}
    (parsed : (selectedSets name (some known) selected).outcome = .ok sets) :
    sets = selected.filterMap (chosen? known) ∧
      ∀ entry ∈ selected, ∃ use, Use.ofData entry.2 = .ok use := by
  induction selected generalizing sets with
  | nil =>
    cases parsed
    exact ⟨rfl, fun _ there => absurd there List.not_mem_nil⟩
  | cons entry rest ih =>
    obtain ⟨set, status⟩ := entry
    unfold selectedSets at parsed
    split at parsed
    next => cases parsed
    next disabled =>
      obtain ⟨rfl, each⟩ := ih parsed
      refine ⟨?_, List.forall_mem_cons.2 ⟨⟨_, disabled⟩, each⟩⟩
      rw [List.filterMap_cons_none (by simp [chosen?, disabled])]
    next use used =>
      split at parsed
      next unknown =>
        obtain ⟨_, -, parsed⟩ := Noted.outcome_bind_eq_ok.1 parsed
        obtain ⟨rfl, each⟩ := ih parsed
        refine ⟨?_, List.forall_mem_cons.2 ⟨⟨_, used⟩, each⟩⟩
        rw [List.filterMap_cons_none (by simpa [chosen?, used] using unknown)]
      next there =>
        obtain ⟨others, behind, last⟩ := Noted.outcome_bind_eq_ok.1 parsed
        cases last
        obtain ⟨rfl, each⟩ := ih behind
        refine ⟨?_, List.forall_mem_cons.2 ⟨⟨_, used⟩, each⟩⟩
        have here : chosen? known (set, status) = some (set, use) := by
          simpa [chosen?, used] using there
        rw [List.filterMap_cons_some here]

/-- The input defines a theme of the name, which gives sets these statuses. -/
def Raw.Defines (raw : Raw) (name : String) (selected : Entries Data) : Prop :=
  ∃ definitions, ∃ fields : Entries Data,
    raw.themes = .list definitions ∧ Data.table fields ∈ definitions ∧
    themeName? fields = some name ∧
    (fields.get? "selectedTokenSets").getD (.table []) = .table selected

theorem parseTheme_eq_ok {definition : Data}
    (parsed : (parseTheme (some known) taken definition).outcome = .ok theme) :
    ∃ fields selected : Entries Data,
      definition = .table fields ∧ themeName? fields = some theme.name ∧
      (fields.get? "selectedTokenSets").getD (.table []) = .table selected ∧
      (∀ entry ∈ selected, ∃ use, Use.ofData entry.2 = .ok use) ∧
      theme.sets = Entries.ofList (selected.filterMap (chosen? known)) := by
  unfold parseTheme at parsed
  split at parsed
  next => cases parsed
  next fields isTable =>
    split at parsed
    next => cases parsed
    next name named =>
      split at parsed
      next => cases parsed
      next =>
        split at parsed
        next selected isSelection =>
          obtain ⟨sets, parsed, last⟩ := Noted.outcome_bind_eq_ok.1 parsed
          obtain ⟨rfl, each⟩ := selectedSets_eq_ok parsed
          cases last
          cases definition with
          | table found =>
            cases isTable
            exact ⟨fields, selected, rfl, named, isSelection, each, rfl⟩
          | null | boolean | integer | real | text | list | moment => cases isTable
        next => cases parsed

/-- Each theme comes from a definition. -/
theorem parseThemesFrom_eq_ok {definitions : List Data} {themes : List Theme}
    (parsed : (parseThemesFrom (some known) taken definitions).outcome = .ok themes)
    (there : theme ∈ themes) :
    ∃ definition ∈ definitions, ∃ taken,
      (parseTheme (some known) taken definition).outcome = .ok theme := by
  induction definitions generalizing taken themes with
  | nil =>
    cases parsed
    exact absurd there List.not_mem_nil
  | cons definition rest ih =>
    obtain ⟨first, here, parsed⟩ := Noted.outcome_bind_eq_ok.1 parsed
    obtain ⟨others, behind, last⟩ := Noted.outcome_bind_eq_ok.1 parsed
    cases last
    rcases List.mem_cons.1 there with rfl | there
    · exact ⟨definition, List.mem_cons_self, _, here⟩
    · obtain ⟨other, known, found⟩ := ih behind there
      exact ⟨other, List.mem_cons_of_mem _ known, found⟩

theorem chosen?_eq_some {entry : String × Data} {name : String} {use : Use} :
    chosen? known entry = some (name, use) ↔
      entry.1 = name ∧ entry.2.text? = some use.word ∧ name ∈ known := by
  obtain ⟨set, status⟩ := entry
  have used (use : Use) : Use.ofData status = .ok (some use) ↔ status.text? = some use.word :=
    ofData_eq_ok
  unfold chosen?
  constructor
  · intro chosen
    dsimp only at chosen
    split at chosen
    next use' same =>
      obtain ⟨there, pair⟩ := Option.ite_none_right_eq_some.1 chosen
      cases pair
      exact ⟨rfl, (used _).1 same, List.contains_iff_mem.1 there⟩
    next => cases chosen
  · rintro ⟨rfl, word, there⟩
    dsimp only
    rw [(used use).2 word]
    exact if_pos (List.contains_iff_mem.2 there)

/-- The sets of one use, in the order of the selection. -/
theorem map_filter_chosen (selected : List (String × Data)) (use : Use) :
    ((selected.filterMap (chosen? known)).filter (·.2 = use)).map (·.1) =
      (selected.filter fun (name, status) =>
        status.text? = some use.word && known.contains name).map (·.1) := by
  induction selected with
  | nil => rfl
  | cons entry rest ih =>
    have given : (entry.2.text? = some use.word && known.contains entry.1) = true ↔
        chosen? known entry = some (entry.1, use) := by
      rw [chosen?_eq_some, Bool.and_eq_true, decide_eq_true_iff, List.contains_iff_mem]
      exact ⟨fun both => ⟨rfl, both⟩, And.right⟩
    rw [List.filter_cons]
    cases chosen : chosen? known entry with
    | none =>
      rw [chosen] at given
      have absent : ¬ (entry.2.text? = some use.word && known.contains entry.1) = true :=
        fun both => nomatch given.1 both
      rw [List.filterMap_cons_none chosen, if_neg absent, ih]
    | some pair =>
      obtain ⟨name, use'⟩ := pair
      obtain ⟨rfl, -⟩ := chosen?_eq_some.1 chosen
      rw [List.filterMap_cons_some chosen, List.filter_cons]
      by_cases same : use' = use
      · subst same
        rw [if_pos (decide_eq_true rfl), if_pos (given.2 chosen), List.map_cons, List.map_cons, ih]
      · have other : ¬ decide (use' = use) = true := fun is => same (of_decide_eq_true is)
        rw [if_neg other, if_neg fun both => same ?_, ih]
        rw [chosen] at given
        exact (Prod.mk.inj (Option.some.inj (given.1 both))).2

/-- The sets that are chosen are in the order of the selection. -/
theorem keys_chosen_sublist (selected : List (String × Data)) :
    ((selected.filterMap (chosen? known)).map (·.1)).Sublist (selected.map (·.1)) := by
  induction selected with
  | nil => exact .slnil
  | cons entry rest ih =>
    cases chosen : chosen? known entry with
    | none =>
      rw [List.filterMap_cons_none chosen]
      exact ih.cons _
    | some pair =>
      obtain ⟨name, use⟩ := pair
      obtain ⟨rfl, -⟩ := chosen?_eq_some.1 chosen
      rw [List.filterMap_cons_some chosen]
      exact ih.cons_cons _

end Themes

/-! ## What the library is -/

section Load

variable {disk : Disk} {entry : Path} {strictNames : Bool} {warnings : List Warning}
  {library : Library}

theorem listedSets_names {sets : List RawSet} {builts : List (List Token)}
    (length : sets.length = builts.length) :
    (listedSets sets builts).map (·.name) = sets.map (·.slug) := by
  induction sets generalizing builts with
  | nil => rfl
  | cons set rest ih =>
    obtain ⟨built, others, rfl⟩ := List.exists_cons_of_length_eq_add_one length.symm
    exact congrArg (set.slug :: ·) (ih (Nat.succ.inj length))

/-- The library has the tokens and the sets that were parsed, and its themes were parsed with the
names of these sets. -/
theorem exists_parts_of_load (loaded : load disk entry strictNames = ⟨warnings, .ok library⟩) :
    ∃ raw themes, read disk entry = .ok raw ∧ library.Partitioned ∧
      (parseThemes (some (library.sets.map (·.name))) raw.themes).outcome = .ok themes ∧
      library.themes ⊆ themes := by
  have loaded : (load disk entry strictNames).outcome = .ok library := congrArg Noted.outcome loaded
  obtain ⟨raw, found, loaded⟩ := Noted.outcome_bind_eq_ok.1 loaded
  obtain ⟨parsed, parsing, loaded⟩ := Noted.outcome_bind_eq_ok.1 loaded
  obtain ⟨themes, theming, built⟩ := Noted.outcome_bind_eq_ok.1 loaded
  obtain ⟨builts, gives, rfl, distinct⟩ := parseTokens_eq_ok.1 parsing
  have names := listedSets_names gives.length_eq
  have slugs := (distinct_of_read found).1
  rw [← names] at slugs
  have built : Library.build _ _ themes strictNames = .ok library := built
  unfold Library.build at built
  dsimp only at built
  split at built
  next => cases built
  next =>
    cases built
    refine ⟨raw, themes, found, ?_, ?_, Roster.of_subset _ _⟩
    · unfold Library.Partitioned
      dsimp only
      rw [Roster.of_of_nodup slugs, Roster.of_of_nodup distinct,
        flatMap_listedSets gives.length_eq]
    · dsimp only
      rw [Roster.of_of_nodup slugs]
      exact theming

/-- A theme of the library is defined in the input, with known statuses for distinct sets. It uses
those of them that the library has and that are not disabled. -/
theorem exists_selection_of_load
    {raw : Raw} {themes : List Theme} {theme : Theme} (keyed : raw.themes.Keyed)
    (parsed : (parseThemes (some (library.sets.map (·.name))) raw.themes).outcome = .ok themes)
    (there : theme ∈ themes) :
    ∃ selected, raw.Defines theme.name selected ∧ selected.keys.Nodup ∧
      (∀ entry ∈ selected, ∃ use, Use.ofData entry.2 = .ok use) ∧
      theme.sets = selected.filterMap (chosen? (library.sets.map (·.name))) := by
  unfold parseThemes at parsed
  split at parsed
  next definitions listed =>
    obtain ⟨definition, known, taken, parsed⟩ := parseThemesFrom_eq_ok parsed there
    obtain ⟨fields, selected, rfl, named, isSelection, each, sets⟩ := parseTheme_eq_ok parsed
    have distinct : selected.keys.Nodup := by
      rw [listed] at keyed
      cases found : fields.get? "selectedTokenSets" with
      | none =>
        rw [found] at isSelection
        cases isSelection
        exact .nil
      | some value =>
        rw [found] at isSelection
        cases isSelection
        exact ((keyed.of_mem known).of_get? found).nodup
    refine ⟨selected, ⟨definitions, fields, listed, known, named, isSelection⟩, distinct, each, ?_⟩
    rw [sets]
    exact Entries.ofList_of_nodup (distinct.sublist (keys_chosen_sublist selected))
  next => cases parsed

theorem isSome_set? (library : Library) (name : String) :
    (library.set? name).isSome = (library.sets.map (·.name)).contains name := by
  rw [Bool.eq_iff_iff, List.contains_iff_mem, List.mem_map]
  unfold Library.set? Roster.get?
  rw [List.find?_isSome]
  exact exists_congr fun set => and_congr_right fun _ => beq_iff_eq

variable {theme : Theme} {selected : Entries Data}

theorem setsUsed_eq (sets : theme.sets = selected.filterMap (chosen? (library.sets.map (·.name))))
    (use : Use) : theme.setsUsed use = library.setsGiven use.word selected := by
  unfold Theme.setsUsed Library.setsGiven
  rw [sets, map_filter_chosen]
  simp only [isSome_set?]

/-- The theme uses a set of the library exactly when it gives it a status that is not disabled. -/
theorem mem_activeSets_iff
    (sets : theme.sets = selected.filterMap (chosen? (library.sets.map (·.name))))
    (distinct : selected.keys.Nodup)
    (each : ∀ entry ∈ selected, ∃ use, Use.ofData entry.2 = .ok use) {set : TokenSet}
    (there : set ∈ library.sets) :
    set.name ∈ theme.activeSets ↔
      ∃ status, selected.get? set.name = some status ∧ status.text? ≠ some disabledWord := by
  have known : (library.set? set.name).isSome = true := by rw [Library.set?_of_mem there]; rfl
  have given (use : Use) : set.name ∈ theme.setsUsed use ↔
      ∃ status, selected.get? set.name = some status ∧ status.text? = some use.word := by
    rw [setsUsed_eq sets]
    unfold Library.setsGiven
    rw [List.mem_map]
    constructor
    · rintro ⟨⟨name, status⟩, member, rfl⟩
      obtain ⟨member, both⟩ := List.mem_filter.1 member
      rw [Bool.and_eq_true, decide_eq_true_iff] at both
      exact ⟨status, Entries.get?_of_mem distinct member, both.1⟩
    · rintro ⟨status, found, word⟩
      refine ⟨(set.name, status), List.mem_filter.2 ⟨Entries.mem_of_get? found, ?_⟩, rfl⟩
      rw [Bool.and_eq_true, decide_eq_true_iff]
      exact ⟨word, known⟩
  unfold Theme.activeSets Theme.sourceSets Theme.enabledSets
  rw [List.mem_append, given, given]
  constructor
  · rintro (⟨status, found, word⟩ | ⟨status, found, word⟩)
    · exact ⟨status, found, by rw [word]; decide⟩
    · exact ⟨status, found, by rw [word]; decide⟩
  · rintro ⟨status, found, notDisabled⟩
    obtain ⟨use, used⟩ := each _ (Entries.mem_of_get? found)
    have word := ofData_eq_ok.1 used
    rcases use with _ | _ | _
    · exact absurd word notDisabled
    · exact .inl ⟨status, found, word⟩
    · exact .inr ⟨status, found, word⟩

end Load

end Source

end DesignTokens
