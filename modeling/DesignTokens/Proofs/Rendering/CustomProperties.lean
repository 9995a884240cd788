import DesignTokens.Proofs.Kebab
import DesignTokens.Proofs.Rendering.Agreement
import DesignTokens.Proofs.Resolution.Wrapping
import DesignTokens.Proofs.Session.StrictNames
import DesignTokens.Proofs.Source.Reading

/-!
# Custom properties and the tokens that they stand for

The stylesheet of a theme declares one custom property for each active token with a single value
(`Stylesheet.forall₂_declares`), and a reference becomes the look-up of one. Both go by the name of
the token in kebab case, and two names may be the same there: `a.b` and `a-b` are. So a custom
property may be declared twice although no name is shared (`not_each_declared_once`). It stands for
one token when the names of the active tokens stay apart in kebab case (`declared_by_kebab`).
-/

namespace DesignTokens

open Inquiry

/-! ## Names that are not shared -/

/-- What is in a list of one item at most is the item. -/
theorem eq_singleton_of_mem {α : Type} {items : List α} {item : α} (one : items.length ≤ 1)
    (there : item ∈ items) : items = [item] := by
  obtain ⟨only, rfl⟩ := List.length_eq_one_iff.1
    (Nat.le_antisymm one (List.length_pos_of_mem there))
  rw [List.mem_singleton.1 there]

theorem length_filter_name (tokens : List Token) (name : String) :
    (tokens.filter (·.name = name)).length = (tokens.map (·.name)).count name := by
  rw [List.count_eq_countP, List.countP_map, List.countP_eq_length_filter]
  rfl

/-- Where no name is shared, the names of the tokens are distinct. -/
theorem NameIndex.nodup_names_of_shared {tokens : List Token} (unshared : (of tokens).shared = []) :
    (tokens.map (·.name)).Nodup := by
  refine List.nodup_iff_count_le_one.2 fun name => ?_
  by_contra several
  rw [← length_filter_name, ← matching_of] at several
  have found := get?_shared (nodup_keys_of tokens) (Nat.lt_of_not_le several)
  rw [unshared] at found
  cases found

/-- An active token is found by its name when no other one has it. -/
theorem Library.find_of_nodup {library : Library} {theme : Option String} {active : List Token}
    (actives : library.activeTokens theme = .ok active) (distinct : (active.map (·.name)).Nodup)
    {t : Token} (there : t ∈ active) : library.find theme t.name = .ok (some t) := by
  refine find_of_sharing actives (eq_singleton_of_mem ?_ ?_) (.inr rfl)
  · rw [length_filter_name]
    exact List.nodup_iff_count_le_one.1 distinct _
  · exact List.mem_filter.2 ⟨there, decide_eq_true rfl⟩

/-! ## Declarations -/

/-- The declarations of a custom property, in their order. -/
def Stylesheet.declarationsOf (sheet : Stylesheet) (key : String) : List Declaration :=
  sheet.customProperties.filter (·.name = key)

/-- The active tokens with a single value. -/
def Library.singlesUnder (library : Library) (theme : Theme) : List Token :=
  (library.tokensUnder theme).filter (!·.isBundle)

/-- The declaration is that of the token, with its value. -/
structure DeclaresToken (library : Library) (s : Substitution) (t : Token) (d : Declaration) :
    Prop where
  name : d.name = kebab t.name
  value : outcome library (s.cssValue t) = .ok d.value

/-- The name is that of every token whose name is the same in kebab case. -/
def SeparateName (tokens : List Token) (name : String) : Prop :=
  ∀ t ∈ tokens, kebab t.name = kebab name → t.name = name

instance (tokens : List Token) (name : String) : Decidable (SeparateName tokens name) :=
  inferInstanceAs (Decidable (∀ t ∈ tokens, kebab t.name = kebab name → t.name = name))

section Declarations

variable {library : Library} {s : Substitution}

theorem Contribution.declares_of_ofToken {t : Token} {c : Contribution}
    (computed : outcome library (ofToken s t) = .ok c) :
    t.isBundle = true ∧ c.declaration? = none ∨
      t.isBundle = false ∧ ∃ d, c.declaration? = some d ∧ DeclaresToken library s t d := by
  unfold ofToken at computed
  unfold Token.isBundle
  cases form : t.value with
  | bundle bundle =>
    rw [form] at computed
    obtain ⟨_, -, last⟩ := outcome_bind_eq_ok.1 computed
    cases last
    exact .inl ⟨rfl, rfl⟩
  | plain raw =>
    rw [form] at computed
    obtain ⟨value, here, last⟩ := outcome_bind_eq_ok.1 computed
    cases last
    exact .inr ⟨rfl, _, rfl, rfl, here⟩
  | shadow layers =>
    rw [form] at computed
    obtain ⟨value, here, last⟩ := outcome_bind_eq_ok.1 computed
    cases last
    exact .inr ⟨rfl, _, rfl, rfl, here⟩

theorem Contribution.forall₂_declares {tokens : List Token} {contributions : List Contribution}
    (each : List.Forall₂ (fun t c => outcome library (ofToken s t) = .ok c) tokens contributions) :
    List.Forall₂ (DeclaresToken library s) (tokens.filter (!·.isBundle))
      (contributions.filterMap (·.declaration?)) := by
  induction each with
  | nil => exact .nil
  | cons here _ ih =>
    rcases declares_of_ofToken here with ⟨bundle, none⟩ | ⟨single, d, some, declares⟩
    · simpa [bundle, none] using ih
    · simpa [single, some] using ⟨declares, ih⟩

/-- A stylesheet declares one custom property for each token with a single value, in order. -/
theorem Stylesheet.forall₂_declares {selector : String} {tokens : List Token} {sheet : Stylesheet}
    (computed : outcome library (ofTokens s selector tokens) = .ok sheet) :
    sheet.selector = selector ∧
      List.Forall₂ (DeclaresToken library s) (tokens.filter (!·.isBundle))
        sheet.customProperties := by
  obtain ⟨contributions, each, last⟩ := outcome_bind_eq_ok.1 computed
  cases last
  exact ⟨rfl, Contribution.forall₂_declares (outcome_mapM_eq_ok each)⟩

/-- A custom property is declared by the tokens whose names become its name, in their order. -/
theorem Stylesheet.declarationsOf_of_declares {tokens : List Token} {sheet : Stylesheet}
    (each : List.Forall₂ (DeclaresToken library s) tokens sheet.customProperties) (key : String) :
    List.Forall₂ (DeclaresToken library s) (tokens.filter (kebab ·.name = key))
      (sheet.declarationsOf key) := by
  refine List.rel_filter (fun t d declares => ?_) each
  show decide (kebab t.name = key) = true ↔ decide (d.name = key) = true
  rw [declares.name]

end Declarations

/-! ## Names in kebab case -/

section Separation

variable {tokens : List Token}

/-- Of tokens with distinct names, one at most is left under a name in kebab case when those that
are left have separate names. -/
theorem length_filter_kebab_le_one_iff (distinct : (tokens.map (·.name)).Nodup) (key : String) :
    (tokens.filter (kebab ·.name = key)).length ≤ 1 ↔
      ∀ t ∈ tokens, kebab t.name = key → SeparateName tokens t.name := by
  constructor
  · intro one t there named u other same
    have here : t ∈ tokens.filter (kebab ·.name = key) := List.mem_filter.2 ⟨there, by simp [named]⟩
    have alike : u ∈ tokens.filter (kebab ·.name = key) :=
      List.mem_filter.2 ⟨other, by simp [same, named]⟩
    rw [eq_singleton_of_mem one here, List.mem_singleton] at alike
    rw [alike]
  · intro separate
    cases found : tokens.filter (kebab ·.name = key) with
    | nil => exact Nat.zero_le 1
    | cons t rest =>
      have here : t ∈ tokens.filter (kebab ·.name = key) := found ▸ List.mem_cons_self
      obtain ⟨there, named⟩ : t ∈ tokens ∧ kebab t.name = key := by
        simpa using List.mem_filter.1 here
      have same : tokens.filter (kebab ·.name = key) = tokens.filter (·.name = t.name) := by
        refine List.filter_congr fun u other => decide_eq_decide.2
          ⟨fun alike => ?_, fun alike => ?_⟩
        · exact separate t there named u other (alike.trans named.symm)
        · rw [alike, named]
      rw [← found, same, length_filter_name]
      exact List.nodup_iff_count_le_one.1 distinct _

/-- A token is the only one of its name in kebab case when the name is separate. -/
theorem filter_kebab_eq_singleton_iff (distinct : (tokens.map (·.name)).Nodup) {t : Token}
    (there : t ∈ tokens) :
    tokens.filter (kebab ·.name = kebab t.name) = [t] ↔ SeparateName tokens t.name := by
  constructor
  · intro only
    have one : (tokens.filter (kebab ·.name = kebab t.name)).length ≤ 1 := by rw [only]; rfl
    exact (length_filter_kebab_le_one_iff distinct _).1 one t there rfl
  · intro separate
    refine eq_singleton_of_mem ?_ (List.mem_filter.2 ⟨there, decide_eq_true rfl⟩)
    refine (length_filter_kebab_le_one_iff distinct _).2 fun u other same => ?_
    rwa [separate u other same]

end Separation

/-- Where no name is shared under a theme, its stylesheet declares one custom property for each
active token with a single value, in their order. Under a name in kebab case stand the values of all
tokens that have it, so a custom property is declared at most once exactly when the names of its
tokens are separate. The look-up that a reference becomes stands for the token of the name and for
no other one exactly when this name is separate. -/
theorem declared_by_kebab (library : Library) (scope : ThemeScope) {theme : Theme}
    (there : theme ∈ library.themes)
    (unshared : outcome library (sharedNames (some theme.name)) = .ok []) {file : String × String}
    (rendered : outcome library (Rendering.themeFile library .css scope theme) = .ok file) :
    let s := library.substitution .customProperties (some theme.name)
    let singles := library.singlesUnder theme
    ∃ sheet : Stylesheet, file = (Rendering.fileName .css theme, sheet.text) ∧
      sheet.selector = scope.selector theme ∧
      List.Forall₂ (DeclaresToken library s) singles sheet.customProperties ∧
      (∀ name, List.Forall₂ (DeclaresToken library s) (singles.filter (kebab ·.name = kebab name))
        (sheet.declarationsOf (kebab name))) ∧
      (∀ key, (sheet.declarationsOf key).length ≤ 1 ↔
        ∀ t ∈ singles, kebab t.name = key → SeparateName singles t.name) ∧
      (∀ t ∈ singles, library.find (some theme.name) t.name = .ok (some t) ∧
        ((∃ d, sheet.declarationsOf (kebab t.name) = [d] ∧ DeclaresToken library s t d) ↔
          SeparateName singles t.name)) ∧
      ∀ raw, outcome library (s.resolve raw) = .ok (Reference.replaceIn variableCall raw) := by
  intro s singles
  obtain ⟨fileName, text⟩ := Rendering.outcome_themeFile_eq_ok there rendered
  obtain ⟨sheet, computed, last⟩ := outcome_bind_eq_ok.1 text
  obtain ⟨selector, each⟩ := Stylesheet.forall₂_declares computed
  have each : List.Forall₂ (DeclaresToken library s) singles sheet.customProperties := each
  have under := Stylesheet.declarationsOf_of_declares each
  have actives := Library.activeTokens_of_mem there
  have shared : (NameIndex.of (library.tokensUnder theme)).shared = [] := by
    rw [outcome_sharedNames, Library.nameIndex_of_active actives] at unshared
    exact Except.ok.inj unshared
  have names := NameIndex.nodup_names_of_shared shared
  have distinct : (singles.map (·.name)).Nodup := names.sublist (List.filter_sublist.map _)
  have atMostOne (key : String) : (sheet.declarationsOf key).length ≤ 1 ↔
      ∀ t ∈ singles, kebab t.name = key → SeparateName singles t.name := by
    rw [← (under key).length_eq]
    exact length_filter_kebab_le_one_iff distinct key
  refine ⟨sheet, Prod.ext fileName (Except.ok.inj last).symm, selector, each, fun name => under _,
    atMostOne, fun t single => ⟨?_, ?_, fun separate => ?_⟩, fun raw =>
      outcome_resolve_customProperties⟩
  · exact Library.find_of_nodup actives names (List.mem_filter.1 single).1
  · rintro ⟨d, only, -⟩
    exact (atMostOne _).1 (by rw [only]; rfl) t single rfl
  · have alone := under (kebab t.name)
    rw [(filter_kebab_eq_singleton_iff distinct single).2 separate] at alone
    obtain ⟨d, _, declares, none, only⟩ := List.forall₂_cons_left_iff.1 alone
    cases none
    exact ⟨d, only, declares⟩

/-! ## Two names that are one in kebab case -/

/-- Two names that are the same in kebab case, and a reference to the first. -/
def mergedText : String :=
  "\x7b\"$themes\":[\x7b\"name\":\"T\",\"selectedTokenSets\":\x7b\"s\":\"source\"\x7d\x7d]," ++
    "\"s\":\x7b\"a\":\x7b\"b\":\x7b\"type\":\"spacing\",\"value\":\"1px\"\x7d\x7d," ++
    "\"a-b\":\x7b\"type\":\"spacing\",\"value\":\"2px\"\x7d," ++
    "\"c\":\x7b\"type\":\"spacing\",\"value\":\"\x7ba.b\x7d\"\x7d\x7d\x7d"

def mergedDocument : Entries Data :=
  [("$themes", .list [.table [("name", .text "T"),
      ("selectedTokenSets", .table [("s", .text "source")])]]),
    ("s", .table [("a", .table [("b", .table [("type", .text "spacing"), ("value", .text "1px")])]),
      ("a-b", .table [("type", .text "spacing"), ("value", .text "2px")]),
      ("c", .table [("type", .text "spacing"), ("value", .text "\x7ba.b\x7d")])])]

def mergedDisk : Disk :=
  ⟨.directory [("tokens.json", .file mergedText.toUTF8)], []⟩

/-- The library of the document. -/
def mergedNames : Library where
  tokens := [.spacing "s.a.b" "a.b" "1px", .spacing "s.a-b" "a-b" "2px",
    .spacing "s.c" "c" "\x7ba.b\x7d"]
  sets := [⟨"s", ["s.a.b", "s.a-b", "s.c"]⟩]
  themes := [.ofSets "T" [("s", .source)]]
  strictNames := false
  idsDistinct := by decide
  setsDistinct := by decide
  themesDistinct := by decide
  listed := by decide

namespace mergedNames

set_option maxRecDepth 20000 in
theorem reads : Source.Reads mergedText.toUTF8 (.table mergedDocument) :=
  Source.reads_of_text (by decide +kernel) (by cbv)

theorem loaded :
    Source.load mergedDisk (.ofText "tokens.json") false = ⟨[], .ok mergedNames⟩ :=
  Source.load_of_reads false (by decide) rfl reads rfl

theorem unshared : outcome mergedNames (sharedNames (some "T")) = .ok [] := by
  decide +kernel

/-- The stylesheet of the theme. -/
def sheet : Stylesheet :=
  ⟨":root", [⟨"a-b", "1px"⟩, ⟨"a-b", "2px"⟩, ⟨"c", "var(--a-b)"⟩], []⟩

theorem rendered :
    outcome mergedNames (Rendering.themeFile mergedNames .css .root
      (.ofSets "T" [("s", .source)])) = .ok ("T.css", sheet.text) := by
  decide +kernel

end mergedNames

/-- The names `a.b` and `a-b` are declared as one custom property, and `c` is declared by itself. -/
theorem declared_by_kebab_mergedNames :
    outcome mergedNames (sharedNames (some "T")) = .ok [] ∧
      ∃ sheet : Stylesheet, sheet.text = mergedNames.sheet.text ∧
        ¬ (sheet.declarationsOf "a-b").length ≤ 1 ∧
        ∃ d, sheet.declarationsOf "c" = [d] ∧ d.value = "var(--a-b)" := by
  refine ⟨mergedNames.unshared, ?_⟩
  obtain ⟨sheet, file, -, -, -, atMostOne, tokens, -⟩ := declared_by_kebab mergedNames .root
    List.mem_cons_self mergedNames.unshared mergedNames.rendered
  have singles : mergedNames.singlesUnder (.ofSets "T" [("s", .source)]) = mergedNames.tokens := by
    decide +kernel
  rw [singles] at atMostOne tokens
  refine ⟨sheet, (Prod.ext_iff.1 file).2.symm, fun one => ?_, ?_⟩
  · have separate := (atMostOne "a-b").1 one (.spacing "s.a.b" "a.b" "1px") (by decide)
      (by decide +kernel)
    exact absurd separate (by decide +kernel)
  · have stands := (tokens (.spacing "s.c" "c" "\x7ba.b\x7d") (by decide)).2.2 (by decide +kernel)
    obtain ⟨d, only, declares⟩ := stands
    have name : kebab (Token.spacing "s.c" "c" "\x7ba.b\x7d").name = "c" := by decide +kernel
    have value : outcome mergedNames ((mergedNames.substitution .customProperties
        (some "T")).cssValue (.spacing "s.c" "c" "\x7ba.b\x7d")) = .ok "var(--a-b)" := by
      decide +kernel
    rw [name] at only
    exact ⟨d, only, Except.ok.inj (declares.value.symm.trans value)⟩

/-- A custom property may be declared twice although no two active tokens share a name. -/
theorem not_each_declared_once :
    ¬ ∀ (disk : Disk) (entry : Path) (strictNames : Bool) (warnings : List Warning)
        (library : Library) (scope : ThemeScope) (theme : Theme) (sheet : Stylesheet),
        Source.load disk entry strictNames = ⟨warnings, .ok library⟩ → theme ∈ library.themes →
        outcome library (sharedNames (some theme.name)) = .ok [] →
        outcome library (Stylesheet.ofTokens
          (library.substitution .customProperties (some theme.name)) (scope.selector theme)
          (library.tokensUnder theme)) = .ok sheet →
        ∀ key, (sheet.declarationsOf key).length ≤ 1 := by
  intro once
  have computed : outcome mergedNames (Stylesheet.ofTokens
      (mergedNames.substitution .customProperties (some "T")) ":root"
      (mergedNames.tokensUnder (.ofSets "T" [("s", .source)]))) = .ok mergedNames.sheet := by
    decide +kernel
  have one := once _ _ _ _ mergedNames .root _ _ mergedNames.loaded List.mem_cons_self
    mergedNames.unshared computed "a-b"
  exact absurd one (by decide)

end DesignTokens
