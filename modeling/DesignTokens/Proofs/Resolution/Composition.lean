import DesignTokens.Proofs.Resolution.Cycles

/-!
# Static resolution is compositional

The chain of open tokens stops cycles and does nothing else. Where references lead to an end, a
value computed while other tokens are open is the value of the token by itself
(`answer_valueAt_chain`). A text that is resolved is the text with each reference replaced by what
it stands for (`outcome_resolve_eq_ok`), and a token whose text has a reference has the value of
its text (`outcome_value_eq_ok`).
-/

namespace DesignTokens

open Inquiry Relation

variable {library : Library} {theme : Option String} {s : Substitution}

/-! ## The open tokens do not matter -/

/-- No token in reach of `u` is open. -/
def Clear (library : Library) (theme : Option String) (chain : List String) (u : Token) : Prop :=
  ∀ v, ReflTransGen (Refers library theme) u v → v.id ∉ chain

theorem mem_of_reachable {u v : Token} (here : u ∈ library.tokens)
    (reaches : ReflTransGen (Refers library theme) u v) : v ∈ library.tokens := by
  cases reaches with
  | refl => exact here
  | tail _ refers => exact refers.mem

/-- When a token that leads to an end is opened, nothing in reach of its references is open. -/
theorem Clear.next {chain : List String} {u v : Token} (clear : Clear library theme chain u)
    (here : u ∈ library.tokens) (ends : Ends library theme u) (refers : Refers library theme u v) :
    Clear library theme (chain ++ [u.id]) v := by
  intro w reaches already
  rcases List.mem_append.1 already with already | already
  · exact clear w (.head refers reaches) already
  · -- A token in reach with the id of `u` is `u`, and would close a cycle.
    have same := Library.eq_of_id_eq (mem_of_reachable refers.mem reaches) here
      (List.mem_singleton.1 already)
    subst same
    exact ends.not_cycle (.head' refers reaches)

/-- Where references lead to an end and nothing in reach is open, the chain does not matter. -/
theorem answer_valueAt_chain {room room' : Nat} {chain chain' : List String} {nested : Bool}
    {u : Token} (here : u ∈ library.tokens) (ends : Ends library s.theme u)
    (opens : Opens library chain) (opens' : Opens library chain')
    (enough : library.tokens.length ≤ room + chain.length)
    (enough' : library.tokens.length ≤ room' + chain'.length)
    (clear : Clear library s.theme chain u) (clear' : Clear library s.theme chain' u) :
    answer library (s.valueAt room chain nested u) =
      answer library (s.valueAt room' chain' nested u) := by
  have new := clear u .refl
  have new' := clear' u .refl
  induction room generalizing room' chain chain' nested u with
  | zero => exact absurd (opens.mem_of_full (by omega) here) new
  | succ room ih =>
    cases room' with
    | zero => exact absurd (opens'.mem_of_full (by omega) here) new'
    | succ room' =>
      refine answer_valueAt_congr new new' fun v refers => ?_
      have longer : (chain ++ [u.id]).length = chain.length + 1 := List.length_append
      have longer' : (chain' ++ [u.id]).length = chain'.length + 1 := List.length_append
      have clear := clear.next here ends refers
      have clear' := clear'.next here ends refers
      exact ih refers.mem (ends.inv refers) (opens.snoc here new) (opens'.snoc here new')
        (by omega) (by omega) clear clear' (clear v .refl) (clear' v .refl)

/-! ## What a reference stands for -/

/-- What a reference stands for in static form: the value by itself of the token that the name
finds, or the broken word when the name finds nothing or a bundle. -/
inductive StandsFor (library : Library) (theme : Option String) (name : String) : String → Prop
  | token {u : Token} {text : String} : library.find theme name = .ok (some u) →
      u.isBundle = false →
      outcome library ((library.substitution .static theme).value true u) = .ok text →
      StandsFor library theme name text
  | nothing : library.find theme name = .ok none → StandsFor library theme name brokenWord
  | bundle {u : Token} : library.find theme name = .ok (some u) → u.isBundle = true →
      StandsFor library theme name brokenWord

theorem outcome_reference_eq_ok {name text : String} :
    outcome library ((library.substitution .static theme).reference
      ((library.substitution .static theme).value true) name) = .ok text ↔
      StandsFor library theme name text := by
  rw [outcome_reference Library.substitution_method, Library.substitution_theme]
  constructor
  · intro computed
    cases found : library.find theme name with
    | error failure => rw [found] at computed; cases computed
    | ok token =>
      rw [found] at computed
      cases token with
      | none => cases computed; exact .nothing found
      | some u =>
        cases bundle : u.isBundle with
        | true =>
          simp only [bundle, if_true] at computed
          cases computed
          exact .bundle found bundle
        | false =>
          simp only [bundle, Bool.false_eq_true, if_false] at computed
          exact .token found bundle computed
  · rintro (⟨found, single, computed⟩ | found | ⟨found, bundle⟩)
    · rw [found]
      simpa [single] using computed
    · rw [found]
    · rw [found]
      simp [bundle]

/-- A text is resolved to the text in which each reference is replaced by what it stands for. -/
theorem outcome_resolve_eq_ok {text result : String} :
    outcome library ((library.substitution .static theme).resolve text) = .ok result ↔
      ∃ value : String → String,
        (∀ name ∈ Reference.names text, StandsFor library theme name (value name)) ∧
          result = Reference.replaceIn value text := by
  constructor
  · intro resolved
    have computed := Reference.exists_of_outcome_substituteIn_eq_ok resolved
    choose! value computed using computed
    refine ⟨value, fun name named => outcome_reference_eq_ok.1 (computed name named), ?_⟩
    have replaced := Reference.outcome_substituteIn computed
    exact Except.ok.inj (resolved.symm.trans replaced)
  · rintro ⟨value, stands, rfl⟩
    exact Reference.outcome_substituteIn fun name named =>
      outcome_reference_eq_ok.2 (stands name named)

/-- A text that is one reference is resolved to what that stands for. -/
theorem outcome_resolve_of_pieces {raw name text : String}
    (only : Reference.pieces raw.toList = [.reference name.toList])
    (stands : StandsFor library theme name text) :
    outcome library ((library.substitution .static theme).resolve raw) = .ok text := by
  have replaced := Reference.replaceIn_of_pieces only fun _ => text
  refine outcome_resolve_eq_ok.2 ⟨fun _ => text, ?_, replaced.symm⟩
  rw [Reference.names_of_pieces only]
  simpa using stands

/-- Something stands for a name exactly when finding it does not fail and a token that is found has
a value by itself. -/
theorem exists_standsFor_iff {name : String} :
    (∃ text, StandsFor library theme name text) ↔
      ∃ found, library.find theme name = .ok found ∧
        ∀ u, found = some u → u.isBundle = false →
          ∃ text, outcome library ((library.substitution .static theme).value true u) =
            .ok text := by
  constructor
  · rintro ⟨text, ⟨found, single, computed⟩ | found | ⟨found, bundle⟩⟩
    · refine ⟨_, found, ?_⟩
      rintro _ same _
      cases same
      exact ⟨text, computed⟩
    · exact ⟨none, found, nofun⟩
    · refine ⟨_, found, ?_⟩
      rintro _ same single
      cases same
      rw [bundle] at single
      cases single
  · rintro ⟨found, finds, computed⟩
    cases found with
    | none => exact ⟨brokenWord, .nothing finds⟩
    | some u =>
      cases single : u.isBundle with
      | true => exact ⟨brokenWord, .bundle finds single⟩
      | false =>
        obtain ⟨text, computed⟩ := computed u rfl single
        exact ⟨text, .token finds single computed⟩

/-! ## The value of a token with a reference -/

/-- The value of a token from its resolved text: a color gets its call of `rgb` unless it is nested
or has one, and then arithmetic gets its `calc`. -/
def finished (kind : TokenKind) (nested : Bool) (text : String) : String :=
  let colored :=
    if kind = .color ∧ nested = false ∧ startsWithRgb text = false then "rgb(" ++ text ++ ")"
    else text
  if Calc.isExpression colored then "calc(" ++ colored ++ ")" else colored

theorem finished_eq (kind : TokenKind) (nested : Bool) (text : String) :
    finished kind nested text =
      wrapCalc (if kind = .color ∧ nested = false then wrapRgb text else text) := by
  unfold finished wrapCalc wrapRgb rgbCall
  cases startsWithRgb text <;> simp

theorem wrapCalc_of_not_isExpression {text : String} (other : Calc.isExpression text = false) :
    wrapCalc text = text := by
  rw [wrapCalc, other]
  rfl

/-- An open token whose text has a reference has the value of its expanded text. -/
theorem outcome_openValue_plain {expand : String → Inquiry String} {t : Token}
    {raw value : String} {nested : Bool} (plain : t.value = .plain raw)
    (occurs : Reference.occursIn raw = true) :
    outcome library (Substitution.openValue expand t nested) = .ok value ↔
      ∃ text, outcome library (expand raw) = .ok text ∧ value = finished t.kind nested text := by
  unfold Substitution.openValue
  rw [plain]
  constructor
  · intro computed
    obtain ⟨colored, computed, last⟩ := outcome_bind_eq_ok.1 computed
    rw [Substitution.plainValue, if_pos occurs] at computed
    obtain ⟨text, expanded, computed⟩ := outcome_bind_eq_ok.1 computed
    rw [← apply_ite pure, outcome_pure] at computed
    cases computed
    cases last
    exact ⟨text, expanded, (finished_eq _ _ _).symm⟩
  · rintro ⟨text, expanded, rfl⟩
    rw [finished_eq]
    refine outcome_bind_eq_ok.2 ⟨_, ?_, rfl⟩
    rw [Substitution.plainValue, if_pos occurs]
    refine outcome_bind_eq_ok.2 ⟨text, expanded, ?_⟩
    rw [← apply_ite pure, outcome_pure]

/-- A text is resolved alike whether or not tokens are open that its references do not reach. -/
theorem answer_expandAt_of_clear {chain : List String} {raw : String} {room : Nat}
    (opens : Opens library chain) (enough : library.tokens.length ≤ room + chain.length)
    (enough' : library.tokens.length ≤ s.room)
    (refs : ∀ name ∈ Reference.names raw, ∀ u, library.find s.theme name = .ok (some u) →
      u.isBundle = false → Ends library s.theme u ∧ Clear library s.theme chain u) :
    answer library (s.expandAt room chain raw) = answer library (s.resolve raw) := by
  refine Reference.answer_substituteIn_congr fun name named => ?_
  refine answer_reference_congr fun u found single => ?_
  obtain ⟨ends, clear⟩ := refs name named u found single
  have here := Library.mem_tokens_of_find found
  exact answer_valueAt_chain here ends opens .nil enough enough' clear
    fun _ _ => List.not_mem_nil

/-- When the references of a token lead to an end, its text is resolved alike whether or not the
token is open. -/
theorem answer_expandAt_of_ends {t : Token} {raw : String} {room : Nat}
    (here : t ∈ library.tokens) (ends : Ends library s.theme t) (text : t.rawText? = some raw)
    (enough : library.tokens.length ≤ room + 1) (enough' : library.tokens.length ≤ s.room) :
    answer library (s.expandAt room [t.id] raw) = answer library (s.resolve raw) := by
  have opens : Opens library [t.id] := Opens.nil.snoc here List.not_mem_nil
  refine answer_expandAt_of_clear opens enough enough' fun name named u found single => ?_
  have refers : Refers library s.theme t u := ⟨raw, name, text, named, found, single⟩
  have alone : Clear library s.theme [] t := fun _ _ => List.not_mem_nil
  exact ⟨ends.inv refers, alone.next here ends refers⟩

/-- The references of a text that is resolved lead to an end, whichever tokens are open. -/
theorem ends_of_outcome_expandAt (static : s.method = .static) {chain : List String}
    {raw name result : String} {room : Nat} {u : Token}
    (expanded : outcome library (s.expandAt room chain raw) = .ok result)
    (named : name ∈ Reference.names raw) (found : library.find s.theme name = .ok (some u))
    (single : u.isBundle = false) : Ends library s.theme u := by
  obtain ⟨_, computed⟩ := Reference.exists_of_outcome_substituteIn_eq_ok expanded name named
  rw [outcome_reference static, found] at computed
  simp only [single, Bool.false_eq_true, if_false] at computed
  exact ends_of_outcome_valueAt static computed

/-- When the text of a token is resolved, if it has a reference, the references lead to an end. -/
theorem ends_of_resolves {t : Token} {raw : String} (text : t.rawText? = some raw)
    (resolves : Reference.occursIn raw = true → ∃ result,
      outcome library ((library.substitution .static theme).resolve raw) = .ok result) :
    Ends library theme t := by
  refine ⟨_, ?_⟩
  rintro u ⟨raw', name, text', named, found, single⟩
  cases text.symm.trans text'
  obtain ⟨_, resolved⟩ := resolves (Reference.occursIn_iff.2 ⟨name, named⟩)
  exact ends_of_outcome_expandAt Library.substitution_method resolved named found single

/-- A token has the value that it has when its text is resolved by itself. -/
theorem outcome_value_eq_ok_iff_open {t : Token} {value : String} {nested : Bool}
    (here : t ∈ library.tokens) :
    outcome library ((library.substitution .static theme).value nested t) = .ok value ↔
      outcome library (Substitution.openValue (library.substitution .static theme).resolve t
        nested) = .ok value := by
  have some : library.tokens.length ≠ 0 := (List.length_pos_of_mem here).ne'
  obtain ⟨room, full⟩ := Nat.exists_eq_succ_of_ne_zero some
  have opened : (library.substitution .static theme).value nested t =
      Substitution.openValue ((library.substitution .static theme).expandAt room [t.id]) t
        nested := by
    show Substitution.valueAt _ library.tokens.length [] nested t = _
    rw [full, Substitution.valueAt, if_neg List.not_mem_nil]
    rfl
  -- The two sides differ in their chains: `[t.id]` in the value, none in the text by itself.
  have same (ends : Ends library theme t) :
      outcome library ((library.substitution .static theme).value nested t) =
        outcome library (Substitution.openValue (library.substitution .static theme).resolve t
          nested) := by
    rw [opened]
    refine outcome_congr (answer_openValue_congr fun text raw => ?_)
    exact answer_expandAt_of_ends here ends raw full.le (Nat.le_refl _)
  constructor
  · intro computed
    have ends := ends_of_outcome_valueAt (s := library.substitution .static theme) rfl computed
    rwa [same ends] at computed
  · intro computed
    obtain ⟨raw, text, resolves⟩ := outcome_openValue_eq_ok computed
    rw [same (ends_of_resolves text resolves)]
    exact computed

/-- A token whose text has a reference has the value of its text. -/
theorem outcome_value_eq_ok {t : Token} {raw value : String} {nested : Bool}
    (here : t ∈ library.tokens) (plain : t.value = .plain raw)
    (occurs : Reference.occursIn raw = true) :
    outcome library ((library.substitution .static theme).value nested t) = .ok value ↔
      ∃ text, outcome library ((library.substitution .static theme).resolve raw) = .ok text ∧
        value = finished t.kind nested text :=
  (outcome_value_eq_ok_iff_open here).trans (outcome_openValue_plain plain occurs)

/-- In static form a token is written as its value, and a color gets its call of `rgb`. -/
theorem outcome_cssValue_eq_ok {t : Token} {result : String} :
    outcome library ((library.substitution .static theme).cssValue t) = .ok result ↔
      ∃ value, outcome library ((library.substitution .static theme).value false t) = .ok value ∧
        result = Substitution.wrapColor t.kind value := by
  constructor
  · intro written
    obtain ⟨value, computed, last⟩ := outcome_bind_eq_ok.1 written
    cases last
    exact ⟨value, computed, rfl⟩
  · rintro ⟨value, computed, rfl⟩
    exact outcome_bind_eq_ok.2 ⟨value, computed, rfl⟩

/-- Static resolution is compositional. A text is resolved exactly when, for each of its references,
finding the token does not fail and a token with a single value has one by itself, and then each
reference is replaced by what it stands for. A token whose text has a reference has a value exactly
when its text is resolved, and its value is the resolved text with its calls around it. -/
theorem static_resolution_compositional (library : Library) (theme : Option String) :
    let s := library.substitution .static theme
    (∀ text,
      ((∃ result, outcome library (s.resolve text) = .ok result) ↔
        ∀ name ∈ Reference.names text, ∃ found, library.find theme name = .ok found ∧
          ∀ u, found = some u → u.isBundle = false →
            ∃ value, outcome library (s.value true u) = .ok value) ∧
      ∀ result, outcome library (s.resolve text) = .ok result ↔
        ∃ value : String → String,
          (∀ name ∈ Reference.names text, StandsFor library theme name (value name)) ∧
            result = Reference.replaceIn value text) ∧
    ∀ t ∈ library.tokens, ∀ raw, t.value = .plain raw → Reference.occursIn raw = true →
      ∀ nested value, outcome library (s.value nested t) = .ok value ↔
        ∃ text, outcome library (s.resolve raw) = .ok text ∧
          value = finished t.kind nested text := by
  refine ⟨fun text => ⟨?_, fun result => outcome_resolve_eq_ok⟩, ?_⟩
  · constructor
    · rintro ⟨result, resolved⟩ name named
      obtain ⟨value, stands, -⟩ := outcome_resolve_eq_ok.1 resolved
      exact exists_standsFor_iff.1 ⟨_, stands name named⟩
    · intro finds
      have stands : ∀ name ∈ Reference.names text, ∃ text, StandsFor library theme name text :=
        fun name named => exists_standsFor_iff.2 (finds name named)
      choose! value stands using stands
      exact ⟨_, outcome_resolve_eq_ok.2 ⟨value, stands, rfl⟩⟩
  · intro t here raw plain occurs nested value
    exact outcome_value_eq_ok here plain occurs

/-- A token that doubles another. -/
def scale : Library :=
  .ofTokens [.spacing "s.base" "base" "8px", .spacing "s.double" "double" "{base} * 2"] (by decide)

theorem static_resolution_scale :
    outcome scale ((scale.substitution .static none).value false
      (.spacing "s.double" "double" "{base} * 2")) = .ok "calc(8px * 2)" := by
  have here : Token.spacing "s.double" "double" "{base} * 2" ∈ scale.tokens :=
    List.mem_cons_of_mem _ List.mem_cons_self
  refine ((static_resolution_compositional scale none).2 _ here _ rfl ?_ false _).2 ?_
  · decide +kernel
  · refine ⟨"8px * 2", ?_, ?_⟩
    · decide +kernel
    · decide +kernel

end DesignTokens
