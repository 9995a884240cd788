import DesignTokens.Proofs.Calc.Prefixes

/-!
# What a diagnosis points at

An error of the scanner is about the characters in front of which the scan stops
(`fragment_of_extent`, `exists_stop`), and an error of the check is about one of the tokens or about
all of them (`check_error`). Tokens are pieces of the text and know their places, so in both cases
the fragment of a diagnosis stands at its position in the text (`diagnosis_points_at_fragment`).

Where the scan stops, the text in front of the error is cut into the tokens that have been cut off
by then (`cutOff`; without an error these are all tokens, `cutOff_of_scanAt`). No token is there
only because of a character behind it: what stops a token in the whole text stops it in its
beginning too (`Stops.of_append`).
-/

namespace DesignTokens.Calc

/-! ## Where the scan stops -/

/-- The tokens that are cut off a text at `pos`, up to its end or to an error. -/
def cutOff (pos : Nat) (text : List Char) : List Token :=
  match text with
  | [] => []
  | c :: rest =>
    match extent c rest with
    | .error _ => []
    | .ok (kind, n) => ⟨kind, c :: rest.take n, pos⟩ :: cutOff (pos + n + 1) (rest.drop n)
termination_by text.length
decreasing_by simp only [List.length_drop, List.length_cons]; omega

theorem cutOff_cons {pos : Nat} {c : Char} {rest : List Char} {kind : Kind} {n : Nat}
    (found : extent c rest = .ok (kind, n)) :
    cutOff pos (c :: rest) =
      ⟨kind, c :: rest.take n, pos⟩ :: cutOff (pos + n + 1) (rest.drop n) := by
  rw [cutOff, found]

/-- Where no error stops the scan, these are all tokens. -/
theorem cutOff_of_scanAt {pos : Nat} {text : List Char} {tokens : List Token}
    (scanned : scanAt pos text = .ok tokens) : cutOff pos text = tokens := by
  fun_induction scanAt pos text generalizing tokens with
  | case1 pos =>
    cases scanned
    rw [cutOff]
  | case2 pos c rest fault fragment found => cases scanned
  | case3 pos c rest kind n found ih =>
    obtain ⟨others, behind, last⟩ := Except.bind_eq_ok.1 scanned
    cases last
    rw [cutOff_cons found, ih behind]

theorem Stops.of_append {kind : Kind} {text front behind : List Char}
    (stops : Stops kind text (front ++ behind)) : Stops kind text front := by
  cases front with
  | nil => exact stops_nil
  | cons c front => cases kind <;> exact stops

/-- The text of an error starts where the scan stops, and has a character. -/
theorem fragment_of_extent {c : Char} {rest fragment : List Char} {fault : ScanFault}
    (stopped : extent c rest = .error (fault, fragment)) :
    fragment ≠ [] ∧ fragment <+: c :: rest := by
  have number (stopped : numberExtent c rest = .error (fault, fragment)) :
      fragment ≠ [] ∧ fragment <+: c :: rest := by
    unfold numberExtent at stopped
    dsimp only at stopped
    split at stopped
    · cases stopped
      exact ⟨List.cons_ne_nil _ _, List.prefix_cons_inj c |>.2 (List.takeWhile_prefix _)⟩
    · cases stopped
  have word (stopped : wordExtent c rest = .error (fault, fragment)) :
      fragment ≠ [] ∧ fragment <+: c :: rest := by
    unfold wordExtent at stopped
    dsimp only at stopped
    split at stopped
    · next starts =>
      split at stopped
      · cases stopped
      · cases stopped
        obtain ⟨more, same⟩ := List.isPrefixOf_iff_prefix.1 starts
        obtain ⟨rfl, -⟩ : 'v' = c ∧ _ := List.cons.inj same
        exact ⟨List.cons_ne_nil _ _, List.takeWhile_prefix _⟩
    · split at stopped <;> cases stopped
  unfold extent at stopped
  split at stopped
  · cases stopped
  split at stopped
  · next hyphen =>
    split at stopped
    · cases stopped
    · next d next =>
      split at stopped
      · next second =>
        cases stopped
        obtain ⟨behind, rfl⟩ := List.head?_eq_some_iff.1 next
        exact ⟨List.cons_ne_nil _ _, behind, by rw [hyphen, second]; rfl⟩
      · split at stopped
        · exact number stopped
        · cases stopped
  split at stopped
  · exact number stopped
  split at stopped
  · cases stopped
  split at stopped
  · cases stopped
  split at stopped
  · cases stopped
  split at stopped
  · exact word stopped
  · cases stopped
    exact ⟨List.cons_ne_nil _ _, rest, rfl⟩

/-- A scan that fails stops in front of a character with which no token can start. The text up to
there is cut into the tokens that have been cut off. -/
theorem exists_stop {pos : Nat} {text : List Char} {e : Error}
    (stopped : scanAt pos text = .error e) :
    ∃ front c rest fault fragment, text = front ++ c :: rest ∧
      extent c rest = .error (fault, fragment) ∧
      e = ⟨.scan fault, fragment, ↑(pos + front.length)⟩ ∧
      scanAt pos front = .ok (cutOff pos text) := by
  fun_induction scanAt pos text with
  | case1 pos => cases stopped
  | case2 pos c rest fault fragment found =>
    cases stopped
    refine ⟨[], c, rest, fault, fragment, rfl, found, rfl, ?_⟩
    rw [scanAt, cutOff, found]
  | case3 pos c rest kind n found ih =>
    have behind : scanAt (pos + n + 1) (rest.drop n) = .error e := by
      rcases Except.bind_eq_error.1 stopped with behind | ⟨_, _, last⟩
      · exact behind
      · cases last
    obtain ⟨front, d, others, fault, fragment, whole, refused, rfl, scanned⟩ := ih behind
    have spelled := spelled_of_extent found
    have stops : Stops kind (c :: rest.take n) front := by
      have stops := stops_of_extent found
      rw [whole] at stops
      exact stops.of_append
    have taken := length_take_of_extent found
    refine ⟨c :: rest.take n ++ front, d, others, fault, fragment, ?_, refused, ?_, ?_⟩
    · rw [List.append_assoc, ← whole, List.cons_append, List.take_append_drop]
    · congr 2
      rw [List.length_append, List.length_cons, taken]
      omega
    · rw [cutOff_cons found, scanAt_spelled spelled stops, List.length_cons, taken,
        ← Nat.add_assoc, scanned]
      rfl

/-! ## What the check is about -/

/-- What a step does to the open parentheses: it refuses its token, or the ones that are open then
are its token and ones that have been open before. -/
inductive StepsTo (state : State) (token : Token) : Except Error State → Prop
  | refused (fault : CheckFault) : StepsTo state token (.error (token.error fault))
  | read {next : State} : (∀ opener ∈ next.outer, opener.1 = token ∨ opener ∈ state.outer) →
      StepsTo state token (.ok next)

section Check

variable {state final : State} {before : Option Kind} {tokens : List Token} {e : Error}

theorem stepsTo_step (state : State) (token : Token) (before after : Option Kind) :
    StepsTo state token (step state token before after) := by
  have kept {next : State} (same : next.outer = state.outer) : StepsTo state token (.ok next) :=
    .read fun _ there => .inr (same ▸ there)
  unfold step
  cases token.kind with
  | blank =>
    show StepsTo state token (checkBlank state token before after)
    unfold checkBlank
    split
    · split
      · exact .refused _
      · exact kept rfl
    · exact .refused _
  | opening =>
    show StepsTo state token (checkOpening state token)
    unfold checkOpening
    split
    · refine .read fun opener there => ?_
      exact (List.mem_cons.1 there).imp_left fun same => congrArg Prod.fst same
    · exact .refused _
  | closing =>
    show StepsTo state token (checkClosing state token)
    unfold checkClosing
    split
    · exact .refused _
    · next scope outer opened =>
      split
      · exact .refused _
      · split
        · exact .refused _
        · exact .read fun _ there => .inr (opened ▸ List.mem_cons_of_mem _ there)
  | number =>
    show StepsTo state token (checkNumber state token)
    unfold checkNumber
    split
    · exact .refused _
    · split
      · exact .refused _
      · split
        · exact .refused _
        · exact kept rfl
  | customProperty =>
    show StepsTo state token (checkVariable state token)
    unfold checkVariable
    split
    · exact .refused _
    · split
      · exact .refused _
      · exact kept rfl
  | unit =>
    show StepsTo state token (checkUnit state token before)
    unfold checkUnit
    split
    · exact .refused _
    · split
      · exact .refused _
      · split
        · exact .refused _
        · exact kept rfl
  | operator =>
    show StepsTo state token (checkOperator state token before after)
    unfold checkOperator
    split
    · exact .refused _
    · split
      · exact .refused _
      · split
        · exact .refused _
        · exact kept rfl

/-- Tokens are refused with an error about one of them. -/
theorem steps_error (stopped : steps state before tokens = .error e) :
    ∃ token ∈ tokens, ∃ fault, e = token.error fault := by
  obtain ⟨_, refused⟩ := steps_eq_error_iff.1 stopped
  obtain ⟨front, token, behind, next, rfl, -, -, stopped⟩ := refusalFrom?_eq_some_iff.1 refused
  have steps := stepsTo_step next token (lastKind? before front) (behind.head?.map (·.kind))
  rw [stopped] at steps
  cases steps with
  | refused fault => exact ⟨token, by simp, fault, rfl⟩

/-- The parentheses that are open behind some tokens are among them, or have been open before. -/
theorem mem_outer_of_steps (read : steps state before tokens = .ok final) :
    ∀ opener ∈ final.outer, opener.1 ∈ tokens ∨ opener ∈ state.outer := by
  induction tokens generalizing state before with
  | nil =>
    cases read
    exact fun _ there => .inr there
  | cons token rest ih =>
    obtain ⟨next, first, behind⟩ := Except.bind_eq_ok.1 read
    have steps := stepsTo_step state token before (rest.head?.map (·.kind))
    rw [first] at steps
    obtain _ | opens := steps
    intro opener there
    rcases ih behind opener there with inside | there
    · exact .inl (List.mem_cons_of_mem _ inside)
    · exact (opens opener there).imp_left fun same => List.mem_cons.2 (.inl same)

/-- A list of tokens is refused with an error about one of them, or about all of them. -/
theorem check_error (refused : check tokens = .error e) :
    (∃ token ∈ tokens, ∃ fault, e = token.error fault) ∨
      e = ⟨.check .noOperators, tokens.flatMap (·.text), 0⟩ := by
  rcases Except.bind_eq_error.1 refused with stopped | ⟨final, read, unfinished⟩
  · exact .inl (steps_error stopped)
  unfold finish at unfinished
  split at unfinished
  · next opener scope outer opened =>
    cases unfinished
    have there : (opener, scope) ∈ final.outer := opened ▸ List.mem_cons_self
    rcases mem_outer_of_steps read _ there with inside | before
    · exact .inl ⟨opener, inside, _, rfl⟩
    · cases before
  · split at unfinished
    · next token last =>
      split at unfinished
      · cases unfinished
        exact .inl ⟨token, List.mem_of_getLast? last, _, rfl⟩
      · split at unfinished
        · cases unfinished
        · cases unfinished
          exact .inr rfl
    · next none =>
      cases unfinished
      rw [List.getLast?_eq_none_iff.1 none]
      exact .inr rfl

end Check

/-- The fragment of a diagnosis stands at its position in the text, and is empty only in the empty
text. Where the text cannot be cut into tokens, what is in front of the fragment can, and its tokens
are those that have been cut off there. -/
theorem diagnosis_points_at_fragment {text : String} {e : Error} (found : diagnose? text = some e) :
    ∃ front behind, text.toList = front ++ e.fragment ++ behind ∧ e.pos = front.length ∧
      (e.fragment = [] → text = "") ∧
      ∀ fault, e.fault = .scan fault → scan front = .ok (cutOff 0 text.toList) := by
  have failed : read text = .error e := by
    unfold diagnose? at found
    split at found
    · cases found
    · next failed => rw [failed, Option.some.inj found]
  rcases Except.bind_eq_error.1 failed with stopped | ⟨tokens, scanned, refused⟩
  · obtain ⟨front, c, rest, fault, fragment, whole, refused, rfl, scanned⟩ := exists_stop stopped
    obtain ⟨nonempty, behind, starts⟩ := fragment_of_extent refused
    refine ⟨front, behind, ?_, by rw [Nat.zero_add], fun empty => absurd empty nonempty, ?_⟩
    · rw [whole, List.append_assoc, starts]
    · exact fun _ _ => scanned
  · obtain ⟨whole, tiles, spelled, -⟩ := scanAt_eq_ok_iff.1 scanned
    rcases check_error refused with ⟨token, there, fault, rfl⟩ | rfl
    · obtain ⟨before, after, rfl⟩ := List.append_of_mem there
      refine ⟨before.flatMap (·.text), after.flatMap (·.text), ?_, ?_, fun empty => ?_, nofun⟩
      · simpa [Token.error] using whole.symm
      · rw [← Nat.zero_add (before.flatMap (·.text)).length]
        exact tiles before token after rfl
      · exact absurd empty (spelled token there).ne_nil
    · refine ⟨[], [], ?_, rfl, fun empty => ?_, nofun⟩
      · simpa using whole.symm
      · exact String.toList_injective (whole.symm.trans empty)

/-- A variable that is not closed, in a group behind an operator. -/
theorem diagnosis_points_at_fragment_group :
    diagnose? "8px - calc(var(--a b) * 2" =
        some ⟨.scan .invalidVariable, "var(--a".toList, 11⟩ ∧
      scan "8px - calc(".toList = .ok (cutOff 0 "8px - calc(var(--a b) * 2".toList) := by
  have found : diagnose? "8px - calc(var(--a b) * 2" =
      some ⟨.scan .invalidVariable, "var(--a".toList, 11⟩ := by decide +kernel
  obtain ⟨front, behind, whole, place, -, scanned⟩ := diagnosis_points_at_fragment found
  have front : front = "8px - calc(".toList := by
    have length : front.length = "8px - calc(".toList.length := by
      exact Int.ofNat.inj place.symm
    have cut : "8px - calc(var(--a b) * 2".toList =
        "8px - calc(".toList ++ ("var(--a".toList ++ " b) * 2".toList) := by decide
    rw [cut, List.append_assoc] at whole
    exact (List.append_inj whole length.symm).1.symm
  exact ⟨found, front ▸ scanned _ rfl⟩

end DesignTokens.Calc
