import DesignTokens.Proofs.Calc.Spelling

/-!
# The tokens of a tree

The text of a derivation tree is cut into the tokens of the tree, whatever follows it, as long as
that starts with a blank or a closing parenthesis (`scanAt_operand`, `scanAt_expression`).
-/

namespace DesignTokens.Calc

mutual
/-- The tokens of an operand that stands at `pos`. -/
def Operand.tokens (pos : Nat) : Operand → List Token
  | .number value none => [⟨.number, value.written, pos⟩]
  | .number value (some unit) =>
    [⟨.number, value.written, pos⟩, ⟨.unit, unit.letters, ↑(pos + value.written.length)⟩]
  | .lookup name => [⟨.customProperty, name.call, pos⟩]
  | .group named inner =>
    let start := pos + (opener named).length
    ⟨.opening, opener named, pos⟩ :: inner.tokens start ++
      [⟨.closing, [')'], ↑(start + inner.written.length)⟩]

/-- The tokens of an expression that stands at `pos`. -/
def Expression.tokens (pos : Nat) : Expression → List Token
  | .operand only => only.tokens pos
  | .binary left operator right =>
    let behind := pos + left.written.length
    left.tokens pos ++
      ⟨.blank, [' '], behind⟩ :: ⟨.operator, [operator.char], ↑(behind + 1)⟩ ::
        ⟨.blank, [' '], ↑(behind + 2)⟩ :: right.tokens (behind + 3)
end

/-- Texts that may follow an operand. -/
def Ends (rest : List Char) : Prop :=
  ∀ c ∈ rest.head?, c = ' ' ∨ c = ')'

theorem Ends.stop {rest : List Char} (ends : Ends rest) {p : Char → Bool} (blank : p ' ' = false)
    (closing : p ')' = false) : ∀ c ∈ rest.head?, p c = false := by
  intro c member
  rcases ends c member with rfl | rfl
  · exact blank
  · exact closing

mutual
/-- The tokens of an operand are cut off in front of a blank, a closing parenthesis or the end. -/
theorem scanAt_operand (o : Operand) (pos : Nat) {rest : List Char} (ends : Ends rest) :
    scanAt pos (o.written ++ rest) =
      (scanAt (pos + o.written.length) rest).map (o.tokens pos ++ ·) := by
  cases o with
  | number value unit =>
    cases unit with
    | none =>
      simpa [Operand.written, Operand.tokens, unitLetters] using
        scanAt_spelled value.spelled (ends.stop (by decide) (by decide))
    | some unit =>
      have stop : ∀ c ∈ (unit.letters ++ rest).head?, isNumberChar c = false := by
        intro c member
        obtain ⟨first, letters, same⟩ := List.exists_cons_of_ne_nil unit.nonempty
        obtain rfl : first = c := by simpa [same] using member
        exact not_numberChar_of_wordChar (unit.isWord first (by simp [same]))
      have letters : Spelled .unit unit.letters := ⟨unit, rfl⟩
      have stops : Stops .unit unit.letters rest := by
        refine ⟨ends.stop (by decide) (by decide), fun _ opening => ?_⟩
        exact absurd (ends '(' opening) (by decide)
      rw [Operand.written, unitLetters, List.append_assoc, scanAt_spelled value.spelled stop,
        scanAt_spelled letters stops, List.length_append, ← Nat.add_assoc]
      cases scanAt (pos + value.written.length + unit.letters.length) rest <;> rfl
  | lookup name =>
    have call : Spelled .customProperty name.call := ⟨name, rfl⟩
    exact scanAt_spelled call trivial
  | group named inner =>
    have closing : Ends (')' :: rest) := by
      rintro _ ⟨⟩
      exact .inr rfl
    have opening : Spelled .opening (opener named) := ⟨named, rfl⟩
    rw [Operand.written, List.append_assoc, List.append_assoc,
      scanAt_spelled opening trivial, List.singleton_append, scanAt_expression inner _ closing,
      scanAt_single rfl]
    simp only [List.length_append, List.length_singleton, ← Nat.add_assoc]
    cases scanAt (pos + (opener named).length + inner.written.length + 1) rest with
    | error _ => rfl
    | ok _ => simp [Except.map, Operand.tokens]

theorem scanAt_expression (e : Expression) (pos : Nat) {rest : List Char} (ends : Ends rest) :
    scanAt pos (e.written ++ rest) =
      (scanAt (pos + e.written.length) rest).map (e.tokens pos ++ ·) := by
  cases e with
  | operand only => exact scanAt_operand only pos ends
  | binary left operator right =>
    have blank : Ends (' ' :: operator.char :: ' ' :: (right.written ++ rest)) := by
      rintro _ ⟨⟩
      exact .inl rfl
    have behind : pos + (Expression.binary left operator right).written.length =
        pos + left.written.length + 1 + 1 + 1 + right.written.length := by
      simp only [Expression.written, List.length_append, List.length_cons, List.length_nil]
      omega
    rw [behind, Expression.written, List.append_assoc, List.append_assoc]
    simp only [List.cons_append, List.nil_append]
    rw [scanAt_expression left pos blank, scanAt_single rfl, scanAt_operator, scanAt_single rfl,
      scanAt_operand right _ ends]
    cases scanAt (pos + left.written.length + 1 + 1 + 1 + right.written.length) rest with
    | error _ => rfl
    | ok _ => simp [Except.map, Expression.tokens, Int.add_assoc]
end

/-- The text of a tree is cut into the tokens of the tree. -/
theorem scan_written (e : Expression) : scan e.written = .ok (e.tokens 0) := by
  have scanned : scanAt 0 (e.written ++ []) =
      (scanAt (0 + e.written.length) []).map (e.tokens 0 ++ ·) := scanAt_expression e 0 nofun
  rw [List.append_nil] at scanned
  rw [scan, scanned, scanAt]
  exact congrArg Except.ok (List.append_nil _)

mutual
theorem Operand.flatMap_tokens :
    (o : Operand) → (pos : Nat) → (o.tokens pos).flatMap (·.text) = o.written
  | .number value none, pos => by simp [Operand.tokens, Operand.written, unitLetters]
  | .number value (some unit), pos => by simp [Operand.tokens, Operand.written, unitLetters]
  | .lookup name, pos => by simp [Operand.tokens, Operand.written]
  | .group named inner, pos => by
    simp [Operand.tokens, Operand.written, inner.flatMap_tokens, List.flatMap_append]

/-- The texts of the tokens of a tree are the text of the tree. -/
theorem Expression.flatMap_tokens :
    (e : Expression) → (pos : Nat) → (e.tokens pos).flatMap (·.text) = e.written
  | .operand only, pos => only.flatMap_tokens pos
  | .binary left operator right, pos => by
    simp [Expression.tokens, Expression.written, left.flatMap_tokens, right.flatMap_tokens,
      List.flatMap_append]
end

end DesignTokens.Calc
