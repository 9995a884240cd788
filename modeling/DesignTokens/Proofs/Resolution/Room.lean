import DesignTokens.Proofs.Resolution.Cycles

/-!
# Room for open tokens

A substitution has room for as many open tokens as its library has tokens. Any larger room gives the
same answers (`IgnoresRoom`), so substitutions of two libraries can be given one room.
-/

namespace DesignTokens

open Inquiry

/-- The substitution with another room. -/
def Substitution.withRoom (s : Substitution) (room : Nat) : Substitution :=
  { s with room := room }

/-- What is computed with a substitution does not depend on its room, as long as there is room for
all tokens of the library. -/
def IgnoresRoom {α : Type} (library : Library) (x : Substitution → Inquiry α) : Prop :=
  ∀ (s : Substitution) (room : Nat), library.tokens.length ≤ s.room →
    library.tokens.length ≤ room → answer library (x (s.withRoom room)) = answer library (x s)

variable {library : Library}

/-- The room of a substitution is only where a computation starts. -/
theorem valueAt_withRoom (s : Substitution) (room : Nat) (left : Nat) :
    (s.withRoom room).valueAt left = s.valueAt left := by
  induction left with
  | zero => rfl
  | succ left ih =>
    funext chain nested u
    rw [Substitution.valueAt, Substitution.valueAt, ih]
    rfl

theorem expandAt_withRoom (s : Substitution) (room left : Nat) :
    (s.withRoom room).expandAt left = s.expandAt left := by
  funext chain text
  rw [Substitution.expandAt, Substitution.expandAt, valueAt_withRoom]
  rfl

/-- While tokens of the library are open, a text is expanded alike with any room. -/
theorem ignoresRoom_expandAt {chain : List String} (opens : Opens library chain) (text : String) :
    IgnoresRoom library fun s => s.expandAt s.room chain text := by
  intro s room enough enough'
  show answer library ((s.withRoom room).expandAt room chain text) = _
  rw [expandAt_withRoom]
  exact answer_expandAt_room opens (Nat.le_add_right_of_le enough') (Nat.le_add_right_of_le enough)

theorem ignoresRoom_resolve (text : String) : IgnoresRoom library fun s => s.resolve text :=
  ignoresRoom_expandAt .nil text

theorem ignoresRoom_value {u : Token} (here : u ∈ library.tokens) (nested : Bool) :
    IgnoresRoom library fun s => s.value nested u := by
  intro s room enough enough'
  show answer library ((s.withRoom room).valueAt room [] nested u) = _
  rw [valueAt_withRoom]
  exact answer_valueAt_room .nil here enough' enough

theorem ignoresRoom_cssValue {u : Token} (here : u ∈ library.tokens) :
    IgnoresRoom library fun s => s.cssValue u := fun s room enough enough' =>
  answer_bind_congr (ignoresRoom_value here false s room enough enough') fun _ => rfl

theorem ignoresRoom_properties {u : Token} (here : u ∈ library.tokens) (bundle : Entries String) :
    IgnoresRoom library fun s => s.properties u bundle := by
  intro s room enough enough'
  have opens : Opens library [u.id] := Opens.nil.snoc here List.not_mem_nil
  unfold Substitution.properties
  induction bundle with
  | nil => rfl
  | cons property rest ih =>
    have first := ignoresRoom_expandAt opens property.2 s room enough enough'
    exact answer_bind_congr first fun _ => answer_bind_congr ih fun _ => rfl

end DesignTokens
