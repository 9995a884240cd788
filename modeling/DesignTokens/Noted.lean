/-!
# Computations that leave notes

Loading and rendering may fail, and they leave warnings on the way whether they fail or not.
`Noted ε ν α` is an outcome together with the notes left before it, oldest first. Binding keeps
the notes of both halves, and a failure keeps the notes that came before it.
-/

namespace DesignTokens

/-- A failure of type `ε` or a result of type `α`, with the notes of type `ν` left on the way. -/
structure Noted (ε ν α : Type) where
  notes : List ν
  outcome : Except ε α

namespace Noted

variable {ε ν α β : Type}

protected def pure (a : α) : Noted ε ν α := ⟨[], .ok a⟩

protected def bind (x : Noted ε ν α) (f : α → Noted ε ν β) : Noted ε ν β :=
  match x.outcome with
  | .ok a => ⟨x.notes ++ (f a).notes, (f a).outcome⟩
  | .error e => ⟨x.notes, .error e⟩

instance : Monad (Noted ε ν) where
  pure := Noted.pure
  bind := Noted.bind

/-- Stops with a failure. -/
def fail (e : ε) : Noted ε ν α := ⟨[], .error e⟩

/-- Leaves one note. -/
def note (n : ν) : Noted ε ν Unit := ⟨[n], .ok ()⟩

/-- A computation that leaves no notes. -/
def lift (outcome : Except ε α) : Noted ε ν α := ⟨[], outcome⟩

instance : LawfulMonad (Noted ε ν) := by
  refine LawfulMonad.mk' (Noted ε ν) ?_ ?_ ?_
  · intro α x
    rcases x with ⟨n, _ | a⟩ <;> simp [Functor.map, Noted.bind, Noted.pure]
  · intro α β a f
    simp [bind, pure, Noted.bind, Noted.pure]
  · intro α β γ x f g
    rcases x with ⟨n, _ | a⟩
    · simp [bind, Noted.bind]
    · rcases h : f a with ⟨n', _ | b⟩ <;> simp [bind, Noted.bind, h]

end Noted

end DesignTokens
