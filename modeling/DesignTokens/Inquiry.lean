import DesignTokens.Library.NameIndex
import DesignTokens.Noted
import DesignTokens.Warning

/-!
# Computations that ask a library

Resolving a value asks a token library again and again: which tokens are active under a theme, which
of their names are shared, and which token a name stands for. An `Inquiry` is such a computation
with its questions left open. It says what is asked, and what happens for each answer, but not how
the answer is found. So the same computation can be answered by a library itself (`Inquiry.answer`)
and by a session that remembers earlier answers.
-/

namespace DesignTokens

/-- A computation that asks a library, leaves warnings, and ends with a result or a failure. -/
inductive Inquiry (α : Type) where
  | done (a : α)
  | fail (failure : Failure)
  | warn (warning : Warning) (next : Inquiry α)
  /-- Asks for the tokens that are active under a theme. -/
  | active (theme : Option String) (next : List Token → Inquiry α)
  /-- Asks for the names that several active tokens share. -/
  | shared (theme : Option String) (next : NameIndex → Inquiry α)
  /-- Asks for the active token that a name stands for. -/
  | find (theme : Option String) (name : String) (next : Option Token → Inquiry α)

namespace Inquiry

variable {α β γ : Type}

/-- One computation after another. -/
protected def bind : Inquiry α → (α → Inquiry β) → Inquiry β
  | .done a, f => f a
  | .fail failure, _ => .fail failure
  | .warn warning next, f => .warn warning (next.bind f)
  | .active theme next, f => .active theme fun tokens => (next tokens).bind f
  | .shared theme next, f => .shared theme fun names => (next names).bind f
  | .find theme name next, f => .find theme name fun token => (next token).bind f

instance : Monad Inquiry where
  pure := .done
  bind := .bind

theorem bind_done (x : Inquiry α) : x.bind .done = x := by
  induction x with
  | done a => rfl
  | fail failure => rfl
  | warn warning next ih => simp [Inquiry.bind, ih]
  | active theme next ih => simp [Inquiry.bind, ih]
  | shared theme next ih => simp [Inquiry.bind, ih]
  | find theme name next ih => simp [Inquiry.bind, ih]

theorem bind_assoc (x : Inquiry α) (f : α → Inquiry β) (g : β → Inquiry γ) :
    (x.bind f).bind g = x.bind fun a => (f a).bind g := by
  induction x with
  | done a => rfl
  | fail failure => rfl
  | warn warning next ih => simp [Inquiry.bind, ih]
  | active theme next ih => simp [Inquiry.bind, ih]
  | shared theme next ih => simp [Inquiry.bind, ih]
  | find theme name next ih => simp [Inquiry.bind, ih]

instance : LawfulMonad Inquiry :=
  LawfulMonad.mk' Inquiry (fun x => bind_done x) (fun _ _ => rfl) (fun x f g => bind_assoc x f g)

/-- Leaves a warning. -/
def leave (warning : Warning) : Inquiry Unit := .warn warning (.done ())

/-- The tokens that are active under a theme. -/
def activeTokens (theme : Option String) : Inquiry (List Token) := .active theme .done

/-- The names that several active tokens share. -/
def sharedNames (theme : Option String) : Inquiry NameIndex := .shared theme .done

/-- The active token that a name stands for. -/
def named (theme : Option String) (name : String) : Inquiry (Option Token) :=
  .find theme name .done

/-- A computation that asks nothing. -/
def lift : Except Failure α → Inquiry α
  | .ok a => .done a
  | .error failure => .fail failure

/-- The outcome of a computation when a library answers its questions, and the warnings that the
computation leaves. -/
def answer (library : Library) : Inquiry α → Noted Failure Warning α
  | .done a => pure a
  | .fail failure => Noted.fail failure
  | .warn warning next => do
    Noted.note warning
    answer library next
  | .active theme next =>
    match library.activeTokens theme with
    | .ok tokens => answer library (next tokens)
    | .error failure => Noted.fail failure
  | .shared theme next =>
    match library.nameIndex theme with
    | .ok index => answer library (next index.shared)
    | .error failure => Noted.fail failure
  | .find theme name next =>
    match library.find theme name with
    | .ok token => answer library (next token)
    | .error failure => Noted.fail failure

end Inquiry

end DesignTokens
