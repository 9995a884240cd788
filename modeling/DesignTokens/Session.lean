import DesignTokens.Query

/-!
# Sessions

A session answers one question after another about a library and remembers what it has worked out:
the active tokens of a theme, and the index of their names. When an index is first worked out, the
session warns of every name that several tokens share. An answer does not depend on what the session
remembers. Only these warnings do.
-/

namespace DesignTokens

/-- A library and what has been worked out about it, by theme. -/
structure Session where
  library : Library
  active : List (Option String × List Token)
  names : List (Option String × NameIndex)

/-- The warnings about the names that several tokens share. -/
def NameIndex.warnings (index : NameIndex) : List Warning :=
  index.shared.map fun (name, tokens) => .sharedName name (tokens.map (·.id))

/-- What a session replies: an outcome, warnings, and the session after it. -/
abbrev Reply (α : Type) := Noted Failure Warning α × Session

namespace Session

variable {α : Type}

/-- A session in which nothing has been asked. -/
def start (library : Library) : Session := ⟨library, [], []⟩

/-- The tokens that are active under a theme. A failure is not remembered. -/
def activeTokens (session : Session) (theme : Option String) : Reply (List Token) :=
  match session.active.lookup theme with
  | some tokens => (pure tokens, session)
  | none =>
    match session.library.activeTokens theme with
    | .ok tokens => (pure tokens, { session with active := session.active ++ [(theme, tokens)] })
    | .error failure => (Noted.fail failure, session)

/-- The index of the names under a theme. -/
def nameIndex (session : Session) (theme : Option String) : Reply NameIndex :=
  match session.names.lookup theme with
  | some index => (pure index, session)
  | none =>
    match session.activeTokens theme with
    | (⟨notes, .ok tokens⟩, session) =>
      let index := NameIndex.of tokens
      (⟨notes ++ index.warnings, .ok index⟩,
        { session with names := session.names ++ [(theme, index)] })
    | (⟨notes, .error failure⟩, session) => (⟨notes, .error failure⟩, session)

/-- Goes on from a reply. -/
def Reply.andThen {α β : Type} (reply : Reply α) (next : α → Session → Reply β) : Reply β :=
  match reply with
  | (⟨notes, .ok a⟩, session) =>
    let (rest, session) := next a session
    (⟨notes ++ rest.notes, rest.outcome⟩, session)
  | (⟨notes, .error failure⟩, session) => (⟨notes, .error failure⟩, session)

/-- Works out a computation, each question from what is remembered where that is possible. -/
def run (session : Session) : Inquiry α → Reply α
  | .done a => (pure a, session)
  | .fail failure => (Noted.fail failure, session)
  | .warn warning next =>
    let (rest, session) := run session next
    (⟨warning :: rest.notes, rest.outcome⟩, session)
  | .active theme next =>
    Reply.andThen (session.activeTokens theme) fun tokens session => run session (next tokens)
  | .shared theme next =>
    Reply.andThen (session.nameIndex theme) fun index session => run session (next index.shared)
  | .find theme name next =>
    Reply.andThen (session.nameIndex theme) fun index session =>
      match index.find session.library.strictNames name with
      | .ok token => run session (next token)
      | .error failure => (Noted.fail failure, session)

/-- The reply to a question. -/
def ask (session : Session) (query : Query) : Reply Answer :=
  session.run (query.inquiry session.library)

/-- The replies to some questions, one after another. -/
def askAll (session : Session) : List Query → List (Noted Failure Warning Answer) × Session
  | [] => ([], session)
  | query :: rest =>
    let (reply, session) := session.ask query
    let (replies, session) := askAll session rest
    (reply :: replies, session)

end Session

end DesignTokens
