import SignIn.Sql.Row
import SignIn.Sql.Statement
import SignIn.UnitOfWork.Coordinator

/-!
# Connections

A call outside of a transaction takes a connection from the pool; a call inside
uses the connection of the transaction. A transaction that is dropped before its
end was confirmed is rolled back.
-/

namespace SignIn.Sql

/-- What a repository needs from outside: a clock, ids, and a connection of the pool. -/
inductive Call where
  | now
  | freshId
  | acquire
  | query (scope : Scope) (statement : Statement)

/-- The answers. Only the database can fail. -/
abbrev Answer : Call → Type
  | .now => Int
  | .freshId => Uuid
  | .acquire => Except StorageError Unit
  | .query .. => Except StorageError Result

def put (call : Call) : Dialogue Call Answer (Answer call) := Dialogue.put call

/-- A piece of a repository's work that fails as the database does. -/
abbrev Step (α : Type) : Type := Attempt Call Answer StorageError α

def now {ε : Type} : Attempt Call Answer ε Int := .hear (put .now)

def freshId {ε : Type} : Attempt Call Answer ε Uuid := .hear (put .freshId)

/-- Have a connection for calls of this scope. -/
def connection : Scope → Step Unit
  | .ambient => .call (put .acquire)
  | .transaction => pure ()

/-- Send a statement on the connection of a scope. -/
def query (scope : Scope) (statement : Statement) : Step Result := .call (put (.query scope statement))

/-- Have a connection, and send a statement over it. -/
def send (scope : Scope) (statement : Statement) : Step Result := do
  connection scope
  query scope statement

/-- Send a statement of the transaction itself. -/
def control (command : Command) : Dialogue Call Answer (Except StorageError Result) :=
  put (.query .transaction ⟨command, []⟩)

/-- Undo what a dropped transaction did; nobody waits for the answer. -/
def undo : Dialogue Call Answer Unit := (control .rollback).andThen fun _ => .done ()

/-- End a transaction, or drop it if the end is refused. -/
def endWith (command : Command) : Dialogue Call Answer (Except StorageError Unit) :=
  (control command).andThen fun
    | Except.ok _ => .done (.ok ())
    | Except.error e => undo.andThen fun _ => .done (.error e)

/-- Begin, and set the options before anything else. -/
def beginWith (options : TxOptions) : Dialogue Call Answer (Except StorageError Unit) :=
  (put .acquire).andThen fun
    | Except.error e => .done (.error e)
    | Except.ok () =>
      (control .begin).andThen fun
        | Except.error e => .done (.error e)
        | Except.ok _ =>
          (control (.setTransaction options)).andThen fun
            | Except.error e => undo.andThen fun _ => .done (.error e)
            | Except.ok _ => .done (.ok ())

/-- Units of work in the database, for the coordinator of the service. -/
def manager : Manager Call Answer where
  begin := beginWith
  commit := endWith .commit
  rollback := endWith .rollback
  abandon := undo

end SignIn.Sql
