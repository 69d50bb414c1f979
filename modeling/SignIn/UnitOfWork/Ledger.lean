import SignIn.UnitOfWork.Coordinator

/-!
# A ledger of units of work

The ledger keeps the writes of a unit of work aside until it is committed, and
drops them otherwise. A commit that fails keeps nothing. Everything that the
coordinator asks for is noted.
-/

namespace SignIn.Ledger

/-- What a unit of work asks of the database. -/
inductive Call where
  | begin (options : TxOptions)
  | commit
  | rollback
  | abandon
  | write (entry : String)
  deriving DecidableEq, Repr

abbrev Answer : Call → Type
  | .begin _ => Except StorageError Unit
  | .commit => Except StorageError Unit
  | .rollback => Except StorageError Unit
  | .abandon => Unit
  | .write _ => Unit

def put (call : Call) : Dialogue Call Answer (Answer call) := Dialogue.put call

def manager : Manager Call Answer where
  begin options := put (.begin options)
  commit := put .commit
  rollback := put .rollback
  abandon := put .abandon

/-- What was asked of the ledger. The ends of a unit count its writes. -/
inductive Note where
  | begin (options : TxOptions)
  | commit (writes : Nat)
  | rollback (writes : Nat)
  deriving DecidableEq, Repr

/-- The failures that wait for a unit of work. -/
structure Failures where
  begin : Option StorageError := none
  commit : Option StorageError := none
  rollback : Option StorageError := none

end Ledger

open Ledger in
/-- A database that only notes what happens to it, with the failures that were arranged. -/
structure Ledger where
  failures : Failures := {}
  aside : List String := []
  committed : List String := []
  notes : List Note := []

namespace Ledger

/-- Note a call. -/
def note (l : Ledger) (n : Note) : Ledger := { l with notes := l.notes ++ [n] }

/-- Drop what was kept aside. -/
def dropped (l : Ledger) : Ledger := { l with aside := [] }

/-- Keep for good what was kept aside. -/
def kept (l : Ledger) : Ledger := { l with aside := [], committed := l.committed ++ l.aside }

/-- Fail as it was arranged. -/
def orFailure : Option StorageError → Except StorageError Unit
  | none => .ok ()
  | some e => .error e

/-- Note a call and answer it. A commit that fails keeps nothing. -/
def reply : (c : Call) → Ledger → Answer c × Ledger
  | .begin options, l => (orFailure l.failures.begin, (l.note (.begin options)).dropped)
  | .commit, l =>
    let noted := l.note (.commit l.aside.length)
    (orFailure l.failures.commit, if l.failures.commit.isNone then noted.kept else noted.dropped)
  | .rollback, l =>
    (orFailure l.failures.rollback, (l.note (.rollback l.aside.length)).dropped)
  | .abandon, l => ((), l.dropped)
  | .write entry, l => ((), { l with aside := l.aside ++ [entry] })

/-- Write entries, and end with an outcome. -/
def work {ε α : Type} (entries : List String) (outcome : Outcome ε α) : Attempt Call Answer ε α :=
  match entries with
  | [] => .ofOutcome outcome
  | entry :: rest => (put (.write entry)).andThen fun _ => work rest outcome

end SignIn.Ledger
