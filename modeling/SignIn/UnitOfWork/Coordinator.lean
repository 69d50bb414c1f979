import SignIn.Attempt
import SignIn.Failure.Storage
import SignIn.UnitOfWork.Options

/-!
# Units of work

A unit of work runs inside one transaction. A value commits it, a failure rolls
it back and is passed on as it is, and so is a panic that strikes while the work
runs. A panic that strikes before the work has started finds no guard: the
transaction is abandoned, and nothing is asked of the manager.
-/

namespace SignIn

/-- What opens and finishes transactions. An abandoned transaction was neither committed nor
rolled back by its owner. -/
structure Manager (Ask : Type) (Answer : Ask → Type) where
  begin : TxOptions → Dialogue Ask Answer (Except StorageError Unit)
  commit : Dialogue Ask Answer (Except StorageError Unit)
  rollback : Dialogue Ask Answer (Except StorageError Unit)
  abandon : Dialogue Ask Answer Unit

/-- Work that is still to be started. Starting it may panic before it asks anything. -/
abbrev Work (Ask : Type) (Answer : Ask → Type) (ε α : Type) : Type :=
  Except Panic (Attempt Ask Answer ε α)

namespace Manager

variable {Ask : Type} {Answer : Ask → Type} {ε α : Type}

/-- End the transaction as the outcome of the work demands. -/
def finish (m : Manager Ask Answer) (ofStorage : StorageError → ε) :
    Outcome ε α → Attempt Ask Answer ε α
  | .ok value => m.commit.andThen fun
    | .ok () => .done (.ok value)
    | .error e => .done (.failed (ofStorage e))
  | .failed e => m.rollback.andThen fun _ => .done (.failed e)
  | .panicked p => m.rollback.andThen fun _ => .done (.panicked p)

/-- Run work in a transaction with these options. -/
def withOptions (m : Manager Ask Answer) (ofStorage : StorageError → ε) (options : TxOptions)
    (work : Work Ask Answer ε α) : Attempt Ask Answer ε α :=
  (m.begin options).andThen fun
    | .error e => .done (.failed (ofStorage e))
    | .ok () =>
      match work with
      | .error p => m.abandon.andThen fun _ => .done (.panicked p)
      | .ok started => Dialogue.andThen started (m.finish ofStorage)

/-- Run work in a transaction entered in one of the usual ways. -/
def within (m : Manager Ask Answer) (ofStorage : StorageError → ε) (entry : Entry)
    (work : Work Ask Answer ε α) : Attempt Ask Answer ε α :=
  m.withOptions ofStorage entry.options work

end Manager

end SignIn
