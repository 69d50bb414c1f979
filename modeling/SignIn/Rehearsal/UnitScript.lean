import SignIn.Failure.Report
import SignIn.Failure.Written
import SignIn.Rehearsal.SqlScript
import SignIn.UnitOfWork.Ledger

/-!
# Rehearsing units of work

Every step runs a unit of work, which writes its entries and then ends as the
script says. One ledger lives through all steps.
-/

namespace SignIn.Rehearsal

namespace UnitScript

/-- The way by which a step enters its transaction. -/
def entryOf (j : Json) : Entry :=
  match textOr j "method" "" with
  | "isolation" => .isolation (Server.isolationOf (textOr j "isolation" ""))
  | "read_only" => .readOnly
  | "serializable" => .serializable
  | "repeatable_read" => .repeatableRead
  | "read_uncommitted" => .readUncommitted
  | "options" => .given (Server.optionsOf j)
  | _ => .transaction

/-- The failures that a step stages. -/
def failuresOf (j : Json) : Ledger.Failures :=
  let failure (call : String) : Option StorageError :=
    (j.member? "fail").bind fun failures => (given? failures call).bind StorageError.ofWritten?
  ⟨failure "begin", failure "commit", failure "rollback"⟩

/-- How the work of a step ends. -/
def outcomeOf (j : Json) : Outcome IdentityError Json :=
  match j.member? "outcome" with
  | some (.obj [("err", written)]) =>
    match IdentityError.ofWritten? written with
    | some e => .failed e
    | none => .ok .null
  | some (.obj [("panic", text)]) => .panicked ⟨text.textOr⟩
  | some (.obj [("ok", value)]) => .ok value
  | _ => .ok .null

/-- What the manager was asked, in words. -/
def noteText : Ledger.Note → String
  | .begin options => "begin " ++ options.statement
  | .commit writes => "commit " ++ Decimal.text writes
  | .rollback writes => "rollback " ++ Decimal.text writes

/-- How a unit of work ended. -/
def resultJson : Outcome IdentityError Json → Json
  | .ok value => .obj [("ok", .obj [("value", value), ("transactional", .bool true)])]
  | .failed e => e.report
  | .panicked p => p.report

def textsJson (texts : List String) : Json := .arr (texts.map .str)

/-- Run the unit of work of a step. -/
def step (l : Ledger) (j : Json) : Json × Ledger :=
  let l := { l with failures := failuresOf j, notes := [] }
  let entries := (items j "writes").filterMap Json.str?
  let work := Ledger.manager.within IdentityError.ofStorage (entryOf j)
    (.ok (Ledger.work entries (outcomeOf j)))
  let (outcome, l) := Dialogue.run Ledger.reply work l
  (.obj [("result", resultJson outcome), ("events", textsJson (l.notes.map noteText)),
    ("committed", textsJson l.committed)], l)

/-- What the steps show, one after the other. -/
def steps : Ledger → List Json → List Json
  | _, [] => []
  | l, j :: rest =>
    let (shown, l) := step l j
    shown :: steps l rest

end UnitScript

/-- What a script for units of work shows, step by step. -/
def units (script : Json) : Json := .arr (UnitScript.steps {} (items script "steps"))

end SignIn.Rehearsal
