import SignIn.Outbox.Event
import SignIn.Sql.Connection

/-!
# The outbox in SQL

Every update matches pending rows only, so that a row that has been settled is
never touched again. Only inserting takes part in a transaction.
-/

namespace SignIn.Sql.Outbox

def table : String := "outbox_events"

/-- The columns in the order in which they are written and asked for. -/
def columns : List String :=
  ["id", "event_name", "payload", "status", "attempts", "last_error", "created_at", "updated_at"]

/-- The values of an event, in the order of the columns. -/
def params (e : OutboxEvent) : List Param :=
  [.uuid e.id, .text e.name, .json e.payload, .text e.status.text, .int e.attempts,
    .ofText? e.lastError, .int e.createdAt, .int e.updatedAt]

/-- Read a column as the failures of the outbox have it. -/
def lift (result : Except StorageError α) : Except OutboxError α := result.mapError .database

/-- The event in a row. The status is looked at first, and as text: it may be unknown. -/
def ofRow (row : Row) : Except OutboxError OutboxEvent := do
  let status ← lift (row.required "status" .text)
  let id ← lift (row.required "id" .uuid)
  let name ← lift (row.required "event_name" .text)
  let payload ← lift (row.required "payload" .json)
  let status ← OutboxStatus.ofText status
  let attempts ← lift (row.required "attempts" .int4)
  let lastError ← lift (row.optional "last_error" .text)
  let createdAt ← lift (row.required "created_at" .int8)
  let updatedAt ← lift (row.required "updated_at" .int8)
  return { id, name, payload, status, attempts, lastError, createdAt, updatedAt }

/-- Write an event with all its columns. -/
def insertStatement (e : OutboxEvent) : Statement := ⟨.insert table columns, params e⟩

/-- Ask for the event with an id. -/
def byIdStatement (id : Uuid) : Statement :=
  ⟨.select columns table [⟨"id", .param 1⟩] [] none, [.uuid id]⟩

/-- The rows of a name that have a status. -/
def ofName : List Equation := [⟨"event_name", .param 1⟩, ⟨"status", .param 2⟩]

/-- Ask for the oldest pending events of a name. Events of one time go by their ids. -/
def pendingStatement (name : String) (limit : Int) : Statement :=
  ⟨.select columns table ofName ["created_at", "id"] (some (.param 3)),
    [.text name, .text OutboxStatus.pending.text, .int limit]⟩

/-- Ask how many events of a name are pending, and since when. -/
def statsStatement (name : String) : Statement :=
  ⟨.select ["COUNT(*)::BIGINT AS pending", "MIN(created_at) AS oldest"] table ofName [] none,
    [.text name, .text OutboxStatus.pending.text]⟩

/-- The row with an id, while it is pending: a row that is settled stays as it is. -/
def isPending : List Equation := [⟨"id", .param 1⟩, ⟨"status", .text OutboxStatus.pending.text⟩]

/-- Settle a pending row as delivered, and forget its last error. -/
def successStatement (id : Uuid) (now : Int) : Statement :=
  ⟨.update table [⟨"status", .text OutboxStatus.success.text⟩, ⟨"last_error", .null⟩,
    ⟨"updated_at", .param 2⟩] isPending [], [.uuid id, .int now]⟩

/-- Settle a pending row as failed, whatever it has cost so far. -/
def failedStatement (id : Uuid) (error : String) (now : Int) : Statement :=
  ⟨.update table [⟨"status", .text OutboxStatus.failed.text⟩, ⟨"last_error", .param 2⟩,
    ⟨"updated_at", .param 3⟩] isPending [], [.uuid id, .text error, .int now]⟩

/-- One more attempt, and the end of the row if it was the last. -/
def attemptStatement (id : Uuid) (error : String) (maxAttempts now : Int) : Statement :=
  let attempts : Expr := .next (.column "attempts")
  ⟨.update table [⟨"attempts", attempts⟩, ⟨"last_error", .param 2⟩,
    ⟨"status", .choose attempts (.param 3) (.text OutboxStatus.failed.text)
      (.text OutboxStatus.pending.text)⟩,
    ⟨"updated_at", .param 4⟩] isPending ["status"],
    [.uuid id, .text error, .int maxAttempts, .int now]⟩

/-- A call of this repository. -/
abbrev Step (α : Type) : Type := Attempt Call Answer OutboxError α

/-- Send a statement; what goes wrong is told by what it was for. -/
def about (context : String) (step : Sql.Step α) : Step α :=
  .mapError (fun _ => .other context) step

/-- Store an event, in the transaction of the scope if it has one. -/
def insert (scope : Scope) (e : OutboxEvent) : Step Unit := do
  .mapError .database (connection scope)
  let _ ← about "Failed to insert event into outbox" (query scope (insertStatement e))
  return ()

/-- The event with an id, which is missed if it is not there. -/
def findById (id : Uuid) : Step OutboxEvent := do
  let result ← about "Failed to fetch outbox event" (send .ambient (byIdStatement id))
  match result.rows with
  | [] => .fail (.eventNotFound id)
  | row :: _ => .ofExcept (ofRow row)

/-- The oldest pending events of a name. One row that cannot be read spoils the batch. -/
def findPending (name : String) (limit : Int) : Step (List OutboxEvent) := do
  let result ← about "Failed to fetch pending events" (send .ambient (pendingStatement name limit))
  .ofExcept (result.rows.mapM ofRow)

/-- Settle a row as delivered; say whether it was still pending. -/
def markSuccess (id : Uuid) : Step Bool := do
  let at1 ← now
  let result ← about "Failed to mark event as success" (send .ambient (successStatement id at1))
  return 0 < result.affected

/-- Settle a row as failed; say whether it was still pending. -/
def markFailed (id : Uuid) (error : String) : Step Bool := do
  let at1 ← now
  let result ← about "Failed to mark event as failed" (send .ambient (failedStatement id error at1))
  return 0 < result.affected

/-- Count a failed attempt, and say what has become of the row. -/
def recordFailure (id : Uuid) (error : String) (maxAttempts : Int) : Step OutboxStatus := do
  let at1 ← now
  let result ← about "Failed to record delivery failure"
    (send .ambient (attemptStatement id error maxAttempts at1))
  match result.rows with
  | [] => .fail (.eventNotFound id)
  | row :: _ => do
    let status ← .ofExcept (lift (row.required "status" .text))
    .ofExcept (OutboxStatus.ofText status)

/-- The one row that a statement has to return. -/
def one (result : Result) : Except StorageError Row :=
  match result.rows with
  | [] => .error .rowNotFound
  | row :: _ => .ok row

/-- The age of a row in seconds; a row from the future has none. Its milliseconds have to fit a
word. -/
def age (now createdAt : Int) : Step Int :=
  if Decimal.Range.i64.contains (now - createdAt) then pure (max (now - createdAt) 0 / 1000)
  else .ofOutcome (.panicked .subtractOverflow)

/-- How many rows of a name are pending, and for how many seconds the oldest of them has been. -/
def pendingStats (name : String) : Step (Int × Int) := do
  let row ← about "Failed to compute pending stats" do
    let result ← send .ambient (statsStatement name)
    .ofExcept (one result)
  let pending ← .ofExcept (lift (row.required "pending" .int8))
  match ← .ofExcept (lift (row.optional "oldest" .int8)) with
  | none => return (pending, 0)
  | some oldest => do
    let at1 ← now
    return (pending, ← age at1 oldest)

end SignIn.Sql.Outbox
