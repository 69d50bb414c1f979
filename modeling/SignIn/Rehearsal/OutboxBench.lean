import SignIn.Failure.Written
import SignIn.LoginNotice
import SignIn.Outbox.Delivery
import SignIn.Outbox.Table
import SignIn.Rehearsal.Mishaps

/-!
# A bench for deliveries

The outbox is a table in memory, and the queue remembers the ids of the tasks that
it has accepted and refuses them a second time. Every call is noted before its
mishap is looked up.
-/

namespace SignIn.Rehearsal

open Outbox (Call Answer Table)

/-- A call fails, or the row of a task changes while the task is under way. -/
inductive OutboxMishap where
  | fail (error : OutboxError)
  | race (status : OutboxStatus)

/-- The mishap in a JSON value: a race, or else an error. -/
def OutboxMishap.ofJson? (j : Json) : Option OutboxMishap :=
  match j with
  | .obj [("race", status)] => (OutboxStatus.ofJson? status).map .race
  | j => (OutboxError.ofWritten? j).map .fail

/-- The counters and gauges of the outbox. -/
structure Metrics where
  pending : Int := 0
  age : Int := 0
  delivered : Nat := 0
  failed : Nat := 0
  retried : Nat := 0
  deriving Repr, Inhabited

namespace Metrics

/-- Count one event. -/
def count (m : Metrics) : Outbox.Counter → Metrics
  | .delivered => { m with delivered := m.delivered + 1 }
  | .failed => { m with failed := m.failed + 1 }
  | .retried => { m with retried := m.retried + 1 }

def toJson (m : Metrics) : Json :=
  .obj [("pending", .int m.pending), ("age", .int m.age), ("delivered", .int m.delivered),
    ("failed", .int m.failed), ("retried", .int m.retried)]

end Metrics

/-- A call that was made, or the end of one that took its time. -/
inductive Note where
  | call (time : Nat) (c : Call)
  | enqueueDone (time : Nat) (accepted : Bool)

/-- A table and a queue in memory, with mishaps staged for the calls on them. -/
structure Bench where
  now : Int := 0
  table : Table := []
  accepted : List String := []
  mishaps : Mishaps OutboxMishap := {}
  age : Int := 0
  metrics : Option Metrics := none
  notes : List Note := []
  deriving Inhabited

namespace Bench

/-- Note what was asked. -/
def note (b : Bench) (n : Note) : Bench := { b with notes := b.notes ++ [n] }

/-- The mishap that is staged for the call, if any is left. -/
def take (b : Bench) (call : String) : Option OutboxMishap × Bench :=
  let (mishap, mishaps) := b.mishaps.take call
  (mishap, { b with mishaps })

/-- Do what a call does, unless it is to fail. -/
def attempt (b : Bench) (call : String) (act : Bench → Except OutboxError α × Bench) :
    Except OutboxError α × Bench :=
  match b.take call with
  | (some (.fail e), b) => (.error e, b)
  | (_, b) => act b

/-- Somebody else settles the row of the task. -/
def race (b : Bench) (taskId : String) (status : OutboxStatus) : Bench :=
  match Uuid.ofText? taskId with
  | none => b
  | some id => { b with table := Table.updatePending id (fun e => { e with status }) b.table }

/-- The queue takes every task once. -/
def accept (b : Bench) (options : TaskOptions) : Except OutboxError TaskInfo × Bench :=
  let id := options.taskId.getD ""
  if b.accepted.contains id then (.error (.taskIdConflict id), b)
  else (.ok ⟨id, options.queue.getD ""⟩, { b with accepted := b.accepted ++ [id] })

/-- The queue takes a task, unless a mishap is staged. -/
def enqueue (b : Bench) (options : TaskOptions) : Except OutboxError TaskInfo × Bench :=
  match b.take "enqueue" with
  | (some (.fail e), b) => (.error e, b)
  | (some (.race status), b) => (b.race (options.taskId.getD "") status).accept options
  | (none, b) => b.accept options

/-- Count an attempt in the table, which does so in a word. -/
def recordFailure (b : Bench) (id : Uuid) (error : String) (maxAttempts : Int) :
    Outcome OutboxError OutboxStatus × Bench :=
  if (b.table.pendingRow? id).all fun e => Decimal.Range.i32.contains (e.attempts + 1) then
    let (status, table) := b.table.recordFailure b.now id error maxAttempts
    (.ofExcept status, { b with table })
  else (.panicked .addOverflow, b)

/-- The answer to a call. Nothing here takes time or stops a batch. -/
def act : (c : Call) → Bench → Answer c × Bench
  | .now, b => (b.now, b)
  | .clock, b => (0, b)
  | .stopRequested, b => (false, b)
  | .wake _, b => (.tick, b)
  | .findPending name limit _, b =>
    let (found, b) := b.attempt "find_pending" fun b => (.ok (b.table.findPending name limit), b)
    (some found, b)
  | .enqueue _ options, b => b.enqueue options
  | .markSuccess id, b =>
    b.attempt "mark_success" fun b =>
      let (marked, table) := b.table.markSuccess b.now id
      (.ok marked, { b with table })
  | .markFailed id error, b =>
    b.attempt "mark_failed" fun b =>
      let (marked, table) := b.table.markFailed b.now id error
      (.ok marked, { b with table })
  | .recordFailure id error maxAttempts, b =>
    match b.take "record_failure" with
    | (some (.fail e), b) => (.failed e, b)
    | (_, b) => b.recordFailure id error maxAttempts
  | .pendingStats name, b =>
    b.attempt "pending_stats" fun b => (.ok (Int.ofNat (b.table.pendingCount name), b.age), b)
  | .count counter, b => ((), { b with metrics := b.metrics.map (·.count counter) })
  | .setGauges pending age, b =>
    ((), { b with metrics := b.metrics.map fun m => { m with pending, age } })

/-- Note a call and answer it. -/
def reply (c : Call) (b : Bench) : Answer c × Bench := act c (b.note (.call 0 c))

end Bench

/-! ## Texts of what was seen -/

/-- The label of a point in time that differs from run to run. -/
def nowLabel : Json := .str "<now>"

/-- Change the member of a name, if it is there. -/
def changeMember (name : String) (change : Json → Json) : Json → Json
  | .obj members => .obj (members.map fun m => if m.1 == name then (name, change m.2) else m)
  | j => j

/-- A task whose time of publication is replaced by its label. -/
def taskJson (now : Int) (t : Task) : Json :=
  let label : Json → Json
    | .int n => if n == now then nowLabel else .int n
    | j => j
  let payload := changeMember "eventMetadata" (changeMember "publishedAt" label) t.payload
  Task.toJson { t with payload }

/-- The name of a call and what it was given; calls that are no concern of the store or of the
queue have none. -/
def callMembers? (now : Int) : Call → Option (List (String × Json))
  | .findPending name limit _ =>
    some [("call", .str "find_pending"), ("name", .str name), ("limit", .int limit)]
  | .enqueue task options =>
    some [("call", .str "enqueue"), ("task", taskJson now task),
      ("task_id", .ofOption .str options.taskId), ("max_retry", .int options.maxRetry),
      ("queue", .ofOption .str options.queue)]
  | .markSuccess id => some [("call", .str "mark_success"), ("id", .ofUuid id)]
  | .markFailed id error =>
    some [("call", .str "mark_failed"), ("id", .ofUuid id), ("error", .str error)]
  | .recordFailure id error maxAttempts =>
    some [("call", .str "record_failure"), ("id", .ofUuid id), ("error", .str error),
      ("max_attempts", .int maxAttempts)]
  | .pendingStats name => some [("call", .str "pending_stats"), ("name", .str name)]
  | _ => none

def Note.toJson? (now : Int) (timed : Bool) : Note → Option Json
  | .call time c =>
    (callMembers? now c).map fun members =>
      .obj (members ++ if timed then [("t", Json.int time)] else [])
  | .enqueueDone time accepted =>
    some (.obj [("call", .str "enqueue_done"), ("ok", .bool accepted), ("t", .int time)])

namespace Bench

/-- A row as it is shown. -/
def row (e : OutboxEvent) : Json :=
  .arr [.ofUuid e.id, .str e.status.text, .int e.attempts, .ofOption .str e.lastError]

/-- What can be seen of the bench, the notes so far included. -/
def view (b : Bench) (timed : Bool) : List (String × Json) :=
  [("trace", .arr (b.notes.filterMap (Note.toJson? b.now timed))), ("rows", .arr (b.table.map row)),
    ("accepted", .arr (b.accepted.map .str)), ("metrics", .ofOption Metrics.toJson b.metrics)]

end Bench

end SignIn.Rehearsal
