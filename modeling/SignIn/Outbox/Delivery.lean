import SignIn.Attempt
import SignIn.Outbox.Event
import SignIn.TaskQueue.Task

/-!
# Delivery

A batch of pending events is fetched, oldest first, and one after the other is
turned into a task, enqueued, and settled. The id of the event is the id of the
task, so an event that is met again after a lost update is refused by the queue
and settled without a second task. Between two events, and only there, a batch
may be stopped. An event that fails does not stop the batch, but a panic does.
-/

namespace SignIn.Outbox

/-- What a delivery counts. -/
inductive Counter where
  | delivered
  | failed
  | retried
  deriving DecidableEq, Repr

/-- Why a waiting worker goes on. -/
inductive Wake where
  | shutdown (value : Bool)
  | shutdownClosed
  | stop (value : Bool)
  | stopClosed
  | tick
  deriving DecidableEq, Repr

/-- What a worker asks of the outbox, the queue, the clock and its owner. -/
inductive Call where
  | now
  | clock
  | stopRequested
  | wake (hearStop : Bool)
  | findPending (name : String) (limit : Nat) (deadline : Option Nat)
  | enqueue (task : Task) (options : TaskOptions)
  | markSuccess (id : Uuid)
  | markFailed (id : Uuid) (error : String)
  | recordFailure (id : Uuid) (error : String) (maxAttempts : Int)
  | pendingStats (name : String)
  | count (counter : Counter)
  | setGauges (pending age : Int)

/-- Times of the clock are milliseconds since the worker started. A fetch that passes its deadline
has no answer. A table that counts attempts in a word may panic. -/
abbrev Answer : Call → Type
  | .now => Int
  | .clock => Nat
  | .stopRequested => Bool
  | .wake _ => Wake
  | .findPending .. => Option (Except OutboxError (List OutboxEvent))
  | .enqueue .. => Except OutboxError TaskInfo
  | .markSuccess _ => Except OutboxError Bool
  | .markFailed .. => Except OutboxError Bool
  | .recordFailure .. => Outcome OutboxError OutboxStatus
  | .pendingStats _ => Except OutboxError (Int × Int)
  | .count _ => Unit
  | .setGauges .. => Unit

/-- A piece of work for one event, which may fail. -/
abbrev Step (α : Type) : Type := Attempt Call Answer OutboxError α

/-- A piece of work that goes on whatever fails. -/
abbrev Duty (α : Type) : Type := Attempt Call Answer Empty α

def put (call : Call) : Dialogue Call Answer (Answer call) := Dialogue.put call

/-- Ask for something that cannot fail. -/
def ask {ε : Type} (call : Call) : Attempt Call Answer ε (Answer call) := .hear (put call)

/-- How a worker delivers. Times are milliseconds. -/
structure Config where
  eventName : String
  pollInterval : Nat := 10000
  batchSize : Nat := 1000
  maxRetry : Nat := 5
  maxAttempts : Int := 5
  shutdownGrace : Nat := 10000
  queue : Option String := none
  deriving DecidableEq, Repr

/-- Turns an event into a task, which is complete when the time of publication is known. -/
abbrev Builder : Type := OutboxEvent → Except OutboxError (Int → Task)

/-- What delivers events: the builder of its tasks, and whether it counts what it does. -/
structure Processor where
  config : Config
  builder : Builder
  metered : Bool := false

/-- What became of one event. -/
inductive EventOutcome where
  | delivered
  | retrying
  | failed
  deriving DecidableEq, Repr

/-- What became of the events of a batch. -/
structure BatchReport where
  fetched : Nat := 0
  delivered : Nat := 0
  retrying : Nat := 0
  failed : Nat := 0
  errored : Nat := 0
  skipped : Nat := 0
  deriving DecidableEq, Repr, Inhabited

namespace BatchReport

/-- Was there nothing to deliver? -/
def isEmpty (r : BatchReport) : Bool := r.fetched == 0

/-- Add the result of one event. -/
def add (r : BatchReport) : Except OutboxError EventOutcome → BatchReport
  | .ok .delivered => { r with delivered := r.delivered + 1 }
  | .ok .retrying => { r with retrying := r.retrying + 1 }
  | .ok .failed => { r with failed := r.failed + 1 }
  | .error _ => { r with errored := r.errored + 1 }

end BatchReport

/-- When a batch has to stop early. -/
inductive Gate where
  | never
  | signals
  | deadline (time : Nat)
  deriving DecidableEq, Repr

namespace Gate

/-- The moment at which a gate closes by itself. -/
def deadline? : Gate → Option Nat
  | .deadline time => some time
  | _ => none

/-- Is the gate closed now? -/
def isSet : Gate → Duty Bool
  | .never => pure false
  | .signals => ask .stopRequested
  | .deadline time => do
    let now : Nat ← ask .clock
    return time ≤ now

end Gate

namespace Processor

variable (p : Processor)

/-- The task of an event has the id of the event, so that a queue can tell it from another. -/
def options (e : OutboxEvent) : TaskOptions :=
  ⟨some e.id.text, p.config.maxRetry, p.config.queue⟩

def count (counter : Counter) : Step Unit :=
  if p.metered then ask (.count counter) else pure ()

/-- Record that a task is in the queue. It was delivered even if another worker has recorded it. -/
def settleDelivered (id : Uuid) : Step EventOutcome := do
  let changed ← .call (put (.markSuccess id))
  if changed then p.count .delivered
  return .delivered

/-- Give an event up. -/
def settleFailed (id : Uuid) (reason : String) : Step EventOutcome := do
  let changed ← .call (put (.markFailed id reason))
  if changed then p.count .failed
  return .failed

/-- The number of an attempt that failed. It is counted in a word, before anything is recorded. -/
def nextAttempt (e : OutboxEvent) : Step Int :=
  if Decimal.Range.i32.contains (e.attempts + 1) then pure (e.attempts + 1)
  else .ofOutcome (.panicked .addOverflow)

/-- Count an attempt that failed. -/
def settleAttempt (e : OutboxEvent) (reason : String) : Step EventOutcome := do
  let _ ← nextAttempt e
  let outcome : Outcome OutboxError OutboxStatus ←
    ask (.recordFailure e.id reason p.config.maxAttempts)
  match ← Attempt.ofOutcome outcome with
  | .failed => do
    p.count .failed
    return .failed
  | _ => do
    p.count .retried
    return .retrying

/-- Record the answer of the queue. -/
def settle (e : OutboxEvent) : Except OutboxError TaskInfo → Step EventOutcome
  | .ok _ => p.settleDelivered e.id
  | .error (.taskIdConflict _) => p.settleDelivered e.id
  | .error error =>
    if error.isFatal then p.settleFailed e.id error.message else p.settleAttempt e error.message

/-- Build, enqueue and settle one event. -/
def processEvent (e : OutboxEvent) : Step EventOutcome :=
  match p.builder e with
  | .error error => p.settleFailed e.id error.message
  | .ok taskAt => do
    let now : Int ← ask .now
    let answer : Except OutboxError TaskInfo ← ask (.enqueue (taskAt now) (p.options e))
    p.settle e answer

/-- Handle events one after the other, until the gate is set. -/
def processAll (gate : Gate) (report : BatchReport) : List OutboxEvent → Duty BatchReport
  | [] => pure report
  | e :: rest => do
    if ← gate.isSet then return { report with skipped := rest.length + 1 }
    else
      let result ← (p.processEvent e).result
      processAll gate (report.add result) rest

/-- Fetch a batch and settle its events one after the other. A deadline may come first. -/
def processBatch (gate : Gate) : Duty BatchReport := do
  let found : Option (Except OutboxError (List OutboxEvent)) ←
    ask (.findPending p.config.eventName p.config.batchSize gate.deadline?)
  match found with
  | some (.ok events) => p.processAll gate { fetched := events.length } events
  | _ => return {}

/-- Show how much is pending. A failure is of no consequence. -/
def refreshMetrics : Duty Unit := do
  if p.metered then
    let stats : Except OutboxError (Int × Int) ← ask (.pendingStats p.config.eventName)
    match stats with
    | .ok (pending, age) => ask (.setGauges pending age)
    | .error _ => return ()
  else return ()

/-- One batch that nothing stops. -/
def pollOnce : Duty BatchReport := do
  let report ← p.processBatch .never
  p.refreshMetrics
  return report

end Processor

end SignIn.Outbox
