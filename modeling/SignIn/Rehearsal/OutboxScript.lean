import SignIn.Failure.Report
import SignIn.LoginWorker
import SignIn.Rehearsal.OutboxBench

/-!
# Rehearsing deliveries

A script lays out events and mishaps and has the processor poll. After every step
the calls that it made and the state of the bench are shown, unless there was a
panic: then nothing is shown but the panic.
-/

namespace SignIn.Rehearsal

open Outbox (Config Processor BatchReport EventOutcome)

/-- The argument of a member, if it is there and not null. -/
def given? (j : Json) (name : String) : Option Json :=
  match j.member? name with
  | some .null => none
  | found => found

/-- The items of a member, none if it is no array. -/
def items (j : Json) (name : String) : List Json :=
  match j.member? name with
  | some (.arr items) => items
  | _ => []

/-- A member that is a natural number, or its default. -/
def natOr (j : Json) (name : String) (default : Nat) : Nat :=
  match given? j name with
  | some (.int n) => n.toNat
  | _ => default

/-- A member that is an integer, or its default. -/
def intOr (j : Json) (name : String) (default : Int) : Int :=
  match given? j name with
  | some (.int n) => n
  | _ => default

/-- A member that is a text, or its default. -/
def textOr (j : Json) (name default : String) : String := ((given? j name).bind Json.str?).getD default

/-- The settings of a processor, where they differ from the usual ones. -/
def configOf (j : Json) : Config :=
  let usual : Config := { eventName := EventName.login.text }
  { eventName := textOr j "event_name" usual.eventName
    pollInterval := natOr j "poll_interval_ms" usual.pollInterval
    batchSize := natOr j "batch_size" usual.batchSize
    maxRetry := natOr j "max_retry" usual.maxRetry
    maxAttempts := intOr j "max_attempts" usual.maxAttempts
    shutdownGrace := natOr j "shutdown_grace_ms" usual.shutdownGrace
    queue := (given? j "queue").bind Json.str? }

/-- Passes the payload on, unless a member of it asks for a failure. -/
def plainBuilder : Outbox.Builder := fun e =>
  match e.payload.member? "fail" with
  | some written =>
    match OutboxError.ofWritten? written with
    | some error => .error error
    | none => .ok fun _ => ⟨e.name, e.payload⟩
  | none => .ok fun _ => ⟨e.name, e.payload⟩

/-- The processor that a script describes. -/
def processorOf (j : Json) : Processor where
  config := configOf ((given? j "config").getD (.obj []))
  builder := if textOr j "builder" "" == "login" then LoginNotice.task else plainBuilder
  metered := (given? j "metrics").isSome

/-- The bench at the beginning of a script. -/
def benchOf (now : Int) (j : Json) : Bench where
  now
  table := (items j "events").filterMap OutboxEvent.ofJson?
  metrics := (given? j "metrics").map fun _ => {}

namespace Bench

/-- Stage the mishaps of a step. -/
def stage (b : Bench) (step : Json) : Bench :=
  let outcomes := (items step "errors").map OutboxMishap.ofJson?
  { b with mishaps := b.mishaps.add (textOr step "on" "") outcomes }

/-- Put the events of a step into the table. -/
def insert (b : Bench) (step : Json) : Bench :=
  { b with table := b.table ++ (items step "events").filterMap OutboxEvent.ofJson? }

end Bench

def outcomeText : EventOutcome → String
  | .delivered => "Delivered"
  | .retrying => "Retrying"
  | .failed => "Failed"

def reportJson (r : BatchReport) : Json :=
  .obj [("fetched", .int r.fetched), ("delivered", .int r.delivered), ("retrying", .int r.retrying),
    ("failed", .int r.failed), ("errored", .int r.errored), ("skipped", .int r.skipped),
    ("empty", .bool r.isEmpty)]

/-- Take one step of a script; the result says what came of it. -/
def outboxStep (p : Processor) (b : Bench) (step : Json) : Except Panic (Json × Bench) := do
  match textOr step "do" "" with
  | "poll" =>
    let (outcome, b) := Dialogue.run Bench.reply p.pollOnce b
    return (reportJson (← outcome.value), b)
  | "process" =>
    match step.member? "event" >>= OutboxEvent.ofJson? with
    | none => return (.null, b)
    | some e =>
      let (outcome, b) := Dialogue.run Bench.reply (p.processEvent e) b
      match ← outcome.result with
      | .ok outcome => return (.str (outcomeText outcome), b)
      | .error e => return (e.report, b)
  | "insert" => return (.null, b.insert step)
  | "fault" => return (.null, b.stage step)
  | "age" => return (.null, { b with age := intOr step "value" 0 })
  | "config" => return (p.config.toJson, b)
  | _ => return (.null, b)

/-- What the steps show, one after the other. -/
def outboxSteps (p : Processor) : Bench → List Json → Except Panic (List Json)
  | _, [] => .ok []
  | b, step :: rest => do
    let (result, b) ← outboxStep p { b with notes := [] } step
    return .obj (("result", result) :: b.view false) :: (← outboxSteps p b rest)

/-- What a script for deliveries shows, step by step. -/
def outbox (now : Int) (script : Json) : Except Panic Json := do
  return .arr (← outboxSteps (processorOf script) (benchOf now script) (items script "steps"))

end SignIn.Rehearsal
