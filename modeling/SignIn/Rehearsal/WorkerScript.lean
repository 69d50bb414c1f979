import SignIn.Rehearsal.OutboxScript

/-!
# Rehearsing the worker

The clock of this rehearsal stands still until somebody waits, and then jumps to
the next moment at which something happens: a tick, the end of a call that takes
its time, or the next step of the script. A step takes a picture of the bench and
then acts on the signals of the worker.
-/

namespace SignIn.Rehearsal

open Outbox (Call Answer Processor Signal Turn)

/-- The owner of the worker holds its handle, has let it go, or waits for the end. -/
inductive Owner where
  | holding
  | gone
  | waiting
  deriving DecidableEq

/-- How a worker came to its end. -/
inductive End where
  | clean
  | crashed
  deriving DecidableEq

/-- The worker in a rehearsal: the bench, the time, and the signals to it. -/
structure Stage where
  bench : Bench
  time : Nat := 0
  fetchDelay : Nat := 0
  queueDelay : Nat := 0
  shutdown : Signal := {}
  stop : Signal := {}
  owner : Owner := .holding
  period : Nat := 1
  due : Nat := 0
  ended : Option End := none
  script : List Json := []
  pictures : List Json := []

namespace Stage

def view (s : Stage) : List (String × Json) := s.bench.view true

/-- Show the notes so far and start anew. -/
def publish (s : Stage) (members : List (String × Json)) : Stage :=
  { s with
    pictures := s.pictures ++ [.obj (members ++ s.view)]
    bench := { s.bench with notes := [] } }

/-- Take a picture of the table, and say whether the worker has ended. -/
def picture (s : Stage) (step : Json) : Stage :=
  let finished := if s.owner = .holding then Json.bool s.ended.isSome else .null
  s.publish [("at", .int (natOr step "at" 0)), ("finished", finished)]

/-- Show the end of a worker whose owner waits for it. -/
def showEnd (s : Stage) : Stage :=
  match s.ended, s.owner with
  | some e, .waiting =>
    { s.publish [("joined_at", .int s.time), ("clean", .bool (e == .clean))] with owner := .gone }
  | _, _ => s

/-- Act on the worker from outside. -/
def act (s : Stage) (step : Json) : Stage :=
  match textOr step "do" "" with
  | "insert" => { s with bench := s.bench.insert step }
  | "fault" => { s with bench := s.bench.stage step }
  | "stop" => { s with stop := s.stop.send true }
  | "shutdown" =>
    let value := ((given? step "value").bind Json.bool?).getD true
    { s with shutdown := s.shutdown.send value }
  | "drop_shutdown" => { s with shutdown := s.shutdown.close }
  | "drop_handle" => { s with owner := .gone, stop := s.stop.close }
  | "join" => showEnd { s with owner := .waiting }
  | "shutdown_join" => showEnd { s with owner := .waiting, stop := s.stop.send true }
  | _ => s

/-- The moment of the next step, unless the script waits for the end of the worker. -/
def nextStep? (s : Stage) : Option (Nat × Json × List Json) :=
  match s.owner, s.script with
  | .waiting, _ => none
  | _, [] => none
  | _, step :: rest => some (max s.time (natOr step "at" 0), step, rest)

/-- Take the next step of the script at its moment. -/
def takeStep (s : Stage) (time : Nat) (step : Json) (rest : List Json) : Stage :=
  act (picture { s with time, script := rest } step) step

/-- Let time pass, at most `fuel` steps of the script included. -/
def advance : Nat → Nat → Stage → Stage
  | 0, target, s => { s with time := max s.time target }
  | fuel + 1, target, s =>
    match s.nextStep? with
    | some (time, step, rest) =>
      if time ≤ target then advance fuel target (s.takeStep time step rest)
      else { s with time := max s.time target }
    | none => { s with time := max s.time target }

/-- Let time pass, with all that the script has for it. -/
def passTime (s : Stage) (duration : Nat) : Stage :=
  advance s.script.length (s.time + duration) s

/-- A tick that comes more than five milliseconds late puts the next one a whole period later. -/
def tick (s : Stage) : Stage :=
  { s with due := if s.due + 5 < s.time then s.time + s.period else s.due + s.period }

/-- Wait until something concerns the worker. -/
def wake (hearStop : Bool) : Nat → Stage → Outbox.Wake × Stage
  | 0, s => (.tick, s)
  | fuel + 1, s =>
    if s.shutdown.news then
      (.shutdown s.shutdown.value, { s with shutdown := { s.shutdown with news := false } })
    else if !s.shutdown.isOpen then (.shutdownClosed, s)
    else if hearStop && s.stop.news then
      (.stop s.stop.value, { s with stop := { s.stop with news := false } })
    else if hearStop && !s.stop.isOpen then (.stopClosed, s)
    else if s.due ≤ s.time then (.tick, s.tick)
    else
      match s.nextStep? with
      | some (time, step, rest) =>
        if time ≤ s.due then wake hearStop fuel (s.takeStep time step rest)
        else (.tick, ({ s with time := s.due } : Stage).tick)
      | none => (.tick, ({ s with time := s.due } : Stage).tick)

def note (s : Stage) (c : Call) : Stage := { s with bench := s.bench.note (.call s.time c) }

/-- Have the bench answer. -/
def answer (s : Stage) (c : Call) : Answer c × Stage :=
  let (answer, bench) := s.bench.act c
  (answer, { s with bench })

/-- Note the end of an attempt to hand over a task, if it takes time. -/
def noteDone (s : Stage) (accepted : Bool) : Stage :=
  if s.queueDelay = 0 then s else { s with bench := s.bench.note (.enqueueDone s.time accepted) }

/-- Answer one call of the worker. -/
def reply : (c : Call) → Stage → Answer c × Stage
  | .clock, s => (s.time, s)
  | .stopRequested, s => (s.shutdown.value || !s.shutdown.isOpen || s.stop.value, s)
  | .wake hearStop, s => s.wake hearStop (s.script.length + 1)
  | .findPending name limit deadline, s =>
    let call := Call.findPending name limit deadline
    let s := s.note call
    match deadline with
    | some last =>
      if s.time + s.fetchDelay ≤ last then (s.passTime s.fetchDelay).answer call
      else (none, s.passTime (last - s.time))
    | none => (s.passTime s.fetchDelay).answer call
  | .enqueue task options, s =>
    let call := Call.enqueue task options
    let (result, s) := ((s.note call).passTime s.queueDelay).answer call
    (result, s.noteDone result.isOk)
  | c, s => (s.note c).answer c

/-- The script has come to its end, or waits for nobody. -/
def isOver (s : Stage) : Bool := s.script.isEmpty && s.owner != .waiting

/-- Have the worker take turns until it ends or nobody looks any more. -/
def play (p : Processor) : Nat → Turn → Stage → Stage
  | 0, _, s => s
  | fuel + 1, turn, s =>
    if s.isOver then s
    else
      match Dialogue.run reply (p.turns 1 turn) s with
      | (.ok .ended, s) => showEnd { s with ended := some .clean }
      | (.ok turn, s) => play p fuel turn s
      | (.panicked _, s) => showEnd { s with ended := some .crashed }

/-- Take the rest of the script, when there is no worker any more. -/
def finish : Nat → Stage → Stage
  | 0, s => s
  | fuel + 1, s =>
    match s.nextStep? with
    | some (time, step, rest) => finish fuel (s.takeStep time step rest)
    | none => s

end Stage

/-- More turns than any worker takes whose end is waited for. -/
def turnLimit : Nat := 10000000

def workerProcessor (script : Json) : Processor :=
  match (given? script "worker").bind WorkerSettings.ofJson? with
  | some settings => LoginWorker.processor settings (given? script "metrics").isSome
  | none => processorOf script

/-- The stage at the beginning of a script. -/
def stageOf (now : Int) (script : Json) (p : Processor) : Stage where
  bench := (items script "faults").foldl Bench.stage (benchOf now script)
  fetchDelay := natOr script "fetch_delay_ms" 0
  queueDelay := natOr script "queue_delay_ms" 0
  shutdown := { value := ((given? script "shutdown_initially").bind Json.bool?).getD false }
  period := p.period
  script := items script "steps"

/-- What a script for the worker shows: a picture for each step, and the end if it is waited for. -/
def worker (now : Int) (script : Json) : Json :=
  let p := workerProcessor script
  let s := (stageOf now script p).play p turnLimit .listening
  .arr (s.finish s.script.length).pictures

end SignIn.Rehearsal
