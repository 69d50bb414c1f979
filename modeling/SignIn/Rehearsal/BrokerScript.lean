import SignIn.Failure.Report
import SignIn.Rehearsal.Chance
import SignIn.Rehearsal.OutboxScript
import SignIn.TaskQueue.Broker

/-!
# Rehearsing the broker

The broker's server answers the runs of the script from a list, and accepts when
the list is at its end. The runs are shown with labels for drawn ids and for the
time.
-/

namespace SignIn.Rehearsal

/-- A queue server that gives scripted replies and notes what it is asked. -/
structure BrokerServer where
  now : Int
  drawn : Nat := 0
  replies : List Broker.Reply := []
  calls : List (Option Broker.Run) := []

namespace BrokerServer

/-- What a server says to a script that it does not have. -/
def forgotten : String := "NOSCRIPT No matching script. Please use EVAL."

/-- The reply that is written in the script. -/
def replyOf : Json → Broker.Reply
  | .int n => .ok n
  | .str _ => .error (.refused forgotten)
  | j => .error (.refused (textOr j "error" ""))

/-- Answer one call of the client. -/
def reply : (c : Broker.Call) → BrokerServer → Broker.Answer c × BrokerServer
  | .now, s => (s.now, s)
  | .freshId, s => (freshId s.drawn, { s with drawn := s.drawn + 1 })
  | .connect _, s => (false, s)
  | .load, s => (.ok (), { s with calls := s.calls ++ [none] })
  | .run script, s =>
    (s.replies.head?.getD (.ok 1),
      { s with replies := s.replies.tail, calls := s.calls ++ [some script] })

/-- The text with labels for what the server drew and for the time of enqueuing. -/
def labelled (s : BrokerServer) (text : String) : String :=
  let stamp (time : String) := "\"enqueued_at\":" ++ time ++ "\x7d"
  let timed := text.replace (stamp (Decimal.text s.now)) (stamp "<now>")
  (List.range s.drawn).foldl (fun text draw => text.replace (freshId draw).text "<uuid v4>") timed

def textsJson (s : BrokerServer) (texts : List String) : Json :=
  .arr (texts.map fun text => .str (s.labelled text))

/-- What the server was asked. -/
def callJson (s : BrokerServer) : Option Broker.Run → Json
  | none => .str "script load"
  | some script => .obj [("keys", s.textsJson script.keys), ("args", s.textsJson script.args)]

/-- An error, with a label for an id that was drawn. -/
def labelledError (s : BrokerServer) : OutboxError → OutboxError
  | .taskIdConflict id => .taskIdConflict (s.labelled id)
  | e => e

/-- How an attempt to hand over a task ended. -/
def outcomeJson (s : BrokerServer) : Outcome OutboxError TaskInfo → Json
  | .ok info =>
    .obj [("ok", .obj [("id", .str (s.labelled info.id)), ("queue", .str info.queue)])]
  | .failed e => (s.labelledError e).report
  | .panicked p => p.report

/-- Hand over the task of one step. -/
def step (broker : Broker) (s : BrokerServer) (j : Json) : Json × BrokerServer :=
  let task : Task := ⟨textOr j "name" "", (j.member? "payload").getD .null⟩
  let usual : TaskOptions := {}
  let options : TaskOptions := {
    taskId := (given? j "task_id").bind Json.str?
    maxRetry := natOr j "max_retry" usual.maxRetry
    queue := (given? j "queue").bind Json.str? }
  let s := { s with replies := (items j "replies").map replyOf, calls := [] }
  let (outcome, s) := Dialogue.run reply (broker.enqueue task options) s
  (.obj [("result", s.outcomeJson outcome), ("calls", .arr (s.calls.map s.callJson))], s)

/-- What the steps show, one after the other. -/
def steps (broker : Broker) : BrokerServer → List Json → List Json
  | _, [] => []
  | s, j :: rest =>
    let (shown, s) := step broker s j
    shown :: steps broker s rest

end BrokerServer

/-- What a script for the broker shows, step by step. An address is given only if nobody answers there. -/
def broker (now : Int) (script : Json) : Json :=
  let space := textOr script "namespace" ""
  let queue := textOr script "default_queue" ""
  let ttl := natOr script "dedup_ttl_ms" 0
  match (given? script "url").bind Json.str? with
  | some url =>
    match Dialogue.run BrokerServer.reply (Broker.connect url space queue ttl) { now } with
    | (.ok _, _) => .null
    | (.failed e, _) => e.report
    | (.panicked p, _) => p.report
  | none => .obj [("ok", .arr (BrokerServer.steps ⟨space, queue, ttl⟩ { now } (items script "steps")))]

end SignIn.Rehearsal
