import SignIn.Attempt
import SignIn.Failure.Outbox
import SignIn.TaskQueue.Envelope
import SignIn.TaskQueue.Location

/-!
# The broker

The broker claims the id of a task and pushes its envelope in one script, so a
second task with a claimed id is refused and a refused task leaves no claim. The
server runs scripts that it was given before; when it has forgotten the script,
it is given the script again and asked once more.
-/

namespace SignIn

namespace Broker

/-- A run of the enqueuing script, with the keys that it touches. -/
structure Run where
  keys : List String
  args : List String
  deriving DecidableEq, Repr

/-- Why a call brought nothing: the server refused it with a line, or it failed on the way. -/
inductive Trouble where
  | refused (line : String)
  | broken (text : String)
  deriving DecidableEq, Repr

/-- What comes of a run of the script. -/
abbrev Reply : Type := Except Trouble Int

/-- What a client of the queue asks for. -/
inductive Call where
  | now
  | freshId
  | connect (url : String)
  | run (script : Run)
  | load

abbrev Answer : Call → Type
  | .now => Int
  | .freshId => Uuid
  | .connect _ => Bool
  | .run _ => Reply
  | .load => Except Trouble Unit

/-- A piece of the broker's work. -/
abbrev Step (α : Type) : Type := Attempt Call Answer OutboxError α

def put (call : Call) : Dialogue Call Answer (Answer call) := Dialogue.put call

/-! ## Refusals -/

/-- The code that opens the line of a refusal, and what follows it. -/
def codeAndText (line : String) : String × Option String :=
  let cs := line.toList
  let code := String.ofList (cs.takeWhile (· != ' '))
  match cs.dropWhile (· != ' ') with
  | [] => (code, none)
  | _ :: rest => (code, some (String.ofList rest))

/-- The kinds of refusals that have a code of their own. -/
def kinds : List (String × String) :=
  [("ERR", "ResponseError"), ("EXECABORT", "ExecAbortError"), ("LOADING", "BusyLoadingError"),
    ("NOSCRIPT", "NoScriptError"), ("MOVED", "Moved"), ("ASK", "Ask"), ("TRYAGAIN", "TryAgain"),
    ("CLUSTERDOWN", "ClusterDown"), ("CROSSSLOT", "CrossSlot"), ("MASTERDOWN", "MasterDown"),
    ("READONLY", "ReadOnly"), ("NOTBUSY", "NotBusy")]

/-- A refusal with a code of its own is reported by its kind, any other by its code. -/
def refusalText (line : String) : String :=
  let (code, text) := codeAndText line
  match kinds.lookup code, text with
  | some kind, some text => "An error was signalled by the server - " ++ kind ++ ": " ++ text
  | some kind, none => "An error was signalled by the server- " ++ kind
  | none, some text => code ++ ": " ++ text
  | none, none => code ++ ": Unknown extension error encountered"

namespace Trouble

def message : Trouble → String
  | .refused line => refusalText line
  | .broken text => text

/-- The server does not know the script. -/
def isUnknownScript : Trouble → Bool
  | .refused line => (codeAndText line).1 == "NOSCRIPT"
  | .broken _ => false

end Trouble

/-- Run the script; load it first if the server has to learn it. -/
def run (script : Run) : Dialogue Call Answer Reply :=
  (put (.run script)).andThen fun (reply : Reply) =>
    match reply with
    | .ok n => .done (.ok n)
    | .error trouble =>
      if trouble.isUnknownScript then
        (put .load).andThen fun (loaded : Except Trouble Unit) =>
          match loaded with
          | .ok () => put (.run script)
          | .error trouble => .done (.error trouble)
      else .done (.error trouble)

/-- What the reply to the script means for the task with this id. -/
def verdict (id : String) : Reply → Except OutboxError Unit
  | .ok 1 => .ok ()
  | .ok 0 => .error (.taskIdConflict id)
  | .ok n => .error (.enqueueFailed ("unexpected enqueue reply " ++ Decimal.text n))
  | .error trouble => .error (.enqueueFailed trouble.message)

end Broker

/-- A connection to the broker. The claim on an id lasts for the given milliseconds. -/
structure Broker where
  space : String
  defaultQueue : String
  claimTtl : Nat

namespace Broker

/-- The key under which a task is remembered. -/
def taskKey (space id : String) : String := space ++ ":task:" ++ id

/-- The key of the list that holds the tasks of a queue. -/
def queueKey (space queue : String) : String := space ++ ":queue:" ++ queue

/-- Claims last for whole seconds, and for one at least. -/
def claimSeconds (b : Broker) : Nat := max 1 (b.claimTtl / 1000)

/-- The run of the script that enqueues an envelope. -/
def script (b : Broker) (e : Envelope) : Run where
  keys := [taskKey b.space e.id, queueKey b.space e.queue]
  args := [e.queue, Decimal.text b.claimSeconds, e.text]

/-- Hand a task to the queue. A task without an id gets a fresh one. -/
def enqueue (b : Broker) (task : Task) (options : TaskOptions) : Step TaskInfo := do
  let queue := options.queue.getD b.defaultQueue
  let id ← match options.taskId with
    | some id => pure id
    | none => do
      let id : Uuid ← .hear (put .freshId)
      pure id.text
  let now : Int ← .hear (put .now)
  let reply ← .hear (run (b.script ⟨id, task, queue, options.maxRetry, now⟩))
  .ofExcept (verdict id reply)
  return ⟨id, queue⟩

/-- Connect to the broker at an address. -/
def connect (url space defaultQueue : String) (claimTtl : Nat) : Step Broker := do
  if isAddress url then
    let connected : Bool ← .hear (put (.connect url))
    if connected then return ⟨space, defaultQueue, claimTtl⟩
    else .fail (.other "failed to initialize Redis connection manager")
  else .fail (.other "failed to construct Redis client")

end Broker

end SignIn
