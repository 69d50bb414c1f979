import SignIn.Json.Record
import SignIn.Text.Quoted

/-!
# Tasks

A task is a name and a payload. Its options may fix its id, by which a queue
recognises a task that it has accepted before.
-/

namespace SignIn

/-- A task for somebody else, by its name. -/
structure Task where
  name : String
  payload : Json

namespace Task

def toJson (t : Task) : Json := .obj [("name", .str t.name), ("payload", t.payload)]

/-- The task in a JSON value. Its payload may be any value, but has to be there. -/
def ofJson? (j : Json) : Option Task := do
  let f ← j.fields? ["name", "payload"]
  return {
    name := ← f.required "name" Json.str?
    payload := ← f.required "payload" some }

end Task

/-- The wishes for a task. Without an id it gets one, and without a queue it goes to the usual one.
-/
structure TaskOptions where
  taskId : Option String := none
  maxRetry : Nat := 5
  queue : Option String := none
  deriving DecidableEq, Repr, Inhabited

namespace TaskOptions

def debugOption : Option String → String
  | none => "None"
  | some s => "Some(" ++ Quoted.text s ++ ")"

/-- The options for diagnostics. -/
def debugText (o : TaskOptions) : String :=
  "TaskOptions \x7b task_id: " ++ debugOption o.taskId ++ ", max_retry: " ++
    Decimal.text o.maxRetry ++ ", queue: " ++ debugOption o.queue ++ " \x7d"

end TaskOptions

/-- Where an accepted task is. -/
structure TaskInfo where
  id : String
  queue : String
  deriving DecidableEq, Repr

end SignIn
