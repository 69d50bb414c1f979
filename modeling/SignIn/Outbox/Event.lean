import SignIn.Failure.Outbox
import SignIn.Json.Record

/-!
# Events of the outbox

An event is a stored wish for a task. It is pending until it has been delivered
or given up, and then it stays as it is.
-/

namespace SignIn

/-- Where an event stands. Only a pending one is worked on. -/
inductive OutboxStatus where
  | pending
  | success
  | failed
  deriving DecidableEq, Repr

namespace OutboxStatus

/-- The word that is stored. -/
def text : OutboxStatus → String
  | .pending => "pending"
  | .success => "success"
  | .failed => "failed"

/-- The name of the status for diagnostics. -/
def debugText : OutboxStatus → String
  | .pending => "Pending"
  | .success => "Success"
  | .failed => "Failed"

/-- The status of a stored word. Another word is reported, not guessed. -/
def ofText (s : String) : Except OutboxError OutboxStatus :=
  match s with
  | "pending" => .ok .pending
  | "success" => .ok .success
  | "failed" => .ok .failed
  | s => .error (.unknownStatus s)

@[simp] theorem ofText_text (s : OutboxStatus) : ofText s.text = .ok s := by
  cases s <;> rfl

/-- Is the event settled for good? -/
def isTerminal (s : OutboxStatus) : Bool := s != .pending

def ofJson? (j : Json) : Option OutboxStatus := do (ofText (← j.caseName?)).toOption

end OutboxStatus

/-- A row of the outbox. Its id is the id of its task. Times are milliseconds since 1970. -/
structure OutboxEvent where
  id : Uuid
  name : String
  payload : Json
  status : OutboxStatus
  attempts : Int
  lastError : Option String
  createdAt : Int
  updatedAt : Int

namespace OutboxEvent

/-- A new event, under a fresh id. -/
def make (id : Uuid) (now : Int) (name : String) (payload : Json) : OutboxEvent :=
  ⟨id, name, payload, .pending, 0, none, now, now⟩

/-- A new event whose payload had to be encoded first. -/
def ofEncoded (id : Uuid) (now : Int) (name : String) (payload : Except String Json) :
    Except OutboxError OutboxEvent :=
  match payload with
  | .ok j => .ok (make id now name j)
  | .error text => .error (.serialization text)

/-- The event as it is shown, with all its fields. -/
def toJson (e : OutboxEvent) : Json :=
  .obj [("id", .ofUuid e.id), ("event_name", .str e.name), ("payload", e.payload),
    ("status", .str e.status.text), ("attempts", .int e.attempts),
    ("last_error", .ofOption .str e.lastError), ("created_at", .int e.createdAt),
    ("updated_at", .int e.updatedAt)]

/-- The event in a JSON value, if all fields are there and have their types. -/
def ofJson? (j : Json) : Option OutboxEvent := do
  let f ← j.fields? ["id", "event_name", "payload", "status", "attempts", "last_error",
    "created_at", "updated_at"]
  return {
    id := ← f.required "id" Json.uuid?
    name := ← f.required "event_name" Json.str?
    payload := ← f.required "payload" some
    status := ← f.required "status" OutboxStatus.ofJson?
    attempts := ← f.required "attempts" Json.int32?
    lastError := ← f.optional "last_error" Json.str?
    createdAt := ← f.required "created_at" Json.int64?
    updatedAt := ← f.required "updated_at" Json.int64? }

end OutboxEvent

end SignIn
