import SignIn.Failure.Storage
import SignIn.Uuid

/-!
# Failures of the outbox and of the task queue

Only a payload that cannot be turned into a task is hopeless; every other failure
may pass.
-/

namespace SignIn

/-- What a call of the outbox or of its queue may fail with. -/
inductive OutboxError where
  | database (error : StorageError)
  | eventNotFound (id : Uuid)
  | serialization (text : String)
  | invalidPayload (reason : String)
  | unknownStatus (text : String)
  | enqueueFailed (reason : String)
  | taskIdConflict (id : String)
  | broker (text : String)
  | other (context : String)
  deriving DecidableEq, Repr

namespace OutboxError

/-- The failure in words. -/
def message : OutboxError → String
  | .database error => "Database error: " ++ error.message
  | .eventNotFound id => "Event not found: " ++ id.text
  | .serialization text => "Serialization error: " ++ text
  | .invalidPayload reason => "Invalid payload: " ++ reason
  | .unknownStatus text => "Unknown outbox status: " ++ text
  | .enqueueFailed reason => "Enqueue failed: " ++ reason
  | .taskIdConflict id => "Task already enqueued: " ++ id
  | .broker text => "Redis error: " ++ text
  | .other context => "Outbox error: " ++ context

/-- No retry can help. -/
def isFatal : OutboxError → Bool
  | .invalidPayload _ => true
  | .serialization _ => true
  | _ => false

end OutboxError

end SignIn
