import SignIn.Json.Printer
import SignIn.TaskQueue.Task

/-!
# Envelopes

A task travels in an envelope that names its id, its queue and the retries that
its consumer may spend. None of them is spent when the task is enqueued.
-/

namespace SignIn

/-- A task as it lies in the queue. -/
structure Envelope where
  id : String
  task : Task
  queue : String
  maxRetry : Nat
  enqueuedAt : Int

namespace Envelope

/-- The members of an envelope. It was not tried before. -/
def toJson (e : Envelope) : Json :=
  .obj [("id", .str e.id), ("type", .str e.task.name), ("payload", e.task.payload),
    ("queue", .str e.queue), ("max_retry", .int e.maxRetry), ("retried", .int 0),
    ("enqueued_at", .int e.enqueuedAt)]

def text (e : Envelope) : String := e.toJson.text

end Envelope

end SignIn
