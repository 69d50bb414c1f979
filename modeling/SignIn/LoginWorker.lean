import SignIn.LoginNotice
import SignIn.Outbox.Worker
import SignIn.Settings.Settings

/-!
# The worker for login notices

It polls the events named `login` and is configured by its section of the settings.
-/

namespace SignIn

namespace Outbox.Config

/-- Milliseconds, as a text where they do not fit an unsigned number of 64 bits. -/
def millisJson (ms : Nat) : Json :=
  if ms ≤ Decimal.Range.u64.greatest then .int ms else .str (Decimal.text ms)

/-- The configuration as it is shown. -/
def toJson (c : Config) : Json :=
  .obj [("event_name", .str c.eventName), ("poll_interval_ms", millisJson c.pollInterval),
    ("batch_size", .int c.batchSize), ("max_retry", .int c.maxRetry),
    ("max_attempts", .int c.maxAttempts), ("shutdown_grace_ms", millisJson c.shutdownGrace),
    ("queue", .ofOption .str c.queue)]

end Outbox.Config

namespace LoginWorker

/-- The configuration of the worker that delivers logins. Settings count the grace in seconds. -/
def config (s : WorkerSettings) : Outbox.Config where
  eventName := EventName.login.text
  pollInterval := s.intervalMs.value.toNat
  batchSize := s.batchSize.value.toNat
  maxRetry := s.maxRetries.value.toNat
  maxAttempts := s.maxAttempts.value
  shutdownGrace := s.shutdownGraceSecs.value.toNat * 1000

/-- A processor of logins, with metrics or without. -/
def processor (s : WorkerSettings) (metered : Bool) : Outbox.Processor :=
  ⟨config s, LoginNotice.task, metered⟩

end LoginWorker

namespace Settings

def workerJson (w : WorkerSettings) : Json :=
  .obj [("enabled", .bool w.enabled), ("processor", (LoginWorker.config w).toJson)]

/-- All settings as they are shown, with the configuration that the worker gets from them. -/
def toJson (s : Settings) : Json :=
  .obj [("database", s.database.toJson), ("redis", s.redis.toJson), ("jwt", s.tokens.toJson),
    ("worker", workerJson s.worker), ("log", s.log.toJson)]

end Settings

end SignIn
