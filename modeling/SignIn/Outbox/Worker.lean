import SignIn.Outbox.Delivery

/-!
# The worker

A worker polls at every tick of its clock until it is asked to stop. Then it
drains the outbox once, within its grace period, and ends. A stop is asked for by
the process, by the end of the process's signal, or by the owner of the worker; an
owner that goes away without asking leaves the worker running.
-/

namespace SignIn.Outbox

/-- A signal with a sender that may go away. A value that was sent is news until it is looked at. -/
structure Signal where
  value : Bool := false
  news : Bool := false
  isOpen : Bool := true

namespace Signal

/-- A value that takes the place of the one before. -/
def send (s : Signal) (value : Bool) : Signal := { s with value, news := true }

/-- The sender has gone, and what was sent stays. -/
def close (s : Signal) : Signal := { s with isOpen := false }

end Signal

/-- Where a worker is after a turn. -/
inductive Turn where
  | listening
  | deaf
  | ended
  deriving DecidableEq, Repr

namespace Turn

/-- A worker that listens hears its owner. -/
def ofListening (hearStop : Bool) : Turn := if hearStop then .listening else .deaf

end Turn

/-- The last moment, in milliseconds, that the clock can show: seconds have 63 bits. -/
def clockLimit : Nat := 9223372036854775807 * 1000 + 999

/-- The panic of a clock that cannot show a moment. -/
def clockOverflow : Panic := ⟨"overflow when adding duration to instant"⟩

namespace Processor

variable (p : Processor)

/-- The last batch, bounded by the grace period. -/
def drain : Duty Turn := do
  let noticed : Nat ← ask .clock
  if clockLimit < noticed + p.config.shutdownGrace then .ofOutcome (.panicked clockOverflow)
  else
    let _ ← p.processBatch (.deadline (noticed + p.config.shutdownGrace))
    p.refreshMetrics
    return .ended

/-- One batch that stops when the worker is asked to. -/
def poll : Duty Unit := do
  let _ ← p.processBatch .signals
  p.refreshMetrics

/-- One turn: look whether to stop, wait for something to happen, and act on it. -/
def turn (hearStop : Bool) : Duty Turn := do
  if ← ask .stopRequested then p.drain
  else
    let wake : Wake ← ask (.wake hearStop)
    match wake with
    | .shutdown true | .shutdownClosed | .stop true => p.drain
    | .shutdown false | .stop false => return .ofListening hearStop
    | .stopClosed => return .deaf
    | .tick => do
      p.poll
      return .ofListening hearStop

/-- The interval between two ticks; there is always one. -/
def period : Nat := max p.config.pollInterval 1

/-- So many turns, or fewer if the worker ends. -/
def turns : Nat → Turn → Duty Turn
  | 0, t => pure t
  | _ + 1, .ended => pure .ended
  | n + 1, .listening => do turns n (← p.turn true)
  | n + 1, .deaf => do turns n (← p.turn false)

end Processor

end SignIn.Outbox
