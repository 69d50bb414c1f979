import SignIn.Outbox.Worker
import SignIn.Proofs.Terms

/-!
# What a worker owes to the counters

The answer to an update tells whether the update has changed a row, and then the
change has to be counted. So every answer leaves a worker with a debt, or with
none. A worker that is metered pays each debt with its very next call, and it
counts nothing that it does not owe. Nothing has to be known of the table for
this: it holds whatever the answers are.
-/
namespace SignIn.Outbox

/-- What a call counts, if it is one that counts. -/
def Call.counts : Call → Option Counter
  | .count counter => some counter
  | _ => none

/-- What a worker has to count when it is given an answer. -/
def Call.owes : (c : Call) → Answer c → Option Counter
  | .markSuccess _, .ok true => some .delivered
  | .markFailed .., .ok true => some .failed
  | .recordFailure .., .ok .failed => some .failed
  | .recordFailure .., .ok _ => some .retried
  | _, _ => none

/-- What the answers leave a worker to count. -/
def owing : Conduct Call Answer (Option Counter) := fun c _ answer debt => debt = c.owes answer

/-- A worker that owes a count counts it, and one that owes nothing does not count. -/
def duty : Terms Call (Option Counter) := ⟨Eq, fun c debt => debt = c.counts⟩

theorem put_duty {c : Call} {debt : Option Counter} {next : Answer c → Option Counter → Prop} :
    duty.Put owing c debt next ↔ debt = c.counts ∧ ∀ answer, next answer (c.owes answer) := by
  constructor
  · intro h
    obtain ⟨hdebt, hnext⟩ := h debt rfl
    exact ⟨hdebt, fun answer => hnext answer _ rfl⟩
  · rintro ⟨hdebt, hnext⟩ _ rfl
    refine ⟨hdebt, ?_⟩
    rintro answer _ rfl
    exact hnext answer

variable {ε ε' α β : Type}

/-- However it ends, the attempt leaves no debt. -/
abbrev Repays (debt : Option Counter) (a : Attempt Call Answer ε α) : Prop :=
  a.Secures owing duty (fun _ debt' => debt' = none) debt

theorem repays_pure (value : α) : Repays none (pure value : Attempt Call Answer ε α) := rfl

theorem repays_ofOutcome (o : Outcome ε α) :
    Repays none (.ofOutcome o : Attempt Call Answer ε α) := rfl

theorem repays_ask {c : Call} (hc : c.counts = none) (ho : ∀ answer, c.owes answer = none) :
    Repays none (ask c : Attempt Call Answer ε (Answer c)) := by
  refine (Attempt.secures_hear ..).mpr (put_duty.mpr ⟨hc.symm, fun answer => ?_⟩)
  exact ho answer

theorem Repays.bind {debt : Option Counter} {a : Attempt Call Answer ε α}
    {f : α → Attempt Call Answer ε β} (ha : Repays debt a) (hf : ∀ value, Repays none (f value)) :
    Repays debt (a >>= f) := by
  refine (Attempt.secures_bind ..).mpr (Attempt.Secures.mono ha ?_)
  rintro (value | e | p) _ rfl
  · exact hf value
  · rfl
  · rfl

theorem Repays.result {debt : Option Counter} {a : Attempt Call Answer ε α} (ha : Repays debt a) :
    Repays debt (a.result : Attempt Call Answer ε' (Except ε α)) := by
  refine Attempt.secures_result a _ debt (Attempt.Secures.mono ha ?_)
  rintro (value | e | p) _ rfl
  · rfl
  · rfl
  · rfl

namespace Processor

variable {p : Processor}

/-! ## One event -/

/-- A worker without counters could not pay. -/
theorem repays_count (hp : p.metered = true) (counter : Counter) :
    Repays (some counter) (p.count counter) := by
  simp only [count, if_pos hp]
  exact (Attempt.secures_hear ..).mpr (put_duty.mpr ⟨rfl, fun _ => rfl⟩)

theorem repays_settleDelivered (hp : p.metered = true) (id : Uuid) :
    Repays none (p.settleDelivered id) := by
  refine (Attempt.secures_bind ..).mpr ((Attempt.secures_call ..).mpr ?_)
  refine put_duty.mpr ⟨rfl, ?_⟩
  rintro (error | _ | _)
  · rfl
  · rfl
  · exact (repays_count hp .delivered).bind fun _ => rfl

theorem repays_settleFailed (hp : p.metered = true) (id : Uuid) (reason : String) :
    Repays none (p.settleFailed id reason) := by
  refine (Attempt.secures_bind ..).mpr ((Attempt.secures_call ..).mpr ?_)
  refine put_duty.mpr ⟨rfl, ?_⟩
  rintro (error | _ | _)
  · rfl
  · rfl
  · exact (repays_count hp .failed).bind fun _ => rfl

/-- An attempt that could not be numbered is not recorded, and owes nothing. -/
theorem repays_settleAttempt (hp : p.metered = true) (e : OutboxEvent) (reason : String) :
    Repays none (p.settleAttempt e reason) := by
  have hnumber : Repays none (nextAttempt e) := by
    unfold nextAttempt
    split
    · exact repays_pure _
    · exact repays_ofOutcome _
  refine hnumber.bind fun _ => (Attempt.secures_bind ..).mpr ((Attempt.secures_hear ..).mpr ?_)
  refine put_duty.mpr ⟨rfl, ?_⟩
  rintro (status | error | panic)
  · cases status with
    | failed => exact (repays_count hp .failed).bind fun _ => rfl
    | pending => exact (repays_count hp .retried).bind fun _ => rfl
    | success => exact (repays_count hp .retried).bind fun _ => rfl
  · rfl
  · rfl

theorem repays_settle (hp : p.metered = true) (e : OutboxEvent)
    (reply : Except OutboxError TaskInfo) : Repays none (p.settle e reply) := by
  unfold settle
  split
  · exact repays_settleDelivered hp e.id
  · exact repays_settleDelivered hp e.id
  · split
    · exact repays_settleFailed hp e.id _
    · exact repays_settleAttempt hp e _

theorem repays_processEvent (hp : p.metered = true) (e : OutboxEvent) :
    Repays none (p.processEvent e) := by
  unfold processEvent
  split
  · exact repays_settleFailed hp e.id _
  · exact (repays_ask rfl fun _ => rfl).bind fun now =>
      (repays_ask rfl fun _ => rfl).bind fun reply => repays_settle hp e reply

/-! ## Batches and turns -/

theorem repays_isSet (gate : Gate) : Repays none gate.isSet := by
  cases gate with
  | never => exact repays_pure false
  | signals => exact repays_ask rfl fun _ => rfl
  | deadline time => exact (repays_ask rfl fun _ => rfl).bind fun _ => rfl

theorem repays_processAll (hp : p.metered = true) (gate : Gate) (report : BatchReport)
    (events : List OutboxEvent) : Repays none (p.processAll gate report events) := by
  induction events generalizing report with
  | nil => exact repays_pure report
  | cons e rest ih =>
    refine (repays_isSet gate).bind fun stop => ?_
    split
    · exact repays_pure _
    · exact (repays_processEvent hp e).result.bind fun result => ih (report.add result)

theorem repays_processBatch (hp : p.metered = true) (gate : Gate) :
    Repays none (p.processBatch gate) := by
  refine (repays_ask rfl fun _ => rfl).bind fun found => ?_
  split
  · exact repays_processAll hp gate _ _
  · exact repays_pure _

/-- The gauges are no counters. -/
theorem repays_refreshMetrics : Repays none p.refreshMetrics := by
  unfold refreshMetrics
  split
  · refine (repays_ask rfl fun _ => rfl).bind fun stats => ?_
    split
    · exact repays_ask rfl fun _ => rfl
    · exact repays_pure ()
  · exact repays_pure ()

theorem repays_pollOnce (hp : p.metered = true) : Repays none p.pollOnce :=
  (repays_processBatch hp .never).bind fun report =>
    repays_refreshMetrics.bind fun _ => repays_pure report

theorem repays_drain (hp : p.metered = true) : Repays none p.drain := by
  refine (repays_ask rfl fun _ => rfl).bind fun noticed => ?_
  split
  · exact repays_ofOutcome _
  · exact (repays_processBatch hp _).bind fun _ =>
      repays_refreshMetrics.bind fun _ => repays_pure Turn.ended

theorem repays_poll (hp : p.metered = true) : Repays none p.poll :=
  (repays_processBatch hp .signals).bind fun _ => repays_refreshMetrics

theorem repays_turn (hp : p.metered = true) (hearStop : Bool) : Repays none (p.turn hearStop) := by
  refine (repays_ask rfl fun _ => rfl).bind fun stop => ?_
  split
  · exact repays_drain hp
  · refine (repays_ask rfl fun _ => rfl).bind fun wake => ?_
    split
    · exact repays_drain hp
    · exact repays_drain hp
    · exact repays_drain hp
    · exact repays_pure _
    · exact repays_pure _
    · exact repays_pure _
    · exact (repays_poll hp).bind fun _ => repays_pure _

/-- A worker that begins without a debt ends without one. -/
theorem repays_turns (hp : p.metered = true) (n : Nat) (turn : Turn) :
    Repays none (p.turns n turn) := by
  induction n generalizing turn with
  | zero => exact repays_pure turn
  | succ n ih =>
    cases turn with
    | ended => exact repays_pure Turn.ended
    | listening => exact (repays_turn hp true).bind fun t => ih t
    | deaf => exact (repays_turn hp false).bind fun t => ih t

end Processor

end SignIn.Outbox
