import SignIn.Proofs.Signals

/-!
# The calls of a worker

A worker makes its calls in a fixed order, which is described here from one event up
to a whole life. Every description says how the calls end as well: a panic breaks them
off wherever it happens.
-/
namespace SignIn

namespace Outcome

variable {ε α : Type}

def panic? : Outcome ε α → Option Panic
  | .panicked p => some p
  | _ => none

theorem ofExcept_eq_ok {r : Except ε α} {value : α} : ofExcept r = .ok value ↔ r = .ok value := by
  cases r <;> simp [ofExcept]

theorem ofExcept_eq_failed {r : Except ε α} {e : ε} : ofExcept r = .failed e ↔ r = .error e := by
  cases r <;> simp [ofExcept]

theorem ofExcept_ne_panicked (r : Except ε α) (p : Panic) : ofExcept r ≠ .panicked p := by
  cases r <;> nofun

/-- A value, or a panic in its place. -/
def unlessPanic (value : α) : Option Panic → Outcome ε α
  | some p => .panicked p
  | none => .ok value

@[simp] theorem panic?_unlessPanic (value : α) (panic : Option Panic) :
    (unlessPanic value panic : Outcome ε α).panic? = panic := by
  cases panic <;> rfl

end Outcome

namespace Outbox

/-! ## Calls and outcomes -/

variable {ε α β : Type} {start : Signals}

/-- Whatever is answered, an attempt makes calls of this kind, and it ends as they say. -/
def Makes (start : Signals) (a : Attempt Call Answer ε α) (K : Outcome ε α → List Beat → Prop) :
    Prop :=
  ∀ past o past', Dialogue.Runs (schedule start) a past o past' →
    ∃ calls, past' = past ++ calls ∧ K o calls

theorem makes_ofOutcome {o : Outcome ε α} {K : Outcome ε α → List Beat → Prop} (h : K o []) :
    Makes start (.ofOutcome o) K := by
  rintro past o' past' ⟨rfl, rfl⟩
  exact ⟨[], (List.append_nil _).symm, h⟩

theorem makes_pure {value : α} {K : Outcome ε α → List Beat → Prop} (h : K (.ok value) []) :
    Makes start (pure value) K :=
  makes_ofOutcome h

theorem makes_ask {c : Call} {K : Outcome ε (Answer c) → List Beat → Prop}
    (h : ∀ events answer, K (.ok answer) [⟨events, c, answer⟩]) :
    Makes start (ask c) K := by
  rintro past o past' ⟨answer, s₁, ⟨events, -, rfl⟩, rfl, rfl⟩
  exact ⟨_, rfl, h events answer⟩

theorem Makes.mono {a : Attempt Call Answer ε α} {K K' : Outcome ε α → List Beat → Prop}
    (h : Makes start a K) (hk : ∀ o calls, K o calls → K' o calls) :
    Makes start a K' := by
  intro past o past' hr
  obtain ⟨calls, hpast, hkind⟩ := h past o past' hr
  exact ⟨calls, hpast, hk o calls hkind⟩

/-- After the calls of a first part that has a value come the calls of the second. -/
theorem Makes.bind {a : Attempt Call Answer ε α} {f : α → Attempt Call Answer ε β}
    {K : Outcome ε α → List Beat → Prop} {Whole : Outcome ε β → List Beat → Prop}
    (ha : Makes start a K)
    (hvalue : ∀ value calls, K (.ok value) calls →
      Makes start (f value) fun o more => Whole o (calls ++ more))
    (hfailed : ∀ e calls, K (.failed e) calls → Whole (.failed e) calls)
    (hpanicked : ∀ p calls, K (.panicked p) calls → Whole (.panicked p) calls) :
    Makes start (a >>= f) Whole := by
  intro past o past' hr
  obtain ⟨o₁, past₁, hfirst, hsecond⟩ := Dialogue.Runs.of_andThen hr
  obtain ⟨calls, rfl, hkind⟩ := ha past o₁ past₁ hfirst
  cases o₁ with
  | ok value =>
    obtain ⟨more, rfl, hwhole⟩ := hvalue value calls hkind _ o past' hsecond
    exact ⟨calls ++ more, List.append_assoc .., hwhole⟩
  | failed e =>
    obtain ⟨rfl, rfl⟩ := hsecond
    exact ⟨calls, rfl, hfailed e calls hkind⟩
  | panicked p =>
    obtain ⟨rfl, rfl⟩ := hsecond
    exact ⟨calls, rfl, hpanicked p calls hkind⟩

/-- After one call comes the rest. -/
theorem makes_ask_bind {c : Call} {f : Answer c → Attempt Call Answer ε β}
    {Whole : Outcome ε β → List Beat → Prop}
    (h : ∀ events answer,
      Makes start (f answer) fun o more => Whole o (⟨events, c, answer⟩ :: more)) :
    Makes start (ask c >>= f) Whole := by
  refine Makes.bind (K := fun o calls => ∃ events answer, o = .ok answer ∧
    calls = [⟨events, c, answer⟩]) (makes_ask fun events answer => ⟨events, answer, rfl, rfl⟩) ?_ ?_ ?_
  · rintro value calls ⟨events, answer, ho, rfl⟩
    cases ho
    exact h events _
  · rintro e calls ⟨events, answer, ho, -⟩
    cases ho
  · rintro p calls ⟨events, answer, ho, -⟩
    cases ho

/-- After one call that has not failed comes the rest. -/
theorem makes_call_bind {c : Call} {r : Answer c → Except ε α} {f : α → Attempt Call Answer ε β}
    {Whole : Outcome ε β → List Beat → Prop}
    (hok : ∀ events answer value, r answer = .ok value →
      Makes start (f value) fun o more => Whole o (⟨events, c, answer⟩ :: more))
    (herror : ∀ events answer e, r answer = .error e → Whole (.failed e) [⟨events, c, answer⟩]) :
    Makes start (.call (.ask c fun answer => .done (r answer)) >>= f) Whole := by
  refine Makes.bind (K := fun o calls => ∃ events answer, o = .ofExcept (r answer) ∧
    calls = [⟨events, c, answer⟩]) ?_ ?_ ?_ ?_
  · rintro past o past' ⟨answer, s₁, ⟨events, -, rfl⟩, rfl, rfl⟩
    exact ⟨_, rfl, events, answer, rfl, rfl⟩
  · rintro value calls ⟨events, answer, ho, rfl⟩
    exact hok events answer value (Outcome.ofExcept_eq_ok.mp ho.symm)
  · rintro e calls ⟨events, answer, ho, rfl⟩
    exact herror events answer e (Outcome.ofExcept_eq_failed.mp ho.symm)
  · rintro p calls ⟨events, answer, ho, -⟩
    exact absurd ho.symm (Outcome.ofExcept_ne_panicked _ p)

/-! ## The grammar of calls -/

/-- A worker checks whether it has to stop, waits, fetches events, and for each of them reads the
time for a task, puts it into the queue and settles the event. All the rest is about figures. -/
inductive Role where
  | check
  | wait
  | fetch (deadline : Option Nat)
  | opening
  | enqueue (options : TaskOptions)
  | settle (id : Uuid)
  | figure
  deriving DecidableEq

/-- What a call is for. -/
def Call.role : Call → Role
  | .stopRequested | .clock => .check
  | .wake _ => .wait
  | .findPending _ _ deadline => .fetch deadline
  | .now => .opening
  | .enqueue _ options => .enqueue options
  | .markSuccess id | .markFailed id _ | .recordFailure id _ _ => .settle id
  | .pendingStats _ | .count _ | .setGauges .. => .figure

namespace Beat

def role (b : Beat) : Role := b.call.role

/-- The events that a fetch has found. -/
def found : Beat → List OutboxEvent
  | ⟨_, .findPending _ _ _, some (.ok events)⟩ => events
  | _ => []

def Counts (b : Beat) : Prop := ∃ counter, b.call = .count counter

/-- Are the figures of the outbox brought up to date? -/
def Reports (b : Beat) : Prop :=
  (∃ name, b.call = .pendingStats name) ∨ ∃ pending age, b.call = .setGauges pending age

/-- Does a gate answer whether it is set? -/
def Looks (b : Beat) (isSet : Bool) : Gate → Prop
  | .never => False
  | .signals => ∃ events, b = ⟨events, .stopRequested, isSet⟩
  | .deadline time => ∃ events, ∃ now : Nat, b = ⟨events, .clock, now⟩ ∧ decide (time ≤ now) = isSet

end Beat

variable (p : Processor)

/-- The record of an outcome, unless a counter of attempts is at its end, in the worker or in the
table. -/
inductive Settles (e : OutboxEvent) : Option Panic → List Beat → Prop where
  | recorded {b : Beat} {counts : List Beat} : b.role = .settle e.id → (∀ c ∈ counts, c.Counts) →
      Settles e none (b :: counts)
  | overflow : Decimal.Range.i32.contains (e.attempts + 1) = false →
      Settles e (some .addOverflow) []
  | broken (events : List Event) (reason : String) (maxAttempts : Int) (panic : Panic) :
      Settles e (some panic) [⟨events, .recordFailure e.id reason maxAttempts, .panicked panic⟩]

/-- The calls for one event. The builder turns it down, or it is put into the queue. -/
inductive Handles (e : OutboxEvent) : Option Panic → List Beat → Prop where
  | rejected {b : Beat} {counts : List Beat} : (∃ reason, b.call = .markFailed e.id reason) →
      (∀ c ∈ counts, c.Counts) → Handles e none (b :: counts)
  | enqueued {now enqueue : Beat} {calls : List Beat} {panic : Option Panic} : now.call = .now →
      (∃ task, enqueue.call = .enqueue task (p.options e)) → Settles e panic calls →
      Handles e panic (now :: enqueue :: calls)

/-- The calls for one event after the other, until the gate is set. -/
inductive Empties (gate : Gate) : List OutboxEvent → Option Panic → List Beat → Prop where
  | done : Empties gate [] none []
  | stopped {e : OutboxEvent} {rest : List OutboxEvent} {look : Beat} : look.Looks true gate →
      Empties gate (e :: rest) none [look]
  | next {e : OutboxEvent} {rest : List OutboxEvent} {look : Beat} {calls more : List Beat}
      {panic : Option Panic} : look.Looks false gate → Handles p e none calls →
      Empties gate rest panic more → Empties gate (e :: rest) panic (look :: (calls ++ more))
  | broken {e : OutboxEvent} {rest : List OutboxEvent} {look : Beat} {calls : List Beat}
      {panic : Panic} : look.Looks false gate → Handles p e (some panic) calls →
      Empties gate (e :: rest) (some panic) (look :: calls)

/-- A fetch, and the calls for what was found. A fetch that fails or comes too late finds nothing. -/
inductive Batches (gate : Gate) : Option Panic → List Beat → Prop where
  | fetched {fetch : Beat} {calls : List Beat} {panic : Option Panic} :
      fetch.call = .findPending p.config.eventName p.config.batchSize gate.deadline? →
      Empties p gate fetch.found panic calls → Batches gate panic (fetch :: calls)

/-- A batch, and then the figures, unless the batch was broken off. -/
inductive Rounds (gate : Gate) : Option Panic → List Beat → Prop where
  | whole {calls reports : List Beat} : Batches p gate none calls → (∀ b ∈ reports, b.Reports) →
      Rounds gate none (calls ++ reports)
  | broken {calls : List Beat} {panic : Panic} : Batches p gate (some panic) calls →
      Rounds gate (some panic) calls

/-- A worker notices that it has to stop, when it looks or when it waits. -/
inductive Notices (hearStop : Bool) : List Beat → Prop where
  | looking (events : List Event) : Notices hearStop [⟨events, .stopRequested, true⟩]
  | waiting (events events' : List Event) {wake : Wake} : wake.stops = true →
      Notices hearStop [⟨events, .stopRequested, false⟩, ⟨events', .wake hearStop, wake⟩]

/-- Once its owner has gone, a worker does not listen to him any more. -/
def Turn.heard (hearStop : Bool) : Wake → Turn
  | .stopClosed => .deaf
  | _ => .ofListening hearStop

/-- The calls of one turn. -/
inductive Turns (hearStop : Bool) : Outcome Empty Turn → List Beat → Prop where
  | idle (events events' : List Event) {wake : Wake} : wake.stops = false → wake ≠ .tick →
      Turns hearStop (.ok (.heard hearStop wake))
        [⟨events, .stopRequested, false⟩, ⟨events', .wake hearStop, wake⟩]
  | polled (events events' : List Event) {calls : List Beat} {panic : Option Panic} :
      Rounds p .signals panic calls →
      Turns hearStop (.unlessPanic (.ofListening hearStop) panic)
        (⟨events, .stopRequested, false⟩ :: ⟨events', .wake hearStop, .tick⟩ :: calls)
  | drained (events : List Event) {noticed : Nat} {notice calls : List Beat} {panic : Option Panic} :
      Notices hearStop notice → noticed + p.config.shutdownGrace ≤ clockLimit →
      Rounds p (.deadline (noticed + p.config.shutdownGrace)) panic calls →
      Turns hearStop (.unlessPanic .ended panic) (notice ++ ⟨events, .clock, noticed⟩ :: calls)
  | late (events : List Event) {noticed : Nat} {notice : List Beat} :
      Notices hearStop notice → clockLimit < noticed + p.config.shutdownGrace →
      Turns hearStop (.panicked clockOverflow) (notice ++ [⟨events, .clock, noticed⟩])

/-- The calls of a life, turn after turn, and where the worker is after them. -/
inductive Lives : Outcome Empty Turn → List Beat → Prop where
  | born : Lives (.ok .listening) []
  | turn {hearStop : Bool} {o : Outcome Empty Turn} {past calls : List Beat} :
      Lives (.ok (.ofListening hearStop)) past → Turns p hearStop o calls → Lives o (past ++ calls)

/-! ## Every worker keeps to it -/

variable {p}

theorem makes_count (counter : Counter) :
    Makes start (p.count counter) fun o calls => o = .ok () ∧ ∀ c ∈ calls, c.Counts := by
  unfold Processor.count
  split
  · refine makes_ask fun events answer => ⟨rfl, fun c hc => ?_⟩
    rw [List.mem_singleton] at hc
    exact ⟨counter, by rw [hc]⟩
  · exact makes_pure ⟨rfl, fun c hc => absurd hc List.not_mem_nil⟩

theorem makes_count_pure (counter : Counter) (value : EventOutcome) :
    Makes start (do p.count counter; return value : Step EventOutcome)
      fun o calls => o.panic? = none ∧ ∀ c ∈ calls, c.Counts := by
  refine Makes.bind (makes_count counter) ?_ ?_ ?_
  · rintro value calls ⟨-, hcounts⟩
    exact makes_pure ⟨rfl, by simpa using hcounts⟩
  · rintro e calls ⟨ho, -⟩
    cases ho
  · rintro panic calls ⟨ho, -⟩
    cases ho

theorem makes_counted (changed : Bool) (counter : Counter) (value : EventOutcome) :
    Makes start (do if changed then p.count counter
                    return value : Step EventOutcome)
      fun o calls => o.panic? = none ∧ ∀ c ∈ calls, c.Counts := by
  cases changed with
  | false => exact makes_pure ⟨rfl, fun c hc => absurd hc List.not_mem_nil⟩
  | true => exact makes_count_pure counter value

/-- An outcome that is recorded, and then counted. -/
theorem settles_of_counts {e : OutboxEvent} {b : Beat} (hb : b.role = .settle e.id) {o : Option Panic}
    {counts : List Beat} (h : o = none ∧ ∀ c ∈ counts, c.Counts) : Settles e o (b :: counts) := by
  obtain ⟨rfl, hcounts⟩ := h
  exact .recorded hb hcounts

theorem makes_settleDelivered (e : OutboxEvent) :
    Makes start (p.settleDelivered e.id) fun o calls => Settles e o.panic? calls := by
  have hrecords : ∀ events answer, (⟨events, .markSuccess e.id, answer⟩ : Beat).role = .settle e.id :=
    fun _ _ => rfl
  refine makes_call_bind (c := .markSuccess e.id) (r := fun answer => answer)
    (fun events answer changed _ => ?_)
    fun events answer _ _ => .recorded (hrecords events answer) fun c hc => absurd hc List.not_mem_nil
  exact (makes_counted changed .delivered .delivered).mono
    fun o calls h => settles_of_counts (hrecords events answer) h

theorem makes_settleFailed (e : OutboxEvent) (reason : String) :
    Makes start (p.settleFailed e.id reason) fun o calls => o.panic? = none ∧
      ∃ b counts, calls = b :: counts ∧ b.call = .markFailed e.id reason ∧ ∀ c ∈ counts, c.Counts := by
  refine makes_call_bind (c := .markFailed e.id reason) (r := fun answer => answer)
    (fun events answer changed _ => ?_)
    fun events answer _ _ => ⟨rfl, _, [], rfl, rfl, fun c hc => absurd hc List.not_mem_nil⟩
  exact (makes_counted changed .failed .failed).mono
    fun o calls h => ⟨h.1, _, calls, rfl, rfl, h.2⟩

theorem makes_settleAttempt (e : OutboxEvent) (reason : String) :
    Makes start (p.settleAttempt e reason) fun o calls => Settles e o.panic? calls := by
  have hnone : ∀ c ∈ ([] : List Beat), c.Counts := fun c hc => absurd hc List.not_mem_nil
  refine Makes.bind (K := fun o calls => calls = [] ∧ (o = .ok (e.attempts + 1) ∨
    o = .panicked .addOverflow ∧ Decimal.Range.i32.contains (e.attempts + 1) = false)) ?_ ?_ ?_ ?_
  · unfold Processor.nextAttempt
    split
    · exact makes_pure ⟨rfl, .inl rfl⟩
    · next hrange => exact makes_ofOutcome ⟨rfl, .inr ⟨rfl, by simpa using hrange⟩⟩
  · rintro value calls ⟨rfl, -⟩
    refine makes_ask_bind fun events answer => ?_
    have hrecords : (⟨events, .recordFailure e.id reason p.config.maxAttempts, answer⟩ : Beat).role =
        .settle e.id := rfl
    refine Makes.bind (K := fun o calls => calls = [] ∧ o = answer) (makes_ofOutcome ⟨rfl, rfl⟩)
      ?_ ?_ ?_
    · rintro status calls ⟨rfl, -⟩
      have hcounted : ∀ counter value, Makes start
          (do p.count counter; return value : Step EventOutcome) fun o more =>
          Settles e o.panic? ([] ++ ⟨events, .recordFailure e.id reason p.config.maxAttempts, answer⟩ ::
            ([] ++ more)) :=
        fun counter value => (makes_count_pure counter value).mono
          fun o more h => settles_of_counts hrecords h
      cases status with
      | failed => exact hcounted .failed .failed
      | pending => exact hcounted .retried .retrying
      | success => exact hcounted .retried .retrying
    · rintro error calls ⟨rfl, ho⟩
      exact .recorded hrecords hnone
    · rintro panic calls ⟨rfl, ho⟩
      rw [← ho]
      exact .broken events reason p.config.maxAttempts panic
  · rintro error calls ⟨rfl, ho | ⟨ho, -⟩⟩
    · cases ho
    · cases ho
  · rintro panic calls ⟨rfl, ho | ⟨ho, hrange⟩⟩
    · cases ho
    · cases ho
      exact .overflow hrange

theorem makes_settle (e : OutboxEvent) (answer : Except OutboxError TaskInfo) :
    Makes start (p.settle e answer) fun o calls => Settles e o.panic? calls := by
  unfold Processor.settle
  split
  · exact makes_settleDelivered e
  · exact makes_settleDelivered e
  · next error _ =>
    split
    · refine (makes_settleFailed e error.message).mono ?_
      rintro o calls ⟨ho, b, counts, rfl, hcall, hcounts⟩
      exact settles_of_counts (congrArg Call.role hcall) ⟨ho, hcounts⟩
    · exact makes_settleAttempt e error.message

theorem makes_processEvent (e : OutboxEvent) :
    Makes start (p.processEvent e) fun o calls => Handles p e o.panic? calls := by
  unfold Processor.processEvent
  split
  · next error _ =>
    refine (makes_settleFailed e error.message).mono ?_
    rintro o calls ⟨ho, b, counts, rfl, hcall, hcounts⟩
    rw [ho]
    exact .rejected ⟨_, hcall⟩ hcounts
  · refine makes_ask_bind fun events now => makes_ask_bind fun events' answer => ?_
    exact (makes_settle e answer).mono fun o calls h => .enqueued rfl ⟨_, rfl⟩ h

theorem makes_isSet {gate : Gate} (hgate : gate ≠ .never) :
    Makes start gate.isSet fun o calls =>
      ∃ look isSet, calls = [look] ∧ o = .ok isSet ∧ look.Looks isSet gate := by
  cases gate with
  | never => exact absurd rfl hgate
  | signals => exact makes_ask fun events answer => ⟨_, answer, rfl, rfl, events, rfl⟩
  | deadline time =>
    refine makes_ask_bind fun events now => makes_pure ?_
    exact ⟨_, _, rfl, rfl, events, now, rfl, rfl⟩

/-- A failure of one event is a value for the batch. -/
theorem makes_result {a : Step α} {K : Option Panic → List Beat → Prop}
    (h : Makes start a fun o calls => K o.panic? calls) :
    Makes start (a.result : Duty (Except OutboxError α)) fun o calls => K o.panic? calls := by
  intro past o past' hr
  obtain ⟨o₁, past₁, hfirst, hsecond⟩ := Dialogue.Runs.of_andThen hr
  obtain ⟨calls, rfl, hkind⟩ := h past o₁ past₁ hfirst
  cases o₁ with
  | ok value =>
    obtain ⟨rfl, rfl⟩ := hsecond
    exact ⟨calls, rfl, hkind⟩
  | failed e =>
    obtain ⟨rfl, rfl⟩ := hsecond
    exact ⟨calls, rfl, hkind⟩
  | panicked panic =>
    obtain ⟨rfl, rfl⟩ := hsecond
    exact ⟨calls, rfl, hkind⟩

theorem makes_processAll {gate : Gate} (hgate : gate ≠ .never) (events : List OutboxEvent)
    (report : BatchReport) :
    Makes start (p.processAll gate report events) fun o calls =>
      Empties p gate events o.panic? calls := by
  induction events generalizing report with
  | nil => exact makes_pure .done
  | cons e rest ih =>
    refine Makes.bind (makes_isSet hgate) ?_ ?_ ?_
    · rintro value calls ⟨look, isSet, rfl, ho, hlook⟩
      cases ho
      cases value with
      | true => exact makes_pure (.stopped hlook)
      | false =>
        refine Makes.bind (makes_result (makes_processEvent e)) ?_ ?_ ?_
        · intro result calls hhandles
          refine (ih _).mono fun o more hmore => ?_
          have hwhole : Empties p gate (e :: rest) o.panic? (look :: (calls ++ more)) :=
            .next hlook hhandles hmore
          exact hwhole
        · rintro ⟨⟩
        · intro panic calls hhandles
          exact .broken hlook hhandles
    · rintro ⟨⟩
    · rintro panic calls ⟨look, isSet, -, ho, -⟩
      cases ho

theorem makes_processBatch {gate : Gate} (hgate : gate ≠ .never) :
    Makes start (p.processBatch gate) fun o calls => Batches p gate o.panic? calls := by
  refine makes_ask_bind fun happened found => ?_
  rcases found with _ | error | events
  · exact makes_pure (.fetched rfl .done)
  · exact makes_pure (.fetched rfl .done)
  · exact (makes_processAll hgate events _).mono fun o calls h => .fetched rfl h

theorem makes_refreshMetrics :
    Makes start p.refreshMetrics fun o calls => o = .ok () ∧ ∀ b ∈ calls, b.Reports := by
  unfold Processor.refreshMetrics
  split
  · refine makes_ask_bind fun events stats => ?_
    cases stats with
    | error error =>
      refine makes_pure ⟨rfl, fun b hb => ?_⟩
      rw [List.mem_singleton] at hb
      exact .inl ⟨_, by rw [hb]⟩
    | ok figures =>
      refine makes_ask fun events' answer => ⟨rfl, fun b hb => ?_⟩
      simp only [List.mem_cons, List.not_mem_nil, or_false] at hb
      rcases hb with rfl | rfl
      · exact .inl ⟨_, rfl⟩
      · exact .inr ⟨_, _, rfl⟩
  · exact makes_pure ⟨rfl, fun b hb => absurd hb List.not_mem_nil⟩

theorem makes_refreshMetrics_pure (value : α) :
    Makes start (do p.refreshMetrics; return value : Duty α)
      fun o calls => o = .ok value ∧ ∀ b ∈ calls, b.Reports := by
  refine Makes.bind makes_refreshMetrics ?_ ?_ ?_
  · rintro ⟨⟩ calls ⟨-, hreports⟩
    exact makes_pure ⟨rfl, by simpa using hreports⟩
  · rintro ⟨⟩
  · rintro panic calls ⟨ho, -⟩
    cases ho

/-- Behind a batch there is a value, unless the batch was broken off. -/
theorem makes_rounds {gate : Gate} (hgate : gate ≠ .never) {f : BatchReport → Duty α} {value : α}
    (hf : ∀ report, Makes start (f report) fun o calls => o = .ok value ∧ ∀ b ∈ calls, b.Reports) :
    Makes start (p.processBatch gate >>= f) fun o calls =>
      ∃ panic, o = .unlessPanic value panic ∧ Rounds p gate panic calls := by
  refine Makes.bind (makes_processBatch hgate) ?_ ?_ ?_
  · intro report batch hbatch
    refine (hf report).mono ?_
    rintro o reports ⟨rfl, hreports⟩
    exact ⟨none, rfl, .whole hbatch hreports⟩
  · rintro ⟨⟩
  · exact fun panic calls hbatch => ⟨some panic, rfl, .broken hbatch⟩

theorem makes_drain {hearStop : Bool} {notice : List Beat} (hnotice : Notices hearStop notice) :
    Makes start p.drain fun o calls => Turns p hearStop o (notice ++ calls) := by
  refine makes_ask_bind fun events noticed => ?_
  split
  · next hlate => exact makes_ofOutcome (.late events hnotice hlate)
  · next hgrace =>
    refine (makes_rounds (by simp) fun _ => makes_refreshMetrics_pure Turn.ended).mono ?_
    rintro o calls ⟨panic, rfl, hrounds⟩
    exact .drained events hnotice (Nat.le_of_not_lt hgrace) hrounds

theorem makes_poll :
    Makes start p.poll fun o calls =>
      ∃ panic, o = .unlessPanic () panic ∧ Rounds p .signals panic calls :=
  makes_rounds (by simp) fun _ => makes_refreshMetrics

theorem makes_turn (hearStop : Bool) :
    Makes start (p.turn hearStop) fun o calls => Turns p hearStop o calls := by
  refine makes_ask_bind fun events requested => ?_
  cases requested with
  | true => exact makes_drain (.looking events)
  | false =>
    refine makes_ask_bind fun events' wake => ?_
    have hidle : ∀ {t : Turn}, wake.stops = false → wake ≠ .tick → t = .heard hearStop wake →
        Makes start (pure t : Duty Turn) fun o more => Turns p hearStop o
          (⟨events, .stopRequested, false⟩ :: ⟨events', .wake hearStop, wake⟩ :: more) := by
      rintro t hstops htick rfl
      exact makes_pure (.idle events events' hstops htick)
    cases wake with
    | shutdown value =>
      cases value with
      | true => exact makes_drain (.waiting events events' rfl)
      | false => exact hidle rfl (by simp) rfl
    | shutdownClosed => exact makes_drain (.waiting events events' rfl)
    | stop value =>
      cases value with
      | true => exact makes_drain (.waiting events events' rfl)
      | false => exact hidle rfl (by simp) rfl
    | stopClosed => exact hidle rfl (by simp) rfl
    | tick =>
      refine Makes.bind makes_poll ?_ ?_ ?_
      · rintro ⟨⟩ calls ⟨panic, ho, hrounds⟩
        cases panic with
        | none =>
          refine makes_pure ?_
          rw [List.append_nil]
          exact .polled events events' hrounds
        | some panic => cases ho
      · rintro ⟨⟩
      · rintro panic calls ⟨panic', ho, hrounds⟩
        cases panic' with
        | none => cases ho
        | some panic' =>
          cases ho
          exact .polled events events' hrounds

/-- However many turns a worker takes, its calls are those of a life. -/
theorem lives_of_runs {n : Nat} {t : Turn} {past past' : History} {o : Outcome Empty Turn}
    (hpast : Lives p (.ok t) past)
    (h : Dialogue.Runs (schedule start) (p.turns n t) past o past') : Lives p o past' := by
  induction n generalizing t past with
  | zero =>
    obtain ⟨rfl, rfl⟩ := h
    exact hpast
  | succ n ih =>
    have hturn : ∀ hearStop, t = .ofListening hearStop → Dialogue.Runs (schedule start)
        (do p.turns n (← p.turn hearStop) : Duty Turn) past o past' → Lives p o past' := by
      rintro hearStop rfl hr
      obtain ⟨o₁, past₁, hfirst, hsecond⟩ := Dialogue.Runs.of_andThen hr
      obtain ⟨calls, rfl, hcalls⟩ := makes_turn hearStop past o₁ past₁ hfirst
      have hlives : Lives p o₁ (past ++ calls) := .turn hpast hcalls
      cases o₁ with
      | ok t' => exact ih hlives hsecond
      | failed e => exact e.elim
      | panicked panic =>
        obtain ⟨rfl, rfl⟩ := hsecond
        exact hlives
    cases t with
    | ended =>
      obtain ⟨rfl, rfl⟩ := h
      exact hpast
    | listening => exact hturn true rfl h
    | deaf => exact hturn false rfl h

end Outbox

end SignIn
