import SignIn.Proofs.Deliveries
import SignIn.Proofs.WorkerTrace

/-!
# The course of events

What a worker does with one event, told once for every environment: which calls are
made, in which states, and what the answers make of the outcome. A batch is one course
after the other, with a look at the gate before each of them. What an environment does
with its calls is left to those who ask about one.
-/
namespace SignIn.Outbox

variable {σ : Type}

/-! ## One event -/

/-- What became of an event whose attempt was counted, by the status of its row. -/
def EventOutcome.ofStatus : OutboxStatus → EventOutcome
  | .failed => .failed
  | _ => .retrying

/-- A change is counted, or there is nothing to count. -/
def Counting (conduct : Conduct Call Answer σ) (s s' : σ) : Prop :=
  s' = s ∨ ∃ counter answer, conduct (.count counter) s answer s'

/-- How an event ends after the reply of the queue. Its outcome is recorded, but for an attempt
whose number does not fit into its word. -/
inductive Closing (conduct : Conduct Call Answer σ) (p : Processor) (e : OutboxEvent)
    (reply : Except OutboxError TaskInfo) (s : σ) :
    Outcome OutboxError EventOutcome → σ → Prop where
  | delivered {answer : Except OutboxError Bool} {s₁ s' : σ} :
      hasTask reply = true → conduct (.markSuccess e.id) s answer s₁ → Counting conduct s₁ s' →
      Closing conduct p e reply s (.ofExcept (answer.map fun _ => .delivered)) s'
  | refused {error : OutboxError} {answer : Except OutboxError Bool} {s₁ s' : σ} :
      reply = .error error → error.isFatal = true →
      conduct (.markFailed e.id error.message) s answer s₁ → Counting conduct s₁ s' →
      Closing conduct p e reply s (.ofExcept (answer.map fun _ => .failed)) s'
  | attempted {error : OutboxError} {answer : Outcome OutboxError OutboxStatus} {s₁ s' : σ} :
      reply = .error error → hasTask reply = false → error.isFatal = false →
      Decimal.Range.i32.contains (e.attempts + 1) = true →
      conduct (.recordFailure e.id error.message p.config.maxAttempts) s answer s₁ →
      Counting conduct s₁ s' → Closing conduct p e reply s (answer.map .ofStatus) s'
  | overflow {error : OutboxError} :
      reply = .error error → hasTask reply = false → error.isFatal = false →
      Decimal.Range.i32.contains (e.attempts + 1) = false →
      Closing conduct p e reply s (.panicked .addOverflow) s

/-- What is done with an event: the builder turns it down, or it is put to the queue. -/
inductive Course (conduct : Conduct Call Answer σ) (p : Processor) (e : OutboxEvent) (s : σ) :
    Outcome OutboxError EventOutcome → σ → Prop where
  | rejected {error : OutboxError} {answer : Except OutboxError Bool} {s₁ s' : σ} :
      p.builder e = .error error → conduct (.markFailed e.id error.message) s answer s₁ →
      Counting conduct s₁ s' → Course conduct p e s (.ofExcept (answer.map fun _ => .failed)) s'
  | enqueued {make : Int → Task} {now : Int} {reply : Except OutboxError TaskInfo} {s₁ s₂ s' : σ}
      {o : Outcome OutboxError EventOutcome} :
      p.builder e = .ok make → conduct .now s now s₁ →
      conduct (.enqueue (make now) (p.options e)) s₁ reply s₂ →
      Closing conduct p e reply s₂ o s' → Course conduct p e s o s'

variable {conduct : Conduct Call Answer σ} {p : Processor} {e : OutboxEvent}
variable {s s' : σ} {o : Outcome OutboxError EventOutcome}

/-- If a counter changes nothing else, there is no change at all. -/
theorem Counting.eq (h : Counting conduct s s')
    (hcount : ∀ counter answer, conduct (.count counter) s answer s' → s' = s) : s' = s := by
  rcases h with rfl | ⟨counter, answer, hc⟩
  · rfl
  · exact hcount counter answer hc

theorem counting_of_count {counter : Counter} {o : Outcome OutboxError Unit}
    (h : Dialogue.Runs conduct (p.count counter) s o s') : o = .ok () ∧ Counting conduct s s' := by
  unfold Processor.count at h
  split at h
  · obtain ⟨answer, s₁, hc, rfl, rfl⟩ := h
    exact ⟨rfl, .inr ⟨counter, answer, hc⟩⟩
  · obtain ⟨rfl, rfl⟩ := h
    exact ⟨rfl, .inl rfl⟩

theorem counting_of_count_pure {counter : Counter} {value : EventOutcome}
    (h : Dialogue.Runs conduct (do p.count counter; return value : Step EventOutcome) s o s') :
    o = .ok value ∧ Counting conduct s s' := by
  rcases Attempt.runs_bind.mp h with ⟨⟨⟩, s₁, hcount, rfl, rfl⟩ | ⟨e, hcount, -⟩ | ⟨p, hcount, -⟩
  · exact ⟨rfl, (counting_of_count hcount).2⟩
  · cases (counting_of_count hcount).1
  · cases (counting_of_count hcount).1

theorem counting_of_counted {changed : Bool} {counter : Counter} {value : EventOutcome}
    (h : Dialogue.Runs conduct (do if changed then p.count counter
                                   return value : Step EventOutcome) s o s') :
    o = .ok value ∧ Counting conduct s s' := by
  cases changed with
  | false =>
    obtain ⟨rfl, rfl⟩ := h
    exact ⟨rfl, .inl rfl⟩
  | true => exact counting_of_count_pure h

/-- The delivery is recorded, and then it is counted. -/
theorem recorded_of_settleDelivered {id : Uuid}
    (h : Dialogue.Runs conduct (p.settleDelivered id) s o s') :
    ∃ (answer : Except OutboxError Bool) (s₁ : σ), conduct (.markSuccess id) s answer s₁ ∧
      Counting conduct s₁ s' ∧ o = .ofExcept (answer.map fun _ => .delivered) := by
  obtain ⟨answer, s₁, hc, hrest⟩ := h
  refine ⟨answer, s₁, hc, ?_⟩
  rcases answer with error | changed
  · obtain ⟨rfl, rfl⟩ := hrest
    exact ⟨.inl rfl, rfl⟩
  · obtain ⟨rfl, hcounting⟩ := counting_of_counted hrest
    exact ⟨hcounting, rfl⟩

theorem recorded_of_settleFailed {id : Uuid} {reason : String}
    (h : Dialogue.Runs conduct (p.settleFailed id reason) s o s') :
    ∃ (answer : Except OutboxError Bool) (s₁ : σ), conduct (.markFailed id reason) s answer s₁ ∧
      Counting conduct s₁ s' ∧ o = .ofExcept (answer.map fun _ => .failed) := by
  obtain ⟨answer, s₁, hc, hrest⟩ := h
  refine ⟨answer, s₁, hc, ?_⟩
  rcases answer with error | changed
  · obtain ⟨rfl, rfl⟩ := hrest
    exact ⟨.inl rfl, rfl⟩
  · obtain ⟨rfl, hcounting⟩ := counting_of_counted hrest
    exact ⟨hcounting, rfl⟩

theorem closing_of_settleAttempt {reply : Except OutboxError TaskInfo} {error : OutboxError}
    (hreply : reply = .error error) (htask : hasTask reply = false) (hfatal : error.isFatal = false)
    (h : Dialogue.Runs conduct (p.settleAttempt e error.message) s o s') :
    Closing conduct p e reply s o s' := by
  unfold Processor.settleAttempt Processor.nextAttempt at h
  cases hword : Decimal.Range.i32.contains (e.attempts + 1) with
  | false =>
    simp only [hword, Bool.false_eq_true, if_false] at h
    obtain ⟨rfl, rfl⟩ := h
    exact .overflow hreply htask hfatal hword
  | true =>
    simp only [hword, if_true] at h
    obtain ⟨answer, s₁, hc, hrest⟩ := h
    have hclosing : ∀ {o}, o = answer.map .ofStatus ∧ Counting conduct s₁ s' →
        Closing conduct p e reply s o s' := by
      rintro _ ⟨rfl, hcounting⟩
      exact .attempted hreply htask hfatal hword hc hcounting
    refine hclosing ?_
    cases answer with
    | ok status =>
      cases status with
      | failed => exact counting_of_count_pure hrest
      | pending => exact counting_of_count_pure hrest
      | success => exact counting_of_count_pure hrest
    | failed error =>
      obtain ⟨rfl, rfl⟩ := hrest
      exact ⟨rfl, .inl rfl⟩
    | panicked panic =>
      obtain ⟨rfl, rfl⟩ := hrest
      exact ⟨rfl, .inl rfl⟩

theorem closing_of_runs {reply : Except OutboxError TaskInfo}
    (h : Dialogue.Runs conduct (p.settle e reply) s o s') : Closing conduct p e reply s o s' := by
  unfold Processor.settle at h
  split at h
  · obtain ⟨answer, s₁, hc, hcounting, rfl⟩ := recorded_of_settleDelivered h
    exact .delivered rfl hc hcounting
  · obtain ⟨answer, s₁, hc, hcounting, rfl⟩ := recorded_of_settleDelivered h
    exact .delivered rfl hc hcounting
  · next error hconflict =>
    have htask : hasTask (.error error) = false := by
      unfold hasTask
      split
      · next info heq => cases heq
      · next text heq => exact absurd (Except.error.inj heq) (hconflict text)
      · rfl
    split at h
    · next hfatal =>
      obtain ⟨answer, s₁, hc, hcounting, rfl⟩ := recorded_of_settleFailed h
      exact .refused rfl hfatal hc hcounting
    · next hfatal =>
      exact closing_of_settleAttempt rfl htask (Bool.eq_false_iff.mpr hfatal) h

/-- Every run of the handling of an event is one of these. -/
theorem course_of_runs (h : Dialogue.Runs conduct (p.processEvent e) s o s') :
    Course conduct p e s o s' := by
  unfold Processor.processEvent at h
  split at h
  · next error hbuilder =>
    obtain ⟨answer, s₁, hc, hcounting, rfl⟩ := recorded_of_settleFailed h
    exact .rejected hbuilder hc hcounting
  · next make hbuilder =>
    obtain ⟨now, s₁, hnow, reply, s₂, henqueue, hrest⟩ := h
    exact .enqueued hbuilder hnow henqueue (closing_of_runs hrest)

/-! ## One batch -/

/-- What a look at a gate finds: is it set? -/
def Gate.Shows (conduct : Conduct Call Answer σ) : Gate → σ → Bool → σ → Prop
  | .never, s, isSet, s' => isSet = false ∧ s' = s
  | .signals, s, isSet, s' => conduct .stopRequested s isSet s'
  | .deadline time, s, isSet, s' =>
    ∃ now : Nat, conduct .clock s now s' ∧ isSet = decide (time ≤ now)

theorem Gate.shows_of_runs {gate : Gate} {s s' : σ} {o : Outcome Empty Bool}
    (h : Dialogue.Runs conduct gate.isSet s o s') :
    ∃ isSet, o = .ok isSet ∧ gate.Shows conduct s isSet s' := by
  cases gate with
  | never =>
    obtain ⟨rfl, rfl⟩ := h
    exact ⟨false, rfl, rfl, rfl⟩
  | signals =>
    obtain ⟨isSet, s₁, hc, rfl, rfl⟩ := h
    exact ⟨isSet, rfl, hc⟩
  | deadline time =>
    obtain ⟨now, s₁, hc, rfl, rfl⟩ := h
    exact ⟨_, rfl, now, hc, rfl⟩

/-- Events are handled in their order, each of them from its beginning to its end, until the gate is
found set, or a panic breaks the batch off. The results are those of the handled events. -/
inductive Passage (conduct : Conduct Call Answer σ) (p : Processor) (gate : Gate) :
    List OutboxEvent → σ → List (Except OutboxError EventOutcome) → Option Panic → σ → Prop where
  | done (s : σ) : Passage conduct p gate [] s [] none s
  | stopped {e : OutboxEvent} {rest : List OutboxEvent} {s s' : σ} :
      gate.Shows conduct s true s' → Passage conduct p gate (e :: rest) s [] none s'
  | next {e : OutboxEvent} {rest : List OutboxEvent} {s s₁ s₂ s' : σ}
      {result : Except OutboxError EventOutcome} {results : List (Except OutboxError EventOutcome)}
      {panic : Option Panic} :
      gate.Shows conduct s false s₁ →
      Dialogue.Runs conduct (p.processEvent e) s₁ (.ofExcept result) s₂ →
      Passage conduct p gate rest s₂ results panic s' →
      Passage conduct p gate (e :: rest) s (result :: results) panic s'
  | broken {e : OutboxEvent} {rest : List OutboxEvent} {s s₁ s' : σ} {panic : Panic} :
      gate.Shows conduct s false s₁ →
      Dialogue.Runs conduct (p.processEvent e) s₁ (.panicked panic) s' →
      Passage conduct p gate (e :: rest) s [] (some panic) s'

namespace BatchReport

@[simp] theorem skipped_add (r : BatchReport) (result : Except OutboxError EventOutcome) :
    (r.add result).skipped = r.skipped := by
  rcases result with _ | ⟨⟨⟩⟩ <;> rfl

/-- The report of a batch of so many events of which these results are known. -/
def closed (r : BatchReport) (events : Nat) (results : List (Except OutboxError EventOutcome)) :
    BatchReport :=
  { results.foldl add r with skipped := events - results.length }

end BatchReport

variable {gate : Gate} {events : List OutboxEvent} {report : BatchReport}

theorem passage_of_processAll {o : Outcome Empty BatchReport} (hreport : report.skipped = 0)
    (h : Dialogue.Runs conduct (p.processAll gate report events) s o s') :
    ∃ results panic, Passage conduct p gate events s results panic s' ∧
      o = .unlessPanic (report.closed events.length results) panic := by
  induction events generalizing report s with
  | nil =>
    obtain ⟨rfl, rfl⟩ := h
    refine ⟨[], none, .done _, ?_⟩
    obtain ⟨_, _, _, _, _, skipped⟩ := report
    obtain rfl : skipped = 0 := hreport
    rfl
  | cons e rest ih =>
    rcases Attempt.runs_bind.mp h with ⟨isSet, s₁, hgate, hrest⟩ | ⟨⟨⟩, -⟩ | ⟨q, hgate, -⟩
    · obtain ⟨_, heq, hshows⟩ := Gate.shows_of_runs hgate
      cases heq
      cases isSet with
      | true =>
        obtain ⟨rfl, rfl⟩ := hrest
        exact ⟨[], none, .stopped hshows, rfl⟩
      | false =>
        rcases Attempt.runs_bind.mp hrest with
          ⟨result, s₂, hevent, hmore⟩ | ⟨⟨⟩, -⟩ | ⟨q, hevent, rfl⟩
        · obtain ⟨r, heq, hevent⟩ | ⟨q, heq, -⟩ := Attempt.runs_result.mp hevent
          · cases heq
            obtain ⟨results, panic, hpassage, rfl⟩ :=
              ih (by simp [hreport]) hmore
            refine ⟨result :: results, panic, .next hshows hevent hpassage, ?_⟩
            simp [BatchReport.closed]
          · cases heq
        · obtain ⟨r, heq, -⟩ | ⟨q', heq, hevent⟩ := Attempt.runs_result.mp hevent
          · cases heq
          · cases heq
            exact ⟨[], some q, .broken hshows hevent, rfl⟩
    · obtain ⟨_, heq, -⟩ := Gate.shows_of_runs hgate
      cases heq

/-- A batch fetches events and handles them, or there is nothing that it could handle. -/
theorem passage_of_processBatch {o : Outcome Empty BatchReport}
    (h : Dialogue.Runs conduct (p.processBatch gate) s o s') :
    ∃ found s₁,
      conduct (.findPending p.config.eventName p.config.batchSize gate.deadline?) s found s₁ ∧
      (((∀ events, found ≠ some (.ok events)) ∧ o = .ok {} ∧ s' = s₁) ∨
        ∃ events results panic, found = some (.ok events) ∧
          Passage conduct p gate events s₁ results panic s' ∧
          o = .unlessPanic (BatchReport.closed { fetched := events.length } events.length results)
            panic) := by
  obtain ⟨found, s₁, hc, hrest⟩ := h
  refine ⟨found, s₁, hc, ?_⟩
  rcases found with _ | error | events
  · obtain ⟨rfl, rfl⟩ := hrest
    exact .inl ⟨nofun, rfl, rfl⟩
  · obtain ⟨rfl, rfl⟩ := hrest
    exact .inl ⟨nofun, rfl, rfl⟩
  · obtain ⟨results, panic, hpassage, rfl⟩ := passage_of_processAll rfl hrest
    exact .inr ⟨events, results, panic, rfl, hpassage, rfl⟩

/-- After a batch the gauges are set, if the worker has any and knows what they should show. -/
theorem refreshing_of_runs {o : Outcome Empty Unit}
    (h : Dialogue.Runs conduct p.refreshMetrics s o s') :
    o = .ok () ∧ (s' = s ∨ ∃ stats s₁, conduct (.pendingStats p.config.eventName) s stats s₁ ∧
      (s' = s₁ ∨ ∃ pending age, conduct (.setGauges pending age) s₁ () s')) := by
  unfold Processor.refreshMetrics at h
  split at h
  · obtain ⟨stats, s₁, hstats, hrest⟩ := h
    rcases stats with error | ⟨pending, age⟩
    · obtain ⟨rfl, rfl⟩ := hrest
      exact ⟨rfl, .inr ⟨_, _, hstats, .inl rfl⟩⟩
    · obtain ⟨⟨⟩, s₂, hgauges, rfl, rfl⟩ := hrest
      exact ⟨rfl, .inr ⟨_, _, hstats, .inr ⟨pending, age, hgauges⟩⟩⟩
  · obtain ⟨rfl, rfl⟩ := h
    exact ⟨rfl, .inl rfl⟩

/-- A poll is one batch that nothing stops. -/
theorem pollOnce_of_runs {o : Outcome Empty BatchReport}
    (h : Dialogue.Runs conduct p.pollOnce s o s') :
    (∃ report s₁, Dialogue.Runs conduct (p.processBatch .never) s (.ok report) s₁ ∧
        Dialogue.Runs conduct p.refreshMetrics s₁ (.ok ()) s' ∧ o = .ok report) ∨
      ∃ reason, Dialogue.Runs conduct (p.processBatch .never) s (.panicked reason) s' ∧
        o = .panicked reason := by
  rcases Attempt.runs_bind.mp h with ⟨report, s₁, hbatch, hmore⟩ | ⟨⟨⟩, -⟩ | ⟨q, hbatch, rfl⟩
  · rcases Attempt.runs_bind.mp hmore with ⟨⟨⟩, s₂, hrefresh, rfl, rfl⟩ | ⟨⟨⟩, -⟩ | ⟨q, hrefresh, -⟩
    · exact .inl ⟨report, s₁, hbatch, hrefresh, rfl⟩
    · cases (refreshing_of_runs hrefresh).1
  · exact .inr ⟨q, hbatch, rfl⟩

/-- A drain is one batch with a deadline, if there is a moment that can be its deadline. -/
theorem drain_of_runs {o : Outcome Empty Turn} (h : Dialogue.Runs conduct p.drain s o s') :
    ∃ noticed s₁, conduct .clock s noticed s₁ ∧
      ((clockLimit < noticed + p.config.shutdownGrace ∧ o = .panicked clockOverflow ∧ s' = s₁) ∨
        noticed + p.config.shutdownGrace ≤ clockLimit ∧
        ((∃ report s₂, Dialogue.Runs conduct
              (p.processBatch (.deadline (noticed + p.config.shutdownGrace))) s₁ (.ok report) s₂ ∧
            Dialogue.Runs conduct p.refreshMetrics s₂ (.ok ()) s' ∧ o = .ok .ended) ∨
          ∃ reason, Dialogue.Runs conduct
              (p.processBatch (.deadline (noticed + p.config.shutdownGrace))) s₁
              (.panicked reason) s' ∧ o = .panicked reason)) := by
  obtain ⟨noticed, s₁, hclock, hrest⟩ := Attempt.runs_hear_bind.mp h
  refine ⟨noticed, s₁, hclock, ?_⟩
  split at hrest
  · next hlimit =>
    obtain ⟨rfl, rfl⟩ := hrest
    exact .inl ⟨hlimit, rfl, rfl⟩
  · next hlimit =>
    refine .inr ⟨Nat.le_of_not_lt hlimit, ?_⟩
    rcases Attempt.runs_bind.mp hrest with ⟨report, s₂, hbatch, hmore⟩ | ⟨⟨⟩, -⟩ | ⟨q, hbatch, rfl⟩
    · rcases Attempt.runs_bind.mp hmore with
        ⟨⟨⟩, s₃, hrefresh, rfl, rfl⟩ | ⟨⟨⟩, -⟩ | ⟨q, hrefresh, -⟩
      · exact .inl ⟨report, s₂, hbatch, hrefresh, rfl⟩
      · cases (refreshing_of_runs hrefresh).1
    · exact .inr ⟨q, hbatch, rfl⟩

section Map

variable {τ : Type} {conduct' : Conduct Call Answer τ} {f : σ → τ}
variable (hf : ∀ c s answer s', conduct c s answer s' → conduct' c (f s) answer (f s'))
include hf

theorem Gate.Shows.map {s s' : σ} {isSet : Bool} (h : gate.Shows conduct s isSet s') :
    gate.Shows conduct' (f s) isSet (f s') := by
  cases gate with
  | never => exact ⟨h.1, congrArg f h.2⟩
  | signals => exact hf .stopRequested s isSet s' h
  | deadline time =>
    obtain ⟨now, hc, hset⟩ := h
    exact ⟨now, hf .clock s now s' hc, hset⟩

theorem Passage.map {results : List (Except OutboxError EventOutcome)} {panic : Option Panic}
    (h : Passage conduct p gate events s results panic s') :
    Passage conduct' p gate events (f s) results panic (f s') := by
  induction h with
  | done s => exact .done (f s)
  | stopped hgate => exact .stopped (hgate.map hf)
  | next hgate hevent _ ih => exact .next (hgate.map hf) (hevent.map hf) ih
  | broken hgate hevent => exact .broken (hgate.map hf) (hevent.map hf)

end Map

theorem Passage.length_le {results : List (Except OutboxError EventOutcome)} {panic : Option Panic}
    (h : Passage conduct p gate events s results panic s') : results.length ≤ events.length := by
  induction h with
  | done => exact le_rfl
  | stopped => exact Nat.zero_le _
  | next _ _ _ ih => exact Nat.succ_le_succ ih
  | broken => exact Nat.zero_le _

/-- If nothing stops a batch, all its events are handled, unless a panic breaks it off. -/
theorem Passage.length_eq {results : List (Except OutboxError EventOutcome)}
    (h : Passage conduct p .never events s results none s') : results.length = events.length := by
  generalize hpanic : (none : Option Panic) = panic at h
  induction h with
  | done => rfl
  | stopped hshows => cases hshows.1
  | next _ _ _ ih => exact congrArg (· + 1) (ih hpanic)
  | broken => cases hpanic

end SignIn.Outbox
