import Mathlib.Data.Set.Basic
import SignIn.Outbox.Worker
import SignIn.Proofs.Terms

/-!
# A rule for deliveries

What a worker does with a batch is the same whatever is to be proved of it. So
the way through a delivery is followed once, and what is left to each proof are
the calls of the table and of the queue, one by one.
-/
namespace SignIn.Outbox

/-- Calls that concern neither the rows nor the tasks. -/
def Call.isAside : Call → Bool
  | .now | .clock | .stopRequested | .wake _ | .pendingStats _ | .count _ | .setGauges .. => true
  | _ => false

/-- The queue has the task, be it from this call or from an earlier one. -/
def hasTask : Except OutboxError TaskInfo → Bool
  | .ok _ | .error (.taskIdConflict _) => true
  | .error _ => false

/-- Conditions under which a worker handles events. It is `ready` between two batches. In a
`batch` the listed events are still to be handled. The first of them is then `delivered`, when the
queue has or had its task, or `refused`. -/
structure Handling {σ : Type} (config : Config) (builder : Builder)
    (conduct : Conduct Call Answer σ) (terms : Terms Call σ) (ready : σ → Prop)
    (batch : List OutboxEvent → σ → Prop)
    (delivered refused : OutboxEvent → List OutboxEvent → σ → Prop) : Prop where
  aside : ∀ c, c.isAside → ∀ s s₁, terms.drift s s₁ →
    terms.permits c s₁ ∧ ∀ a s₂, conduct c s₁ a s₂ → terms.drift s₁ s₂
  ready_drift : ∀ s s', ready s → terms.drift s s' → ready s'
  batch_drift : ∀ events s s', batch events s → terms.drift s s' → batch events s'
  leave : ∀ events s, batch events s → ready s
  giveUp : ∀ e rest s, refused e rest s → ready s
  fetch : ∀ s deadline, ready s →
    terms.Put conduct (.findPending config.eventName config.batchSize deadline) s fun a s' =>
      match a with
      | some (.ok events) => batch events s'
      | _ => ready s'
  reject : ∀ e rest s error, batch (e :: rest) s → builder e = .error error →
    terms.Put conduct (.markFailed e.id error.message) s fun _ s' => batch rest s'
  enqueue : ∀ e rest s make now, batch (e :: rest) s → builder e = .ok make →
    terms.Put conduct (.enqueue (make now) ⟨some e.id.text, config.maxRetry, config.queue⟩) s
      fun a s' => if hasTask a then delivered e rest s' else refused e rest s'
  mark : ∀ e rest s, delivered e rest s →
    terms.Put conduct (.markSuccess e.id) s fun _ s' => batch rest s'
  abandon : ∀ e rest s error, refused e rest s →
    terms.Put conduct (.markFailed e.id error) s fun _ s' => batch rest s'
  retry : ∀ e rest s error, refused e rest s →
    terms.Put conduct (.recordFailure e.id error config.maxAttempts) s fun _ s' => batch rest s'

namespace Handling

variable {σ : Type} {config : Config} {builder : Builder} {conduct : Conduct Call Answer σ}
variable {terms : Terms Call σ} {ready : σ → Prop} {batch : List OutboxEvent → σ → Prop}
variable {delivered refused : OutboxEvent → List OutboxEvent → σ → Prop}

theorem put_aside (h : Handling config builder conduct terms ready batch delivered refused)
    {c : Call} (hc : c.isAside) {keeps : σ → Prop}
    (stable : ∀ s s', keeps s → terms.drift s s' → keeps s') {s : σ} (hs : keeps s) :
    terms.Put conduct c s fun _ s' => keeps s' := by
  intro s₁ hs₁
  obtain ⟨hp, hnext⟩ := h.aside c hc s s₁ hs₁
  exact ⟨hp, fun a s₂ ha => stable s₁ s₂ (stable s s₁ hs hs₁) (hnext a s₂ ha)⟩

/-- A condition of the value that an event leaves behind, and of the end of a worker that panics. -/
def afterEvent (ready : σ → Prop) (batch : List OutboxEvent → σ → Prop)
    (rest : List OutboxEvent) : Outcome OutboxError EventOutcome → σ → Prop
  | .panicked _, s => ready s
  | _, s => batch rest s

variable (metered : Bool)

theorem secures_count (h : Handling config builder conduct terms ready batch delivered refused)
    (counter : Counter) {rest : List OutboxEvent} {s : σ} (hs : batch rest s) :
    (Processor.count ⟨config, builder, metered⟩ counter).Secures conduct terms
      (fun o s' => match o with | .ok () => batch rest s' | _ => False) s := by
  cases metered with
  | false => exact hs
  | true => exact h.put_aside rfl (h.batch_drift rest) hs

/-- Count, and answer what became of the event. -/
theorem secures_count_pure
    (h : Handling config builder conduct terms ready batch delivered refused) (counter : Counter)
    (value : EventOutcome) {rest : List OutboxEvent} {s : σ} (hs : batch rest s) :
    Attempt.Secures conduct terms (afterEvent ready batch rest)
      (do Processor.count ⟨config, builder, metered⟩ counter
          return value : Step EventOutcome) s := by
  refine (Attempt.secures_bind ..).mpr ((h.secures_count metered counter hs).mono ?_)
  rintro (⟨⟩ | e | p) s' hs'
  · exact hs'
  · exact hs'.elim
  · exact hs'.elim

/-- Count what has changed, if it has. -/
theorem secures_counted (h : Handling config builder conduct terms ready batch delivered refused)
    (changed : Bool) (counter : Counter) (value : EventOutcome) {rest : List OutboxEvent} {s : σ}
    (hs : batch rest s) :
    Attempt.Secures conduct terms (afterEvent ready batch rest)
      (do if changed then Processor.count ⟨config, builder, metered⟩ counter
          return value : Step EventOutcome) s := by
  cases changed with
  | false => exact hs
  | true => exact h.secures_count_pure metered counter value hs

theorem secures_settleDelivered
    (h : Handling config builder conduct terms ready batch delivered refused) {e : OutboxEvent}
    {rest : List OutboxEvent} {s : σ} (hs : delivered e rest s) :
    (Processor.settleDelivered ⟨config, builder, metered⟩ e.id).Secures conduct terms
      (afterEvent ready batch rest) s := by
  refine (Attempt.secures_bind ..).mpr ((Attempt.secures_call ..).mpr fun s₁ hs₁ => ?_)
  obtain ⟨hp, hnext⟩ := h.mark e rest s hs s₁ hs₁
  refine ⟨hp, fun a s₂ ha => ?_⟩
  cases a with
  | error error => exact hnext _ s₂ ha
  | ok changed => exact h.secures_counted metered changed .delivered .delivered (hnext _ s₂ ha)

/-- Giving up for good, on the condition that the call that does it is in order. -/
theorem secures_settleFailed
    (h : Handling config builder conduct terms ready batch delivered refused) {e : OutboxEvent}
    {reason : String} {rest : List OutboxEvent} {s : σ}
    (hput : terms.Put conduct (.markFailed e.id reason) s fun _ s' => batch rest s') :
    (Processor.settleFailed ⟨config, builder, metered⟩ e.id reason).Secures conduct terms
      (afterEvent ready batch rest) s := by
  refine (Attempt.secures_bind ..).mpr ((Attempt.secures_call ..).mpr fun s₁ hs₁ => ?_)
  obtain ⟨hp, hnext⟩ := hput s₁ hs₁
  refine ⟨hp, fun a s₂ ha => ?_⟩
  cases a with
  | error error => exact hnext _ s₂ ha
  | ok changed => exact h.secures_counted metered changed .failed .failed (hnext _ s₂ ha)

theorem secures_settleAttempt
    (h : Handling config builder conduct terms ready batch delivered refused) {e : OutboxEvent}
    {reason : String} {rest : List OutboxEvent} {s : σ} (hs : refused e rest s) :
    (Processor.settleAttempt ⟨config, builder, metered⟩ e reason).Secures conduct terms
      (afterEvent ready batch rest) s := by
  refine (Attempt.secures_bind ..).mpr ?_
  unfold Processor.nextAttempt
  split
  · refine (Attempt.secures_bind ..).mpr ((Attempt.secures_hear ..).mpr fun s₁ hs₁ => ?_)
    obtain ⟨hp, hnext⟩ := h.retry e rest s reason hs s₁ hs₁
    refine ⟨hp, fun a s₂ ha => ?_⟩
    have hs₂ : batch rest s₂ := hnext a s₂ ha
    refine (Attempt.secures_bind ..).mpr ((Attempt.secures_ofOutcome ..).mpr ?_)
    cases a with
    | ok status =>
      cases status with
      | failed => exact h.secures_count_pure metered .failed .failed hs₂
      | pending => exact h.secures_count_pure metered .retried .retrying hs₂
      | success => exact h.secures_count_pure metered .retried .retrying hs₂
    | failed error => exact hs₂
    | panicked p => exact h.leave rest s₂ hs₂
  · exact h.giveUp e rest s hs

theorem secures_settle (h : Handling config builder conduct terms ready batch delivered refused)
    (reply : Except OutboxError TaskInfo) {e : OutboxEvent} {rest : List OutboxEvent} {s : σ}
    (hs : if hasTask reply then delivered e rest s else refused e rest s) :
    (Processor.settle ⟨config, builder, metered⟩ e reply).Secures conduct terms
      (afterEvent ready batch rest) s := by
  unfold Processor.settle
  split
  case h_1 => exact h.secures_settleDelivered metered hs
  case h_2 => exact h.secures_settleDelivered metered hs
  case h_3 error hconflict =>
    have href : refused e rest s := by
      cases error with
      | taskIdConflict id => exact (hconflict id rfl).elim
      | _ => exact hs
    split
    · exact h.secures_settleFailed metered (h.abandon e rest s error.message href)
    · exact h.secures_settleAttempt metered href

/-- One event, from the call of the builder to the record of its outcome. -/
theorem secures_processEvent
    (h : Handling config builder conduct terms ready batch delivered refused) {e : OutboxEvent}
    {rest : List OutboxEvent} {s : σ} (hs : batch (e :: rest) s) :
    (Processor.processEvent ⟨config, builder, metered⟩ e).Secures conduct terms
      (afterEvent ready batch rest) s := by
  unfold Processor.processEvent
  split
  case h_1 error hb => exact h.secures_settleFailed metered (h.reject e rest s error hs hb)
  case h_2 make hb =>
    refine (Attempt.secures_bind ..).mpr ((Attempt.secures_hear ..).mpr fun s₁ hs₁ => ?_)
    obtain ⟨hp, hnow⟩ := h.put_aside (c := .now) rfl (h.batch_drift (e :: rest)) hs s₁ hs₁
    refine ⟨hp, fun now s₂ hc => ?_⟩
    refine (Attempt.secures_bind ..).mpr ((Attempt.secures_hear ..).mpr fun s₃ hs₃ => ?_)
    obtain ⟨hq, hnext⟩ := h.enqueue e rest s₂ make now (hnow now s₂ hc) hb s₃ hs₃
    refine ⟨hq, fun reply s₄ hr => ?_⟩
    exact h.secures_settle metered reply (hnext reply s₄ hr)

theorem secures_isSet (h : Handling config builder conduct terms ready batch delivered refused)
    (gate : Gate) {events : List OutboxEvent} {s : σ} (hs : batch events s) :
    gate.isSet.Secures conduct terms
      (fun o s' => match o with | .ok _ => batch events s' | _ => False) s := by
  cases gate with
  | never => exact hs
  | signals => exact h.put_aside rfl (h.batch_drift events) hs
  | deadline time => exact h.put_aside rfl (h.batch_drift events) hs

/-- A batch, event by event. Wherever it stops, the worker is ready for the next one. -/
theorem secures_processAll
    (h : Handling config builder conduct terms ready batch delivered refused) (gate : Gate)
    (report : BatchReport) {events : List OutboxEvent} {s : σ} (hs : batch events s) :
    (Processor.processAll ⟨config, builder, metered⟩ gate report events).Secures conduct terms
      (fun _ => ready) s := by
  induction events generalizing report s with
  | nil => exact h.leave [] s hs
  | cons e rest ih =>
    refine (Attempt.secures_bind ..).mpr ((h.secures_isSet gate hs).mono ?_)
    rintro (stop | ⟨⟨⟩⟩ | p) s₁ hs₁
    · cases stop with
      | true => exact h.leave _ s₁ hs₁
      | false =>
        refine (Attempt.secures_bind ..).mpr (Attempt.secures_result _ _ _ ?_)
        refine (h.secures_processEvent metered hs₁).mono fun o s₂ hs₂ => ?_
        cases o with
        | ok value => exact ih _ hs₂
        | failed error => exact ih _ hs₂
        | panicked p => exact hs₂
    · exact hs₁.elim

theorem secures_processBatch
    (h : Handling config builder conduct terms ready batch delivered refused) (gate : Gate)
    {s : σ} (hs : ready s) :
    (Processor.processBatch ⟨config, builder, metered⟩ gate).Secures conduct terms
      (fun _ => ready) s := by
  refine (Attempt.secures_bind ..).mpr ((Attempt.secures_hear ..).mpr fun s₁ hs₁ => ?_)
  obtain ⟨hp, hnext⟩ := h.fetch s gate.deadline? hs s₁ hs₁
  refine ⟨hp, fun found s₂ hf => ?_⟩
  have hs₂ := hnext found s₂ hf
  rcases found with _ | error | events
  · exact hs₂
  · exact hs₂
  · exact h.secures_processAll metered gate _ hs₂

theorem secures_refreshMetrics
    (h : Handling config builder conduct terms ready batch delivered refused) {s : σ}
    (hs : ready s) :
    (Processor.refreshMetrics ⟨config, builder, metered⟩).Secures conduct terms
      (fun _ => ready) s := by
  unfold Processor.refreshMetrics
  split
  · refine (Attempt.secures_bind ..).mpr ((Attempt.secures_hear ..).mpr fun s₁ hs₁ => ?_)
    obtain ⟨hp, hnext⟩ :=
      h.put_aside (c := .pendingStats config.eventName) rfl h.ready_drift hs s₁ hs₁
    refine ⟨hp, fun stats s₂ hf => ?_⟩
    cases stats with
    | error error => exact hnext _ s₂ hf
    | ok pair => exact h.put_aside rfl h.ready_drift (hnext _ s₂ hf)
  · exact hs

/-- What follows a piece of work that leaves the worker ready. -/
theorem secures_seq {α β : Type} {a : Duty α} {f : α → Duty β} {s : σ}
    (ha : a.Secures conduct terms (fun _ => ready) s)
    (hf : ∀ value s', ready s' → (f value).Secures conduct terms (fun _ => ready) s') :
    (a >>= f).Secures conduct terms (fun _ => ready) s := by
  refine (Attempt.secures_bind ..).mpr (ha.mono fun o s' hs' => ?_)
  cases o with
  | ok value => exact hf value s' hs'
  | failed e => exact hs'
  | panicked p => exact hs'

theorem secures_pollOnce
    (h : Handling config builder conduct terms ready batch delivered refused) {s : σ}
    (hs : ready s) :
    (Processor.pollOnce ⟨config, builder, metered⟩).Secures conduct terms (fun _ => ready) s :=
  secures_seq (h.secures_processBatch metered .never hs) fun _ _ hs' =>
    secures_seq (h.secures_refreshMetrics metered hs') fun _ _ hs'' => hs''

theorem secures_drain
    (h : Handling config builder conduct terms ready batch delivered refused) {s : σ}
    (hs : ready s) :
    (Processor.drain ⟨config, builder, metered⟩).Secures conduct terms (fun _ => ready) s := by
  have hclock : (ask .clock : Duty Nat).Secures conduct terms (fun _ => ready) s :=
    h.put_aside rfl h.ready_drift hs
  refine secures_seq hclock fun noticed s₁ hs₁ => ?_
  split
  · exact hs₁
  · exact secures_seq (h.secures_processBatch metered _ hs₁) fun _ _ hs₂ =>
      secures_seq (h.secures_refreshMetrics metered hs₂) fun _ _ hs₃ => hs₃

theorem secures_poll
    (h : Handling config builder conduct terms ready batch delivered refused) {s : σ}
    (hs : ready s) :
    (Processor.poll ⟨config, builder, metered⟩).Secures conduct terms (fun _ => ready) s :=
  secures_seq (h.secures_processBatch metered .signals hs) fun _ _ hs' =>
    h.secures_refreshMetrics metered hs'

theorem secures_turn
    (h : Handling config builder conduct terms ready batch delivered refused) (hearStop : Bool)
    {s : σ} (hs : ready s) :
    (Processor.turn ⟨config, builder, metered⟩ hearStop).Secures conduct terms
      (fun _ => ready) s := by
  have hlook : (ask .stopRequested : Duty Bool).Secures conduct terms (fun _ => ready) s :=
    h.put_aside rfl h.ready_drift hs
  refine secures_seq hlook fun stop s₁ hs₁ => ?_
  split
  · exact h.secures_drain metered hs₁
  · have hwake : (ask (.wake hearStop) : Duty Wake).Secures conduct terms (fun _ => ready) s₁ :=
      h.put_aside rfl h.ready_drift hs₁
    refine secures_seq hwake fun wake s₂ hs₂ => ?_
    split
    · exact h.secures_drain metered hs₂
    · exact h.secures_drain metered hs₂
    · exact h.secures_drain metered hs₂
    · exact hs₂
    · exact hs₂
    · exact hs₂
    · exact secures_seq (h.secures_poll metered hs₂) fun _ _ hs₃ => hs₃

theorem secures_turns
    (h : Handling config builder conduct terms ready batch delivered refused) (n : Nat)
    (turn : Turn) {s : σ} (hs : ready s) :
    (Processor.turns ⟨config, builder, metered⟩ n turn).Secures conduct terms
      (fun _ => ready) s := by
  induction n generalizing turn s with
  | zero => exact hs
  | succ n ih =>
    cases turn with
    | ended => exact hs
    | listening => exact secures_seq (h.secures_turn metered true hs) fun t _ hs' => ih t hs'
    | deaf => exact secures_seq (h.secures_turn metered false hs) fun t _ hs' => ih t hs'

end Handling

end SignIn.Outbox
