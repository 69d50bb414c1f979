import Mathlib.Algebra.GroupWithZero.Nat
import SignIn.Proofs.Rows
import SignIn.Proofs.SharedDelivery
import SignIn.Proofs.Terms

/-!
# The backlog drains

A row that fails stays at the head of the batch, in front of the younger ones, but
not for ever. A pending row is worth the attempts that it has left, and one at
least. Each poll takes something off the worth of every row that it fetches, whatever
the queue answers, so that the pending rows of a name come to an end.

The table works without faults here, and nothing joins it. The queue may answer as it
likes.
-/
namespace SignIn

namespace Outbox.Table

/-- The attempts that a row has left, and one at least. -/
def worth (budget : Int) (e : OutboxEvent) : Nat := (max 1 (budget - e.attempts)).toNat

/-- What the pending rows of a name are worth together. -/
def backlog (t : Table) (name : String) (budget : Int) : Nat :=
  ((t.filter (isPendingOf name)).map (worth budget)).sum

theorem worth_pos (budget : Int) (e : OutboxEvent) : 0 < worth budget e := by
  unfold worth
  omega

/-- With unique ids, an update that takes something off the worth of a row takes it off the
backlog. -/
theorem backlog_updatePending_lt {name : String} {budget : Int} {t : Table}
    {change : OutboxEvent → OutboxEvent} {e : OutboxEvent} (hn : (t.map (·.id)).Nodup)
    (he : e ∈ t) (hp : isPendingOf name e = true)
    (hc : isPendingOf name (change e) = true → worth budget (change e) < worth budget e) :
    (updatePending e.id change t).backlog name budget < t.backlog name budget := by
  induction t with
  | nil => simp at he
  | cons e₀ rest ih =>
    obtain ⟨hnot, hrest⟩ := List.nodup_cons.mp hn
    rcases List.mem_cons.mp he with rfl | hmem
    · have hid : isPendingId e.id e = true := isPendingId_iff.mpr ⟨rfl, (isPendingOf_iff.mp hp).2⟩
      have hworth := worth_pos budget e
      rw [updatePending, if_pos hid]
      by_cases hstill : isPendingOf name (change e) = true
      · have hlt := hc hstill
        simp only [backlog, List.filter_cons, if_pos hstill, if_pos hp, List.map_cons,
          List.sum_cons]
        omega
      · simp only [backlog, List.filter_cons, if_neg hstill, if_pos hp, List.map_cons,
          List.sum_cons]
        omega
    · have hne : ¬isPendingId e.id e₀ = true := by
        intro h
        have hid : e₀.id = e.id := (isPendingId_iff.mp h).1
        exact hnot (List.mem_map.mpr ⟨e, hmem, hid.symm⟩)
      have hlt := ih hrest hmem
      rw [updatePending, if_neg hne]
      by_cases hp₀ : isPendingOf name e₀ = true
      · simp only [backlog, List.filter_cons, if_pos hp₀, List.map_cons, List.sum_cons] at hlt ⊢
        omega
      · simp only [backlog, List.filter_cons, if_neg hp₀] at hlt ⊢
        exact hlt

/-- A backlog of nothing has no rows. -/
theorem not_pending_of_backlog_eq_zero {name : String} {budget : Int} {t : Table}
    (h : t.backlog name budget = 0) {e : OutboxEvent} (he : e ∈ t) (hname : e.name = name) :
    e.status ≠ .pending := by
  intro hp
  have hmem : e ∈ t.filter (isPendingOf name) :=
    List.mem_filter.mpr ⟨he, isPendingOf_iff.mpr ⟨hname, hp⟩⟩
  have hzero : worth budget e = 0 :=
    List.sum_eq_zero_iff_forall_eq_nat.mp h _ (List.mem_map.mpr ⟨e, hmem, rfl⟩)
  have hpos := worth_pos budget e
  omega

/-- A batch takes no row only if there is none. -/
theorem backlog_eq_zero_of_findPending (budget : Int) {name : String} {limit : Nat} {t : Table}
    (hl : 1 ≤ limit) (h : t.findPending name limit = []) : t.backlog name budget = 0 := by
  have hsorted : (t.filter (isPendingOf name)).mergeSort notAfter = [] := by
    rcases List.take_eq_nil_iff.mp h with hzero | hnil
    · omega
    · exact hnil
  have hlength : (t.filter (isPendingOf name)).length = 0 := by
    rw [← List.length_mergeSort, hsorted, List.length_nil]
  rw [backlog, List.length_eq_zero_iff.mp hlength]
  rfl

end Outbox.Table

namespace Outbox

/-- Every call of the table does its work and says so. What the queue says is left open. -/
def faultless : Conduct Call Answer Table
  | .findPending name limit _, t, answer, t' =>
    answer = some (.ok (t.findPending name limit)) ∧ t' = t
  | .markSuccess id, t, answer, t' =>
    ∃ now, answer = .ok (t.markSuccess now id).1 ∧ t' = (t.markSuccess now id).2
  | .markFailed id error, t, answer, t' =>
    ∃ now, answer = .ok (t.markFailed now id error).1 ∧ t' = (t.markFailed now id error).2
  | .recordFailure id error maxAttempts, t, answer, t' =>
    ∃ now, answer = .ofExcept (t.recordFailure now id error maxAttempts).1 ∧
      t' = (t.recordFailure now id error maxAttempts).2
  | _, t, _, t' => t' = t

theorem exists_faultless (c : Call) (t : Table) : ∃ answer t', faultless c t answer t' := by
  cases c with
  | now => exact ⟨(0 : Int), t, rfl⟩
  | clock => exact ⟨(0 : Nat), t, rfl⟩
  | stopRequested => exact ⟨false, t, rfl⟩
  | wake hearStop => exact ⟨Wake.tick, t, rfl⟩
  | findPending name limit deadline => exact ⟨_, t, rfl, rfl⟩
  | enqueue task options => exact ⟨.ok ⟨"", ""⟩, t, rfl⟩
  | markSuccess id => exact ⟨_, _, 0, rfl, rfl⟩
  | markFailed id error => exact ⟨_, _, 0, rfl, rfl⟩
  | recordFailure id error maxAttempts => exact ⟨_, _, 0, rfl, rfl⟩
  | pendingStats name => exact ⟨.ok (0, 0), t, rfl⟩
  | count counter => exact ⟨(), t, rfl⟩
  | setGauges pending age => exact ⟨(), t, rfl⟩

/-- Ids are unique, and a word can hold the attempts of a pending row after one more. -/
structure InWord (t : Table) : Prop where
  unique : (t.map (·.id)).Nodup
  countable : ∀ e ∈ t, e.status = .pending → Decimal.Range.i32.contains (e.attempts + 1) = true

/-- What the handling of an event makes of its pending row: it is settled, or one more attempt is
counted for it. -/
inductive Uses (budget : Int) : (OutboxEvent → OutboxEvent) → Prop where
  | settled (status : OutboxStatus) (lastError : Option String) (now : Int) :
      status ≠ .pending → Uses budget (Table.settled status lastError now)
  | attempted (error : String) (now : Int) : Uses budget (Table.attempted budget error now)

/-- The row of an event was handled, and the others are as before. -/
def Handled (budget : Int) (e : OutboxEvent) (t t' : Table) : Prop :=
  ∃ change, Uses budget change ∧ t' = Table.updatePending e.id change t

/-- These events of a name are still to be handled, and their rows are as they were fetched. -/
structure Waiting (name : String) (events : List OutboxEvent) (t : Table) : Prop where
  inWord : InWord t
  distinct : (events.map (·.id)).Nodup
  stored : ∀ e ∈ events, e ∈ t ∧ Table.isPendingOf name e = true

variable {budget : Int} {name : String}

namespace Uses

variable {change : OutboxEvent → OutboxEvent}

theorem sameEvent (h : Uses budget change) (e : OutboxEvent) : e.SameEvent (change e) := by
  cases h <;> exact ⟨rfl, rfl, rfl, rfl⟩

/-- A row is left pending only with attempts to spare. -/
theorem attempts_eq (h : Uses budget change) {e : OutboxEvent} (hp : (change e).status = .pending) :
    (change e).attempts = e.attempts + 1 ∧ e.attempts + 1 < budget := by
  cases h with
  | settled status lastError now hne => exact (hne hp).elim
  | attempted error now =>
    have hmore : ¬budget ≤ e.attempts + 1 := by
      intro hlast
      simp [Table.attempted, Table.settled, Table.statusAfter, hlast] at hp
    exact ⟨rfl, by omega⟩

/-- What is left pending is worth less. -/
theorem worth_lt (h : Uses budget change) {e : OutboxEvent} (hp : (change e).status = .pending) :
    Table.worth budget (change e) < Table.worth budget e := by
  obtain ⟨hattempts, hmore⟩ := h.attempts_eq hp
  simp only [Table.worth, hattempts]
  omega

end Uses

namespace Handled

variable {e : OutboxEvent} {t t' : Table}

theorem inWord (h : Handled budget e t t') (hword : Decimal.Range.i32.contains budget = true)
    (ht : InWord t) (he : e ∈ t) (hp : e.status = .pending) : InWord t' := by
  obtain ⟨change, huses, rfl⟩ := h
  constructor
  · have hkeeps : Table.Keeps t (Table.updatePending e.id change t) :=
      Table.forall₂_updatePending .refl (fun x _ _ => huses.sameEvent x) t
    rw [hkeeps.map_id]
    exact ht.unique
  · intro x hx hpending
    rcases (Table.replaces_updatePending change ht.unique he hp x).mp hx with rfl | ⟨hold, -⟩
    · obtain ⟨hattempts, hmore⟩ := huses.attempts_eq hpending
      have hcount := ht.countable e he hp
      rw [Decimal.Range.contains_iff] at hword hcount ⊢
      simp only [Decimal.Range.i32, hattempts] at hword hcount ⊢
      omega
    · exact ht.countable x hold hpending

/-- The rows of the other events wait as before. -/
theorem waiting {rest : List OutboxEvent} (h : Handled budget e t t')
    (hword : Decimal.Range.i32.contains budget = true) (ht : Waiting name (e :: rest) t) :
    Waiting name rest t' := by
  obtain ⟨he, hp⟩ := ht.stored e List.mem_cons_self
  have hpending : e.status = .pending := (Table.isPendingOf_iff.mp hp).2
  obtain ⟨hnot, hrest⟩ := List.nodup_cons.mp ht.distinct
  refine ⟨h.inWord hword ht.inWord he hpending, hrest, fun x hx => ?_⟩
  obtain ⟨hmem, hx'⟩ := ht.stored x (List.mem_cons_of_mem e hx)
  have hne : x.id ≠ e.id := fun hid => hnot (List.mem_map.mpr ⟨x, hx, hid⟩)
  obtain ⟨change, -, rfl⟩ := h
  have hreplaces := Table.replaces_updatePending change ht.inWord.unique he hpending x
  exact ⟨hreplaces.mpr (.inr ⟨hmem, hne⟩), hx'⟩

theorem backlog_lt (h : Handled budget e t t') (ht : InWord t) (he : e ∈ t)
    (hp : Table.isPendingOf name e = true) : t'.backlog name budget < t.backlog name budget := by
  obtain ⟨change, huses, rfl⟩ := h
  refine Table.backlog_updatePending_lt ht.unique he hp fun hstill => ?_
  exact huses.worth_lt (Table.isPendingOf_iff.mp hstill).2

end Handled

theorem InWord.waiting_findPending {t : Table} (ht : InWord t) (name : String) (limit : Nat) :
    Waiting name (t.findPending name limit) t := by
  refine ⟨ht, Table.nodup_findPending ht.unique name limit, fun e he => ?_⟩
  obtain ⟨hmem, hname, hp⟩ := Table.mem_of_mem_findPending he
  exact ⟨hmem, Table.isPendingOf_iff.mpr ⟨hname, hp⟩⟩

/-! ## One poll -/

namespace Processor

variable (p : Processor)

/-- An attempt that is alone and meets no faults. -/
abbrev Ensures {ε α : Type} (a : Attempt Call Answer ε α) (post : α → Table → Prop) (t : Table) :
    Prop :=
  a.Secures faultless (Terms.alone Call Table)
    (fun o t' => ∃ value, o = .ok value ∧ post value t') t

/-- One attempt after the other. -/
theorem ensures_bind {ε α β : Type} {a : Attempt Call Answer ε α}
    {f : α → Attempt Call Answer ε β} {P : α → Table → Prop} {Q : β → Table → Prop} {t : Table}
    (ha : Ensures a P t) (hf : ∀ value t', P value t' → Ensures (f value) Q t') :
    Ensures (a >>= f) Q t := by
  refine (Attempt.secures_bind ..).mpr (ha.mono ?_)
  rintro o t' ⟨value, rfl, hvalue⟩
  exact hf value t' hvalue

theorem ensures_pure {ε α : Type} {v : α} {P : α → Table → Prop} {t : Table}
    (h : P v t) : Ensures (pure v : Attempt Call Answer ε α) P t :=
  ⟨v, rfl, h⟩

theorem ensures_ask {ε : Type} (c : Call) {P : Answer c → Table → Prop} {t : Table}
    (h : ∀ answer t', faultless c t answer t' → P answer t') :
    Ensures (ask c : Attempt Call Answer ε (Answer c)) P t := by
  refine (Attempt.secures_hear ..).mpr ?_
  rintro t₁ rfl
  exact ⟨trivial, fun answer t' hc => ⟨answer, rfl, h answer t' hc⟩⟩

theorem ensures_count (counter : Counter) (t : Table) :
    Ensures (p.count counter) (fun _ t' => t' = t) t := by
  unfold count
  split
  · exact ensures_ask (.count counter) fun _ _ hc => hc
  · exact ensures_pure rfl

/-- Counting what has changed leaves the table alone. -/
theorem ensures_counted (changed : Bool) (counter : Counter) (value : EventOutcome) (t : Table) :
    Ensures (do if changed then p.count counter
                return value : Step EventOutcome) (fun _ t' => t' = t) t := by
  cases changed with
  | false => exact ensures_pure rfl
  | true => exact ensures_bind (p.ensures_count counter t) fun _ t' ht => ensures_pure ht

theorem ensures_settleDelivered (e : OutboxEvent) (t : Table) :
    Ensures (p.settleDelivered e.id) (fun _ t' => Handled p.config.maxAttempts e t t') t := by
  refine (Attempt.secures_bind ..).mpr ((Attempt.secures_call ..).mpr ?_)
  rintro t₁ rfl
  refine ⟨trivial, ?_⟩
  rintro answer t₂ ⟨now, rfl, rfl⟩
  refine (p.ensures_counted _ .delivered .delivered _).mono ?_
  rintro o t' ⟨value, rfl, rfl⟩
  have huses : Uses p.config.maxAttempts (Table.settled .success none now) :=
    .settled _ _ _ OutboxStatus.noConfusion
  exact ⟨value, rfl, _, huses, rfl⟩

theorem ensures_settleFailed (e : OutboxEvent) (reason : String) (t : Table) :
    Ensures (p.settleFailed e.id reason) (fun _ t' => Handled p.config.maxAttempts e t t') t := by
  refine (Attempt.secures_bind ..).mpr ((Attempt.secures_call ..).mpr ?_)
  rintro t₁ rfl
  refine ⟨trivial, ?_⟩
  rintro answer t₂ ⟨now, rfl, rfl⟩
  refine (p.ensures_counted _ .failed .failed _).mono ?_
  rintro o t' ⟨value, rfl, rfl⟩
  have huses : Uses p.config.maxAttempts (Table.settled .failed (some reason) now) :=
    .settled _ _ _ OutboxStatus.noConfusion
  exact ⟨value, rfl, _, huses, rfl⟩

/-- The attempt is counted, since its row is still pending. -/
theorem ensures_settleAttempt {e : OutboxEvent} (reason : String) {t : Table} (ht : InWord t)
    (he : e ∈ t) (hp : e.status = .pending) :
    Ensures (p.settleAttempt e reason) (fun _ t' => Handled p.config.maxAttempts e t t') t := by
  have hnext : nextAttempt e = pure (e.attempts + 1) := if_pos (ht.countable e he hp)
  unfold settleAttempt
  rw [hnext]
  refine ensures_bind (ensures_pure (P := fun _ t' => t' = t) rfl) ?_
  rintro attempt t₁ rfl
  obtain ⟨row, hrow⟩ : ∃ row, Table.pendingRow? t₁ e.id = some row := by
    refine Option.isSome_iff_exists.mp (List.find?_isSome.mpr ⟨e, he, ?_⟩)
    exact Table.isPendingId_iff.mpr ⟨rfl, hp⟩
  have hasked : Ensures (ask (.recordFailure e.id reason p.config.maxAttempts) :
      Step (Outcome OutboxError OutboxStatus))
      (fun answer t' => (∃ status, answer = .ok status) ∧
        Handled p.config.maxAttempts e t₁ t') t₁ := by
    refine ensures_ask _ ?_
    rintro answer t' ⟨now, rfl, rfl⟩
    simp only [Table.recordFailure, hrow]
    exact ⟨⟨_, rfl⟩, _, .attempted reason now, rfl⟩
  refine ensures_bind hasked ?_
  rintro answer t₂ ⟨⟨status, rfl⟩, hhandled⟩
  refine ensures_bind (ensures_pure (v := status) (P := fun _ t' => t' = t₂) rfl) ?_
  rintro status t₃ rfl
  split
  · refine ensures_bind (p.ensures_count .failed t₃) ?_
    rintro ⟨⟩ t₄ rfl
    exact ensures_pure hhandled
  · refine ensures_bind (p.ensures_count .retried t₃) ?_
    rintro ⟨⟩ t₄ rfl
    exact ensures_pure hhandled

theorem ensures_settle (answer : Except OutboxError TaskInfo) {e : OutboxEvent} {t : Table}
    (ht : InWord t) (he : e ∈ t) (hp : e.status = .pending) :
    Ensures (p.settle e answer) (fun _ t' => Handled p.config.maxAttempts e t t') t := by
  unfold settle
  split
  · exact p.ensures_settleDelivered e t
  · exact p.ensures_settleDelivered e t
  · split
    · exact p.ensures_settleFailed e _ t
    · exact p.ensures_settleAttempt _ ht he hp

/-- Whatever the builder and the queue say, the row of an event is handled. -/
theorem ensures_processEvent {e : OutboxEvent} {t : Table} (ht : InWord t) (he : e ∈ t)
    (hp : e.status = .pending) :
    Ensures (p.processEvent e) (fun _ t' => Handled p.config.maxAttempts e t t') t := by
  unfold processEvent
  split
  · exact p.ensures_settleFailed e _ t
  · refine ensures_bind (ensures_ask (P := fun _ t' => t' = t) .now fun _ _ hc => hc) ?_
    rintro now t₁ rfl
    refine ensures_bind (ensures_ask (P := fun _ t' => t' = t₁) (.enqueue _ _)
      fun _ _ hc => hc) ?_
    rintro answer t₂ rfl
    exact p.ensures_settle answer ht he hp

/-- Every event of a batch takes something off the backlog. -/
theorem ensures_processAll (hword : Decimal.Range.i32.contains p.config.maxAttempts = true)
    (report : BatchReport) {events : List OutboxEvent} {t : Table} (ht : Waiting name events t) :
    Ensures (p.processAll .never report events)
      (fun report' t' => report'.fetched = report.fetched ∧ InWord t' ∧
        t'.backlog name p.config.maxAttempts + events.length ≤
          t.backlog name p.config.maxAttempts) t := by
  induction events generalizing report t with
  | nil => exact ensures_pure ⟨rfl, ht.inWord, le_rfl⟩
  | cons e rest ih =>
    obtain ⟨he, hp⟩ := ht.stored e List.mem_cons_self
    have hpending : e.status = .pending := (Table.isPendingOf_iff.mp hp).2
    have hresult : Ensures ((p.processEvent e).result : Duty (Except OutboxError EventOutcome))
        (fun _ t' => Handled p.config.maxAttempts e t t') t := by
      refine Attempt.secures_result _ _ _ ((p.ensures_processEvent ht.inWord he hpending).mono ?_)
      rintro o t' ⟨value, rfl, hhandled⟩
      exact ⟨_, rfl, hhandled⟩
    refine ensures_bind (ensures_pure (v := false) (P := fun b t' => b = false ∧ t' = t)
      ⟨rfl, rfl⟩) ?_
    rintro stop t₁ ⟨rfl, rfl⟩
    refine ensures_bind hresult fun result t₂ hhandled => ?_
    refine (ih (report.add result) (hhandled.waiting hword ht)).mono ?_
    rintro o t' ⟨report', rfl, hfetched, hinWord, hle⟩
    have hlt := hhandled.backlog_lt ht.inWord he hp
    have hadd : (report.add result).fetched = report.fetched := by
      rcases result with _ | ⟨⟨⟩⟩ <;> rfl
    refine ⟨report', rfl, hfetched.trans hadd, hinWord, ?_⟩
    rw [List.length_cons]
    omega

/-- What one poll makes of a table: no less is taken off the backlog than rows were fetched. -/
structure Polled (p : Processor) (t : Table) (report : BatchReport) (t' : Table) : Prop where
  inWord : InWord t'
  fetched : report.fetched = (t.findPending p.config.eventName p.config.batchSize).length
  backlog : t'.backlog p.config.eventName p.config.maxAttempts + report.fetched ≤
    t.backlog p.config.eventName p.config.maxAttempts

theorem ensures_refreshMetrics (t : Table) : Ensures p.refreshMetrics (fun _ t' => t' = t) t := by
  unfold refreshMetrics
  split
  · refine ensures_bind (ensures_ask (P := fun _ t' => t' = t) (.pendingStats _)
      fun _ _ hc => hc) ?_
    rintro stats t₁ rfl
    split
    · exact ensures_ask (.setGauges _ _) fun _ _ hc => hc
    · exact ensures_pure rfl
  · exact ensures_pure rfl

theorem ensures_pollOnce (hword : Decimal.Range.i32.contains p.config.maxAttempts = true)
    {t : Table} (ht : InWord t) : Ensures p.pollOnce (Polled p t) t := by
  refine ensures_bind (P := Polled p t) ?_ fun report t₁ hpolled => ?_
  · refine ensures_bind (ensures_ask (P := fun found t' =>
      found = some (.ok (t.findPending p.config.eventName p.config.batchSize)) ∧ t' = t)
      (.findPending _ _ _) fun _ _ hc => hc) ?_
    rintro found t₁ ⟨rfl, rfl⟩
    have hwaiting := ht.waiting_findPending p.config.eventName p.config.batchSize
    refine (p.ensures_processAll hword _ hwaiting).mono ?_
    rintro o t' ⟨report, rfl, hfetched, hinWord, hle⟩
    refine ⟨report, rfl, hinWord, hfetched, ?_⟩
    rw [hfetched]
    exact hle
  · refine ensures_bind (p.ensures_refreshMetrics t₁) ?_
    rintro ⟨⟩ t₂ rfl
    exact ensures_pure hpolled

/-! ## One poll after the other -/

/-- So many polls, one after the other. -/
def polls : Nat → Duty Unit
  | 0 => pure ()
  | n + 1 => do
    let _ ← p.pollOnce
    polls n

/-- A poll that finds a backlog makes it smaller. -/
theorem Polled.backlog_le {p : Processor} (hbatch : 1 ≤ p.config.batchSize) {t t' : Table}
    {report : BatchReport} (h : Polled p t report t') :
    t'.backlog p.config.eventName p.config.maxAttempts ≤
      t.backlog p.config.eventName p.config.maxAttempts - 1 := by
  have hle := h.backlog
  by_cases hnone : t.findPending p.config.eventName p.config.batchSize = []
  · have hzero := Table.backlog_eq_zero_of_findPending p.config.maxAttempts hbatch hnone
    omega
  · have hlength := List.length_pos_iff.mpr hnone
    have hfetched := h.fetched
    omega

theorem ensures_polls (hbatch : 1 ≤ p.config.batchSize)
    (hword : Decimal.Range.i32.contains p.config.maxAttempts = true) (n : Nat) {t : Table}
    (ht : InWord t) :
    Ensures (p.polls n) (fun _ t' => InWord t' ∧
      t'.backlog p.config.eventName p.config.maxAttempts ≤
        t.backlog p.config.eventName p.config.maxAttempts - n) t := by
  induction n generalizing t with
  | zero => exact ensures_pure ⟨ht, le_rfl⟩
  | succ n ih =>
    refine ensures_bind (p.ensures_pollOnce hword ht) fun report t₁ hpolled => ?_
    refine (ih hpolled.inWord).mono ?_
    rintro o t' ⟨⟨⟩, rfl, hinWord, hle⟩
    have hone := hpolled.backlog_le hbatch
    exact ⟨(), rfl, hinWord, by omega⟩

/-- With no backlog, a poll fetches nothing. -/
theorem Polled.fetched_eq_zero {p : Processor} {t t' : Table} {report : BatchReport}
    (h : Polled p t report t')
    (hzero : t.backlog p.config.eventName p.config.maxAttempts = 0) : report.fetched = 0 := by
  have hle := h.backlog
  omega

/-- Every poll that fetches a row makes the backlog smaller, whatever the queue answers. So there
are no more polls that fetch a row than the pending rows are worth, and then there is no pending
row of the name. Every poll comes to its end. -/
theorem backlog_drains (hbatch : 1 ≤ p.config.batchSize)
    (hword : Decimal.Range.i32.contains p.config.maxAttempts = true) {t : Table} (ht : InWord t)
    (n : Nat) :
    (∃ o t', Dialogue.Runs faultless (p.polls n) t o t') ∧
    ∀ o t', Dialogue.Runs faultless (p.polls n) t o t' →
      o = .ok () ∧
      (∀ o' t'', Dialogue.Runs faultless p.pollOnce t' o' t'' →
        ∃ report, o' = .ok report ∧
          (1 ≤ report.fetched →
            t''.backlog p.config.eventName p.config.maxAttempts <
              t'.backlog p.config.eventName p.config.maxAttempts) ∧
          (t.backlog p.config.eventName p.config.maxAttempts ≤ n → report.fetched = 0)) ∧
      (t.backlog p.config.eventName p.config.maxAttempts ≤ n →
        ∀ e ∈ t', e.name = p.config.eventName → e.status ≠ .pending) := by
  refine ⟨Dialogue.exists_runs exists_faultless _ t, fun o t' hr => ?_⟩
  obtain ⟨⟨⟩, rfl, hinWord, hle⟩ := (p.ensures_polls hbatch hword n ht).of_runs_alone hr
  refine ⟨rfl, fun o' t'' hr' => ?_, fun hn e he hname => ?_⟩
  · obtain ⟨report, rfl, hpolled⟩ := (p.ensures_pollOnce hword hinWord).of_runs_alone hr'
    have hbacklog := hpolled.backlog
    exact ⟨report, rfl, fun hone => by omega, fun hn => hpolled.fetched_eq_zero (by omega)⟩
  · have hzero : t'.backlog p.config.eventName p.config.maxAttempts = 0 := by omega
    exact Table.not_pending_of_backlog_eq_zero hzero he hname

/-! ### Two rows, one at a time -/

/-- One row at a time, and two attempts for each. -/
def narrow : Processor := ⟨{ eventName := "login", batchSize := 1, maxAttempts := 2 },
  Site.plainBuilder, false⟩

/-- A row, and a younger one behind it. -/
def twoRows : Table :=
  [Site.plainRow .pending, { Site.plainRow .pending with id := ⟨1⟩, createdAt := 1 }]

/-- The younger row has its turn, at the latest with the third poll. -/
theorem backlog_drains_twoRows :
    1 ≤ narrow.config.batchSize ∧
    Decimal.Range.i32.contains narrow.config.maxAttempts = true ∧ InWord twoRows ∧
    twoRows.backlog "login" 2 = 4 ∧
    ∃ t', Dialogue.Runs faultless (narrow.polls 4) twoRows (.ok ()) t' ∧
      ∀ e ∈ t', e.name = "login" → e.status ≠ .pending := by
  have hinWord : InWord twoRows := by
    constructor
    · simp [twoRows, Site.plainRow, Uuid.nil]
    · simp [twoRows, Site.plainRow, Decimal.Range.contains, Decimal.Range.i32]
  have hbacklog : twoRows.backlog "login" 2 = 4 := by decide
  obtain ⟨⟨o, t', hr⟩, hall⟩ := narrow.backlog_drains (by decide) (by decide) hinWord 4
  obtain ⟨rfl, -, hnone⟩ := hall o t' hr
  exact ⟨by decide, by decide, hinWord, hbacklog, t', hr, hnone hbacklog.le⟩

end Processor

end Outbox

end SignIn
