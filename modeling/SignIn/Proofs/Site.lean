import SignIn.Proofs.Deliveries
import SignIn.Proofs.Rows
import SignIn.Proofs.Workers

/-!
# The table and the queue that workers share

A call of the table works, or fails, and a call that fails may have worked all the
same. How the queue answers is left open; the common case is a queue that claims
the id of a task when it accepts it.
-/
namespace SignIn.Outbox

/-- A task in the queue, under the id that it has claimed. -/
structure Accepted where
  id : String
  task : Task

/-- The shared table, and the tasks in the queue in the order of their acceptance. -/
@[ext]
structure Site where
  table : Table
  queue : List Accepted

namespace Site

/-- No two rows have one id. -/
abbrev UniqueIds (w : Site) : Prop := (w.table.map (·.id)).Nodup

/-- The task with these options may go by this id. -/
def Names (options : TaskOptions) (id : String) : Prop :=
  ∀ given, options.taskId = some given → id = given

/-- What a queue may do with a task: the queue before, the reply, and the queue after. -/
abbrev QueueConduct : Type :=
  Task → TaskOptions → List Accepted → Except OutboxError TaskInfo → List Accepted → Prop

/-- A task is accepted once under one id. The reply may be lost, and be an error for the worker; a
conflict is only reported for an id that was accepted. -/
inductive Claiming (task : Task) (options : TaskOptions) (queue : List Accepted) :
    Except OutboxError TaskInfo → List Accepted → Prop where
  | accepts (id : String) (info : TaskInfo) : Names options id → (∀ t ∈ queue, t.id ≠ id) →
      Claiming task options queue (.ok info) (queue ++ [⟨id, task⟩])
  | unheard (id : String) (error : OutboxError) : Names options id → (∀ t ∈ queue, t.id ≠ id) →
      Claiming task options queue (.error error) (queue ++ [⟨id, task⟩])
  | refuses (error : OutboxError) :
      (∀ text, error = .taskIdConflict text → ∃ t ∈ queue, Names options t.id) →
      Claiming task options queue (.error error) queue

/-- A call of the table that does its work at some time, or fails, with or without doing it. -/
inductive Stores {α : Type} (work : Int → α × Table) (t : Table) :
    Except OutboxError α → Table → Prop where
  | works (now : Int) : Stores work t (.ok (work now).1) (work now).2
  | fails (error : OutboxError) : Stores work t (.error error) t
  | unheard (now : Int) (error : OutboxError) : Stores work t (.error error) (work now).2

/-- What the table and the queue do with a call of a worker. -/
def conduct (queue : QueueConduct) : Conduct Call Answer Site
  | .findPending name limit _, w, answer, w' =>
    (∀ events, answer = some (.ok events) → events = w.table.findPending name limit) ∧ w' = w
  | .enqueue task options, w, answer, w' =>
    queue task options w.queue answer w'.queue ∧ w'.table = w.table
  | .markSuccess id, w, answer, w' =>
    Stores (fun now => w.table.markSuccess now id) w.table answer w'.table ∧ w'.queue = w.queue
  | .markFailed id error, w, answer, w' =>
    Stores (fun now => w.table.markFailed now id error) w.table answer w'.table ∧
      w'.queue = w.queue
  | .recordFailure id error maxAttempts, w, answer, w' =>
    ((∃ p, answer = .panicked p ∧ w'.table = w.table) ∨
      ∃ result, answer = .ofExcept (result >>= fun status => status) ∧
        Stores (fun now => w.table.recordFailure now id error maxAttempts) w.table result
          w'.table) ∧
      w'.queue = w.queue
  | _, w, _, w' => w' = w

/-- A new row is pending, and its id is new to the table and to the queue. -/
def Inserts (w w' : Site) : Prop :=
  ∃ row : OutboxEvent, row.status = .pending ∧ (∀ e ∈ w.table, e.id ≠ row.id) ∧
    (∀ t ∈ w.queue, t.id ≠ row.id.text) ∧ w' = ⟨w.table ++ [row], w.queue⟩

/-- A row of an admitted kind joins the table under a new id, or only the queue changes. -/
def Joins (admits : OutboxEvent → Prop) (w w' : Site) : Prop :=
  w'.table = w.table ∨ ∃ row : OutboxEvent,
    admits row ∧ (∀ e ∈ w.table, e.id ≠ row.id) ∧ w'.table = w.table ++ [row]

theorem Joins.uniqueIds {admits : OutboxEvent → Prop} {w w' : Site} (h : Joins admits w w')
    (hw : UniqueIds w) : UniqueIds w' := by
  rcases h with heq | ⟨row, -, hfresh, heq⟩
  · rw [UniqueIds, heq]
    exact hw
  · rw [UniqueIds, heq]
    exact nodup_map_append_singleton hw hfresh

/-! ## What one call can change -/

/-- The changes of pending rows that the calls of a worker make. -/
inductive Writes : Call → Uuid → (OutboxEvent → OutboxEvent) → Prop where
  | success (id : Uuid) (now : Int) :
      Writes (.markSuccess id) id (Table.settled .success none now)
  | failure (id : Uuid) (error : String) (now : Int) :
      Writes (.markFailed id error) id (Table.settled .failed (some error) now)
  | attempt (id : Uuid) (error : String) (maxAttempts now : Int) :
      Writes (.recordFailure id error maxAttempts) id (Table.attempted maxAttempts error now)

theorem Writes.sameEvent {c : Call} {id : Uuid} {change : OutboxEvent → OutboxEvent}
    (h : Writes c id change) (e : OutboxEvent) : e.SameEvent (change e) := by
  cases h <;> exact ⟨rfl, rfl, rfl, rfl⟩

theorem Stores.table_eq {α : Type} {work : Int → α × Table} {t t' : Table}
    {result : Except OutboxError α} (h : Stores work t result t') :
    t' = t ∨ ∃ now, t' = (work now).2 := by
  cases h with
  | works now => exact .inr ⟨now, rfl⟩
  | fails error => exact .inl rfl
  | unheard now error => exact .inr ⟨now, rfl⟩

/-- A call that reports a value has done its work. -/
theorem Stores.table_of_ok {α : Type} {work : Int → α × Table} {t t' : Table} {value : α}
    (h : Stores work t (.ok value) t') : ∃ now, t' = (work now).2 := by
  cases h with
  | works now => exact ⟨now, rfl⟩

/-- A call leaves the table as it is, or makes its change. -/
theorem table_of_conduct {queue : QueueConduct} {c : Call} {w w' : Site} {answer : Answer c}
    (h : conduct queue c w answer w') :
    w'.table = w.table ∨
      ∃ id change, Writes c id change ∧ w'.table = Table.updatePending id change w.table := by
  cases c with
  | enqueue task options => exact .inl h.2
  | markSuccess id =>
    rcases h.1.table_eq with heq | ⟨now, heq⟩
    · exact .inl heq
    · exact .inr ⟨id, _, .success id now, heq⟩
  | markFailed id error =>
    rcases h.1.table_eq with heq | ⟨now, heq⟩
    · exact .inl heq
    · exact .inr ⟨id, _, .failure id error now, heq⟩
  | recordFailure id error maxAttempts =>
    obtain ⟨⟨p, -, heq⟩ | ⟨result, -, hst⟩, -⟩ := h
    · exact .inl heq
    · rcases hst.table_eq with heq | ⟨now, heq⟩
      · exact .inl heq
      · simp only [Table.recordFailure] at heq
        split at heq
        · exact .inl heq
        · exact .inr ⟨id, _, .attempt id error maxAttempts now, heq⟩
  | findPending name limit deadline => exact .inl (congrArg Site.table h.2)
  | _ => exact .inl (congrArg Site.table h)

/-- Only the queue's own call changes the queue. -/
theorem queue_of_conduct {queue : QueueConduct} {c : Call} {w w' : Site} {answer : Answer c}
    (h : conduct queue c w answer w') (hc : ∀ task options, c ≠ .enqueue task options) :
    w'.queue = w.queue := by
  cases c with
  | enqueue task options => exact (hc task options rfl).elim
  | findPending name limit deadline => exact congrArg Site.queue h.2
  | markSuccess id => exact h.2
  | markFailed id error => exact h.2
  | recordFailure id error maxAttempts => exact h.2
  | _ => exact congrArg Site.queue h

theorem keeps_of_conduct {queue : QueueConduct} {c : Call} {w w' : Site} {answer : Answer c}
    (h : conduct queue c w answer w') : w.table.Keeps w'.table := by
  rcases table_of_conduct h with heq | ⟨id, change, hw, heq⟩
  · rw [heq]
    exact .refl w.table
  · rw [heq]
    exact Table.forall₂_updatePending .refl (fun e _ _ => hw.sameEvent e) w.table

theorem uniqueIds_of_conduct {queue : QueueConduct} {c : Call} {w w' : Site} {answer : Answer c}
    (hw : UniqueIds w) (h : conduct queue c w answer w') : UniqueIds w' := by
  rw [UniqueIds, (keeps_of_conduct h).map_id]
  exact hw

/-- A call that changes the table replaces one pending row. -/
theorem replaces_of_conduct {queue : QueueConduct} {c : Call} {w w' : Site} {answer : Answer c}
    (hw : UniqueIds w) (h : conduct queue c w answer w') (hne : w'.table ≠ w.table) :
    ∃ row ∈ w.table, row.status = .pending ∧ ∃ change, Writes c row.id change ∧
      Table.Replaces row (change row) w.table w'.table := by
  obtain ⟨id, change, hwrites, heq⟩ := (table_of_conduct h).resolve_left hne
  have hfound : ∃ row ∈ w.table, Table.isPendingId id row = true := by
    by_contra hnone
    refine hne (heq.trans (Table.updatePending_of_forall fun e he => ?_))
    exact Bool.eq_false_iff.mpr fun hp => hnone ⟨e, he, hp⟩
  obtain ⟨row, hrow, hp⟩ := hfound
  obtain ⟨rfl, hpending⟩ := Table.isPendingId_iff.mp hp
  refine ⟨row, hrow, hpending, change, hwrites, ?_⟩
  rw [heq]
  exact Table.replaces_updatePending change hw hrow hpending

/-- An aside changes nothing. -/
theorem eq_of_isAside {queue : QueueConduct} {c : Call} (hc : c.isAside) {w w' : Site}
    {answer : Answer c} (h : conduct queue c w answer w') : w' = w := by
  cases c with
  | now | clock | stopRequested | wake | pendingStats | count | setGauges => exact h
  | _ => exact (Bool.false_ne_true hc).elim

/-! ## Workers -/

/-- What a worker with a configuration and a builder may do: poll once, or take turns. -/
def programs (config : Config) (builder : Builder) : Set (Dialogue Call Answer Unit) :=
  {d | ∃ metered,
    d = Dialogue.andThen (Processor.pollOnce ⟨config, builder, metered⟩) (fun _ => .done ()) ∨
    ∃ n turn,
      d = Dialogue.andThen (Processor.turns ⟨config, builder, metered⟩ n turn) fun _ => .done ()}

def plant (queue : QueueConduct) (config : Config) (builder : Builder) :
    Plant Call Answer Site where
  conduct := conduct queue
  outside := Inserts
  programs := programs config builder

theorem poll_mem_programs (config : Config) (builder : Builder) (metered : Bool) :
    Dialogue.andThen (Processor.pollOnce ⟨config, builder, metered⟩) (fun _ => .done ()) ∈
      programs config builder :=
  ⟨metered, .inl rfl⟩

/-- Whatever a worker does, it handles events. -/
theorem secures_of_mem_programs {σ : Type} {config : Config} {builder : Builder}
    {conduct : Conduct Call Answer σ} {terms : Terms Call σ} {ready : σ → Prop}
    {batch : List OutboxEvent → σ → Prop}
    {delivered refused : OutboxEvent → List OutboxEvent → σ → Prop}
    (h : Handling config builder conduct terms ready batch delivered refused)
    {d : Dialogue Call Answer Unit} (hd : d ∈ programs config builder) {s : σ} (hs : ready s) :
    d.Secures conduct terms (fun _ => ready) s := by
  obtain ⟨metered, rfl | ⟨n, turn, rfl⟩⟩ := hd
  · exact (Dialogue.secures_andThen ..).mpr (h.secures_pollOnce metered hs)
  · exact (Dialogue.secures_andThen ..).mpr (h.secures_turns metered n turn hs)

/-- A batch of one row. -/
theorem conduct_findPending_singleton (queue : QueueConduct) {row : OutboxEvent}
    (h : row.status = .pending) {limit : Nat} (hl : 0 < limit) (deadline : Option Nat)
    (tasks : List Accepted) :
    conduct queue (.findPending row.name limit deadline) ⟨[row], tasks⟩ (some (.ok [row]))
      ⟨[row], tasks⟩ := by
  refine ⟨fun events he => ?_, rfl⟩
  obtain ⟨n, rfl⟩ := Nat.exists_eq_succ_of_ne_zero hl.ne'
  have hbatch : Table.findPending [row] row.name (n + 1) = [row] := by
    simp [Table.findPending, Table.isPendingOf, h]
  rw [hbatch]
  exact (Except.ok.inj (Option.some.inj he)).symm

/-- A row that is met by a worker is delivered when nothing goes wrong. -/
theorem runs_processEvent {p : Processor} (hp : p.metered = false) {row : OutboxEvent}
    {make : Int → Task} (hb : p.builder row = .ok make) (hpending : row.status = .pending) :
    Dialogue.Runs (conduct Claiming) (p.processEvent row) ⟨[row], []⟩ (.ok .delivered)
      ⟨[Table.settled .success none 0 row], [⟨row.id.text, make 0⟩]⟩ := by
  have hstep : p.processEvent row = (do
      let now : Int ← ask .now
      let answer : Except OutboxError TaskInfo ← ask (.enqueue (make now) (p.options row))
      p.settle row answer) := by
    unfold Processor.processEvent
    rw [hb]
  have hmark : Table.markSuccess [row] 0 row.id = (true, [Table.settled .success none 0 row]) := by
    simp [Table.markSuccess, Table.pendingRow?, Table.updatePending, Table.isPendingId, hpending]
  have hstored : Stores (fun now => Table.markSuccess [row] now row.id) [row] (.ok true)
      [Table.settled .success none 0 row] := by
    have hworks : Stores (fun now => Table.markSuccess [row] now row.id) [row]
        (.ok (Table.markSuccess [row] 0 row.id).1) (Table.markSuccess [row] 0 row.id).2 := .works 0
    rwa [hmark] at hworks
  rw [hstep]
  obtain ⟨config, builder, metered⟩ := p
  obtain rfl : metered = false := hp
  refine (Dialogue.runs_ask Call.now _ _ _ _).mpr ⟨0, _, rfl, ?_⟩
  refine (Dialogue.runs_ask
    (Call.enqueue (make 0) ⟨some row.id.text, config.maxRetry, config.queue⟩) _ _ _ _).mpr
    ⟨.ok ⟨row.id.text, ""⟩, ⟨_, [⟨row.id.text, make 0⟩]⟩, ⟨.accepts _ _ ?_ (by simp), rfl⟩, ?_⟩
  · exact fun given h => Option.some.inj h
  refine (Dialogue.runs_ask (Call.markSuccess row.id) _ _ _ _).mpr
    ⟨.ok true, ⟨_, [⟨row.id.text, make 0⟩]⟩, ⟨hstored, rfl⟩, ?_⟩
  exact ⟨rfl, rfl⟩

theorem runs_pollOnce {p : Processor} (hp : p.metered = false) (hbatch : 0 < p.config.batchSize)
    {row : OutboxEvent} {make : Int → Task} (hb : p.builder row = .ok make)
    (hpending : row.status = .pending) (hname : row.name = p.config.eventName) :
    Dialogue.Runs (conduct Claiming) (Dialogue.andThen p.pollOnce fun _ => .done ()) ⟨[row], []⟩ ()
      ⟨[Table.settled .success none 0 row], [⟨row.id.text, make 0⟩]⟩ := by
  have hevent := runs_processEvent hp hb hpending
  obtain ⟨config, builder, metered⟩ := p
  obtain rfl : metered = false := hp
  have hresult : Dialogue.Runs (conduct Claiming)
      ((Processor.processEvent ⟨config, builder, false⟩ row).result :
        Duty (Except OutboxError EventOutcome)) ⟨[row], []⟩ (.ok (.ok .delivered)) _ :=
    hevent.andThen ⟨rfl, rfl⟩
  have hall : Dialogue.Runs (conduct Claiming)
      (Processor.processAll ⟨config, builder, false⟩ .never { fetched := 1 } [row]) ⟨[row], []⟩
      (.ok { fetched := 1, delivered := 1 }) _ := hresult.andThen ⟨rfl, rfl⟩
  have hfetch := conduct_findPending_singleton Claiming hpending hbatch none []
  rw [hname] at hfetch
  refine (Dialogue.runs_ask (Call.findPending config.eventName config.batchSize none) _ _ _ _).mpr
    ⟨some (.ok [row]), _, hfetch, ?_⟩
  exact Dialogue.Runs.andThen (Dialogue.Runs.andThen hall ⟨rfl, rfl⟩) ⟨rfl, rfl⟩

end Site

end SignIn.Outbox
