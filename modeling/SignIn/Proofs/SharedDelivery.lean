import SignIn.LoginNotice
import SignIn.Proofs.Deliveries
import SignIn.Proofs.Site
import SignIn.Proofs.UuidText

/-!
# Many workers, one task for each row

Workers fetch rows that may be stale and meet them again after a lost update, so
several of them can be between the enqueuing and the settling of one row. What
protects the queue is the claim on the id: it is made together with the task, and
it is never given up. The invariant ties the tasks to the rows and the delivered
rows to the tasks, and it only needs that nobody marks a row as delivered whose
task is not in the queue.
-/
namespace SignIn.Outbox

/-- The verdict of a builder depends on the event, not on what has become of it. -/
def Builder.JudgesEvent (builder : Builder) : Prop :=
  ∀ a b : OutboxEvent, a.SameEvent b → (builder a).isOk = (builder b).isOk

/-- A task that the builder makes of the event in a row, at some time. -/
def Builder.Builds (builder : Builder) (row : OutboxEvent) (task : Task) : Prop :=
  ∃ e make now, row.SameEvent e ∧ builder e = .ok make ∧ task = make now

theorem Builder.Builds.of_same {builder : Builder} {row row' : OutboxEvent} {task : Task}
    (h : builder.Builds row task) (hs : row.SameEvent row') : builder.Builds row' task := by
  obtain ⟨e, make, now, he, hb, ht⟩ := h
  exact ⟨e, make, now, hs.symm.trans he, hb, ht⟩

namespace Site

/-- The tasks in the queue under the id of a row. -/
def tasksOf (w : Site) (row : OutboxEvent) : List Accepted :=
  w.queue.filter (·.id == row.id.text)

theorem mem_tasksOf {w : Site} {row : OutboxEvent} {t : Accepted} :
    t ∈ w.tasksOf row ↔ t ∈ w.queue ∧ t.id = row.id.text := by
  simp [tasksOf]

structure Consistent (config : Config) (builder : Builder) (w : Site) : Prop where
  rows : (w.table.map (·.id)).Nodup
  claims : (w.queue.map (·.id)).Nodup
  built : ∀ t ∈ w.queue, ∃ row ∈ w.table,
    t.id = row.id.text ∧ row.name = config.eventName ∧ builder.Builds row t.task
  settled : ∀ row ∈ w.table, row.status = .success → ∃ t ∈ w.queue, t.id = row.id.text

/-- What a worker may count on while others are at work. -/
structure Grows (config : Config) (builder : Builder) (w w' : Site) : Prop where
  consistent : Consistent config builder w'
  rows : ∀ row ∈ w.table, ∃ row' ∈ w'.table, row.SameEvent row'
  tasks : w.queue ⊆ w'.queue

variable {config : Config} {builder : Builder}

theorem Grows.trans {a b c : Site} (h : Grows config builder a b) (h' : Grows config builder b c) :
    Grows config builder a c := by
  refine ⟨h'.consistent, fun row hrow => ?_, fun t ht => h'.tasks (h.tasks ht)⟩
  obtain ⟨row', hrow', hsame⟩ := h.rows row hrow
  obtain ⟨row'', hrow'', hsame'⟩ := h'.rows row' hrow'
  exact ⟨row'', hrow'', hsame.trans hsame'⟩

/-- What a worker takes care of: it enqueues tasks of rows only, and it marks a row as delivered
only if its task is in the queue. -/
def Careful (config : Config) (builder : Builder) : Call → Site → Prop
  | .enqueue task options, w => ∃ row ∈ w.table,
    row.name = config.eventName ∧ options.taskId = some row.id.text ∧ builder.Builds row task
  | .markSuccess id, w => ∃ t ∈ w.queue, t.id = id.text
  | _, _ => True

def deliveryTerms (config : Config) (builder : Builder) : Terms Call Site :=
  ⟨Grows config builder, Careful config builder⟩

/-! ## One call keeps the invariant -/

/-- The tasks stay tied to the rows of a table that keeps them. -/
theorem Consistent.of_keeps {w w' : Site} (h : Consistent config builder w)
    (hk : w.table.Keeps w'.table) (hq : w'.queue = w.queue)
    (hs : ∀ row ∈ w'.table, row.status = .success → ∃ t ∈ w.queue, t.id = row.id.text) :
    Consistent config builder w' where
  rows := by rw [hk.map_id]; exact h.rows
  claims := by rw [hq]; exact h.claims
  built := by
    intro t ht
    rw [hq] at ht
    obtain ⟨row, hrow, hid, hname, hb⟩ := h.built t ht
    obtain ⟨row', hrow', hsame⟩ := hk.exists_of_mem hrow
    exact ⟨row', hrow', by rw [hid, hsame.id], by rw [← hsame.name, hname], hb.of_same hsame⟩
  settled := by rw [hq]; exact hs

/-- A call of the table: a row becomes a success only when its task is in the queue. -/
theorem Consistent.update {w w' : Site} (h : Consistent config builder w) {c : Call} {id : Uuid}
    {change : OutboxEvent → OutboxEvent} (hw : Writes c id change)
    (hp : Careful config builder c w) (ht : w'.table = Table.updatePending id change w.table)
    (hq : w'.queue = w.queue) : Consistent config builder w' := by
  refine h.of_keeps ?_ hq fun row hrow hsuccess => ?_
  · rw [ht]
    exact Table.forall₂_updatePending .refl (fun e _ _ => hw.sameEvent e) w.table
  · rw [ht] at hrow
    rcases Table.mem_updatePending hrow with hold | ⟨e, he, hid, -, rfl⟩
    · exact h.settled row hold hsuccess
    · cases hw with
      | success _ now =>
        obtain ⟨t, hmem, htid⟩ := hp
        exact ⟨t, hmem, htid.trans (congrArg Uuid.text hid.symm)⟩
      | failure _ error now => exact (OutboxStatus.noConfusion hsuccess)
      | attempt _ error maxAttempts now =>
        simp only [Table.attempted, Table.settled, Table.statusAfter] at hsuccess
        split at hsuccess <;> exact OutboxStatus.noConfusion hsuccess

/-- A task of a row that joins the queue under an id that is still free. -/
theorem Consistent.accept {w w' : Site} (h : Consistent config builder w) {row : OutboxEvent}
    (hrow : row ∈ w.table) (hname : row.name = config.eventName) {task : Task}
    (hb : builder.Builds row task) (hfree : ∀ t ∈ w.queue, t.id ≠ row.id.text)
    (ht : w'.table = w.table) (hq : w'.queue = w.queue ++ [⟨row.id.text, task⟩]) :
    Consistent config builder w' where
  rows := by rw [ht]; exact h.rows
  claims := by rw [hq]; exact nodup_map_append_singleton h.claims hfree
  built := by
    intro t hmem
    rw [hq, List.mem_append, List.mem_singleton] at hmem
    rw [ht]
    rcases hmem with hmem | rfl
    · exact h.built t hmem
    · exact ⟨row, hrow, rfl, hname, hb⟩
  settled := by
    intro row' hrow' hsuccess
    rw [ht] at hrow'
    obtain ⟨t, hmem, hid⟩ := h.settled row' hrow' hsuccess
    exact ⟨t, by rw [hq]; exact List.mem_append_left _ hmem, hid⟩

/-- What the queue does with a task whose id is given. -/
theorem Claiming.queue_eq {task : Task} {options : TaskOptions} {queue queue' : List Accepted}
    {reply : Except OutboxError TaskInfo} {id : String} (hid : options.taskId = some id)
    (h : Claiming task options queue reply queue') :
    queue' = queue ∨ (∀ t ∈ queue, t.id ≠ id) ∧ queue' = queue ++ [⟨id, task⟩] := by
  cases h with
  | accepts id' info hname hfree =>
    rw [hname id hid] at hfree ⊢
    exact .inr ⟨hfree, rfl⟩
  | unheard id' error hname hfree =>
    rw [hname id hid] at hfree ⊢
    exact .inr ⟨hfree, rfl⟩
  | refuses error hconflict => exact .inl rfl

/-- A queue that says it has the task has one under this id. -/
theorem Claiming.exists_of_hasTask {task : Task} {options : TaskOptions}
    {queue queue' : List Accepted} {reply : Except OutboxError TaskInfo} {id : String}
    (hid : options.taskId = some id) (h : Claiming task options queue reply queue')
    (hr : hasTask reply) : ∃ t ∈ queue', t.id = id := by
  cases h with
  | accepts id' info hname hfree => exact ⟨⟨id', task⟩, by simp, hname id hid⟩
  | unheard id' error hname hfree => exact ⟨⟨id', task⟩, by simp, hname id hid⟩
  | refuses error hconflict =>
    cases error with
    | taskIdConflict text =>
      obtain ⟨t, hmem, hname⟩ := hconflict text rfl
      exact ⟨t, hmem, hname id hid⟩
    | _ => exact (Bool.false_ne_true hr).elim

theorem Consistent.conduct {w w' : Site} {c : Call} {answer : Answer c}
    (h : Consistent config builder w) (hp : Careful config builder c w)
    (hc : Site.conduct Claiming c w answer w') : Consistent config builder w' := by
  by_cases henq : ∃ task options, c = .enqueue task options
  · obtain ⟨task, options, rfl⟩ := henq
    obtain ⟨row, hrow, hname, hid, hb⟩ := hp
    obtain ⟨hqueue, ht⟩ := hc
    rcases hqueue.queue_eq hid with hq | ⟨hfree, hq⟩
    · exact h.of_keeps (by rw [ht]; exact .refl _) hq (by rw [ht]; exact h.settled)
    · exact h.accept hrow hname hb hfree ht hq
  · have hq : w'.queue = w.queue :=
      queue_of_conduct hc fun task options heq => henq ⟨task, options, heq⟩
    rcases table_of_conduct hc with ht | ⟨id, change, hw, ht⟩
    · exact h.of_keeps (by rw [ht]; exact .refl _) hq (by rw [ht]; exact h.settled)
    · exact h.update hw hp ht hq

theorem queue_subset_of_conduct {w w' : Site} {c : Call} {answer : Answer c}
    (hp : Careful config builder c w) (hc : conduct Claiming c w answer w') :
    w.queue ⊆ w'.queue := by
  by_cases henq : ∃ task options, c = .enqueue task options
  · obtain ⟨task, options, rfl⟩ := henq
    obtain ⟨row, -, -, hid, -⟩ := hp
    rcases hc.1.queue_eq hid with hq | ⟨-, hq⟩
    · rw [hq]; exact List.Subset.refl _
    · rw [hq]; exact List.subset_append_left ..
  · rw [queue_of_conduct hc fun task options heq => henq ⟨task, options, heq⟩]
    exact List.Subset.refl _

theorem grows_of_conduct {w w' : Site} {c : Call} {answer : Answer c}
    (h : Consistent config builder w) (hp : Careful config builder c w)
    (hc : conduct Claiming c w answer w') : Grows config builder w w' where
  consistent := h.conduct hp hc
  rows := fun _ hrow => (keeps_of_conduct hc).exists_of_mem hrow
  tasks := queue_subset_of_conduct hp hc

theorem grows_of_inserts {w w' : Site} (h : Consistent config builder w) (hi : Inserts w w') :
    Grows config builder w w' := by
  obtain ⟨row, hpending, hfresh, -, rfl⟩ := hi
  refine ⟨⟨nodup_map_append_singleton h.rows hfresh, h.claims, ?_, ?_⟩,
    fun e he => ⟨e, List.mem_append_left _ he, .refl e⟩, fun t ht => ht⟩
  · intro t ht
    obtain ⟨e, he, hrest⟩ := h.built t ht
    exact ⟨e, List.mem_append_left _ he, hrest⟩
  · intro e he hsuccess
    rcases List.mem_append.mp he with hold | hnew
    · exact h.settled e hold hsuccess
    · rw [List.mem_singleton.mp hnew, hpending] at hsuccess
      exact OutboxStatus.noConfusion hsuccess

/-! ## Workers are careful -/

/-- The table has a row for an event that was fetched. -/
def Known (config : Config) (e : OutboxEvent) (w : Site) : Prop :=
  ∃ row ∈ w.table, row.SameEvent e ∧ row.name = config.eventName

/-- An event stays known while its row stays in the table. -/
theorem Known.of_rows {e : OutboxEvent} {w w' : Site} (h : Known config e w)
    (hr : ∀ row ∈ w.table, ∃ row' ∈ w'.table, row.SameEvent row') : Known config e w' := by
  obtain ⟨row, hrow, hsame, hname⟩ := h
  obtain ⟨row', hrow', hsame'⟩ := hr row hrow
  exact ⟨row', hrow', hsame'.symm.trans hsame, by rw [← hsame'.name, hname]⟩

theorem Known.grows {e : OutboxEvent} {w w' : Site} (h : Known config e w)
    (hg : Grows config builder w w') : Known config e w' :=
  h.of_rows hg.rows

/-- All events that are still to be handled are known. -/
def KnownAll (config : Config) (events : List OutboxEvent) (w : Site) : Prop :=
  ∀ e ∈ events, Known config e w

theorem KnownAll.grows {events : List OutboxEvent} {w w' : Site} (h : KnownAll config events w)
    (hg : Grows config builder w w') : KnownAll config events w' :=
  fun e he => (h e he).grows hg

/-- The events of a batch are known. -/
theorem knownAll_findPending (config : Config) (w : Site) (limit : Nat) :
    KnownAll config (w.table.findPending config.eventName limit) w := by
  intro e he
  obtain ⟨hmem, hname, -⟩ := Table.mem_of_mem_findPending he
  exact ⟨e, hmem, .refl e, hname⟩

/-- A call that is permitted whenever it is made, between events that stay known. -/
theorem put_knownAll {c : Call} {rest : List OutboxEvent} {w : Site}
    (hp : ∀ w₁, Grows config builder w w₁ → Careful config builder c w₁)
    (hk : KnownAll config rest w) :
    (deliveryTerms config builder).Put (conduct Claiming) c w fun _ w' =>
      KnownAll config rest w' := by
  intro w₁ hw₁
  refine ⟨hp w₁ hw₁, fun answer w₂ hc => ?_⟩
  exact (hk.grows hw₁).grows (grows_of_conduct hw₁.consistent (hp w₁ hw₁) hc)

/-- The worker has seen that the queue has the task. -/
def Seen (config : Config) (e : OutboxEvent) (rest : List OutboxEvent) (w : Site) : Prop :=
  KnownAll config rest w ∧ ∃ t ∈ w.queue, t.id = e.id.text

theorem handling (config : Config) (builder : Builder) :
    Handling config builder (conduct Claiming) (deliveryTerms config builder) (fun _ => True)
      (KnownAll config) (Seen config) (fun _ rest => KnownAll config rest) where
  aside := by
    intro c hc w w₁ hw₁
    have hp : Careful config builder c w₁ := by cases c <;> trivial
    exact ⟨hp, fun answer w₂ ha => grows_of_conduct hw₁.consistent hp ha⟩
  ready_drift := fun _ _ _ _ => trivial
  batch_drift := fun _ _ _ hk hg => hk.grows hg
  leave := fun _ _ _ => trivial
  giveUp := fun _ _ _ _ => trivial
  fetch := by
    intro w deadline _ w₁ hw₁
    refine ⟨trivial, fun answer w₂ ⟨hfound, hw₂⟩ => ?_⟩
    rcases answer with _ | error | events
    · trivial
    · trivial
    · rw [hfound events rfl, hw₂]
      exact knownAll_findPending config w₁ _
  reject := by
    intro e rest w error hk _
    exact put_knownAll (fun _ _ => trivial) fun x hx => hk x (List.mem_cons_of_mem e hx)
  enqueue := by
    intro e rest w make now hk hb w₁ hw₁
    have hk₁ : KnownAll config (e :: rest) w₁ := hk.grows hw₁
    obtain ⟨row, hrow, hsame, hname⟩ := hk₁ e List.mem_cons_self
    have hid : some e.id.text = some row.id.text := by rw [hsame.id]
    have hp : Careful config builder
        (.enqueue (make now) ⟨some e.id.text, config.maxRetry, config.queue⟩) w₁ :=
      ⟨row, hrow, hname, hid, e, make, now, hsame, hb, rfl⟩
    refine ⟨hp, fun reply w₂ hc => ?_⟩
    have hrest : KnownAll config rest w₂ := fun x hx =>
      (hk₁ x (List.mem_cons_of_mem e hx)).grows (grows_of_conduct hw₁.consistent hp hc)
    dsimp only
    split
    · rename_i hr
      exact ⟨hrest, hc.1.exists_of_hasTask rfl hr⟩
    · exact hrest
  mark := by
    intro e rest w ⟨hk, t, ht, hid⟩
    exact put_knownAll (fun w₁ hw₁ => ⟨t, hw₁.tasks ht, hid⟩) hk
  abandon := fun _ _ _ _ hk => put_knownAll (fun _ _ => trivial) hk
  retry := fun _ _ _ _ hk => put_knownAll (fun _ _ => trivial) hk

/-- Unique rows, none delivered, and an empty queue. -/
structure Fresh (w : Site) : Prop where
  rows : (w.table.map (·.id)).Nodup
  undelivered : ∀ row ∈ w.table, row.status ≠ .success
  queue : w.queue = []

theorem Fresh.consistent {w : Site} (h : Fresh w) : Consistent config builder w where
  rows := h.rows
  claims := by simp [h.queue]
  built := by simp [h.queue]
  settled := fun row hrow hsuccess => (h.undelivered row hrow hsuccess).elim

theorem suits (ι : Type) (config : Config) (builder : Builder) :
    Workers.Suits ι (plant Claiming config builder) (deliveryTerms config builder)
      (Consistent config builder) (fun _ => True) where
  refl := fun _ hi => ⟨hi, fun row hrow => ⟨row, hrow, .refl row⟩, fun _ ht => ht⟩
  trans := fun _ _ _ => Grows.trans
  answer := by
    intro c w answer w' hi hp hc
    have hg : Grows config builder w w' := grows_of_conduct hi hp hc
    exact ⟨hg.consistent, fun _ => hg⟩
  outside := by
    intro w w' hi ho
    have hg : Grows config builder w w' := grows_of_inserts hi ho
    exact ⟨hg.consistent, hg⟩
  stable := fun _ _ _ _ => trivial
  begins := fun _ hd _ _ hs => secures_of_mem_programs (handling config builder) hd hs

/-! ## Tasks and rows -/

theorem Consistent.length_tasksOf_le {w : Site} (h : Consistent config builder w)
    (row : OutboxEvent) : (w.tasksOf row).length ≤ 1 := by
  have hids : ((w.tasksOf row).map (·.id)).Nodup :=
    h.claims.sublist (List.filter_sublist.map _)
  have hall : ∀ id ∈ (w.tasksOf row).map (·.id), id = row.id.text := by
    intro id hid
    obtain ⟨t, ht, rfl⟩ := List.mem_map.mp hid
    exact (mem_tasksOf.mp ht).2
  have hrep := List.eq_replicate_of_mem hall
  rw [hrep, List.nodup_replicate, List.length_map] at hids
  exact hids

theorem Consistent.length_tasksOf_success {w : Site} (h : Consistent config builder w)
    {row : OutboxEvent} (hrow : row ∈ w.table) (hs : row.status = .success) :
    (w.tasksOf row).length = 1 := by
  obtain ⟨t, ht, hid⟩ := h.settled row hrow hs
  have hpos : 0 < (w.tasksOf row).length :=
    List.length_pos_of_mem (mem_tasksOf.mpr ⟨ht, hid⟩)
  have hle := h.length_tasksOf_le row
  omega

/-- A task is built from the one row whose id it has. -/
theorem Consistent.builds_of_mem_tasksOf {w : Site} (h : Consistent config builder w)
    {row : OutboxEvent} (hrow : row ∈ w.table) {t : Accepted} (ht : t ∈ w.tasksOf row) :
    row.name = config.eventName ∧ builder.Builds row t.task := by
  obtain ⟨hmem, hid⟩ := mem_tasksOf.mp ht
  obtain ⟨row', hrow', hid', hname, hb⟩ := h.built t hmem
  have hsame : row.id = row'.id := Uuid.text_injective (hid.symm.trans hid')
  obtain rfl := Table.eq_of_id_eq h.rows hrow hrow' hsame
  exact ⟨hname, hb⟩

theorem Consistent.tasksOf_rejected {w : Site} (h : Consistent config builder w)
    (hb : builder.JudgesEvent) {row : OutboxEvent} (hrow : row ∈ w.table)
    (hr : (builder row).isOk = false) : w.tasksOf row = [] := by
  rw [List.eq_nil_iff_forall_not_mem]
  intro t ht
  obtain ⟨-, e, make, now, hsame, he, -⟩ := h.builds_of_mem_tasksOf hrow ht
  have hok : (builder row).isOk = true := by rw [hb row e hsame, he]; rfl
  rw [hr] at hok
  exact Bool.false_ne_true hok

/-- However many workers there are and whatever fails, a task in the queue is built from the row
whose id it has, no row has two tasks, a delivered row has one, and a rejected row has none. -/
theorem one_task_for_each_row {ι : Type} [DecidableEq ι] {config : Config} {builder : Builder}
    (hb : builder.JudgesEvent) {start : Site} (hstart : Fresh start)
    {w : Workers ι Call Answer Site}
    (hw : Workers.Reaches (plant Claiming config builder) (.idle start) w) :
    (∀ t ∈ w.state.queue, ∃ row ∈ w.state.table,
      t ∈ w.state.tasksOf row ∧ row.name = config.eventName ∧ builder.Builds row t.task) ∧
    ∀ row ∈ w.state.table,
      (w.state.tasksOf row).length ≤ 1 ∧
      (row.status = .success → (w.state.tasksOf row).length = 1) ∧
      ((builder row).isOk = false → w.state.tasksOf row = []) := by
  have h : Consistent config builder w.state :=
    (suits ι config builder).inv_of_reaches hstart.consistent trivial hw
  constructor
  · intro t ht
    obtain ⟨row, hrow, hid, hname, hbuilds⟩ := h.built t ht
    exact ⟨row, hrow, mem_tasksOf.mpr ⟨ht, hid⟩, hname, hbuilds⟩
  · intro row hrow
    exact ⟨h.length_tasksOf_le row, h.length_tasksOf_success hrow, h.tasksOf_rejected hb hrow⟩

/-! ### A lost mark -/

/-- A builder that passes payloads on and has no task for a null. -/
def plainBuilder : Builder := fun e =>
  match e.payload with
  | .null => .error (.invalidPayload "null")
  | payload => .ok fun _ => ⟨e.name, payload⟩

theorem judgesEvent_plainBuilder : plainBuilder.JudgesEvent := by
  intro a b h
  simp only [plainBuilder, h.payload]
  cases b.payload <;> rfl

def plainRow (status : OutboxStatus) : OutboxEvent :=
  ⟨.nil, "login", .str "hello", status, 0, none, 0, 0⟩

/-- The task of a plain row. -/
def plainTask : Accepted := ⟨Uuid.nil.text, ⟨"login", .str "hello"⟩⟩

/-- One worker enqueues the task and cannot mark the row. Another one meets the row again, is told
that the id is taken, and marks it. -/
theorem reaches_marked_late :
    Workers.Reaches (plant Claiming { eventName := "login" } plainBuilder)
      (.idle ⟨[plainRow .pending], []⟩ : Workers Bool Call Answer Site)
      (.idle ⟨[plainRow .success], [plainTask]⟩) := by
  have hfetch (tasks : List Accepted) :
      conduct Claiming (.findPending "login" 1000 none) ⟨[plainRow .pending], tasks⟩
        (some (.ok [plainRow .pending])) ⟨[plainRow .pending], tasks⟩ :=
    conduct_findPending_singleton Claiming (rfl : (plainRow .pending).status = _) (by decide) none
      tasks
  have hfirst : Workers.Reaches (plant Claiming { eventName := "login" } plainBuilder)
      (.idle ⟨[plainRow .pending], []⟩ : Workers Bool Call Answer Site)
      (.idle ⟨[plainRow .pending], [plainTask]⟩) := by
    refine Workers.reaches_idle true .refl (poll_mem_programs _ _ false) ?_
    refine (Dialogue.runs_ask (Call.findPending "login" 1000 none) _ _ _ _).mpr
      ⟨some (.ok [plainRow .pending]), _, hfetch _, ?_⟩
    refine (Dialogue.runs_ask Call.now _ _ _ _).mpr ⟨0, _, rfl, ?_⟩
    refine (Dialogue.runs_ask
      (Call.enqueue plainTask.task ⟨some plainTask.id, 5, none⟩) _ _ _ _).mpr
      ⟨.ok ⟨plainTask.id, ""⟩, ⟨_, [plainTask]⟩, ⟨.accepts _ _ ?_ (by simp), rfl⟩, ?_⟩
    · exact fun given h => Option.some.inj h
    refine (Dialogue.runs_ask (Call.markSuccess .nil) _ _ _ _).mpr
      ⟨.error (.other "connection lost"), _, ⟨.fails _, rfl⟩, ?_⟩
    exact ⟨rfl, rfl⟩
  refine Workers.reaches_idle false hfirst (poll_mem_programs _ _ false) ?_
  refine (Dialogue.runs_ask (Call.findPending "login" 1000 none) _ _ _ _).mpr
    ⟨some (.ok [plainRow .pending]), _, hfetch _, ?_⟩
  refine (Dialogue.runs_ask Call.now _ _ _ _).mpr ⟨0, _, rfl, ?_⟩
  refine (Dialogue.runs_ask (Call.enqueue plainTask.task ⟨some plainTask.id, 5, none⟩) _ _ _ _).mpr
    ⟨.error (.taskIdConflict plainTask.id), _, ⟨.refuses _ ?_, rfl⟩, ?_⟩
  · exact fun _ _ => ⟨plainTask, by simp, fun given h => Option.some.inj h⟩
  refine (Dialogue.runs_ask (Call.markSuccess .nil) _ _ _ _).mpr
    ⟨.ok true, ⟨[plainRow .success], [plainTask]⟩, ⟨.works 0, rfl⟩, ?_⟩
  exact ⟨rfl, rfl⟩

/-- The row that was marked late has its one task. -/
theorem one_task_marked_late :
    plainBuilder.JudgesEvent ∧ Fresh ⟨[plainRow .pending], []⟩ ∧
    (∀ t ∈ [plainTask], ∃ row ∈ [plainRow .success],
      t ∈ tasksOf ⟨[plainRow .success], [plainTask]⟩ row ∧ row.name = "login" ∧
        plainBuilder.Builds row t.task) ∧
    ∀ row ∈ [plainRow .success],
      (tasksOf ⟨[plainRow .success], [plainTask]⟩ row).length ≤ 1 ∧
      (row.status = .success → (tasksOf ⟨[plainRow .success], [plainTask]⟩ row).length = 1) ∧
      ((plainBuilder row).isOk = false → tasksOf ⟨[plainRow .success], [plainTask]⟩ row = []) := by
  have hfresh : Fresh ⟨[plainRow .pending], []⟩ := ⟨by simp, by simp [plainRow], rfl⟩
  exact ⟨judgesEvent_plainBuilder, hfresh,
    one_task_for_each_row judgesEvent_plainBuilder hfresh reaches_marked_late⟩

end Site

end SignIn.Outbox
