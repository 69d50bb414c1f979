import SignIn.Proofs.Deliveries
import SignIn.Proofs.SharedDelivery
import SignIn.Proofs.Site

/-!
# A single worker gives up

A worker that is alone settles a row right after the queue has accepted its task. So
a row that has a task is delivered, unless the mark was lost. From there the row is
treated like any other: it is met again, and if the queue is down by then it can be
given up although its task is in the queue. A lost mark is the only way to get there.
-/
namespace SignIn.Outbox.Site

/-- A queue that has nothing new when it reports a failure other than a conflict. -/
def Truthful : QueueConduct := fun task options queue reply queue' =>
  queue' = queue ∨
    hasTask reply = true ∧ ∃ id, Names options id ∧ queue' = queue ++ [⟨id, task⟩]

/-- The mark of a delivered row failed, as far as the worker knows. -/
def lostMark : (c : Call) → Answer c → List Uuid
  | .markSuccess id, .error _ => [id]
  | _, _ => []

theorem lostMark_eq_nil {c : Call} (hc : ∀ id, c ≠ .markSuccess id) (answer : Answer c) :
    lostMark c answer = [] := by
  cases c with
  | markSuccess id => exact (hc id rfl).elim
  | _ => rfl

/-- The table and the queue, and the ids of the rows whose mark was lost. -/
abbrev Noted : Type := Site × List Uuid

/-- One table and one queue for a worker that is alone. -/
def lonePlant (config : Config) (builder : Builder) : Plant Call Answer Noted where
  conduct := (conduct Truthful).noting lostMark
  outside s s' := Inserts s.1 s'.1 ∧ s'.2 = s.2
  programs := programs config builder

def HasTask (w : Site) (id : Uuid) : Prop := ∃ t ∈ w.queue, t.id = id.text

/-- Every row that has a task is delivered, or its mark was lost, or it is the one being handled. -/
def Accounted (current : Option Uuid) (s : Noted) : Prop :=
  ∀ row ∈ s.1.table, HasTask s.1 row.id →
    row.status = .success ∨ row.id ∈ s.2 ∨ current = some row.id

def Unfailed (id : Uuid) (w : Site) : Prop := ∀ row ∈ w.table, row.id = id → row.status ≠ .failed

/-- Rows are unique, and a row that was given up has no task, unless its mark was lost. -/
structure Honest (s : Noted) : Prop where
  rows : (s.1.table.map (·.id)).Nodup
  givenUp : ∀ row ∈ s.1.table, row.status = .failed → HasTask s.1 row.id → row.id ∈ s.2

/-- New rows without tasks are all that happens beside a worker that is alone. -/
def Drifts (s s' : Noted) : Prop :=
  (s'.1.table.map (·.id)).Nodup ∧ ∃ rows : List OutboxEvent,
    (∀ row ∈ rows, row.status = .pending ∧ ¬ HasTask s.1 row.id) ∧
    s' = (⟨s.1.table ++ rows, s.1.queue⟩, s.2)

/-- A worker that is alone enqueues no row that was given up, and gives up no pending row that has
a task, unless its mark was lost. -/
def Prudent : Call → Noted → Prop
  | .enqueue _ options, s => ∃ id : Uuid, options.taskId = some id.text ∧ Unfailed id s.1
  | .markFailed id _, s | .recordFailure id _ _, s =>
    ∀ row ∈ s.1.table, row.id = id → row.status = .pending → HasTask s.1 id → id ∈ s.2
  | _, _ => True

def loneTerms : Terms Call Noted := ⟨Drifts, Prudent⟩

/-! ## New rows -/

theorem Drifts.refl {s : Noted} (h : (s.1.table.map (·.id)).Nodup) : Drifts s s :=
  ⟨h, [], by simp, by simp⟩

theorem Drifts.trans {a b c : Noted} (h : Drifts a b) (h' : Drifts b c) : Drifts a c := by
  obtain ⟨-, rows, hrows, rfl⟩ := h
  obtain ⟨hn, rows', hrows', rfl⟩ := h'
  refine ⟨hn, rows ++ rows', fun row hrow => ?_, by rw [List.append_assoc]⟩
  rcases List.mem_append.mp hrow with hmem | hmem
  · exact hrows row hmem
  · exact hrows' row hmem

theorem Accounted.drifts {current : Option Uuid} {s s' : Noted} (h : Accounted current s)
    (hd : Drifts s s') : Accounted current s' := by
  obtain ⟨-, rows, hrows, rfl⟩ := hd
  intro row hrow htask
  rcases List.mem_append.mp hrow with hmem | hmem
  · exact h row hmem htask
  · exact ((hrows row hmem).2 htask).elim

theorem Unfailed.drifts {id : Uuid} {s s' : Noted} (h : Unfailed id s.1) (hd : Drifts s s') :
    Unfailed id s'.1 := by
  obtain ⟨-, rows, hrows, rfl⟩ := hd
  intro row hrow hid
  rcases List.mem_append.mp hrow with hmem | hmem
  · exact h row hmem hid
  · rw [(hrows row hmem).1]
    exact OutboxStatus.noConfusion

theorem drifts_of_inserts {s s' : Noted} (hn : (s.1.table.map (·.id)).Nodup)
    (h : Inserts s.1 s'.1) (hs : s'.2 = s.2) : Drifts s s' := by
  obtain ⟨row, hpending, hfresh, hfree, hw⟩ := h
  have hs' : s' = (⟨s.1.table ++ [row], s.1.queue⟩, s.2) := Prod.ext hw hs
  refine ⟨by rw [hs']; exact nodup_map_append_singleton hn hfresh, [row], fun e he => ?_, hs'⟩
  rw [List.mem_singleton.mp he]
  exact ⟨hpending, fun ⟨t, ht, hid⟩ => hfree t ht hid⟩

/-! ## One call -/

/-- A change of one row does not touch the others. -/
theorem Unfailed.update {id x : Uuid} {w w' : Site} {c : Call} {change : OutboxEvent → OutboxEvent}
    (h : Unfailed x w) (hx : x ≠ id) (hw : Writes c id change)
    (ht : w'.table = Table.updatePending id change w.table) : Unfailed x w' := by
  intro row hrow hid
  rw [ht] at hrow
  rcases Table.mem_updatePending hrow with hold | ⟨e, -, heid, -, rfl⟩
  · exact h row hold hid
  · exact (hx (by rw [← hid, ← (hw.sameEvent e).id, heid])).elim

/-- A row that is changed while its task is accounted for. -/
theorem Accounted.update {current : Option Uuid} {s s' : Noted} {c : Call} {id : Uuid}
    {change : OutboxEvent → OutboxEvent} (h : Accounted current s) (hw : Writes c id change)
    (hp : ∀ row ∈ s.1.table, row.id = id → row.status = .pending → HasTask s.1 id → id ∈ s.2)
    (ht : s'.1.table = Table.updatePending id change s.1.table) (hq : s'.1.queue = s.1.queue)
    (hn : s.2 ⊆ s'.2) : Accounted current s' := by
  intro row hrow htask
  rw [ht] at hrow
  have htask' : HasTask s.1 row.id := by rw [HasTask, ← hq]; exact htask
  rcases Table.mem_updatePending hrow with hold | ⟨e, he, hid, hpending, rfl⟩
  · rcases h row hold htask' with hs | hl | hc
    · exact .inl hs
    · exact .inr (.inl (hn hl))
    · exact .inr (.inr hc)
  · rw [← (hw.sameEvent e).id, hid] at htask' ⊢
    exact .inr (.inl (hn (hp e he hid hpending htask')))

/-- What the queue may have taken up. -/
theorem Truthful.hasTask_of {task : Task} {options : TaskOptions} {w w' : Site}
    {reply : Except OutboxError TaskInfo} {id : Uuid} (hid : options.taskId = some id.text)
    (h : Truthful task options w.queue reply w'.queue) {x : Uuid} (hx : HasTask w' x) :
    HasTask w x ∨ hasTask reply = true ∧ x = id := by
  obtain ⟨t, ht, htx⟩ := hx
  rcases h with hq | ⟨hr, id', hname, hq⟩
  · rw [hq] at ht
    exact .inl ⟨t, ht, htx⟩
  · rw [hq, List.mem_append, List.mem_singleton] at ht
    rcases ht with ht | rfl
    · exact .inl ⟨t, ht, htx⟩
    · exact .inr ⟨hr, Uuid.text_injective (htx.symm.trans (hname _ hid))⟩

theorem Honest.conduct {s s' : Noted} {c : Call} {answer : Answer c} (h : Honest s)
    (hp : Prudent c s) (hc : (conduct Truthful).noting lostMark c s answer s') : Honest s' := by
  obtain ⟨hc, hnote⟩ := hc
  have hlost : s.2 ⊆ s'.2 := by rw [hnote]; exact List.subset_append_left ..
  refine ⟨by rw [(keeps_of_conduct hc).map_id]; exact h.rows, fun row hrow hfailed htask => ?_⟩
  by_cases henq : ∃ task options, c = .enqueue task options
  · obtain ⟨task, options, rfl⟩ := henq
    obtain ⟨id, hid, hun⟩ := hp
    obtain ⟨hqueue, ht⟩ := hc
    rw [ht] at hrow
    rcases hqueue.hasTask_of hid htask with hold | ⟨-, hrid⟩
    · exact hlost (h.givenUp row hrow hfailed hold)
    · exact (hun row hrow hrid hfailed).elim
  · have hq : s'.1.queue = s.1.queue :=
      queue_of_conduct hc fun task options heq => henq ⟨task, options, heq⟩
    have htask' : HasTask s.1 row.id := by rw [HasTask, ← hq]; exact htask
    rcases table_of_conduct hc with ht | ⟨id, change, hw, ht⟩
    · rw [ht] at hrow
      exact hlost (h.givenUp row hrow hfailed htask')
    · rw [ht] at hrow
      rcases Table.mem_updatePending hrow with hold | ⟨e, he, hid, hpending, rfl⟩
      · exact hlost (h.givenUp row hold hfailed htask')
      · rw [← (hw.sameEvent e).id, hid] at htask' ⊢
        cases hw with
        | success _ now => exact OutboxStatus.noConfusion hfailed
        | failure _ error now => exact hlost (hp e he hid hpending htask')
        | attempt _ error maxAttempts now => exact hlost (hp e he hid hpending htask')

/-! ## A batch -/

/-- All is accounted for, and the events that are still to be handled are different rows, none of
which was given up. -/
structure InHand (events : List OutboxEvent) (s : Noted) : Prop where
  accounted : Accounted none s
  distinct : (events.map (·.id)).Nodup
  unfailed : ∀ e ∈ events, Unfailed e.id s.1

/-- The queue has the task of an event, whose row is next to be marked. -/
structure OnMark (e : OutboxEvent) (rest : List OutboxEvent) (s : Noted) : Prop where
  accounted : Accounted (some e.id) s
  distinct : ((e :: rest).map (·.id)).Nodup
  unfailed : ∀ x ∈ e :: rest, Unfailed x.id s.1

theorem InHand.drifts {events : List OutboxEvent} {s s' : Noted} (h : InHand events s)
    (hd : Drifts s s') : InHand events s' :=
  ⟨h.accounted.drifts hd, h.distinct, fun e he => (h.unfailed e he).drifts hd⟩

theorem OnMark.drifts {e : OutboxEvent} {rest : List OutboxEvent} {s s' : Noted}
    (h : OnMark e rest s) (hd : Drifts s s') : OnMark e rest s' :=
  ⟨h.accounted.drifts hd, h.distinct, fun x hx => (h.unfailed x hx).drifts hd⟩

theorem InHand.tail {e : OutboxEvent} {rest : List OutboxEvent} {s : Noted}
    (h : InHand (e :: rest) s) : InHand rest s :=
  ⟨h.accounted, (List.nodup_cons.mp h.distinct).2,
    fun x hx => h.unfailed x (List.mem_cons_of_mem e hx)⟩

/-- The other events of a batch have other ids. -/
theorem ne_of_distinct {e x : OutboxEvent} {rest : List OutboxEvent}
    (h : ((e :: rest).map (·.id)).Nodup) (hx : x ∈ rest) : x.id ≠ e.id := by
  intro heq
  exact (List.nodup_cons.mp h).1 (List.mem_map.mpr ⟨x, hx, heq⟩)

/-- A pending row that is accounted for has no task, unless its mark was lost. -/
theorem Accounted.lost_of_pending {s : Noted} (h : Accounted none s) (id : Uuid) :
    ∀ row ∈ s.1.table, row.id = id → row.status = .pending → HasTask s.1 id → id ∈ s.2 := by
  rintro row hrow rfl hpending htask
  rcases h row hrow htask with hs | hl | hc
  · rw [hpending] at hs
    exact OutboxStatus.noConfusion hs
  · exact hl
  · cases hc

/-- A call that gives up the event at hand, or counts an attempt for it. -/
theorem InHand.put {e : OutboxEvent} {rest : List OutboxEvent} {s : Noted}
    (h : InHand (e :: rest) s) {c : Call}
    (hc : (∃ error, c = .markFailed e.id error) ∨
      ∃ error maxAttempts, c = .recordFailure e.id error maxAttempts) :
    loneTerms.Put ((conduct Truthful).noting lostMark) c s fun _ s' => InHand rest s' := by
  intro s₁ hs₁
  have h₁ : InHand (e :: rest) s₁ := h.drifts hs₁
  have hlost := h₁.accounted.lost_of_pending e.id
  have hp : Prudent c s₁ := by
    rcases hc with ⟨error, rfl⟩ | ⟨error, maxAttempts, rfl⟩ <;> exact hlost
  refine ⟨hp, fun answer s₂ ⟨hcond, hnote⟩ => ?_⟩
  have hq : s₂.1.queue = s₁.1.queue := by
    rcases hc with ⟨error, rfl⟩ | ⟨error, maxAttempts, rfl⟩ <;> exact hcond.2
  have hn : s₁.2 ⊆ s₂.2 := by rw [hnote]; exact List.subset_append_left ..
  rcases table_of_conduct hcond with ht | ⟨id, change, hw, ht⟩
  · have hw₂ : s₂.1 = s₁.1 := Site.ext ht hq
    refine ⟨fun row hrow htask => ?_, h₁.tail.distinct, fun x hx => ?_⟩
    · rw [hw₂] at hrow htask
      rcases h₁.accounted row hrow htask with hs | hl | hcur
      · exact .inl hs
      · exact .inr (.inl (hn hl))
      · exact .inr (.inr hcur)
    · rw [hw₂]
      exact h₁.tail.unfailed x hx
  · have hid : id = e.id := by
      rcases hc with ⟨error, rfl⟩ | ⟨error, maxAttempts, rfl⟩ <;> cases hw <;> rfl
    subst hid
    exact ⟨h₁.accounted.update hw hlost ht hq hn, h₁.tail.distinct,
      fun x hx => (h₁.tail.unfailed x hx).update (ne_of_distinct h₁.distinct hx) hw ht⟩

/-- After a mark that worked, the row of an event that was not given up is delivered. -/
theorem success_of_marked {id : Uuid} {now : Int} {w w' : Site} (h : Unfailed id w)
    (hn : (w.table.map (·.id)).Nodup)
    (ht : w'.table = Table.updatePending id (Table.settled .success none now) w.table)
    {row : OutboxEvent} (hrow : row ∈ w'.table) (hid : row.id = id) : row.status = .success := by
  rw [ht] at hrow
  have hsettled : row.status ≠ .pending :=
    Table.not_pending_of_mem_updatePending (fun _ => OutboxStatus.noConfusion) hn hrow hid
  rcases Table.mem_updatePending hrow with hold | ⟨e, -, -, -, rfl⟩
  · have hunfailed : row.status ≠ .failed := h row hold hid
    cases hstatus : row.status with
    | success => rfl
    | pending => exact (hsettled hstatus).elim
    | failed => exact (hunfailed hstatus).elim
  · rfl

/-- The mark of a row whose task is in the queue. It works, or it is noted as lost. -/
theorem OnMark.put {e : OutboxEvent} {rest : List OutboxEvent} {s : Noted} (h : OnMark e rest s) :
    loneTerms.Put ((conduct Truthful).noting lostMark) (.markSuccess e.id) s fun _ s' =>
      InHand rest s' := by
  intro s₁ hs₁
  have h₁ : OnMark e rest s₁ := h.drifts hs₁
  refine ⟨trivial, fun answer s₂ ⟨⟨hst, hq⟩, hnote⟩ => ?_⟩
  have hn : s₁.2 ⊆ s₂.2 := by rw [hnote]; exact List.subset_append_left ..
  refine ⟨fun row hrow htask => ?_, (List.nodup_cons.mp h₁.distinct).2, fun x hx => ?_⟩
  · have htask₁ : HasTask s₁.1 row.id := by rw [HasTask, ← hq]; exact htask
    by_cases hid : row.id = e.id
    · cases answer with
      | error error => exact .inr (.inl (by rw [hnote, hid]; simp [lostMark]))
      | ok changed =>
        obtain ⟨now, ht⟩ := hst.table_of_ok
        exact .inl (success_of_marked (h₁.unfailed e List.mem_cons_self) hs₁.1 ht hrow hid)
    · have hold : row ∈ s₁.1.table := by
        rcases hst.table_eq with ht | ⟨now, ht⟩
        · rwa [ht] at hrow
        · rw [ht] at hrow
          rcases Table.mem_updatePending hrow with hold | ⟨e₀, -, heid, -, rfl⟩
          · exact hold
          · exact (hid heid).elim
      rcases h₁.accounted row hold htask₁ with hs | hl | hcur
      · exact .inl hs
      · exact .inr (.inl (hn hl))
      · exact (hid (Option.some.inj hcur).symm).elim
  · have hx₁ := h₁.unfailed x (List.mem_cons_of_mem e hx)
    rcases hst.table_eq with ht | ⟨now, ht⟩
    · intro row hrow hid
      rw [ht] at hrow
      exact hx₁ row hrow hid
    · exact hx₁.update (ne_of_distinct h₁.distinct hx) (.success e.id now) ht

theorem InHand.putEnqueue {e : OutboxEvent} {rest : List OutboxEvent} {s : Noted}
    (h : InHand (e :: rest) s) (task : Task) {options : TaskOptions}
    (hid : options.taskId = some e.id.text) :
    loneTerms.Put ((conduct Truthful).noting lostMark) (.enqueue task options) s fun reply s' =>
      if hasTask reply then OnMark e rest s' else InHand (e :: rest) s' := by
  intro s₁ hs₁
  have h₁ : InHand (e :: rest) s₁ := h.drifts hs₁
  refine ⟨⟨e.id, hid, h₁.unfailed e List.mem_cons_self⟩, fun reply s₂ ⟨⟨hqueue, ht⟩, hnote⟩ => ?_⟩
  have hn : s₂.2 = s₁.2 := by rw [hnote]; exact List.append_nil _
  have hunfailed : ∀ x ∈ e :: rest, Unfailed x.id s₂.1 := by
    intro x hx row hrow
    rw [ht] at hrow
    exact h₁.unfailed x hx row hrow
  have haccounted : ∀ row ∈ s₂.1.table, HasTask s₂.1 row.id →
      (row.status = .success ∨ row.id ∈ s₂.2) ∨ hasTask reply = true ∧ row.id = e.id := by
    intro row hrow htask
    rw [ht] at hrow
    rcases hqueue.hasTask_of hid htask with hold | hnew
    · rw [hn]
      rcases h₁.accounted row hrow hold with hs | hl | hcur
      · exact .inl (.inl hs)
      · exact .inl (.inr hl)
      · cases hcur
    · exact .inr hnew
  dsimp only
  split
  · refine ⟨fun row hrow htask => ?_, h₁.distinct, hunfailed⟩
    rcases haccounted row hrow htask with (hs | hl) | ⟨-, hrid⟩
    · exact .inl hs
    · exact .inr (.inl hl)
    · exact .inr (.inr (congrArg some hrid.symm))
  · rename_i hr
    refine ⟨fun row hrow htask => ?_, h₁.distinct, hunfailed⟩
    rcases haccounted row hrow htask with (hs | hl) | ⟨hr', -⟩
    · exact .inl hs
    · exact .inr (.inl hl)
    · exact (hr hr').elim

/-- The rows of a batch are pending, so none of them was given up. -/
theorem Accounted.inHand_findPending {s : Noted} (h : Accounted none s)
    (hn : (s.1.table.map (·.id)).Nodup) (name : String) (limit : Nat) :
    InHand (s.1.table.findPending name limit) s := by
  refine ⟨h, Table.nodup_findPending hn name limit, fun e he row hrow hid => ?_⟩
  obtain ⟨hmem, -, hpending⟩ := Table.mem_of_mem_findPending he
  rw [Table.eq_of_id_eq hn hrow hmem hid, hpending]
  exact OutboxStatus.noConfusion

theorem loneHandling (config : Config) (builder : Builder) :
    Handling config builder ((conduct Truthful).noting lostMark) loneTerms (Accounted none) InHand
      OnMark (fun e rest => InHand (e :: rest)) where
  aside := by
    intro c hc s s₁ hs₁
    refine ⟨by cases c <;> trivial, fun answer s₂ ⟨hcond, hnote⟩ => ?_⟩
    have hsite : s₂.1 = s₁.1 := eq_of_isAside hc hcond
    have hmark : ∀ id, c ≠ .markSuccess id := by
      rintro id rfl
      exact Bool.false_ne_true hc
    have hlost : s₂.2 = s₁.2 := by rw [hnote, lostMark_eq_nil hmark, List.append_nil]
    rw [show s₂ = s₁ from Prod.ext hsite hlost]
    exact .refl hs₁.1
  ready_drift := fun _ _ => Accounted.drifts
  batch_drift := fun _ _ _ => InHand.drifts
  leave := fun _ _ h => h.accounted
  giveUp := fun _ _ _ h => h.accounted
  fetch := by
    intro s deadline hs s₁ hs₁
    refine ⟨trivial, fun answer s₂ ⟨⟨hfound, hsite⟩, hnote⟩ => ?_⟩
    have hlost : s₂.2 = s₁.2 := by rw [hnote]; exact List.append_nil _
    rw [show s₂ = s₁ from Prod.ext hsite hlost]
    have haccounted : Accounted none s₁ := hs.drifts hs₁
    rcases answer with _ | error | events
    · exact haccounted
    · exact haccounted
    · rw [hfound events rfl]
      exact haccounted.inHand_findPending hs₁.1 _ _
  reject := fun e rest s error hs _ => hs.put (.inl ⟨error.message, rfl⟩)
  enqueue := fun e rest s make now hs _ => hs.putEnqueue (make now) rfl
  mark := fun e rest s hs => hs.put
  abandon := fun e rest s error hs => hs.put (.inl ⟨error, rfl⟩)
  retry := fun e rest s error hs => hs.put (.inr ⟨error, config.maxAttempts, rfl⟩)

theorem loneSuits (config : Config) (builder : Builder) :
    Workers.Suits Unit (lonePlant config builder) loneTerms Honest (Accounted none) where
  refl := fun _ h => .refl h.rows
  trans := fun _ _ _ => Drifts.trans
  answer := by
    intro c s answer s' h hp hc
    exact ⟨h.conduct hp hc, fun hι => (not_nontrivial Unit hι).elim⟩
  outside := by
    intro s s' h ⟨hi, hs⟩
    have hd : Drifts s s' := drifts_of_inserts h.rows hi hs
    refine ⟨⟨hd.1, fun row hrow hfailed htask => ?_⟩, hd⟩
    obtain ⟨row', hpending, -, -, hw⟩ := hi
    rw [hw] at hrow
    rw [hs]
    rcases List.mem_append.mp hrow with hold | hnew
    · apply h.givenUp row hold hfailed
      rwa [HasTask, hw] at htask
    · rw [List.mem_singleton.mp hnew, hpending] at hfailed
      exact OutboxStatus.noConfusion hfailed
  stable := fun _ _ => Accounted.drifts
  begins := fun _ hd _ _ hs => secures_of_mem_programs (loneHandling config builder) hd hs

/-- A row that a lone worker gave up although its task is in the queue is one whose mark was lost
before. At the start, rows with a task are delivered rows. -/
theorem lost_mark_of_given_up {config : Config} {builder : Builder} {start : Site}
    (hn : (start.table.map (·.id)).Nodup)
    (hstart : ∀ row ∈ start.table, HasTask start row.id → row.status = .success)
    {w : Workers Unit Call Answer Noted}
    (hw : Workers.Reaches (lonePlant config builder) (.idle (start, [])) w) :
    ∀ row ∈ w.state.1.table, row.status = .failed → HasTask w.state.1 row.id →
      row.id ∈ w.state.2 := by
  have haccounted : Accounted none (start, []) := fun row hrow ht => .inl (hstart row hrow ht)
  have hhonest : Honest (start, []) := by
    refine ⟨hn, fun row hrow hfailed ht => ?_⟩
    rw [hstart row hrow ht] at hfailed
    exact OutboxStatus.noConfusion hfailed
  exact ((loneSuits config builder).inv_of_reaches hhonest haccounted hw).givenUp

/-! ### A row given up with its task in the queue -/

/-- The row after its one attempt was counted. -/
def givenUpRow : OutboxEvent :=
  { plainRow .failed with attempts := 1, lastError := some "Enqueue failed: queue is down" }

/-- The task is accepted and the mark is lost. Then the queue is down, and that was the last
attempt. -/
theorem reaches_givenUp :
    Workers.Reaches (lonePlant { eventName := "login", maxAttempts := 1 } plainBuilder)
      (.idle (⟨[plainRow .pending], []⟩, []) : Workers Unit Call Answer Noted)
      (.idle (⟨[givenUpRow], [plainTask]⟩, [.nil])) := by
  have hfetch (tasks : List Accepted) :
      conduct Truthful (.findPending "login" 1000 none) ⟨[plainRow .pending], tasks⟩
        (some (.ok [plainRow .pending])) ⟨[plainRow .pending], tasks⟩ :=
    conduct_findPending_singleton Truthful (rfl : (plainRow .pending).status = _) (by decide) none
      tasks
  have hfirst : Workers.Reaches (lonePlant { eventName := "login", maxAttempts := 1 } plainBuilder)
      (.idle (⟨[plainRow .pending], []⟩, []) : Workers Unit Call Answer Noted)
      (.idle (⟨[plainRow .pending], [plainTask]⟩, [.nil])) := by
    refine Workers.reaches_idle () .refl (poll_mem_programs _ _ false) ?_
    refine (Dialogue.runs_ask (Call.findPending "login" 1000 none) _ _ _ _).mpr
      ⟨some (.ok [plainRow .pending]), (_, []), ⟨hfetch _, rfl⟩, ?_⟩
    refine (Dialogue.runs_ask Call.now _ _ _ _).mpr ⟨0, (_, []), ⟨rfl, rfl⟩, ?_⟩
    have haccepted : Truthful plainTask.task ⟨some plainTask.id, 5, none⟩ []
        (.ok ⟨plainTask.id, ""⟩) [plainTask] :=
      .inr ⟨rfl, plainTask.id, fun given h => Option.some.inj h, rfl⟩
    refine (Dialogue.runs_ask
      (Call.enqueue plainTask.task ⟨some plainTask.id, 5, none⟩) _ _ _ _).mpr
      ⟨.ok ⟨plainTask.id, ""⟩, (⟨_, [plainTask]⟩, []), ⟨⟨haccepted, rfl⟩, rfl⟩, ?_⟩
    refine (Dialogue.runs_ask (Call.markSuccess .nil) _ _ _ _).mpr
      ⟨.error (.other "connection lost"), (⟨[plainRow .pending], [plainTask]⟩, [.nil]),
        ⟨⟨.fails _, rfl⟩, rfl⟩, ?_⟩
    exact ⟨rfl, rfl⟩
  refine Workers.reaches_idle () hfirst (poll_mem_programs _ _ false) ?_
  refine (Dialogue.runs_ask (Call.findPending "login" 1000 none) _ _ _ _).mpr
    ⟨some (.ok [plainRow .pending]), (_, [.nil]), ⟨hfetch _, rfl⟩, ?_⟩
  refine (Dialogue.runs_ask Call.now _ _ _ _).mpr ⟨0, (_, [.nil]), ⟨rfl, rfl⟩, ?_⟩
  refine (Dialogue.runs_ask (Call.enqueue plainTask.task ⟨some plainTask.id, 5, none⟩) _ _ _ _).mpr
    ⟨.error (.enqueueFailed "queue is down"), (_, [.nil]), ⟨⟨.inl rfl, rfl⟩, rfl⟩, ?_⟩
  refine (Dialogue.runs_ask
    (Call.recordFailure .nil "Enqueue failed: queue is down" 1) _ _ _ _).mpr
    ⟨.ok .failed, (⟨[givenUpRow], [plainTask]⟩, [.nil]),
      ⟨⟨.inr ⟨.ok (.ok .failed), rfl, .works 0⟩, rfl⟩, rfl⟩, ?_⟩
  exact ⟨rfl, rfl⟩

/-- A row can be given up although the queue has accepted its task. -/
theorem exists_givenUp_with_task :
    ∃ w : Workers Unit Call Answer Noted,
      Workers.Reaches (lonePlant { eventName := "login", maxAttempts := 1 } plainBuilder)
        (.idle (⟨[plainRow .pending], []⟩, [])) w ∧
      ∃ row ∈ w.state.1.table, row.status = .failed ∧ HasTask w.state.1 row.id :=
  ⟨_, reaches_givenUp, givenUpRow, List.mem_singleton_self _, rfl,
    plainTask, List.mem_singleton_self _, rfl⟩

/-- The mark of that row was lost. -/
theorem lost_mark_of_givenUpRow :
    (([plainRow .pending] : List OutboxEvent).map (·.id)).Nodup ∧
    (∀ row ∈ [plainRow .pending], HasTask ⟨[plainRow .pending], []⟩ row.id →
      row.status = .success) ∧
    ∀ row ∈ [givenUpRow], row.status = .failed → HasTask ⟨[givenUpRow], [plainTask]⟩ row.id →
      row.id ∈ [Uuid.nil] := by
  have hn : (([plainRow .pending] : List OutboxEvent).map (·.id)).Nodup := List.nodup_singleton _
  have hnone : ∀ row ∈ [plainRow .pending], HasTask ⟨[plainRow .pending], []⟩ row.id →
      row.status = .success := by
    rintro row - ⟨t, ht, -⟩
    cases ht
  exact ⟨hn, hnone, lost_mark_of_given_up hn hnone reaches_givenUp⟩

end SignIn.Outbox.Site
