import SignIn.Proofs.BatchAccounts

/-!
# Oldest first

A batch is made of the oldest pending rows of its name, in the order of their age, and
the events are handled in this order. If all goes well, a batch leaves none of its rows
pending. So what is left is younger than everything fetched before, and if what joins
the table meanwhile is younger too, the order holds from one poll to the next.
-/
namespace SignIn

/-- An older event comes first; of the same age, the one with the smaller id. -/
def OutboxEvent.Before (a b : OutboxEvent) : Prop :=
  a.createdAt < b.createdAt ∨ a.createdAt = b.createdAt ∧ a.id.toNat < b.id.toNat

namespace Outbox

open OutboxEvent (Before)

namespace Table

theorem notAfter_iff {a b : OutboxEvent} :
    notAfter a b = true ↔
      a.createdAt < b.createdAt ∨ a.createdAt = b.createdAt ∧ a.id.toNat ≤ b.id.toNat := by
  simp [notAfter]

theorem notAfter_trans (a b c : OutboxEvent) (h : notAfter a b = true) (h' : notAfter b c = true) :
    notAfter a c = true := by
  rw [notAfter_iff] at h h' ⊢
  omega

theorem notAfter_total (a b : OutboxEvent) : (notAfter a b || notAfter b a) = true := by
  rw [Bool.or_eq_true, notAfter_iff, notAfter_iff]
  omega

/-- Of two events with different ids, one comes before the other. -/
theorem before_of_notAfter {a b : OutboxEvent} (h : notAfter a b = true) (hne : a.id ≠ b.id) :
    a.Before b := by
  have hid : a.id.toNat ≠ b.id.toNat := fun heq => hne (Uuid.toNat_injective heq)
  rw [notAfter_iff] at h
  unfold Before
  omega

/-- A batch is made of the oldest pending rows of a name. -/
structure Oldest (t : Table) (name : String) (limit : Nat) (batch : List OutboxEvent) : Prop where
  length : batch.length = min limit (t.pendingCount name)
  pending : ∀ e ∈ batch, e ∈ t ∧ e.name = name ∧ e.status = .pending
  ordered : batch.Pairwise Before
  first : ∀ row ∈ t, row.name = name → row.status = .pending →
    row ∈ batch ∨ ∀ e ∈ batch, e.Before row

theorem oldest_findPending {t : Table} (hn : (t.map (·.id)).Nodup) (name : String) (limit : Nat) :
    t.Oldest name limit (t.findPending name limit) := by
  have hsorted : ((t.filter (isPendingOf name)).mergeSort notAfter).Pairwise Before := by
    have hdistinct : ((t.filter (isPendingOf name)).mergeSort notAfter).Pairwise
        fun a b => a.id ≠ b.id := by
      have hfilter : ((t.filter (isPendingOf name)).map (·.id)).Nodup :=
        hn.sublist (List.filter_sublist.map _)
      have hperm := (List.mergeSort_perm (t.filter (isPendingOf name)) notAfter).map (·.id)
      exact List.pairwise_map.mp (hperm.nodup_iff.mpr hfilter)
    have hnotAfter := List.pairwise_mergeSort notAfter_trans notAfter_total
      (t.filter (isPendingOf name))
    exact (hnotAfter.and hdistinct).imp fun h => before_of_notAfter h.1 h.2
  refine ⟨?_, fun e he => mem_of_mem_findPending he, hsorted.take, fun row hrow hname hp => ?_⟩
  · rw [findPending, List.length_take, List.length_mergeSort, pendingCount,
      List.countP_eq_length_filter]
  · have hmem : row ∈ (t.filter (isPendingOf name)).mergeSort notAfter := by
      rw [List.mem_mergeSort, List.mem_filter]
      exact ⟨hrow, isPendingOf_iff.mpr ⟨hname, hp⟩⟩
    rw [← List.take_append_drop limit ((t.filter (isPendingOf name)).mergeSort notAfter)]
      at hmem hsorted
    rcases List.mem_append.mp hmem with htake | hdrop
    · exact .inl htake
    · exact .inr fun e he => (List.pairwise_append.mp hsorted).2.2 e he row hdrop

end Table

/-! ## Polls that go well -/

/-- A table, a queue, and the batches that were fetched, in their order. -/
structure Feed where
  table : Table
  queue : List Accepted
  batches : List (List OutboxEvent)

namespace Feed

/-- All events that were fetched, one batch after the other. -/
def fetched (s : Feed) : List OutboxEvent := s.batches.flatten

theorem fetched_append {s s' : Feed} {batch : List OutboxEvent}
    (h : s'.batches = s.batches ++ [batch]) : s'.fetched = s.fetched ++ batch := by
  rw [fetched, h, List.flatten_append, List.flatten_singleton, fetched]

/-- Every call of the table does its work, and every task is accepted. -/
def Serves : (c : Call) → Feed → Answer c → Feed → Prop
  | .findPending name limit _, s, found, s' =>
    found = some (.ok (s.table.findPending name limit)) ∧
      s' = { s with batches := s.batches ++ [s.table.findPending name limit] }
  | .enqueue task options, s, reply, s' =>
    ∃ id info, Site.Names options id ∧ reply = .ok info ∧
      s' = { s with queue := s.queue ++ [⟨id, task⟩] }
  | c, s, answer, s' =>
    faultless c s.table answer s'.table ∧ s' = { s with table := s'.table }

/-- New rows join the table under ids of their own. They are younger than all that was fetched. -/
def Joins (s s' : Feed) : Prop :=
  ∃ rows : List OutboxEvent, s' = { s with table := s.table ++ rows } ∧ (rows.map (·.id)).Nodup ∧
    (∀ row ∈ rows, ∀ e ∈ s.table, e.id ≠ row.id) ∧ ∀ row ∈ rows, ∀ e ∈ s.fetched, e.Before row

end Feed

/-- Between any two calls rows may join. -/
def feeding : Conduct Call Answer Feed := fun c s answer s' =>
  ∃ s₁, Feed.Serves c s answer s₁ ∧ s₁.Joins s'

/-- The task that the builder makes of an event, under the id of the event. -/
def Builder.Makes (builder : Builder) (e : OutboxEvent) (t : Accepted) : Prop :=
  ∃ make now, builder e = .ok make ∧ t = ⟨e.id.text, make now⟩

theorem Feed.Joins.refl (s : Feed) : s.Joins s :=
  ⟨[], by simp, List.nodup_nil, by simp, by simp⟩

theorem exists_feeding (c : Call) (s : Feed) : ∃ answer s', feeding c s answer s' := by
  have hserves : ∃ answer s', Feed.Serves c s answer s' := by
    obtain ⟨answer, t', h⟩ := exists_faultless c s.table
    cases c with
    | findPending name limit deadline => exact ⟨_, _, rfl, rfl⟩
    | enqueue task options =>
      have hname : Site.Names options (options.taskId.getD "") := by
        intro given hgiven
        rw [hgiven, Option.getD_some]
      exact ⟨_, _, _, ⟨"", ""⟩, hname, rfl, rfl⟩
    | _ => exact ⟨answer, { s with table := t' }, h, rfl⟩
  obtain ⟨answer, s', h⟩ := hserves
  exact ⟨answer, s', s', h, .refl s'⟩

variable {p : Processor} {e : OutboxEvent} {todo rest : List OutboxEvent} {s s' : Feed}
variable {name : String}

/-- The pending rows of a name are these events, which are still to be handled, and rows that are
younger than everything fetched. -/
structure Underway (name : String) (todo : List OutboxEvent) (s : Feed) : Prop
    extends AtHand name todo s.table where
  ordered : s.fetched.Pairwise Before
  later : ∀ row ∈ s.table, row.name = name → row.status = .pending →
    row ∈ todo ∨ ∀ e ∈ s.fetched, e.Before row

theorem Underway.joins (h : Underway name todo s) (hs : s.Joins s') : Underway name todo s' := by
  obtain ⟨rows, rfl, hdistinct, hfresh, hyounger⟩ := hs
  refine ⟨⟨?_, h.distinct, fun e he => ?_⟩, h.ordered, fun row hrow hname hp => ?_⟩
  · rw [List.map_append, List.nodup_append]
    refine ⟨h.unique, hdistinct, ?_⟩
    rintro _ ha _ hb rfl
    obtain ⟨e, he, hid⟩ := List.mem_map.mp ha
    obtain ⟨row, hrow, rfl⟩ := List.mem_map.mp hb
    exact hfresh row hrow e he hid
  · exact ⟨List.mem_append_left _ (h.stored e he).1, (h.stored e he).2⟩
  · rcases List.mem_append.mp hrow with hold | hnew
    · exact h.later row hold hname hp
    · exact .inr fun e he => hyounger row hnew e he

theorem Feed.Joins.queue_eq (h : s.Joins s') : s'.queue = s.queue := by
  obtain ⟨rows, rfl, -⟩ := h
  rfl

theorem Feed.Joins.batches_eq (h : s.Joins s') : s'.batches = s.batches := by
  obtain ⟨rows, rfl, -⟩ := h
  rfl

theorem joins_of_isAside {c : Call} (hc : c.isAside = true) {answer : Answer c}
    (h : feeding c s answer s') : s.Joins s' := by
  obtain ⟨s₁, hserves, hjoins⟩ := h
  have hsame : s₁ = s := by
    cases c with
    | now | clock | stopRequested | wake | pendingStats | count | setGauges =>
      obtain ⟨htable, heq⟩ := hserves
      have htable : s₁.table = s.table := htable
      rw [heq, htable]
    | _ => cases hc
  rwa [hsame] at hjoins

theorem joins_of_counting (h : Counting feeding s s') : s.Joins s' := by
  rcases h with rfl | ⟨counter, answer, hc⟩
  · exact .refl _
  · exact joins_of_isAside rfl hc

/-- The row of the first event is marked, and no other one is concerned. -/
theorem Underway.marked {answer : Except OutboxError Bool} (h : Underway name (e :: rest) s)
    (hc : feeding (.markSuccess e.id) s answer s') :
    (∃ changed, answer = .ok changed) ∧ Underway name rest s' ∧ s'.queue = s.queue ∧
      s'.batches = s.batches := by
  obtain ⟨s₁, ⟨⟨now, rfl, htable⟩, hs₁⟩, hjoins⟩ := hc
  obtain ⟨he, -, hp⟩ := h.stored e List.mem_cons_self
  have hreplaces := Table.replaces_updatePending (Table.settled .success none now) h.unique he hp
  have htable : s₁.table = Table.updatePending e.id (Table.settled .success none now) s.table :=
    htable
  have hfetched : s₁.fetched = s.fetched := by rw [hs₁]; rfl
  have hdone : Underway name rest s₁ := by
    refine ⟨?_, by rw [hfetched]; exact h.ordered, fun row hrow hname hpending => ?_⟩
    · rw [htable]
      exact h.toAtHand.update fun _ => ⟨rfl, rfl, rfl, rfl⟩
    · rw [htable] at hrow
      rw [hfetched]
      rcases (hreplaces row).mp hrow with rfl | ⟨hold, hne⟩
      · cases hpending
      · refine (h.later row hold hname hpending).imp_left fun hmem => ?_
        exact (List.mem_cons.mp hmem).resolve_left fun heq => hne (heq ▸ rfl)
  refine ⟨⟨_, rfl⟩, hdone.joins hjoins, ?_, ?_⟩
  · rw [hjoins.queue_eq, hs₁]
  · rw [hjoins.batches_eq, hs₁]

/-- An event that is handled is delivered. -/
theorem Underway.delivered {make : Int → Task} {o : Outcome OutboxError EventOutcome}
    (h : Underway name (e :: rest) s) (hb : p.builder e = .ok make)
    (hr : Dialogue.Runs feeding (p.processEvent e) s o s') :
    o = .ok .delivered ∧ Underway name rest s' ∧ s'.batches = s.batches ∧
      ∃ t, p.builder.Makes e t ∧ s'.queue = s.queue ++ [t] := by
  cases course_of_runs hr with
  | rejected hbuilder =>
    rw [hb] at hbuilder
    cases hbuilder
  | @enqueued make' now reply s₁ s₂ _ _ hbuilder hnow henqueue hclosing =>
    have hwaiting : s.Joins s₁ := joins_of_isAside rfl hnow
    obtain ⟨_, ⟨id, info, hname, rfl, rfl⟩, haccepted⟩ := henqueue
    obtain rfl := hname _ rfl
    have hunder : Underway name (e :: rest) s₂ := by
      have hfirst := h.joins hwaiting
      have hqueued : Underway name (e :: rest)
          { s₁ with queue := s₁.queue ++ [⟨e.id.text, make' now⟩] } :=
        ⟨hfirst.toAtHand, hfirst.ordered, hfirst.later⟩
      exact hqueued.joins haccepted
    cases hclosing with
    | delivered _ hmark hcounting =>
      obtain ⟨⟨changed, rfl⟩, hdone, hqueue, hbatches⟩ := hunder.marked hmark
      have hjoins := joins_of_counting hcounting
      refine ⟨rfl, hdone.joins hjoins, ?_, ⟨e.id.text, make' now⟩, ⟨make', now, hbuilder, rfl⟩, ?_⟩
      · rw [hjoins.batches_eq, hbatches, haccepted.batches_eq]
        exact hwaiting.batches_eq
      · rw [hjoins.queue_eq, hqueue, haccepted.queue_eq, ← hwaiting.queue_eq]
    | refused hreply => cases hreply
    | attempted hreply => cases hreply
    | overflow hreply => cases hreply

/-- A batch is fetched: younger than what was fetched before, and older than what is left. -/
theorem Underway.fetch {limit : Nat} {deadline : Option Nat}
    {found : Answer (.findPending name limit deadline)} (h : Underway name [] s)
    (hc : feeding (.findPending name limit deadline) s found s') :
    found = some (.ok (s.table.findPending name limit)) ∧
      Underway name (s.table.findPending name limit) s' ∧ s'.queue = s.queue ∧
      s'.batches = s.batches ++ [s.table.findPending name limit] := by
  obtain ⟨_, ⟨rfl, rfl⟩, hjoins⟩ := hc
  have holdest := Table.oldest_findPending h.unique name limit
  have hlater : ∀ row ∈ s.table, row.name = name → row.status = .pending →
      ∀ e ∈ s.fetched, e.Before row := by
    intro row hrow hname hp
    exact (h.later row hrow hname hp).resolve_left List.not_mem_nil
  have hbatch : Underway name (s.table.findPending name limit)
      { s with batches := s.batches ++ [s.table.findPending name limit] } := by
    refine ⟨.findPending h.unique name limit, ?_, fun row hrow hname hp => ?_⟩
    · rw [Feed.fetched_append rfl, List.pairwise_append]
      refine ⟨h.ordered, holdest.ordered, fun a ha b hb => ?_⟩
      obtain ⟨hstored, hname, hp⟩ := holdest.pending b hb
      exact hlater b hstored hname hp a ha
    · refine (holdest.first row hrow hname hp).imp_right fun hyounger e he => ?_
      rw [Feed.fetched_append rfl] at he
      rcases List.mem_append.mp he with hold | hnew
      · exact hlater row hrow hname hp e hold
      · exact hyounger e hnew
  exact ⟨rfl, hbatch.joins hjoins, hjoins.queue_eq, hjoins.batches_eq⟩

variable {results : List (Except OutboxError EventOutcome)} {panic : Option Panic}

/-- All events of a batch are delivered, in their order. -/
theorem Underway.passage {events : List OutboxEvent} (h : Underway name events s)
    (hb : ∀ e ∈ events, ∃ make, p.builder e = .ok make)
    (hr : Passage feeding p .never events s results panic s') :
    panic = none ∧ results = List.replicate events.length (.ok .delivered) ∧
      Underway name [] s' ∧ s'.batches = s.batches ∧
      ∃ tasks, List.Forall₂ p.builder.Makes events tasks ∧ s'.queue = s.queue ++ tasks := by
  -- along the batch, with the events that are still to be handled in the invariant
  induction hr with
  | done => exact ⟨rfl, rfl, h, rfl, [], .nil, (List.append_nil _).symm⟩
  | stopped hshows => cases hshows.1
  | broken hshows hevent =>
    obtain rfl := hshows.2
    obtain ⟨make, hmake⟩ := hb _ List.mem_cons_self
    cases (h.delivered hmake hevent).1
  | @next e rest s s₁ s₂ s' result results panic hshows hevent _ ih =>
    obtain rfl := hshows.2
    obtain ⟨make, hmake⟩ := hb e List.mem_cons_self
    obtain ⟨hresult, hrest, hbatches, t, ht, hqueue⟩ := h.delivered hmake hevent
    obtain rfl : result = .ok .delivered := Outcome.ofExcept_eq_ok.mp hresult
    obtain ⟨rfl, rfl, hdone, hbatches', tasks, htasks, hqueue'⟩ :=
      ih hrest (fun x hx => hb x (List.mem_cons_of_mem e hx))
    refine ⟨rfl, rfl, hdone, hbatches'.trans hbatches, t :: tasks, .cons ht htasks, ?_⟩
    rw [hqueue', hqueue, List.append_assoc, List.singleton_append]

/-- What was fetched stays so. -/
theorem prefix_of_feeding {c : Call} {answer : Answer c} (h : feeding c s answer s') :
    s.batches <+: s'.batches := by
  obtain ⟨s₁, hserves, hjoins⟩ := h
  rw [hjoins.batches_eq]
  cases c with
  | findPending name limit deadline =>
    rw [hserves.2]
    exact List.prefix_append _ _
  | enqueue task options =>
    obtain ⟨id, info, -, -, rfl⟩ := hserves
    exact List.prefix_refl _
  | _ => rw [hserves.2]

theorem prefix_of_runs {α : Type} {d : Dialogue Call Answer α} {value : α}
    (h : d.Runs feeding s value s') : s.batches <+: s'.batches := by
  have hstep : ∀ (c : Call) (s₁ : Feed) (answer : Answer c) (s₂ : Feed),
      s.batches <+: s₁.batches → feeding c s₁ answer s₂ → s.batches <+: s₂.batches :=
    fun _ _ _ _ hstays hc => hstays.trans (prefix_of_feeding hc)
  exact h.preserves hstep (List.prefix_refl _)

theorem prefix_of_passage {events : List OutboxEvent}
    (h : Passage feeding p .never events s results panic s') : s.batches <+: s'.batches := by
  induction h with
  | done => exact List.prefix_refl _
  | stopped hshows => cases hshows.1
  | next hshows hevent _ ih =>
    obtain rfl := hshows.2
    exact (prefix_of_runs hevent).trans ih
  | broken hshows hevent =>
    obtain rfl := hshows.2
    exact prefix_of_runs hevent

theorem Feed.mem_fetched (h : s.batches <+: s'.batches) (he : e ∈ s.fetched) : e ∈ s'.fetched := by
  obtain ⟨batch, hbatch, he⟩ := List.mem_flatten.mp he
  exact List.mem_flatten.mpr ⟨batch, h.subset hbatch, he⟩

/-- While the gauges are set, rows may join, and nothing else changes. -/
theorem kept_of_refreshMetrics {o : Outcome Empty Unit}
    (h : Dialogue.Runs feeding p.refreshMetrics s o s') :
    s'.queue = s.queue ∧ s'.batches = s.batches ∧
      ∀ {todo}, Underway name todo s → Underway name todo s' := by
  obtain ⟨-, rfl | ⟨stats, s₁, hstats, hrest⟩⟩ := refreshing_of_runs h
  · exact ⟨rfl, rfl, id⟩
  · have hfirst := joins_of_isAside rfl hstats
    obtain rfl | ⟨pending, age, hgauges⟩ := hrest
    · exact ⟨hfirst.queue_eq, hfirst.batches_eq, fun h => h.joins hfirst⟩
    · have hsecond := joins_of_isAside rfl hgauges
      exact ⟨hsecond.queue_eq.trans hfirst.queue_eq, hsecond.batches_eq.trans hfirst.batches_eq,
        fun h => (h.joins hfirst).joins hsecond⟩

theorem closed_delivered (n : Nat) :
    BatchReport.closed { fetched := n } n (List.replicate n (.ok .delivered)) =
      { fetched := n, delivered := n } := by
  have hfold : ∀ (r : BatchReport) (n : Nat),
      (List.replicate n (Except.ok .delivered)).foldl BatchReport.add r =
        { r with delivered := r.delivered + n } := by
    intro r n
    induction n generalizing r with
    | zero => rfl
    | succ n ih =>
      rw [List.replicate_succ, List.foldl_cons, ih]
      simp only [BatchReport.add, Nat.add_assoc, Nat.add_comm 1]
  simp [BatchReport.closed, hfold]

/-- What one poll does if all goes well: a batch is fetched and delivered. -/
structure Polls (p : Processor) (s : Feed) (o : Outcome Empty BatchReport)
    (batch : List OutboxEvent) (tasks : List Accepted) (s' : Feed) : Prop where
  oldest : s.table.Oldest p.config.eventName p.config.batchSize batch
  outcome : o = .ok { fetched := batch.length, delivered := batch.length }
  batches : s'.batches = s.batches ++ [batch]
  made : List.Forall₂ p.builder.Makes batch tasks
  queue : s'.queue = s.queue ++ tasks

theorem Underway.processBatch {o : Outcome Empty BatchReport} {s₁ : Feed}
    (h : Underway p.config.eventName [] s)
    (hr : Dialogue.Runs feeding (p.processBatch .never) s o s₁)
    (hstays : s₁.batches <+: s'.batches)
    (hb : ∀ e ∈ s'.fetched, ∃ make, p.builder e = .ok make) :
    Underway p.config.eventName [] s₁ ∧ ∃ batch tasks, Polls p s o batch tasks s₁ := by
  obtain ⟨found, s₂, hfetch, hrest⟩ := passage_of_processBatch hr
  obtain ⟨rfl, hunder, hqueue, hbatches⟩ := h.fetch hfetch
  rcases hrest with ⟨hnone, -⟩ | ⟨events, results, panic, hevents, hpassage, rfl⟩
  · exact (hnone _ rfl).elim
  · obtain rfl := Except.ok.inj (Option.some.inj hevents)
    have hbuilds : ∀ e ∈ s.table.findPending p.config.eventName p.config.batchSize,
        ∃ make, p.builder e = .ok make := by
      intro e he
      refine hb e (Feed.mem_fetched ((prefix_of_passage hpassage).trans hstays) ?_)
      rw [Feed.fetched_append hbatches]
      exact List.mem_append_right _ he
    obtain ⟨rfl, rfl, hdone, hsame, tasks, hmade, hqueue'⟩ := hunder.passage hbuilds hpassage
    refine ⟨hdone, _, tasks, Table.oldest_findPending h.unique _ _, ?_, ?_, hmade, ?_⟩
    · exact congrArg Outcome.ok (closed_delivered _)
    · rw [hsame, hbatches]
    · rw [hqueue', hqueue]

/-- If all goes well, a poll leaves nothing of its batch, and everything else is younger. -/
theorem Underway.pollOnce {o : Outcome Empty BatchReport} (h : Underway p.config.eventName [] s)
    (hr : Dialogue.Runs feeding p.pollOnce s o s')
    (hb : ∀ e ∈ s'.fetched, ∃ make, p.builder e = .ok make) :
    Underway p.config.eventName [] s' ∧ ∃ batch tasks, Polls p s o batch tasks s' := by
  obtain ⟨report, s₁, hbatch, hrefresh, rfl⟩ | ⟨reason, hbatch, rfl⟩ := pollOnce_of_runs hr
  · obtain ⟨hdone, batch, tasks, hpolls⟩ := h.processBatch hbatch (prefix_of_runs hrefresh) hb
    obtain ⟨hqueue, hbatches, hkeeps⟩ := kept_of_refreshMetrics hrefresh
    exact ⟨hkeeps hdone, batch, tasks, hpolls.oldest, hpolls.outcome,
      hbatches.trans hpolls.batches, hpolls.made, hqueue.trans hpolls.queue⟩
  · obtain ⟨-, batch, tasks, hpolls⟩ := h.processBatch hbatch (List.prefix_refl _) hb
    cases hpolls.outcome

/-- After any number of polls the tasks of all events that were fetched are in the queue. -/
theorem Underway.polls {o : Outcome Empty Unit} {n : Nat} (h : Underway p.config.eventName [] s)
    (hr : Dialogue.Runs feeding (p.polls n) s o s')
    (hb : ∀ e ∈ s'.fetched, ∃ make, p.builder e = .ok make) :
    o = .ok () ∧ Underway p.config.eventName [] s' ∧ ∃ events tasks,
      s'.fetched = s.fetched ++ events ∧ List.Forall₂ p.builder.Makes events tasks ∧
        s'.queue = s.queue ++ tasks := by
  -- between two polls no event is to be handled, so that each of them starts like the first
  induction n generalizing s with
  | zero =>
    obtain ⟨rfl, rfl⟩ := hr
    exact ⟨rfl, h, [], [], (List.append_nil _).symm, .nil, (List.append_nil _).symm⟩
  | succ n ih =>
    rcases Attempt.runs_bind.mp hr with ⟨report, s₁, hpoll, hrest⟩ | ⟨⟨⟩, -⟩ | ⟨reason, hpoll, -⟩
    · have hbuilds : ∀ e ∈ s₁.fetched, ∃ make, p.builder e = .ok make :=
        fun e he => hb e (Feed.mem_fetched (prefix_of_runs hrest) he)
      obtain ⟨hunder, batch, tasks, hpolls⟩ := h.pollOnce hpoll hbuilds
      obtain ⟨ho, hdone, events, tasks', hfetched, hmade, hqueue⟩ := ih hunder hrest
      refine ⟨ho, hdone, batch ++ events, tasks ++ tasks', ?_, ?_, ?_⟩
      · rw [hfetched, Feed.fetched_append hpolls.batches, List.append_assoc]
      · exact List.rel_append hpolls.made hmade
      · rw [hqueue, hpolls.queue, List.append_assoc]
    · obtain ⟨-, batch, tasks, hpolls⟩ := h.pollOnce hpoll hb
      cases hpolls.outcome

/-! ## Any poll -/

variable {σ : Type} {conduct : Conduct Call Answer σ} {t : Table} {w w' : σ}

/-- A poll of a table handles the oldest rows of its name in the order of their age, whatever the
calls answer, until it is through or a panic breaks it off. It may also find nothing to handle. -/
inductive ByAge (conduct : Conduct Call Answer σ) (p : Processor) (t : Table) (w : σ) :
    Outcome Empty BatchReport → σ → Prop where
  | unfetched {found : Option (Except OutboxError (List OutboxEvent))} {w₁ w' : σ} :
      conduct (.findPending p.config.eventName p.config.batchSize none) w found w₁ →
      (∀ events, found ≠ some (.ok events)) →
      Dialogue.Runs conduct p.refreshMetrics w₁ (.ok ()) w' → ByAge conduct p t w (.ok {}) w'
  | handled {batch : List OutboxEvent} {results : List (Except OutboxError EventOutcome)}
      {w₁ w₂ w' : σ} :
      conduct (.findPending p.config.eventName p.config.batchSize none) w (some (.ok batch)) w₁ →
      t.Oldest p.config.eventName p.config.batchSize batch →
      Passage conduct p .never batch w₁ results none w₂ → results.length = batch.length →
      Dialogue.Runs conduct p.refreshMetrics w₂ (.ok ()) w' →
      ByAge conduct p t w (.ok (.closed { fetched := batch.length } batch.length results)) w'
  | broken {batch : List OutboxEvent} {results : List (Except OutboxError EventOutcome)}
      {reason : Panic} {w₁ w' : σ} :
      conduct (.findPending p.config.eventName p.config.batchSize none) w (some (.ok batch)) w₁ →
      t.Oldest p.config.eventName p.config.batchSize batch →
      Passage conduct p .never batch w₁ results (some reason) w' →
      ByAge conduct p t w (.panicked reason) w'

/-- Every run of a poll goes by age, if what is fetched is what the table has to offer. -/
theorem byAge_of_runs {o : Outcome Empty BatchReport} (ht : (t.map (·.id)).Nodup)
    (hfound : ∀ events w₁, conduct (.findPending p.config.eventName p.config.batchSize none) w
      (some (.ok events)) w₁ → events = t.findPending p.config.eventName p.config.batchSize)
    (hr : Dialogue.Runs conduct p.pollOnce w o w') : ByAge conduct p t w o w' := by
  have holdest := Table.oldest_findPending ht p.config.eventName p.config.batchSize
  obtain ⟨report, w₂, hbatch, hrefresh, rfl⟩ | ⟨reason, hbatch, rfl⟩ := pollOnce_of_runs hr
  · obtain ⟨found, w₁, hfetch, hrest⟩ := passage_of_processBatch hbatch
    obtain ⟨hnone, hreport, rfl⟩ | ⟨events, results, panic, rfl, hpassage, hreport⟩ := hrest
    · obtain rfl := Outcome.ok.inj hreport
      exact .unfetched hfetch hnone hrefresh
    · obtain rfl := hfound events w₁ hfetch
      cases panic with
      | none =>
        obtain rfl := Outcome.ok.inj hreport
        exact .handled hfetch holdest hpassage hpassage.length_eq hrefresh
      | some reason => cases hreport
  · obtain ⟨found, w₁, hfetch, hrest⟩ := passage_of_processBatch hbatch
    obtain ⟨-, hreport, -⟩ | ⟨events, results, panic, rfl, hpassage, hreport⟩ := hrest
    · cases hreport
    · obtain rfl := hfound events w₁ hfetch
      cases panic with
      | none => cases hreport
      | some reason' =>
        obtain rfl := Outcome.panicked.inj hreport
        exact .broken hfetch holdest hpassage

/-- If all goes well, and if what joins the table is younger than what was fetched, each poll
delivers the oldest rows, and over all polls the tasks are put to the queue in the order of age. One
poll by itself handles its events in this order in any case. -/
theorem oldest_first (p : Processor) :
    (∀ start : Feed, (start.table.map (·.id)).Nodup → start.batches = [] → ∀ n,
      (∃ o s, Dialogue.Runs feeding (p.polls n) start o s) ∧
      ∀ o s o' s', Dialogue.Runs feeding (p.polls n) start o s →
        Dialogue.Runs feeding p.pollOnce s o' s' →
        (∀ e ∈ s'.fetched, ∃ make, p.builder e = .ok make) →
        o = .ok () ∧ (∃ batch tasks, Polls p s o' batch tasks s') ∧
          ∃ tasks, List.Forall₂ p.builder.Makes s'.fetched tasks ∧
            s'.queue = start.queue ++ tasks ∧ s'.fetched.Pairwise Before) ∧
    ∀ (σ : Type) (conduct : Conduct Call Answer σ) (t : Table) (w w' : σ)
      (o : Outcome Empty BatchReport), (t.map (·.id)).Nodup →
      (∀ events w₁, conduct (.findPending p.config.eventName p.config.batchSize none) w
        (some (.ok events)) w₁ → events = t.findPending p.config.eventName p.config.batchSize) →
      Dialogue.Runs conduct p.pollOnce w o w' → ByAge conduct p t w o w' := by
  refine ⟨fun start hunique hfresh n => ⟨?_, fun o s o' s' hpolls hpoll hb => ?_⟩,
    fun σ conduct t w w' o => byAge_of_runs⟩
  · exact Dialogue.exists_runs exists_feeding (p.polls n) start
  · have hnothing : start.fetched = [] := by rw [Feed.fetched, hfresh, List.flatten_nil]
    have hstart : Underway p.config.eventName [] start := by
      refine ⟨⟨hunique, List.nodup_nil, nofun⟩, ?_, fun row hrow hname hp => .inr ?_⟩
      · rw [hnothing]
        exact .nil
      · rw [hnothing]
        exact nofun
    have hbuilds : ∀ e ∈ s.fetched, ∃ make, p.builder e = .ok make :=
      fun e he => hb e (Feed.mem_fetched (prefix_of_runs hpoll) he)
    obtain ⟨rfl, hunder, events, tasks, hfetched, hmade, hqueue⟩ := hstart.polls hpolls hbuilds
    obtain ⟨hdone, batch, tasks', hlast⟩ := hunder.pollOnce hpoll hb
    refine ⟨rfl, ⟨batch, tasks', hlast⟩, tasks ++ tasks', ?_, ?_, hdone.ordered⟩
    · rw [Feed.fetched_append hlast.batches, hfetched, hnothing, List.nil_append]
      exact List.rel_append hmade hlast.made
    · rw [hlast.queue, hqueue, List.append_assoc]

/-! ### A row that joins while another one is delivered -/

def youngerRow : OutboxEvent := { Site.plainRow .pending with id := ⟨1⟩, createdAt := 1 }

/-- The task of a row with the payload of a plain one. -/
def taskOf (row : OutboxEvent) : Accepted := ⟨row.id.text, ⟨row.name, .str "hello"⟩⟩

theorem runs_narrow {row : OutboxEvent} (hfound : s.table.findPending "login" 1 = [row])
    (hpayload : row.payload = .str "hello")
    (hmark : feeding (.markSuccess row.id)
      ⟨s.table, s.queue ++ [taskOf row], s.batches ++ [[row]]⟩ (.ok true) s') :
    Dialogue.Runs feeding Processor.narrow.pollOnce s (.ok { fetched := 1, delivered := 1 })
      s' := by
  have hfetch : feeding (.findPending "login" 1 none) s (some (.ok [row]))
      ⟨s.table, s.queue, s.batches ++ [[row]]⟩ := by
    rw [← hfound]
    exact ⟨_, ⟨rfl, rfl⟩, .refl _⟩
  have hbuilds : Processor.narrow.builder row = .ok fun _ => (taskOf row).task := by
    simp [Processor.narrow, Site.plainBuilder, hpayload, taskOf]
  have hevent : Dialogue.Runs feeding (Processor.narrow.processEvent row)
      ⟨s.table, s.queue, s.batches ++ [[row]]⟩ (.ok .delivered) s' := by
    have hname : Site.Names (Processor.narrow.options row) row.id.text :=
      fun given hgiven => Option.some.inj hgiven
    rw [Processor.processEvent, hbuilds]
    exact ⟨(0 : Int), _, ⟨_, ⟨rfl, rfl⟩, .refl _⟩, .ok ⟨"", ""⟩, _,
      ⟨_, ⟨_, _, hname, rfl, rfl⟩, .refl _⟩, .ok true, _, hmark, rfl, rfl⟩
  have hall : Dialogue.Runs feeding
      (Processor.narrow.processAll .never { fetched := 1 } [row])
      ⟨s.table, s.queue, s.batches ++ [[row]]⟩ (.ok { fetched := 1, delivered := 1 }) s' := by
    refine Attempt.runs_bind.mpr (.inl ⟨false, _, ⟨rfl, rfl⟩, ?_⟩)
    exact Attempt.runs_bind.mpr (.inl ⟨.ok .delivered, s',
      Attempt.runs_result.mpr (.inl ⟨_, rfl, hevent⟩), rfl, rfl⟩)
  have hbatch : Dialogue.Runs feeding (Processor.narrow.processBatch .never) s
      (.ok { fetched := 1, delivered := 1 }) s' := ⟨_, _, hfetch, hall⟩
  exact Attempt.runs_bind.mpr (.inl ⟨_, s', hbatch,
    Attempt.runs_bind.mpr (.inl ⟨(), s', ⟨rfl, rfl⟩, rfl, rfl⟩)⟩)

/-- The older row is delivered, and the younger one has joined. -/
def joined : Feed :=
  ⟨[Site.plainRow .success, youngerRow], [taskOf (Site.plainRow .pending)],
    [[Site.plainRow .pending]]⟩

theorem runs_joined :
    Dialogue.Runs feeding Processor.narrow.pollOnce ⟨[Site.plainRow .pending], [], []⟩
      (.ok { fetched := 1, delivered := 1 }) joined := by
  have hfound : Table.findPending [Site.plainRow .pending] "login" 1 =
      [Site.plainRow .pending] := by
    simp [Table.findPending, Table.isPendingOf, Site.plainRow]
  have hjoins : Feed.Joins ⟨[Site.plainRow .success], joined.queue, joined.batches⟩ joined := by
    refine ⟨[youngerRow], rfl, List.nodup_singleton _, ?_, ?_⟩
    · simp [Site.plainRow, youngerRow, Uuid.nil]
    · simp [joined, Feed.fetched, Before, Site.plainRow, youngerRow]
  exact runs_narrow hfound rfl ⟨_, ⟨⟨0, rfl, rfl⟩, rfl⟩, hjoins⟩

/-- The younger row joins with the mark of the older one, and the second poll delivers it. A poll
that meets a broken queue goes by age as well. -/
theorem oldest_first_joined :
    ∃ s' : Feed,
      Dialogue.Runs feeding (Processor.narrow.polls 1) ⟨[Site.plainRow .pending], [], []⟩ (.ok ())
        joined ∧
      Dialogue.Runs feeding Processor.narrow.pollOnce joined
        (.ok { fetched := 1, delivered := 1 }) s' ∧
      s'.fetched = [Site.plainRow .pending, youngerRow] ∧
      (∃ batch tasks,
        Polls Processor.narrow joined (.ok { fetched := 1, delivered := 1 }) batch tasks s') ∧
      (∃ tasks, List.Forall₂ Processor.narrow.builder.Makes s'.fetched tasks ∧
        s'.queue = [] ++ tasks ∧ s'.fetched.Pairwise Before) ∧
      ∃ w', ByAge (Site.conduct Site.Claiming) Processor.narrow [Site.plainRow .pending]
        ⟨[Site.plainRow .pending], []⟩ (.ok { fetched := 1, retrying := 1 }) w' := by
  have hfound : joined.table.findPending "login" 1 = [youngerRow] := by
    simp [joined, Table.findPending, Table.isPendingOf, Site.plainRow, youngerRow]
  have hpolls : Dialogue.Runs feeding (Processor.narrow.polls 1)
      ⟨[Site.plainRow .pending], [], []⟩ (.ok ()) joined :=
    Attempt.runs_bind.mpr (.inl ⟨_, _, runs_joined, rfl, rfl⟩)
  have hagain : Dialogue.Runs feeding Processor.narrow.pollOnce joined
      (.ok { fetched := 1, delivered := 1 })
      ⟨[Site.plainRow .success, { youngerRow with status := .success }],
        joined.queue ++ [taskOf youngerRow], joined.batches ++ [[youngerRow]]⟩ :=
    runs_narrow hfound rfl ⟨_, ⟨⟨0, rfl, rfl⟩, rfl⟩, .refl _⟩
  have hdown : Dialogue.Runs (Site.conduct Site.Claiming) Processor.narrow.pollOnce
      ⟨[Site.plainRow .pending], []⟩ (.ok { fetched := 1, retrying := 1 })
      ⟨[{ Site.plainRow .pending with
        attempts := 1, lastError := some "Enqueue failed: queue is down" }], []⟩ := by
    refine ⟨_, _, Site.conduct_findPending_singleton Site.Claiming
      (rfl : (Site.plainRow .pending).status = _) (by decide) none [], ?_⟩
    refine ⟨(0 : Int), _, rfl, .error (.enqueueFailed "queue is down"), _,
      ⟨.refuses _ fun text h => OutboxError.noConfusion h, rfl⟩, ?_⟩
    refine ⟨.ok .pending, ⟨[_], []⟩, ⟨.inr ⟨.ok (.ok .pending), rfl, .works 0⟩, rfl⟩, ?_⟩
    exact ⟨rfl, rfl⟩
  have hbuilds : ∀ e ∈ [Site.plainRow .pending, youngerRow],
      ∃ make, Processor.narrow.builder e = .ok make := by
    simp [Processor.narrow, Site.plainBuilder, Site.plainRow, youngerRow]
  obtain ⟨hwell, hany⟩ := oldest_first Processor.narrow
  obtain ⟨-, hpolled, horder⟩ :=
    (hwell ⟨[Site.plainRow .pending], [], []⟩ (List.nodup_singleton _) rfl 1).2 _ _ _ _ hpolls
      hagain hbuilds
  refine ⟨_, hpolls, hagain, rfl, hpolled, horder, _,
    hany _ _ _ _ _ _ (List.nodup_singleton _) ?_ hdown⟩
  rintro events w₁ ⟨hfound, -⟩
  exact hfound events rfl

end Outbox

end SignIn
