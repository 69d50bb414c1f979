import SignIn.Proofs.SharedDelivery

/-!
# The budget of attempts

Workers count the failed attempts of a row in the row itself, and each of them may
act on a copy that is stale. Only the update counts: it adds one to what the row
holds, and compares in the same moment. Beside the table a tally is kept of the
updates that have counted an attempt, and every row agrees with it.
-/
namespace SignIn

/-- A row for which so many attempts were counted. Only a row that was given up may have used up
its budget. -/
structure OutboxEvent.Spent (budget : Int) (counted : Nat) (row : OutboxEvent) : Prop where
  attempts : row.attempts = counted
  within : row.attempts ≤ budget
  exhausted : row.attempts = budget → row.status = .failed

namespace OutboxEvent.Spent

variable {budget : Int} {counted : Nat} {row : OutboxEvent}

theorem make (hb : 1 ≤ budget) (id : Uuid) (now : Int) (name : String) (payload : Json) :
    (OutboxEvent.make id now name payload).Spent budget 0 where
  attempts := rfl
  within := by simp only [OutboxEvent.make]; omega
  exhausted := by simp only [OutboxEvent.make]; omega

theorem lt_of_pending (h : row.Spent budget counted) (hp : row.status = .pending) :
    row.attempts < budget := by
  have hne : row.attempts ≠ budget := by
    intro heq
    have hfailed := h.exhausted heq
    rw [hp] at hfailed
    exact OutboxStatus.noConfusion hfailed
  have hle := h.within
  omega

/-- A row that is settled keeps its count. -/
theorem settled (h : row.Spent budget counted) (hp : row.status = .pending) (status : OutboxStatus)
    (lastError : Option String) (now : Int) :
    (Outbox.Table.settled status lastError now row).Spent budget counted := by
  have hlt := h.lt_of_pending hp
  refine ⟨h.attempts, h.within, fun heq => ?_⟩
  simp only [Outbox.Table.settled] at heq
  omega

/-- One more attempt. It is the last one if the row is given up with it. -/
theorem attempted (h : row.Spent budget counted) (hp : row.status = .pending) (error : String)
    (now : Int) : (Outbox.Table.attempted budget error now row).Spent budget (counted + 1) := by
  have hlt := h.lt_of_pending hp
  have hcount := h.attempts
  constructor
  · simp only [Outbox.Table.attempted]
    omega
  · simp only [Outbox.Table.attempted]
    omega
  · intro heq
    simp only [Outbox.Table.attempted] at heq
    simp only [Outbox.Table.attempted, Outbox.Table.settled, Outbox.Table.statusAfter]
    rw [if_pos (by omega)]

/-- The row is given up with the attempt that uses up its budget. -/
theorem status_attempted (h : row.Spent budget counted) (hp : row.status = .pending)
    (error : String) (now : Int) :
    ((Outbox.Table.attempted budget error now row).status = .failed ∧
        ((counted + 1 : Nat) : Int) = budget) ∨
      ((Outbox.Table.attempted budget error now row).status = .pending ∧
        ((counted + 1 : Nat) : Int) < budget) := by
  have hlt := h.lt_of_pending hp
  have hcount := h.attempts
  simp only [Outbox.Table.attempted, Outbox.Table.settled, Outbox.Table.statusAfter]
  by_cases hlast : budget ≤ row.attempts + 1
  · rw [if_pos hlast]
    exact .inl ⟨rfl, by omega⟩
  · rw [if_neg hlast]
    exact .inr ⟨rfl, by omega⟩

end OutboxEvent.Spent

namespace Outbox.Site

/-- The site, and the ids of the rows for which an attempt was counted, one for each time. -/
abbrev Tallied : Type := Site × List Uuid

/-- An update that has counted an attempt is written down. -/
def Tallies : Call → Tallied → Tallied → Prop
  | .recordFailure id .., s, s' =>
    (s'.1.table = s.1.table ∧ s'.2 = s.2) ∨ (s'.1.table ≠ s.1.table ∧ s'.2 = s.2 ++ [id])
  | _, s, s' => s'.2 = s.2

def tallying (queue : QueueConduct) : Conduct Call Answer Tallied := fun c s answer s' =>
  conduct queue c s.1 answer s'.1 ∧ Tallies c s s'

/-- A row as it is when its event is made. -/
def IsNew (row : OutboxEvent) : Prop :=
  ∃ id now name payload, row = OutboxEvent.make id now name payload

/-- Workers of any names and builders that share a budget, and rows that are new when they join. -/
def budgetPlant (queue : QueueConduct) (budget : Int) : Plant Call Answer Tallied where
  conduct := tallying queue
  outside := fun s s' => Joins IsNew s.1 s'.1 ∧ s'.2 = s.2
  programs := {d | ∃ config builder, config.maxAttempts = budget ∧ d ∈ programs config builder}

/-- Every row agrees with the tally, and the tally speaks of rows only. -/
structure WithinBudget (budget : Int) (s : Tallied) : Prop where
  unique : UniqueIds s.1
  spent : ∀ row ∈ s.1.table, row.Spent budget (s.2.count row.id)
  tallied : s.2 ⊆ s.1.table.map (·.id)

/-- Attempts are counted against the one budget. -/
def Budgeted (budget : Int) : Call → Tallied → Prop
  | .recordFailure _ _ maxAttempts, _ => maxAttempts = budget
  | _, _ => True

variable {queue : QueueConduct} {budget : Int}

/-! ## One step keeps the budget -/

theorem Tallies.of_table_eq {c : Call} {s s' : Tallied} (h : Tallies c s s')
    (ht : s'.1.table = s.1.table) : s'.2 = s.2 := by
  cases c with
  | recordFailure id error maxAttempts =>
    rcases h with ⟨-, hs⟩ | ⟨hne, -⟩
    · exact hs
    · exact (hne ht).elim
  | _ => exact h

theorem Tallies.of_table_ne {id : Uuid} {error : String} {maxAttempts : Int} {s s' : Tallied}
    (h : Tallies (.recordFailure id error maxAttempts) s s') (ht : s'.1.table ≠ s.1.table) :
    s'.2 = s.2 ++ [id] := by
  rcases h with ⟨heq, -⟩ | ⟨-, hs⟩
  · exact (ht heq).elim
  · exact hs

/-- What one call can do to the table and to the tally. -/
inductive Effect (budget : Int) (s s' : Tallied) : Prop where
  | unchanged : s'.1.table = s.1.table → s'.2 = s.2 → Effect budget s s'
  | settles {row : OutboxEvent} (status : OutboxStatus) (lastError : Option String) (now : Int) :
      row ∈ s.1.table → row.status = .pending →
      Table.Replaces row (Table.settled status lastError now row) s.1.table s'.1.table →
      s'.2 = s.2 → Effect budget s s'
  | counts {row : OutboxEvent} (error : String) (now : Int) :
      row ∈ s.1.table → row.status = .pending →
      Table.Replaces row (Table.attempted budget error now row) s.1.table s'.1.table →
      s'.2 = s.2 ++ [row.id] → Effect budget s s'

theorem effect_of_tallying {c : Call} {s s' : Tallied} {answer : Answer c} (hu : UniqueIds s.1)
    (hp : Budgeted budget c s) (hc : tallying queue c s answer s') : Effect budget s s' := by
  obtain ⟨hc, htally⟩ := hc
  -- only a change of the table can be an attempt that counts
  by_cases ht : s'.1.table = s.1.table
  · exact .unchanged ht (htally.of_table_eq ht)
  · obtain ⟨row, hrow, hpending, change, hw, hreplaces⟩ := replaces_of_conduct hu hc ht
    cases hw with
    | success _ now => exact .settles _ _ now hrow hpending hreplaces htally
    | failure _ error now => exact .settles _ _ now hrow hpending hreplaces htally
    | attempt _ error maxAttempts now =>
      obtain rfl : maxAttempts = budget := hp
      exact .counts error now hrow hpending hreplaces (htally.of_table_ne ht)

/-- After the call, every row agrees with the tally again. -/
theorem Effect.spent {s s' : Tallied} (he : Effect budget s s')
    (h : ∀ row ∈ s.1.table, row.Spent budget (s.2.count row.id)) :
    ∀ row ∈ s'.1.table, row.Spent budget (s'.2.count row.id) := by
  intro e hmem
  cases he with
  | unchanged ht hs =>
    rw [ht] at hmem
    rw [hs]
    exact h e hmem
  | @settles row status lastError now hrow hp hreplaces hs =>
    rw [hs]
    rcases (hreplaces e).mp hmem with rfl | ⟨hold, -⟩
    · exact (h row hrow).settled hp status lastError now
    · exact h e hold
  | @counts row error now hrow hp hreplaces hs =>
    rw [hs]
    rcases (hreplaces e).mp hmem with rfl | ⟨hold, hne⟩
    · have hcount : (s.2 ++ [row.id]).count row.id = s.2.count row.id + 1 := by simp
      have hspent := (h row hrow).attempted hp error now
      rw [← hcount] at hspent
      exact hspent
    · have hcount : (s.2 ++ [row.id]).count e.id = s.2.count e.id := by simp [hne.symm]
      rw [hcount]
      exact h e hold

/-- Only ids of rows are written down. -/
theorem Effect.tallied {s s' : Tallied} (he : Effect budget s s')
    (h : s.2 ⊆ s.1.table.map (·.id)) : s'.2 ⊆ s.1.table.map (·.id) := by
  cases he with
  | unchanged _ hs => rwa [hs]
  | settles _ _ _ _ _ _ hs => rwa [hs]
  | @counts row _ _ hrow _ _ hs =>
    rw [hs]
    refine List.append_subset.mpr ⟨h, ?_⟩
    simpa using ⟨row, hrow, rfl⟩

theorem WithinBudget.conduct {c : Call} {s s' : Tallied} {answer : Answer c}
    (h : WithinBudget budget s) (hp : Budgeted budget c s)
    (hc : tallying queue c s answer s') : WithinBudget budget s' := by
  have he := effect_of_tallying h.unique hp hc
  refine ⟨uniqueIds_of_conduct h.unique hc.1, he.spent h.spent, ?_⟩
  have hids : s'.1.table.map (·.id) = s.1.table.map (·.id) := (keeps_of_conduct hc.1).map_id
  rw [hids]
  exact he.tallied h.tallied

theorem WithinBudget.joins (hb : 1 ≤ budget) {s s' : Tallied} (h : WithinBudget budget s)
    (hj : Joins IsNew s.1 s'.1) (hs : s'.2 = s.2) : WithinBudget budget s' := by
  refine ⟨hj.uniqueIds h.unique, ?_, ?_⟩
  · rcases hj with ht | ⟨_, ⟨id, now, name, payload, rfl⟩, hfresh, ht⟩
    · rw [ht, hs]
      exact h.spent
    · rw [ht, hs]
      intro e he
      rcases List.mem_append.mp he with hold | hnew
      · exact h.spent e hold
      · obtain rfl := List.mem_singleton.mp hnew
        have hzero : s.2.count id = 0 := by
          refine List.count_eq_zero.mpr fun hid => ?_
          obtain ⟨e, he, heq⟩ := List.mem_map.mp (h.tallied hid)
          exact hfresh e he heq
        have hspent := OutboxEvent.Spent.make hb id now name payload
        rw [← hzero] at hspent
        exact hspent
  · rw [hs]
    rcases hj with ht | ⟨row, -, -, ht⟩
    · rw [ht]
      exact h.tallied
    · rw [ht, List.map_append]
      exact List.subset_append_of_subset_left _ h.tallied

/-! ## Every worker counts against the budget -/

def budgetTerms (budget : Int) : Terms Call Tallied := ⟨fun _ _ => True, Budgeted budget⟩

theorem put_budgeted {c : Call} {s : Tallied} (hp : ∀ s, Budgeted budget c s) :
    (budgetTerms budget).Put (tallying queue) c s fun _ _ => True :=
  fun s₁ _ => ⟨hp s₁, fun _ _ _ => trivial⟩

theorem handling_budgeted (queue : QueueConduct) {config : Config} (builder : Builder)
    (hb : config.maxAttempts = budget) :
    Handling config builder (tallying queue) (budgetTerms budget) (fun _ => True)
      (fun _ _ => True) (fun _ _ _ => True) (fun _ _ _ => True) where
  aside := fun c hc _ _ _ => ⟨by cases c <;> trivial, fun _ _ _ => trivial⟩
  ready_drift := fun _ _ _ _ => trivial
  batch_drift := fun _ _ _ _ _ => trivial
  leave := fun _ _ _ => trivial
  giveUp := fun _ _ _ _ => trivial
  fetch := by
    intro s deadline _ s₁ _
    refine ⟨trivial, fun answer _ _ => ?_⟩
    rcases answer with _ | error | events <;> trivial
  reject := fun _ _ _ _ _ _ => put_budgeted fun _ => trivial
  enqueue := by
    intro e rest s make now _ _ s₁ _
    exact ⟨trivial, fun answer _ _ => by simp⟩
  mark := fun _ _ _ _ => put_budgeted fun _ => trivial
  abandon := fun _ _ _ _ _ => put_budgeted fun _ => trivial
  retry := fun _ _ _ _ _ => put_budgeted fun _ => hb

theorem suits_budgeted (ι : Type) (queue : QueueConduct) (hb : 1 ≤ budget) :
    Workers.Suits ι (budgetPlant queue budget) (budgetTerms budget) (WithinBudget budget)
      fun _ => True where
  refl := fun _ _ => trivial
  trans := fun _ _ _ _ _ => trivial
  answer := fun _ _ _ _ h hp hc => ⟨h.conduct hp hc, fun _ => trivial⟩
  outside := fun _ _ h ho => ⟨h.joins hb ho.1 ho.2, trivial⟩
  stable := fun _ _ _ _ => trivial
  begins := by
    rintro d ⟨config, builder, hbudget, hd⟩ s _ hr
    exact secures_of_mem_programs (handling_budgeted queue builder hbudget) hd hr

/-- A word can hold the count of a pending row after one more attempt. -/
theorem WithinBudget.inWord (hword : Decimal.Range.i32.contains budget = true) {s : Tallied}
    (h : WithinBudget budget s) {row : OutboxEvent} (hrow : row ∈ s.1.table)
    (hp : row.status = .pending) : Decimal.Range.i32.contains (row.attempts + 1) = true := by
  have hlt := (h.spent row hrow).lt_of_pending hp
  have hcount := (h.spent row hrow).attempts
  rw [Decimal.Range.contains_iff] at hword ⊢
  simp only [Decimal.Range.i32] at hword ⊢
  omega

/-- One more attempt is counted for a pending row. It is given up with the attempt that uses up the
budget, and stays pending after any other. -/
def CountsOne (budget : Int) (id : Uuid) (s s' : Tallied) : Prop :=
  ∃ row ∈ s.1.table, row.id = id ∧ row.status = .pending ∧
    ∃ row' ∈ s'.1.table, row.SameEvent row' ∧ row'.attempts = row.attempts + 1 ∧
      ((row'.status = .failed ∧ s'.2.count id = budget) ∨
        (row'.status = .pending ∧ s'.2.count id < budget))

theorem WithinBudget.countsOne {c : Call} {s s' : Tallied} {answer : Answer c} {id : Uuid}
    (h : WithinBudget budget s) (hp : Budgeted budget c s) (hc : tallying queue c s answer s')
    (htally : s'.2 = s.2 ++ [id]) : CountsOne budget id s s' := by
  cases effect_of_tallying h.unique hp hc with
  | unchanged _ hs => simp [htally] at hs
  | settles _ _ _ _ _ _ hs => simp [htally] at hs
  | @counts row error now hrow hpending hreplaces hs =>
    obtain rfl : id = row.id := by simpa using htally.symm.trans hs
    refine ⟨row, hrow, rfl, hpending, _, (hreplaces _).mpr (.inl rfl), ⟨rfl, rfl, rfl, rfl⟩, rfl, ?_⟩
    have hcount : s'.2.count row.id = s.2.count row.id + 1 := by simp [hs]
    rw [hcount]
    exact (h.spent row hrow).status_attempted hpending error now

/-- Any number of workers share a budget, and rows are new when they join. Then every row holds the
number of the updates that have counted an attempt for it. It never exceeds the budget, and a
pending row has not used it up, so that no worker and no update counts beyond a word. The update
that gives a row up is the one that uses up its budget. -/
theorem attempts_within_budget {ι : Type} [DecidableEq ι] (hb : 1 ≤ budget)
    (hword : Decimal.Range.i32.contains budget = true) {tasks : List Accepted}
    {w : Workers ι Call Answer Tallied}
    (hw : Workers.Reaches (budgetPlant queue budget) (.idle (⟨[], tasks⟩, [])) w) :
    (∀ row ∈ w.state.1.table,
      row.attempts = w.state.2.count row.id ∧ row.attempts ≤ budget ∧
      (row.status = .pending →
        row.attempts < budget ∧ Decimal.Range.i32.contains (row.attempts + 1) = true)) ∧
    (∀ name limit deadline events s,
      tallying queue (.findPending name limit deadline) w.state (some (.ok events)) s →
        ∀ e ∈ events, Processor.nextAttempt e = pure (e.attempts + 1)) ∧
    ∀ w' id, Workers.Step (budgetPlant queue budget) w w' → w'.state.2 = w.state.2 ++ [id] →
      CountsOne budget id w.state w'.state := by
  have hstart : WithinBudget budget (⟨[], tasks⟩, []) :=
    ⟨List.nodup_nil, by simp, List.nil_subset _⟩
  have hsuits := suits_budgeted ι queue hb
  have h : WithinBudget budget w.state := hsuits.inv_of_reaches hstart trivial hw
  refine ⟨?_, ?_, ?_⟩
  · intro row hrow
    have hspent := h.spent row hrow
    refine ⟨hspent.attempts, hspent.within, fun hp => ⟨hspent.lt_of_pending hp, ?_⟩⟩
    exact h.inWord hword hrow hp
  · rintro name limit deadline events s ⟨⟨hfound, -⟩, -⟩ e he
    rw [hfound events rfl] at he
    obtain ⟨hmem, -, hp⟩ := Table.mem_of_mem_findPending he
    exact if_pos (h.inWord hword hmem hp)
  · intro w' id hstep htally
    cases hstep with
    | answer i hq hc =>
      exact h.countsOne (hsuits.permits_of_reaches hstart trivial hw hq) hc htally
    | begin i hq hd => simp at htally
    | outside ho => simp [ho.2] at htally

/-! ### A budget of two -/

/-- The row whose first attempt was counted. -/
def triedRow : OutboxEvent :=
  { plainRow .pending with attempts := 1, lastError := some "Enqueue failed: queue is down" }

/-- The worker is about to count an attempt. -/
def atCount (next : Outcome OutboxError OutboxStatus → Dialogue Call Answer Unit)
    (doing : Bool → Dialogue Call Answer Unit) : Workers Bool Call Answer Tallied :=
  ⟨(⟨[triedRow], []⟩, [.nil]), Function.update doing true
    (.ask (.recordFailure .nil "Enqueue failed: queue is down" 2) next)⟩

/-- A row joins, and the queue is down. One worker counts an attempt and does not hear of it, and
another one is about to count the next. -/
theorem reaches_atCount :
    ∃ next doing,
      Workers.Reaches (budgetPlant Claiming 2) (.idle (⟨[], []⟩, [])) (atCount next doing) := by
  have hfresh : ∀ e ∈ ([] : Table), e.id ≠ (plainRow .pending).id := by simp
  have hjoin : Workers.Step (budgetPlant Claiming 2)
      (.idle (⟨[], []⟩, []) : Workers Bool Call Answer Tallied)
      (.idle (⟨[plainRow .pending], []⟩, [])) :=
    .outside ⟨.inr ⟨plainRow .pending, ⟨.nil, 0, "login", .str "hello", rfl⟩, hfresh, rfl⟩, rfl⟩
  have hpoll : Dialogue.andThen (Processor.pollOnce
      ⟨{ eventName := "login", maxAttempts := 2 }, plainBuilder, false⟩) (fun _ => .done ()) ∈
      (budgetPlant Claiming 2).programs := ⟨_, _, rfl, poll_mem_programs _ _ false⟩
  have hfetch (row : OutboxEvent) (hp : row.status = .pending) (tally : List Uuid) :
      tallying Claiming (.findPending row.name 1000 none) (⟨[row], []⟩, tally)
        (some (.ok [row])) (⟨[row], []⟩, tally) :=
    ⟨conduct_findPending_singleton Claiming hp (by decide) none [], rfl⟩
  have hdown (row : OutboxEvent) (tally : List Uuid) :
      tallying Claiming (.enqueue plainTask.task ⟨some plainTask.id, 5, none⟩)
        (⟨[row], []⟩, tally) (.error (.enqueueFailed "queue is down")) (⟨[row], []⟩, tally) :=
    ⟨⟨.refuses _ fun text h => OutboxError.noConfusion h, rfl⟩, rfl⟩
  have hunheard : tallying Claiming (.recordFailure .nil "Enqueue failed: queue is down" 2)
      (⟨[plainRow .pending], []⟩, []) (.failed (.other "connection lost"))
      (⟨[triedRow], []⟩, [.nil]) := by
    have hne : ([triedRow] : Table) ≠ [plainRow .pending] := by simp [triedRow, plainRow]
    exact ⟨⟨.inr ⟨.error (.other "connection lost"), rfl, .unheard 0 _⟩, rfl⟩, .inr ⟨hne, rfl⟩⟩
  -- the first worker, up to the answer that it does not hear
  have hfetched := Workers.Reaches.answer (.tail (.single hjoin) (.begin false rfl hpoll)) _
    (hfetch (plainRow .pending) rfl [])
  have hwaiting := Workers.Reaches.answer hfetched (0 : Int) ⟨rfl, rfl⟩
  have hrefused := Workers.Reaches.answer hwaiting _ (hdown (plainRow .pending) [])
  have hcounted := Workers.Reaches.answer hrefused _ hunheard
  -- the second one, up to its own refusal
  have hfetched' := Workers.Reaches.answer (hcounted.tail (.begin true rfl hpoll)) _
    (hfetch triedRow rfl [.nil])
  have hwaiting' := Workers.Reaches.answer hfetched' (0 : Int) ⟨rfl, rfl⟩
  exact ⟨_, _, Workers.Reaches.answer hwaiting' _ (hdown triedRow [.nil])⟩

/-- The attempt that was not heard of counts, so that the next one is the last. -/
theorem attempts_within_budget_atCount :
    (1 : Int) ≤ 2 ∧ Decimal.Range.i32.contains 2 = true ∧
    ∃ next doing,
      Workers.Reaches (budgetPlant Claiming 2) (.idle (⟨[], []⟩, [])) (atCount next doing) ∧
      (∀ row ∈ [triedRow],
        row.attempts = [Uuid.nil].count row.id ∧ row.attempts ≤ 2 ∧
        (row.status = .pending →
          row.attempts < 2 ∧ Decimal.Range.i32.contains (row.attempts + 1) = true)) ∧
      (∀ name limit deadline events s,
        tallying Claiming (.findPending name limit deadline) (⟨[triedRow], []⟩, [.nil])
          (some (.ok events)) s →
          ∀ e ∈ events, Processor.nextAttempt e = pure (e.attempts + 1)) ∧
      ∀ w' id, Workers.Step (budgetPlant Claiming 2) (atCount next doing) w' →
        w'.state.2 = [.nil] ++ [id] → CountsOne 2 id (⟨[triedRow], []⟩, [.nil]) w'.state := by
  have hb : (1 : Int) ≤ 2 := by decide
  have hword : Decimal.Range.i32.contains 2 = true := rfl
  obtain ⟨next, doing, hw⟩ := reaches_atCount
  exact ⟨hb, hword, next, doing, hw, attempts_within_budget hb hword hw⟩

end Outbox.Site

end SignIn
