import SignIn.Proofs.SharedDelivery

/-!
# Rows that only move forward

Workers of several names share one table. They act on copies of rows that may be
stale, and nothing is known of the queue. The table itself sees to it that a row
that is no longer pending stays as it is: every update looks for a pending row. That
a worker leaves the rows of other names alone is up to the worker: it settles only
ids that it has read in rows of its own name, and an id never changes its row.
-/
namespace SignIn

/-- A row and what it may become: the same event, and the same row if it is settled already. -/
structure OutboxEvent.Advances (a b : OutboxEvent) : Prop where
  same : a.SameEvent b
  settled : a.status.isTerminal = true → b = a

namespace OutboxEvent.Advances

theorem refl (a : OutboxEvent) : a.Advances a := ⟨.refl a, fun _ => rfl⟩

theorem trans {a b c : OutboxEvent} (h : a.Advances b) (h' : b.Advances c) : a.Advances c := by
  refine ⟨h.same.trans h'.same, fun ha => ?_⟩
  obtain rfl := h.settled ha
  exact h'.settled ha

/-- A pending row may become anything that is the same event. -/
theorem of_pending {a b : OutboxEvent} (hp : a.status = .pending) (h : a.SameEvent b) :
    a.Advances b := by
  refine ⟨h, fun hterminal => ?_⟩
  rw [hp] at hterminal
  exact (Bool.false_ne_true hterminal).elim

end OutboxEvent.Advances

namespace Outbox.Table

/-- Every row keeps its place and becomes what a relation allows, and other rows may follow. -/
def Rowwise (R : OutboxEvent → OutboxEvent → Prop) (t t' : Table) : Prop :=
  ∀ (i : Nat) (row : OutboxEvent), t[i]? = some row → ∃ row', t'[i]? = some row' ∧ R row row'

/-- No row disappears, and every row moves forward only. -/
abbrev Advances (t t' : Table) : Prop := Rowwise OutboxEvent.Advances t t'

/-- The rows of other names stay as they are. -/
abbrev LeavesOthers (name : String) (t t' : Table) : Prop :=
  Rowwise (fun row row' => row.name ≠ name → row' = row) t t'

variable {R : OutboxEvent → OutboxEvent → Prop}

theorem Rowwise.refl (hR : ∀ e, R e e) (t : Table) : Rowwise R t t :=
  fun _ row h => ⟨row, h, hR row⟩

theorem Rowwise.append (hR : ∀ e, R e e) (t new : Table) : Rowwise R t (t ++ new) := by
  intro i row h
  obtain ⟨hi, -⟩ := List.getElem?_eq_some_iff.mp h
  exact ⟨row, by rw [List.getElem?_append_left hi, h], hR row⟩

/-- The row that is changed has to be related to its change, and the others to themselves. -/
theorem rowwise_updatePending (hR : ∀ e, R e e) {id : Uuid} {change : OutboxEvent → OutboxEvent}
    {t : Table} (hc : ∀ e ∈ t, e.id = id → e.status = .pending → R e (change e)) :
    Rowwise R t (updatePending id change t) := by
  induction t with
  | nil => exact .refl hR []
  | cons e rest ih =>
    simp only [updatePending]
    split
    · rename_i hp
      obtain ⟨hid, hpending⟩ := isPendingId_iff.mp hp
      rintro (_ | i) row h
      · obtain rfl : e = row := by simpa using h
        exact ⟨change e, rfl, hc e List.mem_cons_self hid hpending⟩
      · exact ⟨row, h, hR row⟩
    · have hrest := ih fun x hx => hc x (List.mem_cons_of_mem e hx)
      rintro (_ | i) row h
      · exact ⟨row, h, hR row⟩
      · exact hrest i row h

theorem Advances.refl (t : Table) : t.Advances t := Rowwise.refl .refl t

theorem Advances.trans {a b c : Table} (h : a.Advances b) (h' : b.Advances c) : a.Advances c := by
  intro i row hrow
  obtain ⟨row', hrow', hadv⟩ := h i row hrow
  obtain ⟨row'', hrow'', hadv'⟩ := h' i row' hrow'
  exact ⟨row'', hrow'', hadv.trans hadv'⟩

theorem Advances.exists_of_mem {t t' : Table} (h : t.Advances t') {row : OutboxEvent}
    (hrow : row ∈ t) : ∃ row' ∈ t', row.SameEvent row' := by
  obtain ⟨i, hi⟩ := List.mem_iff_getElem?.mp hrow
  obtain ⟨row', hrow', hadv⟩ := h i row hi
  exact ⟨row', List.mem_of_getElem? hrow', hadv.same⟩

end Outbox.Table

namespace Outbox.Site

/-! ## Every step moves the rows forward -/

theorem advances_of_conduct {queue : QueueConduct} {c : Call} {w w' : Site} {answer : Answer c}
    (h : conduct queue c w answer w') : w.table.Advances w'.table := by
  rcases table_of_conduct h with heq | ⟨id, change, hw, heq⟩
  · rw [heq]
    exact .refl w.table
  · rw [heq]
    exact Table.rowwise_updatePending .refl fun e _ _ hp => .of_pending hp (hw.sameEvent e)

theorem Joins.advances {admits : OutboxEvent → Prop} {w w' : Site} (h : Joins admits w w') :
    w.table.Advances w'.table := by
  rcases h with heq | ⟨row, -, -, heq⟩
  · rw [heq]
    exact .refl w.table
  · rw [heq]
    exact .append .refl w.table [row]

variable {ι ν : Type} {queue : QueueConduct} {config : ν → Config} {builder : ν → Builder}

/-- Workers whose calls tell for which of several configurations they act. -/
def crewPlant (queue : QueueConduct) (config : ν → Config) (builder : ν → Builder) :
    Plant (ν × Call) (fun q => Answer q.2) Site where
  conduct := fun q => conduct queue q.2
  outside := Joins fun _ => True
  programs := {d | ∃ who, ∃ d₀ ∈ programs (config who) (builder who), d = d₀.signed who}

section Steps

variable [DecidableEq ι] {w w' : Workers ι (ν × Call) (fun q => Answer q.2) Site}

theorem advances_of_step (h : Workers.Step (crewPlant queue config builder) w w') :
    w.state.table.Advances w'.state.table := by
  cases h with
  | answer k hq hc => exact advances_of_conduct hc
  | begin k hq hd => exact .refl _
  | outside ho => exact Joins.advances ho

theorem advances_of_reaches (h : Workers.Reaches (crewPlant queue config builder) w w') :
    w.state.table.Advances w'.state.table := by
  induction h with
  | refl => exact .refl _
  | tail _ hs ih => exact ih.trans (advances_of_step hs)

end Steps

/-! ## Workers settle rows of their own name -/

/-- A call settles no row of another name. -/
def Own (config : Config) : Call → Site → Prop
  | .markSuccess id, w | .markFailed id _, w | .recordFailure id .., w =>
    ∀ row ∈ w.table, row.id = id → row.name = config.eventName
  | _, _ => True

theorem Own.leavesOthers {config : Config} {c : Call} {w w' : Site} {answer : Answer c}
    (hown : Own config c w) (hc : conduct queue c w answer w') :
    w.table.LeavesOthers config.eventName w'.table := by
  rcases table_of_conduct hc with heq | ⟨id, change, hw, heq⟩
  · rw [heq]
    exact .refl (fun _ _ => rfl) w.table
  · rw [heq]
    refine Table.rowwise_updatePending (fun _ _ => rfl) fun e he hid _ hname => ?_
    -- the row that changes has the id of the call, so it is not one of the others
    cases hw with
    | success => exact (hname (hown e he hid)).elim
    | failure => exact (hname (hown e he hid)).elim
    | attempt => exact (hname (hown e he hid)).elim

/-- What a worker may count on while others are at work. -/
def Persists (w w' : Site) : Prop := UniqueIds w' ∧ w.table.Advances w'.table

theorem Persists.of_conduct {c : Call} {w w' : Site} {answer : Answer c} (hw : UniqueIds w)
    (h : conduct queue c w answer w') : Persists w w' :=
  ⟨uniqueIds_of_conduct hw h, advances_of_conduct h⟩

theorem Persists.of_joins {admits : OutboxEvent → Prop} {w w' : Site} (hw : UniqueIds w)
    (h : Joins admits w w') : Persists w w' :=
  ⟨h.uniqueIds hw, h.advances⟩

theorem KnownAll.persists {config : Config} {events : List OutboxEvent} {w w' : Site}
    (h : KnownAll config events w) (hp : Persists w w') : KnownAll config events w' :=
  fun e he => (h e he).of_rows fun _ => hp.2.exists_of_mem

/-- An event that was fetched has the only row with its id, and the row has the name that was
asked for. -/
theorem Known.name_of_id {config : Config} {e : OutboxEvent} {w : Site} (h : Known config e w)
    (hw : UniqueIds w) : ∀ row ∈ w.table, row.id = e.id → row.name = config.eventName := by
  intro row hrow hid
  obtain ⟨known, hknown, hsame, hname⟩ := h
  obtain rfl := Table.eq_of_id_eq hw hrow hknown (hid.trans hsame.id.symm)
  exact hname

def ownTerms (config : Config) : Terms Call Site := ⟨Persists, Own config⟩

/-- A call that concerns only rows of events that are known. -/
theorem put_own {config : Config} {c : Call} {events : List OutboxEvent} {w : Site}
    (hk : KnownAll config events w)
    (hp : ∀ w₁, UniqueIds w₁ → KnownAll config events w₁ → Own config c w₁) :
    (ownTerms config).Put (conduct queue) c w fun _ w' => KnownAll config events w' := by
  intro w₁ hw₁
  have hk₁ := hk.persists hw₁
  exact ⟨hp w₁ hw₁.1 hk₁, fun answer w₂ hc => hk₁.persists (.of_conduct hw₁.1 hc)⟩

/-- Settle the first of the events that are still to be handled. -/
theorem put_settle {config : Config} {c : Call} {e : OutboxEvent} {rest : List OutboxEvent}
    {w : Site} (hk : KnownAll config (e :: rest) w)
    (hc : ∀ w₁, (∀ row ∈ w₁.table, row.id = e.id → row.name = config.eventName) → Own config c w₁) :
    (ownTerms config).Put (conduct queue) c w fun _ w' => KnownAll config rest w' := by
  have hput : (ownTerms config).Put (conduct queue) c w fun _ w' =>
      KnownAll config (e :: rest) w' :=
    put_own hk fun w₁ hw₁ hk₁ => hc w₁ ((hk₁ e List.mem_cons_self).name_of_id hw₁)
  intro w₁ hw₁
  obtain ⟨hp, hnext⟩ := hput w₁ hw₁
  exact ⟨hp, fun answer w₂ h x hx => hnext answer w₂ h x (List.mem_cons_of_mem e hx)⟩

/-- Every id that a worker settles is that of an event it has fetched. -/
theorem handling_own (queue : QueueConduct) (config : Config) (builder : Builder) :
    Handling config builder (conduct queue) (ownTerms config) (fun _ => True) (KnownAll config)
      (fun e rest => KnownAll config (e :: rest)) (fun e rest => KnownAll config (e :: rest)) where
  aside := by
    intro c hc w w₁ hw₁
    have hp : Own config c w₁ := by cases c <;> trivial
    exact ⟨hp, fun answer w₂ ha => .of_conduct hw₁.1 ha⟩
  ready_drift := fun _ _ _ _ => trivial
  batch_drift := fun _ _ _ hk hp => hk.persists hp
  leave := fun _ _ _ => trivial
  giveUp := fun _ _ _ _ => trivial
  fetch := by
    intro w deadline _ w₁ hw₁
    refine ⟨trivial, fun answer w₂ ⟨hfound, hw₂⟩ => ?_⟩
    rcases answer with _ | error | events
    · trivial
    · trivial
    · rw [hfound events rfl, hw₂]
      exact knownAll_findPending config w₁ _
  reject := fun _ _ _ _ hk _ => put_settle hk fun _ h => h
  enqueue := by
    intro e rest w make now hk _ w₁ hw₁
    have hput : (ownTerms config).Put (conduct queue)
        (.enqueue (make now) ⟨some e.id.text, config.maxRetry, config.queue⟩) w
        fun _ w' => KnownAll config (e :: rest) w' := put_own hk fun _ _ _ => trivial
    obtain ⟨hp, hnext⟩ := hput w₁ hw₁
    refine ⟨hp, fun answer w₂ hc => ?_⟩
    simpa using hnext answer w₂ hc
  mark := fun _ _ _ hk => put_settle hk fun _ h => h
  abandon := fun _ _ _ _ hk => put_settle hk fun _ h => h
  retry := fun _ _ _ _ hk => put_settle hk fun _ h => h

variable (queue config builder)

/-- What the members of the crew may count on, and which rows each of them may settle. -/
def crewTerms : Terms (ν × Call) Site := ⟨Persists, fun q => Own (config q.1) q.2⟩

theorem crewSuits (ι : Type) :
    Workers.Suits ι (crewPlant queue config builder) (crewTerms config) UniqueIds
      fun _ => True where
  refl := fun w hw => ⟨hw, .refl w.table⟩
  trans := fun _ _ _ h h' => ⟨h'.1, h.2.trans h'.2⟩
  answer := by
    intro q w answer w' hw _ hc
    have hp : Persists w w' := .of_conduct hw hc
    exact ⟨hp.1, fun _ => hp⟩
  outside := by
    intro w w' hw ho
    have hp : Persists w w' := .of_joins hw ho
    exact ⟨hp.1, hp⟩
  stable := fun _ _ _ _ => trivial
  begins := by
    rintro _ ⟨who, d, hd, rfl⟩ w _ hr
    have hown : d.Secures (conduct queue) (ownTerms (config who)) (fun _ _ => True) w :=
      secures_of_mem_programs (handling_own queue (config who) (builder who)) hd hr
    have hsigned : (d.signed who).Secures (fun q => conduct queue q.2) (crewTerms config)
        (fun _ _ => True) w := (Dialogue.secures_signed who d _ w).mpr hown
    exact hsigned

variable {queue config builder}

/-- Whatever the workers do, in whatever order and whatever fails: every row keeps its place and its
event, and stays as it is once it is settled. And whatever a worker asks for next, however it is
answered: the rows of other names stay as they are. -/
theorem rows_move_forward [DecidableEq ι] {start : Site} (hstart : UniqueIds start)
    {w w' : Workers ι (ν × Call) (fun q => Answer q.2) Site}
    (hw : Workers.Reaches (crewPlant queue config builder) (.idle start) w)
    (hw' : Workers.Reaches (crewPlant queue config builder) w w') :
    w.state.table.Advances w'.state.table ∧
    ∀ k who c next, w.doing k = .ask (who, c) next →
      ∀ answer s, conduct queue c w.state answer s →
        w.state.table.LeavesOthers (config who).eventName s.table := by
  constructor
  · exact advances_of_reaches hw'
  · intro k who c next hask answer s hc
    have hown : Own (config who) c w.state :=
      (crewSuits queue config builder ι).permits_of_reaches hstart trivial hw hask
    exact hown.leavesOthers hc

/-! ### Two names -/

/-- One of the two works for logins, the other one for logouts. -/
def twoNames (login : Bool) : Config := { eventName := if login then "login" else "logout" }

abbrev twoPlant : Plant (Bool × Call) (fun q => Answer q.2) Site :=
  crewPlant Claiming twoNames fun _ => plainBuilder

/-- The row of a logout that was given up. -/
def logoutRow : OutboxEvent := { plainRow .failed with id := ⟨1⟩, name := "logout" }

def twoRows (status : OutboxStatus) : Table := [plainRow status, logoutRow]

/-- The worker for logins has enqueued the task of its row and is about to mark it. -/
def atMark (next : Except OutboxError Bool → Dialogue (Bool × Call) (fun q => Answer q.2) Unit)
    (doing : Bool → Dialogue (Bool × Call) (fun q => Answer q.2) Unit) :
    Workers Bool (Bool × Call) (fun q => Answer q.2) Site :=
  ⟨⟨twoRows .pending, [plainTask]⟩,
    Function.update doing true (.ask (true, .markSuccess .nil) next)⟩

theorem reaches_atMark :
    ∃ next doing,
      Workers.Reaches twoPlant (.idle ⟨twoRows .pending, []⟩) (atMark next doing) := by
  have hfetch : conduct Claiming (.findPending "login" 1000 none) ⟨twoRows .pending, []⟩
      (some (.ok [plainRow .pending])) ⟨twoRows .pending, []⟩ := by
    have hbatch : (twoRows .pending).findPending "login" 1000 = [plainRow .pending] := by
      simp [Table.findPending, Table.isPendingOf, twoRows, plainRow, logoutRow]
    refine ⟨fun events he => ?_, rfl⟩
    rw [hbatch]
    exact (Except.ok.inj (Option.some.inj he)).symm
  have henqueue : conduct Claiming (.enqueue plainTask.task ⟨some plainTask.id, 5, none⟩)
      ⟨twoRows .pending, []⟩ (.ok ⟨plainTask.id, ""⟩) ⟨twoRows .pending, [plainTask]⟩ :=
    ⟨.accepts _ _ (fun given h => Option.some.inj h) (by simp), rfl⟩
  have hpoll : Dialogue.signed true (Dialogue.andThen
      (Processor.pollOnce ⟨twoNames true, plainBuilder, false⟩) fun _ => .done ()) ∈
      twoPlant.programs := ⟨true, _, poll_mem_programs _ _ false, rfl⟩
  have hbegin : Workers.Step twoPlant (.idle ⟨twoRows .pending, []⟩ : Workers Bool _ _ Site)
      ⟨⟨twoRows .pending, []⟩, Function.update (fun _ => .done ()) true _⟩ :=
    .begin true rfl hpoll
  have hfetched := Workers.Reaches.answer (.single hbegin) _ hfetch
  have hwaiting := Workers.Reaches.answer hfetched (0 : Int) rfl
  exact ⟨_, _, Workers.Reaches.answer hwaiting _ henqueue⟩

/-- The mark moves its row forward, and the row of the logout stays as it is. -/
theorem rows_move_forward_mark :
    UniqueIds ⟨twoRows .pending, []⟩ ∧
    ∃ next doing,
      Workers.Reaches twoPlant (.idle ⟨twoRows .pending, []⟩) (atMark next doing) ∧
      (twoRows .pending).Advances (twoRows .success) ∧
      ∀ k who c next', (atMark next doing).doing k = .ask (who, c) next' →
        ∀ answer s, conduct Claiming c (atMark next doing).state answer s →
          (twoRows .pending).LeavesOthers (twoNames who).eventName s.table := by
  have hunique : UniqueIds ⟨twoRows .pending, []⟩ := by decide
  obtain ⟨next, doing, hw⟩ := reaches_atMark
  have hmark : conduct Claiming (.markSuccess .nil) ⟨twoRows .pending, [plainTask]⟩ (.ok true)
      ⟨twoRows .success, [plainTask]⟩ := ⟨.works 0, rfl⟩
  have hw' : Workers.Reaches twoPlant (atMark next doing)
      ⟨⟨twoRows .success, [plainTask]⟩, Function.update doing true (next (.ok true))⟩ :=
    .answer .refl _ hmark
  exact ⟨hunique, next, doing, hw, rows_move_forward hunique hw hw'⟩

end Outbox.Site

end SignIn
