import SignIn.Proofs.Backlog
import SignIn.Proofs.Courses
import SignIn.Proofs.DeliveryCounts

/-!
# The accounts of a batch

The report of a batch is made from the outcomes of its events, and the table changes
with the calls that record them. Here the two are compared. Each event is handled by
one record at most, so what a batch makes of the table is the sum of what its events
make of their rows.

A call of the table does its work or it fails, and if it fails nothing has changed.
The queue may answer as it likes, and a stop may be asked for and taken back at any
time.
-/
namespace SignIn.Outbox

/-- The table has no answer for the call, or an error. -/
def Call.fails : (c : Call) → Answer c → Prop
  | .findPending .., some (.ok _) => False
  | .findPending .., _ => True
  | c, answer => c.errs answer = true

/-- Every call of the table does its work and says so, or it fails and changes nothing. -/
def sound : Conduct Call Answer Table := fun c t answer t' =>
  faultless c t answer t' ∨ (c.fails answer ∧ t' = t)

/-- What is written down of the calls of a batch. A fetch that is not answered has no error. -/
inductive Entry where
  | fetched (events : List OutboxEvent)
  | unfetched (error : Option OutboxError)
  | recorded (id : Uuid)
  | unrecorded (id : Uuid)
  | panicked (panic : Panic)

namespace Entry

def ofRecord (id : Uuid) {α : Type} : Except OutboxError α → Entry
  | .ok _ => .recorded id
  | .error _ => .unrecorded id

/-- The row whose outcome was to be recorded. -/
def id? : Entry → Option Uuid
  | recorded id | unrecorded id => some id
  | _ => none

def isUnrecorded : Entry → Bool
  | unrecorded _ => true
  | _ => false

end Entry

/-- The entries for a call. -/
def entries : (c : Call) → Answer c → List Entry
  | .findPending .., some (.ok events) => [.fetched events]
  | .findPending .., some (.error error) => [.unfetched (some error)]
  | .findPending .., none => [.unfetched none]
  | .markSuccess id, answer => [.ofRecord id answer]
  | .markFailed id _, answer => [.ofRecord id answer]
  | .recordFailure id .., .ok _ => [.recorded id]
  | .recordFailure id .., .failed _ => [.unrecorded id]
  | .recordFailure .., .panicked panic => [.panicked panic]
  | _, _ => []

variable {p : Processor} {e : OutboxEvent} {t t' : Table}

theorem exists_sound (c : Call) (t : Table) : ∃ answer t', sound c t answer t' := by
  obtain ⟨answer, t', h⟩ := exists_faultless c t
  exact ⟨answer, t', .inl h⟩

/-! ## Outcomes and rows -/

/-- The counter that an outcome is about. -/
def EventOutcome.counter : EventOutcome → Counter
  | .delivered => .delivered
  | .retrying => .retried
  | .failed => .failed

/-- The change is the one that the outcome is about. -/
structure EventOutcome.Marks (outcome : EventOutcome) (row : OutboxEvent)
    (change : OutboxEvent → OutboxEvent) : Prop where
  same : ∀ e : OutboxEvent, e.SameEvent (change e)
  turns : ∀ counter, Table.turns counter row (change row) = decide (outcome.counter = counter)

theorem marks_settled_success (hp : e.status = .pending) (lastError : Option String) (now : Int) :
    EventOutcome.delivered.Marks e (Table.settled .success lastError now) := by
  refine ⟨fun _ => ⟨rfl, rfl, rfl, rfl⟩, fun counter => ?_⟩
  cases counter <;> simp [Table.turns, Table.settled, EventOutcome.counter, hp]

theorem marks_settled_failed (hp : e.status = .pending) (lastError : Option String) (now : Int) :
    EventOutcome.failed.Marks e (Table.settled .failed lastError now) := by
  refine ⟨fun _ => ⟨rfl, rfl, rfl, rfl⟩, fun counter => ?_⟩
  cases counter <;> simp [Table.turns, Table.settled, EventOutcome.counter, hp]

theorem marks_attempted (hp : e.status = .pending) (maxAttempts : Int) (error : String)
    (now : Int) :
    (EventOutcome.ofStatus (Table.statusAfter maxAttempts e)).Marks e
      (Table.attempted maxAttempts error now) := by
  refine ⟨fun _ => ⟨rfl, rfl, rfl, rfl⟩, fun counter => Bool.eq_iff_iff.mpr ?_⟩
  rw [Table.turns_attempted hp]
  rcases Table.statusAfter_eq maxAttempts e with h | h
  · cases counter <;> simp [h, EventOutcome.ofStatus, EventOutcome.counter]
  · cases counter <;> simp [h, EventOutcome.ofStatus, EventOutcome.counter]

/-! ## One event -/

/-- What becomes of the row of an event, and what is written down. -/
inductive Fate (e : OutboxEvent) (t : Table) :
    Outcome OutboxError EventOutcome → List Entry → Table → Prop where
  | recorded {outcome : EventOutcome} {change : OutboxEvent → OutboxEvent} :
      outcome.Marks e change →
      Fate e t (.ok outcome) [.recorded e.id] (Table.updatePending e.id change t)
  | unrecorded (error : OutboxError) : Fate e t (.failed error) [.unrecorded e.id] t
  | broken (panic : Panic) : Fate e t (.panicked panic) [.panicked panic] t
  | overflow : Decimal.Range.i32.contains (e.attempts + 1) = false →
      Fate e t (.panicked .addOverflow) [] t

theorem Fate.of_ok {outcome : EventOutcome} {log : List Entry} (h : Fate e t (.ok outcome) log t') :
    ∃ change, outcome.Marks e change ∧ t' = Table.updatePending e.id change t ∧
      log = [.recorded e.id] := by
  cases h with
  | recorded hmarks => exact ⟨_, hmarks, rfl, rfl⟩

theorem Fate.of_failed {error : OutboxError} {log : List Entry}
    (h : Fate e t (.failed error) log t') : t' = t ∧ log = [.unrecorded e.id] := by
  cases h with
  | unrecorded => exact ⟨rfl, rfl⟩

variable {s s' : Table × List Entry} {o : Outcome OutboxError EventOutcome}

/-- Only the calls that concern rows leave a trace. -/
theorem eq_of_sound {c : Call} {answer : Answer c} (h : sound.noting entries c s answer s')
    (hc : c.isAside = true ∨ ∃ task options, c = .enqueue task options) : s' = s := by
  obtain ⟨hsound, hnotes⟩ := h
  have htable : s'.1 = s.1 := by
    rcases hsound with hworks | ⟨-, heq⟩
    · rcases hc with hc | ⟨task, options, rfl⟩
      · cases c <;> first | exact hworks | cases hc
      · exact hworks
    · exact heq
  have hquiet : entries c answer = [] := by
    rcases hc with hc | ⟨task, options, rfl⟩
    · cases c <;> first | rfl | cases hc
    · rfl
  exact Prod.ext htable (hnotes.trans (by rw [hquiet, List.append_nil]))

/-- An outcome is recorded at some time, or the call that was to do it has failed. -/
theorem fate_of_record {answer : Except OutboxError Bool} {outcome : EventOutcome}
    {change : Int → OutboxEvent → OutboxEvent} (hmarks : ∀ now, outcome.Marks e (change now))
    (h : (∃ now changed, answer = .ok changed ∧ t' = Table.updatePending e.id (change now) t) ∨
      ∃ error, answer = .error error ∧ t' = t) :
    Fate e t (.ofExcept (answer.map fun _ => outcome)) [.ofRecord e.id answer] t' := by
  rcases h with ⟨now, changed, rfl, rfl⟩ | ⟨error, rfl, rfl⟩
  · exact .recorded (hmarks now)
  · exact .unrecorded error

theorem fate_of_markSuccess {answer : Except OutboxError Bool} (hp : e.status = .pending)
    (h : sound (.markSuccess e.id) t answer t') :
    Fate e t (.ofExcept (answer.map fun _ => .delivered)) [.ofRecord e.id answer] t' := by
  refine fate_of_record (fun now => marks_settled_success hp none now) ?_
  rcases h with ⟨now, rfl, rfl⟩ | ⟨hfails, rfl⟩
  · exact .inl ⟨now, _, rfl, rfl⟩
  · cases answer with
    | ok changed => cases hfails
    | error error => exact .inr ⟨error, rfl, rfl⟩

theorem fate_of_markFailed {answer : Except OutboxError Bool} {reason : String}
    (hp : e.status = .pending) (h : sound (.markFailed e.id reason) t answer t') :
    Fate e t (.ofExcept (answer.map fun _ => .failed)) [.ofRecord e.id answer] t' := by
  refine fate_of_record (fun now => marks_settled_failed hp (some reason) now) ?_
  rcases h with ⟨now, rfl, rfl⟩ | ⟨hfails, rfl⟩
  · exact .inl ⟨now, _, rfl, rfl⟩
  · cases answer with
    | ok changed => cases hfails
    | error error => exact .inr ⟨error, rfl, rfl⟩

theorem fate_of_recordFailure {answer : Outcome OutboxError OutboxStatus} {reason : String}
    {maxAttempts : Int} (hn : (t.map (·.id)).Nodup) (he : e ∈ t) (hp : e.status = .pending)
    (h : sound (.recordFailure e.id reason maxAttempts) t answer t') :
    Fate e t (answer.map .ofStatus) (entries (.recordFailure e.id reason maxAttempts) answer)
      t' := by
  rcases h with ⟨now, rfl, rfl⟩ | ⟨hfails, rfl⟩
  · simp only [Table.recordFailure, Table.pendingRow?_of_mem hn he hp]
    exact .recorded (marks_attempted hp maxAttempts reason now)
  · cases answer with
    | ok status => cases hfails
    | failed error => exact .unrecorded error
    | panicked panic => exact .broken panic

/-- With its row still pending, an event meets one of these fates. -/
theorem fate_of_runs (hn : (s.1.map (·.id)).Nodup) (he : e ∈ s.1) (hp : e.status = .pending)
    (h : Dialogue.Runs (sound.noting entries) (p.processEvent e) s o s') :
    ∃ log, s'.2 = s.2 ++ log ∧ Fate e s.1 o log s'.1 := by
  have hcounts : ∀ {s₁}, Counting (sound.noting entries) s₁ s' → s' = s₁ :=
    fun h => h.eq fun _ _ hc => eq_of_sound hc (.inl rfl)
  cases course_of_runs h with
  | rejected _ hc hcounting =>
    obtain rfl := hcounts hcounting
    exact ⟨_, hc.2, fate_of_markFailed hp hc.1⟩
  | @enqueued _ _ _ s₁ s₂ _ _ _ hnow henqueue hclosing =>
    obtain rfl : s₁ = s := eq_of_sound hnow (.inl rfl)
    obtain rfl : s₂ = s₁ := eq_of_sound henqueue (.inr ⟨_, _, rfl⟩)
    cases hclosing with
    | delivered _ hc hcounting =>
      obtain rfl := hcounts hcounting
      exact ⟨_, hc.2, fate_of_markSuccess hp hc.1⟩
    | refused _ _ hc hcounting =>
      obtain rfl := hcounts hcounting
      exact ⟨_, hc.2, fate_of_markFailed hp hc.1⟩
    | attempted _ _ _ _ hc hcounting =>
      obtain rfl := hcounts hcounting
      exact ⟨_, hc.2, fate_of_recordFailure hn he hp hc.1⟩
    | overflow _ _ _ hword => exact ⟨[], (List.append_nil _).symm, .overflow hword⟩

/-! ## One row after the other -/

namespace Table

theorem Rowwise.of_cons {R : OutboxEvent → OutboxEvent → Prop} {a : OutboxEvent}
    (h : Rowwise R (a :: t) t') : ∃ b rest, t' = b :: rest ∧ R a b ∧ Rowwise R t rest := by
  obtain ⟨b, hb, hab⟩ := h 0 a rfl
  cases t' with
  | nil => cases hb
  | cons b' rest =>
    obtain rfl := Option.some.inj hb
    exact ⟨b', rest, rfl, hab, fun i row hrow => h (i + 1) row hrow⟩

/-- If the row that an update has changed is left alone from then on, its change adds to those of
the other rows. -/
theorem turnCount_of_updatePending {name : String} {change : OutboxEvent → OutboxEvent}
    (hn : (t.map (·.id)).Nodup) (he : e ∈ t) (hp : e.status = .pending) (hname : e.name = name)
    (hsame : e.SameEvent (change e))
    (hkeeps : Rowwise (fun row row' => row.id = e.id → row' = row)
      (updatePending e.id change t) t') (counter : Counter) :
    turnCount name counter t t' = turnCount name counter (updatePending e.id change t) t' +
      if turns counter e (change e) then 1 else 0 := by
  induction t generalizing t' with
  | nil => simp at he
  | cons e₀ rest ih =>
    obtain ⟨hnot, hrest⟩ := List.nodup_cons.mp hn
    by_cases hid : e₀.id = e.id
    · obtain rfl : e₀ = e := eq_of_id_eq hn List.mem_cons_self he hid
      rw [updatePending, if_pos (isPendingId_iff.mpr ⟨rfl, hp⟩)] at hkeeps ⊢
      obtain ⟨e', rest', rfl, hchanged, -⟩ := hkeeps.of_cons
      rw [hchanged hsame.id.symm, turnCount_cons, turnCount_cons, turns_self]
      simp [hname]
    · have hmem : e ∈ rest := (List.mem_cons.mp he).resolve_left fun h => hid (h ▸ rfl)
      rw [updatePending, if_neg fun h => hid (isPendingId_iff.mp h).1] at hkeeps ⊢
      obtain ⟨e', rest', rfl, -, hrest'⟩ := hkeeps.of_cons
      rw [turnCount_cons, turnCount_cons, ih hrest hmem hrest']
      omega

end Table

/-! ## One batch -/

/-- Different pending rows of a name, as they are in the table. -/
structure AtHand (name : String) (events : List OutboxEvent) (t : Table) : Prop where
  unique : (t.map (·.id)).Nodup
  distinct : (events.map (·.id)).Nodup
  stored : ∀ e ∈ events, e ∈ t ∧ e.name = name ∧ e.status = .pending

/-- The result of the event is this outcome. -/
def ended (counter : Counter) : Except OutboxError EventOutcome → Bool
  | .ok outcome => outcome.counter = counter
  | .error _ => false

def erred : Except OutboxError EventOutcome → Bool
  | .ok _ => false
  | .error _ => true

/-- What the results of the first events of a batch, and the log, say of the table before and
after. -/
structure Tally (name : String) (events : List OutboxEvent) (t : Table)
    (results : List (Except OutboxError EventOutcome)) (panic : Option Panic) (log : List Entry)
    (t' : Table) : Prop where
  turned : ∀ counter, Table.turnCount name counter t t' = results.countP (ended counter)
  errored : log.countP Entry.isUnrecorded = results.countP erred
  handled : log.filterMap Entry.id? = (events.take results.length).map (·.id)
  length : t'.length = t.length
  spared : Table.Rowwise
    (fun row row' => row.id ∉ log.filterMap Entry.id? ∨ .unrecorded row.id ∈ log → row' = row) t t'
  broken : ∀ q, panic = some q → .panicked q ∈ log ∨
    q = .addOverflow ∧ ∃ e ∈ events, Decimal.Range.i32.contains (e.attempts + 1) = false

variable {name : String} {events rest : List OutboxEvent} {log : List Entry} {panic : Option Panic}
variable {results : List (Except OutboxError EventOutcome)}

theorem AtHand.ne_of_mem (h : AtHand name (e :: rest) t) {id : Uuid}
    (hid : id ∈ rest.map (·.id)) : id ≠ e.id := by
  rintro rfl
  exact (List.nodup_cons.mp h.distinct).1 hid

theorem AtHand.tail (h : AtHand name (e :: rest) t) : AtHand name rest t :=
  ⟨h.unique, (List.nodup_cons.mp h.distinct).2,
    fun x hx => h.stored x (List.mem_cons_of_mem e hx)⟩

/-- The rows of the other events are as they were. -/
theorem AtHand.update (h : AtHand name (e :: rest) t) {change : OutboxEvent → OutboxEvent}
    (hsame : ∀ row : OutboxEvent, row.SameEvent (change row)) :
    AtHand name rest (Table.updatePending e.id change t) := by
  obtain ⟨he, -, hp⟩ := h.stored e List.mem_cons_self
  have hkeeps : Table.Keeps t (Table.updatePending e.id change t) :=
    Table.forall₂_updatePending .refl (fun row _ _ => hsame row) t
  refine ⟨by rw [hkeeps.map_id]; exact h.unique, h.tail.distinct, fun x hx => ?_⟩
  obtain ⟨hmem, hx'⟩ := h.tail.stored x hx
  have hne : x.id ≠ e.id := h.ne_of_mem (List.mem_map_of_mem hx)
  exact ⟨(Table.replaces_updatePending change h.unique he hp x).mpr (.inr ⟨hmem, hne⟩), hx'⟩

theorem Tally.nil (name : String) (events : List OutboxEvent) (t : Table) :
    Tally name events t [] none [] t where
  turned := by simp
  errored := rfl
  handled := by simp
  length := rfl
  spared := .refl (fun _ _ => rfl) t
  broken := nofun

theorem mem_of_unrecorded {id : Uuid} (hid : .unrecorded id ∈ log) : id ∈ log.filterMap Entry.id? :=
  List.mem_filterMap.mpr ⟨_, hid, rfl⟩

theorem Tally.mem_map_id (h : Tally name events t results panic log t') {id : Uuid}
    (hid : id ∈ log.filterMap Entry.id?) : id ∈ events.map (·.id) := by
  rw [h.handled] at hid
  exact List.map_subset _ (List.take_subset ..) hid

/-- The outcome of the first event is recorded. -/
theorem Tally.recorded {outcome : EventOutcome} {change : OutboxEvent → OutboxEvent}
    (hhand : AtHand name (e :: rest) t) (hmarks : outcome.Marks e change)
    (h : Tally name rest (Table.updatePending e.id change t) results panic log t') :
    Tally name (e :: rest) t (.ok outcome :: results) panic (.recorded e.id :: log) t' := by
  obtain ⟨he, hname, hp⟩ := hhand.stored e List.mem_cons_self
  have hlater : ∀ id ∈ log.filterMap Entry.id?, id ≠ e.id := fun id hid =>
    hhand.ne_of_mem (h.mem_map_id hid)
  constructor
  case turned =>
    intro counter
    have hkeeps : Table.Rowwise (fun row row' => row.id = e.id → row' = row)
        (Table.updatePending e.id change t) t' := by
      intro i row hrow
      obtain ⟨row', hrow', hspared⟩ := h.spared i row hrow
      exact ⟨row', hrow', fun hid => hspared (.inl fun hmem => hlater _ hmem hid)⟩
    rw [Table.turnCount_of_updatePending hhand.unique he hp hname (hmarks.same e) hkeeps, h.turned,
      hmarks.turns, List.countP_cons]
    rfl
  case errored => simpa [Entry.isUnrecorded, erred] using h.errored
  case handled => simpa [Entry.id?] using h.handled
  case length => rw [h.length, Table.length_updatePending]
  case spared =>
    have hothers : Table.Rowwise (fun row row' => row.id ≠ e.id → row' = row) t
        (Table.updatePending e.id change t) :=
      Table.rowwise_updatePending (fun _ _ => rfl) fun _ _ hid _ hne => (hne hid).elim
    intro i row hrow
    obtain ⟨row₁, hrow₁, hfirst⟩ := hothers i row hrow
    obtain ⟨row', hrow', hspared⟩ := h.spared i row₁ hrow₁
    refine ⟨row', hrow', ?_⟩
    rintro (hfree | hfailed)
    · obtain ⟨hne, hrest⟩ : row.id ≠ e.id ∧ row.id ∉ log.filterMap Entry.id? := by
        simpa [Entry.id?] using hfree
      obtain rfl := hfirst hne
      exact hspared (.inl hrest)
    · have hmem : .unrecorded row.id ∈ log := by simpa using hfailed
      obtain rfl := hfirst (hlater _ (mem_of_unrecorded hmem))
      exact hspared (.inr hmem)
  case broken =>
    intro q hq
    rcases h.broken q hq with hmem | ⟨hover, x, hx, hword⟩
    · exact .inl (List.mem_cons_of_mem _ hmem)
    · exact .inr ⟨hover, x, List.mem_cons_of_mem e hx, hword⟩

/-- The record of the first event has failed. -/
theorem Tally.unrecorded (error : OutboxError) (hhand : AtHand name (e :: rest) t)
    (h : Tally name rest t results panic log t') :
    Tally name (e :: rest) t (.error error :: results) panic (.unrecorded e.id :: log) t' := by
  constructor
  case turned => simpa [ended] using h.turned
  case errored => simp [List.countP_cons, Entry.isUnrecorded, erred, h.errored]
  case handled => simpa [Entry.id?] using h.handled
  case length => exact h.length
  case spared =>
    intro i row hrow
    obtain ⟨row', hrow', hspared⟩ := h.spared i row hrow
    refine ⟨row', hrow', ?_⟩
    rintro (hfree | hfailed)
    · obtain ⟨-, hrest⟩ : row.id ≠ e.id ∧ row.id ∉ log.filterMap Entry.id? := by
        simpa [Entry.id?] using hfree
      exact hspared (.inl hrest)
    · obtain hid | hmem : row.id = e.id ∨ .unrecorded row.id ∈ log := by simpa using hfailed
      · exact hspared (.inl fun hmem => hhand.ne_of_mem (h.mem_map_id hmem) hid)
      · exact hspared (.inr hmem)
  case broken =>
    intro q hq
    rcases h.broken q hq with hmem | ⟨hover, x, hx, hword⟩
    · exact .inl (List.mem_cons_of_mem _ hmem)
    · exact .inr ⟨hover, x, List.mem_cons_of_mem e hx, hword⟩

/-- An event that breaks the batch off leaves the rows as they are. -/
theorem Tally.broken_off {q : Panic} (h : Fate e t (.panicked q) log t') :
    Tally name (e :: rest) t [] (some q) log t' := by
  cases h with
  | broken =>
    refine ⟨by simp, rfl, by simp [Entry.id?], rfl, .refl (fun _ _ => rfl) t, ?_⟩
    intro _ hq
    obtain rfl := Option.some.inj hq
    exact .inl (List.mem_singleton_self _)
  | overflow hword =>
    refine ⟨by simp, rfl, by simp, rfl, .refl (fun _ _ => rfl) t, ?_⟩
    intro _ hq
    obtain rfl := Option.some.inj hq
    exact .inr ⟨rfl, e, List.mem_cons_self, hword⟩

theorem eq_of_refreshMetrics {o : Outcome Empty Unit}
    (h : Dialogue.Runs (sound.noting entries) p.refreshMetrics s o s') : o = .ok () ∧ s' = s := by
  obtain ⟨rfl, rfl | ⟨stats, s₁, hstats, hrest⟩⟩ := refreshing_of_runs h
  · exact ⟨rfl, rfl⟩
  · obtain rfl := eq_of_sound hstats (.inl rfl)
    obtain rfl | ⟨pending, age, hgauges⟩ := hrest
    · exact ⟨rfl, rfl⟩
    · exact ⟨rfl, eq_of_sound hgauges (.inl rfl)⟩

variable {gate : Gate}

theorem Gate.eq_of_shows {isSet : Bool} (h : gate.Shows (sound.noting entries) s isSet s') :
    s' = s := by
  cases gate with
  | never => exact h.2
  | signals => exact eq_of_sound h (.inl rfl)
  | deadline time =>
    obtain ⟨now, hc, -⟩ := h
    exact eq_of_sound hc (.inl rfl)

/-- One event after the other, a batch adds up what its events make of their rows. -/
theorem tally_of_passage (hhand : AtHand name events s.1)
    (h : Passage (sound.noting entries) p gate events s results panic s') :
    ∃ log, s'.2 = s.2 ++ log ∧ Tally name events s.1 results panic log s'.1 := by
  induction h with
  | done => exact ⟨[], (List.append_nil _).symm, .nil name _ _⟩
  | stopped hgate =>
    obtain rfl := Gate.eq_of_shows hgate
    exact ⟨[], (List.append_nil _).symm, .nil name _ _⟩
  | broken hgate hevent =>
    obtain rfl := Gate.eq_of_shows hgate
    obtain ⟨he, -, hp⟩ := hhand.stored _ List.mem_cons_self
    obtain ⟨log, hlog, hfate⟩ := fate_of_runs hhand.unique he hp hevent
    exact ⟨log, hlog, .broken_off hfate⟩
  | @next e rest s s₁ s₂ s' result results panic hgate hevent _ ih =>
    obtain rfl := Gate.eq_of_shows hgate
    obtain ⟨he, -, hp⟩ := hhand.stored _ List.mem_cons_self
    obtain ⟨first, hfirst, hfate⟩ := fate_of_runs hhand.unique he hp hevent
    rcases result with error | outcome
    · obtain ⟨heq, rfl⟩ := hfate.of_failed
      obtain ⟨log, hlog, htally⟩ := ih (by rw [heq]; exact hhand.tail)
      refine ⟨.unrecorded e.id :: log, by rw [hlog, hfirst]; simp, ?_⟩
      exact .unrecorded error hhand (heq ▸ htally)
    · obtain ⟨change, hmarks, heq, rfl⟩ := hfate.of_ok
      obtain ⟨log, hlog, htally⟩ := ih (by rw [heq]; exact hhand.update hmarks.same)
      refine ⟨.recorded e.id :: log, by rw [hlog, hfirst]; simp, ?_⟩
      exact .recorded hhand hmarks (heq ▸ htally)

/-! ## The report -/

namespace BatchReport

/-- The number in the report that a counter is about. -/
def of (r : BatchReport) : Counter → Nat
  | .delivered => r.delivered
  | .failed => r.failed
  | .retried => r.retrying

theorem of_add (r : BatchReport) (result : Except OutboxError EventOutcome) (counter : Counter) :
    (r.add result).of counter = r.of counter + if ended counter result then 1 else 0 := by
  rcases result with error | outcome
  · rfl
  · cases outcome <;> cases counter <;> rfl

theorem errored_add (r : BatchReport) (result : Except OutboxError EventOutcome) :
    (r.add result).errored = r.errored + if erred result then 1 else 0 := by
  rcases result with error | outcome
  · rfl
  · cases outcome <;> rfl

theorem fetched_add (r : BatchReport) (result : Except OutboxError EventOutcome) :
    (r.add result).fetched = r.fetched := by
  rcases result with error | outcome
  · rfl
  · cases outcome <;> rfl

theorem of_closed (r : BatchReport) (n : Nat) (results : List (Except OutboxError EventOutcome))
    (counter : Counter) :
    (r.closed n results).of counter = r.of counter + results.countP (ended counter) := by
  have hfold :
      (results.foldl add r).of counter = r.of counter + results.countP (ended counter) := by
    induction results generalizing r with
    | nil => rfl
    | cons result rest ih =>
      rw [List.foldl_cons, ih, of_add, List.countP_cons]
      omega
  cases counter <;> exact hfold

theorem errored_closed (r : BatchReport) (n : Nat)
    (results : List (Except OutboxError EventOutcome)) :
    (r.closed n results).errored = r.errored + results.countP erred := by
  change (results.foldl add r).errored = _
  induction results generalizing r with
  | nil => rfl
  | cons result rest ih =>
    rw [List.foldl_cons, ih, errored_add, List.countP_cons]
    omega

theorem fetched_closed (r : BatchReport) (n : Nat)
    (results : List (Except OutboxError EventOutcome)) :
    (r.closed n results).fetched = r.fetched := by
  change (results.foldl add r).fetched = _
  induction results generalizing r with
  | nil => rfl
  | cons result rest ih => rw [List.foldl_cons, ih, fetched_add]

end BatchReport

/-- Every result is an outcome of some kind, or an error. -/
theorem length_results (results : List (Except OutboxError EventOutcome)) :
    results.length = results.countP (ended .delivered) + results.countP (ended .retried) +
      results.countP (ended .failed) + results.countP erred := by
  induction results with
  | nil => rfl
  | cons result rest ih =>
    rw [List.length_cons, ih]
    rcases result with error | outcome
    · simp only [List.countP_cons, ended, erred, Bool.false_eq_true, if_false, if_true]
      omega
    · cases outcome <;> simp [ended, erred, EventOutcome.counter] <;> omega

namespace Table

/-- How many rows make the change that a counter is about. -/
def turned (counter : Counter) (t t' : Table) : Nat :=
  (t.zip t').countP fun rows => turns counter rows.1 rows.2

/-- The rows of other names add nothing if they stay as they are. -/
theorem LeavesOthers.turned_eq (h : t.LeavesOthers name t') (counter : Counter) :
    turned counter t t' = turnCount name counter t t' := by
  refine List.countP_congr ?_
  rintro ⟨e, e'⟩ hmem
  obtain ⟨i, hi⟩ := List.mem_iff_getElem?.mp hmem
  obtain ⟨he, he'⟩ := List.getElem?_zip_eq_some.mp hi
  obtain ⟨e₁, he₁, hsame⟩ := h i e he
  obtain rfl : e₁ = e' := Option.some.inj (he₁.symm.trans he')
  by_cases hname : e.name = name
  · simp [hname]
  · simp [hsame hname]

end Table

/-- A report accounts for what a batch with these events has made of the table. -/
structure Accounts (events : List OutboxEvent) (t : Table) (log : List Entry) (report : BatchReport)
    (t' : Table) : Prop where
  fetched : report.fetched = events.length
  total : report.fetched =
    report.delivered + report.retrying + report.failed + report.errored + report.skipped
  delivered : report.delivered = Table.turned .delivered t t'
  failed : report.failed = Table.turned .failed t t'
  retrying : report.retrying = Table.turned .retried t t'
  errored : report.errored = log.countP Entry.isUnrecorded
  handled : log.filterMap Entry.id? =
    (events.take (report.fetched - report.skipped)).map (·.id)
  length : t'.length = t.length
  unchanged : Table.Rowwise (fun row row' =>
    row ∉ events.take (report.fetched - report.skipped) ∨ .unrecorded row.id ∈ log →
      row' = row) t t'

theorem Tally.leavesOthers (h : Tally name events t results panic log t')
    (hhand : AtHand name events t) : t.LeavesOthers name t' := by
  intro i row hrow
  obtain ⟨row', hrow', hspared⟩ := h.spared i row hrow
  refine ⟨row', hrow', fun hname => hspared (.inl fun hmem => hname ?_)⟩
  obtain ⟨e, he, hid⟩ := List.mem_map.mp (h.mem_map_id hmem)
  obtain ⟨hstored, hname', -⟩ := hhand.stored e he
  obtain rfl := Table.eq_of_id_eq hhand.unique hstored (List.mem_of_getElem? hrow) hid
  exact hname'

/-- Only the rows of the first events may have changed, and none whose record has failed. -/
theorem Tally.unchanged (h : Tally name events t results panic log t')
    (hhand : AtHand name events t) :
    Table.Rowwise (fun row row' => row ∉ events.take results.length ∨ .unrecorded row.id ∈ log →
      row' = row) t t' := by
  intro i row hrow
  obtain ⟨row', hrow', hspared⟩ := h.spared i row hrow
  refine ⟨row', hrow', ?_⟩
  rintro (hnot | hfailed)
  · refine hspared (.inl fun hmem => hnot ?_)
    rw [h.handled] at hmem
    obtain ⟨e, he, hid⟩ := List.mem_map.mp hmem
    obtain ⟨hstored, -⟩ := hhand.stored e (List.mem_of_mem_take he)
    rwa [← Table.eq_of_id_eq hhand.unique hstored (List.mem_of_getElem? hrow) hid]
  · exact hspared (.inr hfailed)

theorem Tally.accounts (h : Tally name events t results panic log t')
    (hhand : AtHand name events t) (hle : results.length ≤ events.length) :
    Accounts events t log (BatchReport.closed { fetched := events.length } events.length results)
      t' := by
  have hcount : ∀ counter, Table.turned counter t t' = results.countP (ended counter) :=
    fun counter => ((h.leavesOthers hhand).turned_eq counter).trans (h.turned counter)
  have hof := BatchReport.of_closed { fetched := events.length } events.length results
  have herrored := BatchReport.errored_closed { fetched := events.length } events.length results
  have hfetched := BatchReport.fetched_closed { fetched := events.length } events.length results
  have hdelivered := hof .delivered
  have hfailed := hof .failed
  have hretried := hof .retried
  simp only [BatchReport.of, Nat.zero_add] at hdelivered hfailed hretried herrored hfetched
  have hskipped : (BatchReport.closed { fetched := events.length } events.length results).skipped =
      events.length - results.length := rfl
  have hlength := length_results results
  have htake : (BatchReport.closed { fetched := events.length } events.length results).fetched -
      (BatchReport.closed { fetched := events.length } events.length results).skipped =
      results.length := by omega
  refine ⟨hfetched, by omega, by rw [hdelivered, hcount], by rw [hfailed, hcount],
    by rw [hretried, hcount], by rw [herrored, h.errored], by rw [htake, h.handled], h.length, ?_⟩
  rw [htake]
  exact h.unchanged hhand

theorem AtHand.findPending (ht : (t.map (·.id)).Nodup) (name : String) (limit : Nat) :
    AtHand name (t.findPending name limit) t :=
  ⟨ht, Table.nodup_findPending ht name limit, fun _ he => Table.mem_of_mem_findPending he⟩

variable {limit : Nat} {deadline : Option Nat}

theorem unfetched_of_sound {found : Answer (.findPending name limit deadline)}
    (h : sound.noting entries (.findPending name limit deadline) (t, []) found s')
    (hnone : ∀ events, found ≠ some (.ok events)) :
    ∃ error, s'.2 = [.unfetched error] ∧ (error = none ↔ found = none) ∧ s'.1 = t := by
  obtain ⟨⟨rfl, -⟩ | ⟨-, hsame⟩, hnote⟩ := h
  · exact (hnone _ rfl).elim
  · rcases found with _ | error | events
    · exact ⟨none, hnote, by simp, hsame⟩
    · exact ⟨some error, hnote, by simp, hsame⟩
    · exact (hnone events rfl).elim

theorem fetched_of_sound
    (h : sound.noting entries (.findPending name limit deadline) (t, []) (some (.ok events)) s') :
    events = t.findPending name limit ∧ s'.2 = [.fetched events] ∧ s'.1 = t := by
  obtain ⟨⟨hfound, hsame⟩ | ⟨hfails, -⟩, hnote⟩ := h
  · exact ⟨Except.ok.inj (Option.some.inj hfound), hnote, hsame⟩
  · cases hfails

/-- A batch that fetches nothing does nothing, and any other one ends with a report that accounts
for the change of the table, unless it is broken off. What breaks it off is a table that panics, or
the number of an attempt that does not fit into its word. -/
theorem batch_accounts (p : Processor) (gate : Gate) (ht : (t.map (·.id)).Nodup) :
    (∃ o s', Dialogue.Runs (sound.noting entries) (p.processBatch gate) (t, []) o s') ∧
    ∀ o t' log, Dialogue.Runs (sound.noting entries) (p.processBatch gate) (t, []) o (t', log) →
      (∃ error, log = [.unfetched error] ∧ o = .ok {} ∧ t' = t) ∨
      ∃ events records, events = t.findPending p.config.eventName p.config.batchSize ∧
        log = .fetched events :: records ∧
        ((∃ report, o = .ok report ∧ Accounts events t records report t') ∨
          ∃ reason, o = .panicked reason ∧ (.panicked reason ∈ records ∨
            reason = .addOverflow ∧
              ∃ e ∈ events, Decimal.Range.i32.contains (e.attempts + 1) = false)) := by
  constructor
  · obtain ⟨o, t', hr⟩ := Dialogue.exists_runs exists_sound (p.processBatch gate) t
    obtain ⟨log, hr⟩ := hr.noting entries []
    exact ⟨o, (t', log), hr⟩
  intro o t' log hr
  obtain ⟨found, s₁, hfetch, hrest⟩ := passage_of_processBatch hr
  rcases hrest with ⟨hnone, rfl, rfl⟩ | ⟨events, results, panic, rfl, hpassage, rfl⟩
  · obtain ⟨error, hlog, -, ht'⟩ := unfetched_of_sound hfetch hnone
    exact .inl ⟨error, hlog, rfl, ht'⟩
  · obtain ⟨hevents, hnote, hsame⟩ := fetched_of_sound hfetch
    have hhand : AtHand p.config.eventName events s₁.1 := by
      rw [hevents, hsame]
      exact .findPending ht _ _
    obtain ⟨records, hrecords, htally⟩ := tally_of_passage hhand hpassage
    refine .inr ⟨events, records, hevents, hrecords.trans (by rw [hnote]; rfl), ?_⟩
    rw [hsame] at hhand htally
    cases panic with
    | none => exact .inl ⟨_, rfl, htally.accounts hhand hpassage.length_le⟩
    | some reason => exact .inr ⟨reason, rfl, htally.broken reason rfl⟩

/-! ### Two rows, and a stop between them -/

/-- A worker for logins. -/
def clerk : Processor := ⟨{ eventName := "login" }, Site.plainBuilder, false⟩

theorem findPending_twoRows :
    Processor.twoRows.findPending "login" 1000 = Processor.twoRows := by
  simp [Table.findPending, Table.isPendingOf, Processor.twoRows, Site.plainRow, List.mergeSort,
    Table.notAfter, List.MergeSort.Internal.splitInTwo]

/-- The first of two rows is delivered, and then a stop is asked for. -/
theorem batch_accounts_stopped :
    (Processor.twoRows.map (·.id)).Nodup ∧
    ∃ t' records, Dialogue.Runs (sound.noting entries) (clerk.processBatch .signals)
        (Processor.twoRows, []) (.ok { fetched := 2, delivered := 1, skipped := 1 })
        (t', .fetched Processor.twoRows :: records) ∧
      Accounts Processor.twoRows Processor.twoRows records
        { fetched := 2, delivered := 1, skipped := 1 } t' := by
  have hunique : (Processor.twoRows.map (·.id)).Nodup := by decide
  have hrun : Dialogue.Runs (sound.noting entries) (clerk.processBatch .signals)
      (Processor.twoRows, []) (.ok { fetched := 2, delivered := 1, skipped := 1 })
      ((Processor.twoRows.markSuccess 0 .nil).2,
        [.fetched Processor.twoRows, .recorded .nil]) := by
    refine ⟨some (.ok Processor.twoRows), (_, [.fetched Processor.twoRows]),
      ⟨.inl ⟨congrArg (fun events => some (Except.ok events)) findPending_twoRows.symm, rfl⟩, rfl⟩,
      ?_⟩
    refine ⟨false, (_, _), ⟨.inl rfl, rfl⟩, (0 : Int), (_, _), ⟨.inl rfl, rfl⟩, ?_⟩
    refine ⟨.ok ⟨"", ""⟩, (_, _), ⟨.inl rfl, rfl⟩, .ok true, (_, _), ⟨.inl ⟨0, rfl, rfl⟩, rfl⟩, ?_⟩
    exact ⟨true, (_, _), ⟨.inl rfl, rfl⟩, rfl, rfl⟩
  obtain ⟨error, hlog, -⟩ | ⟨events, records, -, hlog, ⟨report, ho, haccounts⟩ | ⟨reason, ho, -⟩⟩ :=
    (batch_accounts clerk .signals hunique).2 _ _ _ hrun
  · cases hlog
  · obtain ⟨hevents, rfl⟩ := List.cons.inj hlog
    obtain rfl := Entry.fetched.inj hevents
    obtain rfl := Outcome.ok.inj ho
    exact ⟨hunique, _, _, hrun, haccounts⟩
  · cases ho

/-- A row that was tried as often as a word can tell. -/
def wornRow : OutboxEvent := { Site.plainRow .pending with attempts := 2147483647 }

/-- A batch can be broken off by the number of an attempt, and then there is no report. -/
theorem exists_batch_without_report :
    ([wornRow].map (·.id)).Nodup ∧
    Dialogue.Runs (sound.noting entries) (clerk.processBatch .never) ([wornRow], [])
      (.panicked .addOverflow) ([wornRow], [.fetched [wornRow]]) := by
  have hfound : Table.findPending [wornRow] "login" 1000 = [wornRow] := by
    simp [Table.findPending, Table.isPendingOf, wornRow, Site.plainRow]
  refine ⟨by decide, some (.ok [wornRow]), (_, [.fetched [wornRow]]),
    ⟨.inl ⟨congrArg (fun events => some (Except.ok events)) hfound.symm, rfl⟩, rfl⟩, ?_⟩
  refine ⟨(0 : Int), (_, _), ⟨.inl rfl, rfl⟩, .error (.enqueueFailed "queue is down"), (_, _),
    ⟨.inl rfl, rfl⟩, ?_⟩
  exact ⟨rfl, rfl⟩

end SignIn.Outbox
