import Mathlib.Algebra.Order.BigOperators.Group.Finset
import SignIn.Proofs.BatchAccounts

/-!
# The grace period

A drain that has noticed a stop has so much time. A fetch that takes longer is given
up. Before each event the clock is read, and an event is begun only if the time is not
over yet. An event that was begun is handled to its end, however long that takes.

The fetch and the events take any time here, known beforehand. An event spends some of
it in the queue, and the rest until its outcome is recorded.
-/
namespace SignIn.Outbox

/-- A table with a clock. So many events were handled, and the one at hand still takes so long. -/
structure Timed where
  table : Table
  time : Nat
  handled : Nat
  left : Nat

/-- How time passes with a call, if a fetch takes this long, and the events these times. -/
def Elapses (fetch : Nat) (takes : Nat → Nat) : (c : Call) → Timed → Answer c → Timed → Prop
  | .clock, s, now, s' =>
    now = s.time ∧ s'.time = s.time ∧ s'.handled = s.handled ∧ s'.left = takes s.handled
  | .findPending _ _ none, s, found, s' =>
    found ≠ none ∧ s'.time = s.time + fetch ∧ s'.handled = s.handled
  | .findPending _ _ (some deadline), s, found, s' =>
    (found = none ↔ deadline < s.time + fetch) ∧ s'.time = min (s.time + fetch) deadline ∧
      s'.handled = s.handled
  | .enqueue .., s, _, s' =>
    ∃ x ≤ s.left, s'.time = s.time + x ∧ s'.handled = s.handled ∧ s'.left = s.left - x
  | .markSuccess _, s, _, s' | .markFailed .., s, _, s' | .recordFailure .., s, _, s' =>
    s'.time = s.time + s.left ∧ s'.handled = s.handled + 1
  | _, s, _, s' => s'.time = s.time ∧ s'.handled = s.handled ∧ s'.left = s.left

/-- The table does its work or fails, and time passes. -/
def timed (fetch : Nat) (takes : Nat → Nat) : Conduct Call Answer Timed := fun c s answer s' =>
  sound c s.table answer s'.table ∧ Elapses fetch takes c s answer s'

variable {fetch : Nat} {takes : Nat → Nat} {p : Processor} {e : OutboxEvent}

theorem exists_timed (fetch : Nat) (takes : Nat → Nat) (c : Call) (s : Timed) :
    ∃ answer s', timed fetch takes c s answer s' := by
  obtain ⟨answer, t', h⟩ := exists_faultless c s.table
  cases c with
  | clock => exact ⟨s.time, ⟨t', s.time, s.handled, takes s.handled⟩, .inl h, rfl, rfl, rfl, rfl⟩
  | findPending name limit deadline =>
    cases deadline with
    | none =>
      refine ⟨answer, ⟨t', s.time + fetch, s.handled, s.left⟩, .inl h, ?_, rfl, rfl⟩
      rw [h.1]
      nofun
    | some deadline =>
      by_cases hlate : deadline < s.time + fetch
      · exact ⟨none, ⟨s.table, min (s.time + fetch) deadline, s.handled, s.left⟩,
          .inr ⟨trivial, rfl⟩, ⟨fun _ => hlate, fun _ => rfl⟩, rfl, rfl⟩
      · refine ⟨answer, ⟨t', min (s.time + fetch) deadline, s.handled, s.left⟩, .inl h,
          ⟨fun hnone => ?_, fun h => (hlate h).elim⟩, rfl, rfl⟩
        rw [h.1] at hnone
        cases hnone
  | enqueue task options =>
    exact ⟨answer, ⟨t', s.time, s.handled, s.left⟩, .inl h, 0, Nat.zero_le _, rfl, rfl, rfl⟩
  | markSuccess id => exact ⟨answer, ⟨t', s.time + s.left, s.handled + 1, 0⟩, .inl h, rfl, rfl⟩
  | markFailed id error =>
    exact ⟨answer, ⟨t', s.time + s.left, s.handled + 1, 0⟩, .inl h, rfl, rfl⟩
  | recordFailure id error maxAttempts =>
    exact ⟨answer, ⟨t', s.time + s.left, s.handled + 1, 0⟩, .inl h, rfl, rfl⟩
  | _ => exact ⟨answer, ⟨t', s.time, s.handled, s.left⟩, .inl h, rfl, rfl, rfl⟩

/-! ## The time of an event -/

variable {s s' : Timed × List Entry} {o : Outcome OutboxError EventOutcome}

theorem time_of_counting (h : Counting ((timed fetch takes).noting entries) s s') :
    s'.1.time = s.1.time ∧ s'.1.handled = s.1.handled := by
  rcases h with rfl | ⟨counter, answer, ⟨-, htime, hhandled, -⟩, -⟩
  · exact ⟨rfl, rfl⟩
  · exact ⟨htime, hhandled⟩

/-- A record takes what is left. -/
theorem time_of_record {s₁ : Timed × List Entry}
    (h : s₁.1.time = s.1.time + s.1.left ∧ s₁.1.handled = s.1.handled + 1)
    (hcounting : Counting ((timed fetch takes).noting entries) s₁ s') :
    s'.1.time = s.1.time + s.1.left ∧ s'.1.handled = s.1.handled + 1 := by
  obtain ⟨htime, hhandled⟩ := time_of_counting hcounting
  rw [htime, hhandled]
  exact h

theorem time_of_closing {reply : Except OutboxError TaskInfo}
    (h : Closing ((timed fetch takes).noting entries) p e reply s o s')
    (ho : ∀ reason, o ≠ .panicked reason) :
    s'.1.time = s.1.time + s.1.left ∧ s'.1.handled = s.1.handled + 1 := by
  cases h with
  | delivered _ hc hcounting => exact time_of_record hc.1.2 hcounting
  | refused _ _ hc hcounting => exact time_of_record hc.1.2 hcounting
  | attempted _ _ _ _ hc hcounting => exact time_of_record hc.1.2 hcounting
  | overflow => exact (ho _ rfl).elim

/-- An event takes the time that is left to it. -/
theorem time_of_runs
    (h : Dialogue.Runs ((timed fetch takes).noting entries) (p.processEvent e) s o s')
    (ho : ∀ reason, o ≠ .panicked reason) :
    s'.1.time = s.1.time + s.1.left ∧ s'.1.handled = s.1.handled + 1 := by
  cases course_of_runs h with
  | rejected _ hc hcounting => exact time_of_record hc.1.2 hcounting
  | enqueued _ hnow henqueue hclosing =>
    obtain ⟨⟨-, hnow, hsame, hleft⟩, -⟩ := hnow
    obtain ⟨⟨-, x, hx, htime, hhandled, hrest⟩, -⟩ := henqueue
    obtain ⟨hend, hcount⟩ := time_of_closing hclosing ho
    omega

/-! ## The cut -/

/-- The time that so many events take together, from one of them on. -/
def elapsed (takes : Nat → Nat) (first count : Nat) : Nat :=
  ∑ i ∈ Finset.range count, takes (first + i)

@[simp] theorem elapsed_zero (takes : Nat → Nat) (first : Nat) : elapsed takes first 0 = 0 := rfl

theorem elapsed_succ (takes : Nat → Nat) (first count : Nat) :
    elapsed takes first (count + 1) = takes first + elapsed takes (first + 1) count := by
  rw [elapsed, Finset.sum_range_succ', elapsed, Nat.add_comm]
  simp only [Nat.add_zero, Nat.add_assoc, Nat.add_comm 1]

theorem elapsed_mono (takes : Nat → Nat) (first : Nat) {i j : Nat} (h : i ≤ j) :
    elapsed takes first i ≤ elapsed takes first j :=
  Finset.sum_le_sum_of_subset (Finset.range_subset_range.mpr h)

variable {deadline : Nat} {events : List OutboxEvent} {panic : Option Panic}
variable {results : List (Except OutboxError EventOutcome)}

/-- Where a batch with a deadline was cut: so many of its events were handled, and the last look at
the clock was after that time. -/
structure CutAt (deadline events handled : Nat) (panic : Option Panic) (look : Nat → Nat) : Prop where
  begun : ∀ i < handled, look i < deadline
  stopped : panic = none → handled < events → deadline ≤ look handled
  broken : panic ≠ none → look handled < deadline

theorem cutAt_of_passage
    (h : Passage ((timed fetch takes).noting entries) p (.deadline deadline) events s results panic
      s') :
    CutAt deadline events.length results.length panic
      fun i => s.1.time + elapsed takes s.1.handled i := by
  induction h with
  | done => exact ⟨nofun, fun _ h => (Nat.lt_irrefl 0 h).elim, fun h => (h rfl).elim⟩
  | stopped hgate =>
    obtain ⟨now, ⟨⟨-, rfl, -⟩, -⟩, hset⟩ := hgate
    refine ⟨nofun, fun _ _ => ?_, fun h => (h rfl).elim⟩
    simpa using hset
  | broken hgate hevent =>
    obtain ⟨now, ⟨⟨-, rfl, -⟩, -⟩, hset⟩ := hgate
    refine ⟨nofun, fun h => ?_, fun _ => ?_⟩
    · cases h
    · simpa using hset
  | @next e rest s s₁ s₂ s' result results panic hgate hevent _ ih =>
    obtain ⟨now, ⟨⟨-, rfl, hclock, hsame, hleft⟩, -⟩, hset⟩ := hgate
    obtain ⟨htime, hhandled⟩ := time_of_runs hevent (Outcome.ofExcept_ne_panicked result)
    have hnow : s.1.time < deadline := by simpa using hset
    have hlook : ∀ i, s₂.1.time + elapsed takes s₂.1.handled i =
        s.1.time + elapsed takes s.1.handled (i + 1) := by
      intro i
      rw [elapsed_succ, htime, hhandled, hclock, hsame, hleft]
      omega
    constructor
    case begun =>
      rintro (_ | i) hi
      · exact hnow
      · rw [← hlook]
        exact ih.begun i (Nat.lt_of_succ_lt_succ hi)
    case stopped =>
      intro hpanic hmore
      rw [List.length_cons, ← hlook]
      exact ih.stopped hpanic (Nat.lt_of_succ_lt_succ hmore)
    case broken =>
      intro hpanic
      rw [List.length_cons, ← hlook]
      exact ih.broken hpanic

/-! ## The drain -/

/-- What a drain has done with these events: the first of them were handled, each begun in time and
its outcome put on record, and nothing else has changed. -/
structure WithinGrace (grace fetch : Nat) (takes : Nat → Nat) (events : List OutboxEvent)
    (t : Table) (records : List Entry) (panic : Option Panic) (handled : Nat) (t' : Table) :
    Prop where
  recorded : records.filterMap Entry.id? = (events.take handled).map (·.id)
  begun : ∀ i < handled, fetch + elapsed takes 0 i < grace
  cut : panic = none → ∀ i < events.length, i < handled ↔ fetch + elapsed takes 0 i < grace
  broken : ∀ reason, panic = some reason → fetch + elapsed takes 0 handled < grace ∧
    (.panicked reason ∈ records ∨ reason = .addOverflow ∧
      ∃ e ∈ events, Decimal.Range.i32.contains (e.attempts + 1) = false)
  length : t'.length = t.length
  unchanged : Table.Rowwise (fun row row' =>
    row ∉ events.take handled ∨ .unrecorded row.id ∈ records → row' = row) t t'

/-- Forget the time. -/
def Timed.untimed (s : Timed × List Entry) : Table × List Entry := (s.1.table, s.2)

theorem sound_of_timed (c : Call) (s : Timed × List Entry) (answer : Answer c)
    (s' : Timed × List Entry) (h : (timed fetch takes).noting entries c s answer s') :
    sound.noting entries c (Timed.untimed s) answer (Timed.untimed s') :=
  ⟨h.1.1, h.2⟩

theorem withinGrace_of_passage {name : String} {noticed grace : Nat} {t : Table}
    (hhand : AtHand name events t) (hs : s.1.table = t) (hhandled : s.1.handled = 0)
    (htime : s.1.time = noticed + fetch)
    (h : Passage ((timed fetch takes).noting entries) p (.deadline (noticed + grace)) events s
      results panic s') :
    ∃ records, s'.2 = s.2 ++ records ∧
      WithinGrace grace fetch takes events t records panic results.length s'.1.table := by
  subst hs
  obtain ⟨records, hrecords, htally⟩ := tally_of_passage hhand (h.map sound_of_timed)
  have hcut := cutAt_of_passage h
  simp only [hhandled, htime] at hcut
  have hbegun : ∀ i < results.length, fetch + elapsed takes 0 i < grace := by
    intro i hi
    have hlook := hcut.begun i hi
    omega
  refine ⟨records, hrecords, htally.handled, hbegun, fun hpanic i hi => ⟨hbegun i, ?_⟩,
    fun reason hpanic => ⟨?_, htally.broken reason hpanic⟩, htally.length, htally.unchanged hhand⟩
  · intro hearly
    by_contra hlate
    have hle : results.length ≤ i := Nat.le_of_not_lt hlate
    have hstopped := hcut.stopped hpanic (by omega)
    have hmono := elapsed_mono takes 0 hle
    omega
  · have hlook := hcut.broken (by rw [hpanic]; nofun)
    omega

/-- A batch with a deadline fetches in time or not at all. -/
theorem batch_within_grace {t : Table} {grace : Nat} {o : Outcome Empty BatchReport}
    (ht : (t.map (·.id)).Nodup) (hs : Timed.untimed s = (t, [])) (hhandled : s.1.handled = 0)
    (h : Dialogue.Runs ((timed fetch takes).noting entries)
      (p.processBatch (.deadline (s.1.time + grace))) s o s') :
    (∃ error, o = .ok {} ∧ s'.2 = [.unfetched error] ∧ (error = none ↔ grace < fetch) ∧
      s'.1.table = t) ∨
    fetch ≤ grace ∧ ∃ report events records panic handled,
      events = t.findPending p.config.eventName p.config.batchSize ∧
      s'.2 = .fetched events :: records ∧ o = .unlessPanic report panic ∧
      WithinGrace grace fetch takes events t records panic handled s'.1.table := by
  obtain ⟨found, s₁, hfetch, hrest⟩ := passage_of_processBatch h
  have hfetched := sound_of_timed _ _ _ _ hfetch
  obtain ⟨⟨-, hlate, htime, hcount⟩, -⟩ := hfetch
  rw [hs] at hfetched
  rcases hrest with ⟨hnone, rfl, rfl⟩ | ⟨events, results, panic, rfl, hpassage, rfl⟩
  · obtain ⟨error, hlog, herror, htable⟩ := unfetched_of_sound hfetched hnone
    exact .inl ⟨error, rfl, hlog, by rw [herror, hlate]; omega, htable⟩
  · obtain ⟨hevents, hlog, htable⟩ := fetched_of_sound hfetched
    have hintime : fetch ≤ grace := by
      by_contra hover
      have hnone : (some (.ok events) : Option (Except OutboxError (List OutboxEvent))) = none :=
        hlate.mpr (by omega)
      cases hnone
    have hhand : AtHand p.config.eventName events t := by
      rw [hevents]
      exact .findPending ht _ _
    obtain ⟨records, hrecords, hwithin⟩ := withinGrace_of_passage hhand htable
      (hcount.trans hhandled) (by omega) hpassage
    refine .inr ⟨hintime, _, events, records, panic, results.length, hevents, ?_, rfl, hwithin⟩
    have hlog : s₁.2 = [.fetched events] := hlog
    rw [hrecords, hlog]
    rfl

/-- A drain begins the events that it has time for, and no others. If its own deadline cannot be
told, there is none. -/
theorem drain_within_grace (p : Processor) (fetch : Nat) (takes : Nat → Nat) {t : Table}
    (ht : (t.map (·.id)).Nodup) (noticed : Nat) :
    (∃ o s', Dialogue.Runs ((timed fetch takes).noting entries) p.drain (⟨t, noticed, 0, 0⟩, [])
      o s') ∧
    ∀ o s' log, Dialogue.Runs ((timed fetch takes).noting entries) p.drain
        (⟨t, noticed, 0, 0⟩, []) o (s', log) →
      (clockLimit < noticed + p.config.shutdownGrace →
        o = .panicked clockOverflow ∧ log = [] ∧ s'.table = t) ∧
      (noticed + p.config.shutdownGrace ≤ clockLimit →
        (p.config.shutdownGrace < fetch →
          o = .ok .ended ∧ log = [.unfetched none] ∧ s'.table = t) ∧
        (fetch ≤ p.config.shutdownGrace →
          (∃ error, o = .ok .ended ∧ log = [.unfetched (some error)] ∧ s'.table = t) ∨
          ∃ events records panic handled,
            events = t.findPending p.config.eventName p.config.batchSize ∧
            log = .fetched events :: records ∧ o = .unlessPanic .ended panic ∧
            WithinGrace p.config.shutdownGrace fetch takes events t records panic handled
              s'.table)) := by
  constructor
  · obtain ⟨o, s', hr⟩ := Dialogue.exists_runs (exists_timed fetch takes) p.drain ⟨t, noticed, 0, 0⟩
    obtain ⟨log, hr⟩ := hr.noting entries []
    exact ⟨o, (s', log), hr⟩
  intro o s' log hr
  obtain ⟨now, s₁, hclock, hdrain⟩ := drain_of_runs hr
  have hsame : Timed.untimed s₁ = (t, []) := eq_of_sound (sound_of_timed _ _ _ _ hclock) (.inl rfl)
  obtain ⟨⟨-, hnow, htime, hhandled, -⟩, -⟩ := hclock
  obtain rfl : s₁.1.time = now := htime.trans hnow.symm
  obtain rfl : s₁.1.time = noticed := hnow
  rcases hdrain with ⟨hlimit, rfl, rfl⟩ | ⟨hlimit, hbatch⟩
  · obtain ⟨htable, hlog⟩ := Prod.ext_iff.mp hsame
    exact ⟨fun _ => ⟨rfl, hlog, htable⟩, fun h => (Nat.not_lt.mpr h hlimit).elim⟩
  refine ⟨fun h => (Nat.not_lt.mpr hlimit h).elim, fun _ => ?_⟩
  obtain ⟨o₁, s₂, hrun, hend, rfl⟩ : ∃ o₁ s₂, Dialogue.Runs ((timed fetch takes).noting entries)
      (p.processBatch (.deadline (s₁.1.time + p.config.shutdownGrace))) s₁ o₁ s₂ ∧
      Timed.untimed (s', log) = Timed.untimed s₂ ∧ o = o₁.map fun _ => .ended := by
    rcases hbatch with ⟨report, s₂, hrun, hrefresh, rfl⟩ | ⟨reason, hrun, rfl⟩
    · exact ⟨_, s₂, hrun, (eq_of_refreshMetrics (hrefresh.map sound_of_timed)).2, rfl⟩
    · exact ⟨_, _, hrun, rfl, rfl⟩
  obtain ⟨htable, hlog⟩ : s'.table = s₂.1.table ∧ log = s₂.2 := Prod.ext_iff.mp hend
  rw [htable, hlog]
  rcases batch_within_grace ht hsame hhandled hrun with ⟨error, rfl, hnote, herror, hkept⟩ |
    ⟨hintime, report, events, records, panic, handled, hevents, hnote, rfl, hwithin⟩
  · constructor
    · intro hover
      obtain rfl := herror.mpr hover
      exact ⟨rfl, hnote, hkept⟩
    · intro hintime
      cases error with
      | none => exact (Nat.not_lt.mpr hintime (herror.mp rfl)).elim
      | some error => exact .inl ⟨error, rfl, hnote, hkept⟩
  · refine ⟨fun hover => (Nat.not_lt.mpr hintime hover).elim, fun _ => .inr ?_⟩
    exact ⟨events, records, panic, handled, hevents, hnote, by cases panic <;> rfl, hwithin⟩

/-! ### A row that takes too long, and a period that is too long -/

/-- The first of two rows is begun in time and ends late. The second one stays as it is. -/
theorem drain_within_grace_late :
    (Processor.twoRows.map (·.id)).Nodup ∧
    ∃ s' records, Dialogue.Runs ((timed 4000 fun _ => 7000).noting entries) clerk.drain
        (⟨Processor.twoRows, 0, 0, 0⟩, []) (.ok .ended) (s', .fetched Processor.twoRows :: records) ∧
      s'.time = 11000 ∧
      WithinGrace 10000 4000 (fun _ => 7000) Processor.twoRows Processor.twoRows records none 1
        s'.table := by
  have hunique : (Processor.twoRows.map (·.id)).Nodup := by decide
  have hrun : Dialogue.Runs ((timed 4000 fun _ => 7000).noting entries) clerk.drain
      (⟨Processor.twoRows, 0, 0, 0⟩, []) (.ok .ended)
      (⟨(Processor.twoRows.markSuccess 0 .nil).2, 11000, 1, 7000⟩,
        [.fetched Processor.twoRows, .recorded .nil]) := by
    refine Attempt.runs_hear_bind.mpr ⟨(0 : Nat), (⟨Processor.twoRows, 0, 0, 7000⟩, []),
      ⟨⟨.inl rfl, rfl, rfl, rfl, rfl⟩, rfl⟩, ?_⟩
    have hlimit : ¬clockLimit < 0 + clerk.config.shutdownGrace := by decide
    rw [if_neg hlimit]
    refine ⟨some (.ok Processor.twoRows),
      (⟨Processor.twoRows, 4000, 0, 7000⟩, [.fetched Processor.twoRows]),
      ⟨⟨.inl ⟨congrArg (fun events => some (Except.ok events)) findPending_twoRows.symm, rfl⟩,
        ⟨nofun, by decide⟩, rfl, rfl⟩, rfl⟩, ?_⟩
    refine ⟨(4000 : Nat), (_, _), ⟨⟨.inl rfl, rfl, rfl, rfl, rfl⟩, rfl⟩, ?_⟩
    refine ⟨(0 : Int), (⟨_, 4000, 0, 7000⟩, _), ⟨⟨.inl rfl, rfl, rfl, rfl⟩, rfl⟩, ?_⟩
    refine ⟨.ok ⟨"", ""⟩, (⟨_, 5000, 0, 6000⟩, _),
      ⟨⟨.inl rfl, 1000, by decide, rfl, rfl, rfl⟩, rfl⟩, ?_⟩
    refine ⟨.ok true, (⟨_, 11000, 1, 0⟩, _), ⟨⟨.inl ⟨0, rfl, rfl⟩, rfl, rfl⟩, rfl⟩, ?_⟩
    exact ⟨(11000 : Nat), (⟨_, 11000, 1, 7000⟩, _), ⟨⟨.inl rfl, rfl, rfl, rfl, rfl⟩, rfl⟩, rfl, rfl⟩
  obtain ⟨-, hdrain⟩ := (drain_within_grace clerk 4000 (fun _ => 7000) hunique 0).2 _ _ _ hrun
  obtain ⟨error, -, hlog, -⟩ | ⟨events, records, panic, handled, -, hlog, hended, hwithin⟩ :=
    (hdrain (by decide)).2 (by decide)
  · cases hlog
  · obtain ⟨hevents, rfl⟩ := List.cons.inj hlog
    obtain rfl := Entry.fetched.inj hevents
    cases panic with
    | some reason => cases hended
    | none =>
      have hfirst := (hwithin.cut rfl 0 (by decide)).mpr (by decide)
      have hsecond := mt (hwithin.cut rfl 1 (by decide)).mp (by decide)
      obtain rfl : handled = 1 := by omega
      exact ⟨hunique, _, _, hrun, rfl, hwithin⟩

/-- A grace period that the clock cannot show the end of. -/
def boundless : Processor :=
  ⟨{ eventName := "login", shutdownGrace := 18446744073709551615000 }, Site.plainBuilder, false⟩

/-- With such a period there is no time for a row that takes none. -/
theorem exists_drain_without_batch :
    0 + elapsed (fun _ => 0) 0 0 < boundless.config.shutdownGrace ∧
    Dialogue.Runs ((timed 0 fun _ => 0).noting entries) boundless.drain
      (⟨[Site.plainRow .pending], 0, 0, 0⟩, []) (.panicked clockOverflow)
      (⟨[Site.plainRow .pending], 0, 0, 0⟩, []) := by
  refine ⟨by decide, Attempt.runs_hear_bind.mpr
    ⟨(0 : Nat), (_, []), ⟨⟨.inl rfl, rfl, rfl, rfl, rfl⟩, rfl⟩, ?_⟩⟩
  have hlimit : clockLimit < 0 + boundless.config.shutdownGrace := by decide
  rw [if_pos hlimit]
  exact ⟨rfl, rfl⟩

end SignIn.Outbox
