import SignIn.Proofs.SettingsRoundTrip
import SignIn.Proofs.WorkerLife

/-!
# The deadline of a drain

The check of the settings lets every period of grace pass, but the clock of a worker cannot show the
end of all of them. A worker that notices a stop drains the outbox and ends, if the clock can show
its deadline; if it cannot, the worker breaks off, and the outbox is not looked at.
-/
namespace SignIn

/-- The period of grace is not looked at by the check. -/
def Settings.withGrace (s : Settings) (grace : Decimal.Ranged .u64) : Settings :=
  { s with worker := { s.worker with shutdownGraceSecs := grace } }

@[simp] theorem Settings.validate_withGrace (s : Settings) (grace : Decimal.Ranged .u64) :
    (s.withGrace grace).validate = s.validate := rfl

namespace LoginWorker

open Outbox History

variable {p : Processor} {w : WorkerSettings} {metered hearStop : Bool} {noticed deadline : Nat}
variable {o : Outcome Empty Turn} {panic : Option Panic} {calls notice later : History}

/-! ## The deadline -/

/-- The clock counts seconds in 63 bits, and the milliseconds beside them. -/
theorem fits_iff : noticed + (processor w metered).config.shutdownGrace ≤ clockLimit ↔
    noticed / 1000 + w.shutdownGraceSecs.value ≤ 9223372036854775807 := by
  obtain ⟨hleast, -⟩ := Decimal.Range.contains_iff.mp w.shutdownGraceSecs.inRange
  change noticed + w.shutdownGraceSecs.value.toNat * 1000 ≤ 9223372036854775807 * 1000 + 999 ↔ _
  have hsecs : (w.shutdownGraceSecs.value.toNat : Int) = w.shutdownGraceSecs.value :=
    Int.toNat_of_nonneg hleast
  omega

/-- One batch until the deadline, and then the end. It is broken off only where the number of an
attempt does not fit into its word, in the worker or in the table. -/
structure Drains (p : Processor) (deadline : Nat) (o : Outcome Empty Turn) (later : History) :
    Prop where
  fetched : ∃ happened answer more, later =
    ⟨happened, .findPending p.config.eventName p.config.batchSize (some deadline), answer⟩ :: more
  rounds : ∃ panic, Rounds p (.deadline deadline) panic later ∧ o = .unlessPanic .ended panic
  broken : ∀ reason, o = .panicked reason → Overflows (found later) reason later

theorem fetched_of_batches {gate : Gate} (h : Batches p gate panic calls) :
    ∃ happened answer more, calls =
      ⟨happened, .findPending p.config.eventName p.config.batchSize gate.deadline?, answer⟩ :: more := by
  cases h with
  | @fetched fetch calls panic hcall hempties =>
    obtain ⟨happened, call, answer⟩ := fetch
    obtain rfl : call = _ := hcall
    exact ⟨happened, answer, calls, rfl⟩

theorem fetched_of_rounds {gate : Gate} (h : Rounds p gate panic calls) :
    ∃ happened answer more, calls =
      ⟨happened, .findPending p.config.eventName p.config.batchSize gate.deadline?, answer⟩ :: more := by
  cases h with
  | whole hbatch =>
    obtain ⟨happened, answer, more, rfl⟩ := fetched_of_batches hbatch
    exact ⟨happened, answer, _, rfl⟩
  | broken hbatch => exact fetched_of_batches hbatch

theorem drains_of_rounds (h : Rounds p (.deadline deadline) panic later) :
    Drains p deadline (.unlessPanic .ended panic) later where
  fetched := fetched_of_rounds h
  rounds := ⟨panic, h, rfl⟩
  broken reason ho := by
    cases panic with
    | none => cases ho
    | some reason' =>
      obtain rfl := Outcome.panicked.inj ho
      exact overflows_of_rounds h

/-! ## A stop that is noticed -/

/-- A turn in which a stop is noticed. If the clock can show the end of the period of grace, the
outbox is drained until then; if it cannot, the worker breaks off at once. -/
def Stops (w : WorkerSettings) (metered : Bool) (o : Outcome Empty Turn) (calls : History) : Prop :=
  ∃ hearStop notice happened, ∃ noticed : Nat, ∃ later,
    calls = notice ++ ⟨happened, .clock, noticed⟩ :: later ∧ Notices hearStop notice ∧
    (noticed / 1000 + w.shutdownGraceSecs.value ≤ 9223372036854775807 →
      Drains (processor w metered) (noticed + 1000 * w.shutdownGraceSecs.value.toNat) o later) ∧
    (9223372036854775807 < noticed / 1000 + w.shutdownGraceSecs.value →
      later = [] ∧ o = .panicked clockOverflow)

theorem stops_of_notices {more : History} (h : Turns (processor w metered) hearStop o calls)
    (hcalls : calls = notice ++ more) (hnotice : Notices hearStop notice) :
    Stops w metered o calls := by
  cases h with
  | idle happened happened' hstops htick =>
    cases hnotice with
    | looking => cases hcalls
    | waiting _ _ hstops' =>
      cases hcalls
      rw [hstops] at hstops'
      cases hstops'
  | polled happened happened' hrounds =>
    cases hnotice with
    | looking => cases hcalls
    | waiting _ _ hstops =>
      cases hcalls
      cases hstops
  | @drained happened noticed notice later panic hnotice hgrace hrounds =>
    refine ⟨hearStop, notice, happened, noticed, later, rfl, hnotice, fun _ => ?_, fun hlate => ?_⟩
    · have hdrains := drains_of_rounds hrounds
      rwa [Nat.mul_comm]
    · exact absurd (fits_iff.mp hgrace) (not_le.mpr hlate)
  | @late happened noticed notice hnotice hlate =>
    refine ⟨hearStop, notice, happened, noticed, [], rfl, hnotice, fun hfits => ?_,
      fun _ => ⟨rfl, rfl⟩⟩
    exact absurd (fits_iff.mpr hfits) (not_le.mpr hlate)

/-- A turn that is begun while a request stands notices it. -/
theorem notices_of_requestedAt {start : Signals} {past : History}
    (h : Turns p hearStop o calls) (hcoherent : Coherent (signals start past) calls) :
    ∃ look later, calls = look :: later ∧ look.call = .stopRequested ∧
      (requestedAt start past look = true → Notices hearStop [look]) := by
  have hlook : ∀ {happened : List Event} {isSet : Bool} {later : History},
      Coherent (signals start past) (⟨happened, .stopRequested, isSet⟩ :: later) →
      requestedAt start past ⟨happened, .stopRequested, isSet⟩ = true →
      Notices hearStop [⟨happened, .stopRequested, isSet⟩] := by
    intro happened isSet later hcoherent hrequested
    rw [requestedAt_of_fits (coherent_cons.mp hcoherent).1] at hrequested
    subst hrequested
    exact .looking happened
  cases h with
  | idle => exact ⟨_, _, rfl, rfl, hlook hcoherent⟩
  | polled => exact ⟨_, _, rfl, rfl, hlook hcoherent⟩
  | drained happened hnotice =>
    cases hnotice <;> exact ⟨_, _, rfl, rfl, hlook hcoherent⟩
  | late happened hnotice =>
    cases hnotice <;> exact ⟨_, _, rfl, rfl, hlook hcoherent⟩

/-- The check says the same whatever the period of grace is. With any settings, and after any number
of turns, another turn of a worker that listens comes to its end, whatever happens. It begins with a
look at the signals. If a stop is asked for at the look, or wakes the worker from its wait, the
outbox is drained until the deadline, and the worker ends, if the clock can show the deadline; and
the worker breaks off at once, if it cannot. -/
theorem drain_of_stop (s : Settings) (metered : Bool) (start : Signals) (n : Nat) :
    (∀ grace, (s.withGrace grace).validate = s.validate) ∧
    ∀ hearStop past, Dialogue.Runs (schedule start)
        ((processor s.worker metered).turns n .listening) [] (.ok (.ofListening hearStop)) past →
      (∃ o past', Dialogue.Runs (schedule start) ((processor s.worker metered).turn hearStop) past
        o past') ∧
      ∀ o past', Dialogue.Runs (schedule start) ((processor s.worker metered).turn hearStop) past
          o past' →
        ∃ look later, past' = past ++ look :: later ∧ look.call = .stopRequested ∧
          (requestedAt start past look = true → Stops s.worker metered o (look :: later)) ∧
          ∀ notice more, look :: later = notice ++ more → Notices hearStop notice →
            Stops s.worker metered o (look :: later) := by
  refine ⟨s.validate_withGrace, fun hearStop past hruns =>
    ⟨Dialogue.exists_runs (exists_schedule start) _ past, fun o past' hturn => ?_⟩⟩
  have hpast : Coherent start past := coherent_of_runs hruns (everywhere_nil _)
  obtain ⟨calls, rfl, hcalls⟩ := makes_turn hearStop past o past' hturn
  obtain ⟨-, hcoherent⟩ := coherent_append.mp (coherent_of_runs hturn hpast)
  obtain ⟨look, later, rfl, hlook, hrequested⟩ := notices_of_requestedAt hcalls hcoherent
  refine ⟨look, later, rfl, hlook, fun h => ?_, fun notice more => stops_of_notices hcalls⟩
  have hnotice : look :: later = [look] ++ later := rfl
  exact stops_of_notices hcalls hnotice (hrequested h)

/-! ### The longest period that the clock can show, and a longer one -/

def longest : Settings := Settings.utmost.withGrace ⟨9223372036854775807, rfl⟩

/-- The owner asks for a stop at once. -/
def asked : Beat := ⟨[.stop], .stopRequested, true⟩

theorem runs_turn_asked {past : History}
    (h : Dialogue.Runs (schedule {}) p.drain [asked] o past) :
    Dialogue.Runs (schedule {}) (p.turn true) [] o past :=
  Attempt.runs_hear_bind.mpr ⟨true, _, ⟨[.stop], ⟨⟨rfl, trivial⟩, rfl⟩, rfl⟩, h⟩

/-- With the longest period, and a stop in the first second, the last moment of the clock is the
deadline. -/
theorem drain_of_stop_longest :
    ∃ past, Dialogue.Runs (schedule {}) ((processor longest.worker false).turn true) [] (.ok .ended)
        past ∧
      requestedAt {} [] asked = true ∧ Stops longest.worker false (.ok .ended) past ∧
      fetches past = [some clockLimit] := by
  have hlimit : ¬clockLimit < 999 + (processor longest.worker false).config.shutdownGrace := by
    decide
  have hrun : Dialogue.Runs (schedule {}) ((processor longest.worker false).turn true) []
      (.ok .ended) [asked, ⟨[], .clock, (999 : Nat)⟩,
        ⟨[], .findPending "login" 1 (some clockLimit), some (.ok [])⟩] := by
    refine runs_turn_asked (Attempt.runs_hear_bind.mpr
      ⟨(999 : Nat), _, ⟨[], ⟨trivial, trivial⟩, rfl⟩, ?_⟩)
    rw [if_neg hlimit]
    exact ⟨some (.ok []), _, ⟨[], ⟨trivial, trivial⟩, rfl⟩, rfl, rfl⟩
  obtain ⟨-, hturns⟩ := drain_of_stop longest false {} 0
  obtain ⟨look, later, hpast, -, hstops, -⟩ := (hturns true [] ⟨rfl, rfl⟩).2 _ _ hrun
  obtain ⟨rfl, rfl⟩ := List.cons.inj hpast
  exact ⟨_, hrun, rfl, hstops rfl, rfl⟩

/-- Settings at the ends of what is accepted make a worker that is stopped and does not look at the
outbox. -/
theorem exists_stop_without_drain :
    Settings.utmost.validate = .ok () ∧ requestedAt {} [] asked = true ∧
    Dialogue.Runs (schedule {}) ((processor Settings.utmost.worker false).turns 1 .listening) []
      (.panicked clockOverflow) [asked, ⟨[], .clock, (0 : Nat)⟩] ∧
    fetches [asked, ⟨[], .clock, (0 : Nat)⟩] = [] := by
  have hlimit : clockLimit < 0 + (processor Settings.utmost.worker false).config.shutdownGrace := by
    decide
  have hturn : Dialogue.Runs (schedule {}) ((processor Settings.utmost.worker false).turn true) []
      (.panicked clockOverflow) [asked, ⟨[], .clock, (0 : Nat)⟩] := by
    refine runs_turn_asked (Attempt.runs_hear_bind.mpr
      ⟨(0 : Nat), _, ⟨[], ⟨trivial, trivial⟩, rfl⟩, ?_⟩)
    rw [if_pos hlimit]
    exact ⟨rfl, rfl⟩
  exact ⟨by decide, rfl, hturn.andThen ⟨rfl, rfl⟩, rfl⟩

end LoginWorker

end SignIn
