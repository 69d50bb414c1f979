import Mathlib.Data.List.Forall2
import SignIn.Proofs.Terms
import SignIn.UnitOfWork.Ledger

/-!
# How a unit of work ends

Whatever the manager answers, a unit of work is begun once. If that fails, nothing
else is asked. Otherwise the callback runs, and its value is followed by one commit,
its failure or its panic by one rollback. Only a callback that panics before it has
given any work to run escapes this: its transaction is left as it is.
-/
namespace SignIn.Ledger

/-- A ledger of which every call may fail, whatever it answered before. -/
def Unsteady : Conduct Call Answer Ledger := fun c l answer l' =>
  ∃ failures, reply c { l with failures } = (answer, l')

/-- A call and its answer. -/
abbrev Exchange : Type := (c : Call) × Answer c

def exchange (c : Call) (answer : Answer c) : List Exchange := [⟨c, answer⟩]

/-- A ledger, and the calls that it has answered so far. -/
abbrev Told : Type := Ledger × List Exchange

abbrev told : Conduct Call Answer Told := Conduct.noting Unsteady exchange

/-- The calls of a callback that writes entries. -/
def written (entries : List String) : List Exchange :=
  entries.map fun entry => ⟨.write entry, ()⟩

/-- What a unit of work is given to run: a callback that panics when it is called, or one that
writes entries and then ends with an outcome. -/
inductive Callback (ε α : Type) where
  | panics (p : Panic)
  | writes (entries : List String) (outcome : Outcome ε α)

namespace Callback

variable {ε α : Type}

def work : Callback ε α → Work Call Answer ε α
  | .panics p => .error p
  | .writes entries outcome => .ok (Ledger.work entries outcome)

/-- What is written when the callback is run. -/
def entries : Callback ε α → List String
  | .panics _ => []
  | .writes entries _ => entries

end Callback

/-- The level of isolation and the mode of access that an entry stands for. -/
def standsFor : Entry → Isolation × Bool
  | .transaction => (.readCommitted, false)
  | .isolation level => (level, false)
  | .readOnly => (.readCommitted, true)
  | .serializable => (.serializable, false)
  | .repeatableRead => (.repeatableRead, false)
  | .readUncommitted => (.readUncommitted, false)
  | .given o => (o.isolation, o.readOnly)

theorem options_eq (entry : Entry) :
    entry.options = ⟨(standsFor entry).1, (standsFor entry).2⟩ := by
  cases entry <;> rfl

variable {ε α : Type}

/-- The calls of a unit of work that begins with these options, their answers, and how the unit
ends. -/
inductive Ends (ofStorage : StorageError → ε) (options : TxOptions) :
    Callback ε α → List Exchange → Outcome ε α → Prop where
  | notBegun (f : Callback ε α) (e : StorageError) :
      Ends ofStorage options f [⟨.begin options, .error e⟩] (.failed (ofStorage e))
  | committed (entries : List String) (value : α) :
      Ends ofStorage options (.writes entries (.ok value))
        (⟨.begin options, .ok ()⟩ :: written entries ++ [⟨.commit, .ok ()⟩]) (.ok value)
  | notCommitted (entries : List String) (value : α) (e : StorageError) :
      Ends ofStorage options (.writes entries (.ok value))
        (⟨.begin options, .ok ()⟩ :: written entries ++ [⟨.commit, .error e⟩])
        (.failed (ofStorage e))
  | rolledBack (entries : List String) (outcome : Outcome ε α)
      (answer : Except StorageError Unit) : outcome.isOk = false →
      Ends ofStorage options (.writes entries outcome)
        (⟨.begin options, .ok ()⟩ :: written entries ++ [⟨.rollback, answer⟩]) outcome
  | abandoned (p : Panic) :
      Ends ofStorage options (.panics p) [⟨.begin options, .ok ()⟩, ⟨.abandon, ()⟩] (.panicked p)

/-- A unit of work has made these calls, and what it has written is kept if it ended with a
value. -/
def Follows (ofStorage : StorageError → ε) (options : TxOptions) (f : Callback ε α) (s : Told)
    (o : Outcome ε α) (s' : Told) : Prop :=
  ∃ calls, Ends ofStorage options f calls o ∧ s'.2 = s.2 ++ calls ∧
    s'.1.committed = s.1.committed ++ if o.isOk then f.entries else []

/-! ## One call -/

theorem Unsteady.begin {options : TxOptions} {l l' : Ledger} {answer : Except StorageError Unit}
    (h : Unsteady (.begin options) l answer l') :
    l'.aside = [] ∧ l'.committed = l.committed := by
  obtain ⟨failures, h⟩ := h
  cases h
  exact ⟨rfl, rfl⟩

/-- A commit keeps what was kept aside, or fails and keeps nothing. -/
theorem Unsteady.commit {l l' : Ledger} {answer : Except StorageError Unit}
    (h : Unsteady .commit l answer l') :
    (answer = .ok () ∧ l'.committed = l.committed ++ l.aside) ∨
      ∃ e, answer = .error e ∧ l'.committed = l.committed := by
  obtain ⟨⟨b, c, r⟩, h⟩ := h
  cases c with
  | none =>
    cases h
    exact .inl ⟨rfl, rfl⟩
  | some e =>
    cases h
    exact .inr ⟨e, rfl, rfl⟩

theorem Unsteady.rollback {l l' : Ledger} {answer : Except StorageError Unit}
    (h : Unsteady .rollback l answer l') : l'.committed = l.committed := by
  obtain ⟨failures, h⟩ := h
  cases h
  rfl

theorem Unsteady.abandon {l l' : Ledger} {answer : Unit} (h : Unsteady .abandon l answer l') :
    l'.committed = l.committed := by
  obtain ⟨failures, h⟩ := h
  cases h
  rfl

theorem Unsteady.write {entry : String} {l l' : Ledger} {answer : Unit}
    (h : Unsteady (.write entry) l answer l') :
    l'.aside = l.aside ++ [entry] ∧ l'.committed = l.committed := by
  obtain ⟨failures, h⟩ := h
  cases h
  exact ⟨rfl, rfl⟩

/-- A call that is put is noted with its answer. -/
theorem secures_put_told {c : Call} {post : Answer c → Told → Prop} {s : Told}
    (h : ∀ answer l', Unsteady c s.1 answer l' → post answer (l', s.2 ++ [⟨c, answer⟩])) :
    (put c).Secures told (Terms.alone Call Told) post s := by
  refine (Dialogue.secures_put ..).mpr ?_
  rintro _ rfl
  refine ⟨trivial, fun answer s' ⟨hc, hnote⟩ => ?_⟩
  have hs' : s' = (s'.1, s.2 ++ [⟨c, answer⟩]) := Prod.ext rfl hnote
  rw [hs']
  exact h answer s'.1 hc

/-! ## One unit of work -/

/-- What a callback writes is kept aside, and nothing else is asked. -/
theorem secures_work (entries : List String) (outcome : Outcome ε α) (s : Told) :
    Attempt.Secures told (Terms.alone Call Told)
      (fun o s' => o = outcome ∧ s'.1.aside = s.1.aside ++ entries ∧
        s'.1.committed = s.1.committed ∧ s'.2 = s.2 ++ written entries)
      (work entries outcome) s := by
  induction entries generalizing s with
  | nil =>
    refine (Attempt.secures_ofOutcome ..).mpr ?_
    simp [written]
  | cons entry rest ih =>
    refine (Dialogue.secures_andThen ..).mpr (secures_put_told fun answer l' hwrite => ?_)
    obtain ⟨haside, hcommitted⟩ := hwrite.write
    refine Dialogue.Secures.mono (ih _) fun o s' ⟨ho, h₁, h₂, h₃⟩ => ⟨ho, ?_, ?_, ?_⟩
    · rw [h₁, haside, List.append_assoc, List.singleton_append]
    · rw [h₂, hcommitted]
    · rw [h₃]
      simp [written]

theorem finish_of_not_isOk (ofStorage : StorageError → ε) {outcome : Outcome ε α}
    (h : outcome.isOk = false) :
    manager.finish ofStorage outcome = (put .rollback).andThen fun _ => .done outcome := by
  cases outcome with
  | ok value => exact (Bool.noConfusion h)
  | failed e => rfl
  | panicked p => rfl

/-- After the callback, one call ends the transaction. -/
theorem secures_finish (ofStorage : StorageError → ε) (options : TxOptions) (entries : List String)
    (outcome : Outcome ε α) {s s₁ : Told}
    (hcalls : s₁.2 = s.2 ++ ⟨.begin options, .ok ()⟩ :: written entries)
    (haside : s₁.1.aside = entries) (hcommitted : s₁.1.committed = s.1.committed) :
    Attempt.Secures told (Terms.alone Call Told)
      (Follows ofStorage options (.writes entries outcome) s) (manager.finish ofStorage outcome)
      s₁ := by
  by_cases hok : outcome.isOk = true
  · cases outcome with
    | ok value =>
      refine (Dialogue.secures_andThen ..).mpr (secures_put_told fun answer l' hcommit => ?_)
      rcases hcommit.commit with ⟨rfl, hkept⟩ | ⟨e, rfl, hkept⟩
      · refine ⟨_, .committed entries value, ?_, ?_⟩
        · simp [hcalls]
        · simp [hkept, hcommitted, haside, Outcome.isOk, Callback.entries]
      · refine ⟨_, .notCommitted entries value e, ?_, ?_⟩
        · simp [hcalls]
        · simp [hkept, hcommitted, Outcome.isOk]
    | failed e => exact Bool.noConfusion hok
    | panicked p => exact Bool.noConfusion hok
  · have hnot : outcome.isOk = false := Bool.eq_false_iff.mpr hok
    rw [finish_of_not_isOk ofStorage hnot]
    refine (Dialogue.secures_andThen ..).mpr (secures_put_told fun answer l' hrollback => ?_)
    refine ⟨_, .rolledBack entries outcome answer hnot, ?_, ?_⟩
    · simp [hcalls]
    · simp [hrollback.rollback, hcommitted, hnot]

theorem secures_withOptions (ofStorage : StorageError → ε) (options : TxOptions)
    (f : Callback ε α) (s : Told) :
    Attempt.Secures told (Terms.alone Call Told) (Follows ofStorage options f s)
      (manager.withOptions ofStorage options f.work) s := by
  refine (Dialogue.secures_andThen ..).mpr (secures_put_told fun answer l₁ hbegin => ?_)
  obtain ⟨haside, hcommitted⟩ := hbegin.begin
  cases answer with
  | error e =>
    refine ⟨_, .notBegun f e, rfl, ?_⟩
    simp [hcommitted, Outcome.isOk]
  | ok u =>
    cases f with
    | panics p =>
      refine (Dialogue.secures_andThen ..).mpr (secures_put_told fun answer l₂ habandon => ?_)
      refine ⟨_, .abandoned p, ?_, ?_⟩
      · simp
      · simp [habandon.abandon, hcommitted, Outcome.isOk]
    | writes entries outcome =>
      refine (Dialogue.secures_andThen ..).mpr ?_
      refine Dialogue.Secures.mono (secures_work entries outcome _) ?_
      rintro _ s₂ ⟨rfl, h₁, h₂, h₃⟩
      refine secures_finish ofStorage options entries _ ?_ ?_ ?_
      · simp [h₃]
      · simp [h₁, haside]
      · simp [h₂, hcommitted]

/-! ## Units of work in turn -/

/-- A unit of work whose callback returns. -/
structure Errand (ε α : Type) where
  entry : Entry
  entries : List String
  result : Except ε α

namespace Errand

def callback (u : Errand ε α) : Callback ε α := .writes u.entries (.ofExcept u.result)

/-- The options that the way in stands for. -/
def options (u : Errand ε α) : TxOptions := ⟨(standsFor u.entry).1, (standsFor u.entry).2⟩

end Errand

/-- Units of work one after the other, whatever becomes of each. -/
def inTurn (ofStorage : StorageError → ε) :
    List (Errand ε α) → Dialogue Call Answer (List (Outcome ε α))
  | [] => .done []
  | u :: rest =>
    Dialogue.andThen (manager.within ofStorage u.entry u.callback.work) fun o =>
      (inTurn ofStorage rest).andThen fun outcomes => .done (o :: outcomes)

/-- The entries of the units of work that ended with a value, in order. -/
def entriesKept (units : List (Errand ε α)) (outcomes : List (Outcome ε α)) : List String :=
  ((units.zip outcomes).filter fun p => p.2.isOk).flatMap fun p => p.1.entries

theorem entriesKept_cons (u : Errand ε α) (units : List (Errand ε α)) (o : Outcome ε α)
    (outcomes : List (Outcome ε α)) :
    entriesKept (u :: units) (o :: outcomes) =
      (if o.isOk then u.entries else []) ++ entriesKept units outcomes := by
  cases h : o.isOk <;> simp [entriesKept, h]

/-- What units of work leave behind that were run in turn: for each the calls that it made and its
outcome, and the entries that are kept. -/
def FollowInTurn (ofStorage : StorageError → ε) (units : List (Errand ε α)) (s : Told)
    (outcomes : List (Outcome ε α)) (s' : Told) : Prop :=
  ∃ ends : List (List Exchange × Outcome ε α),
    List.Forall₂ (fun u e => Ends ofStorage u.options u.callback e.1 e.2) units ends ∧
    outcomes = ends.map (·.2) ∧ s'.2 = s.2 ++ ends.flatMap (·.1) ∧
    s'.1.committed = s.1.committed ++ entriesKept units outcomes

theorem secures_inTurn (ofStorage : StorageError → ε) (units : List (Errand ε α)) (s : Told) :
    (inTurn ofStorage units).Secures told (Terms.alone Call Told)
      (FollowInTurn ofStorage units s) s := by
  induction units generalizing s with
  | nil => exact ⟨[], .nil, rfl, by simp, by simp [entriesKept]⟩
  | cons u rest ih =>
    have hunit : Attempt.Secures told (Terms.alone Call Told)
        (Follows ofStorage u.options u.callback s)
        (manager.within ofStorage u.entry u.callback.work) s := by
      have hoptions : u.entry.options = u.options := options_eq u.entry
      rw [← hoptions]
      exact secures_withOptions ofStorage u.entry.options u.callback s
    refine (Dialogue.secures_andThen ..).mpr (Dialogue.Secures.mono hunit ?_)
    rintro o s₁ ⟨calls, hends, hcalls, hcommitted⟩
    refine (Dialogue.secures_andThen ..).mpr (Dialogue.Secures.mono (ih s₁) ?_)
    rintro outcomes s₂ ⟨ends, hall, rfl, hcalls', hcommitted'⟩
    refine ⟨(calls, o) :: ends, .cons hends hall, rfl, ?_, ?_⟩
    · rw [hcalls', hcalls, List.flatMap_cons, List.append_assoc]
    · rw [hcommitted', hcommitted, entriesKept_cons, List.append_assoc]
      rfl

/-- Whichever calls of the manager fail: every unit of work is begun once, with the options that its
entry stands for, and unless that fails it is ended once, by a commit after a value and by a
rollback after a failure, which is passed on as it is. What has been kept in the end are the
entries of the units that ended with a value, in order. -/
theorem units_end_once {ofStorage : StorageError → ε} {units : List (Errand ε α)} {l l' : Ledger}
    {outcomes : List (Outcome ε α)} {calls : List Exchange}
    (h : (inTurn ofStorage units).Runs told (l, []) outcomes (l', calls)) :
    ∃ ends : List (List Exchange × Outcome ε α),
      List.Forall₂ (fun u e => Ends ofStorage u.options u.callback e.1 e.2) units ends ∧
      outcomes = ends.map (·.2) ∧ calls = ends.flatMap (·.1) ∧
      l'.committed = l.committed ++ entriesKept units outcomes := by
  have hfollow : FollowInTurn ofStorage units (l, []) outcomes (l', calls) :=
    (secures_inTurn ofStorage units (l, [])).of_runs_alone h
  exact hfollow

/-! ### A ledger that fails by a plan -/

/-- Fail as planned, by the number of calls that were answered before. -/
def scripted (plan : Nat → Failures) (c : Call) (s : Told) : Answer c × Told :=
  let answered := reply c { s.1 with failures := plan s.2.length }
  (answered.1, answered.2, s.2 ++ exchange c answered.1)

theorem runs_scripted {β : Type} (plan : Nat → Failures) (d : Dialogue Call Answer β) (s : Told) :
    d.Runs told s (d.run (scripted plan) s).1 (d.run (scripted plan) s).2 :=
  Dialogue.runs_run _ (fun _ _ => ⟨⟨_, rfl⟩, rfl⟩) d s

/-- One unit is kept, one fails and cannot be rolled back, one cannot be committed, one cannot be
begun, and the last one is kept again. -/
def plainUnits : List (Errand String Nat) :=
  [⟨.transaction, ["user", "token"], .ok 1⟩, ⟨.readOnly, ["draft"], .error "refused"⟩,
    ⟨.serializable, ["lost"], .ok 2⟩, ⟨.isolation .repeatableRead, ["unheard"], .ok 3⟩,
    ⟨.given ⟨.readUncommitted, true⟩, ["event"], .ok 4⟩]

def plainPlan : Nat → Failures
  | 6 => { rollback := some .poolClosed }
  | 9 => { commit := some .workerCrashed }
  | 10 => { begin := some .poolTimedOut }
  | _ => {}

def plainEnd : List (Outcome String Nat) × Told :=
  (inTurn StorageError.message plainUnits).run (scripted plainPlan) ({}, [])

/-- What is kept are the entries of the first unit and of the last. -/
theorem units_end_once_plain :
    (plainEnd.1 = [.ok 1, .failed "refused", .failed StorageError.workerCrashed.message,
      .failed StorageError.poolTimedOut.message, .ok 4] ∧
      plainEnd.2.1.committed = ["user", "token", "event"]) ∧
    ∃ ends : List (List Exchange × Outcome String Nat),
      List.Forall₂ (fun u e => Ends StorageError.message u.options u.callback e.1 e.2)
        plainUnits ends ∧
      plainEnd.1 = ends.map (·.2) ∧ plainEnd.2.2 = ends.flatMap (·.1) ∧
      plainEnd.2.1.committed = [] ++ entriesKept plainUnits plainEnd.1 :=
  ⟨⟨rfl, rfl⟩, units_end_once (runs_scripted plainPlan _ _)⟩

/-! ## Panics -/

/-- The callback panics, when it is called or while its work runs. -/
def Callback.PanicsWith (p : Panic) : Callback ε α → Prop
  | .panics q => q = p
  | .writes _ outcome => outcome = .panicked p

/-- The calls of a unit of work that has begun, and whose callback panics. -/
def unwinding (options : TxOptions) (answer : Except StorageError Unit) :
    Callback ε α → List Exchange
  | .panics _ => [⟨.begin options, .ok ()⟩, ⟨.abandon, ()⟩]
  | .writes entries _ => ⟨.begin options, .ok ()⟩ :: written entries ++ [⟨.rollback, answer⟩]

theorem Ends.of_panicsWith {ofStorage : StorageError → ε} {options : TxOptions} {f : Callback ε α}
    {calls : List Exchange} {o : Outcome ε α} {p : Panic} (h : Ends ofStorage options f calls o)
    (hp : f.PanicsWith p) :
    (∃ e, calls = [⟨.begin options, .error e⟩] ∧ o = .failed (ofStorage e)) ∨
      ∃ answer, calls = unwinding options answer f ∧ o = .panicked p := by
  cases h with
  | notBegun f e => exact .inl ⟨e, rfl, rfl⟩
  | committed entries value => cases hp
  | notCommitted entries value e => cases hp
  | rolledBack entries outcome answer hnot => exact .inr ⟨answer, rfl, hp⟩
  | abandoned q => exact .inr ⟨.ok (), rfl, by rw [show q = p from hp]⟩

/-- A panic of a callback is passed on as it is, and nothing is kept. The transaction is rolled
back once, whether that fails or not, if the panic strikes while the work of the callback runs; a
panic of the call itself leaves it as it is. -/
theorem panic_unwinds {ofStorage : StorageError → ε} {options : TxOptions} {f : Callback ε α}
    {p : Panic} (hp : f.PanicsWith p) {l l' : Ledger} {o : Outcome ε α} {calls : List Exchange}
    (h : Dialogue.Runs told (manager.withOptions ofStorage options f.work) (l, []) o (l', calls)) :
    l'.committed = l.committed ∧
      ((∃ e, calls = [⟨.begin options, .error e⟩] ∧ o = .failed (ofStorage e)) ∨
        ∃ answer, calls = unwinding options answer f ∧ o = .panicked p) := by
  have hfollow : Follows ofStorage options f (l, []) o (l', calls) :=
    Dialogue.Secures.of_runs_alone (secures_withOptions ofStorage options f (l, [])) h
  obtain ⟨_, hends, rfl, hcommitted⟩ := hfollow
  have hcases := hends.of_panicsWith hp
  refine ⟨?_, hcases⟩
  have hnot : o.isOk = false := by
    rcases hcases with ⟨e, -, rfl⟩ | ⟨answer, -, rfl⟩ <;> rfl
  simpa [hnot] using hcommitted

/-- A callback that panics after it has written something. -/
def explosion : Callback String Nat := .writes ["user"] (.panicked ⟨"exploded"⟩)

def explosionEnd : Outcome String Nat × Told :=
  Dialogue.run (scripted fun _ => { rollback := some .poolClosed })
    (manager.withOptions StorageError.message {} explosion.work) ({}, [])

/-- A rollback that fails does not replace the panic. -/
theorem panic_unwinds_plain :
    (explosion.PanicsWith ⟨"exploded"⟩ ∧ explosionEnd.2.2 =
      [⟨.begin {}, .ok ()⟩, ⟨.write "user", ()⟩, ⟨.rollback, .error .poolClosed⟩]) ∧
    explosionEnd.2.1.committed = [] ∧
      ((∃ e, explosionEnd.2.2 = [⟨.begin {}, .error e⟩] ∧
        explosionEnd.1 = .failed (StorageError.message e)) ∨
        ∃ answer, explosionEnd.2.2 = unwinding {} answer explosion ∧
          explosionEnd.1 = .panicked ⟨"exploded"⟩) :=
  ⟨⟨rfl, rfl⟩, panic_unwinds (f := explosion) rfl (runs_scripted _ _ _)⟩

/-- A callback can panic in such a way that its transaction is begun and never rolled back. -/
theorem exists_panic_without_rollback :
    ∃ (f : Callback String Nat) (l' : Ledger) (calls : List Exchange),
      f.PanicsWith ⟨"exploded"⟩ ∧
      Dialogue.Runs told (manager.withOptions StorageError.message {} f.work) ({}, [])
        (.panicked ⟨"exploded"⟩) (l', calls) ∧
      ⟨.begin {}, .ok ()⟩ ∈ calls ∧ ∀ answer, ⟨.rollback, answer⟩ ∉ calls := by
  have hruns : Dialogue.Runs told
      (manager.withOptions StorageError.message {}
        (Callback.panics ⟨"exploded"⟩ : Callback String Nat).work) ({}, [])
      (.panicked ⟨"exploded"⟩)
      ({ notes := [.begin {}] }, [⟨.begin {}, .ok ()⟩, ⟨.abandon, ()⟩]) :=
    runs_scripted (fun _ => {}) _ _
  refine ⟨.panics ⟨"exploded"⟩, _, _, rfl, hruns, List.mem_cons_self, ?_⟩
  intro answer hmem
  simp at hmem

end SignIn.Ledger
