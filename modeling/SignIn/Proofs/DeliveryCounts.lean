import Mathlib.Data.Finset.Card
import SignIn.Proofs.CountDuty
import SignIn.Proofs.ForwardRows

/-!
# Counters and what they count

Workers of one name share a table and three counters, and several of them may be at
one row. Only the update tells who has changed it: it looks for a pending row and
answers whether there was one. Beside the counters it is written down how many rows
of the name really made the change that a counter is about, read off the table
before and after every step. The two differ by the counts that are still due, one
for each worker that has heard of its change and has not counted it yet.
-/
namespace SignIn.Outbox

namespace Table

/-- The changes of a row that a counter is about. -/
def turns : Counter → OutboxEvent → OutboxEvent → Bool
  | .delivered, e, e' => e.status == .pending && e'.status == .success
  | .failed, e, e' => e.status == .pending && e'.status == .failed
  | .retried, e, e' => e'.attempts == e.attempts + 1 && e'.status == .pending

/-- How many rows of a name make such a change from one table to the next. -/
def turnCount (name : String) (counter : Counter) (t t' : Table) : Nat :=
  (t.zip t').countP fun rows => rows.1.name == name && turns counter rows.1 rows.2

@[simp] theorem turns_self (counter : Counter) (e : OutboxEvent) : turns counter e e = false := by
  cases counter with
  | delivered => cases h : e.status <;> simp [turns, h]
  | failed => cases h : e.status <;> simp [turns, h]
  | retried =>
    have hne : e.attempts ≠ e.attempts + 1 := by omega
    simp [turns, hne]

theorem turnCount_cons (name : String) (counter : Counter) (e e' : OutboxEvent) (t t' : Table) :
    turnCount name counter (e :: t) (e' :: t') =
      turnCount name counter t t' + if e.name == name && turns counter e e' then 1 else 0 := by
  simp [turnCount, List.countP_cons]

/-- Rows of other names do not count. -/
theorem turnCount_eq_zero {name : String} {t t' : Table}
    (h : Rowwise (fun e e' => e.name = name → e' = e) t t') (counter : Counter) :
    turnCount name counter t t' = 0 := by
  refine List.countP_eq_zero.mpr ?_
  rintro ⟨e, e'⟩ hmem hturns
  obtain ⟨i, hi⟩ := List.mem_iff_getElem?.mp hmem
  obtain ⟨he, he'⟩ := List.getElem?_zip_eq_some.mp hi
  obtain ⟨e₁, he₁, hsame⟩ := h i e he
  have heq : e' = e₁ := Option.some.inj (he'.symm.trans he₁)
  have hname : e.name = name ∧ turns counter e e' = true := by simpa using hturns
  rw [heq, hsame hname.1, turns_self] at hname
  exact Bool.false_ne_true hname.2

@[simp] theorem turnCount_self (name : String) (counter : Counter) (t : Table) :
    turnCount name counter t t = 0 :=
  turnCount_eq_zero (.refl (fun _ _ => rfl) t) counter

/-- An update concerns the row that it finds, and no other one. -/
theorem turnCount_updatePending {name : String} {id : Uuid} {t : Table}
    (hname : ∀ e ∈ t, e.id = id → e.name = name) (change : OutboxEvent → OutboxEvent)
    (counter : Counter) :
    turnCount name counter t (updatePending id change t) =
      if (t.pendingRow? id).any fun e => turns counter e (change e) then 1 else 0 := by
  induction t with
  | nil => simp [pendingRow?, updatePending]
  | cons e rest ih =>
    by_cases hp : isPendingId id e = true
    · have hfound : pendingRow? (e :: rest) id = some e := by simp [pendingRow?, hp]
      have he : e.name = name := hname e List.mem_cons_self (isPendingId_iff.mp hp).1
      rw [updatePending, if_pos hp, turnCount_cons, turnCount_self, hfound]
      simp [he]
    · have hfound : pendingRow? (e :: rest) id = pendingRow? rest id := by simp [pendingRow?, hp]
      rw [updatePending, if_neg hp, turnCount_cons, hfound,
        ih fun x hx => hname x (List.mem_cons_of_mem e hx)]
      simp

theorem status_of_pendingRow? {id : Uuid} {t : Table} {e : OutboxEvent}
    (h : t.pendingRow? id = some e) : e.status = .pending :=
  (isPendingId_iff.mp (List.find?_some h)).2

/-- A row that is settled was delivered or given up. -/
theorem turnCount_settled {name : String} {id : Uuid} {t : Table}
    (hname : ∀ e ∈ t, e.id = id → e.name = name) (status : OutboxStatus)
    (lastError : Option String) (now : Int) (counter : Counter) :
    turnCount name counter t (updatePending id (settled status lastError now) t) =
      if (t.pendingRow? id).isSome ∧
        ((status = .success ∧ counter = .delivered) ∨ (status = .failed ∧ counter = .failed))
      then 1 else 0 := by
  rw [turnCount_updatePending hname]
  cases hfound : t.pendingRow? id with
  | none => simp
  | some e =>
    have hp : e.status = .pending := status_of_pendingRow? hfound
    have hne : e.attempts ≠ e.attempts + 1 := by omega
    cases counter <;> simp [turns, settled, hp, hne]

theorem statusAfter_eq (maxAttempts : Int) (e : OutboxEvent) :
    statusAfter maxAttempts e = .failed ∨ statusAfter maxAttempts e = .pending := by
  unfold statusAfter
  split <;> simp

/-- With its last attempt a row is given up, and any other attempt is one that is retried. -/
theorem turns_attempted {e : OutboxEvent} (hp : e.status = .pending) (maxAttempts : Int)
    (error : String) (now : Int) (counter : Counter) :
    turns counter e (attempted maxAttempts error now e) = true ↔
      (statusAfter maxAttempts e = .failed ∧ counter = .failed) ∨
        (statusAfter maxAttempts e = .pending ∧ counter = .retried) := by
  rcases statusAfter_eq maxAttempts e with h | h
  · cases counter <;> simp [turns, attempted, settled, hp, h]
  · cases counter <;> simp [turns, attempted, settled, hp, h]

end Table

/-- The call was answered with an error, or broken off. -/
def Call.errs : (c : Call) → Answer c → Bool
  | .markSuccess _, .error _ => true
  | .markFailed .., .error _ => true
  | .recordFailure .., .failed _ => true
  | .recordFailure .., .panicked _ => true
  | _, _ => false

namespace Site

/-! ## What an answer owes -/

variable {queue : QueueConduct} {name : String} {w w' : Site}

theorem Stores.table_of_sound {α : Type} {work : Int → α × Table} {t t' : Table}
    {result : Except OutboxError α} (h : Stores work t result t')
    (hsound : ∀ e, result = .error e → t' = t) :
    (∃ e, result = .error e ∧ t' = t) ∨ ∃ now, result = .ok (work now).1 ∧ t' = (work now).2 := by
  cases h with
  | works now => exact .inr ⟨now, rfl, rfl⟩
  | fails e => exact .inl ⟨e, rfl, rfl⟩
  | unheard now e => exact .inl ⟨e, rfl, hsound e rfl⟩

/-- The answer to a call tells what has become of the rows of the name, if the call is about such
rows and an error changes nothing. -/
theorem turnCount_of_conduct {c : Call} {answer : Answer c} {config : Config}
    (hown : Own config c w) (hc : conduct queue c w answer w')
    (hsound : c.errs answer = true → w'.table = w.table) (counter : Counter) :
    Table.turnCount config.eventName counter w.table w'.table =
      if c.owes answer = some counter then 1 else 0 := by
  cases c with
  | markSuccess id =>
    rcases hc.1.table_of_sound fun e he => hsound (by rw [he]; rfl) with
      ⟨e, rfl, heq⟩ | ⟨now, rfl, heq⟩
    · simp [heq, Call.owes]
    · rw [heq, Table.markSuccess, Table.turnCount_settled hown]
      cases (w.table.pendingRow? id).isSome <;> simp [Call.owes, eq_comm]
  | markFailed id error =>
    rcases hc.1.table_of_sound fun e he => hsound (by rw [he]; rfl) with
      ⟨e, rfl, heq⟩ | ⟨now, rfl, heq⟩
    · simp [heq, Call.owes]
    · rw [heq, Table.markFailed, Table.turnCount_settled hown]
      cases (w.table.pendingRow? id).isSome <;> simp [Call.owes, eq_comm]
  | recordFailure id error maxAttempts =>
    obtain ⟨⟨p, rfl, heq⟩ | ⟨result, rfl, hst⟩, -⟩ := hc
    · simp [heq, Call.owes]
    rcases hst.table_of_sound fun e he => hsound (by rw [he]; rfl) with
      ⟨e, rfl, heq⟩ | ⟨now, rfl, heq⟩
    · rw [heq, Table.turnCount_self]
      rfl
    · rw [heq]
      cases hfound : w.table.pendingRow? id with
      | none =>
        simp only [Table.recordFailure, hfound, Table.turnCount_self]
        rfl
      | some e =>
        have hturns := Table.turns_attempted (Table.status_of_pendingRow? hfound) maxAttempts error
          now counter
        simp only [Table.recordFailure, hfound]
        rw [Table.turnCount_updatePending hown, hfound, Option.any_some]
        change _ = if Call.owes (.recordFailure id error maxAttempts)
          (.ok (Table.statusAfter maxAttempts e)) = some counter then 1 else 0
        rcases Table.statusAfter_eq maxAttempts e with h | h
        · simp [hturns, h, Call.owes, eq_comm]
        · simp [hturns, h, Call.owes, eq_comm]
  | findPending name limit deadline => simp [hc.2, Call.owes]
  | enqueue task options => simp [hc.2, Call.owes]
  | _ =>
    obtain rfl : w' = w := hc
    simp [Call.owes]

end Site

/-! ## Workers with counters -/

/-- The site, the counters, and the changes that they are about. -/
structure Metered where
  site : Site
  counted : Counter → Nat
  turned : Counter → Nat

namespace Metered

open Site (QueueConduct UniqueIds Own Persists)

def fresh (site : Site) : Metered := ⟨site, fun _ => 0, fun _ => 0⟩

/-- The changes of the rows of a name are written down. -/
def Records (name : String) (s s' : Metered) : Prop :=
  ∀ counter, s'.turned counter =
    s.turned counter + s.site.table.turnCount name counter s'.site.table

/-- A call that is answered with an error changes nothing, and only counting moves a counter. -/
def conduct (queue : QueueConduct) (name : String) : Conduct Call Answer Metered :=
  fun c s answer s' =>
    Site.conduct queue c s.site answer s'.site ∧
    (c.errs answer = true → s'.site.table = s.site.table) ∧
    (∀ counter, s'.counted counter =
      s.counted counter + if c.counts = some counter then 1 else 0) ∧
    Records name s s'

/-- Rows join the table, and rows of other names move forward. -/
def Elsewhere (name : String) (s s' : Metered) : Prop :=
  Persists s.site s'.site ∧
  Table.Rowwise (fun e e' => e.name = name → e' = e) s.site.table s'.site.table ∧
  s'.counted = s.counted ∧ Records name s s'

/-- What a worker with counters may do for a name: poll once, or take turns. -/
def programs (name : String) : Set (Dialogue Call Answer Unit) :=
  {d | ∃ p : Processor, p.metered = true ∧ p.config.eventName = name ∧
    (d = Dialogue.andThen p.pollOnce (fun _ => .done ()) ∨
      ∃ n turn, d = Dialogue.andThen (p.turns n turn) fun _ => .done ())}

def plant (queue : QueueConduct) (name : String) : Plant Call Answer Metered where
  conduct := conduct queue name
  outside := Elsewhere name
  programs := programs name

/-- The same workers, with no account of the counters. -/
def plainPlant (queue : QueueConduct) (name : String) : Plant Call Answer Site where
  conduct := Site.conduct queue
  outside := Persists
  programs := programs name

variable {ι : Type} {queue : QueueConduct} {name : String}

/-- A worker that is between two programs owes nothing. -/
theorem repays_of_mem_programs {d : Dialogue Call Answer Unit} (hd : d ∈ programs name) :
    d.Secures owing duty (fun _ debt => debt = none) none := by
  obtain ⟨p, hp, -, rfl | ⟨n, turn, rfl⟩⟩ := hd
  · exact (Dialogue.secures_andThen ..).mpr (Processor.repays_pollOnce hp)
  · exact (Dialogue.secures_andThen ..).mpr (Processor.repays_turns hp n turn)

/-- Which rows a worker may settle depends on its name only. -/
theorem own_named (config : Config) : Own { eventName := config.eventName } = Own config := by
  funext c
  cases c <;> rfl

/-- All the workers keep to the rows of the one name. -/
theorem suits (ι : Type) (queue : QueueConduct) (name : String) :
    Workers.Suits ι (plainPlant queue name) (Site.ownTerms { eventName := name }) UniqueIds
      fun _ => True where
  refl := fun w hw => ⟨hw, .refl w.table⟩
  trans := fun _ _ _ h h' => ⟨h'.1, h.2.trans h'.2⟩
  answer := by
    intro c w answer w' hw _ hc
    have hp : Persists w w' := .of_conduct hw hc
    exact ⟨hp.1, fun _ => hp⟩
  outside := fun w w' _ h => ⟨h.1, h⟩
  stable := fun _ _ _ _ => trivial
  begins := by
    rintro d ⟨p, -, rfl, hd⟩ w _ hr
    have hmem : d ∈ Site.programs p.config p.builder := ⟨p.metered, hd⟩
    rw [Site.ownTerms, own_named]
    exact Site.secures_of_mem_programs (Site.handling_own queue p.config p.builder) hmem hr

section Reach

variable [DecidableEq ι] {start : Site} {w w' : Workers ι Call Answer Metered}

/-- Whatever a worker asks for next concerns the rows of the name only. -/
theorem own_of_reaches (hstart : UniqueIds start)
    (h : Workers.Reaches (plant queue name) (.idle (fresh start)) w) {i : ι} {c : Call}
    {next : Answer c → Dialogue Call Answer Unit} (hi : w.doing i = .ask c next) :
    Own { eventName := name } c w.state.site := by
  have hconduct : ∀ c s answer s', (plant queue name).conduct c s answer s' →
      (plainPlant queue name).conduct c s.site answer s'.site := fun _ _ _ _ hc => hc.1
  have hplain : Workers.Reaches (plainPlant queue name) (.idle start) ⟨w.state.site, w.doing⟩ :=
    h.project hconduct (fun _ _ ho => ho.1) fun _ hd => hd
  exact (suits ι queue name).permits_of_reaches hstart trivial hplain hi

/-! ## The balance -/

/-- What a worker is about to count. -/
def due : Dialogue Call Answer Unit → Option Counter
  | .ask c _ => c.counts
  | .done _ => none

theorem due_eq {d : Dialogue Call Answer Unit} {debt : Option Counter}
    (h : d.Secures owing duty (fun _ debt => debt = none) debt) : due d = debt := by
  cases d with
  | done _ => exact h.symm
  | ask c next => exact (put_duty.mp h).1.symm

/-- Every worker repays what it is about to count, and the counters are short of the changes by
the counts that are due. -/
structure Balanced (w : Workers ι Call Answer Metered) : Prop where
  repays : ∀ i, (w.doing i).Secures owing duty (fun _ debt => debt = none) (due (w.doing i))
  short : ∀ counter, ∃ late : Finset ι, (∀ i, i ∈ late ↔ due (w.doing i) = some counter) ∧
    w.state.turned counter = w.state.counted counter + late.card

theorem card_eq_card_erase (s : Finset ι) (i : ι) :
    s.card = (s.erase i).card + if i ∈ s then 1 else 0 := by
  by_cases h : i ∈ s
  · rw [if_pos h, Finset.card_erase_add_one h]
  · rw [if_neg h, Finset.erase_eq_of_notMem h, Nat.add_zero]

/-- An answer is owed for one change at most, and a count that was due is no longer due when it has
been made. -/
theorem Balanced.answer {i : ι} {c : Call} {next : Answer c → Dialogue Call Answer Unit}
    {reply : Answer c} {s : Metered} (h : Balanced w) (hi : w.doing i = .ask c next)
    (hown : Own { eventName := name } c w.state.site)
    (hc : conduct queue name c w.state reply s) :
    Balanced (⟨s, Function.update w.doing i (next reply)⟩ : Workers ι Call Answer Metered) := by
  obtain ⟨hsite, hsound, hcounted, hturned⟩ := hc
  have hrepays := h.repays i
  rw [hi] at hrepays
  obtain ⟨-, hnext⟩ := put_duty.mp hrepays
  have hdue : due (next reply) = c.owes reply := due_eq (hnext reply)
  refine ⟨fun j => ?_, fun counter => ?_⟩
  · by_cases hj : j = i
    · subst hj
      simp only [Function.update_self, hdue]
      exact hnext reply
    · simp only [Function.update_of_ne hj]
      exact h.repays j
  · obtain ⟨late, hlate, hshort⟩ := h.short counter
    have hold : i ∈ late ↔ c.counts = some counter := by rw [hlate, hi, due]
    have hcard := card_eq_card_erase late i
    have hchange := Site.turnCount_of_conduct hown hsite hsound counter
    simp only [hold] at hcard
    rw [hturned, hcounted, hchange, hshort, hcard]
    by_cases howes : c.owes reply = some counter
    · refine ⟨insert i (late.erase i), fun j => ?_, ?_⟩
      · by_cases hj : j = i
        · subst hj
          simp [hdue, howes]
        · simp [hj, hlate]
      · rw [Finset.card_insert_of_notMem (Finset.notMem_erase i late), if_pos howes]
        omega
    · refine ⟨late.erase i, fun j => ?_, ?_⟩
      · by_cases hj : j = i
        · subst hj
          simp [hdue, howes]
        · simp [hj, hlate]
      · rw [if_neg howes]
        omega

theorem Balanced.step (h : Balanced w)
    (hown : ∀ i c next, w.doing i = .ask c next → Own { eventName := name } c w.state.site)
    (hs : Workers.Step (plant queue name) w w') : Balanced w' := by
  cases hs with
  | answer i hi hc => exact h.answer hi (hown i _ _ hi) hc
  | @begin i _ d hi hd =>
    have hdue : due d = none := due_eq (repays_of_mem_programs hd)
    refine ⟨fun j => ?_, fun counter => ?_⟩
    · by_cases hj : j = i
      · subst hj
        simp only [Function.update_self, hdue]
        exact repays_of_mem_programs hd
      · simp only [Function.update_of_ne hj]
        exact h.repays j
    · obtain ⟨late, hlate, hshort⟩ := h.short counter
      refine ⟨late, fun j => ?_, hshort⟩
      by_cases hj : j = i
      · subst hj
        have hidle : due (w.doing j) = none := by rw [hi, due]
        simp [hlate, hidle, hdue]
      · simp [hlate, hj]
  | outside ho =>
    obtain ⟨-, hothers, hcounted, hturned⟩ := ho
    refine ⟨h.repays, fun counter => ?_⟩
    obtain ⟨late, hlate, hshort⟩ := h.short counter
    refine ⟨late, hlate, ?_⟩
    rw [hturned, hcounted, Table.turnCount_eq_zero hothers, hshort, Nat.add_zero]

theorem balanced_of_reaches (hstart : UniqueIds start)
    (h : Workers.Reaches (plant queue name) (.idle (fresh start)) w) : Balanced w := by
  induction h with
  | refl => exact ⟨fun _ => rfl, fun _ => ⟨∅, by simp [Workers.idle, due], rfl⟩⟩
  | tail hw hs ih => exact ih.step (fun _ _ _ hi => own_of_reaches hstart hw hi) hs

/-! ## Steps that end with their counts -/

/-- No worker is about to count. -/
def AtRest (w : Workers ι Call Answer Metered) : Prop := ∀ i, due (w.doing i) = none

/-- Counting does not wait for anything. A worker that has heard of its change goes on to count it,
and others are not served in between. -/
inductive Stride (plant : Plant Call Answer Metered) :
    Workers ι Call Answer Metered → Workers ι Call Answer Metered → Prop where
  | step {w w' : Workers ι Call Answer Metered} :
      Workers.Step plant w w' → AtRest w' → Stride plant w w'
  | counted (i : ι) {w w₁ : Workers ι Call Answer Metered} {counter : Counter}
      {next : Unit → Dialogue Call Answer Unit} {s : Metered} :
      Workers.Step plant w w₁ → w₁.doing i = .ask (.count counter) next →
      plant.conduct (.count counter) w₁.state () s →
      AtRest ⟨s, Function.update w₁.doing i (next ())⟩ →
      Stride plant w ⟨s, Function.update w₁.doing i (next ())⟩

abbrev Strides (plant : Plant Call Answer Metered) (w w' : Workers ι Call Answer Metered) : Prop :=
  Relation.ReflTransGen (Stride plant) w w'

theorem Strides.reaches {plant : Plant Call Answer Metered} (h : Strides plant w w') :
    Workers.Reaches plant w w' := by
  induction h with
  | refl => exact .refl
  | tail _ hs ih =>
    cases hs with
    | step hstep => exact ih.tail hstep
    | counted i hstep hi hc => exact (ih.tail hstep).tail (.answer i hi hc)

theorem Strides.atRest {plant : Plant Call Answer Metered} (h : Strides plant w w')
    (hw : AtRest w) : AtRest w' := by
  cases h with
  | refl => exact hw
  | tail _ hs =>
    cases hs with
    | step _ hrest => exact hrest
    | counted _ _ _ _ hrest => exact hrest

/-- Any number of workers of one name share a table and the counters, whatever they hold of the rows
and whatever fails. When every change that a worker hears of is counted before the next step, each
counter is at every moment the number of rows of the name that made its change. If the counts may
come late, it is short by one for each worker that is about to count. -/
theorem counters_match_changes {start : Site} (hstart : UniqueIds start) :
    (∀ w : Workers ι Call Answer Metered,
      Strides (plant queue name) (.idle (fresh start)) w → w.state.counted = w.state.turned) ∧
    ∀ w : Workers ι Call Answer Metered,
      Workers.Reaches (plant queue name) (.idle (fresh start)) w → ∀ counter,
        ∃ late : Finset ι, (∀ i, i ∈ late ↔ due (w.doing i) = some counter) ∧
          w.state.turned counter = w.state.counted counter + late.card := by
  constructor
  · intro w hw
    have hrest : AtRest w := hw.atRest fun _ => rfl
    funext counter
    obtain ⟨late, hlate, hshort⟩ := (balanced_of_reaches hstart hw.reaches).short counter
    have hnone : late = ∅ := Finset.eq_empty_of_forall_notMem fun i hi => by
      simp [hlate, hrest i] at hi
    simp [hshort, hnone]
  · intro w hw
    exact (balanced_of_reaches hstart hw).short

end Reach

/-! ### Two workers at one row -/

theorem conduct_of_table_eq {c : Call} {answer : Answer c} {s : Metered} {site : Site}
    (hc : Site.conduct queue c s.site answer site) (ht : site.table = s.site.table)
    (hcount : c.counts = none) : conduct queue name c s answer { s with site } :=
  ⟨hc, fun _ => ht, by simp [hcount], fun counter => by simp [ht]⟩

def loginWorker : Processor := ⟨{ eventName := "login" }, Site.plainBuilder, true⟩

abbrev loginPlant : Plant Call Answer Metered := plant Site.Claiming "login"

/-- What one of two workers has still to do, and the other. -/
def both (i : Bool) (a b : Dialogue Call Answer Unit) : Bool → Dialogue Call Answer Unit :=
  fun who => if who = i then a else b

theorem both_swap (i : Bool) (a b : Dialogue Call Answer Unit) : both i a b = both (!i) b a := by
  funext who
  cases i <;> cases who <;> rfl

theorem update_both (i : Bool) (a b d : Dialogue Call Answer Unit) :
    Function.update (both i a b) i d = both i d b := by
  funext who
  by_cases h : who = i
  · subst h
    simp [both]
  · simp [both, h]

theorem atRest_both {i : Bool} {a b : Dialogue Call Answer Unit} {s : Metered} (ha : due a = none)
    (hb : due b = none) : AtRest ⟨s, both i a b⟩ := by
  intro who
  simp only [both]
  split
  · exact ha
  · exact hb

section Turns

variable {w₀ : Workers Bool Call Answer Metered} {c : Call} {s s' : Metered} {i : Bool}
  {next : Answer c → Dialogue Call Answer Unit} {b d : Dialogue Call Answer Unit}

/-! The workers take turns: after each step of the one it is up to the other. -/

theorem Strides.begin (h : Strides loginPlant w₀ ⟨s, both i (.done ()) b⟩)
    (hd : d ∈ programs "login") (hb : due b = none) :
    Strides loginPlant w₀ ⟨s, both (!i) b d⟩ := by
  have hidle : both i (.done ()) b i = .done () := if_pos rfl
  have hstep : Workers.Step loginPlant ⟨s, both i (.done ()) b⟩
      ⟨s, Function.update (both i (.done ()) b) i d⟩ := .begin i hidle hd
  rw [update_both] at hstep
  rw [← both_swap]
  exact h.tail (.step hstep (atRest_both (due_eq (repays_of_mem_programs hd)) hb))

theorem Strides.answer (h : Strides loginPlant w₀ ⟨s, both i (.ask c next) b⟩)
    (reply : Answer c) (hc : conduct Site.Claiming "login" c s reply s')
    (hnext : due (next reply) = none) (hb : due b = none) :
    Strides loginPlant w₀ ⟨s', both (!i) b (next reply)⟩ := by
  have hask : both i (.ask c next) b i = .ask c next := if_pos rfl
  have hstep : Workers.Step loginPlant ⟨s, both i (.ask c next) b⟩
      ⟨s', Function.update (both i (.ask c next) b) i (next reply)⟩ := .answer i hask hc
  rw [update_both] at hstep
  rw [← both_swap]
  exact h.tail (.step hstep (atRest_both hnext hb))

/-- An answer that has to be counted, and the count. -/
theorem Strides.count (h : Strides loginPlant w₀ ⟨s, both i (.ask c next) b⟩)
    (reply : Answer c) (hc : conduct Site.Claiming "login" c s reply s') {counter : Counter}
    {rest : Unit → Dialogue Call Answer Unit} (hnext : next reply = .ask (.count counter) rest)
    {s'' : Metered} (hcount : conduct Site.Claiming "login" (.count counter) s' () s'')
    (hrest : due (rest ()) = none) (hb : due b = none) :
    Strides loginPlant w₀ ⟨s'', both (!i) b (rest ())⟩ := by
  have hask : both i (.ask c next) b i = .ask c next := if_pos rfl
  have hstep : Workers.Step loginPlant ⟨s, both i (.ask c next) b⟩
      ⟨s', Function.update (both i (.ask c next) b) i (next reply)⟩ := .answer i hask hc
  rw [update_both, hnext] at hstep
  have hcalm : AtRest
      ⟨s'', Function.update (both i (.ask (.count counter) rest) b) i (rest ())⟩ := by
    rw [update_both]
    exact atRest_both hrest hb
  have hstride := Stride.counted i hstep (if_pos rfl) hcount hcalm
  rw [update_both] at hstride
  rw [← both_swap]
  exact h.tail hstride

end Turns

/-- What a worker does with a report when it polls. -/
def closing (batch : Duty BatchReport) : Dialogue Call Answer Unit :=
  Dialogue.andThen (do
    let report ← batch
    loginWorker.refreshMetrics
    return report : Duty BatchReport) fun _ => .done ()

/-- The task of the one event of a batch is in the queue, and its row is to be marked. -/
def marking : Duty BatchReport := do
  let result : Except OutboxError EventOutcome ← (loginWorker.settleDelivered .nil).result
  loginWorker.processAll .never (({ fetched := 1 } : BatchReport).add result) []

/-- One event was delivered, and nothing else has happened. -/
def oneDelivered (counter : Counter) : Nat := if counter = .delivered then 1 else 0

abbrev atLogin (status : OutboxStatus) (tasks : List Accepted) : Site :=
  ⟨[Site.plainRow status], tasks⟩

/-- Both workers fetch the row while it is pending. One of them enqueues its task, and the other one
is told that the id is taken. -/
theorem strides_marking :
    Strides loginPlant (.idle (fresh (atLogin .pending [])))
      ⟨fresh (atLogin .pending [Site.plainTask]),
        both true (closing marking) (closing marking)⟩ := by
  have hpoll : Dialogue.andThen loginWorker.pollOnce (fun _ => .done ()) ∈ programs "login" :=
    ⟨loginWorker, rfl, rfl, .inl rfl⟩
  have hfound : Site.conduct Site.Claiming (.findPending "login" 1000 none) (atLogin .pending [])
      (some (.ok [Site.plainRow .pending])) (atLogin .pending []) :=
    Site.conduct_findPending_singleton Site.Claiming
      (rfl : (Site.plainRow .pending).status = .pending) (by decide) none []
  have hfetch : conduct Site.Claiming "login" (.findPending "login" 1000 none)
      (fresh (atLogin .pending [])) (some (.ok [Site.plainRow .pending]))
      (fresh (atLogin .pending [])) := conduct_of_table_eq hfound rfl rfl
  have hnow : conduct Site.Claiming "login" .now (fresh (atLogin .pending [])) (0 : Int)
      (fresh (atLogin .pending [])) := conduct_of_table_eq rfl rfl rfl
  have haccept : conduct Site.Claiming "login"
      (.enqueue Site.plainTask.task ⟨some Site.plainTask.id, 5, none⟩)
      (fresh (atLogin .pending [])) (.ok ⟨Site.plainTask.id, ""⟩)
      (fresh (atLogin .pending [Site.plainTask])) :=
    conduct_of_table_eq
      ⟨.accepts _ _ (fun given h => Option.some.inj h) (by simp [fresh]), rfl⟩ rfl rfl
  have hrefuse : conduct Site.Claiming "login"
      (.enqueue Site.plainTask.task ⟨some Site.plainTask.id, 5, none⟩)
      (fresh (atLogin .pending [Site.plainTask])) (.error (.taskIdConflict Site.plainTask.id))
      (fresh (atLogin .pending [Site.plainTask])) :=
    conduct_of_table_eq ⟨.refuses _ fun _ _ =>
      ⟨Site.plainTask, by simp [fresh], fun given h => Option.some.inj h⟩, rfl⟩ rfl rfl
  have hidle : Strides loginPlant (.idle (fresh (atLogin .pending [])))
      ⟨fresh (atLogin .pending []), both true (.done ()) (.done ())⟩ := by
    have hboth : both true (.done ()) (.done ()) = fun _ => .done () := by
      funext who
      exact ite_self _
    rw [hboth]
    exact .refl
  have hbegun := (hidle.begin hpoll rfl).begin hpoll rfl
  have hfetched := (hbegun.answer _ hfetch rfl rfl).answer _ hfetch rfl rfl
  have hready := (hfetched.answer _ hnow rfl rfl).answer _ hnow rfl rfl
  exact (hready.answer _ haccept rfl rfl).answer _ hrefuse rfl rfl

/-- The one that is first to mark the row changes it and counts. The other one is told that there
was nothing to change, and does not count. Both report that the event was delivered. -/
theorem strides_marked :
    Strides loginPlant
      ⟨fresh (atLogin .pending [Site.plainTask]), both true (closing marking) (closing marking)⟩
      ⟨⟨atLogin .success [Site.plainTask], oneDelivered, oneDelivered⟩,
        both true (closing (pure { fetched := 1, delivered := 1 }))
          (closing (pure { fetched := 1, delivered := 1 }))⟩ := by
  have hmark : conduct Site.Claiming "login" (.markSuccess .nil)
      (fresh (atLogin .pending [Site.plainTask])) (.ok true)
      ⟨atLogin .success [Site.plainTask], fun _ => 0, oneDelivered⟩ := by
    refine ⟨⟨.works 0, rfl⟩, by simp [Call.errs], fun _ => rfl, ?_⟩
    rintro (_ | _ | _) <;> decide
  have hcount : conduct Site.Claiming "login" (.count .delivered)
      ⟨atLogin .success [Site.plainTask], fun _ => 0, oneDelivered⟩ ()
      ⟨atLogin .success [Site.plainTask], oneDelivered, oneDelivered⟩ := by
    refine ⟨rfl, by simp [Call.errs], ?_, by simp [Records]⟩
    rintro (_ | _ | _) <;> rfl
  have hagain : conduct Site.Claiming "login" (.markSuccess .nil)
      ⟨atLogin .success [Site.plainTask], oneDelivered, oneDelivered⟩ (.ok false)
      ⟨atLogin .success [Site.plainTask], oneDelivered, oneDelivered⟩ :=
    conduct_of_table_eq ⟨.works 0, rfl⟩ rfl rfl
  have hstart : Strides loginPlant
      ⟨fresh (atLogin .pending [Site.plainTask]), both true (closing marking) (closing marking)⟩
      ⟨fresh (atLogin .pending [Site.plainTask]), both true (closing marking) (closing marking)⟩ :=
    .refl
  exact (hstart.count _ hmark rfl hcount rfl rfl).answer _ hagain rfl rfl

/-- Two workers report that the row was delivered, and it is counted once. -/
theorem counters_match_changes_shared :
    UniqueIds (atLogin .pending []) ∧
    ∃ w : Workers Bool Call Answer Metered,
      Strides loginPlant (.idle (fresh (atLogin .pending []))) w ∧
      (∀ who, w.doing who = closing (pure { fetched := 1, delivered := 1 })) ∧
      w.state.counted .delivered = 1 ∧ w.state.counted = w.state.turned := by
  have hunique : UniqueIds (atLogin .pending []) := by decide
  have hw := Relation.ReflTransGen.trans strides_marking strides_marked
  exact ⟨hunique, _, hw, fun _ => ite_self _, rfl, (counters_match_changes hunique).1 _ hw⟩

end Metered

end SignIn.Outbox
