import Mathlib.Tactic.SplitIfs
import SignIn.Outbox.Worker
import SignIn.Proofs.Terms

/-!
# The signals of a worker

Between two calls of a worker anything may happen to its signals: the process sends a
value or goes away, and the owner asks for a stop or lets the worker go. What is
answered to a worker that looks at its signals, or waits for them, is settled by what
has happened so far. All its other calls are answered at will.
-/
namespace SignIn.Outbox

/-- What may happen to the signals of a worker. -/
inductive Event where
  | sendShutdown (value : Bool)
  | dropShutdown
  | stop
  | dropHandle
  deriving DecidableEq, Repr

/-- Does it leave a worker running? An owner that goes away without a word does. -/
def Event.IsQuiet : Event → Prop
  | .sendShutdown value => value = false
  | .dropHandle => True
  | .dropShutdown | .stop => False

/-- Does a waiting worker stop for this? -/
def Wake.stops : Wake → Bool
  | .shutdown value => value
  | .shutdownClosed => true
  | .stop value => value
  | .stopClosed | .tick => false

structure Signals where
  shutdown : Signal := {}
  stop : Signal := {}

namespace Signals

/-- Nothing is sent by who has gone. -/
def Allows (s : Signals) : Event → Prop
  | .sendShutdown _ | .dropShutdown => s.shutdown.isOpen = true
  | .stop | .dropHandle => s.stop.isOpen = true

def after (s : Signals) : Event → Signals
  | .sendShutdown value => { s with shutdown := s.shutdown.send value }
  | .dropShutdown => { s with shutdown := s.shutdown.close }
  | .stop => { s with stop := s.stop.send true }
  | .dropHandle => { s with stop := s.stop.close }

def AllowsAll : Signals → List Event → Prop
  | _, [] => True
  | s, e :: rest => s.Allows e ∧ (s.after e).AllowsAll rest

def afterAll (s : Signals) (events : List Event) : Signals := events.foldl after s

/-- Is a stop asked for? A process that has gone asks for it too, an owner that has gone does not. -/
def requested (s : Signals) : Bool := s.shutdown.value || !s.shutdown.isOpen || s.stop.value

/-- Why a waiting worker goes on, the first reason that there is, and the signals that it leaves
behind. -/
def wake (hearStop : Bool) (s : Signals) : Wake × Signals :=
  if s.shutdown.news then
    (.shutdown s.shutdown.value, { s with shutdown := { s.shutdown with news := false } })
  else if !s.shutdown.isOpen then (.shutdownClosed, s)
  else if hearStop && s.stop.news then
    (.stop s.stop.value, { s with stop := { s.stop with news := false } })
  else if hearStop && !s.stop.isOpen then (.stopClosed, s)
  else (.tick, s)

/-- What the signals answer, if they are asked. -/
def Answers (s : Signals) : (c : Call) → Answer c → Prop
  | .stopRequested, answer => answer = s.requested
  | .wake hearStop, answer => answer = (s.wake hearStop).1
  | _, _ => True

/-! ### What is requested -/

theorem afterAll_of_after {P : Signals → Prop} {s : Signals} {events : List Event} (hs : P s)
    (hallows : s.AllowsAll events)
    (step : ∀ s, ∀ e ∈ events, s.Allows e → P s → P (s.after e)) : P (s.afterAll events) := by
  induction events generalizing s with
  | nil => exact hs
  | cons e rest ih =>
    obtain ⟨hallowed, hrest⟩ := hallows
    have hnext : P (s.after e) := step s e List.mem_cons_self hallowed hs
    exact ih hnext hrest fun s' e' he' => step s' e' (List.mem_cons_of_mem e he')

/-- Who takes notice of a value does not take it back. -/
@[simp] theorem requested_wake (hearStop : Bool) (s : Signals) :
    (s.wake hearStop).2.requested = s.requested := by
  unfold wake
  split_ifs <;> rfl

@[simp] theorem stop_isOpen_wake (hearStop : Bool) (s : Signals) :
    (s.wake hearStop).2.stop.isOpen = s.stop.isOpen := by
  unfold wake
  split_ifs <;> rfl

theorem requested_of_stops {hearStop : Bool} {s : Signals}
    (h : (s.wake hearStop).1.stops = true) : s.requested = true := by
  unfold wake at h
  split_ifs at h with hnews hopen hstop hgone
  · simp only [Wake.stops] at h
    simp [requested, h]
  · simp_all [requested]
  · simp only [Wake.stops] at h
    simp [requested, h]
  · cases h
  · cases h

theorem stop_closed_of_wake {hearStop : Bool} {s : Signals}
    (h : (s.wake hearStop).1 = .stopClosed) : s.stop.isOpen = false := by
  unfold wake at h
  split_ifs at h with hnews hopen hstop hgone
  simp_all

/-- An owner that has gone does not come back. -/
theorem stop_closed_afterAll {s : Signals} {events : List Event} (h : s.stop.isOpen = false)
    (hallows : s.AllowsAll events) : (s.afterAll events).stop.isOpen = false := by
  refine afterAll_of_after (P := fun s => s.stop.isOpen = false) h hallows ?_
  rintro s (value | _ | _ | _) - - hclosed
  · exact hclosed
  · exact hclosed
  · exact hclosed
  · rfl

/-- Whatever has asked for a stop since the signals were looked at wakes the worker. -/
def Rouses (hearStop : Bool) (s : Signals) : Prop :=
  s.requested = true → s.shutdown.news = true ∨ s.shutdown.isOpen = false ∨
    hearStop = true ∧ s.stop.news = true

theorem rouses_of_not_requested {hearStop : Bool} {s : Signals} (h : s.requested = false) :
    s.Rouses hearStop := by
  intro hrequested
  rw [h] at hrequested
  cases hrequested

/-- A worker that does not hear its owner any more has none. -/
theorem Rouses.afterAll {hearStop : Bool} {s : Signals} {events : List Event}
    (h : s.Rouses hearStop) (hdeaf : hearStop = false → s.stop.isOpen = false)
    (hallows : s.AllowsAll events) : (s.afterAll events).Rouses hearStop := by
  refine (afterAll_of_after (P := fun s => s.Rouses hearStop ∧
    (hearStop = false → s.stop.isOpen = false)) ⟨h, hdeaf⟩ hallows ?_).1
  rintro s (value | _ | _ | _) - hallowed ⟨hrouses, hdeaf⟩
  · exact ⟨fun _ => .inl rfl, hdeaf⟩
  · exact ⟨fun _ => .inr (.inl rfl), hdeaf⟩
  · cases hearStop with
    | true => exact ⟨fun _ => .inr (.inr ⟨rfl, rfl⟩), nofun⟩
    | false =>
      have hclosed := hdeaf rfl
      rw [show s.stop.isOpen = true from hallowed] at hclosed
      cases hclosed
  · exact ⟨hrouses, fun _ => rfl⟩

/-- Only a worker of whom nobody wants a stop goes on to poll. -/
theorem not_requested_of_tick {hearStop : Bool} {s : Signals} (h : s.Rouses hearStop)
    (htick : (s.wake hearStop).1 = .tick) : s.requested = false := by
  unfold wake at htick
  split_ifs at htick with hnews hopen hstop hgone
  rw [← Bool.not_eq_true]
  intro hrequested
  rcases h hrequested with hn | ho | hs
  · exact hnews hn
  · simp [ho] at hopen
  · simp [hs] at hstop

theorem not_requested_of_quiet {s : Signals} {events : List Event} (h : s.requested = false)
    (hallows : s.AllowsAll events) (hquiet : ∀ e ∈ events, e.IsQuiet) :
    (s.afterAll events).requested = false := by
  refine afterAll_of_after (P := fun s => s.requested = false) h hallows ?_
  intro s e he _ hs
  have hsame := hquiet e he
  cases e with
  | sendShutdown value =>
    cases hsame
    simp only [requested, Bool.or_eq_false_iff] at hs ⊢
    exact ⟨⟨rfl, hs.1.2⟩, hs.2⟩
  | dropHandle => exact hs
  | dropShutdown => exact hsame.elim
  | stop => exact hsame.elim

end Signals

/-- A call of the worker: what has happened since the one before, and what was answered. -/
structure Beat where
  before : List Event
  call : Call
  answer : Answer call

namespace Beat

/-- The signals at the moment of the call. -/
def signals (b : Beat) (s : Signals) : Signals := s.afterAll b.before

/-- The signals behind the call. Who waits takes notice of what wakes him. -/
def leaves (b : Beat) (s : Signals) : Signals :=
  match b.call with
  | .wake hearStop => ((b.signals s).wake hearStop).2
  | _ => b.signals s

/-- Can the call be answered like this? -/
def Fits (b : Beat) (s : Signals) : Prop :=
  s.AllowsAll b.before ∧ (b.signals s).Answers b.call b.answer

@[simp] theorem requested_leaves (b : Beat) (s : Signals) :
    (b.leaves s).requested = (b.signals s).requested := by
  unfold leaves
  split
  · exact Signals.requested_wake ..
  · rfl

@[simp] theorem stop_isOpen_leaves (b : Beat) (s : Signals) :
    (b.leaves s).stop.isOpen = (b.signals s).stop.isOpen := by
  unfold leaves
  split
  · exact Signals.stop_isOpen_wake ..
  · rfl

end Beat

/-- The calls of a worker so far. -/
abbrev History : Type := List Beat

namespace History

/-- The signals behind all calls so far. -/
def signals (start : Signals) (past : History) : Signals :=
  past.foldl (fun s b => b.leaves s) start

@[simp] theorem signals_nil (start : Signals) : signals start [] = start := rfl

@[simp] theorem signals_append (start : Signals) (past more : History) :
    signals start (past ++ more) = signals (signals start past) more :=
  List.foldl_append

@[simp] theorem signals_cons (start : Signals) (b : Beat) (past : History) :
    signals start (b :: past) = signals (b.leaves start) past := rfl

/-- Something holds of every call of a history, with the calls before it and after it. -/
def Everywhere (P : History → Beat → History → Prop) (past : History) : Prop :=
  ∀ earlier b later, past = earlier ++ b :: later → P earlier b later

@[simp] theorem everywhere_nil (P : History → Beat → History → Prop) : Everywhere P [] := by
  intro earlier b later h
  cases earlier <;> cases h

theorem everywhere_cons {P : History → Beat → History → Prop} {c : Beat} {calls : History} :
    Everywhere P (c :: calls) ↔ P [] c calls ∧ Everywhere (fun earlier => P (c :: earlier)) calls := by
  constructor
  · intro h
    exact ⟨h [] c calls rfl, fun earlier b later heq => h (c :: earlier) b later (by rw [heq]; rfl)⟩
  · rintro ⟨hfirst, hrest⟩ earlier b later heq
    cases earlier with
    | nil =>
      obtain ⟨rfl, rfl⟩ := List.cons.inj heq
      exact hfirst
    | cons c' earlier =>
      obtain ⟨rfl, hcalls⟩ := List.cons.inj heq
      exact hrest earlier b later hcalls

theorem everywhere_append {P : History → Beat → History → Prop} {past calls : History} :
    Everywhere P (past ++ calls) ↔
      Everywhere (fun earlier b later => P earlier b (later ++ calls)) past ∧
      Everywhere (fun earlier => P (past ++ earlier)) calls := by
  induction past generalizing P with
  | nil => simp
  | cons c past ih => simp only [List.cons_append, everywhere_cons, ih, and_assoc]

theorem Everywhere.mono {P Q : History → Beat → History → Prop} {past : History}
    (h : Everywhere P past) (hpq : ∀ earlier b later, P earlier b later → Q earlier b later) :
    Everywhere Q past :=
  fun earlier b later heq => hpq earlier b later (h earlier b later heq)

theorem everywhere_of_mem {P : History → Beat → History → Prop} {past : History}
    (h : ∀ b ∈ past, ∀ earlier later, P earlier b later) : Everywhere P past := by
  rintro earlier b later rfl
  exact h b (by simp) earlier later

/-- Every call of a history could be answered as it was. -/
def Coherent (start : Signals) (past : History) : Prop :=
  past.Everywhere fun earlier b _ => b.Fits (signals start earlier)

theorem coherent_cons {start : Signals} {c : Beat} {calls : History} :
    Coherent start (c :: calls) ↔ c.Fits start ∧ Coherent (c.leaves start) calls :=
  everywhere_cons

theorem coherent_append {start : Signals} {past calls : History} :
    Coherent start (past ++ calls) ↔ Coherent start past ∧ Coherent (signals start past) calls := by
  simp only [Coherent, everywhere_append, signals_append]

theorem stop_closed_signals {start : Signals} {past : History} (h : start.stop.isOpen = false)
    (hpast : Coherent start past) : (signals start past).stop.isOpen = false := by
  induction past generalizing start with
  | nil => exact h
  | cons b past ih =>
    obtain ⟨⟨hallows, -⟩, hrest⟩ := coherent_cons.mp hpast
    refine ih ?_ hrest
    rw [Beat.stop_isOpen_leaves]
    exact Signals.stop_closed_afterAll h hallows

/-- While nothing but this happens, nobody asks for a stop. -/
theorem not_requested_of_quiet {start : Signals} {past : History} (h : start.requested = false)
    (hpast : Coherent start past) (hquiet : ∀ b ∈ past, ∀ e ∈ b.before, e.IsQuiet) :
    past.Everywhere fun earlier b _ => (b.signals (signals start earlier)).requested = false := by
  induction past generalizing start with
  | nil => exact everywhere_nil _
  | cons b past ih =>
    obtain ⟨⟨hallows, -⟩, hrest⟩ := coherent_cons.mp hpast
    have hnow : (b.signals start).requested = false :=
      Signals.not_requested_of_quiet h hallows (hquiet b List.mem_cons_self)
    refine everywhere_cons.mpr ⟨hnow, ?_⟩
    exact ih (by rw [Beat.requested_leaves, hnow]) hrest
      fun c hc => hquiet c (List.mem_cons_of_mem b hc)

/-- All that happened outside. -/
def events (past : History) : List Event := past.flatMap Beat.before

end History

/-- Whatever happens between two calls, and whatever the outbox and the queue answer. -/
def schedule (start : Signals) : Conduct Call Answer History := fun c past answer past' =>
  ∃ events, Beat.Fits ⟨events, c, answer⟩ (History.signals start past) ∧
    past' = past ++ [⟨events, c, answer⟩]

/-- Every call has an answer, also if nothing happens. -/
theorem exists_schedule (start : Signals) (c : Call) (past : History) :
    ∃ answer past', schedule start c past answer past' := by
  have hanswer : ∃ answer, (History.signals start past).Answers c answer := by
    cases c with
    | now => exact ⟨(0 : Int), trivial⟩
    | clock => exact ⟨(0 : Nat), trivial⟩
    | stopRequested => exact ⟨_, rfl⟩
    | wake hearStop => exact ⟨_, rfl⟩
    | findPending name limit deadline => exact ⟨none, trivial⟩
    | enqueue task options => exact ⟨.error (.other ""), trivial⟩
    | markSuccess id => exact ⟨.ok true, trivial⟩
    | markFailed id reason => exact ⟨.ok true, trivial⟩
    | recordFailure id reason maxAttempts => exact ⟨.ok .pending, trivial⟩
    | pendingStats name => exact ⟨.ok (0, 0), trivial⟩
    | count counter => exact ⟨(), trivial⟩
    | setGauges pending age => exact ⟨(), trivial⟩
  obtain ⟨answer, hanswer⟩ := hanswer
  exact ⟨answer, _, [], ⟨trivial, hanswer⟩, rfl⟩

/-- Every run makes a coherent history. -/
theorem coherent_of_runs {start : Signals} {α : Type} {d : Dialogue Call Answer α}
    {past past' : History} {value : α} (h : d.Runs (schedule start) past value past')
    (hpast : past.Coherent start) : past'.Coherent start := by
  induction d generalizing past with
  | done v =>
    obtain ⟨-, rfl⟩ := h
    exact hpast
  | ask question next ih =>
    obtain ⟨answer, s₁, ⟨events, hfits, rfl⟩, hr⟩ := h
    exact ih answer hr (History.coherent_append.mpr
      ⟨hpast, History.coherent_cons.mpr ⟨hfits, History.everywhere_nil _⟩⟩)

end SignIn.Outbox
