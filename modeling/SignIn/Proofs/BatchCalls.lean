import SignIn.Proofs.WorkerTrace

/-!
# The calls of a batch

What can be said of the calls of a batch, wherever it stands in the life of a worker.
Nothing is fetched in between. Directly before each event there is a look at the gate. An event
that was enqueued has its outcome recorded before the next check, except where the number of
the attempt does not fit into its word, and a batch is broken off only there.
-/
namespace SignIn.Outbox

/-! ## What is seen of a call -/

namespace Beat

/-- The deadline of a fetch. A polling batch has none. -/
def deadline? (b : Beat) : Option (Option Nat) :=
  match b.role with
  | .fetch deadline => some deadline
  | _ => none

/-- The event whose outcome is recorded. -/
def settled? (b : Beat) : Option Uuid :=
  match b.role with
  | .settle id => some id
  | _ => none

/-- Did the table panic, while it counted an attempt? -/
def Breaks (b : Beat) (panic : Panic) : Prop :=
  ∃ events id reason maxAttempts, b = ⟨events, .recordFailure id reason maxAttempts, .panicked panic⟩

/-- A call of a batch, after its fetch. -/
def IsInner (b : Beat) : Prop := b.role ≠ .wait ∧ b.deadline? = none

theorem isInner_of_role {b : Beat} {r : Role} (h : b.role = r) (hwait : r ≠ .wait)
    (hfetch : ∀ deadline, r ≠ .fetch deadline) : b.IsInner := by
  refine ⟨by rwa [h], ?_⟩
  unfold deadline?
  split
  · next deadline hrole => exact absurd (h.symm.trans hrole) (hfetch deadline)
  · rfl

theorem deadline?_of_fetch {b : Beat} {deadline : Option Nat} (h : b.role = .fetch deadline) :
    b.deadline? = some deadline := by
  rw [deadline?, h]

theorem Counts.role {b : Beat} (h : b.Counts) : b.role = .figure := by
  obtain ⟨counter, hcall⟩ := h
  exact congrArg Call.role hcall

theorem Reports.role {b : Beat} (h : b.Reports) : b.role = .figure := by
  obtain ⟨name, hcall⟩ | ⟨pending, age, hcall⟩ := h
  · exact congrArg Call.role hcall
  · exact congrArg Call.role hcall

theorem Looks.role {b : Beat} {isSet : Bool} {gate : Gate} (h : b.Looks isSet gate) :
    b.role = .check := by
  cases gate with
  | never => exact h.elim
  | signals =>
    obtain ⟨happened, rfl⟩ := h
    rfl
  | deadline time =>
    obtain ⟨happened, now, rfl, -⟩ := h
    rfl

end Beat

namespace History

/-- The deadlines of all batches, in their order. -/
def fetches (past : History) : List (Option Nat) := past.filterMap Beat.deadline?

/-- The events of all batches. -/
def found (past : History) : List OutboxEvent := past.flatMap Beat.found

/-- The events whose outcome is recorded before the next check. -/
def settledNext (past : History) : List Uuid :=
  (past.takeWhile (·.role ≠ .check)).filterMap Beat.settled?

/-- Is a stop asked for at this call? -/
def requestedAt (start : Signals) (earlier : History) (b : Beat) : Bool :=
  (b.signals (signals start earlier)).requested

/-- Is this the first call for an event? One for which no task can be built is settled at once. -/
def OpensRow (earlier : History) (b : Beat) : Prop :=
  b.role = .opening ∨
    (∃ id, b.role = .settle id) ∧ ∀ c ∈ earlier.getLast?, ∀ options, c.role ≠ .enqueue options

theorem not_opensRow {earlier : History} {b : Beat} {r : Role} (h : b.role = r)
    (hopening : r ≠ .opening) (hsettle : ∀ id, r ≠ .settle id) : ¬ OpensRow earlier b := by
  rintro (hr | ⟨⟨id, hr⟩, -⟩)
  · exact hopening (h.symm.trans hr)
  · exact hsettle id (h.symm.trans hr)

theorem fetches_append (past calls : History) :
    fetches (past ++ calls) = fetches past ++ fetches calls :=
  List.filterMap_append

theorem mem_found_append {e : OutboxEvent} {calls : History} (h : e ∈ found calls)
    (past : History) : e ∈ found (past ++ calls) := by
  rw [found, List.flatMap_append]
  exact List.mem_append_right _ h

theorem fetches_of_inner {past : History} (h : ∀ b ∈ past, b.IsInner) : fetches past = [] :=
  List.filterMap_eq_nil_iff.mpr fun b hb => (h b hb).2

theorem settledNext_append {past calls : History} (h : settledNext calls = []) :
    settledNext (past ++ calls) = settledNext past := by
  unfold settledNext at h ⊢
  rw [List.takeWhile_append]
  split
  · next hwhole =>
    have hpast : past.takeWhile (·.role ≠ .check) = past :=
      (List.takeWhile_prefix _).eq_of_length hwhole
    rw [List.filterMap_append, h, hpast, List.append_nil]
  · rfl

theorem settledNext_of_check {b : Beat} (h : b.role = .check) (calls : History) :
    settledNext (b :: calls) = [] := by
  simp [settledNext, h]

theorem settledNext_of_figures {past : History} (h : ∀ b ∈ past, b.role = .figure) :
    settledNext past = [] := by
  refine List.filterMap_eq_nil_iff.mpr fun b hb => ?_
  have hrole : b.role = .figure := h b ((List.takeWhile_prefix _).mem hb)
  rw [Beat.settled?, hrole]

end History

open History

variable {p : Processor} {e : OutboxEvent} {gate : Gate} {events : List OutboxEvent}
variable {panic : Option Panic} {calls : List Beat}

/-! ## The calls for one event -/

theorem shape_of_settles (h : Settles e panic calls) :
    (∃ b figures, calls = b :: figures ∧ b.role = .settle e.id ∧ ∀ c ∈ figures, c.role = .figure) ∨
      Decimal.Range.i32.contains (e.attempts + 1) = false ∧ calls = [] ∧
        panic = some .addOverflow := by
  cases h with
  | recorded hb hcounts => exact .inl ⟨_, _, rfl, hb, fun c hc => (hcounts c hc).role⟩
  | overflow hrange => exact .inr ⟨hrange, rfl, rfl⟩
  | broken happened reason maxAttempts panic =>
    exact .inl ⟨_, [], rfl, rfl, fun c hc => absurd hc List.not_mem_nil⟩

theorem shape_of_handles (h : Handles p e panic calls) :
    (∃ b figures, calls = b :: figures ∧ b.role = .settle e.id ∧ ∀ c ∈ figures, c.role = .figure) ∨
      ∃ now enqueue more, calls = now :: enqueue :: more ∧ now.role = .opening ∧
        enqueue.role = .enqueue (p.options e) ∧ Settles e panic more := by
  cases h with
  | rejected hcall hcounts =>
    obtain ⟨reason, hcall⟩ := hcall
    exact .inl ⟨_, _, rfl, congrArg Call.role hcall, fun c hc => (hcounts c hc).role⟩
  | enqueued hnow henqueue hsettles =>
    obtain ⟨task, hcall⟩ := henqueue
    exact .inr ⟨_, _, _, rfl, congrArg Call.role hnow, congrArg Call.role hcall, hsettles⟩

theorem role_of_settles (h : Settles e panic calls) :
    ∀ b ∈ calls, b.role = .settle e.id ∨ b.role = .figure := by
  rcases shape_of_settles h with ⟨b, figures, rfl, hb, hfigures⟩ | ⟨-, rfl, -⟩
  · rw [List.forall_mem_cons]
    exact ⟨.inl hb, fun c hc => .inr (hfigures c hc)⟩
  · exact fun b hb => absurd hb List.not_mem_nil

theorem settledNext_of_settle {b : Beat} {id : Uuid} (hb : b.role = .settle id)
    (hcalls : settledNext calls = []) : settledNext (b :: calls) = [id] := by
  unfold settledNext at hcalls ⊢
  rw [List.takeWhile_cons_of_pos (by simp [hb]), List.filterMap_cons_some (by rw [Beat.settled?, hb]),
    hcalls]

/-! ### Nothing is fetched in between -/

theorem isInner_of_figures (h : ∀ b ∈ calls, b.role = .figure) : ∀ b ∈ calls, b.IsInner :=
  fun b hb => Beat.isInner_of_role (h b hb) nofun nofun

theorem isInner_of_handles (h : Handles p e panic calls) : ∀ b ∈ calls, b.IsInner := by
  rcases shape_of_handles h with
    ⟨b, figures, rfl, hb, hfigures⟩ | ⟨now, enqueue, more, rfl, hnow, henqueue, hsettles⟩
  · rw [List.forall_mem_cons]
    exact ⟨Beat.isInner_of_role hb nofun nofun, isInner_of_figures hfigures⟩
  · rw [List.forall_mem_cons, List.forall_mem_cons]
    refine ⟨Beat.isInner_of_role hnow nofun nofun, Beat.isInner_of_role henqueue nofun nofun, ?_⟩
    intro b hb
    rcases role_of_settles hsettles b hb with hrole | hrole
    · exact Beat.isInner_of_role hrole nofun nofun
    · exact Beat.isInner_of_role hrole nofun nofun

theorem isInner_of_looks {look : Beat} {isSet : Bool} (h : look.Looks isSet gate) : look.IsInner :=
  Beat.isInner_of_role h.role nofun nofun

theorem isInner_of_empties (h : Empties p gate events panic calls) : ∀ b ∈ calls, b.IsInner := by
  induction h with
  | done => exact fun b hb => absurd hb List.not_mem_nil
  | stopped hlook =>
    rw [List.forall_mem_singleton]
    exact isInner_of_looks hlook
  | next hlook hhandles hmore ih =>
    rw [List.forall_mem_cons, List.forall_mem_append]
    exact ⟨isInner_of_looks hlook, isInner_of_handles hhandles, ih⟩
  | broken hlook hhandles =>
    rw [List.forall_mem_cons]
    exact ⟨isInner_of_looks hlook, isInner_of_handles hhandles⟩

/-! ### No event is begun without a look -/

/-- Directly before an event there is a look that does not find the gate set. -/
def Gated (gate : Gate) (earlier : History) (b : Beat) : Prop :=
  OpensRow earlier b → ∃ prior look, earlier = prior ++ [look] ∧ look.Looks false gate

theorem gated_of_role {earlier : History} {b : Beat} {r : Role} (h : b.role = r)
    (hopening : r ≠ .opening) (hsettle : ∀ id, r ≠ .settle id) : Gated gate earlier b :=
  fun hopens => absurd hopens (not_opensRow h hopening hsettle)

/-- What is recorded after an enqueue does not begin another event. -/
theorem gated_of_settles {enqueue : Beat} {options : TaskOptions} (h : Settles e panic calls)
    (henqueue : enqueue.role = .enqueue options) (before : History) :
    Everywhere (fun earlier b _ => Gated gate (before ++ enqueue :: earlier) b) calls := by
  rcases shape_of_settles h with ⟨b, figures, rfl, hb, hfigures⟩ | ⟨-, rfl, -⟩
  · refine everywhere_cons.mpr ⟨?_, everywhere_of_mem fun c hc _ _ =>
      gated_of_role (hfigures c hc) nofun nofun⟩
    -- What is recorded stands directly behind the enqueue.
    rintro (hopening | ⟨-, hlast⟩)
    · rw [hb] at hopening
      cases hopening
    · exact absurd henqueue (hlast enqueue (by simp) options)
  · exact everywhere_nil _

theorem gated_of_handles {look : Beat} (h : Handles p e panic calls) (hlook : look.Looks false gate)
    (before : History) :
    Everywhere (fun earlier b _ => Gated gate (before ++ look :: earlier) b) calls := by
  rcases shape_of_handles h with
    ⟨b, figures, rfl, hb, hfigures⟩ | ⟨now, enqueue, more, rfl, hnow, henqueue, hsettles⟩
  · refine everywhere_cons.mpr ⟨fun _ => ⟨before, look, rfl, hlook⟩, ?_⟩
    exact everywhere_of_mem fun c hc _ _ => gated_of_role (hfigures c hc) nofun nofun
  · refine everywhere_cons.mpr ⟨fun _ => ⟨before, look, rfl, hlook⟩,
      everywhere_cons.mpr ⟨gated_of_role henqueue nofun nofun, ?_⟩⟩
    have hgated : Everywhere (fun earlier b _ =>
        Gated gate ((before ++ [look, now]) ++ enqueue :: earlier) b) more :=
      gated_of_settles hsettles henqueue (before ++ [look, now])
    simpa using hgated

theorem gated_of_empties (h : Empties p gate events panic calls) (before : History) :
    Everywhere (fun earlier b _ => Gated gate (before ++ earlier) b) calls := by
  induction h generalizing before with
  | done => exact everywhere_nil _
  | stopped hlook =>
    exact everywhere_cons.mpr ⟨gated_of_role hlook.role nofun nofun, everywhere_nil _⟩
  | @next e rest look calls more panic hlook hhandles hmore ih =>
    refine everywhere_cons.mpr ⟨gated_of_role hlook.role nofun nofun, everywhere_append.mpr ⟨?_, ?_⟩⟩
    · exact gated_of_handles hhandles hlook before
    · have hgated := ih (before ++ look :: calls)
      simpa using hgated
  | broken hlook hhandles =>
    exact everywhere_cons.mpr ⟨gated_of_role hlook.role nofun nofun,
      gated_of_handles hhandles hlook before⟩

/-! ### Every enqueue has its outcome recorded -/

/-- After an enqueue the outcome of its event, and of no other, is recorded before the next check,
unless the number of the attempt does not fit into its word. -/
def Settled (p : Processor) (found : List OutboxEvent) (panic : Option Panic) (b : Beat)
    (later : History) : Prop :=
  ∀ options, b.role = .enqueue options → ∃ e ∈ found, options = p.options e ∧
    (settledNext later = [e.id] ∨
      Decimal.Range.i32.contains (e.attempts + 1) = false ∧ later = [] ∧ panic = some .addOverflow)

theorem settled_of_role {found : List OutboxEvent} {b : Beat} {later : History} {r : Role}
    (h : b.role = r) (hr : ∀ options, r ≠ .enqueue options) : Settled p found panic b later :=
  fun options hrole => absurd (h.symm.trans hrole) (hr options)

theorem Settled.mono {found found' : List OutboxEvent} {b : Beat} {later : History}
    (h : Settled p found panic b later) (hfound : ∀ e ∈ found, e ∈ found') :
    Settled p found' panic b later := by
  intro options hrole
  obtain ⟨e, he, hoptions, hsettled⟩ := h options hrole
  exact ⟨e, hfound e he, hoptions, hsettled⟩

/-- What comes later does not change it. -/
theorem Settled.append {found : List OutboxEvent} {b : Beat} {later more : History}
    (h : Settled p found none b later) (hmore : settledNext more = []) (panic : Option Panic) :
    Settled p found panic b (later ++ more) := by
  intro options hrole
  obtain ⟨e, he, hoptions, hsettled | ⟨-, -, hnone⟩⟩ := h options hrole
  · exact ⟨e, he, hoptions, .inl (by rw [settledNext_append hmore, hsettled])⟩
  · cases hnone

theorem settled_of_handles (h : Handles p e panic calls) :
    Everywhere (fun _ => Settled p [e] panic) calls := by
  rcases shape_of_handles h with
    ⟨b, figures, rfl, hb, hfigures⟩ | ⟨now, enqueue, more, rfl, hnow, henqueue, hsettles⟩
  · refine everywhere_cons.mpr ⟨settled_of_role hb nofun, ?_⟩
    exact everywhere_of_mem fun c hc _ _ => settled_of_role (hfigures c hc) nofun
  · refine everywhere_cons.mpr ⟨settled_of_role hnow nofun, everywhere_cons.mpr ⟨?_, ?_⟩⟩
    · intro options hrole
      rw [henqueue] at hrole
      cases hrole
      refine ⟨e, List.mem_singleton_self e, rfl, ?_⟩
      rcases shape_of_settles hsettles with ⟨b, figures, rfl, hb, hfigures⟩ | hoverflow
      · exact .inl (settledNext_of_settle hb (settledNext_of_figures hfigures))
      · exact .inr hoverflow
    · refine everywhere_of_mem fun b hb _ _ => ?_
      rcases role_of_settles hsettles b hb with hrole | hrole
      · exact settled_of_role hrole nofun
      · exact settled_of_role hrole nofun

theorem settledNext_of_empties (h : Empties p gate events panic calls) : settledNext calls = [] := by
  cases h with
  | done => rfl
  | stopped hlook => exact settledNext_of_check hlook.role _
  | next hlook => exact settledNext_of_check hlook.role _
  | broken hlook => exact settledNext_of_check hlook.role _

theorem settled_of_empties (h : Empties p gate events panic calls) :
    Everywhere (fun _ => Settled p events panic) calls := by
  induction h with
  | done => exact everywhere_nil _
  | stopped hlook => exact everywhere_cons.mpr ⟨settled_of_role hlook.role nofun, everywhere_nil _⟩
  | next hlook hhandles hmore ih =>
    -- The calls for the other events begin with a check, so they change nothing for this one.
    refine everywhere_cons.mpr ⟨settled_of_role hlook.role nofun, everywhere_append.mpr ⟨?_, ?_⟩⟩
    · refine (settled_of_handles hhandles).mono fun _ b later hsettled => ?_
      exact (hsettled.append (settledNext_of_empties hmore) _).mono (by simp)
    · exact ih.mono fun _ b later hsettled => hsettled.mono fun _ => List.mem_cons_of_mem _
  | broken hlook hhandles =>
    refine everywhere_cons.mpr ⟨settled_of_role hlook.role nofun, ?_⟩
    exact (settled_of_handles hhandles).mono fun _ b later hsettled => hsettled.mono (by simp)

/-! ## The calls of a batch -/

theorem shape_of_rounds (h : Rounds p gate panic calls) :
    ∃ fetch inner figures, calls = fetch :: (inner ++ figures) ∧
      fetch.role = .fetch gate.deadline? ∧ Empties p gate fetch.found panic inner ∧
      (∀ b ∈ figures, b.role = .figure) ∧ (panic ≠ none → figures = []) := by
  cases h with
  | whole hbatch hreports =>
    cases hbatch with
    | fetched hcall hempties =>
      exact ⟨_, _, _, rfl, congrArg Call.role hcall, hempties, fun b hb => (hreports b hb).role,
        fun hsome => absurd rfl hsome⟩
  | broken hbatch =>
    cases hbatch with
    | fetched hcall hempties =>
      exact ⟨_, _, [], by rw [List.append_nil], congrArg Call.role hcall, hempties,
        fun b hb => absurd hb List.not_mem_nil, fun _ => rfl⟩

theorem fetches_of_rounds (h : Rounds p gate panic calls) : fetches calls = [gate.deadline?] := by
  obtain ⟨fetch, inner, figures, rfl, hfetch, hempties, hfigures, -⟩ := shape_of_rounds h
  have hinner : fetches (inner ++ figures) = [] := by
    rw [fetches_append, fetches_of_inner (isInner_of_empties hempties),
      fetches_of_inner (isInner_of_figures hfigures), List.append_nil]
  rw [fetches, List.filterMap_cons_some (Beat.deadline?_of_fetch hfetch)]
  exact congrArg _ hinner

theorem gated_of_rounds (h : Rounds p gate panic calls) (before : History) :
    Everywhere (fun earlier b _ => Gated gate (before ++ earlier) b) calls := by
  obtain ⟨fetch, inner, figures, rfl, hfetch, hempties, hfigures, -⟩ := shape_of_rounds h
  refine everywhere_cons.mpr ⟨gated_of_role hfetch nofun nofun, everywhere_append.mpr ⟨?_, ?_⟩⟩
  · have hgated := gated_of_empties hempties (before ++ [fetch])
    simpa using hgated
  · exact everywhere_of_mem fun b hb _ _ => gated_of_role (hfigures b hb) nofun nofun

theorem settled_of_rounds (h : Rounds p gate panic calls) :
    Everywhere (fun earlier => Settled p (found earlier) panic) calls := by
  obtain ⟨fetch, inner, figures, rfl, hfetch, hempties, hfigures, hbroken⟩ := shape_of_rounds h
  have hfound : ∀ earlier, ∀ e ∈ fetch.found, e ∈ found (fetch :: earlier) :=
    fun earlier e he => List.mem_append_left _ he
  refine everywhere_cons.mpr ⟨settled_of_role hfetch nofun, everywhere_append.mpr ⟨?_, ?_⟩⟩
  · refine (settled_of_empties hempties).mono fun earlier b later hsettled => ?_
    cases panic with
    | none => exact (hsettled.append (settledNext_of_figures hfigures) none).mono (hfound earlier)
    | some reason =>
      rw [hbroken nofun, List.append_nil]
      exact hsettled.mono (hfound earlier)
  · exact everywhere_of_mem fun b hb _ _ => settled_of_role (hfigures b hb) nofun

/-! ### Why a batch is broken off -/

/-- The number of an attempt did not fit into its word, in the worker or in the table. -/
def Overflows (found : List OutboxEvent) (reason : Panic) (calls : List Beat) : Prop :=
  (reason = .addOverflow ∧ ∃ e ∈ found, Decimal.Range.i32.contains (e.attempts + 1) = false) ∨
    ∃ b ∈ calls, b.Breaks reason

theorem overflows_of_settles {reason : Panic} (h : Settles e (some reason) calls) :
    Overflows [e] reason calls := by
  cases h with
  | overflow hrange => exact .inl ⟨rfl, e, List.mem_singleton_self e, hrange⟩
  | broken happened text maxAttempts panic =>
    exact .inr ⟨_, List.mem_singleton_self _, happened, e.id, text, maxAttempts, rfl⟩

theorem Overflows.mono {found found' : List OutboxEvent} {reason : Panic} {calls' : List Beat}
    (h : Overflows found reason calls) (hfound : ∀ e ∈ found, e ∈ found')
    (hcalls : ∀ b ∈ calls, b ∈ calls') : Overflows found' reason calls' := by
  rcases h with ⟨hreason, e, he, hrange⟩ | ⟨b, hb, hbreaks⟩
  · exact .inl ⟨hreason, e, hfound e he, hrange⟩
  · exact .inr ⟨b, hcalls b hb, hbreaks⟩

theorem overflows_of_handles {reason : Panic} (h : Handles p e (some reason) calls) :
    Overflows [e] reason calls := by
  cases h with
  | enqueued hnow henqueue hsettles =>
    exact (overflows_of_settles hsettles).mono (fun _ he => he)
      fun b hb => List.mem_cons_of_mem _ (List.mem_cons_of_mem _ hb)

theorem overflows_of_empties {reason : Panic} (h : Empties p gate events panic calls)
    (hpanic : panic = some reason) : Overflows events reason calls := by
  induction h with
  | done => cases hpanic
  | stopped hlook => cases hpanic
  | next hlook hhandles hmore ih =>
    exact (ih hpanic).mono (fun _ => List.mem_cons_of_mem _)
      fun b hb => List.mem_cons_of_mem _ (List.mem_append_right _ hb)
  | broken hlook hhandles =>
    cases hpanic
    exact (overflows_of_handles hhandles).mono (by simp) fun b => List.mem_cons_of_mem _

theorem overflows_of_rounds {reason : Panic} (h : Rounds p gate (some reason) calls) :
    Overflows (found calls) reason calls := by
  obtain ⟨fetch, inner, figures, rfl, -, hempties, -⟩ := shape_of_rounds h
  refine (overflows_of_empties hempties rfl).mono (fun e he => List.mem_append_left _ he) ?_
  exact fun b hb => List.mem_cons_of_mem _ (List.mem_append_left _ hb)

end SignIn.Outbox
