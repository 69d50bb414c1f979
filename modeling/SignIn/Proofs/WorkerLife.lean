import SignIn.Proofs.BatchCalls

/-!
# The life of a worker

Whatever happens to the signals of a worker, and whatever the outbox and the queue
answer, a worker polls, and once it notices that it has to stop it drains the outbox
once and ends. No event of a polling batch is begun without a look that finds no request to
stop, and no polling batch while such a request stands. An event that was enqueued has its
outcome recorded before the next check, except where the number of the attempt does not fit
into its word. A worker whose owner has gone without a word goes on.
-/
namespace SignIn.Outbox

open History

variable {p : Processor} {gate : Gate} {panic : Option Panic} {calls : List Beat}
variable {start : Signals} {o : Outcome Empty Turn}

/-! ## One turn -/

/-! ### What a wait and a batch are begun with -/

/-- What goes before a wait, a polling batch and a draining batch. -/
structure Begins (p : Processor) (hearStop : Bool) (earlier : History) (b : Beat) : Prop where
  wait : b.role = .wait → ∃ happened, earlier = [⟨happened, .stopRequested, false⟩]
  poll : b.deadline? = some none → ∃ happened happened',
    earlier = [⟨happened, .stopRequested, false⟩, ⟨happened', .wake hearStop, .tick⟩]
  drain : ∀ deadline, b.deadline? = some (some deadline) → ∃ notice happened, ∃ noticed : Nat,
    earlier = notice ++ [⟨happened, .clock, noticed⟩] ∧ Notices hearStop notice ∧
      deadline = noticed + p.config.shutdownGrace

variable {hearStop : Bool}

theorem begins_of_inner {earlier : History} {b : Beat} (h : b.IsInner) :
    Begins p hearStop earlier b where
  wait hwait := absurd hwait h.1
  poll hpoll := by
    rw [h.2] at hpoll
    cases hpoll
  drain deadline hdrain := by
    rw [h.2] at hdrain
    cases hdrain

theorem begins_of_check {earlier : History} {b : Beat} (h : b.role = .check) :
    Begins p hearStop earlier b :=
  begins_of_inner (Beat.isInner_of_role h nofun nofun)

theorem begins_of_wait {b : Beat} (h : b.role = .wait) (happened : List Event) :
    Begins p hearStop [⟨happened, .stopRequested, false⟩] b where
  wait _ := ⟨happened, rfl⟩
  poll hpoll := by
    rw [Beat.deadline?, h] at hpoll
    cases hpoll
  drain deadline hdrain := by
    rw [Beat.deadline?, h] at hdrain
    cases hdrain

theorem begins_of_poll {b : Beat} (h : b.role = .fetch none) (happened happened' : List Event) :
    Begins p hearStop
      [⟨happened, .stopRequested, false⟩, ⟨happened', .wake hearStop, .tick⟩] b where
  wait hwait := by
    rw [h] at hwait
    cases hwait
  poll _ := ⟨happened, happened', rfl⟩
  drain deadline hdrain := by
    rw [Beat.deadline?_of_fetch h] at hdrain
    cases hdrain

theorem begins_of_drain {b : Beat} {notice : List Beat} {noticed : Nat}
    (h : b.role = .fetch (some (noticed + p.config.shutdownGrace)))
    (hnotice : Notices hearStop notice) (happened : List Event) :
    Begins p hearStop (notice ++ [⟨happened, .clock, noticed⟩]) b where
  wait hwait := by
    rw [h] at hwait
    cases hwait
  poll hpoll := by
    rw [Beat.deadline?_of_fetch h] at hpoll
    cases hpoll
  drain deadline hdrain := by
    rw [Beat.deadline?_of_fetch h] at hdrain
    cases hdrain
    exact ⟨notice, happened, noticed, rfl, hnotice, rfl⟩

theorem begins_of_rounds {before : History} (h : Rounds p gate panic calls)
    (hfetch : ∀ fetch : Beat, fetch.role = .fetch gate.deadline? → Begins p hearStop before fetch) :
    Everywhere (fun earlier b _ => Begins p hearStop (before ++ earlier) b) calls := by
  obtain ⟨fetch, inner, figures, rfl, hrole, hempties, hfigures, -⟩ := shape_of_rounds h
  refine everywhere_cons.mpr ⟨by simpa using hfetch fetch hrole, ?_⟩
  refine everywhere_of_mem fun b hb _ _ => begins_of_inner ?_
  rcases List.mem_append.mp hb with hb | hb
  · exact isInner_of_empties hempties b hb
  · exact isInner_of_figures hfigures b hb

theorem begins_of_notices {notice : List Beat} (h : Notices hearStop notice) :
    Everywhere (fun earlier b _ => Begins p hearStop earlier b) notice := by
  cases h with
  | looking happened => exact everywhere_cons.mpr ⟨begins_of_check rfl, everywhere_nil _⟩
  | waiting happened happened' hstops =>
    exact everywhere_cons.mpr ⟨begins_of_check rfl,
      everywhere_cons.mpr ⟨begins_of_wait rfl happened, everywhere_nil _⟩⟩

theorem begins_of_turns (h : Turns p hearStop o calls) :
    Everywhere (fun earlier b _ => Begins p hearStop earlier b) calls := by
  cases h with
  | idle happened happened' hstops htick =>
    exact everywhere_cons.mpr ⟨begins_of_check rfl,
      everywhere_cons.mpr ⟨begins_of_wait rfl happened, everywhere_nil _⟩⟩
  | polled happened happened' hrounds =>
    refine everywhere_cons.mpr ⟨begins_of_check rfl,
      everywhere_cons.mpr ⟨begins_of_wait rfl happened, ?_⟩⟩
    exact begins_of_rounds hrounds fun fetch hrole => begins_of_poll hrole happened happened'
  | drained happened hnotice hgrace hrounds =>
    refine everywhere_append.mpr ⟨begins_of_notices hnotice,
      everywhere_cons.mpr ⟨begins_of_check rfl, ?_⟩⟩
    have hbegins := begins_of_rounds hrounds fun fetch hrole => begins_of_drain hrole hnotice happened
    simpa using hbegins
  | late happened hnotice hlate =>
    exact everywhere_append.mpr ⟨begins_of_notices hnotice,
      everywhere_cons.mpr ⟨begins_of_check rfl, everywhere_nil _⟩⟩

/-! ### A turn as a whole -/

theorem ofListening_ne_ended (hearStop : Bool) : Turn.ofListening hearStop ≠ .ended := by
  cases hearStop <;> nofun

theorem heard_ne_ended (hearStop : Bool) (wake : Wake) : Turn.heard hearStop wake ≠ .ended := by
  cases wake with
  | stopClosed => nofun
  | _ => exact ofListening_ne_ended hearStop

theorem unlessPanic_ne {t t' : Turn} (h : t ≠ t') :
    (.unlessPanic t panic : Outcome Empty Turn) ≠ .ok t' := by
  cases panic with
  | none => exact fun heq => h (Outcome.ok.inj heq)
  | some reason => nofun

theorem role_of_notices {notice : List Beat} (h : Notices hearStop notice) :
    ∀ b ∈ notice, b.role = .check ∨ b.role = .wait := by
  cases h with
  | looking happened =>
    rw [List.forall_mem_singleton]
    exact .inl rfl
  | waiting happened happened' hstops =>
    rw [List.forall_mem_cons, List.forall_mem_singleton]
    exact ⟨.inl rfl, .inr rfl⟩

theorem exists_look_of_notices {notice : List Beat} (h : Notices hearStop notice) :
    ∃ look more, notice = look :: more ∧ look.call = .stopRequested := by
  cases h with
  | looking happened => exact ⟨_, _, rfl, rfl⟩
  | waiting happened happened' hstops => exact ⟨_, _, rfl, rfl⟩

theorem fetches_of_notices {notice : List Beat} (h : Notices hearStop notice) :
    fetches notice = [] := by
  cases h <;> rfl

/-- A turn polls, if it does not drain. -/
theorem fetches_of_turns (h : Turns p hearStop o calls) :
    (∃ polls, fetches calls = List.replicate polls none ∧ o ≠ .ok .ended) ∨
      ∃ deadline, fetches calls = [some deadline] ∧ ∀ hearStop', o ≠ .ok (.ofListening hearStop') := by
  cases h with
  | @idle happened happened' wake hstops htick =>
    exact .inl ⟨0, rfl, fun heq => heard_ne_ended hearStop wake (Outcome.ok.inj heq)⟩
  | polled happened happened' hrounds =>
    exact .inl ⟨1, fetches_of_rounds hrounds, unlessPanic_ne (ofListening_ne_ended hearStop)⟩
  | @drained happened noticed notice calls panic hnotice hgrace hrounds =>
    refine .inr ⟨noticed + p.config.shutdownGrace, ?_,
      fun hearStop' => unlessPanic_ne (ofListening_ne_ended hearStop').symm⟩
    rw [fetches_append, fetches_of_notices hnotice, List.nil_append]
    exact fetches_of_rounds hrounds
  | late happened hnotice hlate =>
    refine .inl ⟨0, ?_, nofun⟩
    rw [fetches_append, fetches_of_notices hnotice]
    rfl

/-- Directly before an event of a polling batch there is a look that finds no request. -/
def Watched (earlier : History) (b : Beat) : Prop :=
  OpensRow earlier b → (∀ c ∈ earlier, ∀ deadline, c.deadline? ≠ some (some deadline)) →
    ∃ prior happened, earlier = prior ++ [⟨happened, .stopRequested, false⟩]

theorem watched_of_role {earlier : History} {b : Beat} {r : Role} (h : b.role = r)
    (hopening : r ≠ .opening) (hsettle : ∀ id, r ≠ .settle id) : Watched earlier b :=
  fun hopens => absurd hopens (not_opensRow h hopening hsettle)

theorem watched_of_notices {notice : List Beat} (h : Notices hearStop notice) (before : History) :
    Everywhere (fun earlier b _ => Watched (before ++ earlier) b) notice := by
  refine everywhere_of_mem fun b hb _ _ => ?_
  rcases role_of_notices h b hb with hrole | hrole
  · exact watched_of_role hrole nofun nofun
  · exact watched_of_role hrole nofun nofun

theorem watched_of_turns (h : Turns p hearStop o calls) (before : History) :
    Everywhere (fun earlier b _ => Watched (before ++ earlier) b) calls := by
  cases h with
  | idle happened happened' hstops htick =>
    exact everywhere_cons.mpr ⟨watched_of_role rfl nofun nofun,
      everywhere_cons.mpr ⟨watched_of_role rfl nofun nofun, everywhere_nil _⟩⟩
  | polled happened happened' hrounds =>
    refine everywhere_cons.mpr ⟨watched_of_role rfl nofun nofun,
      everywhere_cons.mpr ⟨watched_of_role rfl nofun nofun, ?_⟩⟩
    have hgated := gated_of_rounds hrounds
      (before ++ [⟨happened, .stopRequested, false⟩, ⟨happened', .wake hearStop, .tick⟩])
    refine hgated.mono fun earlier b _ hb hopens _ => ?_
    obtain ⟨prior, look, hprior, happened'', rfl⟩ := hb (by simpa using hopens)
    exact ⟨prior, happened'', by simpa using hprior⟩
  | drained happened hnotice hgrace hrounds =>
    obtain ⟨fetch, inner, figures, rfl, hfetch, -⟩ := shape_of_rounds hrounds
    refine everywhere_append.mpr ⟨watched_of_notices hnotice before,
      everywhere_cons.mpr ⟨watched_of_role rfl nofun nofun,
        everywhere_cons.mpr ⟨watched_of_role hfetch nofun nofun, ?_⟩⟩⟩
    -- The fetch that has gone before is one that drains.
    refine everywhere_of_mem fun b hb earlier _ hopens hpolling => ?_
    exact absurd (Beat.deadline?_of_fetch hfetch) (hpolling fetch (by simp) _)
  | late happened hnotice hlate =>
    exact everywhere_append.mpr ⟨watched_of_notices hnotice before,
      everywhere_cons.mpr ⟨watched_of_role rfl nofun nofun, everywhere_nil _⟩⟩

theorem settledNext_of_turns (h : Turns p hearStop o calls) : settledNext calls = [] := by
  have hnotice : ∀ {notice : List Beat}, Notices hearStop notice →
      ∀ more, settledNext (notice ++ more) = [] := by
    intro notice hnotice more
    obtain ⟨look, rest, rfl, hlook⟩ := exists_look_of_notices hnotice
    exact settledNext_of_check (congrArg Call.role hlook) _
  cases h with
  | idle => exact settledNext_of_check rfl _
  | polled => exact settledNext_of_check rfl _
  | drained happened h => exact hnotice h _
  | late happened h => exact hnotice h _

theorem settled_of_notices {notice : List Beat} (h : Notices hearStop notice) (more : List Beat) :
    Everywhere (fun earlier b later => Settled p (found earlier) panic b (later ++ more)) notice := by
  refine everywhere_of_mem fun b hb _ _ => ?_
  rcases role_of_notices h b hb with hrole | hrole
  · exact settled_of_role hrole nofun
  · exact settled_of_role hrole nofun

theorem settled_of_turns (h : Turns p hearStop o calls) :
    Everywhere (fun earlier => Settled p (found earlier) o.panic?) calls := by
  cases h with
  | idle happened happened' hstops htick =>
    exact everywhere_cons.mpr ⟨settled_of_role rfl nofun,
      everywhere_cons.mpr ⟨settled_of_role rfl nofun, everywhere_nil _⟩⟩
  | polled happened happened' hrounds =>
    refine everywhere_cons.mpr ⟨settled_of_role rfl nofun,
      everywhere_cons.mpr ⟨settled_of_role rfl nofun, ?_⟩⟩
    rw [Outcome.panic?_unlessPanic]
    exact settled_of_rounds hrounds
  | drained happened h hgrace hrounds =>
    refine everywhere_append.mpr ⟨settled_of_notices h _,
      everywhere_cons.mpr ⟨settled_of_role rfl nofun, ?_⟩⟩
    rw [Outcome.panic?_unlessPanic]
    refine (settled_of_rounds hrounds).mono fun earlier b later hsettled => hsettled.mono fun e he => ?_
    exact mem_found_append (List.mem_append_right _ he) _
  | late happened h hlate =>
    exact everywhere_append.mpr ⟨settled_of_notices h _,
      everywhere_cons.mpr ⟨settled_of_role rfl nofun, everywhere_nil _⟩⟩

/-! ## The whole life -/

/-- What holds of the calls of every turn, after those of the turns before, holds of a life. -/
theorem everywhere_of_lives {P : History → Beat → Prop} {past : History} (h : Lives p o past)
    (hpast : Coherent start past)
    (turn : ∀ hearStop o before calls, Lives p (.ok (.ofListening hearStop)) before →
      Turns p hearStop o calls → Coherent start (before ++ calls) →
      Everywhere (fun earlier b _ => P (before ++ earlier) b) calls) :
    Everywhere (fun earlier b _ => P earlier b) past := by
  induction h with
  | born => exact everywhere_nil _
  | turn hbefore hturns ih =>
    exact everywhere_append.mpr ⟨ih (coherent_append.mp hpast).1, turn _ _ _ _ hbefore hturns hpast⟩

/-- A worker that does not hear its owner has none any more. -/
theorem stop_closed_of_deaf {past : History} (h : Lives p o past) (hpast : Coherent start past)
    (ho : o = .ok .deaf) : (signals start past).stop.isOpen = false := by
  induction h with
  | born => cases ho
  | @turn hearStop o past calls hbefore hturns ih =>
    obtain ⟨hcoherent, hcalls⟩ := coherent_append.mp hpast
    have hdeaf : hearStop = false → (signals start (past ++ calls)).stop.isOpen = false := by
      rintro rfl
      rw [signals_append]
      exact stop_closed_signals (ih hcoherent rfl) hcalls
    have hlistens : Turn.ofListening hearStop = .deaf → hearStop = false := by
      cases hearStop with
      | false => exact fun _ => rfl
      | true => nofun
    cases hturns with
    | @idle happened happened' wake hstops htick =>
      cases wake with
      | stopClosed =>
        obtain ⟨-, hwait⟩ := coherent_cons.mp hcalls
        obtain ⟨⟨-, hanswer⟩, -⟩ := coherent_cons.mp hwait
        rw [signals_append, signals_cons, signals_cons, signals_nil, Beat.stop_isOpen_leaves]
        exact Signals.stop_closed_of_wake hanswer.symm
      | shutdown value => exact hdeaf (hlistens (Outcome.ok.inj ho))
      | shutdownClosed => exact hdeaf (hlistens (Outcome.ok.inj ho))
      | stop value => exact hdeaf (hlistens (Outcome.ok.inj ho))
      | tick => exact hdeaf (hlistens (Outcome.ok.inj ho))
    | @polled happened happened' calls panic hrounds =>
      cases panic with
      | none => exact hdeaf (hlistens (Outcome.ok.inj ho))
      | some reason => cases ho
    | @drained happened noticed notice calls panic hnotice hgrace hrounds =>
      cases panic with
      | none => cases ho
      | some reason => cases ho
    | late => cases ho

theorem fetches_of_lives {past : History} (h : Lives p o past) :
    ∃ polls drains, fetches past = List.replicate polls none ++ List.map some drains ∧
      drains.length ≤ 1 ∧ (o = .ok .ended → drains.length = 1) ∧
      ∀ hearStop, o = .ok (.ofListening hearStop) → drains = [] := by
  induction h with
  | born => exact ⟨0, [], rfl, by simp, nofun, fun _ _ => rfl⟩
  | @turn hearStop o past calls hbefore hturns ih =>
    -- Only the last turn may drain: a worker that takes another one has not drained yet.
    obtain ⟨polls, drains, hfetches, -, -, hnone⟩ := ih
    rw [hnone hearStop rfl, List.map_nil, List.append_nil] at hfetches
    rw [fetches_append, hfetches]
    rcases fetches_of_turns hturns with ⟨more, hmore, hended⟩ | ⟨deadline, hdrain, hlistening⟩
    · refine ⟨polls + more, [], ?_, by simp, fun heq => absurd heq hended, fun _ _ => rfl⟩
      rw [hmore, List.replicate_append_replicate, List.map_nil, List.append_nil]
    · exact ⟨polls, [deadline], by rw [hdrain]; rfl, Nat.le_refl 1, fun _ => rfl,
        fun hearStop' heq => absurd heq (hlistening hearStop')⟩

/-- A worker waits only if nobody asks for a stop, polls only if nobody does while it waits, and
drains because somebody does. -/
structure Attends (p : Processor) (start : Signals) (earlier : History) (b : Beat) : Prop where
  wait : b.role = .wait → ∃ prior look, earlier = prior ++ [look] ∧ look.call = .stopRequested ∧
    requestedAt start prior look = false
  poll : b.deadline? = some none → ∃ prior look wait, earlier = prior ++ [look, wait] ∧
    look.call = .stopRequested ∧ requestedAt start prior look = false ∧
      requestedAt start (prior ++ [look]) wait = false
  drain : ∀ deadline, b.deadline? = some (some deadline) → ∃ prior notice happened,
    ∃ noticed : Nat, earlier = prior ++ [notice, ⟨happened, .clock, noticed⟩] ∧
      requestedAt start prior notice = true ∧ deadline = noticed + p.config.shutdownGrace

theorem requestedAt_of_fits {prior : History} {happened : List Event} {isSet : Bool}
    (h : (⟨happened, .stopRequested, isSet⟩ : Beat).Fits (signals start prior)) :
    requestedAt start prior ⟨happened, .stopRequested, isSet⟩ = isSet :=
  h.2.symm

/-- A tick comes only while nobody asks for a stop: whatever has asked since the look wakes the
worker first. -/
theorem not_requestedAt_of_tick {prior : History} {look : Beat} {happened : List Event}
    (hlook : requestedAt start prior look = false)
    (hdeaf : hearStop = false → (signals start (prior ++ [look])).stop.isOpen = false)
    (hwait : (⟨happened, .wake hearStop, .tick⟩ : Beat).Fits (signals start (prior ++ [look]))) :
    requestedAt start (prior ++ [look]) ⟨happened, .wake hearStop, .tick⟩ = false := by
  obtain ⟨hallows, hanswer⟩ := hwait
  have hquiet : (signals start (prior ++ [look])).requested = false := by
    rw [signals_append, signals_cons, signals_nil, Beat.requested_leaves]
    exact hlook
  have hrouses : ((signals start (prior ++ [look])).afterAll happened).Rouses hearStop :=
    (Signals.rouses_of_not_requested hquiet).afterAll hdeaf hallows
  exact Signals.not_requested_of_tick hrouses hanswer.symm

theorem requestedAt_of_stops {prior : History} {happened : List Event} {wake : Wake}
    (hstops : wake.stops = true)
    (h : (⟨happened, .wake hearStop, wake⟩ : Beat).Fits (signals start prior)) :
    requestedAt start prior ⟨happened, .wake hearStop, wake⟩ = true := by
  have hanswer : wake = ((signals start prior).afterAll happened |>.wake hearStop).1 := h.2
  rw [hanswer] at hstops
  exact Signals.requested_of_stops hstops

theorem attends_of_lives {past : History} (h : Lives p o past) (hpast : Coherent start past) :
    Everywhere (fun earlier b _ => Attends p start earlier b) past := by
  refine everywhere_of_lives h hpast ?_
  rintro hearStop o before calls hbefore hturns hcoherent earlier b later rfl
  have hbegins := begins_of_turns hturns earlier b later rfl
  obtain ⟨hprior, hcalls⟩ := coherent_append.mp hcoherent
  obtain ⟨hearlier, -⟩ := coherent_append.mp hcalls
  constructor
  · intro hwait
    obtain ⟨happened, rfl⟩ := hbegins.wait hwait
    obtain ⟨hlook, -⟩ := coherent_cons.mp hearlier
    exact ⟨before, _, rfl, rfl, requestedAt_of_fits hlook⟩
  · intro hpoll
    obtain ⟨happened, happened', rfl⟩ := hbegins.poll hpoll
    obtain ⟨hlook, hrest⟩ := coherent_cons.mp hearlier
    obtain ⟨hwait, -⟩ := coherent_cons.mp hrest
    have hquiet := requestedAt_of_fits hlook
    refine ⟨before, _, _, rfl, rfl, hquiet, ?_⟩
    refine not_requestedAt_of_tick hquiet ?_ (by rwa [signals_append, signals_cons, signals_nil])
    -- Nobody is left who could ask a deaf worker to stop without waking it.
    rintro rfl
    have hclosed := stop_closed_of_deaf hbefore hprior rfl
    rw [signals_append]
    exact stop_closed_signals hclosed (coherent_cons.mpr ⟨hlook, everywhere_nil _⟩)
  · intro deadline hdrain
    obtain ⟨notice, happened, noticed, rfl, hnotice, rfl⟩ := hbegins.drain deadline hdrain
    obtain ⟨hnoticed, -⟩ := coherent_append.mp hearlier
    cases hnotice with
    | looking happened' =>
      obtain ⟨hlook, -⟩ := coherent_cons.mp hnoticed
      exact ⟨before, _, happened, noticed, by simp, requestedAt_of_fits hlook, rfl⟩
    | @waiting happened' happened'' wake hstops =>
      obtain ⟨hlook, hrest⟩ := coherent_cons.mp hnoticed
      obtain ⟨hwait, -⟩ := coherent_cons.mp hrest
      refine ⟨before ++ [⟨happened', .stopRequested, false⟩], ⟨happened'', .wake hearStop, wake⟩,
        happened, noticed, by simp, ?_, rfl⟩
      exact requestedAt_of_stops hstops (by rwa [signals_append, signals_cons, signals_nil])

theorem watched_of_lives {past : History} (h : Lives p o past) (hpast : Coherent start past) :
    Everywhere (fun earlier b _ => OpensRow earlier b →
      (∀ c ∈ earlier, ∀ deadline, c.deadline? ≠ some (some deadline)) →
      ∃ prior look, earlier = prior ++ [look] ∧ look.call = .stopRequested ∧
        requestedAt start prior look = false) past := by
  intro earlier b later hsplit hopens hpolling
  have hwatched : Everywhere (fun earlier b _ => Watched earlier b) past :=
    everywhere_of_lives h hpast fun _ _ before _ _ hturns _ => watched_of_turns hturns before
  obtain ⟨prior, happened, rfl⟩ := hwatched earlier b later hsplit hopens hpolling
  have hlook : (⟨happened, .stopRequested, false⟩ : Beat).Fits (signals start prior) :=
    hpast prior _ (b :: later) (by simpa using hsplit)
  exact ⟨prior, _, rfl, rfl, requestedAt_of_fits hlook⟩

theorem settled_of_lives {past : History} (h : Lives p o past) :
    Everywhere (fun earlier => Settled p (found earlier) o.panic?) past := by
  induction h with
  | born => exact everywhere_nil _
  | @turn hearStop o past calls hbefore hturns ih =>
    refine everywhere_append.mpr ⟨?_, ?_⟩
    · exact ih.mono fun earlier b later hsettled =>
        hsettled.append (settledNext_of_turns hturns) o.panic?
    · exact (settled_of_turns hturns).mono fun earlier b later hsettled =>
        hsettled.mono fun e he => mem_found_append he past

/-! ### Why a worker breaks off -/

theorem overflows_of_turns {reason : Panic} (h : Turns p hearStop o calls)
    (ho : o = .panicked reason) : Overflows (found calls) reason calls ∨
      reason = clockOverflow ∧ ∃ happened, ∃ noticed : Nat, ⟨happened, .clock, noticed⟩ ∈ calls ∧
        clockLimit < noticed + p.config.shutdownGrace := by
  cases h with
  | idle => cases ho
  | @polled happened happened' calls panic hrounds =>
    cases panic with
    | none => cases ho
    | some reason' =>
      cases ho
      refine .inl ((overflows_of_rounds hrounds).mono (fun e he => he) ?_)
      exact fun b hb => List.mem_cons_of_mem _ (List.mem_cons_of_mem _ hb)
  | @drained happened noticed notice calls panic hnotice hgrace hrounds =>
    cases panic with
    | none => cases ho
    | some reason' =>
      cases ho
      refine .inl ((overflows_of_rounds hrounds).mono (fun e he => ?_) fun b hb => by simp [hb])
      exact mem_found_append (List.mem_append_right _ he) notice
  | @late happened noticed notice hnotice hlate =>
    cases ho
    exact .inr ⟨rfl, happened, noticed, by simp, hlate⟩

theorem overflows_of_lives {reason : Panic} {past : History} (h : Lives p (.panicked reason) past) :
    Overflows (found past) reason past ∨
      reason = clockOverflow ∧ ∃ happened, ∃ noticed : Nat, ⟨happened, .clock, noticed⟩ ∈ past ∧
        clockLimit < noticed + p.config.shutdownGrace := by
  cases h with
  | turn hbefore hturns =>
    rcases overflows_of_turns hturns rfl with hoverflows | ⟨hreason, happened, noticed, hmem, hlate⟩
    · exact .inl (hoverflows.mono (fun e he => mem_found_append he _)
        fun b hb => List.mem_append_right _ hb)
    · exact .inr ⟨hreason, happened, noticed, List.mem_append_right _ hmem, hlate⟩

/-! ## What becomes of a worker -/

/-- A turn that is begun while a request stands is the last one. -/
theorem last_of_turns {past : History} (h : Turns p hearStop o calls)
    (hcoherent : Coherent (signals start past) calls) :
    ∃ look later, calls = look :: later ∧ look.call = .stopRequested ∧
      (requestedAt start past look = true → o = .ok .ended ∨ ∃ reason, o = .panicked reason) := by
  have hunasked : ∀ {happened : List Event} {later : List Beat}, Coherent (signals start past)
      (⟨happened, .stopRequested, false⟩ :: later) →
      requestedAt start past ⟨happened, .stopRequested, false⟩ = true →
      o = .ok .ended ∨ ∃ reason, o = .panicked reason := by
    intro happened later hcoherent hrequested
    rw [requestedAt_of_fits (coherent_cons.mp hcoherent).1] at hrequested
    cases hrequested
  cases h with
  | idle happened happened' hstops htick => exact ⟨_, _, rfl, rfl, hunasked hcoherent⟩
  | polled happened happened' hrounds => exact ⟨_, _, rfl, rfl, hunasked hcoherent⟩
  | @drained happened noticed notice calls panic hnotice hgrace hrounds =>
    obtain ⟨look, more, rfl, hlook⟩ := exists_look_of_notices hnotice
    refine ⟨look, _, rfl, hlook, fun _ => ?_⟩
    cases panic with
    | none => exact .inl rfl
    | some reason => exact .inr ⟨reason, rfl⟩
  | late happened hnotice hlate =>
    obtain ⟨look, more, rfl, hlook⟩ := exists_look_of_notices hnotice
    exact ⟨look, _, rfl, hlook, fun _ => .inr ⟨clockOverflow, rfl⟩⟩

/-- While nobody asks for a stop, nothing is drained. -/
theorem fetches_of_quiet {past : History}
    (hattends : Everywhere (fun earlier b _ => Attends p start earlier b) past)
    (hquiet : Everywhere (fun earlier b _ => requestedAt start earlier b = false) past) :
    ∀ deadline ∈ fetches past, deadline = none := by
  intro deadline hdeadline
  obtain ⟨b, hb, hfetch⟩ := List.mem_filterMap.mp hdeadline
  obtain ⟨earlier, later, rfl⟩ := List.append_of_mem hb
  cases deadline with
  | none => rfl
  | some deadline =>
    obtain ⟨prior, notice, happened, noticed, rfl, hnotice, -⟩ :=
      (hattends earlier b later rfl).drain deadline hfetch
    have hunasked : requestedAt start prior notice = false :=
      hquiet prior notice (⟨happened, .clock, noticed⟩ :: b :: later) (by simp)
    rw [hnotice] at hunasked
    cases hunasked

/-- What is known of a worker that has made these calls and is there. -/
structure Lifecycle (p : Processor) (start : Signals) (o : Outcome Empty Turn) (past : History) :
    Prop where
  lives : Lives p o past
  /-- It polls, and it ends when it has drained, once. -/
  batches : ∃ polls drains, fetches past = List.replicate polls none ++ List.map some drains ∧
    drains.length ≤ 1 ∧ (o = .ok .ended → drains.length = 1) ∧
      ∀ hearStop, o = .ok (.ofListening hearStop) → drains = []
  attends : Everywhere (fun earlier b _ => Attends p start earlier b) past
  /-- Directly before an event of a polling batch the signals are looked at, and nobody asks. -/
  watched : Everywhere (fun earlier b _ => OpensRow earlier b →
    (∀ c ∈ earlier, ∀ deadline, c.deadline? ≠ some (some deadline)) →
      ∃ prior look, earlier = prior ++ [look] ∧ look.call = .stopRequested ∧
        requestedAt start prior look = false) past
  /-- No polling batch is begun while a request stands that already stood at the call before. -/
  heeded : ∀ earlier standing b later, past = earlier ++ (standing ++ b :: later) →
    standing ≠ [] →
    Everywhere (fun before c _ => requestedAt start (earlier ++ before) c = true) standing →
      b.deadline? ≠ some none
  /-- If a request stands when the next turn is begun, it is the last one. -/
  last : ∀ hearStop, o = .ok (.ofListening hearStop) → ∀ o' past',
    Dialogue.Runs (schedule start) (p.turn hearStop) past o' past' →
      ∃ look later, past' = past ++ look :: later ∧ look.call = .stopRequested ∧
        (requestedAt start past look = true → o' = .ok .ended ∨ ∃ reason, o' = .panicked reason)
  /-- Of an event that was enqueued, and of no other, an outcome is recorded before the next check. -/
  settled : ∀ earlier b later options, past = earlier ++ b :: later → b.role = .enqueue options →
    ∃ e ∈ found earlier, options = p.options e ∧ (settledNext later = [e.id] ∨
      Decimal.Range.i32.contains (e.attempts + 1) = false ∧ later = [] ∧ o = .panicked .addOverflow)
  /-- An owner that goes away without a word does not end it. -/
  kept : start.requested = false → (∀ event ∈ past.events, event.IsQuiet) →
    (∀ deadline ∈ fetches past, deadline = none) ∧ o ≠ .ok .ended
  /-- It breaks off only where a number does not fit into its word, or the table does. -/
  brokenOff : ∀ reason, o = .panicked reason → Overflows (found past) reason past ∨
    reason = clockOverflow ∧ ∃ happened, ∃ noticed : Nat, ⟨happened, .clock, noticed⟩ ∈ past ∧
      clockLimit < noticed + p.config.shutdownGrace

theorem heeded_of_attends {past earlier standing later : History} {b : Beat}
    (hattends : Everywhere (fun earlier b _ => Attends p start earlier b) past)
    (hpast : past = earlier ++ (standing ++ b :: later)) (hstanding : standing ≠ [])
    (hrequested : Everywhere (fun before c _ => requestedAt start (earlier ++ before) c = true)
      standing) : b.deadline? ≠ some none := by
  intro hpoll
  obtain ⟨before, c, rfl⟩ := List.eq_nil_or_concat standing |>.resolve_left hstanding
  have hsplit : past = (earlier ++ before ++ [c]) ++ b :: later := by simp [hpast]
  obtain ⟨prior, look, wait, hprior, -, -, hquiet⟩ := (hattends _ b later hsplit).poll hpoll
  -- The last of the standing calls is the wait before the poll, which finds nothing.
  have hlast : earlier ++ before = prior ++ [look] ∧ c = wait := by
    have hends : (earlier ++ before) ++ [c] = (prior ++ [look]) ++ [wait] := by simp [hprior]
    obtain ⟨hinit, hsame⟩ := List.append_inj' hends rfl
    exact ⟨hinit, List.singleton_inj.mp hsame⟩
  have hasked : requestedAt start (earlier ++ before) c = true := hrequested before c [] (by simp)
  rw [hlast.1, hlast.2, hquiet] at hasked
  cases hasked

theorem lifecycle_of_lives {past : History} (hlives : Lives p o past)
    (hcoherent : Coherent start past) : Lifecycle p start o past := by
  have hattends := attends_of_lives hlives hcoherent
  obtain ⟨polls, drains, hfetches, hone, hended, hlistening⟩ := fetches_of_lives hlives
  refine ⟨hlives, ⟨polls, drains, hfetches, hone, hended, hlistening⟩, hattends,
    watched_of_lives hlives hcoherent, fun earlier standing b later => heeded_of_attends hattends,
    ?_, ?_, ?_, ?_⟩
  · intro hearStop _ o' past' hr
    obtain ⟨calls, rfl, hturns⟩ := makes_turn hearStop past o' past' hr
    obtain ⟨-, hcalls⟩ := coherent_append.mp (coherent_of_runs hr hcoherent)
    obtain ⟨look, later, rfl, hlook, hlast⟩ := last_of_turns hturns hcalls
    exact ⟨look, later, rfl, hlook, hlast⟩
  · intro earlier b later options hpast hrole
    obtain ⟨e, he, hoptions, hsettled⟩ := settled_of_lives hlives earlier b later hpast options hrole
    refine ⟨e, he, hoptions, hsettled.imp_right ?_⟩
    rintro ⟨hrange, hlater, hpanic⟩
    refine ⟨hrange, hlater, ?_⟩
    cases o with
    | ok t => cases hpanic
    | failed error => cases hpanic
    | panicked reason => rw [Option.some.inj hpanic]
  · intro hstart hevents
    have hquiet := not_requested_of_quiet hstart hcoherent
      fun b hb event hevent => hevents event (List.mem_flatMap.mpr ⟨b, hb, hevent⟩)
    have hpolls := fetches_of_quiet hattends hquiet
    refine ⟨hpolls, fun heq => ?_⟩
    cases drains with
    | nil => cases hended heq
    | cons deadline more => cases hpolls (some deadline) (by simp [hfetches])
  · rintro reason rfl
    exact overflows_of_lives hlives

/-- However many turns a worker takes, whatever happens to its signals meanwhile, and whatever is
answered to its calls, they come to their end, and this is known of them. -/
theorem lifecycle_of_runs (p : Processor) (start : Signals) (n : Nat) :
    (∃ o past, Dialogue.Runs (schedule start) (p.turns n .listening) [] o past) ∧
    ∀ o past, Dialogue.Runs (schedule start) (p.turns n .listening) [] o past →
      Lifecycle p start o past := by
  refine ⟨Dialogue.exists_runs (exists_schedule start) _ [], fun o past h => ?_⟩
  exact lifecycle_of_lives (lives_of_runs .born h) (coherent_of_runs h (everywhere_nil _))

/-! ### Two short lives -/

/-- It gives every event to the queue as it is. -/
def carrier : Processor := ⟨{ eventName := "login" }, fun e => .ok fun _ => ⟨e.name, e.payload⟩, false⟩

/-- An event that was tried so many times. -/
def triedEvent (attempts : Int) : OutboxEvent :=
  ⟨.nil, "login", .null, .pending, attempts, none, 0, 0⟩

def acceptance : TaskInfo := ⟨Uuid.nil.text, "default"⟩

/-- One event is delivered. Then the owner asks for a stop and goes away at once. -/
def stoppedAndLeft : History :=
  [⟨[], .stopRequested, false⟩, ⟨[], .wake true, .tick⟩,
   ⟨[], .findPending "login" 1000 none, some (.ok [triedEvent 0])⟩, ⟨[], .stopRequested, false⟩,
   ⟨[], .now, (0 : Int)⟩, ⟨[], .enqueue ⟨"login", .null⟩ (carrier.options (triedEvent 0)), .ok acceptance⟩,
   ⟨[], .markSuccess .nil, .ok true⟩, ⟨[.stop, .dropHandle], .stopRequested, true⟩,
   ⟨[], .clock, (5 : Nat)⟩, ⟨[], .findPending "login" 1000 (some 10005), some (.ok [])⟩]

/-- The stop is not lost with its owner. -/
theorem lifecycle_of_runs_stoppedAndLeft :
    Dialogue.Runs (schedule {}) (carrier.turns 2 .listening) [] (.ok .ended) stoppedAndLeft ∧
      Lifecycle carrier {} (.ok .ended) stoppedAndLeft := by
  have hruns : Dialogue.Runs (schedule {}) (carrier.turns 2 .listening) [] (.ok .ended)
      stoppedAndLeft := by
    refine ⟨false, _, ⟨[], ⟨trivial, rfl⟩, rfl⟩, ?_⟩
    refine ⟨.tick, _, ⟨[], ⟨trivial, rfl⟩, rfl⟩, ?_⟩
    refine ⟨some (.ok [triedEvent 0]), _, ⟨[], ⟨trivial, trivial⟩, rfl⟩, ?_⟩
    refine ⟨false, _, ⟨[], ⟨trivial, rfl⟩, rfl⟩, ?_⟩
    refine ⟨(0 : Int), _, ⟨[], ⟨trivial, trivial⟩, rfl⟩, ?_⟩
    refine ⟨.ok acceptance, _, ⟨[], ⟨trivial, trivial⟩, rfl⟩, ?_⟩
    refine ⟨.ok true, _, ⟨[], ⟨trivial, trivial⟩, rfl⟩, ?_⟩
    refine ⟨true, _, ⟨[.stop, .dropHandle], ⟨⟨rfl, rfl, trivial⟩, rfl⟩, rfl⟩, ?_⟩
    refine ⟨(5 : Nat), _, ⟨[], ⟨trivial, trivial⟩, rfl⟩, ?_⟩
    refine ⟨some (.ok []), _, ⟨[], ⟨trivial, trivial⟩, rfl⟩, ?_⟩
    exact ⟨rfl, rfl⟩
  exact ⟨hruns, (lifecycle_of_runs carrier {} 2).2 _ _ hruns⟩

/-- The queue refuses an event whose attempts have filled their word. -/
def neverSettled : History :=
  [⟨[], .stopRequested, false⟩, ⟨[], .wake true, .tick⟩,
   ⟨[], .findPending "login" 1000 none, some (.ok [triedEvent 2147483647])⟩,
   ⟨[], .stopRequested, false⟩, ⟨[], .now, (0 : Int)⟩,
   ⟨[], .enqueue ⟨"login", .null⟩ (carrier.options (triedEvent 0)), .error (.enqueueFailed "down")⟩]

/-- An event may be enqueued without an outcome ever being recorded: counting the attempt breaks the
worker off. -/
theorem exists_enqueue_not_settled :
    Dialogue.Runs (schedule {}) (carrier.turns 1 .listening) [] (.panicked .addOverflow)
      neverSettled ∧
    (∃ earlier b, neverSettled = earlier ++ [b] ∧ ∃ options, b.role = .enqueue options) ∧
    ∀ b ∈ neverSettled, b.settled? = none := by
  refine ⟨?_, ⟨neverSettled.dropLast, _, rfl, _, rfl⟩, by decide⟩
  refine ⟨false, _, ⟨[], ⟨trivial, rfl⟩, rfl⟩, ?_⟩
  refine ⟨.tick, _, ⟨[], ⟨trivial, rfl⟩, rfl⟩, ?_⟩
  refine ⟨some (.ok [triedEvent 2147483647]), _, ⟨[], ⟨trivial, trivial⟩, rfl⟩, ?_⟩
  refine ⟨false, _, ⟨[], ⟨trivial, rfl⟩, rfl⟩, ?_⟩
  refine ⟨(0 : Int), _, ⟨[], ⟨trivial, trivial⟩, rfl⟩, ?_⟩
  refine ⟨.error (.enqueueFailed "down"), _, ⟨[], ⟨trivial, trivial⟩, rfl⟩, ?_⟩
  exact ⟨rfl, rfl⟩

end SignIn.Outbox
