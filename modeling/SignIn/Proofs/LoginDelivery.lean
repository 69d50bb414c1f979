import SignIn.Proofs.Atomicity
import SignIn.Proofs.LoginPayload
import SignIn.Proofs.SharedDelivery

/-!
# One task for each login

The service and the workers for its notices share a store and a queue. To a worker an
operation of the service happens at once, when it publishes its tables, and polls are
cut at every call. Rows and logins are recorded side by side: a login that returns adds
one of each, and whatever else happens keeps them as they are. That a row has one task
is known already, for any table whose new rows have new ids.
-/
namespace SignIn

/-- A login that returned, and what the clock on the wall showed meanwhile. -/
structure Login where
  user : User
  readings : List Timestamp

/-- The store and the queue, the ids that were drawn so far, and the logins that returned. -/
structure Deployment where
  store : Service.Store := {}
  queue : List Outbox.Accepted := []
  drawn : List Uuid := []
  logins : List Login := []

namespace Deployment

/-- What workers see. -/
def site (d : Deployment) : Outbox.Site := ⟨d.store.shared.events, d.queue⟩

def withSite (d : Deployment) (w : Outbox.Site) : Deployment :=
  { d with
    store := { d.store with shared := { d.store.shared with events := w.table } }
    queue := w.queue }

/-- What a worker is answered: the table and the queue may fail at any call. -/
def conduct : Conduct Outbox.Call Outbox.Answer Deployment := fun c d answer d' =>
  ∃ w, Outbox.Site.conduct Outbox.Site.Claiming c d.site answer w ∧ d' = d.withSite w

/-- No id is drawn twice, and the clock on the wall shows times that have a text. -/
structure Genuine (d : Deployment) (given : List Service.Given) : Prop where
  ids : (d.drawn ++ Service.ids given).Nodup
  clock : ∀ t ∈ Service.instants given, t.IsClock ∧ Rfc3339.inYears t.date = true

/-- A run of an operation, in which any call may fail. -/
structure Performs {α : Type} (d : Deployment) (operation : Service.Step α)
    (o : Outcome IdentityError α) (store : Service.Store) (given : List Service.Given) :
    Prop where
  runs : Dialogue.Runs Service.noted operation (d.store, []) o (store, given)
  genuine : Genuine d given

def after (d : Deployment) (store : Service.Store) (given : List Service.Given)
    (logins : List Login) : Deployment :=
  ⟨store, d.queue, d.drawn ++ Service.ids given, d.logins ++ logins⟩

/-- The login that an outcome stands for, if it has a value. -/
def loginsOf (given : List Service.Given) :
    Outcome IdentityError Service.AuthResponse → List Login
  | .ok response => [⟨response.user, Service.instants given⟩]
  | _ => []

inductive Operates (issuer : Service.Issuer) (d : Deployment) : Deployment → Prop where
  | register (r : RegisterRequest) {o : Outcome IdentityError Service.AuthResponse}
      {store : Service.Store} {given : List Service.Given} :
      d.Performs (issuer.register r) o store given → Operates issuer d (d.after store given [])
  | login (r : LoginRequest) {o : Outcome IdentityError Service.AuthResponse}
      {store : Service.Store} {given : List Service.Given} :
      d.Performs (issuer.login r) o store given →
      Operates issuer d (d.after store given (loginsOf given o))
  | refresh (token : String) {o : Outcome IdentityError String} {store : Service.Store}
      {given : List Service.Given} :
      d.Performs (issuer.refresh token) o store given → Operates issuer d (d.after store given [])
  | revoke (token : String) {o : Outcome IdentityError Unit} {store : Service.Store}
      {given : List Service.Given} :
      d.Performs (Service.revoke token) o store given → Operates issuer d (d.after store given [])
  | revokeAll (userId : Uuid) {o : Outcome IdentityError Nat} {store : Service.Store}
      {given : List Service.Given} :
      d.Performs (Service.revokeAll userId) o store given →
      Operates issuer d (d.after store given [])

/-- The service, and workers for its notices. -/
def plant (issuer : Service.Issuer) (config : Outbox.Config) :
    Plant Outbox.Call Outbox.Answer Deployment where
  conduct := conduct
  outside := Operates issuer
  programs := Outbox.Site.programs config LoginNotice.task

/-- A row holds the notice of a login. -/
def Records (row : OutboxEvent) (login : Login) : Prop :=
  ∃ t : Timestamp, login.readings = [t] ∧ (t.IsClock ∧ Rfc3339.inYears t.date = true) ∧
    row.payload = (LoginNotice.ofUser login.user t).toJson.normal

/-- A task tells of a login that a row stands for. -/
def Tells (t : Outbox.Accepted) (row : OutboxEvent) (login : Login) : Prop :=
  t.id = row.id.text ∧ ∃ loginAt now, login.readings = [loginAt] ∧
    t.task = ⟨EventName.login.text,
      (LoginNotice.loginEvent row login.user loginAt now).toJson.normal⟩

/-- Rows stand for logins one by one, and tasks for different rows. -/
structure OncePerLogin (d : Deployment) : Prop where
  recorded : List.Forall₂ Records d.store.shared.events d.logins
  rows : (d.store.shared.events.map (·.id)).Nodup
  tasks : (d.queue.map (·.id)).Nodup
  delivered : ∀ t ∈ d.queue, ∃ p ∈ d.store.shared.events.zip d.logins, Tells t p.1 p.2 ∧
    ∀ row ∈ d.store.shared.events, t.id = row.id.text → row = p.1

/-- Rows stand for logins, under ids that were drawn. -/
structure Recorded (d : Deployment) : Prop where
  rows : List.Forall₂ Records d.store.shared.events d.logins
  ids : ∀ row ∈ d.store.shared.events, row.id ∈ d.drawn

/-! ## Operations of the service -/

/-- Nothing has happened to the events. -/
def SameEvents (s s' : Service.Noted) : Prop := s'.1.shared.events = s.1.shared.events

instance : IsPreorder Service.Noted SameEvents where
  refl _ := rfl
  trans _ _ _ h h' := h'.trans h

theorem sameEvents_of_silent {s s' : Service.Noted} (h : Service.Silent s s') : SameEvents s s' :=
  congrArg Service.Tables.events h.undisturbed.shared

theorem keepsEvents_of_quiet {α : Type} {a : Service.Step α} (h : Service.Quiet a) :
    a.Respects Service.noted SameEvents :=
  fun s => (h s).mono fun _ _ hs => sameEvents_of_silent hs

theorem quiet_refresh (issuer : Service.Issuer) (token : String) :
    Service.Quiet (issuer.refresh token) := by
  unfold Service.Issuer.refresh
  split
  · exact Attempt.respects_ofOutcome _
  refine Attempt.Respects.bind (Attempt.respects_call fun s answer s' h =>
    Service.silent_of_reads (c := .tokenRecord .ambient token) trivial h) fun record => ?_
  refine (Service.quiet_ask .now trivial).bind fun now => ?_
  refine Attempt.Respects.bind (Service.quiet_ofExcept _) fun _ => ?_
  refine Attempt.Respects.bind (Attempt.respects_call fun s answer s' h =>
    Service.silent_of_reads (c := .userById .ambient record.userId) trivial h) fun found => ?_
  cases found with
  | none => exact Attempt.respects_ofOutcome _
  | some user => exact issuer.quiet_issue user

theorem keepsEvents_revoke (token : String) :
    (Service.revoke token).Respects Service.noted SameEvents := by
  unfold Service.revoke
  split
  · exact Attempt.respects_ofOutcome _
  refine Attempt.Respects.bind (Attempt.respects_call fun s answer s' h =>
    h.1.events_of_revokes (c := .revokeToken .ambient token) trivial) fun found => ?_
  cases found with
  | true => exact Attempt.respects_pure ()
  | false =>
    refine Attempt.Respects.bind (Attempt.respects_call fun s answer s' h => ?_) fun _ => ?_
    · exact sameEvents_of_silent
        (Service.silent_of_reads (c := .tokenRecord .ambient token) trivial h)
    · exact Attempt.respects_pure ()

theorem keepsEvents_revokeAll (userId : Uuid) :
    (Service.revokeAll userId).Respects Service.noted SameEvents :=
  Attempt.respects_call fun _ _ _ h =>
    h.1.events_of_revokes (c := .revokeUserTokens .ambient userId) trivial

/-- An operation adds no event and no login, or an event under a new id and its login. -/
inductive Adds (d d' : Deployment) : Prop where
  | nothing : d'.site = d.site → d'.logins = d.logins → d.drawn ⊆ d'.drawn → Adds d d'
  | login (row : OutboxEvent) (login : Login) : row.status = .pending → row.id ∉ d.drawn →
      row.id ∈ d'.drawn → Records row login → d'.site = ⟨d.site.table ++ [row], d.site.queue⟩ →
      d'.logins = d.logins ++ [login] → d.drawn ⊆ d'.drawn → Adds d d'

theorem adds_nothing {d : Deployment} {store : Service.Store} {given : List Service.Given}
    (h : store.shared.events = d.store.shared.events) : Adds d (d.after store given []) :=
  .nothing (Outbox.Site.ext h rfl) (List.append_nil _) (List.subset_append_left ..)

theorem adds_of_keepsEvents {α : Type} {d : Deployment} {operation : Service.Step α}
    (hk : operation.Respects Service.noted SameEvents) {o : Outcome IdentityError α}
    {store : Service.Store} {given : List Service.Given} (h : d.Performs operation o store given) :
    Adds d (d.after store given []) :=
  adds_nothing (hk.of_runs h.runs)

theorem adds_of_register {issuer : Service.Issuer} {r : RegisterRequest} {d : Deployment}
    {o : Outcome IdentityError Service.AuthResponse} {store : Service.Store}
    {given : List Service.Given} (h : d.Performs (issuer.register r) o store given) :
    Adds d (d.after store given []) := by
  have hend := Dialogue.Secures.of_runs_alone (issuer.assures_register r (d.store, [])) h.runs
  apply adds_nothing
  cases o with
  | ok response =>
    obtain ⟨record, ht, -⟩ := hend
    exact (congrArg Service.Tables.events ht :)
  | failed e => exact congrArg Service.Tables.events hend
  | panicked p => exact congrArg Service.Tables.events hend

theorem adds_of_login {issuer : Service.Issuer} {r : LoginRequest} {d : Deployment}
    {o : Outcome IdentityError Service.AuthResponse} {store : Service.Store}
    {given : List Service.Given} (h : d.Performs (issuer.login r) o store given) :
    Adds d (d.after store given (loginsOf given o)) := by
  have hend := Dialogue.Secures.of_runs_alone (issuer.assures_login r (d.store, [])) h.runs
  cases o with
  | ok response =>
    obtain ⟨event, ⟨record, ht, -⟩, t, id, now, hreadings, hid, rfl⟩ := hend
    have hclock := h.genuine.clock t (by rw [hreadings]; exact List.mem_singleton_self t)
    have hnew : id ∉ d.drawn := fun hold =>
      (List.nodup_append.mp h.genuine.ids).2.2 id hold id hid rfl
    exact .login _ ⟨response.user, Service.instants given⟩ rfl hnew (List.mem_append_right _ hid)
      ⟨t, hreadings, hclock, rfl⟩ (Outbox.Site.ext (congrArg Service.Tables.events ht) rfl) rfl
      (List.subset_append_left ..)
  | failed e => exact adds_nothing (congrArg Service.Tables.events hend)
  | panicked p => exact adds_nothing (congrArg Service.Tables.events hend)

theorem adds_of_operates {issuer : Service.Issuer} {d d' : Deployment}
    (h : Operates issuer d d') : Adds d d' := by
  cases h with
  | register r hp => exact adds_of_register hp
  | login r hp => exact adds_of_login hp
  | refresh token hp =>
    exact adds_of_keepsEvents (keepsEvents_of_quiet (quiet_refresh issuer token)) hp
  | revoke token hp => exact adds_of_keepsEvents (keepsEvents_revoke token) hp
  | revokeAll userId hp => exact adds_of_keepsEvents (keepsEvents_revokeAll userId) hp

theorem Recorded.adds {d d' : Deployment} (h : Recorded d) (ha : Adds d d') : Recorded d' := by
  cases ha with
  | nothing hsite hlogins hdrawn =>
    have hevents : d'.store.shared.events = d.store.shared.events :=
      congrArg Outbox.Site.table hsite
    refine ⟨by rw [hevents, hlogins]; exact h.rows, fun row hrow => ?_⟩
    rw [hevents] at hrow
    exact hdrawn (h.ids row hrow)
  | login row login _ _ hid hrecords hsite hlogins hdrawn =>
    have hevents : d'.store.shared.events = d.store.shared.events ++ [row] :=
      congrArg Outbox.Site.table hsite
    refine ⟨?_, fun row' hrow' => ?_⟩
    · rw [hevents, hlogins]
      exact List.rel_append h.rows (.cons hrecords .nil)
    · rw [hevents, List.mem_append, List.mem_singleton] at hrow'
      rcases hrow' with hold | rfl
      · exact hdrawn (h.ids row' hold)
      · exact hid

/-! ## Steps of workers and of the service -/

theorem Records.of_same {row row' : OutboxEvent} {login : Login} (h : Records row login)
    (hs : row.SameEvent row') : Records row' login := by
  obtain ⟨t, hreadings, hclock, hpayload⟩ := h
  exact ⟨t, hreadings, hclock, hs.payload.symm.trans hpayload⟩

theorem forall₂_records_of_keeps {t t' : Outbox.Table} {logins : List Login} (hk : t.Keeps t')
    (h : List.Forall₂ Records t logins) : List.Forall₂ Records t' logins := by
  induction hk generalizing logins with
  | nil => exact h
  | cons hsame _ ih =>
    cases h with
    | cons hrow hrest => exact .cons (hrow.of_same hsame) (ih hrest)

theorem Recorded.keeps {d : Deployment} (h : Recorded d) {w : Outbox.Site}
    (hk : d.site.table.Keeps w.table) : Recorded (d.withSite w) := by
  refine ⟨forall₂_records_of_keeps hk h.rows, fun row hrow => ?_⟩
  have hid : row.id ∈ w.table.map (·.id) := List.mem_map.mpr ⟨row, hrow, rfl⟩
  rw [hk.map_id] at hid
  obtain ⟨row', hrow', hsame⟩ := List.mem_map.mp hid
  rw [← hsame]
  exact h.ids row' hrow'

variable {ι : Type} {issuer : Service.Issuer} {config : Outbox.Config}

/-- The same workers, with what they see of the deployment. -/
def atSite (w : Workers ι Outbox.Call Outbox.Answer Deployment) :
    Workers ι Outbox.Call Outbox.Answer Outbox.Site :=
  ⟨w.state.site, w.doing⟩

/-- Logins are recorded, and what workers see is in order. -/
structure Sound (config : Outbox.Config) (w : Workers ι Outbox.Call Outbox.Answer Deployment) :
    Prop where
  recorded : Recorded w.state
  orderly : Workers.Orderly (Outbox.Site.plant Outbox.Site.Claiming config LoginNotice.task)
    (Outbox.Site.deliveryTerms config LoginNotice.task)
    (Outbox.Site.Consistent config LoginNotice.task) (fun _ => True) (atSite w)

/-- The row of a login is new to the table and to the queue. -/
theorem Sound.inserts {w : Workers ι Outbox.Call Outbox.Answer Deployment} (h : Sound config w)
    {row : OutboxEvent} (hpending : row.status = .pending) (hnew : row.id ∉ w.state.drawn) :
    Outbox.Site.Inserts w.state.site ⟨w.state.site.table ++ [row], w.state.site.queue⟩ := by
  have hfresh : ∀ e ∈ w.state.site.table, e.id ≠ row.id := by
    intro e he heq
    rw [← heq] at hnew
    exact hnew (h.recorded.ids e he)
  refine ⟨row, hpending, hfresh, fun t ht heq => ?_, rfl⟩
  obtain ⟨e, he, hid, -⟩ := h.orderly.1.built t ht
  rw [hid, Uuid.text_inj] at heq
  exact hfresh e he heq

theorem Sound.step [DecidableEq ι] {w w' : Workers ι Outbox.Call Outbox.Answer Deployment}
    (h : Sound config w) (hs : Workers.Step (plant issuer config) w w') : Sound config w' := by
  have hsuits := Outbox.Site.suits ι config LoginNotice.task
  cases hs with
  | answer i hq hc =>
    obtain ⟨site', hcond, rfl⟩ := hc
    exact ⟨h.recorded.keeps (Outbox.Site.keeps_of_conduct hcond),
      hsuits.orderly_step h.orderly (.answer i hq hcond)⟩
  | begin i hd hp => exact ⟨h.recorded, hsuits.orderly_step h.orderly (.begin i hd hp)⟩
  | @outside _ d' ho =>
    have hadds : Adds w.state d' := adds_of_operates ho
    refine ⟨h.recorded.adds hadds, ?_⟩
    cases hadds with
    | nothing hsite =>
      have hsame : atSite ⟨d', w.doing⟩ = atSite w := congrArg (Workers.mk · w.doing) hsite
      rw [hsame]
      exact h.orderly
    | login row login hpending hnew _ _ hsite =>
      have hstep := hsuits.orderly_step h.orderly
        (.outside (hsite ▸ h.inserts hpending hnew : Outbox.Site.Inserts w.state.site d'.site))
      exact hstep

theorem Sound.of_reaches [DecidableEq ι] {w : Workers ι Outbox.Call Outbox.Answer Deployment}
    (hw : Workers.Reaches (plant issuer config) (.idle {}) w) : Sound config w := by
  induction hw with
  | refl =>
    refine ⟨⟨.nil, fun row hrow => ?_⟩, ?_, fun _ => trivial⟩
    · cases hrow
    · exact Outbox.Site.Fresh.consistent ⟨.nil, fun row hrow => (by cases hrow), rfl⟩
  | tail _ hs ih => exact ih.step hs

/-- A row stands for the login at its side. -/
theorem exists_zip_of_mem {t : Outbox.Table} {logins : List Login}
    (h : List.Forall₂ Records t logins) {row : OutboxEvent} (hrow : row ∈ t) :
    ∃ login, (row, login) ∈ t.zip logins ∧ Records row login := by
  induction h with
  | nil => cases hrow
  | cons hrecords _ ih =>
    rcases List.mem_cons.mp hrow with rfl | hrest
    · exact ⟨_, List.mem_cons_self, hrecords⟩
    · obtain ⟨login, hmem, hrecords'⟩ := ih hrest
      exact ⟨login, List.mem_cons_of_mem _ hmem, hrecords'⟩

/-- Every task tells of the one login whose row it was built from. -/
theorem Sound.tells {w : Workers ι Outbox.Call Outbox.Answer Deployment} (h : Sound config w)
    {t : Outbox.Accepted} (ht : t ∈ w.state.queue) :
    ∃ p ∈ w.state.store.shared.events.zip w.state.logins, Tells t p.1 p.2 ∧
      ∀ row ∈ w.state.store.shared.events, t.id = row.id.text → row = p.1 := by
  obtain ⟨row, hrow, hid, -, e, make, now, hsame, hmake, htask⟩ := h.orderly.1.built t ht
  obtain ⟨login, hzip, loginAt, hreadings, ⟨hclock, hyears⟩, hpayload⟩ :=
    exists_zip_of_mem h.recorded.rows hrow
  have hbuilt := LoginNotice.task_of_login (hsame.payload.symm.trans hpayload) hclock hyears
  obtain rfl := Except.ok.inj (hbuilt.symm.trans hmake)
  refine ⟨(row, login), hzip, ⟨hid, loginAt, now, hreadings, ?_⟩, fun row' hrow' hid' => ?_⟩
  · unfold LoginNotice.loginEvent at htask ⊢
    rw [htask, hsame.id]
  · have heq : row'.id = row.id := Uuid.text_injective (hid'.symm.trans hid)
    exact Outbox.Table.eq_of_id_eq h.orderly.1.rows hrow' hrow heq

/-- Whatever fails, and in whatever order calls come, rows stand for the logins that returned, and
every task is the only one of a row and tells of its login. -/
theorem login_once [DecidableEq ι] {w : Workers ι Outbox.Call Outbox.Answer Deployment}
    (hw : Workers.Reaches (plant issuer config) (.idle {}) w) : OncePerLogin w.state := by
  have hsound : Sound config w := .of_reaches hw
  exact ⟨hsound.recorded.rows, hsound.orderly.1.rows, hsound.orderly.1.claims,
    fun t ht => hsound.tells ht⟩

/-! ### A login and its delivery -/

/-- A worker that nothing disturbs does to the deployment what it does to what it sees. -/
theorem runs_withSite {α : Type} {p : Dialogue Outbox.Call Outbox.Answer α} {d : Deployment}
    {w : Outbox.Site} {value : α}
    (h : p.Runs (Outbox.Site.conduct Outbox.Site.Claiming) d.site value w) :
    p.Runs conduct d value (d.withSite w) := by
  induction p generalizing d with
  | done v =>
    obtain ⟨rfl, rfl⟩ := h
    exact ⟨rfl, rfl⟩
  | ask question next ih =>
    obtain ⟨answer, w₁, hc, hr⟩ := h
    exact ⟨answer, d.withSite w₁, ⟨w₁, hc, rfl⟩, ih answer hr⟩

open Service.Issuer (plainIssuer plainRequest plainLogin plainUser plainEvent registered loggedIn)

def plainConfig : Outbox.Config := { eventName := EventName.login.text }

def afterRegister : Deployment := ⟨registered, [], [⟨1⟩, ⟨2⟩, ⟨3⟩, ⟨4⟩], []⟩

def afterLogin : Deployment :=
  ⟨loggedIn, [], [⟨1⟩, ⟨2⟩, ⟨3⟩, ⟨4⟩, ⟨5⟩, ⟨6⟩, ⟨7⟩, ⟨8⟩], [⟨plainUser, [⟨0, 0⟩]⟩]⟩

def afterPoll : Deployment :=
  afterLogin.withSite ⟨[Outbox.Table.settled .success none 0 plainEvent], [⟨plainEvent.id.text,
    ⟨EventName.login.text, (LoginNotice.loginEvent plainEvent plainUser ⟨0, 0⟩ 0).toJson.normal⟩⟩]⟩

theorem operates_register : Operates plainIssuer {} afterRegister := by
  have hgenuine : Genuine {} [.id ⟨1⟩, .id ⟨2⟩, .id ⟨3⟩, .id ⟨4⟩] :=
    ⟨by decide, fun t ht => by cases ht⟩
  have hperforms : Performs {} (plainIssuer.register plainRequest) _ registered _ :=
    ⟨Service.Issuer.runs_register, hgenuine⟩
  exact .register plainRequest hperforms

theorem operates_login : Operates plainIssuer afterRegister afterLogin := by
  have hgenuine : Genuine afterRegister
      [.id ⟨5⟩, .id ⟨6⟩, .instant ⟨0, 0⟩, .id ⟨7⟩, .id ⟨8⟩] := by
    refine ⟨by decide, fun t ht => ?_⟩
    obtain rfl : t = ⟨0, 0⟩ := List.mem_singleton.mp ht
    exact ⟨by decide, by decide⟩
  have hperforms : Performs afterRegister (plainIssuer.login plainLogin) _ loggedIn _ :=
    ⟨Service.Issuer.runs_login, hgenuine⟩
  exact .login plainLogin hperforms

theorem reaches_afterPoll :
    Workers.Reaches (plant plainIssuer plainConfig)
      (.idle {} : Workers Unit Outbox.Call Outbox.Answer Deployment) (.idle afterPoll) := by
  have hmake : LoginNotice.task plainEvent = .ok fun now => ⟨EventName.login.text,
      (LoginNotice.loginEvent plainEvent plainUser ⟨0, 0⟩ now).toJson.normal⟩ :=
    LoginNotice.task_of_login rfl (by decide) (by decide)
  have hpoll := Outbox.Site.runs_pollOnce (p := ⟨plainConfig, LoginNotice.task, false⟩) rfl
    (by decide) hmake rfl rfl
  have hlogin : Workers.Reaches (plant plainIssuer plainConfig)
      (.idle {} : Workers Unit Outbox.Call Outbox.Answer Deployment) (.idle afterLogin) :=
    (Relation.ReflTransGen.refl.tail (.outside operates_register)).tail (.outside operates_login)
  exact Workers.reaches_idle () hlogin (Outbox.Site.poll_mem_programs _ _ false)
    (runs_withSite (d := afterLogin) hpoll)

/-- The one row stands for the one login, and so does the one task. -/
theorem login_once_plain : OncePerLogin afterPoll := login_once reaches_afterPoll

end Deployment

end SignIn
