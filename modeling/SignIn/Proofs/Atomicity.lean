import SignIn.Proofs.FaultyStore
import SignIn.Proofs.PasswordText

/-!
# Registration and login are atomic

Whatever fails on the way, an operation that ends without a value has published
nothing: before the transaction it only reads, inside it only writes to the copy, and
nothing is left to fail after a commit. With a value, it has published exactly what
was written to the copy.
-/
namespace SignIn.Service

variable {α β : Type}

/-- A condition on the end of an operation. Without a value, the shared tables are what they
were. -/
def Ends (Q : α → Noted → Prop) (t : Tables) : Outcome IdentityError α → Noted → Prop
  | .ok value, s => Q value s
  | _, s => s.1.shared = t

theorem Assures.imp {Q P : α → Noted → Prop} {t : Tables} {a : Step α} {s : Noted}
    (h : Assures (Ends Q t) a s) (hp : ∀ value s', Q value s' → P value s') :
    Assures (Ends P t) a s := by
  refine Attempt.Secures.mono h fun o s' ho => ?_
  cases o with
  | ok value => exact hp value s' ho
  | failed e => exact ho
  | panicked p => exact ho

theorem assures_bind {Q : α → Noted → Prop} {P : β → Noted → Prop} {t : Tables} {a : Step α}
    {f : α → Step β} {s : Noted} (ha : Assures (Ends Q t) a s)
    (hf : ∀ value s', Q value s' → Assures (Ends P t) (f value) s') :
    Assures (Ends P t) (a >>= f) s := by
  refine (Attempt.secures_bind a f _ s).mpr (ha.mono fun o s' ho => ?_)
  cases o with
  | ok value => exact hf value s' ho
  | failed e => exact ho
  | panicked p => exact ho

theorem assures_ofExcept {t : Tables} {s : Noted} (hs : s.1.shared = t)
    (r : Except IdentityError α) :
    Assures (Ends (fun value s' => s' = s ∧ r = .ok value) t) (.ofExcept r) s := by
  cases r with
  | ok value => exact ⟨rfl, rfl⟩
  | error e => exact hs

/-! ## Before the transaction -/

/-- However it ends, this piece only reads and draws. -/
abbrev Quiet (a : Step α) : Prop := a.Respects noted Silent

theorem Quiet.assures {a : Step α} (ha : Quiet a) {t : Tables} {s : Noted} (hs : s.1.shared = t) :
    Assures (Ends (fun _ s' => Silent s s' ∧ s'.1.shared = t) t) a s := by
  refine (ha s).mono fun o s' h => ?_
  have ht : s'.1.shared = t := h.undisturbed.shared.trans hs
  cases o with
  | ok value => exact ⟨h, ht⟩
  | failed e => exact ht
  | panicked p => exact ht

theorem quiet_ask (c : Call) (hc : Reads c) : Quiet (ask c) :=
  Attempt.respects_hear fun _ _ _ h => silent_of_reads hc h

theorem quiet_ofExcept (r : Except IdentityError α) : Quiet (.ofExcept r) :=
  Attempt.respects_ofOutcome _

theorem quiet_inWord (n : Int) (overflow : Panic) : Quiet (inWord n overflow) := by
  unfold inWord
  split
  · exact Attempt.respects_pure n
  · exact Attempt.respects_ofOutcome _

namespace Issuer

variable (issuer : Issuer)

theorem quiet_issue (user : User) : Quiet (issuer.issue user) := by
  refine (quiet_ask .freshId trivial).bind fun id => (quiet_ask .now trivial).bind fun now => ?_
  exact quiet_ofExcept _

theorem quiet_issuePair (user : User) : Quiet (issuer.issuePair user) := by
  refine (issuer.quiet_issue user).bind fun access => ?_
  refine (issuer.quiet_issue user).bind fun refresh => ?_
  exact Attempt.respects_pure _

theorem quiet_refreshExpiry : Quiet issuer.refreshExpiry := by
  refine (quiet_ask .now trivial).bind fun now => ?_
  refine Attempt.Respects.bind (quiet_inWord _ _) fun lifetime => ?_
  exact quiet_inWord _ _

theorem quiet_newUser (r : RegisterRequest) : Quiet (newUser r) := by
  unfold newUser
  refine (quiet_ofExcept r.validate).bind fun _ => (quiet_ask .freshSalt trivial).bind fun salt => ?_
  refine (quiet_ask .now trivial).bind fun now => ?_
  exact (quiet_ask .freshId trivial).bind fun id => quiet_ofExcept _

theorem quiet_findUser (i : Identifier) : Quiet (findUser i) := by
  cases i with
  | email address =>
    exact Attempt.respects_call fun s answer s' h =>
      silent_of_reads (c := .userByEmail .ambient address) trivial h
  | phone country number =>
    exact Attempt.respects_call fun s answer s' h =>
      silent_of_reads (c := .userByPhone .ambient country number) trivial h

theorem quiet_authenticate (r : LoginRequest) : Quiet (authenticate r) := by
  refine Attempt.Respects.bind (quiet_findUser r.identifier) fun found => ?_
  cases found with
  | none => exact Attempt.respects_ofOutcome _
  | some user =>
    refine Attempt.Respects.bind (Attempt.respects_ofOutcome _) fun fits => ?_
    cases fits with
    | true => exact Attempt.respects_pure user
    | false => exact Attempt.respects_ofOutcome _

end Issuer

/-! ## The transaction -/

/-- A value has published the copy that it left behind, which meets the condition. -/
theorem assures_inTransaction {work : Step α} {Q : α → Tables → Prop} {s : Noted}
    (hwork : ∀ s₁, Undisturbed s s₁ → s₁.1.copy = some s.1.shared →
      Assures (Ends (fun value s₂ => Undisturbed s₁ s₂ ∧ ∃ t, s₂.1.copy = some t ∧ Q value t)
        s.1.shared) work s₁) :
    Assures (Ends (fun value s' => Draws s s' ∧ Q value s'.1.shared) s.1.shared)
      (inTransaction work) s := by
  refine (Dialogue.secures_andThen ..).mpr ?_
  rintro _ rfl
  refine ⟨trivial, fun answer s₁ h => ?_⟩
  obtain ⟨hshared, hcopy⟩ := h.1.begin
  have hs₁ : Undisturbed s s₁ := ⟨draws_of_noted Call.noConfusion h, hshared⟩
  cases answer with
  | error e => exact hshared
  | ok u =>
    refine (Dialogue.secures_andThen ..).mpr ((hwork s₁ hs₁ (hcopy rfl)).mono fun o s₂ ho => ?_)
    cases o with
    | ok value =>
      obtain ⟨hs₂, t, ht, hq⟩ := ho
      rintro _ rfl
      refine ⟨trivial, fun answer s₃ h => ?_⟩
      have hs₃ : Draws s₂ s₃ := draws_of_noted Call.noConfusion h
      rcases h.1.commit with ⟨hfailed, hsame⟩ | ⟨rfl, hnew⟩
      · cases answer with
        | ok u => cases hfailed
        | error e => exact hsame.trans (hs₂.shared.trans hshared)
      · refine ⟨(hs₁.toDraws.trans hs₂.toDraws).trans hs₃, ?_⟩
        rw [hnew, ht]
        exact hq
    | failed e =>
      rintro _ rfl
      exact ⟨trivial, fun answer s₃ h => h.1.rollback.trans ho⟩
    | panicked p =>
      rintro _ rfl
      exact ⟨trivial, fun answer s₃ h => h.1.rollback.trans ho⟩

/-- A call that writes to the copy, up to what its caller makes of the answer. -/
theorem assures_write {c : Call} {change : Tables → Tables} (hw : Writes c change)
    (hc : c ≠ .instant) {f : Answer c → Except IdentityError Unit}
    (hf : ∀ answer, f answer = .ok () → ¬ Failed c answer) {s : Noted} {t u : Tables}
    (hs : s.1.copy = some t) (hu : s.1.shared = u) :
    Assures (Ends (fun _ s' => Undisturbed s s' ∧ s'.1.copy = some (change t)) u)
      (.call (.ask c fun answer => .done (f answer))) s := by
  refine (Attempt.secures_call ..).mpr ((Dialogue.secures_ask ..).mpr ?_)
  rintro _ rfl
  refine ⟨trivial, fun answer s' h => ?_⟩
  obtain ⟨hshared, hcopy⟩ := h.1.write hw hs
  have hdone : f answer = .ok () → s'.1.copy = some (change t) := fun hok => hcopy (hf answer hok)
  refine (Dialogue.secures_done ..).mpr ?_
  cases hfa : f answer with
  | ok u => exact ⟨⟨draws_of_noted hc h, hshared⟩, hdone hfa⟩
  | error e => exact hshared.trans hu

theorem assures_createUser (user : User) {s : Noted} {t u : Tables} (hs : s.1.copy = some t)
    (hu : s.1.shared = u) :
    Assures (Ends (fun _ s' => Undisturbed s s' ∧
      s'.1.copy = some { t with users := t.users ++ [user] }) u)
      (createUser .transaction user) s := by
  refine assures_write (.user user) Call.noConfusion (fun answer hok hfailed => ?_) hs hu
  rw [hok] at hfailed
  cases hfailed

theorem assures_insertEvent (event : OutboxEvent) {s : Noted} {t u : Tables}
    (hs : s.1.copy = some t) (hu : s.1.shared = u) :
    Assures (Ends (fun _ s' => Undisturbed s s' ∧ s'.1.copy = some (t.insertEvent event)) u)
      (insertEvent .transaction event) s := by
  refine assures_write (.event event) Call.noConfusion (fun answer hok => ?_) hs hu
  cases answer with
  | ok u => exact Bool.noConfusion
  | error e => cases hok

theorem assures_createToken (userId : Uuid) (token : String) (expiresAt : Int) {s : Noted}
    {t u : Tables} (hs : s.1.copy = some t) (hu : s.1.shared = u) :
    Assures (Ends (fun record s' => Undisturbed s s' ∧ s'.1.copy = some (t.insertToken record) ∧
      record.userId = userId ∧ record.isFor token = true) u)
      (createToken .transaction userId token expiresAt) s := by
  refine assures_bind ((quiet_ask .freshId trivial).assures hu) fun id s₁ ⟨h₁, hu₁⟩ => ?_
  refine assures_bind ((quiet_ask .now trivial).assures hu₁) fun now s₂ ⟨h₂, hu₂⟩ => ?_
  refine assures_bind (assures_ofExcept hu₂ _) fun record s₃ ⟨hs₃, hmake⟩ => ?_
  have hsilent : Silent s s₃ := by
    rw [hs₃]
    exact h₁.trans h₂
  have hcopy : s₃.1.copy = some t := by rw [hsilent.store, hs]
  have hu₃ : s₃.1.shared = u := by rw [hs₃, hu₂]
  have hput : Assures (Ends (fun _ s' => Undisturbed s₃ s' ∧
      s'.1.copy = some (t.insertToken record)) u) (.call (put (.insertToken .transaction record)))
      s₃ := by
    refine assures_write (.token record) Call.noConfusion (fun answer hok hfailed => ?_) hcopy hu₃
    rw [hok] at hfailed
    cases hfailed
  refine assures_bind hput fun _ s₄ ⟨h₄, hcopy₄⟩ => ?_
  exact ⟨hsilent.undisturbed.trans h₄, hcopy₄, RefreshToken.of_make hmake⟩

/-! ## The operations -/

namespace Issuer

variable (issuer : Issuer)

/-- One user and one record are new, and the record belongs to the answer. -/
def Registers (t : Tables) (response : AuthResponse) (t' : Tables) : Prop :=
  ∃ record : RefreshToken,
    t' = { t with users := t.users ++ [response.user], tokens := t.tokens ++ [record] } ∧
    record.userId = response.user.id ∧ record.isFor response.refreshToken = true

/-- One record and one event are new, and the record belongs to the answer. -/
def LogsIn (t : Tables) (response : AuthResponse) (event : OutboxEvent) (t' : Tables) : Prop :=
  ∃ record : RefreshToken,
    t' = { t with tokens := t.tokens ++ [record], events := t.events ++ [event] } ∧
    record.userId = response.user.id ∧ record.isFor response.refreshToken = true

/-- The event of a login at a time that the clock on the wall has just shown. -/
def Notifies (user : User) (event : OutboxEvent) (s s' : Noted) : Prop :=
  ∃ (t : Timestamp) (id : Uuid) (now : Int), instants s'.2 = instants s.2 ++ [t] ∧ id ∈ ids s'.2 ∧
    event = .make id now EventName.login.text (LoginNotice.ofUser user t).toJson.normal

theorem Notifies.trans {user : User} {event : OutboxEvent} {a b c d : Noted} (h : Draws a b)
    (hn : Notifies user event b c) (h' : Draws c d) : Notifies user event a d := by
  obtain ⟨t, id, now, ht, hid, hevent⟩ := hn
  exact ⟨t, id, now, by rw [h'.instants, ht, h.instants], h'.ids hid, hevent⟩

theorem assures_loginEvent (user : User) {s : Noted} {u : Tables} (hu : s.1.shared = u) :
    Assures (Ends (fun event s' => s'.1.shared = u ∧ Notifies user event s s') u)
      (loginEvent user) s := by
  have hinstant : Assures (Ends (fun t s' => s'.1.shared = u ∧
      instants s'.2 = instants s.2 ++ [t]) u) (ask .instant) s := by
    refine (Attempt.secures_hear ..).mpr ((Dialogue.secures_put ..).mpr ?_)
    rintro _ rfl
    refine ⟨trivial, fun t s' h => ⟨?_, ?_⟩⟩
    · exact h.1.shared_of_instant.trans hu
    · rw [h.2, instants_append]
      rfl
  have hid {s₁ : Noted} (hu₁ : s₁.1.shared = u) : Assures (Ends (fun id s' => s'.1.shared = u ∧
      Draws s₁ s' ∧ id ∈ ids s'.2) u) (ask .freshId) s₁ := by
    refine (Attempt.secures_hear ..).mpr ((Dialogue.secures_put ..).mpr ?_)
    rintro _ rfl
    refine ⟨trivial, fun id s' h => ?_⟩
    have hsilent : Silent _ s' := silent_of_reads (c := .freshId) trivial h
    refine ⟨hsilent.undisturbed.shared.trans hu₁, hsilent.toDraws, ?_⟩
    rw [h.2, ids_append]
    exact List.mem_append_right _ (List.mem_singleton_self id)
  refine assures_bind hinstant fun t s₁ ⟨hu₁, ht⟩ => ?_
  refine assures_bind ((quiet_ask .now trivial).assures hu₁) fun now s₂ ⟨h₂, hu₂⟩ => ?_
  refine assures_bind (hid hu₂) fun id s₃ ⟨hu₃, h₃, hmem⟩ => ?_
  exact ⟨hu₃, t, id, now, by rw [h₃.instants, h₂.instants, ht], hmem, rfl⟩

theorem assures_storeUser (user : User) (token : String) (expiresAt : Int) (s : Noted)
    (accessToken : String) :
    Assures (Ends (fun _ s' => Registers s.1.shared ⟨user, accessToken, token⟩ s'.1.shared)
      s.1.shared)
      (inTransaction do
        createUser .transaction user
        let _ ← createToken .transaction user.id token expiresAt
        return ()) s := by
  refine Assures.imp (assures_inTransaction fun s₁ h₁ hcopy => ?_) fun _ s' h => h.2
  refine assures_bind (assures_createUser user hcopy h₁.shared) fun _ s₂ ⟨h₂, hcopy₂⟩ => ?_
  have hu₂ : s₂.1.shared = s.1.shared := h₂.shared.trans h₁.shared
  refine assures_bind (assures_createToken user.id token expiresAt hcopy₂ hu₂)
    fun record s₃ ⟨h₃, hcopy₃, hrecord⟩ => ?_
  exact ⟨h₂.trans h₃, _, hcopy₃, record, rfl, hrecord⟩

theorem assures_storeLogin (user : User) (token : String) (expiresAt : Int) (event : OutboxEvent)
    (s : Noted) (accessToken : String) :
    Assures (Ends (fun _ s' => Draws s s' ∧
      LogsIn s.1.shared ⟨user, accessToken, token⟩ event s'.1.shared) s.1.shared)
      (inTransaction do
        let _ ← createToken .transaction user.id token expiresAt
        insertEvent .transaction event) s := by
  refine assures_inTransaction fun s₁ h₁ hcopy => ?_
  refine assures_bind (assures_createToken user.id token expiresAt hcopy h₁.shared)
    fun record s₂ ⟨h₂, hcopy₂, hrecord⟩ => ?_
  have hu₂ : s₂.1.shared = s.1.shared := h₂.shared.trans h₁.shared
  refine Assures.imp (assures_insertEvent event hcopy₂ hu₂) fun _ s₃ ⟨h₃, hcopy₃⟩ => ?_
  exact ⟨h₂.trans h₃, _, hcopy₃, record, rfl, hrecord⟩

theorem assures_register (r : RegisterRequest) (s : Noted) :
    Assures (Ends (fun response s' => Registers s.1.shared response s'.1.shared) s.1.shared)
      (issuer.register r) s := by
  refine assures_bind ((quiet_newUser r).assures rfl) fun user s₁ ⟨_, hu₁⟩ => ?_
  refine assures_bind ((issuer.quiet_issuePair user).assures hu₁) fun pair s₂ ⟨_, hu₂⟩ => ?_
  refine assures_bind (issuer.quiet_refreshExpiry.assures hu₂) fun expiresAt s₃ ⟨_, hu₃⟩ => ?_
  rw [← hu₃]
  exact assures_bind (assures_storeUser user pair.refreshToken expiresAt s₃ pair.accessToken)
    fun _ s' h => h

theorem assures_login (r : LoginRequest) (s : Noted) :
    Assures (Ends (fun response s' => ∃ event, LogsIn s.1.shared response event s'.1.shared ∧
      Notifies response.user event s s') s.1.shared) (issuer.login r) s := by
  refine assures_bind ((quiet_ofExcept r.validate).assures rfl) fun _ s₀ ⟨h₀, hu₀⟩ => ?_
  refine assures_bind ((quiet_authenticate r).assures hu₀) fun user s₁ ⟨h₁, hu₁⟩ => ?_
  refine assures_bind ((issuer.quiet_issuePair user).assures hu₁) fun pair s₂ ⟨h₂, hu₂⟩ => ?_
  refine assures_bind (issuer.quiet_refreshExpiry.assures hu₂) fun expiresAt s₃ ⟨h₃, hu₃⟩ => ?_
  refine assures_bind (assures_loginEvent user hu₃) fun event s₄ ⟨hu₄, hevent⟩ => ?_
  rw [← hu₄]
  refine assures_bind (assures_storeLogin user pair.refreshToken expiresAt event s₄
    pair.accessToken) fun _ s' ⟨hd, h⟩ => ?_
  exact ⟨event, h, Notifies.trans (((h₀.trans h₁).trans h₂).trans h₃).toDraws hevent hd⟩

/-! ## What a run leaves behind -/

/-- What an operation leaves behind: with a value, what the value promises, and nothing
otherwise. -/
def Leaves (promised : AuthResponse → Tables → Prop) (t : Tables) :
    Outcome IdentityError AuthResponse → Tables → Prop
  | .ok response, t' => promised response t'
  | _, t' => t' = t

/-- An event of a login that nobody has tried to deliver. -/
def IsNew (event : OutboxEvent) : Prop :=
  event.name = EventName.login.text ∧ event.status = .pending ∧ event.attempts = 0

/-- Whichever calls fail, a registration adds a user and a record, a login adds a record and a new
event, and without a value neither of them has changed a thing. -/
theorem register_and_login_atomic {s s' : Store} {o : Outcome IdentityError AuthResponse} :
    (∀ r, Dialogue.Runs Serves (issuer.register r) s o s' →
      Leaves (Registers s.shared) s.shared o s'.shared) ∧
    (∀ r, Dialogue.Runs Serves (issuer.login r) s o s' →
      Leaves (fun response t => ∃ event, LogsIn s.shared response event t ∧ IsNew event) s.shared o
        s'.shared) := by
  constructor
  · intro r hr
    obtain ⟨notes, hr⟩ := hr.noting given []
    have hend := Dialogue.Secures.of_runs_alone (issuer.assures_register r (s, [])) hr
    cases o with
    | ok response => exact hend
    | failed e => exact hend
    | panicked p => exact hend
  · intro r hr
    obtain ⟨notes, hr⟩ := hr.noting given []
    have hend := Dialogue.Secures.of_runs_alone (issuer.assures_login r (s, [])) hr
    cases o with
    | ok response =>
      obtain ⟨event, hlogs, t, id, now, -, -, rfl⟩ := hend
      exact ⟨_, hlogs, rfl, rfl, rfl⟩
    | failed e => exact hend
    | panicked p => exact hend

/-! ### A registration and a login -/

def plainIssuer : Issuer := ⟨⟨fun _ _ _ _ _ => .ok "token", fun _ _ => .error .invalid⟩, 900, 3600⟩

def plainRequest : RegisterRequest := ⟨"alice", "Passw0rd", some "a@b.cd", none, none⟩

def plainLogin : LoginRequest := .withEmail "a@b.cd" "Passw0rd"

/-- Ids are counted, behind those that were drawn before. -/
def plainSurroundings (before : Nat) : Store.Surroundings :=
  ⟨⟨0, 0⟩, fun drawn => ⟨BitVec.ofNat 128 (before + drawn + 1)⟩, fun _ => .replicate 16 0⟩

def plainUser : User :=
  ⟨⟨1⟩, some "a@b.cd", none, none, "alice", Password.hash "Passw0rd" (.replicate 16 0), 0, 0⟩

def plainResponse : AuthResponse := ⟨plainUser, "token", "token"⟩

def plainRecord (id : Uuid) : RefreshToken :=
  ⟨id, plainUser.id, RefreshToken.hash "token", 3600000, false, 0, 0⟩

def plainEvent : OutboxEvent :=
  .make ⟨7⟩ 0 EventName.login.text (LoginNotice.ofUser plainUser ⟨0, 0⟩).toJson.normal

def registered : Store := ⟨⟨[plainUser], [plainRecord ⟨4⟩], []⟩, none⟩

def loggedIn : Store := ⟨⟨[plainUser], [plainRecord ⟨4⟩, plainRecord ⟨8⟩], [plainEvent]⟩, none⟩

theorem password_plain : Validation.password "Passw0rd" = .ok () := by
  have hlength : (8 ≤ "Passw0rd".toList.length && "Passw0rd".toList.length ≤ 32) = true := by rfl
  have hclasses : 3 ≤ Validation.classes.countP fun inClass => "Passw0rd".toList.any inClass := by
    unfold Validation.classes
    rw [List.countP_cons_of_pos (by rfl), List.countP_cons_of_pos (by rfl),
      List.countP_cons_of_pos (by rfl)]
    omega
  simp only [Validation.password, Validation.require, hclasses, hlength]
  rfl

theorem validate_plainRequest : plainRequest.validate = .ok () := by
  have hpassword : Validation.password plainRequest.password = .ok () := password_plain
  unfold RegisterRequest.validate
  rw [hpassword]
  rfl

theorem register_plain :
    User.register plainRequest (.replicate 16 0) ⟨1⟩ 0 = .ok plainUser := by
  unfold User.register
  rw [validate_plainRequest]
  rfl

theorem run_newUser {r : RegisterRequest} (hr : r.validate = .ok ()) :
    Dialogue.run (replies (plainSurroundings 0)) (newUser r) (({}, []) : Noted) =
      (.ofExcept (User.register r (.replicate 16 0) ⟨1⟩ 0), {}, [.id ⟨1⟩]) := by
  unfold newUser
  rw [hr]
  rfl

theorem run_register :
    Dialogue.run (replies (plainSurroundings 0)) (plainIssuer.register plainRequest)
      (({}, []) : Noted) =
      (.ok plainResponse, registered, [.id ⟨1⟩, .id ⟨2⟩, .id ⟨3⟩, .id ⟨4⟩]) := by
  have hnew : Dialogue.run (replies (plainSurroundings 0)) (newUser plainRequest)
      (({}, []) : Noted) = (.ok plainUser, {}, [.id ⟨1⟩]) := by
    rw [run_newUser validate_plainRequest, register_plain]
    rfl
  unfold register
  exact (Attempt.run_bind hnew).trans rfl

theorem run_authenticate :
    Dialogue.run (replies (plainSurroundings 4)) (authenticate plainLogin) (registered, []) =
      (.ok plainUser, registered, []) := by
  have hfind : Dialogue.run (replies (plainSurroundings 4)) (findUser plainLogin.identifier)
      (registered, []) = (.ok (some plainUser), registered, []) := rfl
  have hverify : Password.verify plainLogin.password plainUser.passwordHash = .ok true :=
    Password.verify_hash _ _
  unfold authenticate
  refine (Attempt.run_bind hfind).trans ?_
  simp only
  rw [hverify]
  rfl

theorem run_login :
    Dialogue.run (replies (plainSurroundings 4)) (plainIssuer.login plainLogin) (registered, []) =
      (.ok plainResponse, loggedIn,
        [.id ⟨5⟩, .id ⟨6⟩, .instant ⟨0, 0⟩, .id ⟨7⟩, .id ⟨8⟩]) := by
  have hvalid : Dialogue.run (replies (plainSurroundings 4))
      (.ofExcept plainLogin.validate : Step Unit) (registered, []) = (.ok (), registered, []) := rfl
  unfold login
  refine (Attempt.run_bind hvalid).trans ?_
  exact (Attempt.run_bind run_authenticate).trans rfl

theorem runs_register :
    Dialogue.Runs noted (plainIssuer.register plainRequest) ({}, []) (.ok plainResponse)
      (registered, [.id ⟨1⟩, .id ⟨2⟩, .id ⟨3⟩, .id ⟨4⟩]) := by
  have hruns := runs_replies (plainIssuer.register plainRequest) (plainSurroundings 0) ({}, [])
  rwa [run_register] at hruns

theorem runs_login :
    Dialogue.Runs noted (plainIssuer.login plainLogin) (registered, []) (.ok plainResponse)
      (loggedIn, [.id ⟨5⟩, .id ⟨6⟩, .instant ⟨0, 0⟩, .id ⟨7⟩, .id ⟨8⟩]) := by
  have hruns := runs_replies (plainIssuer.login plainLogin) (plainSurroundings 4) (registered, [])
  rwa [run_login] at hruns

/-- What the registration leaves, and what the login leaves after it. -/
theorem register_and_login_plain :
    Leaves (Registers {}) {} (.ok plainResponse) registered.shared ∧
    Leaves (fun response t => ∃ event, LogsIn registered.shared response event t ∧ IsNew event)
      registered.shared (.ok plainResponse) loggedIn.shared :=
  ⟨(plainIssuer.register_and_login_atomic).1 plainRequest runs_register.of_noting,
    (plainIssuer.register_and_login_atomic).2 plainLogin runs_login.of_noting⟩

end Issuer

end SignIn.Service
