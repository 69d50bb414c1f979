import Mathlib.Logic.Relation
import SignIn.Proofs.Atomicity
import SignIn.Proofs.Moments
import SignIn.Proofs.TokenRoundTrip

/-!
# Histories of the service

Operations follow one another, in any order and with time between them. Whatever fails on
the way, accounts that were in order stay in order, users stay as they are, and records
are at most revoked.
-/
namespace SignIn.Service

variable {α β : Type} {faults : Prop} {lapses : Attempt.Lapse IdentityError → Moment → Prop}
  {m : Moment}

theorem Pledges.unseen {Q : α → Moment → Prop} {a : Step α}
    (h : Pledges faults Still lapses Q a m) :
    Pledges faults Unseen lapses (fun value m' => Still m m' ∧ Q value m') a m :=
  Attempt.Promises.mono h (fun _ hs => hs.unseen) (fun _ _ _ hl => hl) fun _ _ hs hq => ⟨hs, hq⟩

theorem Pledges.advances {Q : α → Moment → Prop} {a : Step α}
    (h : Pledges faults Still lapses Q a m) :
    Pledges faults Advances lapses (fun value m' => Still m m' ∧ Q value m') a m :=
  Attempt.Promises.mono h (fun _ hs => hs.unseen.advances) (fun _ _ _ hl => hl)
    fun _ _ hs hq => ⟨hs, hq⟩

/-- What comes after a lookup goes by what the tables say. -/
theorem secures_looked {a : Step α} {f : α → Step β} {said : Outcome IdentityError α}
    {post : Outcome IdentityError β → Moment → Prop}
    (ha : a.Secures (Responds faults) (Terms.alone Call Moment) (Looked faults said m) m)
    (hfault : ∀ m' e, faults → Still m m' → post (.failed (.ofStorage e)) m')
    (hsaid : ∀ m', Still m m' → Attempt.onValue
      (fun value m₁ => (f value).Secures (Responds faults) (Terms.alone Call Moment) post m₁) post
      said m') :
    (a >>= f).Secures (Responds faults) (Terms.alone Call Moment) post m := by
  refine (Attempt.secures_bind ..).mpr (ha.mono fun o m' h => ?_)
  rcases h.said with rfl | ⟨hfaults, e, rfl⟩
  · have hgo := hsaid m' h.still
    cases o <;> exact hgo
  · exact hfault m' e hfaults h.still

/-! ## Inside a transaction -/

section Transaction

variable {t : Tables}

theorem pledges_createUser {user : User} (hcopy : m.store.copy = some t)
    (hl : Tolerates faults lapses)
    (hconflict : ∀ m', t.users.any (Tables.conflict user) = true →
      lapses (.failure .userAlreadyExists) m') :
    Pledges faults Unseen lapses (fun _ m' => t.users.any (Tables.conflict user) = false ∧
      m'.store.copy = some { t with users := t.users ++ [user] })
      (createUser .transaction user) m := by
  have hact (around : Store.Surroundings) (n : Nat) :
      (Store.act around n (.createUser .transaction user) m.store).1 =
        if t.users.any (Tables.conflict user) then .error .userAlreadyExists else .ok () := by
    by_cases hfree : t.users.any (Tables.conflict user) = true
    · simp [Store.act, Store.tables, Tables.createUser, hcopy, hfree]
    · simp [Store.act, Store.tables, Tables.createUser, hcopy, hfree]
  refine Attempt.Promises.mono (pledges_write (.user user) (f := id) (fun answer ho => ?_) hcopy
    (fun answer e m' hfaults hreports ho => ?_) fun around n e m' ho => ?_) (fun _ h => h)
    (fun _ _ _ h => h) fun _ m' _ h => ?_
  · rw [show answer = .ok () from ho]
    exact Bool.noConfusion
  · obtain ⟨e', rfl⟩ := hreports
    obtain rfl := Except.error.inj ho
    exact hl.storage hfaults e' m'
  · rw [id, hact] at ho
    by_cases hfree : t.users.any (Tables.conflict user) = true
    · rw [if_pos hfree] at ho
      obtain rfl := Except.error.inj ho
      exact hconflict m' hfree
    · rw [if_neg hfree] at ho
      cases ho
  · obtain ⟨⟨around, n, hok⟩, hnew⟩ := h
    refine ⟨?_, hnew⟩
    by_contra hfree
    rw [id, hact, if_pos (by simpa using hfree)] at hok
    cases hok

theorem pledges_insertEvent {event : OutboxEvent} (hcopy : m.store.copy = some t)
    (hl : Tolerates faults lapses) :
    Pledges faults Unseen lapses (fun _ m' => m'.store.copy = some (t.insertEvent event))
      (insertEvent .transaction event) m := by
  refine Attempt.Promises.mono (pledges_write (.event event)
    (f := fun answer => answer.mapError IdentityError.ofOutbox) (fun answer ho => ?_) hcopy
    (fun answer e m' hfaults _ ho => ?_) fun around n e m' ho => ?_) (fun _ h => h)
    (fun _ _ _ h => h) fun _ m' _ h => h.2
  · cases answer with
    | ok u => exact Bool.noConfusion
    | error e => cases ho
  · cases answer with
    | ok u => cases ho
    | error e' =>
      obtain rfl := Except.error.inj ho
      exact hl.outbox hfaults e' m'
  · cases ho

theorem pledges_createToken {userId : Uuid} {token : String} {expiresAt : Int}
    (hcopy : m.store.copy = some t) (hl : Tolerates faults lapses)
    (hmake : ∀ m' id e, Still m m' →
      RefreshToken.make id m'.clock userId token expiresAt = .error e → lapses (.failure e) m') :
    Pledges faults Unseen lapses (fun record m' => m'.store.copy = some (t.insertToken record) ∧
      ∃ id now, id ∈ m'.drawn ∧ RefreshToken.make id now userId token expiresAt = .ok record)
      (createToken .transaction userId token expiresAt) m := by
  refine Attempt.Promises.bind pledges_freshId.unseen fun recordId m₁ _ ⟨h₁, hid⟩ => ?_
  refine Attempt.Promises.bind pledges_now.unseen fun now m₂ _ ⟨h₂, hnow⟩ => ?_
  have hstill : Still m m₂ := trans_of Still h₁ h₂
  refine Attempt.Promises.bind (Attempt.promises_ofExcept fun e he => ?_)
    fun record m₃ _ ⟨h₃, hrecord⟩ => ?_
  · rw [hnow] at he
    exact hmake m₂ recordId e hstill he
  · have hcopy₃ : m₃.store.copy = some t := by rw [h₃, ← hstill.store, hcopy]
    refine Attempt.Promises.bind (pledges_write (.token record) (f := id) (fun answer ho => ?_)
      hcopy₃ (fun answer e m' hfaults hreports ho => ?_) fun around n e m' ho => ?_)
      fun _ m₄ h₄ ⟨_, hnew⟩ => ?_
    · rw [show answer = .ok () from ho]
      exact Bool.noConfusion
    · obtain ⟨e', rfl⟩ := hreports
      obtain rfl := Except.error.inj ho
      exact hl.storage hfaults e' m'
    · cases ho
    · refine Attempt.promises_pure ⟨hnew, recordId, now, h₄.drawn ?_, hrecord⟩
      rw [h₃]
      exact h₂.drawn hid

/-! ### What may be published -/

section Publication

variable {m' : Moment} {user : User} {record : RefreshToken} {id : Uuid} {now expiresAt : Int}
  {token : String}

/-- A new user who is in nobody's way, with a first record. -/
theorem publishable_registered {r : RegisterRequest}
    (hfree : m.store.shared.users.any (Tables.conflict user) = false) (hmade : user.MadeFor r)
    (hrecord : RefreshToken.make id now user.id token expiresAt = .ok record)
    (hid : id ∈ m'.drawn) (hdrawn : m.drawn ⊆ m'.drawn) :
    Publishable m m' (Tables.insertToken
      { m.store.shared with users := m.store.shared.users ++ [user] } record) := by
  constructor
  · have hadd : m.store.shared.Grows
        { m.store.shared with users := m.store.shared.users ++ [user] } :=
      ⟨List.prefix_append .., fun i r hr => ⟨r, hr, .refl r⟩⟩
    exact hadd.trans (.insertToken _ record)
  · intro hi
    have hadd := (hi.mono hdrawn).addUser hfree (RefreshToken.make_eq_ok hrecord).1 ⟨r, hmade⟩
    exact hadd.insertToken hrecord hid
      ⟨user, List.mem_append_right _ (List.mem_singleton_self user), rfl⟩

/-- A record of a user who is stored, with an event. -/
theorem publishable_loggedIn {event : OutboxEvent} (howner : user ∈ m.store.shared.users)
    (hrecord : RefreshToken.make id now user.id token expiresAt = .ok record)
    (hid : id ∈ m'.drawn) (hdrawn : m.drawn ⊆ m'.drawn) :
    Publishable m m' ((m.store.shared.insertToken record).insertEvent event) := by
  constructor
  · have hgrows := Tables.Grows.insertToken m.store.shared record
    exact ⟨hgrows.users, hgrows.records⟩
  · intro hi
    have hinserted := (hi.mono hdrawn).insertToken hrecord hid ⟨user, howner, rfl⟩
    exact ⟨hinserted.apart, hinserted.users, hinserted.records⟩

end Publication

end Transaction

/-! ## Before a transaction -/

namespace Issuer

variable (issuer : Issuer)

theorem pledges_newUser {r : RegisterRequest}
    (hform : ∀ e m', r.validate = .error e → lapses (.failure e) m') :
    Pledges faults Still lapses (fun user _ => user.MadeFor r) (newUser r) m := by
  unfold newUser
  refine Attempt.Promises.bind (Attempt.promises_ofExcept fun e he => hform e m he)
    fun _ _ _ ⟨_, hr⟩ => ?_
  refine Attempt.Promises.bind pledges_freshSalt fun salt m₁ _ _ => ?_
  refine Attempt.Promises.bind pledges_now fun now m₂ _ _ => ?_
  refine Attempt.Promises.bind pledges_freshId fun id m₃ _ _ => ?_
  refine Attempt.Promises.mono (Attempt.promises_ofExcept fun e he => ?_) (fun _ h => h)
    (fun _ _ _ h => h) fun user _ _ h => ⟨salt, id, now, h.2⟩
  unfold User.register at he
  rw [hr] at he
  cases he

/-- A token is issued when its time is read, with the id that was drawn for it. -/
theorem secures_issue (user : User) :
    (issuer.issue user).Secures (Responds faults) (Terms.alone Call Moment)
      (fun o m' => Still m m' ∧ ∃ id ∈ m'.drawn, o = .ofExcept ((issuer.maker.issue id
        (m'.clock / 1000) user.id.text user.username issuer.accessTtl).mapError .ofToken)) m := by
  refine (Attempt.secures_bind ..).mpr (pledges_freshId.certain.mono ?_)
  rintro _ m₁ ⟨h₁, id, rfl, hid⟩
  refine (Attempt.secures_bind ..).mpr (pledges_now.certain.mono ?_)
  rintro _ m₂ ⟨h₂, now, rfl, rfl⟩
  exact ⟨trans_of Still h₁ h₂, id, h₂.drawn hid, rfl⟩

/-- Can it happen that no token is issued, or an empty one? -/
def Falters : Prop :=
  ∃ id now userId username,
    (∃ e, issuer.maker.issue id now userId username issuer.accessTtl = .error e) ∨
    issuer.maker.issue id now userId username issuer.accessTtl = .ok ""

theorem pledges_issuePair (user : User) (hl : ∀ l m', issuer.Falters → lapses l m') :
    Pledges faults Still lapses (fun pair _ => pair.refreshToken = "" → issuer.Falters)
      (issuer.issuePair user) m := by
  have hissue (m₁ : Moment) : Pledges faults Still lapses
      (fun token _ => token = "" → issuer.Falters) (issuer.issue user) m₁ := by
    refine Attempt.Secures.mono (issuer.secures_issue user) fun o m₂ ⟨hstill, id, _, ho⟩ => ?_
    cases hmade : issuer.maker.issue id (m₂.clock / 1000) user.id.text user.username
      issuer.accessTtl with
    | ok token =>
      rw [hmade] at ho
      subst ho
      refine Attempt.kept_ok hstill fun hempty => ?_
      exact ⟨id, _, _, _, .inr (by rw [hmade, hempty])⟩
    | error e =>
      rw [hmade] at ho
      subst ho
      exact Attempt.kept_failed hstill (hl _ m₂ ⟨id, _, _, _, .inl ⟨e, hmade⟩⟩)
  refine Attempt.Promises.bind (hissue m) fun access m₁ _ _ => ?_
  refine Attempt.Promises.bind (hissue m₁) fun refresh m₂ _ hrefresh => ?_
  exact Attempt.promises_pure hrefresh

/-- Does the expiry of a refresh token that is issued at this time fit its word? -/
def Fits (now : Int) : Prop :=
  Decimal.Range.i64.contains (issuer.refreshTtl * 1000) = true ∧
    Decimal.Range.i64.contains (now + issuer.refreshTtl * 1000) = true

theorem pledges_refreshExpiry
    (hl : ∀ p m', m.clock ≤ m'.clock → ¬ issuer.Fits m'.clock →
      p = .multiplyOverflow ∨ p = .addOverflow → lapses (.panic p) m') :
    Pledges faults Still lapses
      (fun expiresAt m' => expiresAt = m'.clock + issuer.refreshTtl * 1000 ∧ issuer.Fits m'.clock)
      issuer.refreshExpiry m := by
  refine Attempt.Promises.bind pledges_now fun now m₁ h₁ hnow => ?_
  refine Attempt.Promises.bind (pledges_inWord fun hn => ?_)
    fun lifetime m₂ _ ⟨hlife, h₂, hlifetime⟩ => ?_
  · exact hl _ m₁ h₁.clock (fun hfits => Bool.noConfusion (hn.symm.trans hfits.1)) (.inl rfl)
  · subst h₂ hlife
    refine Attempt.Promises.mono (pledges_inWord fun hn => ?_) (fun _ h => h)
      (fun _ _ _ h => h) fun expiresAt m₃ _ ⟨hsum, h₃, hcontains⟩ => ?_
    · rw [hnow] at hn
      exact hl _ m₂ h₁.clock (fun hfits => Bool.noConfusion (hn.symm.trans hfits.2)) (.inr rfl)
    · subst h₃
      rw [hnow] at hsum hcontains
      exact ⟨hsum, hlifetime, hcontains⟩

theorem pledges_loginEvent (user : User) :
    Pledges faults Still lapses (fun _ _ => True) (loginEvent user) m := by
  refine Attempt.Promises.bind pledges_instant fun loginAt m₁ _ _ => ?_
  refine Attempt.Promises.bind pledges_now fun now m₂ _ _ => ?_
  refine Attempt.Promises.bind pledges_freshId fun id m₃ _ _ => ?_
  exact Attempt.promises_pure trivial

/-- What becomes of somebody who was looked up, or was not found, and shows a password. -/
def credited (password : String) : Option User → Outcome IdentityError User
  | none => .failed .invalidCredentials
  | some user =>
    match Password.verify password user.passwordHash with
    | .ok true => .ok user
    | .ok false => .failed .invalidCredentials
    | .failed e => .failed e
    | .panicked p => .panicked p

theorem secures_authenticate (r : LoginRequest) :
    (authenticate r).Secures (Responds faults) (Terms.alone Call Moment)
      (Looked faults (credited r.password (m.store.shared.named r.identifier)) m) m := by
  refine secures_looked (secures_findUser r.identifier)
    (fun m' e hfaults h => ⟨h, .inr ⟨hfaults, e, rfl⟩⟩) fun m' h => ?_
  simp only [Attempt.onValue_ok]
  cases m.store.shared.named r.identifier with
  | none => exact ⟨h, .inl rfl⟩
  | some user =>
    refine (Attempt.secures_bind ..).mpr ?_
    unfold credited
    simp only
    cases Password.verify r.password user.passwordHash with
    | ok fits => cases fits <;> exact ⟨h, .inl rfl⟩
    | failed e => exact ⟨h, .inl rfl⟩
    | panicked p => exact ⟨h, .inl rfl⟩

theorem pledges_authenticate {r : LoginRequest} (hl : Tolerates faults lapses)
    (hfailed : ∀ e m', credited r.password (m.store.shared.named r.identifier) = .failed e →
      lapses (.failure e) m')
    (hpanicked : ∀ p m', credited r.password (m.store.shared.named r.identifier) = .panicked p →
      lapses (.panic p) m') :
    Pledges faults Still lapses
      (fun user _ => credited r.password (m.store.shared.named r.identifier) = .ok user)
      (authenticate r) m := by
  refine Attempt.Secures.mono (secures_authenticate r) fun o m' h => ?_
  rcases h.said with rfl | ⟨hfaults, e, rfl⟩
  · cases hcredited : credited r.password (m.store.shared.named r.identifier) with
    | ok user => exact Attempt.kept_ok h.still rfl
    | failed e => exact Attempt.kept_failed h.still (hfailed e m' hcredited)
    | panicked p => exact Attempt.kept_panicked h.still (hpanicked p m' hcredited)
  · exact Attempt.kept_failed h.still (hl.storage hfaults e m')

/-! ## The operations -/

/-- What an operation that stores a refresh token may end in, where there is no value: the request
is refused, the store fails, no token is made, the expiry does not fit its word, or it has passed. -/
inductive Hindered (faults : Prop) (refuses : Attempt.Lapse IdentityError → Prop) (m : Moment) :
    Attempt.Lapse IdentityError → Moment → Prop where
  | refused {l : Attempt.Lapse IdentityError} {m' : Moment} : refuses l →
      Hindered faults refuses m l m'
  | storage {e : StorageError} {m' : Moment} : faults →
      Hindered faults refuses m (.failure (.ofStorage e)) m'
  | outbox {e : OutboxError} {m' : Moment} : faults →
      Hindered faults refuses m (.failure (.ofOutbox e)) m'
  | falters {l : Attempt.Lapse IdentityError} {m' : Moment} : issuer.Falters →
      Hindered faults refuses m l m'
  | overflow {p : Panic} {now : Int} {m' : Moment} : m.clock ≤ now → now ≤ m'.clock →
      ¬ issuer.Fits now → Hindered faults refuses m (.panic p) m'
  | late {m' : Moment} : m.clock + issuer.refreshTtl * 1000 ≤ m'.clock →
      Hindered faults refuses m (.failure .tokenExpired) m'

theorem tolerates_hindered {refuses : Attempt.Lapse IdentityError → Prop} :
    Tolerates faults (issuer.Hindered faults refuses m) := by
  refine ⟨fun l m₁ m₂ hclock h => ?_, fun hfaults _ _ => .storage hfaults,
    fun hfaults _ _ => .outbox hfaults⟩
  cases h with
  | refused h => exact .refused h
  | storage h => exact .storage h
  | outbox h => exact .outbox h
  | falters h => exact .falters h
  | overflow h h' hn => exact .overflow h (Int.le_trans h' hclock) hn
  | late h => exact .late (Int.le_trans h hclock)

/-- A pair of tokens is issued and the expiry of the second computed, before anything is stored. -/
theorem pledges_issued {refuses : Attempt.Lapse IdentityError → Prop} {user : User} {m₁ : Moment}
    {Q : β → Moment → Prop} {f : TokenPair → Int → Step β} (h₁ : Still m m₁)
    (hf : ∀ pair m₂, Still m m₂ → (pair.refreshToken = "" → issuer.Falters) →
      issuer.Fits m₂.clock → Pledges faults Advances (issuer.Hindered faults refuses m) Q
        (f pair (m₂.clock + issuer.refreshTtl * 1000)) m₂) :
    Pledges faults Advances (issuer.Hindered faults refuses m) Q (do
      let pair ← issuer.issuePair user
      let expiresAt ← issuer.refreshExpiry
      f pair expiresAt) m₁ := by
  refine Attempt.Promises.bind (issuer.pledges_issuePair user fun _ _ h => .falters h).advances
    fun pair m₂ _ ⟨h₂, hpair⟩ => ?_
  have h₁₂ : Still m m₂ := trans_of Still h₁ h₂
  refine Attempt.Promises.bind (issuer.pledges_refreshExpiry fun _ m' hclock hfits _ =>
    .overflow (Int.le_trans h₁₂.clock hclock) (Int.le_refl _) hfits).advances ?_
  rintro _ m₃ _ ⟨h₃, rfl, hfits⟩
  exact hf pair m₃ (trans_of Still h₁₂ h₃) hpair hfits

/-- The expiry was computed before the transaction, and time has gone on since then. -/
theorem hindered_of_make {refuses : Attempt.Lapse IdentityError → Prop} {m₁ m₂ : Moment}
    {id userId : Uuid} {token : String} {e : IdentityError} (hclock : m.clock ≤ m₁.clock)
    (hnil : userId.isNil = true → refuses (.failure .invalidToken))
    (hempty : token = "" → issuer.Falters)
    (h : RefreshToken.make id m₂.clock userId token (m₁.clock + issuer.refreshTtl * 1000) =
      .error e) :
    issuer.Hindered faults refuses m (.failure e) m₂ := by
  rcases RefreshToken.of_make_eq_error h with ⟨rfl, hblank | hblank⟩ | ⟨rfl, hlate⟩
  · exact .refused (hnil hblank)
  · exact .falters (hempty hblank)
  · exact .late (by omega)

/-- What a registration may be refused with. -/
inductive RefusesRegistration (r : RegisterRequest) : Attempt.Lapse IdentityError → Prop where
  | form {e : IdentityError} : r.validate = .error e → RefusesRegistration r (.failure e)
  | taken : RefusesRegistration r (.failure .userAlreadyExists)
  | nobody : RefusesRegistration r (.failure .invalidToken)

/-- A registration answers with a user who was made for the request and is stored. -/
theorem pledges_register (r : RegisterRequest) :
    Pledges faults Advances (issuer.Hindered faults (RefusesRegistration r) m)
      (fun response m' => (response.user.MadeFor r ∧ response.user ∈ m'.store.shared.users) ∧
        ∃ now, m.clock ≤ now ∧ issuer.Fits now)
      (issuer.register r) m := by
  have hl : Tolerates faults (issuer.Hindered faults (RefusesRegistration r) m) :=
    issuer.tolerates_hindered
  refine Attempt.Promises.bind (pledges_newUser fun _ _ h => .refused (.form h)).advances
    fun user m₁ _ ⟨h₁, hmade⟩ => ?_
  refine issuer.pledges_issued h₁ fun pair m₃ h₁₃ hpair hfits => ?_
  refine Attempt.Promises.bind (pledges_inTransaction (Q := fun _ t => user ∈ t.users) hl
    fun m₄ h₄ hcopy => ?_)
    fun _ m₅ _ hstored => Attempt.promises_pure ⟨⟨hmade, hstored⟩, m₃.clock, h₁₃.clock, hfits⟩
  refine Attempt.Promises.bind (pledges_createUser hcopy hl fun _ _ => .refused .taken)
    fun _ m₅ h₅ ⟨hfree, hcopy₅⟩ => ?_
  refine Attempt.Promises.bind (pledges_createToken hcopy₅ hl fun m' id e _ hmake => ?_)
    fun record m₆ h₆ ⟨hcopy₆, id, now, hid, hrecord⟩ => ?_
  · exact issuer.hindered_of_make h₁₃.clock (fun _ => .nobody) hpair hmake
  · have hdrawn : m₃.drawn ⊆ m₆.drawn :=
      List.Subset.trans (List.Subset.trans h₄.drawn h₅.drawn) h₆.drawn
    exact Attempt.promises_pure ⟨_, hcopy₆, publishable_registered hfree hmade hrecord hid hdrawn,
      List.mem_append_right _ (List.mem_singleton_self user)⟩

/-- What a login may be refused with, by what the tables say. -/
inductive RefusesLogin (r : LoginRequest) (t : Tables) : Attempt.Lapse IdentityError → Prop where
  | form {e : IdentityError} : r.validate = .error e → RefusesLogin r t (.failure e)
  | failed {e : IdentityError} : credited r.password (t.named r.identifier) = .failed e →
      RefusesLogin r t (.failure e)
  | panicked {p : Panic} : credited r.password (t.named r.identifier) = .panicked p →
      RefusesLogin r t (.panic p)
  | nobody {user : User} : t.named r.identifier = some user → user.id.isNil = true →
      RefusesLogin r t (.failure .invalidToken)

theorem named_of_credited {password : String} {found : Option User} {user : User}
    (h : credited password found = .ok user) :
    found = some user ∧ Password.verify password user.passwordHash = .ok true := by
  cases found with
  | none => cases h
  | some v =>
    unfold credited at h
    simp only at h
    cases hv : Password.verify password v.passwordHash with
    | ok fits =>
      rw [hv] at h
      cases fits with
      | true =>
        obtain rfl := Outcome.ok.inj h
        exact ⟨rfl, hv⟩
      | false => cases h
    | failed e =>
      rw [hv] at h
      cases h
    | panicked p =>
      rw [hv] at h
      cases h

/-- A login answers with the user who was looked up and has shown the right password. -/
theorem pledges_login (r : LoginRequest) :
    Pledges faults Advances (issuer.Hindered faults (RefusesLogin r m.store.shared) m)
      (fun response _ =>
        credited r.password (m.store.shared.named r.identifier) = .ok response.user ∧
          ∃ now, m.clock ≤ now ∧ issuer.Fits now)
      (issuer.login r) m := by
  have hl : Tolerates faults (issuer.Hindered faults (RefusesLogin r m.store.shared) m) :=
    issuer.tolerates_hindered
  refine Attempt.Promises.bind (Attempt.promises_ofExcept fun e he => .refused (.form he))
    fun _ m₀ _ ⟨h₀, _⟩ => ?_
  subst h₀
  refine Attempt.Promises.bind (pledges_authenticate hl (fun _ _ h => .refused (.failed h))
    fun _ _ h => .refused (.panicked h)).advances fun user m₁ _ ⟨h₁, huser⟩ => ?_
  refine issuer.pledges_issued h₁ fun pair m₃ h₁₃ hpair hfits => ?_
  refine Attempt.Promises.bind (pledges_loginEvent user).advances fun event m₄ _ ⟨h₄, _⟩ => ?_
  have h₁₄ : Still m₀ m₄ := trans_of Still h₁₃ h₄
  refine Attempt.Promises.bind (pledges_inTransaction (Q := fun _ _ => True) hl
    fun m₅ h₅ hcopy => ?_)
    fun _ m₅ _ _ => Attempt.promises_pure ⟨huser, m₃.clock, h₁₃.clock, hfits⟩
  obtain ⟨hnamed, -⟩ := named_of_credited huser
  refine Attempt.Promises.bind (pledges_createToken hcopy hl fun m' id e _ hmake => ?_)
    fun record m₆ h₆ ⟨hcopy₆, id, now, hid, hrecord⟩ => ?_
  · exact issuer.hindered_of_make h₁₃.clock (fun hnil => .nobody hnamed hnil) hpair hmake
  · refine Attempt.Promises.mono (pledges_insertEvent hcopy₆ hl) (fun _ h => h)
      (fun _ _ _ h => h) fun _ m₇ h₇ hcopy₇ => ?_
    have hdrawn : m₄.drawn ⊆ m₇.drawn :=
      List.Subset.trans (List.Subset.trans h₅.drawn h₆.drawn) h₇.drawn
    have howner : user ∈ m₄.store.shared.users := by
      rw [← h₁₄.store]
      exact Tables.mem_of_named hnamed
    exact ⟨_, hcopy₇, publishable_loggedIn howner hrecord (h₇.drawn hid) hdrawn, trivial⟩

/-- How a refresh may end, with the record and the user that were looked up on the way. -/
inductive Refreshes (faults : Prop) (token : String) (m m' : Moment) :
    Outcome IdentityError String → Prop where
  | fault (e : StorageError) : faults → Refreshes faults token m m' (.failed (.ofStorage e))
  | blank : token = "" → Refreshes faults token m m' (.failed .tokenRequired)
  | unknown : token ≠ "" → m.store.shared.record? token = none →
      Refreshes faults token m m' (.failed .tokenNotFound)
  | refused {record : RefreshToken} {now : Int} {e : IdentityError} : token ≠ "" →
      m.store.shared.record? token = some record → m.clock ≤ now → now ≤ m'.clock →
      record.validate now = .error e → Refreshes faults token m m' (.failed e)
  | orphan {record : RefreshToken} : m.store.shared.record? token = some record →
      m.store.shared.userById record.userId = none →
      Refreshes faults token m m' (.failed .userNotFound)
  | issues {record : RefreshToken} {now : Int} {user : User} {id : Uuid} : token ≠ "" →
      m.store.shared.record? token = some record → m.clock ≤ now → now ≤ m'.clock →
      record.validate now = .ok () → m.store.shared.userById record.userId = some user →
      id ∈ m'.drawn → Refreshes faults token m m' (.ofExcept ((issuer.maker.issue id
        (m'.clock / 1000) user.id.text user.username issuer.accessTtl).mapError .ofToken))

theorem secures_refresh (token : String) :
    (issuer.refresh token).Secures (Responds faults) (Terms.alone Call Moment)
      (fun o m' => Still m m' ∧ issuer.Refreshes faults token m m' o) m := by
  unfold refresh
  by_cases hblank : token = ""
  · rw [if_pos hblank]
    exact ⟨refl_of Still m, .blank hblank⟩
  rw [if_neg hblank]
  refine secures_looked (secures_tokenRecord token) (fun m' e hfaults h => ⟨h, .fault e hfaults⟩)
    fun m₁ h₁ => ?_
  rw [Tables.tokenRecord_eq]
  cases hrecord : m.store.shared.record? token with
  | none => exact ⟨h₁, .unknown hblank hrecord⟩
  | some record =>
    refine (Attempt.secures_bind ..).mpr (pledges_now.certain.mono ?_)
    rintro _ m₂ ⟨h₂, now, rfl, rfl⟩
    have h₁₂ : Still m m₂ := trans_of Still h₁ h₂
    refine (Attempt.secures_bind ..).mpr ((Attempt.secures_ofExcept ..).mpr ?_)
    cases hvalid : record.validate m₂.clock with
    | error e => exact ⟨h₁₂, .refused hblank hrecord h₁₂.clock (Int.le_refl _) hvalid⟩
    | ok u =>
      refine secures_looked (secures_userById record.userId)
        (fun m' e hfaults h => ⟨trans_of Still h₁₂ h, .fault e hfaults⟩) fun m₃ h₃ => ?_
      rw [← h₁₂.store]
      cases huser : m.store.shared.userById record.userId with
      | none => exact ⟨trans_of Still h₁₂ h₃, .orphan hrecord huser⟩
      | some user =>
        refine Attempt.Secures.mono (issuer.secures_issue user) fun o m₄ ⟨h₄, id, hid, ho⟩ => ?_
        rw [ho]
        exact ⟨trans_of Still (trans_of Still h₁₂ h₃) h₄, .issues hblank hrecord h₁₂.clock
          (trans_of Still h₃ h₄).clock hvalid huser hid⟩

theorem secures_verifyAccess (token : String) :
    (issuer.verifyAccess token).Secures (Responds faults) (Terms.alone Call Moment)
      (fun o m' => Still m m' ∧ (token ≠ "" → o = .ofExcept
        ((issuer.maker.verify (m'.clock / 1000) token).mapError .ofToken))) m := by
  unfold verifyAccess
  by_cases hblank : token = ""
  · rw [if_pos hblank]
    exact ⟨refl_of Still m, fun h => (h hblank).elim⟩
  rw [if_neg hblank]
  refine (Attempt.secures_bind ..).mpr (pledges_now.certain.mono ?_)
  rintro _ m₁ ⟨h₁, now, rfl, rfl⟩
  exact ⟨h₁, fun _ => rfl⟩

end Issuer

/-! ## Revocations -/

/-- The record of the token is there and meets a condition. -/
def HasRecord (token : String) (p : RefreshToken → Prop) (m : Moment) : Prop :=
  ∃ record, m.store.shared.record? token = some record ∧ p record

theorem HasRecord.imp {token : String} {p q : RefreshToken → Prop} (h : HasRecord token p m)
    (hpq : ∀ record, p record → q record) : HasRecord token q m := by
  obtain ⟨record, hrecord, hp⟩ := h
  exact ⟨record, hrecord, hpq record hp⟩

/-- The record of the token continues, and what stays true of it as it does is still true. -/
theorem HasRecord.advances {token : String} {m' : Moment} {p q : RefreshToken → Prop}
    (h : HasRecord token p m)
    (hm : Advances m m') (hpq : ∀ record record', record.Continues record' → p record → q record') :
    HasRecord token q m' := by
  obtain ⟨record, hrecord, hp⟩ := h
  obtain ⟨record', hrecord', hcontinues⟩ := hm.store.record? hrecord
  exact ⟨record', hrecord', hpq record record' hcontinues hp⟩

theorem Responds.of_revokes {c : Call} (hc : Revokes c) {m' : Moment} {answer : Answer c}
    (h : Responds faults c m answer m') :
    ∃ records, List.Forall₂ RefreshToken.Continues m.store.shared.tokens records ∧
      m'.store.shared = { m.store.shared with tokens := records } := by
  have hsame : ∃ records, List.Forall₂ RefreshToken.Continues m.store.shared.tokens records ∧
      m.store.shared = { m.store.shared with tokens := records } :=
    ⟨m.store.shared.tokens, List.forall₂_same.mpr fun r _ => .refl r, rfl⟩
  have hact (around : Store.Surroundings) (n : Nat) :
      ∃ records, List.Forall₂ RefreshToken.Continues m.store.shared.tokens records ∧
        (Store.act around n c m.store).2.shared = { m.store.shared with tokens := records } := by
    cases c with
    | revokeToken scope token =>
      cases scope with
      | ambient => exact ⟨_, Tables.forall₂_revokeFirst .., rfl⟩
      | transaction => exact hc.elim
    | revokeUserTokens scope userId =>
      cases scope with
      | ambient => exact ⟨_, Tables.forall₂_revokeAll .., rfl⟩
      | transaction => exact hc.elim
    | _ => exact hc.elim
  cases h with
  | works around n _ h =>
    have hworked := hact around n
    rwa [h] at hworked
  | fails time _ _ _ hremains =>
    cases hremains with
    | nothing => exact hsame
    | effect around n => exact hact around n
    | dropped => exact hsame

theorem Responds.advances_of_revokes {c : Call} (hc : Revokes c) {m' : Moment} {answer : Answer c}
    (h : Responds faults c m answer m') : Advances m m' := by
  obtain ⟨records, hrecords, hshared⟩ := h.of_revokes hc
  refine ⟨⟨h.onward.1, h.onward.2, ?_⟩, fun hi => ?_⟩
  · rw [hshared]
    exact .revise hrecords
  · rw [hshared]
    exact (hi.revise hrecords).mono h.onward.2

theorem pledges_revokeToken (token : String) :
    Pledges faults Advances (fun _ _ => True) (fun found m' =>
      (∀ record, m'.store.shared.record? token = some record → record.isRevoked = true) ∧
        (found = true → ∃ record, m'.store.shared.record? token = some record))
      (revokeToken .ambient token) m := by
  refine Attempt.promises_call (f := fun (answer : Answer (.revokeToken .ambient token)) => answer)
    fun answer m' h => ?_
  refine ⟨h.advances_of_revokes (c := .revokeToken .ambient token) trivial, fun found ho => ?_,
    fun _ _ => trivial⟩
  cases h with
  | works around n _ hact =>
    cases hact
    obtain rfl := Except.ok.inj ho
    refine ⟨fun record => Tables.isRevoked_of_revokeToken, fun hany => ?_⟩
    obtain ⟨record, hrecord⟩ := Tables.record?_of_any hany
    have hgrows : m.store.shared.Grows (m.store.shared.revokeToken around.now.millis token).2 :=
      .revise (Tables.forall₂_revokeFirst ..)
    obtain ⟨record', hrecord', -⟩ := hgrows.record? hrecord
    exact ⟨record', hrecord'⟩
  | fails time _ _ hreports =>
    obtain ⟨e, he⟩ := hreports
    rw [he] at ho
    cases ho

theorem pledges_tokenRecord (token : String) :
    Pledges faults Still (fun _ _ => True)
      (fun record _ => m.store.shared.record? token = some record) (tokenRecord .ambient token)
      m := by
  refine Attempt.Secures.mono (secures_tokenRecord token) fun o m' h => ?_
  rcases h.said with rfl | ⟨-, e, rfl⟩
  · rw [Tables.tokenRecord_eq]
    cases hrecord : m.store.shared.record? token with
    | none => exact Attempt.kept_failed h.still trivial
    | some record => exact Attempt.kept_ok h.still rfl
  · exact Attempt.kept_failed h.still trivial

/-- After a revocation that was confirmed, the record of the token is there and it is revoked. -/
theorem pledges_revoke (token : String) :
    Pledges faults Advances (fun _ _ => True)
      (fun _ => HasRecord token fun record => record.isRevoked = true) (revoke token) m := by
  unfold revoke
  by_cases hblank : token = ""
  · rw [if_pos hblank]
    exact Attempt.kept_failed (refl_of Advances m) trivial
  rw [if_neg hblank]
  refine Attempt.Promises.bind (pledges_revokeToken token) fun found m₁ _ ⟨hrevoked, hfound⟩ => ?_
  cases found with
  | true =>
    obtain ⟨record, hrecord⟩ := hfound rfl
    exact Attempt.promises_pure ⟨record, hrecord, hrevoked record hrecord⟩
  | false =>
    -- Nothing was revoked just now, so the token is unknown or was revoked before.
    refine Attempt.Promises.bind (pledges_tokenRecord token).advances
      fun record m₂ _ ⟨h₂, hrecord⟩ => ?_
    refine Attempt.promises_pure ⟨record, ?_, hrevoked record hrecord⟩
    rw [← h₂.store, hrecord]

theorem pledges_revokeAll (userId : Uuid) :
    Pledges faults Advances (fun _ _ => True) (fun _ m' =>
      ∀ record ∈ m'.store.shared.tokens, record.userId = userId → record.isRevoked = true)
      (revokeAll userId) m := by
  refine Attempt.promises_call
    (f := fun (answer : Answer (.revokeUserTokens .ambient userId)) => answer) fun answer m' h => ?_
  refine ⟨h.advances_of_revokes (c := .revokeUserTokens .ambient userId) trivial,
    fun count ho => ?_, fun _ _ => trivial⟩
  cases h with
  | works around n _ hact =>
    cases hact
    exact fun record => Tables.isRevoked_of_revokeUserTokens
  | fails time _ _ hreports =>
    obtain ⟨e, he⟩ := hreports
    rw [he] at ho
    cases ho

/-! ## Histories -/

inductive Request where
  | register (r : RegisterRequest)
  | login (r : LoginRequest)
  | refresh (token : String)
  | revoke (token : String)
  | revokeAll (userId : Uuid)
  | verify (token : String)

abbrev Request.Reply : Request → Type
  | .register _ | .login _ => AuthResponse
  | .refresh _ => String
  | .revoke _ => Unit
  | .revokeAll _ => Nat
  | .verify _ => Claims

namespace Issuer

variable (issuer : Issuer)

def serve : (q : Request) → Step q.Reply
  | .register r => issuer.register r
  | .login r => issuer.login r
  | .refresh token => issuer.refresh token
  | .revoke token => Service.revoke token
  | .revokeAll userId => Service.revokeAll userId
  | .verify token => issuer.verifyAccess token

/-- A request is served from one moment to another, while every call may fail. -/
def Calls (q : Request) (m : Moment) (o : Outcome IdentityError q.Reply) (m' : Moment) : Prop :=
  Dialogue.Runs (Responds True) (issuer.serve q) m o m'

inductive Next (m : Moment) : Moment → Prop where
  | serves (q : Request) {o : Outcome IdentityError q.Reply} {m' : Moment} :
      issuer.Calls q m o m' → Next m m'
  | waits {time : Int} : m.clock ≤ time → Next m { m with clock := time }

/-- Any requests, one after the other, with time between them. -/
abbrev Reaches : Moment → Moment → Prop := Relation.ReflTransGen issuer.Next

variable {issuer} {m' : Moment}

theorem Calls.advances {q : Request} {o : Outcome IdentityError q.Reply}
    (h : issuer.Calls q m o m') : Advances m m' := by
  cases q with
  | register r => exact ((issuer.pledges_register r).of_runs h).moves
  | login r => exact ((issuer.pledges_login r).of_runs h).moves
  | refresh token => exact ((issuer.secures_refresh token).of_runs h).1.unseen.advances
  | revoke token => exact ((pledges_revoke token).of_runs h).moves
  | revokeAll userId => exact ((pledges_revokeAll userId).of_runs h).moves
  | verify token => exact ((issuer.secures_verifyAccess token).of_runs h).1.unseen.advances

theorem Next.advances (h : issuer.Next m m') : Advances m m' := by
  cases h with
  | serves q h => exact h.advances
  | waits htime => exact Unseen.advances ⟨htime, List.Subset.refl _, rfl⟩

theorem Reaches.advances (h : issuer.Reaches m m') : Advances m m' := by
  induction h with
  | refl => exact refl_of Advances m
  | tail _ hnext ih => exact trans_of Advances ih hnext.advances

/-- Whatever has happened since there was nothing, accounts are in order. -/
theorem inOrder_of_reaches {start : Int} (h : issuer.Reaches ⟨{}, start, []⟩ m) :
    m.store.shared.InOrder m.drawn :=
  h.advances.order (Tables.inOrder_empty _)

/-! ### A registration -/

def plainKey : SigningKey := ⟨.replicate 32 0, by decide⟩

def keyedIssuer : Issuer := ⟨.ofKey plainKey, 900, 3600⟩

/-- The token that is made for the plain user under an id. -/
def keyedToken (id : Uuid) : String :=
  (IssuedToken.make plainKey id 0 plainUser.id.text plainUser.username 900).text

theorem keyedToken_ne_empty (id : Uuid) : keyedToken id ≠ "" := SignedToken.issue_ne_empty _ _

/-- With such a token only the expiry decides whether a record is made. -/
theorem make_keyedToken (id tokenId : Uuid) (now expiresAt : Int) :
    RefreshToken.make id now plainUser.id (keyedToken tokenId) expiresAt =
      if expiresAt ≤ now then .error .tokenExpired
      else .ok ⟨id, plainUser.id, RefreshToken.hash (keyedToken tokenId), expiresAt, false, now,
        now⟩ := by
  refine if_neg ?_
  rintro (hnil | hempty)
  · cases hnil
  · exact keyedToken_ne_empty _ hempty

def keyedRecord : RefreshToken :=
  ⟨⟨4⟩, plainUser.id, RefreshToken.hash (keyedToken ⟨3⟩), 3600000, false, 0, 0⟩

def booked : Moment := ⟨⟨⟨[plainUser], [keyedRecord], []⟩, none⟩, 0, [⟨1⟩, ⟨2⟩, ⟨3⟩, ⟨4⟩]⟩

def keyedResponse : AuthResponse := ⟨plainUser, keyedToken ⟨2⟩, keyedToken ⟨3⟩⟩

theorem make_keyedRecord : RefreshToken.make ⟨4⟩ 0 plainUser.id (keyedToken ⟨3⟩) 3600000 =
    .ok keyedRecord := (make_keyedToken ..).trans rfl

theorem run_newUser_plain : Dialogue.run Moment.reply (newUser plainRequest) ({} : Moment) =
    (.ok plainUser, ⟨{}, 0, [⟨1⟩]⟩) := by
  have hrun : Dialogue.run Moment.reply (newUser plainRequest) ({} : Moment) =
      (.ofExcept (User.register plainRequest (.replicate 16 0) ⟨1⟩ 0), ⟨{}, 0, [⟨1⟩]⟩) := by
    unfold newUser
    rw [validate_plainRequest]
    rfl
  rw [hrun, register_plain]
  rfl

theorem run_expiry_plain :
    Dialogue.run Moment.reply keyedIssuer.refreshExpiry ⟨{}, 0, [⟨1⟩, ⟨2⟩, ⟨3⟩]⟩ =
      (.ok 3600000, ⟨{}, 0, [⟨1⟩, ⟨2⟩, ⟨3⟩]⟩) := rfl

theorem run_storing_plain : Dialogue.run Moment.reply (inTransaction (do
      createUser .transaction plainUser
      let _ ← createToken .transaction plainUser.id (keyedToken ⟨3⟩) 3600000
      return ())) ⟨{}, 0, [⟨1⟩, ⟨2⟩, ⟨3⟩]⟩ = (.ok (), booked) := by
  have hstored : Dialogue.run Moment.reply (createToken .transaction plainUser.id (keyedToken ⟨3⟩)
      3600000) ⟨⟨{}, some ⟨[plainUser], [], []⟩⟩, 0, [⟨1⟩, ⟨2⟩, ⟨3⟩]⟩ =
      (.ok keyedRecord, ⟨⟨{}, some booked.store.shared⟩, 0, booked.drawn⟩) := by
    have hid : Dialogue.run Moment.reply (ask .freshId)
        ⟨⟨{}, some ⟨[plainUser], [], []⟩⟩, 0, [⟨1⟩, ⟨2⟩, ⟨3⟩]⟩ =
        (.ok ⟨4⟩, ⟨⟨{}, some ⟨[plainUser], [], []⟩⟩, 0, booked.drawn⟩) := rfl
    have hnow : Dialogue.run Moment.reply (ask .now)
        ⟨⟨{}, some ⟨[plainUser], [], []⟩⟩, 0, booked.drawn⟩ =
        (.ok 0, ⟨⟨{}, some ⟨[plainUser], [], []⟩⟩, 0, booked.drawn⟩) := rfl
    unfold createToken
    refine (Attempt.run_bind hid).trans ((Attempt.run_bind hnow).trans ?_)
    rw [make_keyedRecord]
    rfl
  have hwork : Dialogue.run Moment.reply (do
        createUser .transaction plainUser
        let _ ← createToken .transaction plainUser.id (keyedToken ⟨3⟩) 3600000
        return () : Step Unit) ⟨⟨{}, some {}⟩, 0, [⟨1⟩, ⟨2⟩, ⟨3⟩]⟩ =
      (.ok (), ⟨⟨{}, some booked.store.shared⟩, 0, booked.drawn⟩) := by
    have hcreated : Dialogue.run Moment.reply (createUser .transaction plainUser)
        ⟨⟨{}, some {}⟩, 0, [⟨1⟩, ⟨2⟩, ⟨3⟩]⟩ =
        (.ok (), ⟨⟨{}, some ⟨[plainUser], [], []⟩⟩, 0, [⟨1⟩, ⟨2⟩, ⟨3⟩]⟩) := rfl
    exact (Attempt.run_bind hcreated).trans ((Attempt.run_bind hstored).trans rfl)
  exact run_inTransaction (m := ⟨{}, 0, [⟨1⟩, ⟨2⟩, ⟨3⟩]⟩) hwork

theorem calls_register :
    keyedIssuer.Calls (.register plainRequest) {} (.ok keyedResponse) booked := by
  have hpair : Dialogue.run Moment.reply (keyedIssuer.issuePair plainUser) ⟨{}, 0, [⟨1⟩]⟩ =
      (.ok ⟨keyedToken ⟨2⟩, keyedToken ⟨3⟩⟩, ⟨{}, 0, [⟨1⟩, ⟨2⟩, ⟨3⟩]⟩) := rfl
  have hrun : Dialogue.run Moment.reply (keyedIssuer.register plainRequest) {} =
      (.ok keyedResponse, booked) := by
    refine (Attempt.run_bind run_newUser_plain).trans ((Attempt.run_bind hpair).trans ?_)
    exact (Attempt.run_bind run_expiry_plain).trans (Attempt.run_bind run_storing_plain)
  have hruns := runs_reply True (keyedIssuer.register plainRequest) {}
  rwa [hrun] at hruns

end Issuer

end SignIn.Service
