import SignIn.Proofs.Histories

/-!
# Who can log in, and what a failed login shows

Whoever registered can log in by every name that the request gave, at every later time:
nobody else can take the name, and the stored hash admits the password. A login that fails
for want of the right password shows the same as one that names nobody.
-/
namespace SignIn.Service

namespace Issuer

variable {α : Type} {issuer : Issuer} {key : SigningKey} {m m' : Moment}

/-! ## What the accounts say -/

theorem credited_of_verify {password : String} {user : User} {fits : Bool}
    (h : Password.verify password user.passwordHash = .ok fits) :
    credited password (some user) = if fits then .ok user else .failed .invalidCredentials := by
  unfold credited
  simp only [h]
  cases fits <;> rfl

/-- A user that was registered is found by every name of the request, and admitted. -/
theorem credited_of_madeFor {drawn : List Uuid} {t : Tables} (ht : t.InOrder drawn) {user : User}
    {r : RegisterRequest} (hmade : user.MadeFor r) (huser : user ∈ t.users) {i : Identifier}
    (hi : r.Names i) : credited r.password (t.named i) = .ok user := by
  rw [ht.named_eq huser (hmade.names hi)]
  exact credited_of_verify hmade.verify

/-! ## Logging in after a registration -/

theorem validate_login {r : RegisterRequest} (hr : r.validate = .ok ()) {i : Identifier}
    (hi : r.Names i) : LoginRequest.validate ⟨i, r.password⟩ = .ok () := by
  have hpassword : (r.password != "") = true :=
    bne_iff_ne.mpr (Validation.password_ne_empty (RegisterRequest.accepted_of_validate hr).password)
  unfold LoginRequest.validate
  rw [hi.validate hr]
  exact if_pos hpassword

theorem not_falters (hmaker : issuer.maker = .ofKey key) : ¬ issuer.Falters := by
  rintro ⟨id, now, userId, username, ⟨e, he⟩ | hempty⟩
  · rw [hmaker] at he
    cases he
  · rw [hmaker] at hempty
    exact SignedToken.issue_ne_empty _ _ (Except.ok.inj hempty)

/-- Somebody who is admitted is refused only for an id that no token is made for. -/
theorem RefusesLogin.of_credited {r : LoginRequest} {t : Tables} {user : User}
    {l : Attempt.Lapse IdentityError} (hvalid : r.validate = .ok ())
    (hcredited : credited r.password (t.named r.identifier) = .ok user) (h : RefusesLogin r t l) :
    l = .failure .invalidToken ∧ user.id.isNil = true := by
  cases h with
  | form h =>
    rw [hvalid] at h
    cases h
  | failed h =>
    rw [hcredited] at h
    cases h
  | panicked h =>
    rw [hcredited] at h
    cases h
  | nobody hnamed hnil =>
    obtain ⟨hnamed', -⟩ := named_of_credited hcredited
    obtain rfl := Option.some.inj (hnamed.symm.trans hnamed')
    exact ⟨rfl, hnil⟩

/-- If no call fails and the sums fit their words, then a login of somebody who is admitted lapses
in one way: it lasts as long as the token lives that it makes. -/
theorem Hindered.late_of_credited (hmaker : issuer.maker = .ofKey key) {r : LoginRequest}
    {user : User} {l : Attempt.Lapse IdentityError} (hvalid : r.validate = .ok ())
    (hcredited : credited r.password (m.store.shared.named r.identifier) = .ok user)
    (hid : user.id.isNil = false) (hfits : ∀ now, m.clock ≤ now → now ≤ m'.clock → issuer.Fits now)
    (h : issuer.Hindered False (RefusesLogin r m.store.shared) m l m') :
    l = .failure .tokenExpired ∧ m.clock + issuer.refreshTtl * 1000 ≤ m'.clock := by
  cases h with
  | refused h =>
    obtain ⟨-, hnil⟩ := h.of_credited hvalid hcredited
    exact Bool.noConfusion (hid.symm.trans hnil)
  | storage h => exact h.elim
  | outbox h => exact h.elim
  | falters h => exact (not_falters hmaker h).elim
  | overflow hfrom hto hn => exact (hn (hfits _ hfrom hto)).elim
  | late h => exact ⟨rfl, h⟩

/-- Registration accepts no name that login would reject. And whoever was registered at some time,
with whatever before and after: a login by a name of the request and its password, during which no
call fails and the sums fit their words, answers with the same user, or it calls the token expired
that it has just made. The latter happens only to a login that lasts as long as that token lives. -/
theorem registered_can_login (hmaker : issuer.maker = .ofKey key) :
    (∀ (r : RegisterRequest) i, r.validate = .ok () → r.Names i → i.validate = .ok ()) ∧
    ∀ start m₀ m₁ r response i o, issuer.Reaches ⟨{}, start, []⟩ m₀ →
      issuer.Calls (.register r) m₀ (.ok response) m₁ → issuer.Reaches m₁ m → r.Names i →
      Dialogue.Runs (Responds False) (issuer.login ⟨i, r.password⟩) m o m' →
      (∀ now, m.clock ≤ now → now ≤ m'.clock → issuer.Fits now) →
      (∃ response', o = .ok response' ∧ response'.user = response.user) ∨
        (o = .failed .tokenExpired ∧ m.clock + issuer.refreshTtl * 1000 ≤ m'.clock) := by
  refine ⟨fun r i hr hi => hi.validate hr, ?_⟩
  intro start m₀ m₁ r response i o hbefore hregister hafter hi hlogin hfits
  obtain ⟨⟨hmade, hstored⟩, -⟩ := ((issuer.pledges_register r).of_runs hregister).value response rfl
  have huser : response.user ∈ m.store.shared.users :=
    hafter.advances.store.users.subset hstored
  have hordered : m.store.shared.InOrder m.drawn :=
    hafter.advances.order (hregister.advances.order (inOrder_of_reaches hbefore))
  -- The user is still there, and since names are unique nobody else is found in the user's place.
  have hcredited : credited r.password (m.store.shared.named i) = .ok response.user :=
    credited_of_madeFor hordered hmade huser hi
  have hkept := (issuer.pledges_login ⟨i, r.password⟩).of_runs hlogin
  have hlate {l : Attempt.Lapse IdentityError}
      (h : issuer.Hindered False (RefusesLogin ⟨i, r.password⟩ m.store.shared) m l m') :=
    h.late_of_credited hmaker (validate_login hmade.validate hi) hcredited
      (hordered.users _ huser).1 hfits
  cases o with
  | ok response' =>
    have hsame := (hkept.value response' rfl).1.symm.trans hcredited
    exact .inl ⟨response', rfl, Outcome.ok.inj hsame⟩
  | failed e =>
    obtain ⟨hexpired, hlong⟩ := hlate (hkept.failure e rfl)
    exact .inr ⟨by rw [Attempt.Lapse.failure.inj hexpired], hlong⟩
  | panicked p => cases (hlate (hkept.panic p rfl)).1

/-- The plain user logs in by email right after the registration. -/
theorem registered_can_login_booked :
    keyedIssuer.maker = .ofKey plainKey ∧
    keyedIssuer.Calls (.register plainRequest) {} (.ok keyedResponse) booked ∧
    plainRequest.Names (.email "a@b.cd") ∧
    ∃ response', (Dialogue.run Moment.reply
        (keyedIssuer.login ⟨.email "a@b.cd", plainRequest.password⟩) booked).1 = .ok response' ∧
      response'.user = plainUser := by
  have hnames : plainRequest.Names (.email "a@b.cd") := .email rfl (by decide)
  have hclock := clock_run_reply (keyedIssuer.login ⟨.email "a@b.cd", plainRequest.password⟩) booked
  have hfits : ∀ now, booked.clock ≤ now → now ≤ booked.clock → keyedIssuer.Fits now := by
    intro now hfrom hto
    obtain rfl := Int.le_antisymm hfrom hto
    exact ⟨rfl, rfl⟩
  have hlogin := (registered_can_login rfl).2 0 {} booked plainRequest keyedResponse
    (.email "a@b.cd") _ .refl calls_register .refl hnames
    (runs_reply False (keyedIssuer.login ⟨.email "a@b.cd", plainRequest.password⟩) booked)
  rw [hclock] at hlogin
  rcases hlogin hfits with hok | ⟨-, hlong⟩
  · exact ⟨rfl, calls_register, hnames, hok⟩
  · exact absurd hlong (by decide)

/-! ### A login that lasts an hour -/

/-- Nothing goes wrong, but a transaction begins an hour after it was asked for. -/
def replyLate (c : Call) (m : Moment) : Answer c × Moment :=
  match c with
  | .begin options => Moment.reply (.begin options) { m with clock := m.clock + 3600000 }
  | c => Moment.reply c m

theorem responds_replyLate (c : Call) (m : Moment) :
    Responds False c m (replyLate c m).1 (replyLate c m).2 := by
  have hat (time : Int) (htime : m.clock ≤ time) :
      Responds False c m (Moment.reply c { m with clock := time }).1
        (Moment.reply c { m with clock := time }).2 := by
    refine .works (Moment.around { m with clock := time }) m.drawn.length ?_ rfl
    rw [Moment.millis_around]
    exact htime
  cases c with
  | begin options => exact hat (m.clock + 3600000) (by omega)
  | _ => exact hat m.clock (Int.le_refl _)

theorem run_authenticate_booked :
    Dialogue.run replyLate (authenticate plainLogin) booked = (.ok plainUser, booked) := by
  have hfind : Dialogue.run replyLate (findUser plainLogin.identifier) booked =
      (.ok (some plainUser), booked) := rfl
  have hverify : Password.verify plainLogin.password plainUser.passwordHash = .ok true :=
    Password.verify_hash _ _
  unfold authenticate
  refine (Attempt.run_bind hfind).trans ?_
  simp only
  rw [hverify]
  rfl

/-- Work that fails an hour later leaves no trace. -/
theorem run_inTransaction_late {work : Step α} {e : IdentityError}
    (h : Dialogue.run replyLate work
      { m with store := m.store.begin, clock := m.clock + 3600000 } = (.failed e, m')) :
    Dialogue.run replyLate (inTransaction work) m =
      (.failed e, { m' with store := m'.store.rollback }) := by
  have hbegin : (replyLate (.begin Entry.transaction.options) m).2 =
      { m with store := m.store.begin, clock := m.clock + 3600000 } := by
    simp [replyLate, Moment.reply, Store.act, given, ids, Moment.millis_around]
  have hrollback : (replyLate .rollback m').2 = { m' with store := m'.store.rollback } := by
    simp [replyLate, Moment.reply, Store.act, given, ids, m'.millis_around]
  change Dialogue.run replyLate (Dialogue.andThen work (manager.finish IdentityError.ofStorage))
    (replyLate (.begin Entry.transaction.options) m).2 = _
  rw [hbegin]
  refine (Dialogue.run_andThen replyLate work _ _).trans ?_
  rw [h]
  change (Outcome.failed e, (replyLate .rollback m').2) = _
  rw [hrollback]

theorem run_createToken_late : Dialogue.run replyLate
    (createToken .transaction plainUser.id (keyedToken ⟨6⟩) 3600000)
    ⟨booked.store.begin, 3600000, booked.drawn ++ [⟨5⟩, ⟨6⟩, ⟨7⟩]⟩ =
    (.failed .tokenExpired,
      ⟨booked.store.begin, 3600000, booked.drawn ++ [⟨5⟩, ⟨6⟩, ⟨7⟩, ⟨8⟩]⟩) := by
  have hid : Dialogue.run replyLate (ask .freshId)
      ⟨booked.store.begin, 3600000, booked.drawn ++ [⟨5⟩, ⟨6⟩, ⟨7⟩]⟩ =
      (.ok ⟨8⟩, ⟨booked.store.begin, 3600000, booked.drawn ++ [⟨5⟩, ⟨6⟩, ⟨7⟩, ⟨8⟩]⟩) := rfl
  have hnow : Dialogue.run replyLate (ask .now)
      ⟨booked.store.begin, 3600000, booked.drawn ++ [⟨5⟩, ⟨6⟩, ⟨7⟩, ⟨8⟩]⟩ =
      (.ok 3600000, ⟨booked.store.begin, 3600000, booked.drawn ++ [⟨5⟩, ⟨6⟩, ⟨7⟩, ⟨8⟩]⟩) := rfl
  unfold createToken
  refine (Attempt.run_bind hid).trans ((Attempt.run_bind hnow).trans ?_)
  rw [make_keyedToken, if_pos (Int.le_refl _)]
  rfl

/-- A registration is followed by a login with the right password. Nothing fails, and the sums fit,
but the login outlasts its token, and does not come to a value. -/
theorem exists_login_expired :
    0 < keyedIssuer.accessTtl ∧ 0 < keyedIssuer.refreshTtl ∧
    keyedIssuer.Calls (.register plainRequest) {} (.ok keyedResponse) booked ∧
    plainRequest.Names (.email "a@b.cd") ∧
    ∃ m', (∀ now, booked.clock ≤ now → now ≤ m'.clock → keyedIssuer.Fits now) ∧
      Dialogue.Runs (Responds False)
        (keyedIssuer.login ⟨.email "a@b.cd", plainRequest.password⟩) booked
        (.failed .tokenExpired) m' := by
  have hpair : Dialogue.run replyLate (keyedIssuer.issuePair plainUser) booked =
      (.ok ⟨keyedToken ⟨5⟩, keyedToken ⟨6⟩⟩,
        ⟨booked.store, 0, booked.drawn ++ [⟨5⟩, ⟨6⟩]⟩) := rfl
  have hexpiry : Dialogue.run replyLate keyedIssuer.refreshExpiry
      ⟨booked.store, 0, booked.drawn ++ [⟨5⟩, ⟨6⟩]⟩ =
      (.ok 3600000, ⟨booked.store, 0, booked.drawn ++ [⟨5⟩, ⟨6⟩]⟩) := rfl
  obtain ⟨event, hevent⟩ : ∃ event, Dialogue.run replyLate (loginEvent plainUser)
      ⟨booked.store, 0, booked.drawn ++ [⟨5⟩, ⟨6⟩]⟩ =
      (.ok event, ⟨booked.store, 0, booked.drawn ++ [⟨5⟩, ⟨6⟩, ⟨7⟩]⟩) := ⟨_, rfl⟩
  -- The expiry is an hour away when it is computed, and there when the record is to be made.
  have hrun : Dialogue.run replyLate
      (keyedIssuer.login ⟨.email "a@b.cd", plainRequest.password⟩) booked =
      (.failed .tokenExpired, ⟨booked.store, 3600000, booked.drawn ++ [⟨5⟩, ⟨6⟩, ⟨7⟩, ⟨8⟩]⟩) := by
    have hvalid : Dialogue.run replyLate
        (.ofExcept plainLogin.validate : Step Unit) booked = (.ok (), booked) := rfl
    refine (Attempt.run_bind hvalid).trans ((Attempt.run_bind run_authenticate_booked).trans ?_)
    refine (Attempt.run_bind hpair).trans ((Attempt.run_bind hexpiry).trans ?_)
    refine (Attempt.run_bind hevent).trans (Attempt.run_bind_failed ?_)
    exact (run_inTransaction_late (Attempt.run_bind_failed run_createToken_late)).trans rfl
  have hruns := Dialogue.runs_run replyLate responds_replyLate
    (keyedIssuer.login ⟨.email "a@b.cd", plainRequest.password⟩) booked
  rw [hrun] at hruns
  refine ⟨by decide, by decide, calls_register, .email rfl (by decide), _, fun now hfrom hto => ?_,
    hruns⟩
  have hsum : -9223372036854775808 ≤ now + 3600 * 1000 ∧
      now + 3600 * 1000 ≤ 9223372036854775807 := by
    change 0 ≤ now at hfrom
    change now ≤ 3600000 at hto
    omega
  exact ⟨rfl, Decimal.Range.contains_iff.mpr hsum⟩

/-! ## Failed logins -/

/-- A login of somebody who is not admitted fails for that reason, and nothing else happens. -/
theorem runs_login_refused {r : LoginRequest} (hr : r.validate = .ok ()) {e : IdentityError}
    (hcredited : credited r.password (m.store.shared.named r.identifier) = .failed e)
    {o : Outcome IdentityError AuthResponse}
    (h : Dialogue.Runs (Responds False) (issuer.login r) m o m') :
    o = .failed e ∧ m'.store = m.store := by
  have hsecures : (issuer.login r).Secures (Responds False) (Terms.alone Call Moment)
      (fun o m' => o = .failed e ∧ m'.store = m.store) m := by
    unfold login
    refine (Attempt.secures_bind ..).mpr ((Attempt.secures_ofExcept ..).mpr ?_)
    rw [hr]
    refine secures_looked (secures_authenticate r) (fun _ _ hfaults => hfaults.elim) fun m₁ h₁ => ?_
    rw [hcredited]
    exact ⟨rfl, h₁.store.symm⟩
  exact hsecures.of_runs h

/-- Let one login name nobody, and let another name a user. The first fails with the one failure
that says nothing, and changes nothing. The password of the second can be checked, and if it does
not fit, then this login ends as the first one does, in the eyes of a client too. -/
theorem failed_logins_look_alike {start : Int} (hreach : issuer.Reaches ⟨{}, start, []⟩ m)
    {r₁ r₂ : LoginRequest} {user : User} (hr₁ : r₁.validate = .ok ()) (hr₂ : r₂.validate = .ok ())
    (hunknown : ∀ u ∈ m.store.shared.users, r₁.identifier.names u = false)
    (huser : user ∈ m.store.shared.users) (hnames : r₂.identifier.names user = true)
    {o₁ o₂ : Outcome IdentityError AuthResponse} {m₁ m₂ : Moment}
    (h₁ : Dialogue.Runs (Responds False) (issuer.login r₁) m o₁ m₁)
    (h₂ : Dialogue.Runs (Responds False) (issuer.login r₂) m o₂ m₂) :
    o₁ = .failed .invalidCredentials ∧ m₁.store = m.store ∧
      ∃ fits, Password.verify r₂.password user.passwordHash = .ok fits ∧
        (fits = false → o₂ = o₁ ∧
          o₂.mapError IdentityError.status = o₁.mapError IdentityError.status ∧
          m₂.store = m.store) := by
  have hordered : m.store.shared.InOrder m.drawn := inOrder_of_reaches hreach
  have hnobody : credited r₁.password (m.store.shared.named r₁.identifier) =
      .failed .invalidCredentials := by
    rw [Tables.named_eq_none hunknown]
    rfl
  obtain ⟨rfl, hstore₁⟩ := runs_login_refused hr₁ hnobody h₁
  obtain ⟨r, hmade⟩ := (hordered.users user huser).2
  obtain ⟨fits, hverify⟩ := hmade.exists_verify r₂.password
  refine ⟨rfl, hstore₁, fits, hverify, ?_⟩
  rintro rfl
  have hwrong : credited r₂.password (m.store.shared.named r₂.identifier) =
      .failed .invalidCredentials := by
    rw [hordered.named_eq huser hnames]
    exact credited_of_verify hverify
  obtain ⟨rfl, hstore₂⟩ := runs_login_refused hr₂ hwrong h₂
  exact ⟨rfl, rfl, hstore₂⟩

/-- Somebody unknown, and the plain user with another password. -/
theorem failed_logins_look_alike_booked :
    keyedIssuer.Reaches ⟨{}, 0, []⟩ booked ∧
    (Dialogue.run Moment.reply (keyedIssuer.login (.withEmail "b@c.de" "Passw0rd")) booked).1 =
      .failed .invalidCredentials ∧
    ∃ fits, Password.verify "Passw1rd" plainUser.passwordHash = .ok fits ∧ (fits = false →
      (Dialogue.run Moment.reply (keyedIssuer.login (.withEmail "a@b.cd" "Passw1rd")) booked).1 =
        (Dialogue.run Moment.reply
          (keyedIssuer.login (.withEmail "b@c.de" "Passw0rd")) booked).1) := by
  have hreach : keyedIssuer.Reaches ⟨{}, 0, []⟩ booked := .single (.serves _ calls_register)
  have hunknown : ∀ u ∈ booked.store.shared.users,
      (LoginRequest.withEmail "b@c.de" "Passw0rd").identifier.names u = false := by
    intro u hu
    obtain rfl := List.mem_singleton.mp hu
    rfl
  obtain ⟨hfailed, -, fits, hverify, halike⟩ := failed_logins_look_alike hreach rfl rfl hunknown
    (List.mem_singleton_self plainUser) rfl
    (runs_reply False (keyedIssuer.login (.withEmail "b@c.de" "Passw0rd")) booked)
    (runs_reply False (keyedIssuer.login (.withEmail "a@b.cd" "Passw1rd")) booked)
  exact ⟨hreach, hfailed, fits, hverify, fun hfits => (halike hfits).1⟩

end Issuer

end SignIn.Service
