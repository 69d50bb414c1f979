import SignIn.Proofs.Authentication
import SignIn.Proofs.SettingsVariables
import SignIn.Proofs.Withdrawal

/-!
# When a refresh token will expire

The expiry of a refresh token is the time of issue and a lifetime from the settings, in
milliseconds. The settings are checked for a positive lifetime, but not for one that fits: where the
sum fits 64 bits the expiry is exact and still to come, and where it does not the operation panics.
Nothing else makes a registration or a login panic, and neither calls the token expired that it is
about to store, unless it takes as long as that token lives.
-/
namespace SignIn

namespace Service

variable {α : Type} {faults : Prop} {m m' : Moment}

theorem ofStorage_ne_tokenExpired (e : StorageError) : IdentityError.ofStorage e ≠ .tokenExpired := by
  rcases ofStorage_cases e with h | ⟨text, h⟩
  · simp [h]
  · simp [h]

theorem ofOutbox_ne_tokenExpired (e : OutboxError) : IdentityError.ofOutbox e ≠ .tokenExpired := by
  cases e with
  | database e => exact ofStorage_ne_tokenExpired e
  | _ => simp [IdentityError.ofOutbox]

namespace Issuer

variable {issuer : Issuer} {key : SigningKey}

/-! ## The sum -/

/-- With a positive lifetime, the sum fits from below if it does from above. -/
theorem fits_iff (httl : 0 < issuer.refreshTtl) {now : Int} (hnow : 0 ≤ now) :
    issuer.Fits now ↔ now + 1000 * issuer.refreshTtl ≤ 9223372036854775807 := by
  unfold Fits
  rw [Decimal.Range.contains_iff, Decimal.Range.contains_iff]
  simp only [Decimal.Range.i64]
  omega

/-- The expiry has a value where the sum fits, and otherwise there is a panic. -/
theorem of_runs_refreshExpiry {o : Outcome IdentityError Int}
    (h : Dialogue.Runs (Responds faults) issuer.refreshExpiry m o m') :
    m.clock ≤ m'.clock ∧
      ((issuer.Fits m'.clock ∧ o = .ok (m'.clock + issuer.refreshTtl * 1000)) ∨
        (¬ issuer.Fits m'.clock ∧
          (o = .panicked .multiplyOverflow ∨ o = .panicked .addOverflow))) := by
  have hpledges : Pledges faults Still
      (fun l m' => ∃ p, l = .panic p ∧ ¬ issuer.Fits m'.clock ∧
        (p = .multiplyOverflow ∨ p = .addOverflow))
      (fun expiresAt m' => expiresAt = m'.clock + issuer.refreshTtl * 1000 ∧ issuer.Fits m'.clock)
      issuer.refreshExpiry m :=
    issuer.pledges_refreshExpiry fun p _ _ hfits hp => ⟨p, rfl, hfits, hp⟩
  have hkept := hpledges.of_runs h
  refine ⟨hkept.moves.clock, ?_⟩
  cases o with
  | ok expiresAt =>
    obtain ⟨rfl, hfits⟩ := hkept.value expiresAt rfl
    exact .inl ⟨hfits, rfl⟩
  | failed e =>
    obtain ⟨p, hp, -⟩ := hkept.failure e rfl
    cases hp
  | panicked p =>
    obtain ⟨p', hp, hfits, hoverflow⟩ := hkept.panic p rfl
    obtain rfl := Attempt.Lapse.panic.inj hp
    exact .inr ⟨hfits, hoverflow.imp (congrArg _) (congrArg _)⟩

/-! ## The operations -/

/-- What the lifetime of a refresh token has to do with the end of an operation that stores one: a
value means that the expiry fits, and a panic that it does not. The token is called expired only if
the operation takes as long as the token lives. -/
structure ShowsLifetime (lifetime : Int) (m : Moment) (o : Outcome IdentityError α) (m' : Moment) :
    Prop where
  value : o.isOk = true → m.clock + lifetime ≤ 9223372036854775807
  panic : ∀ p, o = .panicked p → 9223372036854775807 < m'.clock + lifetime
  expired : o = .failed .tokenExpired → m.clock + lifetime ≤ m'.clock

/-- A request that is not refused by a panic, nor as expired, panics only over the sum, and the token
is called expired only when it is. -/
theorem Hindered.bounds (hmaker : issuer.maker = .ofKey key) (httl : 0 < issuer.refreshTtl)
    (hstart : 0 ≤ m.clock) {refuses : Attempt.Lapse IdentityError → Prop}
    (hrefuses : ∀ l, refuses l → ∃ e, l = .failure e ∧ e ≠ .tokenExpired)
    {l : Attempt.Lapse IdentityError} (h : issuer.Hindered faults refuses m l m') :
    (∀ p, l = .panic p → 9223372036854775807 < m'.clock + 1000 * issuer.refreshTtl) ∧
      (l = .failure .tokenExpired → m.clock + 1000 * issuer.refreshTtl ≤ m'.clock) := by
  cases h with
  | refused h =>
    obtain ⟨e, rfl, he⟩ := hrefuses _ h
    exact ⟨nofun, fun hl => absurd (Attempt.Lapse.failure.inj hl) he⟩
  | storage =>
    exact ⟨nofun, fun hl => absurd (Attempt.Lapse.failure.inj hl) (ofStorage_ne_tokenExpired _)⟩
  | outbox =>
    exact ⟨nofun, fun hl => absurd (Attempt.Lapse.failure.inj hl) (ofOutbox_ne_tokenExpired _)⟩
  | falters h => exact (not_falters hmaker h).elim
  | overflow hfrom hto hfits =>
    rw [fits_iff httl (Int.le_trans hstart hfrom)] at hfits
    exact ⟨fun _ _ => by omega, nofun⟩
  | late hlong => exact ⟨nofun, fun _ => by omega⟩

theorem showsLifetime_of_kept (hmaker : issuer.maker = .ofKey key) (httl : 0 < issuer.refreshTtl)
    (hstart : 0 ≤ m.clock) {refuses : Attempt.Lapse IdentityError → Prop}
    (hrefuses : ∀ l, refuses l → ∃ e, l = .failure e ∧ e ≠ .tokenExpired)
    {R : Moment → Moment → Prop} {Q : α → Moment → Prop}
    (hvalue : ∀ value, Q value m' → ∃ now, m.clock ≤ now ∧ issuer.Fits now)
    {o : Outcome IdentityError α}
    (h : Attempt.Kept R (issuer.Hindered faults refuses m) Q m o m') :
    ShowsLifetime (1000 * issuer.refreshTtl) m o m' := by
  constructor
  · intro hok
    cases o with
    | ok value =>
      obtain ⟨now, hfrom, hfits⟩ := hvalue value (h.value value rfl)
      rw [fits_iff httl (Int.le_trans hstart hfrom)] at hfits
      omega
    | failed e => cases hok
    | panicked p => cases hok
  · exact fun p ho => ((h.panic p ho).bounds hmaker httl hstart hrefuses).1 p rfl
  · exact fun ho => ((h.failure _ ho).bounds hmaker httl hstart hrefuses).2 rfl

theorem Calls.showsLifetime_register (hmaker : issuer.maker = .ofKey key)
    (httl : 0 < issuer.refreshTtl) {r : RegisterRequest} (hr : r.validate = .ok ())
    (hstart : 0 ≤ m.clock) {o : Outcome IdentityError AuthResponse}
    (h : issuer.Calls (.register r) m o m') :
    ShowsLifetime (1000 * issuer.refreshTtl) m o m' := by
  refine showsLifetime_of_kept hmaker httl hstart (fun l hl => ?_) (fun _ h => h.2)
    ((issuer.pledges_register r).of_runs h)
  cases hl with
  | form h =>
    rw [hr] at h
    cases h
  | taken => exact ⟨_, rfl, by simp⟩
  | nobody => exact ⟨_, rfl, by simp⟩

theorem Calls.showsLifetime_login (hmaker : issuer.maker = .ofKey key)
    (httl : 0 < issuer.refreshTtl) {r : LoginRequest} (hr : r.validate = .ok ()) {user : User}
    (huser : credited r.password (m.store.shared.named r.identifier) = .ok user)
    (hstart : 0 ≤ m.clock) {o : Outcome IdentityError AuthResponse}
    (h : issuer.Calls (.login r) m o m') :
    ShowsLifetime (1000 * issuer.refreshTtl) m o m' := by
  refine showsLifetime_of_kept hmaker httl hstart (fun l hl => ?_) (fun _ h => h.2)
    ((issuer.pledges_login r).of_runs h)
  obtain ⟨rfl, -⟩ := hl.of_credited hr huser
  exact ⟨_, rfl, by simp⟩

/-! ## With settings that were checked -/

/-- The issuer that the settings describe. -/
def ofSettings (s : Settings) (key : SigningKey) : Issuer :=
  ⟨.ofKey key, s.tokens.accessTtlSecs.value, s.tokens.refreshTtlSecs.value⟩

/-- For all settings that pass their check, and from 1970 on: where the sum fits 64 bits, the expiry
of a refresh token is exactly the time that is read and the lifetime in milliseconds, and is still
to come; where it does not, there is a panic. A valid registration and a login with the right
password have a value only where the sum fits, panic only where it does not, whatever fails on the
way, and call the token expired only if they take as long as it lives. -/
theorem refreshExpiry_of_validate {s : Settings} (hs : s.validate = .ok ()) :
    ∃ key, SigningKey.ofSecret? s.tokens.secretKey = .ok key ∧
      (∀ m o m', 0 ≤ m.clock →
        Dialogue.Runs (Responds True) (ofSettings s key).refreshExpiry m o m' →
        m.clock ≤ m'.clock ∧
        (m'.clock + 1000 * s.tokens.refreshTtlSecs.value ≤ 9223372036854775807 →
          o = .ok (m'.clock + 1000 * s.tokens.refreshTtlSecs.value) ∧
          m'.clock < m'.clock + 1000 * s.tokens.refreshTtlSecs.value) ∧
        (9223372036854775807 < m'.clock + 1000 * s.tokens.refreshTtlSecs.value →
          o = .panicked .multiplyOverflow ∨ o = .panicked .addOverflow)) ∧
      (∀ r m o m', r.validate = .ok () → 0 ≤ m.clock →
        (ofSettings s key).Calls (.register r) m o m' →
        ShowsLifetime (1000 * s.tokens.refreshTtlSecs.value) m o m') ∧
      ∀ r m o m' user, r.validate = .ok () →
        credited r.password (m.store.shared.named r.identifier) = .ok user → 0 ≤ m.clock →
        (ofSettings s key).Calls (.login r) m o m' →
        ShowsLifetime (1000 * s.tokens.refreshTtlSecs.value) m o m' := by
  obtain ⟨hlong, -, httl⟩ := Settings.tokens_of_validate hs
  refine ⟨⟨_, hlong⟩, dif_pos hlong, ?_, ?_, ?_⟩
  · intro m o m' hstart hruns
    obtain ⟨hclock, hend⟩ := of_runs_refreshExpiry hruns
    have hiff : (ofSettings s ⟨_, hlong⟩).Fits m'.clock ↔
        m'.clock + 1000 * s.tokens.refreshTtlSecs.value ≤ 9223372036854775807 :=
      fits_iff httl (Int.le_trans hstart hclock)
    rcases hend with ⟨hfits, rfl⟩ | ⟨hfits, hpanic⟩
    · have hsum := hiff.mp hfits
      refine ⟨hclock, fun _ => ⟨?_, by omega⟩, fun hover => absurd hsum (Int.not_le.mpr hover)⟩
      rw [Int.mul_comm 1000]
      rfl
    · exact ⟨hclock, fun hsum => absurd (hiff.mpr hsum) hfits, fun _ => hpanic⟩
  · intro r m o m' hr hstart hcalls
    exact hcalls.showsLifetime_register rfl httl hr hstart
  · intro r m o m' user hr huser hstart hcalls
    exact hcalls.showsLifetime_login rfl httl hr huser hstart

/-- Settings with the usual numbers, and with a lifetime for refresh tokens. -/
def plainSettings (refreshTtlSecs : Decimal.Ranged .i64) : Settings where
  database := ⟨"identity-service", "", ⟨20, by decide⟩, ⟨5, by decide⟩, ⟨5, by decide⟩,
    ⟨10, by decide⟩, ⟨600, by decide⟩, ⟨1800, by decide⟩⟩
  redis := ⟨"redis://localhost", "identity", "default", ⟨86400, by decide⟩⟩
  tokens := ⟨"0123456789abcdef0123456789abcdef", ⟨900, by decide⟩, refreshTtlSecs⟩
  worker := ⟨true, ⟨10000, by decide⟩, ⟨1000, by decide⟩, ⟨5, by decide⟩, ⟨5, by decide⟩,
    ⟨10, by decide⟩⟩
  log := ⟨"info", .json⟩

def weekly : Settings := plainSettings ⟨604800, by decide⟩

/-- The longest lifetime that can be written. -/
def longest : Settings := plainSettings ⟨9223372036854775807, by decide⟩

theorem credited_plainLogin :
    credited plainLogin.password (booked.store.shared.named plainLogin.identifier) =
      .ok plainUser := by
  have hnamed : booked.store.shared.named plainLogin.identifier = some plainUser := rfl
  have hverify : Password.verify plainLogin.password plainUser.passwordHash = .ok true :=
    Password.verify_hash _ _
  rw [hnamed, credited_of_verify hverify, if_pos rfl]

/-- A week, and a registration and a login that take no time. -/
theorem refreshExpiry_of_validate_week :
    weekly.validate = .ok () ∧ plainRequest.validate = .ok () ∧ plainLogin.validate = .ok () ∧
    credited plainLogin.password (booked.store.shared.named plainLogin.identifier) =
      .ok plainUser ∧
    ∃ key, SigningKey.ofSecret? weekly.tokens.secretKey = .ok key ∧
      (Dialogue.run Moment.reply (ofSettings weekly key).refreshExpiry
        ⟨{}, 1735689600000, []⟩).1 = .ok 1736294400000 ∧
      (∀ p, (Dialogue.run Moment.reply ((ofSettings weekly key).register plainRequest) {}).1 ≠
        .panicked p) ∧
      (Dialogue.run Moment.reply ((ofSettings weekly key).login plainLogin) booked).1 ≠
        .failed .tokenExpired := by
  have hsettings : weekly.validate = .ok () := by decide
  have hlogin : plainLogin.validate = .ok () := rfl
  obtain ⟨key, hkey, hexpiry, hregisters, hlogins⟩ := refreshExpiry_of_validate hsettings
  refine ⟨hsettings, validate_plainRequest, hlogin, credited_plainLogin, key, hkey, ?_, ?_, ?_⟩
  · obtain ⟨-, hfits, -⟩ := hexpiry _ _ _ (by decide)
      (runs_reply True (ofSettings weekly key).refreshExpiry ⟨{}, 1735689600000, []⟩)
    have hclock := clock_run_reply (ofSettings weekly key).refreshExpiry ⟨{}, 1735689600000, []⟩
    rw [hclock] at hfits
    exact (hfits (by decide)).1
  · intro p hp
    have hclock := clock_run_reply ((ofSettings weekly key).register plainRequest) {}
    have hover := (hregisters plainRequest _ _ _ validate_plainRequest (by decide)
      (runs_reply True ((ofSettings weekly key).register plainRequest) {})).panic p hp
    rw [hclock] at hover
    exact absurd hover (by decide)
  · intro hexpired
    have hclock := clock_run_reply ((ofSettings weekly key).login plainLogin) booked
    have hlate := (hlogins plainLogin _ _ _ plainUser hlogin credited_plainLogin (by decide)
      (runs_reply True ((ofSettings weekly key).login plainLogin) booked)).expired hexpired
    rw [hclock] at hlate
    exact absurd hlate (by decide)

/-- The longest lifetime passes the check, and then nobody can register. -/
theorem exists_register_panicked :
    ∃ key, SigningKey.ofSecret? longest.tokens.secretKey = .ok key ∧
      longest.validate = .ok () ∧ plainRequest.validate = .ok () ∧
      (Dialogue.run Moment.reply ((ofSettings longest key).register plainRequest) {}).1 =
        .panicked .multiplyOverflow := by
  have hsettings : longest.validate = .ok () := by decide
  obtain ⟨hlong, -, -⟩ := Settings.tokens_of_validate hsettings
  refine ⟨⟨_, hlong⟩, dif_pos hlong, hsettings, validate_plainRequest, ?_⟩
  have hpair : ∃ pair, Dialogue.run Moment.reply ((ofSettings longest ⟨_, hlong⟩).issuePair plainUser)
      ⟨{}, 0, [⟨1⟩]⟩ = (.ok pair, ⟨{}, 0, [⟨1⟩, ⟨2⟩, ⟨3⟩]⟩) := ⟨_, rfl⟩
  obtain ⟨pair, hpair⟩ := hpair
  have hrun : Dialogue.run Moment.reply ((ofSettings longest ⟨_, hlong⟩).register plainRequest) {} =
      (.panicked .multiplyOverflow, ⟨{}, 0, [⟨1⟩, ⟨2⟩, ⟨3⟩]⟩) :=
    (Attempt.run_bind run_newUser_plain).trans ((Attempt.run_bind hpair).trans rfl)
  rw [hrun]

end Issuer

end Service

end SignIn
