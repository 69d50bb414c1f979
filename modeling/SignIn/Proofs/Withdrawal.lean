import SignIn.Proofs.Histories

/-!
# A spent token stays spent

A record that was revoked stays revoked, and the end of its life does not move. So a token
that was refused for either reason, or was revoked by request, yields no access token any
more, whatever happens in between and whatever fails.
-/
namespace SignIn.Service

variable {faults : Prop} {token : String} {m m' : Moment}

def Revoked (token : String) : Moment → Prop :=
  HasRecord token fun record => record.isRevoked = true

/-- The token was revoked, or its time is over. -/
def Spent (token : String) (m : Moment) : Prop :=
  HasRecord token (fun record => record.isRevoked = true ∨ record.expiresAt ≤ m.clock) m

theorem Revoked.spent (h : Revoked token m) : Spent token m := h.imp fun _ => .inl

theorem Revoked.advances (h : Revoked token m) (hm : Advances m m') : Revoked token m' :=
  HasRecord.advances h hm fun _ _ hc => hc.isRevoked

theorem Spent.advances (h : Spent token m) (hm : Advances m m') : Spent token m' := by
  refine HasRecord.advances h hm fun record record' hc hspent => ?_
  rcases hspent with hrevoked | hexpired
  · exact .inl (hc.isRevoked hrevoked)
  · rw [hc.expiresAt]
    exact .inr (Int.le_trans hexpired hm.clock)

theorem ofStorage_cases (e : StorageError) :
    IdentityError.ofStorage e = .userAlreadyExists ∨
      ∃ text, IdentityError.ofStorage e = .database text := by
  unfold IdentityError.ofStorage
  split
  · exact .inl rfl
  · exact .inr ⟨_, rfl⟩

theorem exists_error_of_failed {α : Type} {made : Except TokenError α} {e : IdentityError}
    (h : Outcome.ofExcept (made.mapError IdentityError.ofToken) = .failed e) :
    ∃ e', made = .error e' ∧ IdentityError.ofToken e' = e := by
  cases made with
  | ok value => cases h
  | error e' => exact ⟨e', rfl, Outcome.failed.inj h⟩

namespace Issuer

variable {issuer : Issuer} {o : Outcome IdentityError String}

/-- The outcomes of a refresh that tell something about the record of the token. -/
def Tells (o : Outcome IdentityError String) : Prop :=
  o.isOk = true ∨ o = .failed .tokenRevoked ∨ o = .failed .tokenExpired

/-- Such an outcome comes after a record was found and looked at. -/
theorem Refreshes.exists_record (h : issuer.Refreshes faults token m m' o) (ho : Tells o) :
    ∃ record now, m.store.shared.record? token = some record ∧ m.clock ≤ now ∧ now ≤ m'.clock ∧
      ((record.validate now = .ok () ∧ ∃ id seconds userId username, o = .ofExcept
          ((issuer.maker.issue id seconds userId username issuer.accessTtl).mapError .ofToken)) ∨
        ∃ e, record.validate now = .error e ∧ o = .failed e) := by
  cases h with
  | fault e =>
    rcases ofStorage_cases e with he | ⟨text, he⟩
    · simp [Tells, Outcome.isOk, he] at ho
    · simp [Tells, Outcome.isOk, he] at ho
  | blank => simp [Tells, Outcome.isOk] at ho
  | unknown => simp [Tells, Outcome.isOk] at ho
  | orphan => simp [Tells, Outcome.isOk] at ho
  | refused _ hrecord hfrom hto hvalid =>
    exact ⟨_, _, hrecord, hfrom, hto, .inr ⟨_, hvalid, rfl⟩⟩
  | issues _ hrecord hfrom hto hvalid =>
    exact ⟨_, _, hrecord, hfrom, hto, .inl ⟨hvalid, _, _, _, _, rfl⟩⟩

theorem Refreshes.not_ok (h : issuer.Refreshes faults token m m' o) (hspent : Spent token m)
    (access : String) : o ≠ .ok access := by
  rintro rfl
  obtain ⟨record, hrecord, hspent⟩ := hspent
  obtain ⟨record', now, hrecord', hfrom, -, ⟨hvalid, -⟩ | ⟨e, -, he⟩⟩ := h.exists_record (.inl rfl)
  · obtain rfl := Option.some.inj (hrecord.symm.trans hrecord')
    obtain ⟨hlive, hbefore⟩ := RefreshToken.of_validate_eq_ok hvalid
    rcases hspent with hrevoked | hexpired
    · exact Bool.noConfusion (hlive.symm.trans hrevoked)
    · omega
  · cases he

theorem Refreshes.not_expired (h : issuer.Refreshes faults token m m' o)
    (hrevoked : Revoked token m) : o ≠ .failed .tokenExpired := by
  rintro rfl
  obtain ⟨record, hrecord, hrevoked⟩ := hrevoked
  obtain ⟨record', now, hrecord', -, -, hend⟩ := h.exists_record (.inr (.inr rfl))
  obtain rfl := Option.some.inj (hrecord.symm.trans hrecord')
  have hlive : record.isRevoked = false := by
    rcases hend with ⟨hvalid, -⟩ | ⟨e, hvalid, he⟩
    · exact (RefreshToken.of_validate_eq_ok hvalid).1
    · obtain rfl := Outcome.failed.inj he
      exact (RefreshToken.of_validate_eq_expired hvalid).1
  exact Bool.noConfusion (hlive.symm.trans hrevoked)

theorem Refreshes.revoked (h : issuer.Refreshes faults token m m' (.failed .tokenRevoked)) :
    Revoked token m := by
  obtain ⟨record, now, hrecord, -, -, ⟨-, id, seconds, userId, username, ho⟩ | ⟨e, hvalid, he⟩⟩ :=
    h.exists_record (.inr (.inl rfl))
  · obtain ⟨e, -, he⟩ := exists_error_of_failed ho.symm
    cases e <;> cases he
  · obtain rfl := Outcome.failed.inj he
    exact ⟨record, hrecord, RefreshToken.isRevoked_of_validate hvalid⟩

/-- A maker of tokens that does not call a token expired that it is still to make. -/
def Timely (issuer : Issuer) : Prop :=
  ∀ id seconds userId username,
    issuer.maker.issue id seconds userId username issuer.accessTtl ≠ .error .expired

/-- Signing with a key does not fail. -/
theorem timely_of_maker {key : SigningKey} (hmaker : issuer.maker = .ofKey key) :
    issuer.Timely := by
  intro id seconds userId username h
  rw [hmaker] at h
  cases h

theorem Refreshes.spent (htimely : issuer.Timely)
    (h : issuer.Refreshes faults token m m' (.failed .tokenExpired)) :
    HasRecord token (fun record => record.expiresAt ≤ m'.clock) m := by
  obtain ⟨record, now, hrecord, -, hto, ⟨-, id, seconds, userId, username, ho⟩ | ⟨e, hvalid, he⟩⟩ :=
    h.exists_record (.inr (.inr rfl))
  · obtain ⟨e, hmade, he⟩ := exists_error_of_failed ho.symm
    cases e with
    | expired => exact (htimely _ _ _ _ hmade).elim
    | _ => cases he
  · obtain rfl := Outcome.failed.inj he
    have hexpired : record.expiresAt ≤ now := (RefreshToken.of_validate_eq_expired hvalid).2
    exact ⟨record, hrecord, Int.le_trans hexpired hto⟩

/-! ## Requests that end the life of a token -/

/-- The token was refused because it was revoked, or it was revoked by request, alone or with all
others of its owner. -/
inductive Withdraws (token : String) (m : Moment) :
    (q : Request) → Outcome IdentityError q.Reply → Prop where
  | refused : Withdraws token m (.refresh token) (.failed .tokenRevoked)
  | revoked : Withdraws token m (.revoke token) (.ok ())
  | revokedAll {record : RefreshToken} {count : Nat} :
      m.store.shared.record? token = some record →
      Withdraws token m (.revokeAll record.userId) (.ok count)

/-- The token was withdrawn, or it was refused because its time is over. -/
inductive Ends (token : String) (m : Moment) :
    (q : Request) → Outcome IdentityError q.Reply → Prop where
  | withdrawn {q : Request} {o : Outcome IdentityError q.Reply} :
      Withdraws token m q o → Ends token m q o
  | expired : Ends token m (.refresh token) (.failed .tokenExpired)

theorem Calls.revoked {q : Request} {o : Outcome IdentityError q.Reply}
    (h : issuer.Calls q m o m') (hw : Withdraws token m q o) : Revoked token m' := by
  cases hw with
  | refused =>
    have hrefresh := (issuer.secures_refresh token).of_runs h
    exact hrefresh.2.revoked.advances hrefresh.1.unseen.advances
  | revoked => exact ((pledges_revoke token).of_runs h).value () rfl
  | @revokedAll record count hrecord =>
    have hall := ((pledges_revokeAll record.userId).of_runs h).value count rfl
    obtain ⟨record', hrecord', hcontinues⟩ := h.advances.store.record? hrecord
    exact ⟨record', hrecord', hall record' (List.mem_of_find?_eq_some hrecord') hcontinues.userId⟩

theorem Calls.spent (htimely : issuer.Timely) {q : Request} {o : Outcome IdentityError q.Reply}
    (h : issuer.Calls q m o m') (he : Ends token m q o) : Spent token m' := by
  cases he with
  | withdrawn hw => exact (h.revoked hw).spent
  | expired =>
    have hrefresh := (issuer.secures_refresh token).of_runs h
    refine HasRecord.advances (hrefresh.2.spent htimely) h.advances
      fun record record' hc hexpired => ?_
    rw [hc.expiresAt]
    exact .inr hexpired

/-- Whatever is requested, in whatever order, and whatever fails: no operation takes back that a
record is revoked. After a token was withdrawn or has expired, no refresh with it succeeds, and
after it was withdrawn none says that it has expired. -/
theorem spent_tokens_stay_spent (htimely : issuer.Timely) :
    (∀ m m', issuer.Reaches m m' → ∀ (i : Nat) record, m.store.shared.tokens[i]? = some record →
      record.isRevoked = true → ∃ record', m'.store.shared.tokens[i]? = some record' ∧
        record'.id = record.id ∧ record'.tokenHash = record.tokenHash ∧ record'.isRevoked = true) ∧
    ∀ token m q o m₁ m₂ o' m₃, issuer.Calls q m o m₁ → Ends token m q o → issuer.Reaches m₁ m₂ →
      issuer.Calls (.refresh token) m₂ o' m₃ →
      (∀ access, o' ≠ .ok access) ∧ (Withdraws token m q o → o' ≠ .failed .tokenExpired) := by
  constructor
  · intro m m' hreach i record hrecord hrevoked
    obtain ⟨record', hrecord', hc⟩ := hreach.advances.store.records i record hrecord
    exact ⟨record', hrecord', hc.id, hc.tokenHash, hc.isRevoked hrevoked⟩
  · intro token m q o m₁ m₂ o' m₃ hcall hends hreach hrefresh
    have hends' := ((issuer.secures_refresh token).of_runs hrefresh).2
    constructor
    · exact hends'.not_ok ((hcall.spent htimely hends).advances hreach.advances)
    · exact fun hw => hends'.not_expired ((hcall.revoked hw).advances hreach.advances)

/-! ### A token that is revoked before its time is over -/

/-- The moment after the revocation. -/
def revokedEarly : Moment :=
  ⟨⟨⟨[plainUser], [keyedRecord.revoke 0], []⟩, none⟩, 0, booked.drawn⟩

theorem calls_revoke :
    keyedIssuer.Calls (.revoke (keyedToken ⟨3⟩)) booked (.ok ()) revokedEarly := by
  have hone {record : RefreshToken} {token : String} (now : Int)
      (hfor : record.isFor token = true) (hlive : record.isRevoked = false) :
      Tables.revokeToken ⟨[plainUser], [record], []⟩ now token =
        (true, ⟨[plainUser], [record.revoke now], []⟩) := by
    simp [Tables.revokeToken, Tables.revokeFirst, Tables.isLive, hfor, hlive]
  have hrevoke : booked.store.shared.revokeToken booked.around.now.millis (keyedToken ⟨3⟩) =
      (true, revokedEarly.store.shared) := by
    rw [booked.millis_around]
    exact hone 0 (beq_self_eq_true _) rfl
  have hfound : Dialogue.run Moment.reply (revokeToken .ambient (keyedToken ⟨3⟩)) booked =
      (.ok true, revokedEarly) := by
    have hreply : Moment.reply (.revokeToken .ambient (keyedToken ⟨3⟩)) booked =
        (.ok true, revokedEarly) := by
      simp only [Moment.reply, Store.act, Store.tables, hrevoke]
      rfl
    change (Outcome.ofExcept (Moment.reply (.revokeToken .ambient (keyedToken ⟨3⟩)) booked).1,
      (Moment.reply (.revokeToken .ambient (keyedToken ⟨3⟩)) booked).2) = _
    rw [hreply]
    rfl
  have hrun : Dialogue.run Moment.reply (revoke (keyedToken ⟨3⟩)) booked =
      (.ok (), revokedEarly) := by
    unfold revoke
    rw [if_neg (keyedToken_ne_empty _)]
    exact Attempt.run_bind hfound
  have hruns := runs_reply True (revoke (keyedToken ⟨3⟩)) booked
  rwa [hrun] at hruns

/-- An hour after the token would have expired. -/
def longAfter : Moment := { revokedEarly with clock := 7200000 }

/-- The token that was registered at the start and revoked at once. It is not called expired. -/
theorem spent_tokens_stay_spent_revokedEarly :
    keyedIssuer.Timely ∧
    keyedIssuer.Calls (.revoke (keyedToken ⟨3⟩)) booked (.ok ()) revokedEarly ∧
    keyedIssuer.Reaches revokedEarly longAfter ∧
    (∀ access, (Dialogue.run Moment.reply (keyedIssuer.refresh (keyedToken ⟨3⟩)) longAfter).1 ≠
      .ok access) ∧
    (Dialogue.run Moment.reply (keyedIssuer.refresh (keyedToken ⟨3⟩)) longAfter).1 ≠
      .failed .tokenExpired := by
  have htimely : keyedIssuer.Timely := timely_of_maker rfl
  have hreach : keyedIssuer.Reaches revokedEarly longAfter := by
    refine Relation.ReflTransGen.single (.waits ?_)
    show revokedEarly.clock ≤ 7200000
    decide
  have hstays := (spent_tokens_stay_spent htimely).2 (keyedToken ⟨3⟩) booked _ _
    revokedEarly longAfter _ _ calls_revoke (.withdrawn .revoked) hreach
    (runs_reply True (keyedIssuer.refresh (keyedToken ⟨3⟩)) longAfter)
  exact ⟨htimely, calls_revoke, hreach, hstays.1, hstays.2 .revoked⟩

end Issuer

end SignIn.Service
