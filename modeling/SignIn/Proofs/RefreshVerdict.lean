import SignIn.Proofs.Histories

/-!
# The verdict on a refresh token

While the store works, what becomes of a refresh token is decided by its record and the
time alone. No record is malformed and none is without its user, so the two failures that
would report it never occur. A new access token names the owner of the record and is
accepted until its end.
-/
namespace SignIn.Service

namespace Issuer

variable {token : String} {m m' : Moment} {o : Outcome IdentityError String}

/-! ## Reasons to turn a token down -/

/-- The reason to turn a refresh token down, of which the first that applies is given. -/
def refusal (t : Tables) (token : String) (now : Int) : Option IdentityError :=
  if token = "" then some .tokenRequired
  else match t.record? token with
    | none => some .tokenNotFound
    | some record =>
      if record.isRevoked then some .tokenRevoked
      else if record.expiresAt ≤ now then some .tokenExpired
      else none

/-- The branches, one for each verdict. -/
theorem refusal_cases (m : Moment) (token : String) (now : Int) :
    (token = "" ∧ refusal m.store.shared token now = some .tokenRequired) ∨
    (token ≠ "" ∧ m.store.shared.record? token = none ∧
      refusal m.store.shared token now = some .tokenNotFound) ∨
    ∃ record, token ≠ "" ∧ m.store.shared.record? token = some record ∧
      ((record.isRevoked = true ∧ refusal m.store.shared token now = some .tokenRevoked) ∨
        (record.isRevoked = false ∧ record.expiresAt ≤ now ∧
          refusal m.store.shared token now = some .tokenExpired) ∨
        (record.isRevoked = false ∧ now < record.expiresAt ∧
          refusal m.store.shared token now = none)) := by
  unfold refusal
  by_cases hblank : token = ""
  · exact .inl ⟨hblank, if_pos hblank⟩
  rw [if_neg hblank]
  cases hrecord : m.store.shared.record? token with
  | none => exact .inr (.inl ⟨hblank, rfl, rfl⟩)
  | some record =>
    refine .inr (.inr ⟨record, hblank, rfl, ?_⟩)
    simp only
    by_cases hrevoked : record.isRevoked = true
    · exact .inl ⟨hrevoked, if_pos hrevoked⟩
    rw [if_neg hrevoked]
    rw [Bool.not_eq_true] at hrevoked
    by_cases hexpired : record.expiresAt ≤ now
    · exact .inr (.inl ⟨hrevoked, hexpired, if_pos hexpired⟩)
    · exact .inr (.inr ⟨hrevoked, by omega, if_neg hexpired⟩)

variable {now : Int}

theorem refusal_eq_required_iff :
    refusal m.store.shared token now = some .tokenRequired ↔ token = "" := by
  rcases refusal_cases m token now with ⟨hblank, h⟩ | ⟨hgiven, -, h⟩ |
    ⟨record, hgiven, -, ⟨-, h⟩ | ⟨-, -, h⟩ | ⟨-, -, h⟩⟩
  · rw [h]
    simp [hblank]
  · simp [h, hgiven]
  · simp [h, hgiven]
  · simp [h, hgiven]
  · simp [h, hgiven]

theorem refusal_eq_unknown_iff :
    refusal m.store.shared token now = some .tokenNotFound ↔
      token ≠ "" ∧ m.store.shared.record? token = none := by
  rcases refusal_cases m token now with ⟨hblank, h⟩ | ⟨hgiven, hnone, h⟩ |
    ⟨record, hgiven, hsome, ⟨-, h⟩ | ⟨-, -, h⟩ | ⟨-, -, h⟩⟩
  · rw [h]
    simp [hblank]
  · simp [h, hgiven, hnone]
  · simp [h, hsome]
  · simp [h, hsome]
  · simp [h, hsome]

theorem refusal_eq_revoked_iff :
    refusal m.store.shared token now = some .tokenRevoked ↔
      token ≠ "" ∧ HasRecord token (fun record => record.isRevoked = true) m := by
  unfold HasRecord
  rcases refusal_cases m token now with ⟨hblank, h⟩ | ⟨hgiven, hnone, h⟩ |
    ⟨record, hgiven, hsome, ⟨hrevoked, h⟩ | ⟨hlive, -, h⟩ | ⟨hlive, -, h⟩⟩
  · rw [h]
    simp [hblank]
  · simp [h, hnone]
  · simp [h, hgiven, hsome, hrevoked]
  · simp [h, hsome, hlive]
  · simp [h, hsome, hlive]

theorem refusal_eq_expired_iff :
    refusal m.store.shared token now = some .tokenExpired ↔ token ≠ "" ∧
      HasRecord token (fun record => record.isRevoked = false ∧ record.expiresAt ≤ now) m := by
  unfold HasRecord
  rcases refusal_cases m token now with ⟨hblank, h⟩ | ⟨hgiven, hnone, h⟩ |
    ⟨record, hgiven, hsome, ⟨hrevoked, h⟩ | ⟨hlive, hexpired, h⟩ | ⟨hlive, hbefore, h⟩⟩
  · rw [h]
    simp [hblank]
  · simp [h, hnone]
  · simp [h, hsome, hrevoked]
  · simp [h, hgiven, hsome, hlive, hexpired]
  · simp [h, hsome, hbefore]

theorem refusal_eq_none_iff :
    refusal m.store.shared token now = none ↔ token ≠ "" ∧
      HasRecord token (fun record => record.isRevoked = false ∧ now < record.expiresAt) m := by
  unfold HasRecord
  rcases refusal_cases m token now with ⟨hblank, h⟩ | ⟨hgiven, hnone, h⟩ |
    ⟨record, hgiven, hsome, ⟨hrevoked, h⟩ | ⟨hlive, hexpired, h⟩ | ⟨hlive, hbefore, h⟩⟩
  · rw [h]
    simp [hblank]
  · simp [h, hnone]
  · simp [h, hsome, hrevoked]
  · simp [h, hsome, hexpired]
  · simp [h, hgiven, hsome, hlive, hbefore]

/-- Neither a malformed record nor a missing user is among the reasons. -/
theorem refusal_ne (m : Moment) (token : String) (now : Int) :
    refusal m.store.shared token now ≠ some .invalidToken ∧
      refusal m.store.shared token now ≠ some .userNotFound := by
  rcases refusal_cases m token now with ⟨-, h⟩ | ⟨-, -, h⟩ |
    ⟨record, -, -, ⟨-, h⟩ | ⟨-, -, h⟩ | ⟨-, -, h⟩⟩
  · rw [h]
    decide
  · rw [h]
    decide
  · rw [h]
    decide
  · rw [h]
    decide
  · rw [h]
    decide

/-- A record that is well formed is turned down for no other reason. -/
theorem refusal_of_validate {record : RefreshToken} {e : IdentityError} (hgiven : token ≠ "")
    (hrecord : m.store.shared.record? token = some record)
    (hformed : record.id.isNil = false ∧ record.userId.isNil = false ∧ record.tokenHash ≠ "")
    (hvalid : record.validate now = .error e) : refusal m.store.shared token now = some e := by
  rcases RefreshToken.of_validate_eq_error hvalid with ⟨-, hblank⟩ | ⟨rfl, hrevoked⟩ |
    ⟨rfl, hlive, hexpired⟩
  · rcases hblank with hnil | hnil | hempty
    · exact Bool.noConfusion (hformed.1.symm.trans hnil)
    · exact Bool.noConfusion (hformed.2.1.symm.trans hnil)
    · exact (hformed.2.2 hempty).elim
  · exact refusal_eq_revoked_iff.mpr ⟨hgiven, record, hrecord, hrevoked⟩
  · exact refusal_eq_expired_iff.mpr ⟨hgiven, record, hrecord, hlive, hexpired⟩

theorem refusal_of_validate_ok {record : RefreshToken} (hgiven : token ≠ "")
    (hrecord : m.store.shared.record? token = some record)
    (hvalid : record.validate now = .ok ()) : refusal m.store.shared token now = none :=
  refusal_eq_none_iff.mpr ⟨hgiven, record, hrecord, RefreshToken.of_validate_eq_ok hvalid⟩

/-! ## Access tokens -/

/-- An access token tells who the owner is, from the moment on at which it was issued: it is
accepted up to and including the second in which it ends, and then no more. -/
structure Vouches (issuer : Issuer) (access : String) (owner : User) (since : Int)
    (claims : Claims) : Prop where
  userId : claims.userId = owner.id.text
  username : claims.username = owner.username
  ends : claims.expiresAt = Decimal.Range.i64.clamp (since / 1000 + issuer.accessTtl)
  accepted : ∀ n o n', Dialogue.Runs (Responds False) (issuer.verifyAccess access) n o n' →
    since ≤ n.clock → n'.clock / 1000 ≤ claims.expiresAt → o = .ok claims
  rejected : ∀ n o n', Dialogue.Runs (Responds False) (issuer.verifyAccess access) n o n' →
    claims.expiresAt < n'.clock / 1000 → ∃ e, o = .failed e

variable {issuer : Issuer} {key : SigningKey}

theorem timesFit_make {id : Uuid} {since ttl : Int} {userId username : String}
    (hfits : Decimal.Range.i64.contains since = true) :
    (Claims.make id (since / 1000) userId username ttl).TimesFit := by
  rw [Decimal.Range.contains_iff] at hfits
  simp only [Decimal.Range.i64] at hfits
  constructor
  · rw [Decimal.Range.contains_iff]
    simp only [Claims.make, Decimal.Range.i64]
    omega
  · rw [Decimal.Range.contains_iff]
    simp only [Claims.make, Decimal.Range.clamp, Decimal.Range.i64]
    omega

theorem verify_of_maker (hmaker : issuer.maker = .ofKey key) (now : Int) (token : String) :
    issuer.maker.verify now token = SignedToken.verify key now token := by
  rw [hmaker]
  rfl

/-- The token is kept opaque here, so that nothing tries to compute it. -/
theorem vouches_of_eq_issue (hmaker : issuer.maker = .ofKey key) {access : String} {c : Claims}
    {owner : User} {since : Int} (haccess : access = SignedToken.issue key c) (htimes : c.TimesFit)
    (hid : c.id.isNil = false) (huser : c.userId = owner.id.text)
    (hname : c.username = owner.username) (hnamed : owner.username ≠ "")
    (hends : c.expiresAt = Decimal.Range.i64.clamp (since / 1000 + issuer.accessTtl))
    (hsince : 0 ≤ since) : issuer.Vouches access owner since c := by
  have hgiven : access ≠ "" := by
    rw [haccess]
    exact SignedToken.issue_ne_empty key c
  refine ⟨huser, hname, hends, fun n o n' hrun hlater hbefore => ?_, fun n o n' hrun hlate => ?_⟩
  · obtain ⟨hstill, ho⟩ := (issuer.secures_verifyAccess access).of_runs hrun
    have hclock : n.clock ≤ n'.clock := hstill.clock
    have huser' : c.userId ≠ "" := by
      rw [huser]
      exact Uuid.text_ne_empty owner.id
    have hname' : c.username ≠ "" := by rwa [hname]
    have hread : issuer.maker.verify (n'.clock / 1000) access = .ok c := by
      rw [verify_of_maker hmaker, haccess]
      exact SignedToken.verify_issue htimes hid huser' hname' hbefore (by omega)
    rw [ho hgiven, hread]
    rfl
  · obtain ⟨hstill, ho⟩ := (issuer.secures_verifyAccess access).of_runs hrun
    have hread : ∃ e, issuer.maker.verify (n'.clock / 1000) access = .error e := by
      rw [verify_of_maker hmaker, haccess]
      exact SignedToken.verify_issue_late htimes hlate
    obtain ⟨e, he⟩ := hread
    rw [ho hgiven, he]
    exact ⟨_, rfl⟩

/-! ## The verdict -/

/-- What becomes of a refresh token when it is looked at at a point in time: the store stays as it
was, the outcome is decided as the first five of these say, and it vouches for the owner of the
record if it is a value. -/
structure Verdict (issuer : Issuer) (token : String) (m m' : Moment) (now : Int)
    (o : Outcome IdentityError String) : Prop where
  store : m'.store = m.store
  never : o ≠ .failed .invalidToken ∧ o ≠ .failed .userNotFound
  required : o = .failed .tokenRequired ↔ token = ""
  unknown : o = .failed .tokenNotFound ↔
    token ≠ "" ∧ ∀ record ∈ m.store.shared.tokens, record.tokenHash ≠ RefreshToken.hash token
  revoked : o = .failed .tokenRevoked ↔
    token ≠ "" ∧ HasRecord token (fun record => record.isRevoked = true) m
  expired : o = .failed .tokenExpired ↔ token ≠ "" ∧
    HasRecord token (fun record => record.isRevoked = false ∧ record.expiresAt ≤ now) m
  issued : o.isOk = true ↔ token ≠ "" ∧
    HasRecord token (fun record => record.isRevoked = false ∧ now < record.expiresAt) m
  vouches : ∀ access, o = .ok access → HasRecord token (fun record =>
    ∃ owner ∈ m.store.shared.users, owner.id = record.userId ∧
      ∃ claims, issuer.Vouches access owner m'.clock claims) m

/-- A token that was made for the owner of the record. -/
def MadeForOwner (issuer : Issuer) (key : SigningKey) (token : String) (m m' : Moment)
    (access : String) : Prop :=
  HasRecord token (fun record => ∃ owner ∈ m.store.shared.users, owner.id = record.userId ∧
    ∃ id ∈ m'.drawn, access = SignedToken.issue key
      (Claims.make id (m'.clock / 1000) owner.id.text owner.username issuer.accessTtl)) m

/-- With accounts in order and no faults, the outcome is decided by the reason to turn the token
down, or by there being none. -/
theorem Refreshes.decided (hmaker : issuer.maker = .ofKey key)
    (h : issuer.Refreshes False token m m' o) (hi : m.store.shared.InOrder m.drawn)
    (hids : ∀ id ∈ m.drawn, id.isNil = false) (hclock : m.clock ≤ m'.clock) :
    ∃ now, m.clock ≤ now ∧ now ≤ m'.clock ∧
      ((∃ e, refusal m.store.shared token now = some e ∧ o = .failed e) ∨
        (refusal m.store.shared token now = none ∧
          ∃ access, o = .ok access ∧ issuer.MadeForOwner key token m m' access)) := by
  have hmem {record : RefreshToken} (hrecord : m.store.shared.record? token = some record) :
      record ∈ m.store.shared.tokens := List.mem_of_find?_eq_some hrecord
  cases h with
  | fault e hfaults => exact hfaults.elim
  | blank hblank =>
    exact ⟨m.clock, Int.le_refl _, hclock, .inl ⟨_, refusal_eq_required_iff.mpr hblank, rfl⟩⟩
  | unknown hgiven hnone =>
    have hrefusal : refusal m.store.shared token m.clock = some .tokenNotFound :=
      refusal_eq_unknown_iff.mpr ⟨hgiven, hnone⟩
    exact ⟨m.clock, Int.le_refl _, hclock, .inl ⟨_, hrefusal, rfl⟩⟩
  | refused hgiven hrecord hfrom hto hvalid =>
    have hrefusal := refusal_of_validate hgiven hrecord (hi.formed hids (hmem hrecord)) hvalid
    exact ⟨_, hfrom, hto, .inl ⟨_, hrefusal, rfl⟩⟩
  | orphan hrecord hnobody =>
    obtain ⟨owner, howner⟩ := hi.exists_owner (hmem hrecord)
    rw [hnobody] at howner
    cases howner
  | @issues record now owner id hgiven hrecord hfrom hto hvalid howner hid =>
    obtain ⟨hin, howns⟩ := Tables.of_userById howner
    have hmade : issuer.maker.issue id (m'.clock / 1000) owner.id.text owner.username
        issuer.accessTtl = .ok (SignedToken.issue key
          (Claims.make id (m'.clock / 1000) owner.id.text owner.username issuer.accessTtl)) := by
      rw [hmaker]
      rfl
    refine ⟨now, hfrom, hto, .inr ⟨refusal_of_validate_ok hgiven hrecord hvalid, _, ?_,
      record, hrecord, owner, hin, howns, id, hid, rfl⟩⟩
    rw [hmade]
    rfl

theorem verdict_of_decided (hmaker : issuer.maker = .ofKey key) {now : Int} (hstill : Still m m')
    (hi : m.store.shared.InOrder m.drawn) (hids : ∀ id ∈ m'.drawn, id.isNil = false)
    (hsince : 0 ≤ m'.clock) (hfits : Decimal.Range.i64.contains m'.clock = true)
    (h : (∃ e, refusal m.store.shared token now = some e ∧ o = .failed e) ∨
      (refusal m.store.shared token now = none ∧
        ∃ access, o = .ok access ∧ issuer.MadeForOwner key token m m' access)) :
    issuer.Verdict token m m' now o := by
  have hfailed (e : IdentityError) : o = .failed e ↔ refusal m.store.shared token now = some e := by
    rcases h with ⟨e', hrefusal, rfl⟩ | ⟨hrefusal, access, rfl, -⟩
    · rw [hrefusal, Outcome.failed.injEq, Option.some.injEq]
    · rw [hrefusal]
      exact ⟨fun ho => (by cases ho), fun ho => (by cases ho)⟩
  have hok : o.isOk = true ↔ refusal m.store.shared token now = none := by
    rcases h with ⟨e', hrefusal, rfl⟩ | ⟨hrefusal, access, rfl, -⟩
    · rw [hrefusal]
      exact ⟨fun ho => (by cases ho), fun ho => (by cases ho)⟩
    · rw [hrefusal]
      exact ⟨fun _ => rfl, fun _ => rfl⟩
  obtain ⟨hinvalid, hnobody⟩ := refusal_ne m token now
  refine {
    store := hstill.store.symm
    never := ⟨(hfailed _).not.mpr hinvalid, (hfailed _).not.mpr hnobody⟩
    required := (hfailed _).trans refusal_eq_required_iff
    unknown := (hfailed _).trans (refusal_eq_unknown_iff.trans
      (and_congr_right fun _ => Tables.record?_eq_none_iff))
    revoked := (hfailed _).trans refusal_eq_revoked_iff
    expired := (hfailed _).trans refusal_eq_expired_iff
    issued := hok.trans refusal_eq_none_iff
    vouches := fun access ho => ?_ }
  rcases h with ⟨e, -, he⟩ | ⟨-, access', ho', hmade⟩
  · rw [ho] at he
    cases he
  obtain rfl : access' = access := Outcome.ok.inj (ho'.symm.trans ho)
  refine hmade.imp fun record ⟨owner, howner, howns, id, hid, haccess⟩ => ?_
  obtain ⟨r, hr⟩ := (hi.users owner howner).2
  exact ⟨owner, howner, howns, _, vouches_of_eq_issue hmaker haccess (timesFit_make hfits)
    (hids id hid) rfl rfl hr.username_ne_empty rfl hsince⟩

/-- In whatever way the accounts have come about, with times since 1970, and with ids that are not
nil: a refresh during which no call fails ends as its token and its record demand. -/
theorem refresh_decided_by_record (hmaker : issuer.maker = .ofKey key) {start : Int}
    (hstart : 0 ≤ start) (hreach : issuer.Reaches ⟨{}, start, []⟩ m)
    (hrun : Dialogue.Runs (Responds False) (issuer.refresh token) m o m')
    (hids : ∀ id ∈ m'.drawn, id.isNil = false)
    (hfits : Decimal.Range.i64.contains m'.clock = true) :
    ∃ now, m.clock ≤ now ∧ now ≤ m'.clock ∧ issuer.Verdict token m m' now o := by
  obtain ⟨hstill, hrefreshes⟩ := (issuer.secures_refresh token).of_runs hrun
  have hi : m.store.shared.InOrder m.drawn := inOrder_of_reaches hreach
  have hclock : start ≤ m'.clock := Int.le_trans hreach.advances.clock hstill.clock
  obtain ⟨now, hfrom, hto, hdecided⟩ := hrefreshes.decided hmaker hi
    (fun id hid => hids id (hstill.drawn hid)) hstill.clock
  exact ⟨now, hfrom, hto, verdict_of_decided hmaker hstill hi hids (Int.le_trans hstart hclock)
    hfits hdecided⟩

/-! ### A refresh -/

def refreshed : Moment := ⟨booked.store, 0, [⟨1⟩, ⟨2⟩, ⟨3⟩, ⟨4⟩, ⟨5⟩]⟩

theorem validate_keyedRecord : keyedRecord.validate 0 = .ok () := by
  have hformed : ¬(keyedRecord.id.isNil = true ∨ keyedRecord.userId.isNil = true ∨
      keyedRecord.tokenHash = "") := by
    rintro (hnil | hnil | hempty)
    · cases hnil
    · cases hnil
    · exact RefreshToken.hash_ne_empty _ hempty
  unfold RefreshToken.validate
  rw [if_neg hformed]
  rfl

theorem runs_refresh : Dialogue.Runs (Responds False) (keyedIssuer.refresh (keyedToken ⟨3⟩)) booked
    (.ok (keyedToken ⟨5⟩)) refreshed := by
  have hrecord : Dialogue.run Moment.reply (tokenRecord .ambient (keyedToken ⟨3⟩)) booked =
      (.ok keyedRecord, booked) := by
    have hone {record : RefreshToken} {token : String} (hfor : record.isFor token = true) :
        Tables.tokenRecord ⟨[plainUser], [record], []⟩ token = .ok record := by
      simp [Tables.tokenRecord, hfor]
    have hfind : booked.store.shared.tokenRecord (keyedToken ⟨3⟩) = .ok keyedRecord :=
      hone (beq_self_eq_true _)
    change (Outcome.ofExcept (booked.store.shared.tokenRecord (keyedToken ⟨3⟩)), booked) = _
    rw [hfind]
    rfl
  have hnow : Dialogue.run Moment.reply (ask .now) booked = (.ok 0, booked) := rfl
  have huser : Dialogue.run Moment.reply (userById .ambient keyedRecord.userId) booked =
      (.ok (some plainUser), booked) := rfl
  have hissue : Dialogue.run Moment.reply (keyedIssuer.issue plainUser) booked =
      (.ok (keyedToken ⟨5⟩), refreshed) := rfl
  have hrun : Dialogue.run Moment.reply (keyedIssuer.refresh (keyedToken ⟨3⟩)) booked =
      (.ok (keyedToken ⟨5⟩), refreshed) := by
    unfold refresh
    rw [if_neg (keyedToken_ne_empty _)]
    refine (Attempt.run_bind hrecord).trans ((Attempt.run_bind hnow).trans ?_)
    rw [validate_keyedRecord]
    exact (Attempt.run_bind huser).trans hissue
  have hruns := runs_reply False (keyedIssuer.refresh (keyedToken ⟨3⟩)) booked
  rwa [hrun] at hruns

theorem refresh_decided_by_record_booked :
    keyedIssuer.maker = .ofKey plainKey ∧ keyedIssuer.Reaches ⟨{}, 0, []⟩ booked ∧
    Dialogue.Runs (Responds False) (keyedIssuer.refresh (keyedToken ⟨3⟩)) booked
      (.ok (keyedToken ⟨5⟩)) refreshed ∧
    ∃ now, booked.clock ≤ now ∧ now ≤ refreshed.clock ∧
      keyedIssuer.Verdict (keyedToken ⟨3⟩) booked refreshed now (.ok (keyedToken ⟨5⟩)) := by
  have hreach : keyedIssuer.Reaches ⟨{}, 0, []⟩ booked := .single (.serves _ calls_register)
  have hids : ∀ id ∈ refreshed.drawn, id.isNil = false := by
    simp only [refreshed]
    decide
  exact ⟨rfl, hreach, runs_refresh,
    refresh_decided_by_record rfl (Int.le_refl 0) hreach runs_refresh hids rfl⟩

end Issuer

end SignIn.Service
