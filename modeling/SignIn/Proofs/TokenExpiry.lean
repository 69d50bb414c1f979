import SignIn.Proofs.TokenRoundTrip

/-!
# Expiry comes first

A token that is late is reported as expired, whatever else its claims lack; only what is in time is
looked at further. This holds for every end from 1970 on. An end before 1970 is not taken for a time
at all, and a token with such an end is invalid, however late it is.
-/
namespace SignIn

/-- The claims lack something that they must have. -/
def Claims.Incomplete (c : Claims) : Prop := c.id.isNil = true ∨ c.userId = "" ∨ c.username = ""

instance (c : Claims) : Decidable c.Incomplete :=
  inferInstanceAs (Decidable (c.id.isNil = true ∨ c.userId = "" ∨ c.username = ""))

namespace SignedToken

variable {c : Claims} {key : SigningKey} {now : Int}

/-- The reader of times judges the claims of an issued token by their end alone. -/
theorem readClaims_encodePart_eq (h : c.TimesFit) (now : Int) :
    readClaims (encodePart c.toJson.text) now = if c.expiresAt < 0 then .error .invalid
      else if c.expiresAt < now then .error .expired
      else .ok c := by
  rw [readClaims_decoded (decodePart?_encodePart _) rfl (claims?_ofJson h)
    (fields?_deliveryMembers_ofJson c)]
  simp [deliveryOk, hasAudience, Claims.isExpiredAt]

theorem validate_eq (c : Claims) (hintime : ¬c.expiresAt < now) :
    c.validate now = if c.Incomplete then .error .invalid else .ok () := by
  have hexpired : ¬c.isExpiredAt now = true := by simpa [Claims.isExpiredAt] using hintime
  rw [Claims.validate, if_neg hexpired]
  rfl

/-- What becomes of a token that was issued for any claims at all: the two looks at its end
agree, except that the first of them wants it to be at or after 1970. -/
theorem verify_issue_eq (h : c.TimesFit) (key : SigningKey) (now : Int) :
    verify key now (issue key c) = if c.expiresAt < 0 then .error .invalid
      else if c.expiresAt < now then .error .expired
      else if c.Incomplete then .error .invalid
      else .ok c := by
  have hheader : (decodePart? (encodePart header.text)).any Header.isAccepted = true := by
    rw [decodePart?_encodePart]
    exact isAccepted_header
  have hverify : verify key now (issue key c) = _ :=
    verify_signed_eq hheader (dot_notMem_encodePart _)
  rw [hverify, readClaims_encodePart_eq h]
  by_cases hbefore : c.expiresAt < 0
  · simp only [if_pos hbefore]
    rfl
  by_cases hlate : c.expiresAt < now
  · simp only [if_neg hbefore, if_pos hlate]
    rfl
  simp only [if_neg hbefore, if_neg hlate]
  change (do
    let _ ← c.validate now
    return c) = _
  rw [validate_eq c hlate]
  by_cases hlack : c.Incomplete
  · simp only [if_pos hlack]
    rfl
  · simp only [if_neg hlack]
    rfl

/-- Lateness comes first, then whatever the claims lack; claims that are in time and lack nothing
are accepted as they are. -/
structure ExpiryFirst (c : Claims) (now : Int) (outcome : Except TokenError Claims) : Prop where
  expired : outcome = .error .expired ↔ c.expiresAt < now
  invalid : now ≤ c.expiresAt → (outcome = .error .invalid ↔ c.Incomplete)
  accepted : now ≤ c.expiresAt → (outcome = .ok c ↔ ¬c.Incomplete)

theorem expiryFirst_verify_issue (h : c.TimesFit) (hend : 0 ≤ c.expiresAt) (key : SigningKey)
    (now : Int) : ExpiryFirst c now (verify key now (issue key c)) := by
  have hbefore : ¬c.expiresAt < 0 := by omega
  rw [verify_issue_eq h, if_neg hbefore]
  by_cases hlate : c.expiresAt < now
  · have hnot : ¬now ≤ c.expiresAt := by omega
    exact ⟨by simp [hlate], fun hnow => absurd hnow hnot, fun hnow => absurd hnow hnot⟩
  · constructor <;> by_cases hlack : c.Incomplete <;> simp [hlate, hlack]

/-- An end before 1970 is no end that the reader of times knows. -/
theorem verify_issue_before_epoch (h : c.TimesFit) (hend : c.expiresAt < 0) (key : SigningKey)
    (now : Int) : verify key now (issue key c) = .error .invalid := by
  rw [verify_issue_eq h, if_pos hend]

/-- A token with a negative lifetime is late from the start. -/
theorem verify_make_negative (key : SigningKey) (id : Uuid) {issuedAt : Int}
    (hissued : Decimal.Range.i64.contains issuedAt = true) (userId username : String) {ttl : Int}
    (httl : ttl < 0) (hlater : issuedAt ≤ now) :
    verify key now (IssuedToken.make key id issuedAt userId username ttl).text =
      .error (if 0 ≤ issuedAt + ttl then .expired else .invalid) := by
  have hbounds := hissued
  rw [Decimal.Range.contains_iff] at hbounds
  simp only [Decimal.Range.i64] at hbounds
  have hend : (Claims.make id issuedAt userId username ttl).expiresAt =
      max (-9223372036854775808) (min 9223372036854775807 (issuedAt + ttl)) := rfl
  have hfit : (Claims.make id issuedAt userId username ttl).TimesFit := by
    refine ⟨hissued, ?_⟩
    rw [Decimal.Range.contains_iff, hend]
    simp only [Decimal.Range.i64]
    omega
  change verify key now (issue key (Claims.make id issuedAt userId username ttl)) = _
  rw [verify_issue_eq hfit]
  by_cases hsum : 0 ≤ issuedAt + ttl
  · rw [if_neg (by omega), if_pos (by omega), if_pos hsum]
  · rw [if_pos (by omega), if_neg hsum]

/-- For every secret of 32 bytes or more, all claims, and every time: a signed token with an end at
or after 1970 is expired exactly when it is late, whatever its claims lack, and in time it is
accepted unless they lack something. With an end before 1970 it is invalid. So a token that was
issued with a negative lifetime is expired, as long as its end is not before 1970. -/
theorem expiry_reported_first (secret : String) (hsecret : 32 ≤ (Bytes.ofString secret).length)
    (now : Int) :
    ∃ key, SigningKey.ofSecret? secret = .ok key ∧
      (∀ c : Claims, c.TimesFit →
        (0 ≤ c.expiresAt → ExpiryFirst c now (verify key now (issue key c))) ∧
        (c.expiresAt < 0 → verify key now (issue key c) = .error .invalid)) ∧
      ∀ (id : Uuid) (issuedAt : Int) (userId username : String) (ttl : Int),
        Decimal.Range.i64.contains issuedAt = true → ttl < 0 → issuedAt ≤ now →
        verify key now (IssuedToken.make key id issuedAt userId username ttl).text =
          .error (if 0 ≤ issuedAt + ttl then .expired else .invalid) := by
  have hlong : minSecretBytes ≤ (Bytes.ofString secret).length := hsecret
  refine ⟨⟨Bytes.ofString secret, hlong⟩, dif_pos hlong, ?_, ?_⟩
  · intro c hfit
    constructor
    · intro hend
      exact expiryFirst_verify_issue hfit hend _ now
    · intro hend
      exact verify_issue_before_epoch hfit hend _ now
  · intro id issuedAt userId username ttl hissued httl hlater
    exact verify_make_negative _ id hissued userId username httl hlater

/-- Claims that lack everything, at the second after their last. -/
theorem expiry_reported_first_lacking :
    32 ≤ (Bytes.ofString "0123456789abcdef0123456789abcdef").length ∧
    ∃ key, SigningKey.ofSecret? "0123456789abcdef0123456789abcdef" = .ok key ∧
      verify key 1735689601 (issue key ⟨⟨0⟩, "", "", 1735689000, 1735689600⟩) = .error .expired ∧
      verify key 1735689601 (issue key ⟨⟨0⟩, "", "", 1735689000, 1735689601⟩) = .error .invalid ∧
      verify key 1735689601
        (IssuedToken.make key (Uuid.ofRandom 0) 1735689601 "42" "alice" (-1)).text =
          .error .expired := by
  have hsecret : 32 ≤ (Bytes.ofString "0123456789abcdef0123456789abcdef").length := by
    rw [Bytes.length_ofString]
    decide
  obtain ⟨key, hkey, hclaims, hmade⟩ := expiry_reported_first _ hsecret 1735689601
  obtain ⟨hlate, -⟩ := hclaims ⟨⟨0⟩, "", "", 1735689000, 1735689600⟩ ⟨by decide, by decide⟩
  obtain ⟨hlast, -⟩ := hclaims ⟨⟨0⟩, "", "", 1735689000, 1735689601⟩ ⟨by decide, by decide⟩
  have hexpired := (hlate (by decide)).expired
  have hinvalid := (hlast (by decide)).invalid (by decide)
  exact ⟨hsecret, key, hkey, hexpired.mpr (by decide), hinvalid.mpr (by decide),
    hmade _ _ _ _ _ (by decide) (by decide) (by decide)⟩

/-- A token whose last second is the one before 1970 is late, but not reported so. -/
theorem exists_late_not_expired :
    ∃ key, SigningKey.ofSecret? "0123456789abcdef0123456789abcdef" = .ok key ∧
      (-1 : Int) < 1735689600 ∧
      verify key 1735689600 (issue key ⟨Uuid.ofRandom 0, "42", "alice", 1735689000, -1⟩) =
        .error .invalid ∧
      verify key 1735689600 (issue key ⟨Uuid.ofRandom 0, "42", "alice", 1735689000, -1⟩) ≠
        .error .expired := by
  have hlong : minSecretBytes ≤ (Bytes.ofString "0123456789abcdef0123456789abcdef").length := by
    rw [Bytes.length_ofString]
    decide
  have hinvalid := verify_issue_before_epoch (c := ⟨Uuid.ofRandom 0, "42", "alice", 1735689000, -1⟩)
    ⟨by decide, by decide⟩ (by decide) ⟨_, hlong⟩ 1735689600
  refine ⟨_, dif_pos hlong, by decide, hinvalid, ?_⟩
  rw [hinvalid]
  decide

end SignedToken

end SignIn
