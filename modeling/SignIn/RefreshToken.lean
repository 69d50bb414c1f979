import SignIn.Digest.Sha256
import SignIn.Failure.Identity
import SignIn.Json.Record

/-!
# Refresh tokens

Only the digest of a refresh token is stored. A record is usable while it is
neither revoked nor expired, and it is never un-revoked.
-/

namespace SignIn

/-- The stored record of a refresh token. Times are milliseconds since 1970. -/
structure RefreshToken where
  id : Uuid
  userId : Uuid
  tokenHash : String
  expiresAt : Int
  isRevoked : Bool
  createdAt : Int
  updatedAt : Int
  deriving DecidableEq, Repr

namespace RefreshToken

/-- What is stored in place of a token. -/
def hash (token : String) : String := Sha256.hex token

/-- The record of a new token, under a fresh id, made at a point in time. -/
def make (id : Uuid) (now : Int) (userId : Uuid) (token : String) (expiresAt : Int) :
    Except IdentityError RefreshToken :=
  if userId.isNil ∨ token = "" then .error .invalidToken
  else if expiresAt ≤ now then .error .tokenExpired
  else .ok ⟨id, userId, hash token, expiresAt, false, now, now⟩

/-- Identity first, then revocation, then expiry. -/
def validate (t : RefreshToken) (now : Int) : Except IdentityError Unit :=
  if t.id.isNil ∨ t.userId.isNil ∨ t.tokenHash = "" then .error .invalidToken
  else if t.isRevoked then .error .tokenRevoked
  else if t.expiresAt ≤ now then .error .tokenExpired
  else .ok ()

/-- Is this the record of the token? Only digests are compared. -/
def isFor (t : RefreshToken) (token : String) : Bool := t.tokenHash == hash token

/-- A record that is made belongs to the user and is for the token. -/
theorem of_make {id userId : Uuid} {now expiresAt : Int} {token : String} {record : RefreshToken}
    (h : make id now userId token expiresAt = .ok record) :
    record.userId = userId ∧ record.isFor token = true := by
  unfold make at h
  split at h
  · cases h
  · split at h
    · cases h
    · obtain rfl := Except.ok.inj h
      exact ⟨rfl, beq_self_eq_true (hash token)⟩

/-- The record after a revocation. -/
def revoke (t : RefreshToken) (now : Int) : RefreshToken :=
  { t with isRevoked := true, updatedAt := now }

/-- The members of a record in JSON, all of them required. -/
def memberNames : List String :=
  ["id", "user_id", "token_hash", "expires_at", "is_revoked", "created_at", "updated_at"]

def toJson (t : RefreshToken) : Json :=
  .obj [("id", .ofUuid t.id), ("user_id", .ofUuid t.userId), ("token_hash", .str t.tokenHash),
    ("expires_at", .int t.expiresAt), ("is_revoked", .bool t.isRevoked),
    ("created_at", .int t.createdAt), ("updated_at", .int t.updatedAt)]

/-- The record in a JSON value, if all members are there and have their types. -/
def ofJson? (j : Json) : Option RefreshToken := do
  let f ← j.fields? memberNames
  return {
    id := ← f.required "id" Json.uuid?
    userId := ← f.required "user_id" Json.uuid?
    tokenHash := ← f.required "token_hash" Json.str?
    expiresAt := ← f.required "expires_at" Json.int64?
    isRevoked := ← f.required "is_revoked" Json.bool?
    createdAt := ← f.required "created_at" Json.int64?
    updatedAt := ← f.required "updated_at" Json.int64? }

end RefreshToken

end SignIn
