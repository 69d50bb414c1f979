import SignIn.RefreshToken
import SignIn.Sql.Connection

/-!
# Refresh tokens in SQL

A raw token is never sent: rows are found by its digest. Updates match live rows
only, so that a revoked token stays revoked.
-/

namespace SignIn.Sql.RefreshTokens

def table : String := "refresh_tokens"

/-- The columns in the order in which they are written and asked for. -/
def columns : List String :=
  ["id", "user_id", "token_hash", "expires_at", "is_revoked", "created_at", "updated_at"]

/-- The values of a record, in the order of the columns. -/
def params (t : RefreshToken) : List Param :=
  [.uuid t.id, .uuid t.userId, .text t.tokenHash, .int t.expiresAt, .bool t.isRevoked,
    .int t.createdAt, .int t.updatedAt]

/-- The record in a row. -/
def ofRow (row : Row) : Except StorageError RefreshToken := do
  return {
    id := ← row.required "id" .uuid
    userId := ← row.required "user_id" .uuid
    tokenHash := ← row.required "token_hash" .text
    expiresAt := ← row.required "expires_at" .int8
    isRevoked := ← row.required "is_revoked" .bool
    createdAt := ← row.required "created_at" .int8
    updatedAt := ← row.required "updated_at" .int8 }

/-- Write a record with all its columns. -/
def insertStatement (t : RefreshToken) : Statement := ⟨.insert table columns, params t⟩

/-- Ask for the record with a digest. The token itself is not sent. -/
def selectStatement (tokenHash : String) : Statement :=
  ⟨.select columns table [⟨"token_hash", .param 1⟩] [] none, [.text tokenHash]⟩

/-- Revoke the live rows in which a column has a value. -/
def revokeStatement (column : String) (value : Param) (now : Int) : Statement :=
  ⟨.update table [⟨"is_revoked", .bool true⟩, ⟨"updated_at", .param 2⟩]
    [⟨column, .param 1⟩, ⟨"is_revoked", .bool false⟩] [], [value, .int now]⟩

/-- A call of this repository. -/
abbrev Step (α : Type) : Type := Attempt Call Answer IdentityError α

/-- Store a record. -/
def insert (scope : Scope) (t : RefreshToken) : Step Unit :=
  .mapError IdentityError.ofStorage do
    let _ ← send scope (insertStatement t)
    return ()

/-- Make the record of a token and insert it. -/
def create (scope : Scope) (userId : Uuid) (token : String) (expiresAt : Int) : Step RefreshToken := do
  let id ← freshId
  let at1 ← now
  let record ← .ofExcept (RefreshToken.make id at1 userId token expiresAt)
  insert scope record
  return record

/-- The record of a token, which is missed if it is not there. -/
def getByToken (scope : Scope) (token : String) : Step RefreshToken := do
  let result ← .mapError IdentityError.ofStorage (send scope (selectStatement (RefreshToken.hash token)))
  match result.rows with
  | [] => .fail .tokenNotFound
  | row :: _ => .ofExcept ((ofRow row).mapError IdentityError.ofStorage)

/-- The number of live rows that were revoked. -/
def revokeWhere (scope : Scope) (column : String) (value : Param) : Step Nat :=
  .mapError IdentityError.ofStorage do
    connection scope
    let at1 ← now
    let result ← query scope (revokeStatement column value at1)
    return result.affected

/-- Revoke the record of a token; say whether there was one to revoke. -/
def revoke (scope : Scope) (token : String) : Step Bool := do
  let count ← revokeWhere scope "token_hash" (.text (RefreshToken.hash token))
  return 0 < count

/-- Revoke all records of a user, and count those that were not revoked yet. -/
def revokeAllForUser (scope : Scope) (userId : Uuid) : Step Nat :=
  revokeWhere scope "user_id" (.uuid userId)

end SignIn.Sql.RefreshTokens
