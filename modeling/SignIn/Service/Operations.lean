import SignIn.LoginNotice
import SignIn.Service.Call
import SignIn.Token.Signed

/-!
# Registration, login, and tokens

Tokens are issued outside of transactions, so that a transaction that fails only
drops the issued pair. A registration stores the user and the refresh token
together, and a login stores the refresh token and the notice together. To
somebody without the right password an unknown account looks like a known one.
-/

namespace SignIn.Service

/-- The maker of tokens, and the lifetimes of the tokens in seconds. -/
structure Issuer where
  maker : TokenMaker
  accessTtl : Int
  refreshTtl : Int

/-- The answer to a registration or a login. The tokens are only told here. -/
structure AuthResponse where
  user : User
  accessToken : String
  refreshToken : String

/-- What is issued together. -/
structure TokenPair where
  accessToken : String
  refreshToken : String

/-- Integers of this range are computed with; leaving it is a panic. -/
def inWord (n : Int) (overflow : Panic) : Step Int :=
  if Decimal.Range.i64.contains n then pure n else .ofOutcome (.panicked overflow)

namespace Issuer

variable (issuer : Issuer)

/-- A signed token for a user. -/
def issue (user : User) : Step String := do
  let id ← ask .freshId
  let now ← ask .now
  .ofExcept ((issuer.maker.issue id (now / 1000) user.id.text user.username
    issuer.accessTtl).mapError IdentityError.ofToken)

/-- Two tokens of one lifetime. What makes the second one a refresh token is its record. -/
def issuePair (user : User) : Step TokenPair := do
  let accessToken ← issuer.issue user
  let refreshToken ← issuer.issue user
  return { accessToken, refreshToken }

/-- When a refresh token that is issued now will expire. -/
def refreshExpiry : Step Int := do
  let now ← ask .now
  let lifetime ← inWord (issuer.refreshTtl * 1000) .multiplyOverflow
  inWord (now + lifetime) .addOverflow

/-- Make the user of a valid request. Nothing is drawn for a request that is turned down. -/
@[irreducible] def newUser (r : RegisterRequest) : Step User := do
  .ofExcept r.validate
  let salt ← ask .freshSalt
  let now ← ask .now
  let id ← ask .freshId
  .ofExcept (User.register r salt id now)

/-- Make a user and a first pair of tokens, and store the user with the record of the second. -/
def register (r : RegisterRequest) : Step AuthResponse := do
  let user ← newUser r
  let pair ← issuer.issuePair user
  let expiresAt ← issuer.refreshExpiry
  inTransaction do
    createUser .transaction user
    let _ ← createToken .transaction user.id pair.refreshToken expiresAt
    return ()
  return ⟨user, pair.accessToken, pair.refreshToken⟩

/-- Look a user up by the name of a login. -/
def findUser : Identifier → Step (Option User)
  | .email address => userByEmail .ambient address
  | .phone country number => userByPhone .ambient country number

/-- The user who is named and knows the password. All else fails alike. -/
def authenticate (r : LoginRequest) : Step User := do
  match ← findUser r.identifier with
  | none => .fail .invalidCredentials
  | some user => do
    let fits ← .ofOutcome (Password.verify r.password user.passwordHash)
    if fits then return user else .fail .invalidCredentials

/-- The event of a login that happens now. -/
def loginEvent (user : User) : Step OutboxEvent := do
  let loginAt ← ask .instant
  let now ← ask .now
  let id ← ask .freshId
  return OutboxEvent.make id now EventName.login.text (LoginNotice.ofUser user loginAt).toJson.normal

/-- Check the password, and store a new record with the event that tells of the login. -/
def login (r : LoginRequest) : Step AuthResponse := do
  .ofExcept r.validate
  let user ← authenticate r
  let pair ← issuer.issuePair user
  let expiresAt ← issuer.refreshExpiry
  let event ← loginEvent user
  inTransaction do
    let _ ← createToken .transaction user.id pair.refreshToken expiresAt
    insertEvent .transaction event
  return ⟨user, pair.accessToken, pair.refreshToken⟩

/-- A new access token for a refresh token, which stays as it is. -/
def refresh (refreshToken : String) : Step String := do
  if refreshToken = "" then .fail .tokenRequired
  else do
    let record ← tokenRecord .ambient refreshToken
    let now ← ask .now
    .ofExcept (record.validate now)
    match ← userById .ambient record.userId with
    | none => .fail .userNotFound
    | some user => issuer.issue user

/-- The claims of an access token. -/
def verifyAccess (token : String) : Step Claims := do
  if token = "" then .fail .tokenRequired
  else do
    let now ← ask .now
    .ofExcept ((issuer.maker.verify (now / 1000) token).mapError IdentityError.ofToken)

end Issuer

/-- Revoke a refresh token, which may be revoked already. -/
def revoke (refreshToken : String) : Step Unit := do
  if refreshToken = "" then .fail .tokenRequired
  else
    if ← revokeToken .ambient refreshToken then return ()
    else do
      let _ ← tokenRecord .ambient refreshToken
      return ()

/-- Revoke every refresh token of a user, and count them. -/
def revokeAll (userId : Uuid) : Step Nat := revokeUserTokens .ambient userId

end SignIn.Service
