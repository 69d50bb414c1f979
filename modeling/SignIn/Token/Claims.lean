import SignIn.Failure.Token
import SignIn.Json.Record

/-!
# Claims

What a token says: its own id, the user, and when it was issued and ends, in
seconds since 1970. A token is valid up to and including its last second.
-/

namespace SignIn

/-- What a token says of its holder: who it is, and from when until when that holds. -/
structure Claims where
  id : Uuid
  userId : String
  username : String
  issuedAt : Int
  expiresAt : Int
  deriving DecidableEq, Repr

namespace Claims

/-- The claims of a new token. Its end stays inside 64 bits. -/
def make (id : Uuid) (nowSeconds : Int) (userId username : String) (ttl : Int) : Claims :=
  ⟨id, userId, username, nowSeconds, Decimal.Range.i64.clamp (nowSeconds + ttl)⟩

/-- Has the token lived its last second? -/
def isExpiredAt (c : Claims) (nowSeconds : Int) : Bool := c.expiresAt < nowSeconds

/-- Expiry first, then the required claims. -/
def validate (c : Claims) (nowSeconds : Int) : Except TokenError Unit :=
  if c.isExpiredAt nowSeconds then .error .expired
  else if c.id.isNil ∨ c.userId = "" ∨ c.username = "" then .error .invalid
  else .ok ()

def toJson (c : Claims) : Json :=
  .obj [("jti", .ofUuid c.id), ("sub", .str c.userId), ("username", .str c.username),
    ("iat", .int c.issuedAt), ("exp", .int c.expiresAt)]

/-- The names of the claims, in the order of their list form. -/
def members : List String := ["jti", "sub", "username", "iat", "exp"]

def ofJson? (j : Json) : Option Claims := do
  let f ← j.fields? members
  return {
    id := ← f.required "jti" Json.uuid?
    userId := ← f.required "sub" Json.str?
    username := ← f.required "username" Json.str?
    issuedAt := ← f.required "iat" Json.int64?
    expiresAt := ← f.required "exp" Json.int64? }

end Claims

end SignIn
