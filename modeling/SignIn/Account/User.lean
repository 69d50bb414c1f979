import SignIn.Account.Request
import SignIn.Password.Hash

/-!
# Users

A user is made from a valid request to register. The hash of the password is
stored with the user and never written into JSON.
-/

namespace SignIn

/-- Times are milliseconds since 1970. -/
structure User where
  id : Uuid
  email : Option String
  countryCode : Option String
  phoneNumber : Option String
  username : String
  passwordHash : String
  createdAt : Int
  updatedAt : Int
  deriving DecidableEq, Repr

namespace User

/-- The user of a valid request, under a fresh id and with a fresh salt. -/
def register (r : RegisterRequest) (salt : Salt) (id : Uuid) (now : Int) :
    Except IdentityError User := do
  r.validate
  return {
    id
    email := nonEmpty r.email
    countryCode := nonEmpty r.countryCode
    phoneNumber := nonEmpty r.phoneNumber
    username := r.username
    passwordHash := Password.hash r.password salt
    createdAt := now
    updatedAt := now }

/-- What everybody may see of a user. The hash of the password is left out. -/
def publicMembers (u : User) : List (String × Json) :=
  [("id", .ofUuid u.id), ("email", .ofOption .str u.email),
    ("country_code", .ofOption .str u.countryCode),
    ("phone_number", .ofOption .str u.phoneNumber), ("username", .str u.username)]

/-- When the user was made, and last changed. -/
def stamps (u : User) : List (String × Json) :=
  [("created_at", .int u.createdAt), ("updated_at", .int u.updatedAt)]

/-- Everything but the hash. -/
def toJson (u : User) : Json := .obj (u.publicMembers ++ u.stamps)

/-- A user that is read has to bring a hash. -/
def ofJson? (j : Json) : Option User := do
  let f ← j.fields? ["id", "email", "country_code", "phone_number", "username", "password_hash",
    "created_at", "updated_at"]
  return {
    id := ← f.required "id" Json.uuid?
    email := ← f.optional "email" Json.str?
    countryCode := ← f.optional "country_code" Json.str?
    phoneNumber := ← f.optional "phone_number" Json.str?
    username := ← f.required "username" Json.str?
    passwordHash := ← f.required "password_hash" Json.str?
    createdAt := ← f.required "created_at" Json.int64?
    updatedAt := ← f.required "updated_at" Json.int64? }

end User

end SignIn
