import SignIn.Account.Validation
import SignIn.Json.Record

/-!
# Requests to register and to log in

An empty optional member counts as absent. A contact is needed: an email, or a
country code and a phone number. Requests are checked before anything is stored.
-/

namespace SignIn

/-- The text, unless it is empty. -/
def nonEmpty (s : Option String) : Option String := s.filter (· != "")

/-- The request for a new account. An empty text counts as no text. -/
structure RegisterRequest where
  username : String
  password : String
  email : Option String
  countryCode : Option String
  phoneNumber : Option String
  deriving DecidableEq, Repr

namespace RegisterRequest

/-- There is an email, or both parts of a phone. -/
def hasContact (r : RegisterRequest) : Bool :=
  (nonEmpty r.email).isSome || ((nonEmpty r.countryCode).isSome && (nonEmpty r.phoneNumber).isSome)

/-- Check an optional part, if it is there. -/
def checkPart (part : Option String) (check : String → Except IdentityError Unit) :
    Except IdentityError Unit :=
  match nonEmpty part with
  | none => .ok ()
  | some s => check s

/-- The rules in the order in which they are looked at: contact, name, password, then the parts of
the contact. -/
def validate (r : RegisterRequest) : Except IdentityError Unit := do
  Validation.require r.hasContact .emailOrPhoneRequired
  Validation.username r.username
  Validation.password r.password
  checkPart r.email Validation.email
  checkPart r.countryCode Validation.countryCode
  checkPart r.phoneNumber Validation.phoneNumber

def toJson (r : RegisterRequest) : Json :=
  .obj [("username", .str r.username), ("password", .str r.password),
    ("email", .ofOption .str r.email), ("country_code", .ofOption .str r.countryCode),
    ("phone_number", .ofOption .str r.phoneNumber)]

/-- The request in a JSON value. The parts of the contact may be missing. -/
def ofJson? (j : Json) : Option RegisterRequest := do
  let f ← j.fields? ["username", "password", "email", "country_code", "phone_number"]
  return {
    username := ← f.required "username" Json.str?
    password := ← f.required "password" Json.str?
    email := ← f.optional "email" Json.str?
    countryCode := ← f.optional "country_code" Json.str?
    phoneNumber := ← f.optional "phone_number" Json.str? }

end RegisterRequest

/-- How a user is named at login. -/
inductive Identifier where
  | email (address : String)
  | phone (country number : String)
  deriving DecidableEq, Repr

namespace Identifier

/-- The rules for the name of a login, the same as those for a registration. -/
def validate : Identifier → Except IdentityError Unit
  | .email address => do
    Validation.require (address != "") .emailOrPhoneRequired
    Validation.email address
  | .phone country number => do
    Validation.require (country != "" && number != "") .emailOrPhoneRequired
    Validation.countryCode country
    Validation.phoneNumber number

def toJson : Identifier → Json
  | .email address => .obj [("email", .str address)]
  | .phone country number =>
    .obj [("phone", .obj [("country_code", .str country), ("phone_number", .str number)])]

/-- An object with one member, named for the case. -/
def ofJson? : Json → Option Identifier
  | .obj [("email", .str address)] => some (.email address)
  | .obj [("phone", j)] => do
    let f ← j.fields? ["country_code", "phone_number"]
    return .phone (← f.required "country_code" Json.str?) (← f.required "phone_number" Json.str?)
  | _ => none

end Identifier

/-- The request to log in, by one of the names of an account. -/
structure LoginRequest where
  identifier : Identifier
  password : String
  deriving DecidableEq, Repr

namespace LoginRequest

def withEmail (email password : String) : LoginRequest := ⟨.email email, password⟩

/-- The form of the request only; whether the account exists is decided later. -/
def validate (r : LoginRequest) : Except IdentityError Unit := do
  r.identifier.validate
  Validation.require (r.password != "") (.invalidPassword "password is required")

def toJson (r : LoginRequest) : Json :=
  .obj [("identifier", r.identifier.toJson), ("password", .str r.password)]

/-- The request in a JSON value. -/
def ofJson? (j : Json) : Option LoginRequest := do
  let f ← j.fields? ["identifier", "password"]
  return {
    identifier := ← f.required "identifier" Identifier.ofJson?
    password := ← f.required "password" Json.str? }

end LoginRequest

end SignIn
