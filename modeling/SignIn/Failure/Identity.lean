import SignIn.Failure.Outbox
import SignIn.Failure.Token

/-!
# Failures shown to clients

Every failure of an operation has a kind, and the kind decides the status a
client sees. The texts of internal failures stay inside.
-/

namespace SignIn

/-- What an operation of the service may fail with. -/
inductive IdentityError where
  | invalidEmail (reason : String)
  | invalidUsername (reason : String)
  | invalidPassword (reason : String)
  | invalidPhoneNumber (reason : String)
  | invalidCountryCode (reason : String)
  | emailOrPhoneRequired
  | tokenRequired
  | userAlreadyExists
  | userNotFound
  | tokenNotFound
  | invalidToken
  | tokenExpired
  | tokenRevoked
  | invalidCredentials
  | database (text : String)
  | outbox (text : String)
  | internal (text : String)
  deriving DecidableEq, Repr

/-- The failures as clients tell them apart. -/
inductive ErrorKind where
  | invalidInput
  | alreadyExists
  | notFound
  | tokenInvalid
  | tokenExpired
  | tokenRevoked
  | invalidCredentials
  | internal
  deriving DecidableEq, Repr

/-- The codes of answers to remote calls. -/
inductive StatusCode where
  | invalidArgument
  | alreadyExists
  | notFound
  | unauthenticated
  | internal
  deriving DecidableEq, Repr

/-- What a client sees of a failure. -/
structure Status where
  code : StatusCode
  message : String
  deriving DecidableEq, Repr

namespace IdentityError

/-- The failure in words. -/
def message : IdentityError → String
  | .invalidEmail reason => "Invalid email: " ++ reason
  | .invalidUsername reason => "Invalid username: " ++ reason
  | .invalidPassword reason => "Invalid password: " ++ reason
  | .invalidPhoneNumber reason => "Invalid phone number: " ++ reason
  | .invalidCountryCode reason => "Invalid country code: " ++ reason
  | .emailOrPhoneRequired => "Email or phone number is required"
  | .tokenRequired => "Token is required"
  | .userAlreadyExists => "User already exists"
  | .userNotFound => "User not found"
  | .tokenNotFound => "Token not found"
  | .invalidToken => "Invalid token"
  | .tokenExpired => "Token expired"
  | .tokenRevoked => "Token revoked"
  | .invalidCredentials => "Invalid credentials"
  | .database text => "Database error: " ++ text
  | .outbox text => "Outbox error: " ++ text
  | .internal text => "Internal server error: " ++ text

/-- The kind of a failure. -/
def kind : IdentityError → ErrorKind
  | .invalidEmail _ | .invalidUsername _ | .invalidPassword _ | .invalidPhoneNumber _
  | .invalidCountryCode _ | .emailOrPhoneRequired | .tokenRequired => .invalidInput
  | .userAlreadyExists => .alreadyExists
  | .userNotFound | .tokenNotFound => .notFound
  | .invalidToken => .tokenInvalid
  | .tokenExpired => .tokenExpired
  | .tokenRevoked => .tokenRevoked
  | .invalidCredentials => .invalidCredentials
  | .database _ | .outbox _ | .internal _ => .internal

/-- What a client is told. Texts from inside stay inside. -/
def status (e : IdentityError) : Status :=
  match e.kind with
  | .invalidInput => ⟨.invalidArgument, e.message⟩
  | .alreadyExists => ⟨.alreadyExists, e.message⟩
  | .notFound => ⟨.notFound, e.message⟩
  | .tokenInvalid | .tokenExpired | .tokenRevoked => ⟨.unauthenticated, e.message⟩
  | .invalidCredentials => ⟨.unauthenticated, "Invalid credentials"⟩
  | .internal => ⟨.internal, "Internal server error"⟩

/-- A conflict on a unique index of the users means that the user is there already. -/
def ofStorage (e : StorageError) : IdentityError :=
  if e.isUserConflict then .userAlreadyExists else .database e.message

/-- A failure of a token, in the words of the service. -/
def ofToken (e : TokenError) : IdentityError :=
  match e with
  | .expired => .tokenExpired
  | .invalid => .invalidToken
  | .secretTooShort | .signing _ => .internal e.message

/-- A failure of the outbox, in the words of the service. -/
def ofOutbox (e : OutboxError) : IdentityError :=
  match e with
  | .database error => ofStorage error
  | e => .outbox e.message

end IdentityError

end SignIn
