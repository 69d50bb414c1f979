import SignIn.Attempt
import SignIn.Failure.Identity
import SignIn.Json.Basic

/-!
# Reports of failures

A failure is reported as an object with its name and message, and with what else
its kind has to say.
-/

namespace SignIn

namespace Panic

/-- The panic as it is shown. -/
def report (p : Panic) : Json := .obj [("error", .str "panic"), ("message", .str p.message)]

end Panic

namespace TokenError

def name : TokenError → String
  | .invalid => "Invalid"
  | .expired => "Expired"
  | .secretTooShort => "SecretTooShort"
  | .signing _ => "Signing"

def report (e : TokenError) : Json := .obj [("error", .str e.name), ("message", .str e.message)]

end TokenError

namespace OutboxError

def name : OutboxError → String
  | .database _ => "DatabaseError"
  | .eventNotFound _ => "EventNotFound"
  | .serialization _ => "SerializationError"
  | .invalidPayload _ => "InvalidPayload"
  | .unknownStatus _ => "UnknownStatus"
  | .enqueueFailed _ => "EnqueueFailed"
  | .taskIdConflict _ => "TaskIdConflict"
  | .broker _ => "Redis"
  | .other _ => "Other"

/-- The failure as it is shown, and whether trying again is of no use. -/
def report (e : OutboxError) : Json :=
  .obj [("error", .str e.name), ("message", .str e.message), ("fatal", .bool e.isFatal)]

end OutboxError

namespace ErrorKind

def name : ErrorKind → String
  | .invalidInput => "InvalidInput"
  | .alreadyExists => "AlreadyExists"
  | .notFound => "NotFound"
  | .tokenInvalid => "TokenInvalid"
  | .tokenExpired => "TokenExpired"
  | .tokenRevoked => "TokenRevoked"
  | .invalidCredentials => "InvalidCredentials"
  | .internal => "Internal"

end ErrorKind

namespace StatusCode

def name : StatusCode → String
  | .invalidArgument => "InvalidArgument"
  | .alreadyExists => "AlreadyExists"
  | .notFound => "NotFound"
  | .unauthenticated => "Unauthenticated"
  | .internal => "Internal"

end StatusCode

namespace IdentityError

def name : IdentityError → String
  | .invalidEmail _ => "InvalidEmail"
  | .invalidUsername _ => "InvalidUsername"
  | .invalidPassword _ => "InvalidPassword"
  | .invalidPhoneNumber _ => "InvalidPhoneNumber"
  | .invalidCountryCode _ => "InvalidCountryCode"
  | .emailOrPhoneRequired => "EmailOrPhoneRequired"
  | .tokenRequired => "TokenRequired"
  | .userAlreadyExists => "UserAlreadyExists"
  | .userNotFound => "UserNotFound"
  | .tokenNotFound => "TokenNotFound"
  | .invalidToken => "InvalidToken"
  | .tokenExpired => "TokenExpired"
  | .tokenRevoked => "TokenRevoked"
  | .invalidCredentials => "InvalidCredentials"
  | .database _ => "Database"
  | .outbox _ => "Outbox"
  | .internal _ => "Internal"

/-- The failure as it is shown, with what a client would be told. -/
def report (e : IdentityError) : Json :=
  .obj [("error", .str e.name), ("message", .str e.message), ("kind", .str e.kind.name),
    ("code", .str e.status.code.name), ("status", .str e.status.message)]

end IdentityError

end SignIn
