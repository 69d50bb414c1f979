import SignIn.Failure.Identity
import SignIn.Json.Record

/-!
# Failures, written down

A failure that is to be staged is written as its name, or as an object that gives
the name its argument.
-/

namespace SignIn

/-- The name of a failure and its argument, null if it has none. -/
def writtenCase? : Json → Option (String × Json)
  | .str name => some (name, .null)
  | .obj [(name, argument)] => some (name, argument)
  | _ => none

namespace Json

/-- The text that stands as an argument, or no text. -/
def textOr (j : Json) : String := j.str?.getD ""

/-- An optional text among the members of an object. -/
def memberText? (j : Json) (name : String) : Option String := j.member? name >>= Json.str?

end Json

namespace StorageError

/-- The failure of the database that is written like this. -/
def ofWritten? (j : Json) : Option StorageError := do
  let (name, argument) ← writtenCase? j
  match name with
  | "PoolClosed" => some .poolClosed
  | "PoolTimedOut" => some .poolTimedOut
  | "RowNotFound" => some .rowNotFound
  | "WorkerCrashed" => some .workerCrashed
  | "Protocol" => some (.protocol argument.textOr)
  | "ColumnNotFound" => some (.columnNotFound argument.textOr)
  | "Configuration" => some (.configuration argument.textOr)
  | "Io" => some (.io argument.textOr)
  | "Database" => some (.server ⟨argument.memberText? "code", argument.memberText? "constraint",
      (argument.memberText? "message").getD ""⟩)
  | _ => none

end StorageError

namespace TokenError

def ofWritten? (j : Json) : Option TokenError := do
  let (name, argument) ← writtenCase? j
  match name with
  | "Invalid" => some .invalid
  | "Expired" => some .expired
  | "SecretTooShort" => some .secretTooShort
  | "Signing" => some (.signing argument.textOr)
  | _ => none

end TokenError

namespace OutboxError

/-- The outermost of a chain of reasons. -/
def outermost : Json → String
  | .arr items => ((items.getLast?.bind Json.str?)).getD ""
  | j => j.textOr

def ofWritten? (j : Json) : Option OutboxError := do
  let (name, argument) ← writtenCase? j
  match name with
  | "Database" => (StorageError.ofWritten? argument).map .database
  | "EventNotFound" => argument.uuid?.map .eventNotFound
  | "Serialization" => some (.serialization argument.textOr)
  | "InvalidPayload" => some (.invalidPayload argument.textOr)
  | "UnknownStatus" => some (.unknownStatus argument.textOr)
  | "EnqueueFailed" => some (.enqueueFailed argument.textOr)
  | "TaskIdConflict" => some (.taskIdConflict argument.textOr)
  | "Other" => some (.other (outermost argument))
  | "Redis" => some (.broker ("server error - ExtensionError: " ++ argument.textOr))
  | _ => none

end OutboxError

namespace IdentityError

/-- The failure of the service that is written like this. -/
def ofWritten? (j : Json) : Option IdentityError := do
  let (name, argument) ← writtenCase? j
  match name with
  | "InvalidEmail" => some (.invalidEmail argument.textOr)
  | "InvalidUsername" => some (.invalidUsername argument.textOr)
  | "InvalidPassword" => some (.invalidPassword argument.textOr)
  | "InvalidPhoneNumber" => some (.invalidPhoneNumber argument.textOr)
  | "InvalidCountryCode" => some (.invalidCountryCode argument.textOr)
  | "EmailOrPhoneRequired" => some .emailOrPhoneRequired
  | "TokenRequired" => some .tokenRequired
  | "UserAlreadyExists" => some .userAlreadyExists
  | "UserNotFound" => some .userNotFound
  | "TokenNotFound" => some .tokenNotFound
  | "InvalidToken" => some .invalidToken
  | "TokenExpired" => some .tokenExpired
  | "TokenRevoked" => some .tokenRevoked
  | "InvalidCredentials" => some .invalidCredentials
  | "Database" => some (.database argument.textOr)
  | "Outbox" => some (.outbox argument.textOr)
  | "Internal" => some (.internal argument.textOr)
  | "from_storage" => (StorageError.ofWritten? argument).map ofStorage
  | "from_token" => (TokenError.ofWritten? argument).map ofToken
  | "from_outbox" => (OutboxError.ofWritten? argument).map ofOutbox
  | _ => none

end IdentityError

end SignIn
