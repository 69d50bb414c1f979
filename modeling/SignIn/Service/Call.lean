import SignIn.Account.User
import SignIn.Outbox.Event
import SignIn.RefreshToken
import SignIn.UnitOfWork.Coordinator

/-!
# What the service asks for

The service asks for time and chance, opens and ends transactions, and calls three
stores: of users, of refresh tokens, and of events. Every call of a store says
whether it belongs to the open transaction.
-/

namespace SignIn.Service

/-- What the service asks of its surroundings. -/
inductive Call where
  | now
  | instant
  | freshId
  | freshSalt
  | begin (options : TxOptions)
  | commit
  | rollback
  | abandon
  | createUser (scope : Scope) (user : User)
  | userById (scope : Scope) (id : Uuid)
  | userByEmail (scope : Scope) (email : String)
  | userByPhone (scope : Scope) (countryCode phoneNumber : String)
  | insertToken (scope : Scope) (record : RefreshToken)
  | tokenRecord (scope : Scope) (token : String)
  | revokeToken (scope : Scope) (token : String)
  | revokeUserTokens (scope : Scope) (userId : Uuid)
  | insertEvent (scope : Scope) (event : OutboxEvent)

/-- The answers. Clocks and draws cannot fail, the store can. -/
abbrev Answer : Call → Type
  | .now => Int
  | .instant => Timestamp
  | .freshId => Uuid
  | .freshSalt => Salt
  | .begin _ => Except StorageError Unit
  | .commit => Except StorageError Unit
  | .rollback => Except StorageError Unit
  | .abandon => Unit
  | .createUser .. => Except IdentityError Unit
  | .userById .. => Except IdentityError (Option User)
  | .userByEmail .. => Except IdentityError (Option User)
  | .userByPhone .. => Except IdentityError (Option User)
  | .insertToken .. => Except IdentityError Unit
  | .tokenRecord .. => Except IdentityError RefreshToken
  | .revokeToken .. => Except IdentityError Bool
  | .revokeUserTokens .. => Except IdentityError Nat
  | .insertEvent .. => Except OutboxError Unit

/-- A piece of an operation of the service. -/
abbrev Step (α : Type) : Type := Attempt Call Answer IdentityError α

def put (call : Call) : Dialogue Call Answer (Answer call) := Dialogue.put call

/-- Ask for something that cannot fail. -/
def ask (call : Call) : Step (Answer call) := .hear (put call)

/-- Units of work in the store, for the coordinator. -/
def manager : Manager Call Answer where
  begin options := put (.begin options)
  commit := put .commit
  rollback := put .rollback
  abandon := put .abandon

/-- Run work in a transaction that reads what is committed and may write. -/
def inTransaction (work : Step α) : Step α :=
  manager.within IdentityError.ofStorage .transaction (.ok work)

/-- Store a user, if nobody is in the way. -/
def createUser (scope : Scope) (user : User) : Step Unit := .call (put (.createUser scope user))

def userById (scope : Scope) (id : Uuid) : Step (Option User) := .call (put (.userById scope id))

/-- Look a user up by email. -/
def userByEmail (scope : Scope) (email : String) : Step (Option User) :=
  .call (put (.userByEmail scope email))

/-- Look a user up by both parts of a phone number. -/
def userByPhone (scope : Scope) (countryCode phoneNumber : String) : Step (Option User) :=
  .call (put (.userByPhone scope countryCode phoneNumber))

/-- Make the record of a token and store it. -/
def createToken (scope : Scope) (userId : Uuid) (token : String) (expiresAt : Int) :
    Step RefreshToken := do
  let id ← ask .freshId
  let now ← ask .now
  let record ← .ofExcept (RefreshToken.make id now userId token expiresAt)
  .call (put (.insertToken scope record))
  return record

/-- The record of a refresh token, which is missed if it is not there. -/
def tokenRecord (scope : Scope) (token : String) : Step RefreshToken :=
  .call (put (.tokenRecord scope token))

/-- Was there a token that was not revoked yet? -/
def revokeToken (scope : Scope) (token : String) : Step Bool :=
  .call (put (.revokeToken scope token))

/-- Revoke all records of a user, and count them. -/
def revokeUserTokens (scope : Scope) (userId : Uuid) : Step Nat :=
  .call (put (.revokeUserTokens scope userId))

/-- Put an event in the outbox. A failure of the outbox is told in the words of the service. -/
def insertEvent (scope : Scope) (event : OutboxEvent) : Step Unit :=
  .call ((put (.insertEvent scope event)).andThen fun (result : Except OutboxError Unit) =>
    .done (result.mapError IdentityError.ofOutbox))

end SignIn.Service
