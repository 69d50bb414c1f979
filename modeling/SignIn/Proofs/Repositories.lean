import SignIn.Sql.Outbox
import SignIn.Sql.RefreshTokens
import SignIn.Sql.Users

/-!
# Requests to the repositories

The calls of the repositories that take a scope, as data. A unit of work is made of any
of them, in any order.
-/
namespace SignIn.Sql

inductive Request where
  | createUser (u : User)
  | userById (id : Uuid)
  | userByEmail (address : String)
  | userByPhone (countryCode phoneNumber : String)
  | insertToken (record : RefreshToken)
  | createToken (userId : Uuid) (token : String) (expiresAt : Int)
  | tokenRecord (token : String)
  | revokeToken (token : String)
  | revokeUserTokens (userId : Uuid)
  | insertEvent (event : OutboxEvent)

namespace Request

/-- The outbox has failures of its own. -/
abbrev Error : Request → Type
  | .insertEvent _ => OutboxError
  | _ => IdentityError

abbrev Value : Request → Type
  | .createUser _ | .insertToken _ | .insertEvent _ => Unit
  | .userById _ | .userByEmail _ | .userByPhone .. => Option User
  | .createToken .. | .tokenRecord _ => RefreshToken
  | .revokeToken _ => Bool
  | .revokeUserTokens _ => Nat

/-- The work of the repository that a request is put to. -/
def perform (scope : Scope) : (q : Request) → Attempt Call Answer q.Error q.Value
  | .createUser u => Users.create scope u
  | .userById id => Users.findById scope id
  | .userByEmail address => Users.findByEmail scope address
  | .userByPhone countryCode phoneNumber => Users.findByPhone scope countryCode phoneNumber
  | .insertToken record => RefreshTokens.insert scope record
  | .createToken userId token expiresAt => RefreshTokens.create scope userId token expiresAt
  | .tokenRecord token => RefreshTokens.getByToken scope token
  | .revokeToken token => RefreshTokens.revoke scope token
  | .revokeUserTokens userId => RefreshTokens.revokeAllForUser scope userId
  | .insertEvent event => Outbox.insert scope event

end Request

end SignIn.Sql
