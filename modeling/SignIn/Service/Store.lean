import SignIn.Outbox.Table
import SignIn.Service.Call

/-!
# A store with transactions

The tables of users, refresh tokens and events. A transaction works on a copy,
which replaces the shared tables when it is committed and is dropped otherwise.
-/

namespace SignIn.Service

/-- The tables of the service, each in the order of insertion. -/
structure Tables where
  users : List User := []
  tokens : List RefreshToken := []
  events : Outbox.Table := []

namespace Tables

/-- Both texts are there, and they are equal. -/
def sameText (a b : Option String) : Bool := a.isSome && a == b

/-- Two users that cannot both be stored. -/
def conflict (a b : User) : Bool :=
  a.id == b.id || a.username == b.username || sameText a.email b.email ||
    (sameText a.countryCode b.countryCode && sameText a.phoneNumber b.phoneNumber)

/-- Add a user with whom nobody conflicts. -/
def createUser (t : Tables) (user : User) : Except IdentityError Tables :=
  if t.users.any (conflict user) then .error .userAlreadyExists
  else .ok { t with users := t.users ++ [user] }

def userById (t : Tables) (id : Uuid) : Option User := t.users.find? (·.id == id)

/-- The first user with this email. -/
def userByEmail (t : Tables) (email : String) : Option User := t.users.find? (·.email == some email)

/-- The first user with both parts of this phone number. -/
def userByPhone (t : Tables) (countryCode phoneNumber : String) : Option User :=
  t.users.find? fun u => u.countryCode == some countryCode && u.phoneNumber == some phoneNumber

/-- Add a record. -/
def insertToken (t : Tables) (record : RefreshToken) : Tables :=
  { t with tokens := t.tokens ++ [record] }

/-- The first record with the digest of the token. -/
def tokenRecord (t : Tables) (token : String) : Except IdentityError RefreshToken :=
  match t.tokens.find? (·.isFor token) with
  | some record => .ok record
  | none => .error .tokenNotFound

/-- Revoke the first record that is live and meets a condition. -/
def revokeFirst (now : Int) (wanted : RefreshToken → Bool) : List RefreshToken → List RefreshToken
  | [] => []
  | record :: rest =>
    if wanted record && !record.isRevoked then record.revoke now :: rest
    else record :: revokeFirst now wanted rest

/-- A record that is wanted and not revoked yet. -/
def isLive (wanted : RefreshToken → Bool) (record : RefreshToken) : Bool :=
  wanted record && !record.isRevoked

/-- Revoke the first record of a token; say whether there was one to revoke. -/
def revokeToken (t : Tables) (now : Int) (token : String) : Bool × Tables :=
  (t.tokens.any (isLive (·.isFor token)),
    { t with tokens := revokeFirst now (·.isFor token) t.tokens })

/-- Revoke all records of a user, and count those that were not revoked yet. -/
def revokeUserTokens (t : Tables) (now : Int) (userId : Uuid) : Nat × Tables :=
  (t.tokens.countP (isLive (·.userId == userId)),
    { t with tokens := t.tokens.map fun record =>
        if isLive (·.userId == userId) record then record.revoke now else record })

/-- Add an event to the outbox. -/
def insertEvent (t : Tables) (event : OutboxEvent) : Tables :=
  { t with events := t.events ++ [event] }

end Tables

/-- The shared tables, and the copy of the open transaction. -/
structure Store where
  shared : Tables := {}
  copy : Option Tables := none

namespace Store

/-- A transaction works on a copy of the tables. -/
def begin (s : Store) : Store := { s with copy := some s.shared }

/-- The copy takes the place of the shared tables. -/
def commit (s : Store) : Store := ⟨s.copy.getD s.shared, none⟩

/-- The copy is dropped. -/
def rollback (s : Store) : Store := { s with copy := none }

/-- The tables that a call of this scope sees. -/
def tables (s : Store) : Scope → Tables
  | .ambient => s.shared
  | .transaction => s.copy.getD s.shared

/-- Write where a scope writes: to the copy, or to the shared tables. -/
def setTables (s : Store) (scope : Scope) (t : Tables) : Store :=
  match scope, s.copy with
  | .transaction, some _ => { s with copy := some t }
  | _, _ => { s with shared := t }

/-- The time and the chance that the service is given. Draws are numbered. -/
structure Surroundings where
  now : Timestamp
  id : Nat → Uuid
  salt : Nat → Salt

/-- What a call does when nothing goes wrong. -/
def act (around : Surroundings) (drawn : Nat) : (c : Call) → Store → Answer c × Store
  | .now, s => (around.now.millis, s)
  | .instant, s => (around.now, s)
  | .freshId, s => (around.id drawn, s)
  | .freshSalt, s => (around.salt drawn, s)
  | .begin _, s => (.ok (), s.begin)
  | .commit, s => (.ok (), s.commit)
  | .rollback, s => (.ok (), s.rollback)
  | .abandon, s => ((), s.rollback)
  | .createUser scope user, s =>
    match (s.tables scope).createUser user with
    | .ok t => (.ok (), s.setTables scope t)
    | .error e => (.error e, s)
  | .userById scope id, s => (.ok ((s.tables scope).userById id), s)
  | .userByEmail scope email, s => (.ok ((s.tables scope).userByEmail email), s)
  | .userByPhone scope countryCode phoneNumber, s =>
    (.ok ((s.tables scope).userByPhone countryCode phoneNumber), s)
  | .insertToken scope record, s =>
    (.ok (), s.setTables scope ((s.tables scope).insertToken record))
  | .tokenRecord scope token, s => ((s.tables scope).tokenRecord token, s)
  | .revokeToken scope token, s =>
    let (found, t) := (s.tables scope).revokeToken around.now.millis token
    (.ok found, s.setTables scope t)
  | .revokeUserTokens scope userId, s =>
    let (count, t) := (s.tables scope).revokeUserTokens around.now.millis userId
    (.ok count, s.setTables scope t)
  | .insertEvent scope event, s => (.ok (), s.setTables scope ((s.tables scope).insertEvent event))

end Store

end SignIn.Service
