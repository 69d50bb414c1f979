import SignIn.Rehearsal.Chance
import SignIn.Rehearsal.OutboxScript
import SignIn.Service.Operations
import SignIn.Service.Store

/-!
# A bench for the service

The store of the service with mishaps: a call that is to fail is noted and does
nothing, and a transaction whose end fails is dropped.
-/

namespace SignIn.Rehearsal

open Service (Call Answer Store)

/-- The service in a rehearsal: its store, the clock, and the mishaps to come. -/
structure Scene where
  now : Timestamp
  drawn : Nat := 0
  store : Store := {}
  storageMishaps : Mishaps StorageError := {}
  identityMishaps : Mishaps IdentityError := {}
  outboxMishaps : Mishaps OutboxMishap := {}
  accepted : List String := []
  calls : List String := []

namespace Scene

/-- The name of a call of a store, and where it runs. -/
def callName? : Call → Option (String × Scope)
  | .begin _ => some ("begin", .ambient)
  | .commit => some ("commit", .ambient)
  | .rollback => some ("rollback", .ambient)
  | .createUser scope _ => some ("users.create", scope)
  | .userById scope _ => some ("users.find_by_id", scope)
  | .userByEmail scope _ => some ("users.find_by_email", scope)
  | .userByPhone scope _ _ => some ("users.find_by_phone", scope)
  | .insertToken scope _ => some ("tokens.insert", scope)
  | .tokenRecord scope _ => some ("tokens.get_by_token", scope)
  | .revokeToken scope _ => some ("tokens.revoke", scope)
  | .revokeUserTokens scope _ => some ("tokens.revoke_all", scope)
  | .insertEvent scope _ => some ("outbox.insert", scope)
  | _ => none

def noteName (s : Scene) (name : String) : Scene := { s with calls := s.calls ++ [name] }

/-- Note a call, and whether it was made within a transaction. -/
def note (s : Scene) (c : Call) : Scene :=
  match callName? c with
  | some (name, scope) => s.noteName (if scope.isTransactional then name ++ " tx" else name)
  | none => s

/-- The clock and the draws that the store may look at. -/
def surroundings (s : Scene) : Store.Surroundings := ⟨s.now, freshId, freshSalt⟩

/-- Do what the call does. -/
def act (s : Scene) (c : Call) : Answer c × Scene :=
  let (answer, store) := Store.act s.surroundings s.drawn c s.store
  (answer, { s with store, drawn := s.drawn + 1 })

def takeStorage (s : Scene) (name : String) : Option StorageError × Scene :=
  let (mishap, storageMishaps) := s.storageMishaps.take name
  (mishap, { s with storageMishaps })

def takeIdentity (s : Scene) (c : Call) : Option IdentityError × Scene :=
  let (mishap, identityMishaps) := s.identityMishaps.take (((callName? c).map (·.1)).getD "")
  (mishap, { s with identityMishaps })

/-- The connection is lost, and with it what was not committed. -/
def drop (s : Scene) : Scene := { s with store := s.store.rollback }

/-- The answer to a call, its mishap included. -/
def reply (c : Call) (s : Scene) : Answer c × Scene :=
  let s := s.note c
  match c with
  | .begin options =>
    match s.takeStorage "begin" with
    | (some e, s) => (.error e, s)
    | (none, s) => s.act (.begin options)
  | .commit =>
    match s.takeStorage "commit" with
    | (some e, s) => (.error e, s.drop)
    | (none, s) => s.act .commit
  | .rollback =>
    match s.takeStorage "rollback" with
    | (some e, s) => (.error e, s.drop)
    | (none, s) => s.act .rollback
  | .createUser scope user =>
    match s.takeIdentity (.createUser scope user) with
    | (some e, s) => (.error e, s)
    | (none, s) => s.act (.createUser scope user)
  | .userById scope id =>
    match s.takeIdentity (.userById scope id) with
    | (some e, s) => (.error e, s)
    | (none, s) => s.act (.userById scope id)
  | .userByEmail scope email =>
    match s.takeIdentity (.userByEmail scope email) with
    | (some e, s) => (.error e, s)
    | (none, s) => s.act (.userByEmail scope email)
  | .userByPhone scope country number =>
    match s.takeIdentity (.userByPhone scope country number) with
    | (some e, s) => (.error e, s)
    | (none, s) => s.act (.userByPhone scope country number)
  | .insertToken scope record =>
    match s.takeIdentity (.insertToken scope record) with
    | (some e, s) => (.error e, s)
    | (none, s) => s.act (.insertToken scope record)
  | .tokenRecord scope token =>
    match s.takeIdentity (.tokenRecord scope token) with
    | (some e, s) => (.error e, s)
    | (none, s) => s.act (.tokenRecord scope token)
  | .revokeToken scope token =>
    match s.takeIdentity (.revokeToken scope token) with
    | (some e, s) => (.error e, s)
    | (none, s) => s.act (.revokeToken scope token)
  | .revokeUserTokens scope userId =>
    match s.takeIdentity (.revokeUserTokens scope userId) with
    | (some e, s) => (.error e, s)
    | (none, s) => s.act (.revokeUserTokens scope userId)
  | .insertEvent scope event =>
    match s.outboxMishaps.take "insert" with
    | (some (.fail e), outboxMishaps) => (.error e, { s with outboxMishaps })
    | (_, outboxMishaps) => Scene.act { s with outboxMishaps } (.insertEvent scope event)
  | c => s.act c

/-- Lay out mishaps for a call. -/
def stage (s : Scene) (on : String) (errors : List Json) : Scene :=
  match on with
  | "begin" | "commit" | "rollback" =>
    { s with storageMishaps := s.storageMishaps.add on (errors.map StorageError.ofWritten?) }
  | "enqueue" => { s with outboxMishaps := s.outboxMishaps.add on (errors.map OutboxMishap.ofJson?) }
  | _ =>
    match on.toList with
    | 'o' :: 'u' :: 't' :: 'b' :: 'o' :: 'x' :: '.' :: name =>
      { s with
        outboxMishaps := s.outboxMishaps.add (String.ofList name) (errors.map OutboxMishap.ofJson?) }
    | _ => { s with identityMishaps := s.identityMishaps.add on (errors.map IdentityError.ofWritten?) }

/-! ## Polling the outbox of the store -/

def deliveryName? : Outbox.Call → Option String
  | .findPending .. => some "outbox.find_pending"
  | .enqueue .. => some "enqueue"
  | .markSuccess _ => some "outbox.mark_success"
  | .markFailed .. => some "outbox.mark_failed"
  | .recordFailure .. => some "outbox.record_failure"
  | _ => none

def noteName? : Note → Option String
  | .call _ c => deliveryName? c
  | .enqueueDone .. => none

/-- The task and the options of a call of the queue. -/
def enqueued? : Note → Option (Task × TaskOptions)
  | .call _ (.enqueue task options) => some (task, options)
  | _ => none

/-- Poll once. Besides the report, the tasks that the queue accepted. -/
def poll (s : Scene) (p : Outbox.Processor) :
    Except Panic (Outbox.BatchReport × List (Task × TaskOptions) × Scene) := do
  let bench : Bench :=
    { now := s.now.millis, table := s.store.shared.events, accepted := s.accepted,
      mishaps := s.outboxMishaps }
  let (outcome, after) := Dialogue.run Bench.reply p.pollOnce bench
  let fresh := after.accepted.drop s.accepted.length
  let tasks := (after.notes.filterMap enqueued?).filter fun t => fresh.contains (t.2.taskId.getD "")
  return (← outcome.value, tasks,
    { s with
      store := { s.store with shared := { s.store.shared with events := after.table } }
      accepted := after.accepted
      outboxMishaps := after.mishaps
      calls := s.calls ++ after.notes.filterMap noteName? })

end Scene

end SignIn.Rehearsal
