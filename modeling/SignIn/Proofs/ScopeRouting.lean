import SignIn.Proofs.Repositories
import SignIn.Proofs.Transcripts

/-!
# Statements and their connections

A unit of work has a connection of its own, over which its transaction begins and
ends. A call of a repository is sent over this connection if it has the scope of the
transaction, and over one from the pool if it has not. The server may answer any
statement with an error. What is noted is every connection that is taken from the
pool, and every statement with its answer, in the order in which they are sent.
-/
namespace SignIn.Sql

/-- What passes between the repositories and the server. -/
inductive Line where
  | acquired (answer : Except StorageError Unit)
  | sent (scope : Scope) (statement : Statement) (answer : Except StorageError Result)

/-- The lines of a call. Times and ids do not come from the server. -/
def lines : (c : Call) → Answer c → List Line
  | .acquire, answer => [.acquired answer]
  | .query scope statement, answer => [.sent scope statement answer]
  | _, _ => []

/-! ## Calls of the repositories -/

/-- The statement that a request has to send, with the id and the time that were drawn for it. A
record that cannot be made is not sent. -/
def Request.statement? (id : Uuid) (now : Int) : Request → Option Statement
  | .createUser u => some (Users.insertStatement u)
  | .userById id => some (Users.selectStatement [⟨"id", .param 1⟩] [.uuid id])
  | .userByEmail address => some (Users.selectStatement [⟨"email", .param 1⟩] [.text address])
  | .userByPhone countryCode phoneNumber =>
    some (Users.selectStatement [⟨"country_code", .param 1⟩, ⟨"phone_number", .param 2⟩]
      [.text countryCode, .text phoneNumber])
  | .insertToken record => some (RefreshTokens.insertStatement record)
  | .createToken userId token expiresAt =>
    (RefreshToken.make id now userId token expiresAt).toOption.map RefreshTokens.insertStatement
  | .tokenRecord token => some (RefreshTokens.selectStatement (RefreshToken.hash token))
  | .revokeToken token =>
    some (RefreshTokens.revokeStatement "token_hash" (.text (RefreshToken.hash token)) now)
  | .revokeUserTokens userId => some (RefreshTokens.revokeStatement "user_id" (.uuid userId) now)
  | .insertEvent event => some (Outbox.insertStatement event)

/-- Drawn an id and a time, the request has this statement. -/
def Request.Means (q : Request) (statement : Statement) : Prop :=
  ∃ id now, q.statement? id now = some statement

/-- The lines of a request. In the scope of the transaction there is its statement and no
connection from the pool; in any other there is the statement over a connection from the pool, or
the refusal of one. -/
inductive Request.Sends (q : Request) : Scope → List Line → Prop where
  | unmade (scope : Scope) : (∃ id now, q.statement? id now = none) → q.Sends scope []
  | inTransaction {statement : Statement} (answer : Except StorageError Result) :
      q.Means statement → q.Sends .transaction [.sent .transaction statement answer]
  | overPool {statement : Statement} (answer : Except StorageError Result) :
      q.Means statement →
      q.Sends .ambient [.acquired (.ok ()), .sent .ambient statement answer]
  | noConnection (e : StorageError) : q.Sends .ambient [.acquired (.error e)]

/-- How a connection for a scope is come by. -/
inductive Taken {ε : Type} : Scope → Outcome ε Unit → List Line → Prop where
  | own : Taken .transaction (.ok ()) []
  | pooled : Taken .ambient (.ok ()) [.acquired (.ok ())]
  | refused (e : StorageError) {o : Outcome ε Unit} : o.isOk = false →
      Taken .ambient o [.acquired (.error e)]

section Repositories

variable {ε ε' α : Type} {q : Request} {scope : Scope} {statement : Statement}

theorem Taken.mapError {o : Outcome ε Unit} {notes : List Line} (h : Taken scope o notes)
    (f : ε → ε') : Taken scope (o.mapError f) notes := by
  cases h with
  | own => exact .own
  | pooled => exact .pooled
  | refused e hnot =>
    cases o with
    | ok u => exact Bool.noConfusion hnot
    | failed _ => exact .refused e rfl
    | panicked _ => exact .refused e rfl

theorem notes_connection (scope : Scope) : (connection scope).Notes lines (Taken scope) := by
  cases scope with
  | transaction => exact Attempt.notes_ofOutcome .own
  | ambient =>
    refine Attempt.notes_call fun answer => ?_
    cases answer with
    | ok u => exact .pooled
    | error e => exact .refused e rfl

/-- The statement of the request is sent, and nothing else. -/
def Request.Sent (q : Request) (scope : Scope) (notes : List Line) : Prop :=
  ∃ statement answer, q.Means statement ∧ notes = [.sent scope statement answer]

theorem notes_query (h : q.Means statement) :
    (query scope statement).Notes lines fun _ notes => q.Sent scope notes :=
  Attempt.notes_call fun answer => ⟨statement, answer, h, rfl⟩

/-- A request that takes a connection and then sends its statement. -/
theorem notes_connection_bind {a : Attempt Call Answer ε Unit} {f : Unit → Attempt Call Answer ε α}
    (ha : a.Notes lines (Taken scope)) (hf : (f ()).Notes lines fun _ notes => q.Sent scope notes) :
    (a >>= f).Notes lines fun _ notes => q.Sends scope notes := by
  refine Attempt.Notes.bind ha ?_ ?_ ?_
  · intro value first htaken
    refine hf.mono ?_
    rintro _ _ ⟨statement, answer, hmeans, rfl⟩
    cases htaken with
    | own => exact .inTransaction answer hmeans
    | pooled => exact .overPool answer hmeans
    | refused e hnot => exact Bool.noConfusion hnot
  · intro e first htaken
    cases htaken with
    | refused e _ => exact .noConnection e
  · intro p first htaken
    cases htaken with
    | refused e _ => exact .noConnection e

theorem notes_send (h : q.Means statement) :
    (send scope statement).Notes lines fun _ notes => q.Sends scope notes :=
  notes_connection_bind (notes_connection scope) (notes_query h)

theorem notes_find (h : q.Means statement) :
    (Users.find scope statement).Notes lines fun _ notes => q.Sends scope notes := by
  refine Attempt.Notes.mapError (Attempt.Notes.bind_quiet (notes_send h) fun result => ?_)
  exact Attempt.notes_ofExcept rfl

theorem notes_insertToken {t : RefreshToken} (h : q.Means (RefreshTokens.insertStatement t)) :
    (RefreshTokens.insert scope t).Notes lines fun _ notes => q.Sends scope notes := by
  refine Attempt.Notes.mapError (Attempt.Notes.bind_quiet (notes_send h) fun _ => ?_)
  exact Attempt.notes_ofOutcome rfl

/-- The time of a revocation is read when there is a connection already. -/
theorem notes_revokeWhere {column : String} {value : Param}
    (h : ∀ now, q.Means (RefreshTokens.revokeStatement column value now)) :
    (RefreshTokens.revokeWhere scope column value).Notes lines fun _ notes =>
      q.Sends scope notes := by
  refine Attempt.Notes.mapError (notes_connection_bind (notes_connection scope) ?_)
  refine Attempt.notes_hear_bind (fun _ => rfl) fun at1 => ?_
  exact Attempt.Notes.bind_quiet (notes_query (h at1)) fun _ => Attempt.notes_ofOutcome rfl

/-- A record that cannot be made is found to be so before anything is sent. -/
theorem notes_createToken (userId : Uuid) (token : String) (expiresAt : Int) :
    (RefreshTokens.create scope userId token expiresAt).Notes lines fun _ notes =>
      (Request.createToken userId token expiresAt).Sends scope notes := by
  refine Attempt.notes_hear_bind (fun _ => rfl) fun id => ?_
  refine Attempt.notes_hear_bind (fun _ => rfl) fun at1 => ?_
  cases hmake : RefreshToken.make id at1 userId token expiresAt with
  | error e =>
    have hnone : (Request.createToken userId token expiresAt).statement? id at1 = none := by
      simp [Request.statement?, hmake, Except.toOption]
    exact Attempt.notes_ofOutcome (.unmade scope ⟨id, at1, hnone⟩)
  | ok record =>
    have hmeans : (Request.createToken userId token expiresAt).Means
        (RefreshTokens.insertStatement record) :=
      ⟨id, at1, by simp [Request.statement?, hmake, Except.toOption]⟩
    change Attempt.Notes lines (do
      RefreshTokens.insert scope record
      pure record) _
    exact Attempt.Notes.bind_quiet (notes_insertToken hmeans) fun _ =>
      Attempt.notes_ofOutcome rfl

/-- Every request sends its own statement, over the connection that its scope stands for. -/
theorem notes_perform (scope : Scope) (q : Request) :
    (q.perform scope).Notes lines fun _ notes => q.Sends scope notes := by
  cases q with
  | createUser u =>
    refine Attempt.Notes.mapError ?_
    exact Attempt.Notes.bind_quiet (notes_send ⟨.nil, 0, rfl⟩) fun _ => Attempt.notes_ofOutcome rfl
  | userById id => exact notes_find ⟨.nil, 0, rfl⟩
  | userByEmail address => exact notes_find ⟨.nil, 0, rfl⟩
  | userByPhone countryCode phoneNumber => exact notes_find ⟨.nil, 0, rfl⟩
  | insertToken record => exact notes_insertToken ⟨.nil, 0, rfl⟩
  | createToken userId token expiresAt => exact notes_createToken userId token expiresAt
  | tokenRecord token =>
    refine Attempt.Notes.bind_quiet (Attempt.Notes.mapError (notes_send ⟨.nil, 0, rfl⟩))
      fun result => ?_
    cases result.rows with
    | nil => exact Attempt.notes_ofOutcome rfl
    | cons row rest => exact Attempt.notes_ofExcept rfl
  | revokeToken token =>
    exact Attempt.Notes.bind_quiet (notes_revokeWhere fun now => ⟨.nil, now, rfl⟩) fun _ =>
      Attempt.notes_ofOutcome rfl
  | revokeUserTokens userId => exact notes_revokeWhere fun now => ⟨.nil, now, rfl⟩
  | insertEvent event =>
    have htaken : (Attempt.mapError OutboxError.database (connection scope)).Notes lines
        (Taken scope) :=
      Attempt.Notes.mapError ((notes_connection scope).mono fun _ _ h => h.mapError _)
    refine notes_connection_bind htaken ?_
    refine Attempt.Notes.bind_quiet (Attempt.Notes.mapError ?_) fun _ => Attempt.notes_ofOutcome rfl
    exact notes_query ⟨.nil, 0, rfl⟩

end Repositories

/-! ## The transaction -/

/-- A statement of the transaction itself. -/
abbrev Line.control (command : Command) (answer : Except StorageError Result) : Line :=
  .sent .transaction ⟨command, []⟩ answer

/-- The lines of an opening, which may fail with a connection, with its first statement or with its
second. A transaction that has begun and is not handed out is rolled back. -/
inductive Opens (options : TxOptions) : Except StorageError Unit → List Line → Prop where
  | noConnection (e : StorageError) : Opens options (.error e) [.acquired (.error e)]
  | notBegun (e : StorageError) :
      Opens options (.error e) [.acquired (.ok ()), .control .begin (.error e)]
  | notSet (r : Result) (e : StorageError) (answer : Except StorageError Result) :
      Opens options (.error e)
        [.acquired (.ok ()), .control .begin (.ok r),
          .control (.setTransaction options) (.error e), .control .rollback answer]
  | opened (r r' : Result) :
      Opens options (.ok ())
        [.acquired (.ok ()), .control .begin (.ok r), .control (.setTransaction options) (.ok r')]

/-- The lines of an end. A transaction whose end is refused is rolled back. -/
inductive Closes (command : Command) : Except StorageError Unit → List Line → Prop where
  | ended (r : Result) : Closes command (.ok ()) [.control command (.ok r)]
  | dropped (e : StorageError) (answer : Except StorageError Result) :
      Closes command (.error e) [.control command (.error e), .control .rollback answer]

open Dialogue

/-- A transaction that is dropped is rolled back, whatever the answer is. -/
theorem dropped_notes {e : StorageError} {result : Except StorageError Unit} {notes : List Line}
    (h : (undo.andThen fun _ => .done (.error e)).Transcript lines result notes) :
    result = .error e ∧ ∃ answer, notes = [.control .rollback answer] := by
  obtain ⟨answer, _, ⟨rfl, rfl⟩, rfl⟩ := transcript_ask.mp h
  exact ⟨rfl, answer, rfl⟩

theorem closes_of_transcript {command : Command} {result : Except StorageError Unit}
    {notes : List Line} (h : (endWith command).Transcript lines result notes) :
    Closes command result notes := by
  obtain ⟨answer, _, hrest, rfl⟩ := transcript_ask.mp h
  cases answer with
  | ok r =>
    obtain ⟨rfl, rfl⟩ := hrest
    exact .ended r
  | error e =>
    obtain ⟨rfl, answer, rfl⟩ := dropped_notes hrest
    exact .dropped e answer

theorem opens_of_transcript {options : TxOptions} {result : Except StorageError Unit}
    {notes : List Line} (h : (beginWith options).Transcript lines result notes) :
    Opens options result notes := by
  obtain ⟨acquired, _, hbegin, rfl⟩ := transcript_ask.mp h
  cases acquired with
  | error e =>
    obtain ⟨rfl, rfl⟩ := hbegin
    exact .noConnection e
  | ok u =>
    obtain ⟨begun, _, hset, rfl⟩ := transcript_ask.mp hbegin
    cases begun with
    | error e =>
      obtain ⟨rfl, rfl⟩ := hset
      exact .notBegun e
    | ok r =>
      obtain ⟨answered, _, hend, rfl⟩ := transcript_ask.mp hset
      cases answered with
      | error e =>
        obtain ⟨rfl, answer, rfl⟩ := dropped_notes hend
        exact .notSet r e answer
      | ok r' =>
        obtain ⟨rfl, rfl⟩ := hend
        exact .opened r r'

variable {ε α : Type}

/-- The statement that ends the transaction of a callback. -/
def ending : Outcome ε α → Command
  | .ok _ => .commit
  | _ => .rollback

/-- A call of a repository. -/
structure Scoped where
  scope : Scope
  request : Request

abbrev Reply (c : Scoped) : Type := Outcome c.request.Error c.request.Value

/-- A callback makes calls of the repositories, and what it does next depends on the replies. -/
abbrev Callback (ε α : Type) : Type := Attempt Scoped Reply ε α

def Scoped.perform (c : Scoped) : Dialogue Call Answer (Reply c) := c.request.perform c.scope

/-- What a callback does when its calls are made. -/
def Callback.work (f : Callback ε α) : Attempt Call Answer ε α :=
  Dialogue.substitute Scoped.perform f

def Scoped.call (c : Scoped) : Attempt Scoped Reply ε (Reply c) := .hear (Dialogue.put c)

def plainEvent : OutboxEvent := .make .nil 0 "login" .null

end SignIn.Sql
