import SignIn.Rehearsal.Chance
import SignIn.Rehearsal.OutboxScript
import SignIn.Sql.Outbox
import SignIn.Sql.Pool
import SignIn.Sql.RefreshTokens
import SignIn.Sql.Users

/-!
# Rehearsing the database

The server answers from a script, one reply for each statement, and notes the
statements. When the script is at its end, statements succeed and return nothing.
-/

namespace SignIn.Rehearsal

open Sql (Call Answer Param CellType Row Statement)

/-- What the server says to one statement. -/
abbrev Reply : Type := Except ServerError Sql.Result

/-- A database that gives scripted replies and notes the statements. -/
structure Server where
  now : Int
  drawn : Nat := 0
  closed : Bool := false
  replies : List Reply := []
  statements : List Statement := []

namespace Server

/-! ## The script of the server -/

/-- The type of a cell by its name. -/
def typeOf (name : String) : CellType :=
  match name with
  | "varchar" => .varchar
  | "bpchar" => .char
  | "int4" => .int4
  | "int8" => .int8
  | "bool" => .bool
  | "uuid" => .uuid
  | "jsonb" => .jsonb
  | _ => .text

/-- Integers may be given as times before the current one. -/
def intOf? (now : Int) : Json → Option Int
  | .int n => some n
  | .obj [("ago_ms", .int ago)] => some (now - ago)
  | _ => none

/-- The value of a cell, or null. -/
def valueOf? (now : Int) (j : Json) : (t : CellType) → Option t.Value
  | .text | .varchar | .char => j.str?
  | .int4 | .int8 => intOf? now j
  | .bool => j.bool?
  | .uuid => j.str?.bind Uuid.ofText?
  | .jsonb => if j matches .null then none else some j.normal

/-- The columns with their names and types. -/
def columnOf : Json → String × CellType
  | .arr [.str name, .str type] => (name, typeOf type)
  | _ => ("", .text)

/-- The row with these cells. -/
def rowOf (now : Int) (columns : List (String × CellType)) : Json → Row
  | .arr cells => List.zipWith (fun c j => (c.1, ⟨c.2, valueOf? now j c.2⟩)) columns cells
  | _ => []

/-- The reply that is written in the script. -/
def replyOf (now : Int) (j : Json) : Reply :=
  match given? j "error" with
  | some e =>
    .error ⟨some (textOr e "code" ""), e.memberText? "constraint", textOr e "message" ""⟩
  | none =>
    let columns := (items j "columns").map columnOf
    .ok ⟨natOr j "affected" (items j "rows").length, (items j "rows").map (rowOf now columns)⟩

/-- Get ready for the statements of a step. -/
def script (s : Server) (j : Json) : Server :=
  { s with replies := (items j "replies").map (replyOf s.now), statements := [] }

/-- Answer one call. -/
def reply : (c : Call) → Server → Answer c × Server
  | .now, s => (s.now, s)
  | .freshId, s => (freshId s.drawn, { s with drawn := s.drawn + 1 })
  | .acquire, s => (if s.closed then .error .poolClosed else .ok (), s)
  | .query _ statement, s =>
    let s := { s with statements := s.statements ++ [statement] }
    match s.replies with
    | [] => (.ok {}, s)
    | .ok result :: later => (.ok result, { s with replies := later })
    | .error e :: later => (.error (.server e), { s with replies := later })

/-! ## What is shown -/

/-- The identifier, or a label if it was drawn in this rehearsal. -/
def idText (s : Server) (id : Uuid) : String :=
  if ((List.range s.drawn).map freshId).contains id then "<uuid v4>" else id.text

def intJson (s : Server) (n : Int) : Json := if n = s.now then nowLabel else .int n

def paramJson (s : Server) : Param → Json
  | .text t => .str t
  | .int n => s.intJson n
  | .bool b => .bool b
  | .uuid id => .obj [("uuid", .str (s.idText id))]
  | .json j => .obj [("jsonb", j.normal)]
  | .null => .null

/-- A statement and its parameters. -/
def statementJson (s : Server) (statement : Statement) : Json :=
  .obj [("sql", .str statement.command.sql), ("params", .arr (statement.params.map s.paramJson))]

def statementsJson (s : Server) : Json := .arr (s.statements.map s.statementJson)

/-- A record in which the fresh identifier and the current time are labelled. -/
def recordJson (s : Server) (t : RefreshToken) : Json :=
  .obj [("id", .str (s.idText t.id)), ("user_id", .str (s.idText t.userId)),
    ("token_hash", .str t.tokenHash), ("expires_at", s.intJson t.expiresAt),
    ("is_revoked", .bool t.isRevoked), ("created_at", s.intJson t.createdAt),
    ("updated_at", s.intJson t.updatedAt)]

def userJson (u : User) : Json :=
  .obj (u.publicMembers ++ ("password_hash", .str u.passwordHash) :: u.stamps)

/-! ## Steps -/

/-- A call of a repository whose value is shown, with the failures of its kind. -/
inductive Act where
  | identity (step : Scope → Attempt Call Answer IdentityError (Server → Json))
  | outbox (step : Scope → Attempt Call Answer OutboxError (Server → Json))

/-- Show a value in a way that does not depend on the server. -/
def plain (j : Json) : Server → Json := fun _ => j

def idOf (j : Json) (name : String) : Uuid := ((j.member? name).bind Json.uuid?).getD Uuid.nil

/-- What a step does with the repositories. -/
def actOf (j : Json) : Option Act :=
  match textOr j "do" "" with
  | "users.create" => do
    let u ← (j.member? "user").bind User.ofJson?
    return .identity fun scope => do
      Sql.Users.create scope u
      return plain .null
  | "users.find_by_id" => some (.identity fun scope => do
      return plain (.ofOption userJson (← Sql.Users.findById scope (idOf j "id"))))
  | "users.find_by_email" => some (.identity fun scope => do
      return plain (.ofOption userJson (← Sql.Users.findByEmail scope (textOr j "email" ""))))
  | "users.find_by_phone" => some (.identity fun scope => do
      return plain (.ofOption userJson (← Sql.Users.findByPhone scope (textOr j "country_code" "")
        (textOr j "phone_number" ""))))
  | "tokens.insert" => do
    let t ← (j.member? "record").bind RefreshToken.ofJson?
    return .identity fun scope => do
      Sql.RefreshTokens.insert scope t
      return plain .null
  | "tokens.create" => some (.identity fun scope => do
      let t ← Sql.RefreshTokens.create scope (idOf j "user_id") (textOr j "token" "")
        (intOr j "expires_at" 0)
      return fun s => s.recordJson t)
  | "tokens.get_by_token" => some (.identity fun scope => do
      let t ← Sql.RefreshTokens.getByToken scope (textOr j "token" "")
      return fun s => s.recordJson t)
  | "tokens.revoke" => some (.identity fun scope => do
      return plain (.bool (← Sql.RefreshTokens.revoke scope (textOr j "token" ""))))
  | "tokens.revoke_all" => some (.identity fun scope => do
      return plain (.int (← Sql.RefreshTokens.revokeAllForUser scope (idOf j "user_id"))))
  | "outbox.insert" => do
    let e ← (j.member? "event").bind OutboxEvent.ofJson?
    return .outbox fun scope => do
      Sql.Outbox.insert scope e
      return plain .null
  | "outbox.find_by_id" => some (.outbox fun _ => do
      return plain (← Sql.Outbox.findById (idOf j "id")).toJson)
  | "outbox.find_pending" => some (.outbox fun _ => do
      let events ← Sql.Outbox.findPending (textOr j "name" "") (intOr j "limit" 0)
      return plain (.arr (events.map OutboxEvent.toJson)))
  | "outbox.mark_success" => some (.outbox fun _ => do
      return plain (.bool (← Sql.Outbox.markSuccess (idOf j "id"))))
  | "outbox.mark_failed" => some (.outbox fun _ => do
      return plain (.bool (← Sql.Outbox.markFailed (idOf j "id") (textOr j "error" ""))))
  | "outbox.record_failure" => some (.outbox fun _ => do
      let status ← Sql.Outbox.recordFailure (idOf j "id") (textOr j "error" "")
        (intOr j "max_attempts" 0)
      return plain (.str status.text))
  | "outbox.pending_stats" => some (.outbox fun _ => do
      let (pending, age) ← Sql.Outbox.pendingStats (textOr j "name" "")
      return plain (.arr [.int pending, .int age]))
  | _ => none

/-- Make calls one after the other, inside the transaction, up to the first that fails. -/
def body : List Json → Attempt Call Answer IdentityError (List (Server → Json))
  | [] => pure []
  | j :: rest => do
    let shown ← match actOf j with
      | some (.identity step) => step .transaction
      | some (.outbox step) => .mapError IdentityError.ofOutbox (step .transaction)
      | none => pure (plain .null)
    return shown :: (← body rest)

def isolationOf (name : String) : Isolation :=
  match name with
  | "read_uncommitted" => .readUncommitted
  | "repeatable_read" => .repeatableRead
  | "serializable" => .serializable
  | _ => .readCommitted

def optionsOf (j : Json) : TxOptions where
  isolation := isolationOf (textOr j "isolation" "")
  readOnly := ((given? j "read_only").bind Json.bool?).getD false

/-- The calls of a transaction, and the failure that its unit of work ends with, if any. -/
def unitOfWork (j : Json) : Attempt Call Answer IdentityError (Server → Json) := do
  let shown ← body (items j "body")
  match (given? j "err").bind IdentityError.ofWritten? with
  | some e => .fail e
  | none => return fun s => .arr (shown.map fun show1 => show1 s)

/-- A transaction with the acts of a step. -/
def transaction (j : Json) : Attempt Call Answer IdentityError (Server → Json) :=
  Sql.manager.withOptions IdentityError.ofStorage (optionsOf j) (.ok (unitOfWork j))

/-- The result of an attempt, shown. -/
def perform (report : ε → Json) (attempt : Attempt Call Answer ε (Server → Json)) (s : Server) :
    Except Panic (Json × Server) := do
  let (outcome, s) := Dialogue.run reply attempt s
  match ← outcome.result with
  | .ok shown => return (.obj [("ok", shown s)], s)
  | .error e => return (report e, s)

/-- Play one step. -/
def step (s : Server) (j : Json) : Except Panic (Json × Server) :=
  match textOr j "do" "" with
  | "close_pool" => .ok (.null, { s with closed := true })
  | "transaction" => perform IdentityError.report (transaction j) s
  | _ =>
    match actOf j with
    | some (.identity act) => perform IdentityError.report (act .ambient) s
    | some (.outbox act) => perform OutboxError.report (act .ambient) s
    | none => .ok (.null, s)

/-- What the steps show, each with its statements. -/
def steps : Server → List Json → Except Panic (List Json)
  | _, [] => .ok []
  | s, j :: rest => do
    let (result, s) ← (s.script j).step j
    return .obj [("result", result), ("statements", s.statementsJson)] :: (← steps s rest)

end Server

/-- What a script for the database shows, step by step. -/
def sql (now : Int) (script : Json) : Except Panic Json := do
  return .arr (← Server.steps { now } (items script "steps"))

/-- Open a pool on a scripted server, and count what it was asked. -/
def pool (now : Int) (script : Json) : Outcome StorageError Json :=
  let server := Server.script { now } script
  let (opened, s) :=
    Dialogue.run Server.reply (Sql.Pool.open? (textOr script "url" "postgres://server")) server
  opened.map fun _ => .obj [("max_connections", .int (intOr script "max_connections" 0)),
    ("statements", s.statementsJson)]

end SignIn.Rehearsal
