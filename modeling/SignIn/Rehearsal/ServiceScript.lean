import SignIn.Rehearsal.Labels
import SignIn.Rehearsal.ServiceBench

/-!
# Rehearsing the service

A script has people register, log in, refresh and revoke, edits the tables behind
their backs, and polls the outbox. After every step the calls of the stores and
the tables are shown. Issued tokens are known by the name of the step that got
them. After a panic nothing is shown but the panic.
-/

namespace SignIn.Rehearsal

open Service (Issuer AuthResponse)

/-- A rehearsal in the middle of its script. -/
structure Play where
  issuer : Issuer
  scene : Scene
  labels : Labels := {}
  issued : List (String × String) := []

namespace Play

/-! ## What is shown -/

def createdLabel : Json := .str "<created_at>"

/-- A user as it is stored, in labels. -/
def stampsJson (now : Int) (u : User) : List (String × Json) :=
  [("created_at", if u.createdAt == now then nowLabel else .int u.createdAt),
    ("updated_at", if u.updatedAt == u.createdAt then createdLabel else .int u.updatedAt)]

/-- A user as it is shown, under a label. -/
def userJson (now : Int) (u : User) (more : List (String × Json)) : Labelled Json := do
  let label ← userLabel u.id
  let members := u.publicMembers.map fun m => if m.1 == "id" then ("id", Json.str label) else m
  return .obj (members ++ stampsJson now u ++ more)

def storedUserJson (now : Int) (u : User) : Labelled Json :=
  userJson now u [("password_hash", .str (Password.shape u.passwordHash))]

/-- Milliseconds in seconds, rounded up. -/
def secondsUp (ms : Int) : Int := -(-ms / 1000)

/-- The name of the issued token with a digest, or the digest. -/
def tokenName (issued : List (String × String)) (tokenHash : String) : String :=
  match issued.find? fun t => RefreshToken.hash t.2 == tokenHash with
  | some (name, _) => name
  | none => tokenHash

/-- The record of a token, shown by its name. -/
def tokenJson (issued : List (String × String)) (t : RefreshToken) : Labelled Json := do
  return .obj [("user", .str (← userLabel t.userId)), ("token", .str (tokenName issued t.tokenHash)),
    ("revoked", .bool t.isRevoked), ("ttl_secs", .int (secondsUp (t.expiresAt - t.createdAt))),
    ("fresh", .bool (t.createdAt == t.updatedAt))]

/-- Replace the identifier of a user in a member by its label. -/
def labelMember (name : String) : Json → Labelled Json
  | .obj members => do
    let members ← members.mapM fun (m : String × Json) => do
      match m.1 == name, m.2 with
      | true, .str text => return (m.1, Json.str (← userText text))
      | _, _ => return m
    return .obj members
  | j => pure j

def labelTime (j : Json) : Json := changeMember "loginAt" (fun _ => nowLabel) j

/-- An event, without the time that its payload tells. -/
def eventJson (e : OutboxEvent) : Labelled Json := do
  return .obj [("id", .str (← eventLabel e.id)), ("event_name", .str e.name),
    ("payload", ← labelMember "userID" (labelTime e.payload)), ("status", .str e.status.text),
    ("attempts", .int e.attempts), ("last_error", .ofOption .str e.lastError)]

/-- All that the store has. -/
def stateJson (now : Int) (issued : List (String × String)) (t : Service.Tables) : Labelled Json := do
  let users ← t.users.mapM (storedUserJson now)
  let tokens ← t.tokens.mapM (tokenJson issued)
  let events ← t.events.mapM eventJson
  return .obj [("users", .arr users), ("tokens", .arr tokens), ("outbox", .arr events)]

/-- The report of a poll, as it is logged. -/
def reportText (r : Outbox.BatchReport) : String :=
  let part (name : String) (n : Nat) : String := name ++ ": " ++ Decimal.text n
  "BatchReport \x7b " ++ String.intercalate ", " [part "fetched" r.fetched,
    part "delivered" r.delivered, part "retrying" r.retrying, part "failed" r.failed,
    part "errored" r.errored, part "skipped" r.skipped] ++ " \x7d"

/-- An accepted task, in labels. -/
def acceptedJson (now : Int) (t : Task × TaskOptions) : Labelled Json := do
  let id := t.2.taskId.getD ""
  let label ← match Uuid.ofText? id with
    | some uuid => eventLabel uuid
    | none => pure id
  let ownId : Json → Json
    | .str s => .str (if s == id then "<id>" else s)
    | j => j
  let payload := changeMember "eventMetadata" (changeMember "eventID" ownId) (labelTime t.1.payload)
  let payload ← labelMember "userId" payload
  return .obj [("id", .str label), ("task", taskJson now { t.1 with payload }),
    ("max_retry", .int t.2.maxRetry)]

def okJson (j : Json) : Json := .obj [("ok", j)]

/-! ## Steps -/

def now (p : Play) : Int := p.scene.now.millis

/-- Run an operation of the service. -/
def perform (p : Play) (operation : Service.Step α) : Except Panic (Except IdentityError α × Play) := do
  let (outcome, scene) := Dialogue.run Scene.reply operation p.scene
  return (← outcome.result, { p with scene })

/-- Write with the labels that are known so far. -/
def write (p : Play) (writing : Labelled Json) : Json × Play :=
  let (j, labels) := writing.run p.labels
  (j, { p with labels })

/-- A token given literally, or by the name under which it was issued. -/
def tokenOf (p : Play) (step : Json) : String :=
  match step.member? "token" with
  | some (.str token) => token
  | some j =>
    let name := textOr j "ref" ""
    ((p.issued.reverse.find? (·.1 == name)).map (·.2)).getD ""
  | none => ""

/-- The user that a step is about. -/
def userOf (p : Play) (step : Json) : Uuid := (p.labels.user? (textOr step "user" "")).getD Uuid.nil

/-- Enter or renew an issued token under a name. -/
def keep (p : Play) (name token : String) : Play := { p with issued := p.issued ++ [(name, token)] }

/-- Show the tokens of a response by name, and keep them for later steps. -/
def authResult (p : Play) (name : String) (result : Except IdentityError AuthResponse) : Json × Play :=
  match result with
  | .ok r =>
    let p := (p.keep (name ++ ".access") r.accessToken).keep (name ++ ".refresh") r.refreshToken
    p.write do
      return okJson (.obj [("user", ← userJson p.now r.user []),
        ("access_token", .str (name ++ ".access")), ("refresh_token", .str (name ++ ".refresh"))])
  | .error e => (e.report, p)

/-- Show a new access token by name, and keep it for later steps. -/
def refreshResult (p : Play) (name : String) (result : Except IdentityError String) : Json × Play :=
  match result with
  | .ok token =>
    (okJson (.obj [("access_token", .str (name ++ ".access"))]), p.keep (name ++ ".access") token)
  | .error e => (e.report, p)

/-- Show who a token was issued to. -/
def verifyResult (p : Play) (result : Except IdentityError Claims) : Json × Play :=
  match result with
  | .ok claims =>
    p.write do
      return okJson (.obj [("sub", .str (← userText claims.userId)),
        ("username", .str claims.username), ("jti_version", .int claims.id.version),
        ("ttl", .int (claims.expiresAt - claims.issuedAt))])
  | .error e => (e.report, p)

/-- Let the worker poll once. -/
def poll (p : Play) (step : Json) : Except Panic (Json × Play) := do
  let config := configOf step
  let (report, tasks, scene) ← p.scene.poll ⟨config, LoginNotice.task, false⟩
  let p := { p with scene }
  return p.write do
    return .obj [("report", .str (reportText report)), ("max_attempts", .int config.maxAttempts),
      ("tasks", .arr (← tasks.mapM (acceptedJson p.now)))]

/-- Change the shared tables behind the back of the service. -/
def edit (p : Play) (change : Service.Tables → Service.Tables) : Play :=
  { p with scene.store.shared := change p.scene.store.shared }

/-- Change a user behind the back of the service. -/
def editUser (step : Json) (u : User) : User :=
  { u with
    passwordHash := textOr step "password_hash" u.passwordHash
    username := textOr step "username" u.username }

def isTrue (step : Json) (name : String) : Bool :=
  match step.member? name with
  | some (.bool b) => b
  | _ => false

/-- So many seconds after a time, in a word of milliseconds. -/
def secondsAfter (time secs : Int) : Except Panic Int :=
  if Decimal.Range.i64.contains (secs * 1000) then
    if Decimal.Range.i64.contains (time + secs * 1000) then .ok (time + secs * 1000)
    else .error .addOverflow
  else .error .multiplyOverflow

/-- Change the record of a token behind the back of the service. -/
def editToken (step : Json) (t : RefreshToken) : Except Panic RefreshToken := do
  return { t with
    id := if isTrue step "nil_id" then Uuid.nil else t.id
    userId := if isTrue step "nil_user" then Uuid.nil else t.userId
    isRevoked := ((given? step "is_revoked").bind Json.bool?).getD t.isRevoked
    expiresAt := ← match given? step "ttl_secs" with
      | some (.int secs) => secondsAfter t.createdAt secs
      | _ => .ok t.expiresAt }

def editTokens (p : Play) (step : Json) : Except Panic Play := do
  let chosen : RefreshToken → Bool :=
    if (given? step "token").isSome then (·.isFor (p.tokenOf step)) else fun _ => true
  let tokens ← p.scene.store.shared.tokens.mapM fun record =>
    if chosen record then editToken step record else .ok record
  return p.edit fun t => { t with tokens }

/-- Put a user into the table, as of now. -/
def addUser (p : Play) (step : Json) : Play :=
  match step.member? "user" >>= User.ofJson? with
  | some u => p.edit fun t =>
      { t with users := t.users ++ [{ u with createdAt := p.now, updatedAt := p.now }] }
  | none => p

/-- Change the payload of an event that is pending. -/
def replacePayload (payload : Json) (e : OutboxEvent) : OutboxEvent :=
  if e.status = .pending then { e with payload } else e

/-- Take one step. -/
def step (p : Play) (step : Json) : Except Panic (Json × Play) := do
  let name := textOr step "as" ""
  match textOr step "do" "" with
  | "register" =>
    match step.member? "request" >>= RegisterRequest.ofJson? with
    | some r =>
      let (result, p) ← p.perform (p.issuer.register r)
      return p.authResult name result
    | none => return (.null, p)
  | "login" =>
    match step.member? "request" >>= LoginRequest.ofJson? with
    | some r =>
      let (result, p) ← p.perform (p.issuer.login r)
      return p.authResult name result
    | none => return (.null, p)
  | "refresh" =>
    let (result, p) ← p.perform (p.issuer.refresh (p.tokenOf step))
    return p.refreshResult name result
  | "revoke" =>
    match ← p.perform (Service.revoke (p.tokenOf step)) with
    | (.ok _, p) => return (okJson .null, p)
    | (.error e, p) => return (e.report, p)
  | "revoke_all" =>
    match ← p.perform (Service.revokeAll (p.userOf step)) with
    | (.ok count, p) => return (okJson (.int count), p)
    | (.error e, p) => return (e.report, p)
  | "verify" =>
    let (result, p) ← p.perform (p.issuer.verifyAccess (p.tokenOf step))
    return p.verifyResult result
  | "poll" => p.poll step
  | "fault" =>
    return (.null, { p with scene := p.scene.stage (textOr step "on" "") (items step "errors") })
  | "add_user" => return (.null, p.addUser step)
  | "delete_user" =>
    let id := p.userOf step
    return (.null, p.edit fun t => { t with users := t.users.filter (·.id != id) })
  | "edit_user" =>
    let id := p.userOf step
    return (.null, p.edit fun t =>
      { t with users := t.users.map fun u => if u.id == id then editUser step u else u })
  | "edit_tokens" => return (.null, ← p.editTokens step)
  | "outbox_payload" =>
    let payload := (step.member? "payload").getD .null
    return (.null, p.edit fun t => { t with events := t.events.map (replacePayload payload) })
  | _ => return (.null, p)

/-- What the steps show, each with the state that it leaves. -/
def steps : Play → List Json → Except Panic (List Json)
  | _, [] => .ok []
  | p, s :: rest => do
    let (result, p) ← Play.step { p with scene.calls := [] } s
    let (state, p) := p.write (stateJson p.now p.issued p.scene.store.shared)
    let shown := .obj [("result", result), ("calls", .arr (p.scene.calls.map .str)), ("state", state)]
    return shown :: (← steps p rest)

end Play

/-- What a script for the service shows, step by step. The service does not start with a short
secret. -/
def service (now : Timestamp) (script : Json) : Except Panic Json :=
  match SigningKey.ofSecret? (textOr script "secret" "integration-test-secret-0123456789abcdef") with
  | .error _ => .error SigningKey.tooShort
  | .ok key => do
    let issuer : Issuer := ⟨.ofKey key, intOr script "access_ttl" 900, intOr script "refresh_ttl" 604800⟩
    return .arr (← Play.steps { issuer, scene := { now } } (items script "steps"))

end SignIn.Rehearsal
