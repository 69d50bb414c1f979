import SignIn.Account.User
import SignIn.Json.Shortest
import SignIn.Outbox.Event
import SignIn.TaskQueue.Task

/-!
# Login notices

A login leaves a notice in the outbox: who logged in, and when. From the stored
notice the task for the sender of notifications is built. A notice that cannot be
read never will be, so reading says what is wrong with it.
-/

namespace SignIn

/-- The kinds of events that this service writes. -/
inductive EventName where
  | login
  deriving DecidableEq, Repr

namespace EventName

/-- The name as it is stored and sent. -/
def text : EventName → String
  | .login => "login"

/-- The name as it is shown in messages for developers. -/
def debugText : EventName → String
  | .login => "Login"

def ofJson? (j : Json) : Option EventName := do
  match ← j.caseName? with
  | "login" => some .login
  | _ => none

end EventName

/-- What is noted of a login, as the payload of an event. -/
structure LoginNotice where
  userId : String
  email : Option String
  username : String
  loginAt : Timestamp
  deriving DecidableEq, Repr

namespace LoginNotice

/-- The notice of a login of this user. A missing email is left out, not invented. -/
def ofUser (u : User) (loginAt : Timestamp) : LoginNotice := ⟨u.id.text, u.email, u.username, loginAt⟩

/-- The payload that is stored. A missing email is no member. -/
def toJson (n : LoginNotice) : Json :=
  .obj ([("userID", .str n.userId)] ++ (n.email.map fun email => ("email", Json.str email)).toList ++
    [("username", .str n.username), ("loginAt", .str (Rfc3339.text n.loginAt))])

/-! ## Reading, with reasons -/

/-- What stands in the place of something else. -/
def describe : Json → String
  | .null => "null"
  | .bool b => "boolean `" ++ (if b then "true" else "false") ++ "`"
  | .int n => "integer `" ++ Decimal.text n ++ "`"
  | .real token => "floating point `" ++ String.ofList token.chars ++ "`"
  | .str s => "string " ++ Quoted.text s
  | .arr _ => "sequence"
  | .obj _ => "map"

/-- The complaint about a value of another type. -/
def wrongType (j : Json) (expected : String) : String :=
  "invalid type: " ++ describe j ++ ", expected " ++ expected

def readText : Json → Except String String
  | .str s => .ok s
  | j => .error (wrongType j "a string")

def readOptionalText : Json → Except String (Option String)
  | .null => .ok none
  | j => (readText j).map some

/-- The time of a login, written as RFC 3339 has it. -/
def readTime : Json → Except String Timestamp
  | .str s => (Rfc3339.ofText s).mapError Rfc3339.Problem.message
  | j => .error (wrongType j "an RFC 3339 formatted date and time string")

/-- The members that have been read so far. -/
structure Draft where
  userId : Option String := none
  email : Option (Option String) := none
  username : Option String := none
  loginAt : Option Timestamp := none

namespace Draft

/-- Read one member. Members with other names are passed over. -/
def put (d : Draft) (m : String × Json) : Except String Draft :=
  match m.1 with
  | "userID" => (readText m.2).map fun s => { d with userId := some s }
  | "email" => (readOptionalText m.2).map fun s => { d with email := some s }
  | "username" => (readText m.2).map fun s => { d with username := some s }
  | "loginAt" => (readTime m.2).map fun t => { d with loginAt := some t }
  | _ => .ok d

/-- The value of a member that has to be there. -/
def require (found : Option α) (absent : String) : Except String α :=
  match found with
  | some a => .ok a
  | none => .error absent

/-- The notice, if every member that it needs is there. -/
def finish (d : Draft) (absent : String → String) : Except String LoginNotice := do
  let userId ← require d.userId (absent "userID")
  let username ← require d.username (absent "username")
  let loginAt ← require d.loginAt (absent "loginAt")
  return ⟨userId, d.email.join, username, loginAt⟩

end Draft

def memberNames : List String := ["userID", "email", "username", "loginAt"]

/-- The place of a member in a notice that is written as an array. -/
def absentAt (name : String) : String :=
  "invalid length " ++ Decimal.text (memberNames.idxOf name) ++
    ", expected struct LoginNotificationParams with 4 elements"

/-- Read a payload: an object with these members, or an array of their values in this order. -/
def read : Json → Except String LoginNotice
  | .obj members => do
    let d ← members.foldlM Draft.put {}
    d.finish fun name => "missing field `" ++ name ++ "`"
  | .arr items => do
    let d ← (memberNames.zip items).foldlM Draft.put {}
    let n ← d.finish absentAt
    if items.length ≤ memberNames.length then .ok n
    else .error ("invalid length " ++ Decimal.text items.length ++
      ", expected fewer elements in array")
  | j => .error (wrongType j "struct LoginNotificationParams")

/-- The notice in a payload, if it can be read. -/
def ofJson? (j : Json) : Option LoginNotice := (read j).toOption

end LoginNotice

/-- What every event says of itself. -/
structure EventHeader where
  eventId : String
  eventName : String
  publishedAt : Int
  deriving DecidableEq, Repr

namespace EventHeader

/-- The header of a task. -/
def toJson (h : EventHeader) : Json :=
  .obj [("eventID", .str h.eventId), ("eventName", .str h.eventName),
    ("publishedAt", .int h.publishedAt)]

def ofJson? (j : Json) : Option EventHeader := do
  let f ← j.fields? ["eventID", "eventName", "publishedAt"]
  return {
    eventId := ← f.required "eventID" Json.str?
    eventName := ← f.required "eventName" Json.str?
    publishedAt := ← f.required "publishedAt" Json.int64? }

end EventHeader

/-- The payload of the task that tells a user of a login. -/
structure LoginEvent where
  header : EventHeader
  userId : String
  email : String
  username : String
  loginAt : Timestamp
  deriving DecidableEq, Repr

namespace LoginEvent

/-- The body of a task. -/
def toJson (e : LoginEvent) : Json :=
  .obj [("eventMetadata", e.header.toJson), ("userId", .str e.userId), ("email", .str e.email),
    ("username", .str e.username), ("loginAt", .str (Rfc3339.text e.loginAt))]

/-- The event in the body of a task, if that has the members of one. -/
def ofJson? (j : Json) : Option LoginEvent := do
  let f ← j.fields? ["eventMetadata", "userId", "email", "username", "loginAt"]
  return {
    header := ← f.required "eventMetadata" EventHeader.ofJson?
    userId := ← f.required "userId" Json.str?
    email := ← f.required "email" Json.str?
    username := ← f.required "username" Json.str?
    loginAt := ← f.required "loginAt" Json.time? }

/-- The event of a stored notice, published at a point in time. -/
def ofNotice (e : OutboxEvent) (n : LoginNotice) (now : Int) : LoginEvent :=
  ⟨⟨e.id.text, EventName.login.text, now⟩, n.userId, n.email.getD "", n.username, n.loginAt⟩

end LoginEvent

namespace LoginNotice

/-- The notice that a row of the outbox holds. It has to name a user. -/
def ofEvent (e : OutboxEvent) : Except OutboxError LoginNotice :=
  match read e.payload with
  | .error reason => .error (.invalidPayload reason)
  | .ok n => if n.userId = "" then .error (.invalidPayload "userID is empty") else .ok n

/-- The task of a row, up to the time at which it is published. -/
def task (e : OutboxEvent) : Except OutboxError (Int → Task) := do
  let n ← ofEvent e
  return fun now => ⟨EventName.login.text, (LoginEvent.ofNotice e n now).toJson.normal⟩

end LoginNotice

end SignIn
