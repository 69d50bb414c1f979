import SignIn.Failure.Token
import SignIn.Json.Record
import SignIn.Settings.Environment

/-!
# Settings

The settings of the service come from the environment. Numbers of the section for
the database fall back to their defaults when they cannot be read; elsewhere a
value that cannot be read is an error. A check refuses some that would fail later.
-/

namespace SignIn

open Decimal (Range Ranged)

/-- A failure with the reasons behind it, outermost first. -/
structure SettingsError where
  message : String
  causes : List String := []
  deriving DecidableEq, Repr

/-- The error as it is shown, with its causes. -/
def SettingsError.report (e : SettingsError) : Json :=
  .obj [("error", .str "Config"), ("message", .str e.message), ("causes", .arr (e.causes.map .str))]

namespace Environment

variable (env : Environment)

/-- A number, or a default in place of whatever is no number. -/
def rangedOr (name : String) {r : Range} (default : Ranged r) : Ranged r :=
  match env.read? name with
  | none => default
  | some s => ((Ranged.read r s).toOption).getD default

/-- A value that has a default, but has to be readable if it is there. -/
def readable (name : String) (default : α) (read : String → Except String α) :
    Except SettingsError α :=
  match env.read? name with
  | none => .ok default
  | some s => (read s).mapError fun cause => ⟨"Invalid " ++ name, [cause]⟩

/-- A number of a range, or the default for an absent variable. -/
def ranged (name : String) {r : Range} (default : Ranged r) : Except SettingsError (Ranged r) :=
  env.readable name default fun s => (Ranged.read r s).mapError Decimal.Problem.message

/-- Only two words are read as truth values. -/
def readBool (s : String) : Except String Bool :=
  match s with
  | "true" => .ok true
  | "false" => .ok false
  | _ => .error "provided string was not `true` or `false`"

def bool (name : String) (default : Bool) : Except SettingsError Bool :=
  env.readable name default readBool

/-- A variable that has to be there. -/
def required (name : String) : Except SettingsError String :=
  (env.read name).mapError fun problem => ⟨name ++ " must be set", [problem.message]⟩

end Environment

/-- The pool of connections and its limits, with their defaults. -/
structure DatabaseSettings where
  serviceName : String := "unknown"
  url : String := ""
  maxConnections : Ranged .u32 := ⟨20, rfl⟩
  minConnections : Ranged .u32 := ⟨5, rfl⟩
  connectTimeoutSecs : Ranged .u64 := ⟨5, rfl⟩
  acquireTimeoutSecs : Ranged .u64 := ⟨10, rfl⟩
  idleTimeoutSecs : Ranged .u64 := ⟨600, rfl⟩
  maxLifetimeSecs : Ranged .u64 := ⟨1800, rfl⟩
  deriving DecidableEq, Repr

namespace DatabaseSettings

def absentUrl : String := "DATABASE_URL environment variable not set"

/-- Only the address has no default. -/
def load (env : Environment) (serviceName : String) : Except String DatabaseSettings :=
  match env.read? "DATABASE_URL" with
  | none => .error absentUrl
  | some url =>
    let d : DatabaseSettings := {}
    .ok {
      serviceName
      url
      maxConnections := env.rangedOr "DB_MAX_CONNECTIONS" d.maxConnections
      minConnections := env.rangedOr "DB_MIN_CONNECTIONS" d.minConnections
      connectTimeoutSecs := env.rangedOr "DB_CONNECT_TIMEOUT_SECS" d.connectTimeoutSecs
      acquireTimeoutSecs := env.rangedOr "DB_ACQUIRE_TIMEOUT_SECS" d.acquireTimeoutSecs
      idleTimeoutSecs := env.rangedOr "DB_IDLE_TIMEOUT_SECS" d.idleTimeoutSecs
      maxLifetimeSecs := env.rangedOr "DB_MAX_LIFETIME_SECS" d.maxLifetimeSecs }

/-- The numbers with their names, in order. -/
def numbers (d : DatabaseSettings) : List (String × Int) :=
  [("max_connections", d.maxConnections.value), ("min_connections", d.minConnections.value),
    ("connect_timeout_secs", d.connectTimeoutSecs.value),
    ("acquire_timeout_secs", d.acquireTimeoutSecs.value),
    ("idle_timeout_secs", d.idleTimeoutSecs.value),
    ("max_lifetime_secs", d.maxLifetimeSecs.value)]

/-- The settings for diagnostics, without the address that may hold a password. -/
def debugText (d : DatabaseSettings) : String :=
  "DbConfig \x7b service_name: " ++ Quoted.text d.serviceName ++ ", database_url: \"[REDACTED]\"" ++
    String.join (d.numbers.map fun n => ", " ++ n.1 ++ ": " ++ Decimal.text n.2) ++ " \x7d"

def toJson (d : DatabaseSettings) : Json :=
  .obj ([("service_name", .str d.serviceName), ("database_url", .str d.url)] ++
    d.numbers.map (fun n => (n.1, .int n.2)) ++ [("debug", .str d.debugText)])

end DatabaseSettings

/-- The task queue, and for how long it remembers a task. -/
structure RedisSettings where
  url : String
  keyspace : String
  queue : String
  dedupTtlSecs : Ranged .u64
  deriving DecidableEq, Repr

namespace RedisSettings

/-- The settings of the queue, where only the address has no default. -/
def load (env : Environment) : Except SettingsError RedisSettings := do
  let url ← env.required "REDIS_URL"
  let keyspace := env.textOr "TASK_QUEUE_NAMESPACE" "identity"
  let queue := env.textOr "TASK_QUEUE_NAME" "default"
  let dedupTtlSecs ← env.ranged "TASK_DEDUP_TTL_SECS" ⟨86400, rfl⟩
  return { url, keyspace, queue, dedupTtlSecs }

def toJson (r : RedisSettings) : Json :=
  .obj [("url", .str r.url), ("namespace", .str r.keyspace), ("queue", .str r.queue),
    ("dedup_ttl_secs", .int r.dedupTtlSecs.value)]

end RedisSettings

/-- The key that signs tokens, and the lifetimes of tokens in seconds. -/
structure TokenSettings where
  secretKey : String
  accessTtlSecs : Ranged .i64
  refreshTtlSecs : Ranged .i64
  deriving DecidableEq, Repr

namespace TokenSettings

/-- The settings of tokens, where only the key has no default. -/
def load (env : Environment) : Except SettingsError TokenSettings := do
  let secretKey ← env.required "JWT_SECRET_KEY"
  let accessTtlSecs ← env.ranged "ACCESS_TOKEN_TTL_SECS" ⟨900, rfl⟩
  let refreshTtlSecs ← env.ranged "REFRESH_TOKEN_TTL_SECS" ⟨604800, rfl⟩
  return { secretKey, accessTtlSecs, refreshTtlSecs }

/-- The settings for diagnostics, without the secret. -/
def debugText (t : TokenSettings) : String :=
  "JwtSettings \x7b secret_key: \"<redacted>\", access_token_ttl_secs: " ++
    Decimal.text t.accessTtlSecs.value ++ ", refresh_token_ttl_secs: " ++
    Decimal.text t.refreshTtlSecs.value ++ " \x7d"

def toJson (t : TokenSettings) : Json :=
  .obj [("secret_key", .str t.secretKey), ("access_token_ttl_secs", .int t.accessTtlSecs.value),
    ("refresh_token_ttl_secs", .int t.refreshTtlSecs.value), ("debug", .str t.debugText)]

end TokenSettings

/-- The settings of the worker that delivers login notices. -/
structure WorkerSettings where
  enabled : Bool
  intervalMs : Ranged .u64
  batchSize : Ranged .u32
  maxRetries : Ranged .u32
  maxAttempts : Ranged .i32
  shutdownGraceSecs : Ranged .u64
  deriving DecidableEq, Repr

namespace WorkerSettings

/-- The settings of the worker, all of which have defaults. -/
def load (env : Environment) : Except SettingsError WorkerSettings := do
  let enabled ← env.bool "LOGIN_WORKER_ENABLED" true
  let intervalMs ← env.ranged "LOGIN_WORKER_INTERVAL_MS" ⟨10000, rfl⟩
  let batchSize ← env.ranged "LOGIN_WORKER_BATCH_SIZE" ⟨1000, rfl⟩
  let maxRetries ← env.ranged "LOGIN_WORKER_MAX_RETRIES" ⟨5, rfl⟩
  let maxAttempts ← env.ranged "LOGIN_WORKER_MAX_ATTEMPTS" ⟨5, rfl⟩
  let shutdownGraceSecs ← env.ranged "LOGIN_WORKER_SHUTDOWN_GRACE_SECS" ⟨10, rfl⟩
  return { enabled, intervalMs, batchSize, maxRetries, maxAttempts, shutdownGraceSecs }

/-- The settings in a JSON value, with every number in its range. -/
def ofJson? (j : Json) : Option WorkerSettings := do
  let f ← j.fields? ["enabled", "interval_ms", "batch_size", "max_retries", "max_attempts",
    "shutdown_grace_secs"]
  let number (name : String) (r : Range) : Option (Ranged r) :=
    f.required name (Json.integer r) >>= Ranged.ofInt? r
  return {
    enabled := ← f.required "enabled" Json.bool?
    intervalMs := ← number "interval_ms" .u64
    batchSize := ← number "batch_size" .u32
    maxRetries := ← number "max_retries" .u32
    maxAttempts := ← number "max_attempts" .i32
    shutdownGraceSecs := ← number "shutdown_grace_secs" .u64 }

end WorkerSettings

/-- How log lines are written. -/
inductive LogFormat where
  | json
  | pretty
  deriving DecidableEq, Repr

namespace LogFormat

/-- The format is JSON, unless another one is named. -/
def load (env : Environment) : LogFormat :=
  match env.read? "LOG_FORMAT" with
  | some "pretty" | some "text" => .pretty
  | _ => .json

def name : LogFormat → String
  | .json => "Json"
  | .pretty => "Pretty"

end LogFormat

/-- Which log lines are written, and how. -/
structure LogSettings where
  filter : String
  format : LogFormat
  deriving DecidableEq, Repr

namespace LogSettings

def load (env : Environment) : LogSettings where
  filter := env.textOr "RUST_LOG" "identity_service=info,transactional_outbox=info,info"
  format := .load env

def toJson (l : LogSettings) : Json :=
  .obj [("filter", .str l.filter), ("format", .str l.format.name)]

end LogSettings

/-- All settings of the service. -/
structure Settings where
  database : DatabaseSettings
  redis : RedisSettings
  tokens : TokenSettings
  worker : WorkerSettings
  log : LogSettings
  deriving DecidableEq, Repr

namespace Settings

/-- The name that the service gives to its pool of connections. -/
def serviceName : String := "identity-service"

/-- Turn settings down for a reason. -/
def refuse (bad : Bool) (reason : String) : Except SettingsError Unit :=
  if bad then .error ⟨reason, []⟩ else .ok ()

/-- Refuse what would only fail later. -/
def check (tokens : TokenSettings) (worker : WorkerSettings) : Except SettingsError Unit := do
  refuse (tokens.secretKey.utf8ByteSize < minSecretBytes) "JWT_SECRET_KEY must be at least 32 bytes"
  refuse (tokens.accessTtlSecs.value ≤ 0 || tokens.refreshTtlSecs.value ≤ 0)
    "Token TTLs must be positive"
  refuse (worker.batchSize.value == 0) "LOGIN_WORKER_BATCH_SIZE must be greater than zero"
  refuse (worker.intervalMs.value == 0) "LOGIN_WORKER_INTERVAL_MS must be greater than zero"
  refuse (worker.maxAttempts.value ≤ 0) "LOGIN_WORKER_MAX_ATTEMPTS must be greater than zero"

/-- Turn down settings that the operations cannot work with. -/
def validate (s : Settings) : Except SettingsError Unit := check s.tokens s.worker

/-- The settings of an environment, checked. -/
def load (env : Environment) : Except SettingsError Settings := do
  let database ← (DatabaseSettings.load env serviceName).mapError fun cause =>
    ⟨"Invalid database configuration", [cause]⟩
  let redis ← RedisSettings.load env
  let tokens ← TokenSettings.load env
  let worker ← WorkerSettings.load env
  let s : Settings := { database, redis, tokens, worker, log := .load env }
  s.validate
  return s

end Settings

end SignIn
