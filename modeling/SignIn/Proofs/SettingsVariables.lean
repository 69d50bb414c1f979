import SignIn.Proofs.DecimalText
import SignIn.Proofs.Results
import SignIn.Settings.Settings

/-!
# The variables of the settings

Every field of the settings has a variable of its own. A variable has a kind, which says
what its values are and how they are written, and something stands in for it when it is
absent or cannot be read. The settings of an environment are those whose fields its
variables give, if they pass the check.
-/
namespace SignIn

/-! ## Numbers -/

namespace Decimal

variable {r : Range}

theorem magnitude_of_more? {limit n v : Nat} {overflow : Problem} {cs : List Char}
    (h : more? n cs = some v) (hlimit : v ≤ limit) : magnitude limit overflow n cs = .ok v := by
  induction cs generalizing n with
  | nil =>
    obtain rfl : n = v := Option.some.inj h
    rfl
  | cons c cs ih =>
    rw [more?_cons] at h
    obtain ⟨d, hd, hrest⟩ := Option.bind_eq_some_iff.mp h
    have hfits : 10 * n + d ≤ limit := (le_of_more? hrest).trans hlimit
    rw [magnitude, hd]
    exact (if_pos hfits).trans (ih hrest)

/-- The digits of a number are neither nothing nor a sign. -/
theorem exists_ofNat_eq_cons (n : Nat) :
    ∃ c cs, ofNat n = c :: cs ∧ more? 0 (c :: cs) = some n ∧ c ≠ '+' ∧ c ≠ '-' := by
  obtain ⟨c, cs, hcs⟩ := List.exists_cons_of_ne_nil (ofNat_ne_nil n)
  have hmore : more? 0 (c :: cs) = some n := by
    rw [← hcs]
    exact number?_ofNat n
  have hdigit := toNat_of_value? (isSome_of_more? hmore c List.mem_cons_self)
  refine ⟨c, cs, hcs, hmore, ?_, ?_⟩
  · rintro rfl
    exact absurd hdigit (by decide)
  · rintro rfl
    exact absurd hdigit (by decide)

/-- A number of a range is read from its text. -/
theorem Range.read_text {n : Int} (h : r.contains n = true) : r.read (text n) = .ok n := by
  obtain ⟨hleast, hgreatest⟩ := Range.contains_iff.mp h
  unfold Range.read text
  rw [String.toList_ofList]
  cases n with
  | ofNat n =>
    obtain ⟨c, cs, hcs, hmore, hplus, hminus⟩ := exists_ofNat_eq_cons n
    have hlimit : n ≤ r.greatest.toNat := Int.toNat_le_toNat hgreatest
    simp only [ofInt, hcs]
    split
    · next heq => cases heq
    · next heq => exact absurd (List.cons.inj heq).1 hplus
    · next heq => exact absurd (List.cons.inj heq).1 hminus
    · rw [magnitude_of_more? hmore hlimit]
      rfl
  | negSucc n =>
    obtain ⟨c, cs, hcs, hmore, -, -⟩ := exists_ofNat_eq_cons (n + 1)
    have hnegative : r.least < 0 := by omega
    have hlimit : n + 1 ≤ (-r.least).toNat := by omega
    simp only [ofInt, hcs]
    rw [if_pos hnegative, magnitude_of_more? hmore hlimit]
    rfl

theorem Ranged.read_text (n : Ranged r) : Ranged.read r (text n.value) = .ok n := by
  unfold Ranged.read
  rw [Range.read_text n.inRange]
  exact dif_pos n.inRange

end Decimal

open Decimal (Range Ranged)

/-! ## Kinds -/

/-- What a variable speaks of. -/
inductive Kind where
  | text
  | flag
  | number (range : Range)
  | format

namespace Kind

abbrev Value : Kind → Type
  | .text => String
  | .flag => Bool
  | .number range => Ranged range
  | .format => LogFormat

/-- The text of a value. Numbers are in plain decimal digits. -/
def write : (k : Kind) → k.Value → String
  | .text, s => s
  | .flag, true => "true"
  | .flag, false => "false"
  | .number _, n => Decimal.text n.value
  | .format, .json => "json"
  | .format, .pretty => "pretty"

/-- The value that a text gives. Every text that asks for nothing else gives the format for
machines. -/
def read? : (k : Kind) → String → Option k.Value
  | .text, s => some s
  | .flag, s => (Environment.readBool s).toOption
  | .number range, s => (Ranged.read range s).toOption
  | .format, s => some (if s = "pretty" ∨ s = "text" then .pretty else .json)

theorem read?_write (k : Kind) (value : k.Value) : k.read? (k.write value) = some value := by
  cases k with
  | text => rfl
  | flag => cases value <;> rfl
  | number range => exact congrArg Except.toOption (Ranged.read_text value)
  | format =>
    cases value with
    | json => exact congrArg some (if_neg (by decide))
    | pretty => exact congrArg some (if_pos (by decide))

end Kind

/-! ## What stands in -/

/-- What stands in for a variable that is absent or no text: nothing, or a default. A fallback
stands in for a text that cannot be read as well. -/
inductive StandIn (α : Type) where
  | required
  | default (value : α)
  | fallback (value : α)

namespace StandIn

variable {α : Type}

/-- The value of what is found in an environment. -/
def settle (standIn : StandIn α) (read? : String → Option α)
    (found : Except VariableProblem String) : Option α :=
  match found, standIn with
  | .ok s, .fallback value => some ((read? s).getD value)
  | .ok s, _ => read? s
  | .error _, .required => none
  | .error _, .default value | .error _, .fallback value => some value

theorem settle_of_read? {read? : String → Option α} {s : String} {value : α} (standIn : StandIn α)
    (h : read? s = some value) : standIn.settle read? (.ok s) = some value := by
  cases standIn with
  | required => exact h
  | default other => exact h
  | fallback other => exact congrArg some (congrArg (Option.getD · other) h)

end StandIn

/-! ### The readers -/

namespace Environment

variable {env : Environment} {name : String}

theorem read?_eq_some_iff {value : String} : env.read? name = some value ↔
    StandIn.settle .required Kind.text.read? (env.read name) = some value := by
  unfold read?
  cases env.read name <;> rfl

theorem required_eq_ok_iff {value : String} : env.required name = .ok value ↔
    StandIn.settle .required Kind.text.read? (env.read name) = some value := by
  unfold required
  cases env.read name with
  | ok s =>
    exact ⟨fun h => congrArg some (Except.ok.inj h), fun h => congrArg _ (Option.some.inj h)⟩
  | error problem => exact ⟨nofun, nofun⟩

theorem textOr_eq_iff {default value : String} : env.textOr name default = value ↔
    StandIn.settle (.default default) Kind.text.read? (env.read name) = some value := by
  unfold textOr read?
  cases env.read name <;> exact ⟨congrArg some, Option.some.inj⟩

theorem rangedOr_eq_iff {r : Range} {default value : Ranged r} :
    env.rangedOr name default = value ↔
      StandIn.settle (.fallback default) (Kind.number r).read? (env.read name) = some value := by
  unfold rangedOr read?
  cases env.read name <;> exact ⟨congrArg some, Option.some.inj⟩

/-- A reader that reports what it cannot read gives what it would give otherwise. -/
theorem readable_eq_ok_iff {α : Type} {default value : α} {read : String → Except String α} :
    env.readable name default read = .ok value ↔
      StandIn.settle (.default default) (fun s => (read s).toOption) (env.read name) = some value := by
  unfold readable read?
  cases env.read name with
  | error problem =>
    exact ⟨fun h => congrArg some (Except.ok.inj h), fun h => congrArg _ (Option.some.inj h)⟩
  | ok s =>
    change (read s).mapError _ = .ok value ↔ (read s).toOption = some value
    cases read s with
    | ok a =>
      exact ⟨fun h => congrArg some (Except.ok.inj h), fun h => congrArg _ (Option.some.inj h)⟩
    | error cause => exact ⟨nofun, nofun⟩

theorem bool_eq_ok_iff {default value : Bool} : env.bool name default = .ok value ↔
    StandIn.settle (.default default) Kind.flag.read? (env.read name) = some value :=
  readable_eq_ok_iff

theorem ranged_eq_ok_iff {r : Range} {default value : Ranged r} :
    env.ranged name default = .ok value ↔
      StandIn.settle (.default default) (Kind.number r).read? (env.read name) = some value := by
  have hread : (fun s => ((Ranged.read r s).mapError Decimal.Problem.message).toOption) =
      (Kind.number r).read? := by
    funext s
    change _ = (Ranged.read r s).toOption
    cases Ranged.read r s <;> rfl
  rw [← hread]
  exact readable_eq_ok_iff

end Environment

theorem LogFormat.load_eq_iff {env : Environment} {format : LogFormat} : load env = format ↔
    StandIn.settle (.default .json) Kind.format.read? (env.read "LOG_FORMAT") = some format := by
  unfold load Environment.read?
  cases env.read "LOG_FORMAT" with
  | error problem => exact ⟨congrArg some, Option.some.inj⟩
  | ok s =>
    change _ ↔ some (if s = "pretty" ∨ s = "text" then LogFormat.pretty else .json) = some format
    rw [Option.some.injEq]
    simp only [Except.toOption]
    split
    · next heq =>
      obtain rfl := Option.some.inj heq
      rfl
    · next heq =>
      obtain rfl := Option.some.inj heq
      rfl
    · next hpretty htext =>
      have hother : ¬(s = "pretty" ∨ s = "text") := by
        rintro (rfl | rfl)
        · exact hpretty rfl
        · exact htext rfl
      rw [if_neg hother]

/-! ## The variables -/

inductive Variable where
  | databaseUrl | maxConnections | minConnections
  | connectTimeout | acquireTimeout | idleTimeout | maxLifetime
  | redisUrl | keyspace | queue | dedupTtl
  | secretKey | accessTtl | refreshTtl
  | workerEnabled | workerInterval | batchSize | maxRetries | maxAttempts | shutdownGrace
  | logFilter | logFormat
  deriving DecidableEq, Repr

namespace Variable

def name : Variable → String
  | databaseUrl => "DATABASE_URL"
  | maxConnections => "DB_MAX_CONNECTIONS"
  | minConnections => "DB_MIN_CONNECTIONS"
  | connectTimeout => "DB_CONNECT_TIMEOUT_SECS"
  | acquireTimeout => "DB_ACQUIRE_TIMEOUT_SECS"
  | idleTimeout => "DB_IDLE_TIMEOUT_SECS"
  | maxLifetime => "DB_MAX_LIFETIME_SECS"
  | redisUrl => "REDIS_URL"
  | keyspace => "TASK_QUEUE_NAMESPACE"
  | queue => "TASK_QUEUE_NAME"
  | dedupTtl => "TASK_DEDUP_TTL_SECS"
  | secretKey => "JWT_SECRET_KEY"
  | accessTtl => "ACCESS_TOKEN_TTL_SECS"
  | refreshTtl => "REFRESH_TOKEN_TTL_SECS"
  | workerEnabled => "LOGIN_WORKER_ENABLED"
  | workerInterval => "LOGIN_WORKER_INTERVAL_MS"
  | batchSize => "LOGIN_WORKER_BATCH_SIZE"
  | maxRetries => "LOGIN_WORKER_MAX_RETRIES"
  | maxAttempts => "LOGIN_WORKER_MAX_ATTEMPTS"
  | shutdownGrace => "LOGIN_WORKER_SHUTDOWN_GRACE_SECS"
  | logFilter => "RUST_LOG"
  | logFormat => "LOG_FORMAT"

abbrev kind : Variable → Kind
  | databaseUrl | redisUrl | keyspace | queue | secretKey | logFilter => .text
  | maxConnections | minConnections | batchSize | maxRetries => .number .u32
  | connectTimeout | acquireTimeout | idleTimeout | maxLifetime | dedupTtl | workerInterval
  | shutdownGrace => .number .u64
  | accessTtl | refreshTtl => .number .i64
  | maxAttempts => .number .i32
  | workerEnabled => .flag
  | logFormat => .format

abbrev Value (x : Variable) : Type := x.kind.Value

def write (x : Variable) (value : x.Value) : String := x.kind.write value

/-- The numbers for the database fall back to their defaults, all other texts have to be
readable. -/
def standIn : (x : Variable) → StandIn x.Value
  | databaseUrl | redisUrl | secretKey => .required
  | maxConnections => .fallback ⟨20, .refl true⟩
  | minConnections => .fallback ⟨5, .refl true⟩
  | connectTimeout => .fallback ⟨5, .refl true⟩
  | acquireTimeout => .fallback ⟨10, .refl true⟩
  | idleTimeout => .fallback ⟨600, .refl true⟩
  | maxLifetime => .fallback ⟨1800, .refl true⟩
  | keyspace => .default "identity"
  | queue => .default "default"
  | dedupTtl => .default ⟨86400, .refl true⟩
  | accessTtl => .default ⟨900, .refl true⟩
  | refreshTtl => .default ⟨604800, .refl true⟩
  | workerEnabled => .default true
  | workerInterval => .default ⟨10000, .refl true⟩
  | batchSize => .default ⟨1000, .refl true⟩
  | maxRetries => .default ⟨5, .refl true⟩
  | maxAttempts => .default ⟨5, .refl true⟩
  | shutdownGrace => .default ⟨10, .refl true⟩
  | logFilter => .default "identity_service=info,transactional_outbox=info,info"
  | logFormat => .default .json

/-- What an environment gives a variable. Of the environment only the variable itself matters. -/
def value? (x : Variable) (env : Environment) : Option x.Value :=
  x.standIn.settle x.kind.read? (env.read x.name)

theorem value?_of_write {x : Variable} {env : Environment} {value : x.Value}
    (h : env.read x.name = .ok (x.write value)) : x.value? env = some value := by
  unfold value?
  rw [h]
  exact x.standIn.settle_of_read? (x.kind.read?_write value)

theorem value?_congr {x : Variable} {env env' : Environment}
    (h : env'.read x.name = env.read x.name) : x.value? env' = x.value? env := by
  unfold value?
  rw [h]

theorem forall_iff {P : Variable → Prop} : (∀ x, P x) ↔
    (P databaseUrl ∧ P maxConnections ∧ P minConnections ∧ P connectTimeout ∧ P acquireTimeout ∧
      P idleTimeout ∧ P maxLifetime) ∧ (P redisUrl ∧ P keyspace ∧ P queue ∧ P dedupTtl) ∧
    (P secretKey ∧ P accessTtl ∧ P refreshTtl) ∧
    (P workerEnabled ∧ P workerInterval ∧ P batchSize ∧ P maxRetries ∧ P maxAttempts ∧
      P shutdownGrace) ∧ P logFilter ∧ P logFormat := by
  constructor
  · intro h
    simp only [h, and_self]
  · rintro ⟨⟨_, _, _, _, _, _, _⟩, ⟨_, _, _, _⟩, ⟨_, _, _⟩, ⟨_, _, _, _, _, _⟩, _, _⟩ x
    cases x <;> assumption

end Variable

namespace Settings

/-- What the settings say in the place of a variable. -/
def field (s : Settings) : (x : Variable) → x.Value
  | .databaseUrl => s.database.url
  | .maxConnections => s.database.maxConnections
  | .minConnections => s.database.minConnections
  | .connectTimeout => s.database.connectTimeoutSecs
  | .acquireTimeout => s.database.acquireTimeoutSecs
  | .idleTimeout => s.database.idleTimeoutSecs
  | .maxLifetime => s.database.maxLifetimeSecs
  | .redisUrl => s.redis.url
  | .keyspace => s.redis.keyspace
  | .queue => s.redis.queue
  | .dedupTtl => s.redis.dedupTtlSecs
  | .secretKey => s.tokens.secretKey
  | .accessTtl => s.tokens.accessTtlSecs
  | .refreshTtl => s.tokens.refreshTtlSecs
  | .workerEnabled => s.worker.enabled
  | .workerInterval => s.worker.intervalMs
  | .batchSize => s.worker.batchSize
  | .maxRetries => s.worker.maxRetries
  | .maxAttempts => s.worker.maxAttempts
  | .shutdownGrace => s.worker.shutdownGraceSecs
  | .logFilter => s.log.filter
  | .logFormat => s.log.format

/-- The settings of this service with these fields. -/
def ofFields (f : (x : Variable) → x.Value) : Settings where
  database := ⟨serviceName, f .databaseUrl, f .maxConnections, f .minConnections, f .connectTimeout,
    f .acquireTimeout, f .idleTimeout, f .maxLifetime⟩
  redis := ⟨f .redisUrl, f .keyspace, f .queue, f .dedupTtl⟩
  tokens := ⟨f .secretKey, f .accessTtl, f .refreshTtl⟩
  worker := ⟨f .workerEnabled, f .workerInterval, f .batchSize, f .maxRetries, f .maxAttempts,
    f .shutdownGrace⟩
  log := ⟨f .logFilter, f .logFormat⟩

@[simp] theorem field_ofFields (f : (x : Variable) → x.Value) : (ofFields f).field = f := by
  funext x
  cases x <;> rfl

/-- The settings have no fields but these and the name of the service. -/
theorem ofFields_field {s : Settings} (h : s.database.serviceName = serviceName) :
    ofFields s.field = s := by
  obtain ⟨⟨name, _, _, _, _, _, _, _⟩, _, _, _, _⟩ := s
  obtain rfl : name = serviceName := h
  rfl

end Settings

/-! ## The check -/

namespace Settings

theorem refuse_eq_ok_iff {bad : Bool} {reason : String} :
    refuse bad reason = .ok () ↔ bad = false := by
  cases bad with
  | true => exact ⟨nofun, nofun⟩
  | false => exact ⟨fun _ => rfl, fun _ => rfl⟩

theorem refuse_bind_eq_ok_iff {α : Type} {bad : Bool} {reason : String}
    {f : Unit → Except SettingsError α} {a : α} :
    (refuse bad reason >>= f) = .ok a ↔ bad = false ∧ f () = .ok a := by
  rw [bind_eq_ok_iff]
  exact ⟨fun ⟨_, hbad, h⟩ => ⟨refuse_eq_ok_iff.mp hbad, h⟩,
    fun ⟨hbad, h⟩ => ⟨(), refuse_eq_ok_iff.mpr hbad, h⟩⟩

/-- The check looks at the secret and at the numbers that must not be zero, and at nothing else. -/
theorem validate_eq_ok_iff {s : Settings} : s.validate = .ok () ↔
    minSecretBytes ≤ s.tokens.secretKey.utf8ByteSize ∧
      (0 < s.tokens.accessTtlSecs.value ∧ 0 < s.tokens.refreshTtlSecs.value) ∧
      s.worker.batchSize.value ≠ 0 ∧ s.worker.intervalMs.value ≠ 0 ∧
      0 < s.worker.maxAttempts.value := by
  unfold validate check
  simp only [refuse_bind_eq_ok_iff, refuse_eq_ok_iff, Bool.or_eq_false_iff, decide_eq_false_iff_not,
    beq_eq_false_iff_ne, not_lt, not_le]

/-- What the check says about tokens. -/
theorem tokens_of_validate {s : Settings} (h : s.validate = .ok ()) :
    minSecretBytes ≤ (Bytes.ofString s.tokens.secretKey).length ∧
      0 < s.tokens.accessTtlSecs.value ∧ 0 < s.tokens.refreshTtlSecs.value := by
  obtain ⟨hsecret, hlifetimes, -⟩ := validate_eq_ok_iff.mp h
  rw [Bytes.length_ofString]
  exact ⟨hsecret, hlifetimes⟩

end Settings

/-! ## Loading -/

variable {env : Environment}

open Environment

theorem DatabaseSettings.load_eq_ok_iff {name : String} {d : DatabaseSettings} :
    load env name = .ok d ↔ d.serviceName = name ∧
      Variable.databaseUrl.value? env = some d.url ∧
      Variable.maxConnections.value? env = some d.maxConnections ∧
      Variable.minConnections.value? env = some d.minConnections ∧
      Variable.connectTimeout.value? env = some d.connectTimeoutSecs ∧
      Variable.acquireTimeout.value? env = some d.acquireTimeoutSecs ∧
      Variable.idleTimeout.value? env = some d.idleTimeoutSecs ∧
      Variable.maxLifetime.value? env = some d.maxLifetimeSecs := by
  have hurl : ∀ url, env.read? "DATABASE_URL" = some url ↔
      Variable.databaseUrl.value? env = some url := fun _ => read?_eq_some_iff
  unfold load
  cases hfound : env.read? "DATABASE_URL" with
  | none =>
    refine ⟨nofun, fun h => ?_⟩
    rw [(hurl _).mpr h.2.1] at hfound
    cases hfound
  | some url =>
    rw [hfound] at hurl
    obtain ⟨serviceName, _, _, _, _, _, _, _⟩ := d
    rw [Except.ok.injEq, DatabaseSettings.mk.injEq, ← hurl, Option.some.injEq]
    exact and_congr eq_comm (and_congr_right' (and_congr rangedOr_eq_iff (and_congr rangedOr_eq_iff
      (and_congr rangedOr_eq_iff (and_congr rangedOr_eq_iff (and_congr rangedOr_eq_iff
        rangedOr_eq_iff))))))

theorem RedisSettings.load_eq_ok_iff {r : RedisSettings} : load env = .ok r ↔
    Variable.redisUrl.value? env = some r.url ∧ Variable.keyspace.value? env = some r.keyspace ∧
      Variable.queue.value? env = some r.queue ∧
      Variable.dedupTtl.value? env = some r.dedupTtlSecs := by
  constructor
  · intro h
    obtain ⟨url, hurl, h⟩ := bind_eq_ok_iff.mp h
    obtain ⟨ttl, httl, h⟩ := bind_eq_ok_iff.mp h
    obtain rfl := Except.ok.inj h
    exact ⟨required_eq_ok_iff.mp hurl, textOr_eq_iff.mp rfl, textOr_eq_iff.mp rfl,
      ranged_eq_ok_iff.mp httl⟩
  · rintro ⟨hurl, hkeyspace, hqueue, httl⟩
    have hkeyspace : env.textOr "TASK_QUEUE_NAMESPACE" "identity" = r.keyspace :=
      textOr_eq_iff.mpr hkeyspace
    have hqueue : env.textOr "TASK_QUEUE_NAME" "default" = r.queue := textOr_eq_iff.mpr hqueue
    refine bind_eq_ok_iff.mpr ⟨_, required_eq_ok_iff.mpr hurl,
      bind_eq_ok_iff.mpr ⟨_, ranged_eq_ok_iff.mpr httl, congrArg Except.ok ?_⟩⟩
    rw [hkeyspace, hqueue]

theorem TokenSettings.load_eq_ok_iff {t : TokenSettings} : load env = .ok t ↔
    Variable.secretKey.value? env = some t.secretKey ∧
      Variable.accessTtl.value? env = some t.accessTtlSecs ∧
      Variable.refreshTtl.value? env = some t.refreshTtlSecs := by
  constructor
  · intro h
    obtain ⟨secret, hsecret, h⟩ := bind_eq_ok_iff.mp h
    obtain ⟨access, haccess, h⟩ := bind_eq_ok_iff.mp h
    obtain ⟨refresh, hrefresh, h⟩ := bind_eq_ok_iff.mp h
    obtain rfl := Except.ok.inj h
    exact ⟨required_eq_ok_iff.mp hsecret, ranged_eq_ok_iff.mp haccess, ranged_eq_ok_iff.mp hrefresh⟩
  · rintro ⟨hsecret, haccess, hrefresh⟩
    exact bind_eq_ok_iff.mpr ⟨_, required_eq_ok_iff.mpr hsecret,
      bind_eq_ok_iff.mpr ⟨_, ranged_eq_ok_iff.mpr haccess,
        bind_eq_ok_iff.mpr ⟨_, ranged_eq_ok_iff.mpr hrefresh, rfl⟩⟩⟩

theorem WorkerSettings.load_eq_ok_iff {w : WorkerSettings} : load env = .ok w ↔
    Variable.workerEnabled.value? env = some w.enabled ∧
      Variable.workerInterval.value? env = some w.intervalMs ∧
      Variable.batchSize.value? env = some w.batchSize ∧
      Variable.maxRetries.value? env = some w.maxRetries ∧
      Variable.maxAttempts.value? env = some w.maxAttempts ∧
      Variable.shutdownGrace.value? env = some w.shutdownGraceSecs := by
  constructor
  · intro h
    obtain ⟨enabled, henabled, h⟩ := bind_eq_ok_iff.mp h
    obtain ⟨interval, hinterval, h⟩ := bind_eq_ok_iff.mp h
    obtain ⟨size, hsize, h⟩ := bind_eq_ok_iff.mp h
    obtain ⟨retries, hretries, h⟩ := bind_eq_ok_iff.mp h
    obtain ⟨attempts, hattempts, h⟩ := bind_eq_ok_iff.mp h
    obtain ⟨grace, hgrace, h⟩ := bind_eq_ok_iff.mp h
    obtain rfl := Except.ok.inj h
    exact ⟨bool_eq_ok_iff.mp henabled, ranged_eq_ok_iff.mp hinterval, ranged_eq_ok_iff.mp hsize,
      ranged_eq_ok_iff.mp hretries, ranged_eq_ok_iff.mp hattempts, ranged_eq_ok_iff.mp hgrace⟩
  · rintro ⟨henabled, hinterval, hsize, hretries, hattempts, hgrace⟩
    exact bind_eq_ok_iff.mpr ⟨_, bool_eq_ok_iff.mpr henabled,
      bind_eq_ok_iff.mpr ⟨_, ranged_eq_ok_iff.mpr hinterval,
        bind_eq_ok_iff.mpr ⟨_, ranged_eq_ok_iff.mpr hsize,
          bind_eq_ok_iff.mpr ⟨_, ranged_eq_ok_iff.mpr hretries,
            bind_eq_ok_iff.mpr ⟨_, ranged_eq_ok_iff.mpr hattempts,
              bind_eq_ok_iff.mpr ⟨_, ranged_eq_ok_iff.mpr hgrace, rfl⟩⟩⟩⟩⟩⟩

theorem LogSettings.load_eq_iff {l : LogSettings} : load env = l ↔
    Variable.logFilter.value? env = some l.filter ∧
      Variable.logFormat.value? env = some l.format := by
  obtain ⟨filter, format⟩ := l
  unfold load
  rw [LogSettings.mk.injEq]
  exact and_congr textOr_eq_iff LogFormat.load_eq_iff

/-- The settings of an environment are those of this service whose fields its variables give, if they
pass the check. -/
theorem Settings.load_eq_ok_iff {s : Settings} : load env = .ok s ↔
    s.database.serviceName = serviceName ∧ (∀ x : Variable, x.value? env = some (s.field x)) ∧
      s.validate = .ok () := by
  rw [Variable.forall_iff]
  constructor
  · intro h
    obtain ⟨database, hdatabase, h⟩ := bind_eq_ok_iff.mp h
    obtain ⟨redis, hredis, h⟩ := bind_eq_ok_iff.mp h
    obtain ⟨tokens, htokens, h⟩ := bind_eq_ok_iff.mp h
    obtain ⟨worker, hworker, h⟩ := bind_eq_ok_iff.mp h
    obtain ⟨⟨⟩, hvalid, h⟩ := bind_eq_ok_iff.mp h
    obtain rfl := Except.ok.inj h
    obtain ⟨hname, hfields⟩ := DatabaseSettings.load_eq_ok_iff.mp (mapError_eq_ok_iff.mp hdatabase)
    exact ⟨hname, ⟨hfields, RedisSettings.load_eq_ok_iff.mp hredis,
      TokenSettings.load_eq_ok_iff.mp htokens, WorkerSettings.load_eq_ok_iff.mp hworker,
      LogSettings.load_eq_iff.mp rfl⟩, hvalid⟩
  · rintro ⟨hname, ⟨hdatabase, hredis, htokens, hworker, hlog⟩, hvalid⟩
    have hlog : LogSettings.load env = s.log := LogSettings.load_eq_iff.mpr hlog
    refine bind_eq_ok_iff.mpr
      ⟨_, mapError_eq_ok_iff.mpr (DatabaseSettings.load_eq_ok_iff.mpr ⟨hname, hdatabase⟩),
        bind_eq_ok_iff.mpr ⟨_, RedisSettings.load_eq_ok_iff.mpr hredis,
          bind_eq_ok_iff.mpr ⟨_, TokenSettings.load_eq_ok_iff.mpr htokens,
            bind_eq_ok_iff.mpr ⟨_, WorkerSettings.load_eq_ok_iff.mpr hworker, ?_⟩⟩⟩⟩
    rw [hlog]
    exact bind_eq_ok_iff.mpr ⟨(), hvalid, rfl⟩

end SignIn
