import Mathlib.Data.List.Nodup
import Mathlib.Logic.Function.Basic
import SignIn.LoginWorker
import SignIn.Proofs.SettingsVariables
import SignIn.Token.Signed

/-!
# Settings there and back

Settings that pass the check are the settings of every environment that holds their fields. A
variable with another value changes its own field and no other, and an environment from which
settings can be loaded gives a secret to sign with and a worker that makes progress.
-/
namespace SignIn

namespace Variable

def all : List Variable :=
  [databaseUrl, maxConnections, minConnections, connectTimeout, acquireTimeout, idleTimeout,
    maxLifetime, redisUrl, keyspace, queue, dedupTtl, secretKey, accessTtl, refreshTtl,
    workerEnabled, workerInterval, batchSize, maxRetries, maxAttempts, shutdownGrace, logFilter,
    logFormat]

theorem mem_all (x : Variable) : x ∈ all := by
  cases x <;> decide

/-- No name speaks of two variables. -/
theorem name_injective : Function.Injective name := by
  have hnodup : (all.map name).Nodup := by decide +kernel
  exact fun x y h => List.inj_on_of_nodup_map hnodup (mem_all x) (mem_all y) h

theorem find?_all (x : Variable) : all.find? (fun y => y.name == x.name) = some x := by
  have hsome : (all.find? fun y => y.name == x.name).isSome :=
    List.find?_isSome.mpr ⟨x, mem_all x, beq_self_eq_true x.name⟩
  obtain ⟨y, hy⟩ := Option.isSome_iff_exists.mp hsome
  have hname : (y.name == x.name) = true := by
    simpa using List.find?_some hy
  rw [hy, name_injective (eq_of_beq hname)]

end Variable

namespace Settings

variable {env env' : Environment} {s s' : Settings} {x y : Variable}

/-! ## Environments that hold settings -/

/-- Each variable is there, with its field as a text. -/
def HeldBy (s : Settings) (env : Environment) : Prop :=
  ∀ x : Variable, env.read x.name = .ok (x.write (s.field x))

/-- The environment that holds the settings and nothing else. -/
def environment (s : Settings) : Environment :=
  ⟨Variable.all.map fun x => (x.name, Bytes.ofString (x.write (s.field x)))⟩

theorem heldBy_environment (s : Settings) : s.HeldBy s.environment := by
  intro x
  have hfound : s.environment.entries.find? (·.1 == x.name) =
      some (x.name, Bytes.ofString (x.write (s.field x))) := by
    unfold environment
    rw [List.find?_map]
    exact congrArg (Option.map _) (Variable.find?_all x)
  unfold Environment.read
  rw [hfound]
  simp only [Bytes.toString?_ofString]

theorem load_of_heldBy (hname : s.database.serviceName = serviceName) (hvalid : s.validate = .ok ())
    (hheld : s.HeldBy env) : load env = .ok s :=
  load_eq_ok_iff.mpr ⟨hname, fun x => Variable.value?_of_write (hheld x), hvalid⟩

/-! ## One variable -/

/-- The settings with another value in one field. -/
def put (s : Settings) (x : Variable) (value : x.Value) : Settings :=
  ofFields (Function.update s.field x value)

@[simp] theorem field_put_self (value : x.Value) : (s.put x value).field x = value := by
  rw [put, field_ofFields, Function.update_self]

theorem field_put_of_ne (value : x.Value) (h : y ≠ x) : (s.put x value).field y = s.field y := by
  rw [put, field_ofFields, Function.update_of_ne h]

/-- Settings of this service that differ in one field only. -/
theorem eq_put_iff {value : x.Value} : s' = s.put x value ↔
    s'.database.serviceName = serviceName ∧ s'.field x = value ∧
      ∀ y, y ≠ x → s'.field y = s.field y := by
  constructor
  · rintro rfl
    exact ⟨rfl, field_put_self value, fun y => field_put_of_ne value⟩
  · rintro ⟨hname, hx, hothers⟩
    have hfield : s'.field = Function.update s.field x value :=
      Function.eq_update_iff.mpr ⟨hx, hothers⟩
    rw [put, ← hfield, ofFields_field hname]

/-- What another environment gives the other variables of settings that were loaded. -/
theorem value?_of_load (h : load env = .ok s)
    (hothers : ∀ y : Variable, y ≠ x → env'.read y.name = env.read y.name) (hy : y ≠ x) :
    y.value? env' = some (s.field y) := by
  obtain ⟨-, hfields, -⟩ := load_eq_ok_iff.mp h
  rw [Variable.value?_congr (hothers y hy)]
  exact hfields y

theorem eq_put_of_load (h : load env = .ok s)
    (hothers : ∀ y : Variable, y ≠ x → env'.read y.name = env.read y.name)
    (h' : load env' = .ok s') : s' = s.put x (s'.field x) := by
  obtain ⟨hname, hfields, -⟩ := load_eq_ok_iff.mp h'
  refine eq_put_iff.mpr ⟨hname, rfl, fun y hy => ?_⟩
  have hboth := (hfields y).symm.trans (value?_of_load h hothers hy)
  exact Option.some.inj hboth

theorem load_put (h : load env = .ok s)
    (hothers : ∀ y : Variable, y ≠ x → env'.read y.name = env.read y.name) {value : x.Value}
    (hx : env'.read x.name = .ok (x.write value)) (hvalid : (s.put x value).validate = .ok ()) :
    load env' = .ok (s.put x value) := by
  refine load_eq_ok_iff.mpr ⟨rfl, fun y => ?_, hvalid⟩
  by_cases hy : y = x
  · subst hy
    rw [field_put_self]
    exact Variable.value?_of_write hx
  · rw [field_put_of_ne value hy]
    exact value?_of_load h hothers hy

/-! ## What loaded settings are fit for -/

/-- The settings pass the check, their secret makes a key, and their worker has a batch, an attempt
and a millisecond at least. -/
structure Usable (s : Settings) : Prop where
  valid : s.validate = .ok ()
  signs : ∃ key, SigningKey.ofSecret? s.tokens.secretKey = .ok key
  batchSize : 1 ≤ (LoginWorker.config s.worker).batchSize
  maxAttempts : 1 ≤ (LoginWorker.config s.worker).maxAttempts
  pollInterval : 1 ≤ (LoginWorker.config s.worker).pollInterval

theorem usable_of_validate (h : s.validate = .ok ()) : s.Usable := by
  obtain ⟨hlong, -⟩ := tokens_of_validate h
  obtain ⟨-, -, hbatch, hinterval, hattempts⟩ := validate_eq_ok_iff.mp h
  obtain ⟨hbatch', -⟩ := Decimal.Range.contains_iff.mp s.worker.batchSize.inRange
  obtain ⟨hinterval', -⟩ := Decimal.Range.contains_iff.mp s.worker.intervalMs.inRange
  have hpositive : 0 < s.worker.batchSize.value := lt_of_le_of_ne hbatch' hbatch.symm
  have hpositive' : 0 < s.worker.intervalMs.value := lt_of_le_of_ne hinterval' hinterval.symm
  exact ⟨h, ⟨_, dif_pos hlong⟩, Int.pos_iff_toNat_pos.mp hpositive, hattempts,
    Int.pos_iff_toNat_pos.mp hpositive'⟩

/-- Settings that pass the check are held by an environment and are the settings of every
environment that holds them. A variable with another value that is accepted changes its own field
and no other, whatever the environments say beyond the variables. All settings that are loaded are
usable. -/
theorem load_roundTrip :
    (∀ s : Settings, s.database.serviceName = serviceName → s.validate = .ok () →
      (∃ env, s.HeldBy env) ∧ ∀ env, s.HeldBy env → load env = .ok s) ∧
    (∀ env env' s (x : Variable), load env = .ok s →
      (∀ y : Variable, y ≠ x → env'.read y.name = env.read y.name) →
      (∀ s', load env' = .ok s' → s' = s.put x (s'.field x)) ∧
      ∀ value, env'.read x.name = .ok (x.write value) → (s.put x value).validate = .ok () →
        load env' = .ok (s.put x value)) ∧
    ∀ env s, load env = .ok s → s.Usable := by
  refine ⟨fun s hname hvalid => ⟨⟨_, heldBy_environment s⟩, fun env => load_of_heldBy hname hvalid⟩,
    fun env env' s x h hothers =>
      ⟨fun s' => eq_put_of_load h hothers, fun value => load_put h hothers⟩,
    fun env s h => usable_of_validate ?_⟩
  obtain ⟨-, -, hvalid⟩ := load_eq_ok_iff.mp h
  exact hvalid

/-- Settings at the ends of what is accepted, with a secret of sixteen characters in 32 bytes. -/
def utmost : Settings where
  database := ⟨serviceName, "", ⟨4294967295, rfl⟩, ⟨0, rfl⟩, ⟨18446744073709551615, rfl⟩, ⟨0, rfl⟩,
    ⟨18446744073709551615, rfl⟩, ⟨0, rfl⟩⟩
  redis := ⟨"redis://[::1]/?a= b", "", "ü+-\"", ⟨0, rfl⟩⟩
  tokens := ⟨"éééééééééééééééé", ⟨1, rfl⟩, ⟨9223372036854775807, rfl⟩⟩
  worker := ⟨true, ⟨1, rfl⟩, ⟨1, rfl⟩, ⟨4294967295, rfl⟩, ⟨2147483647, rfl⟩,
    ⟨18446744073709551615, rfl⟩⟩
  log := ⟨"", .pretty⟩

/-- They are loaded from their environment, then with a single attempt in the place of many. -/
theorem load_utmost :
    utmost.database.serviceName = serviceName ∧ utmost.validate = .ok () ∧
    load utmost.environment = .ok utmost ∧
    (∀ y : Variable, y ≠ .maxAttempts → (utmost.put .maxAttempts ⟨1, rfl⟩).environment.read y.name =
      utmost.environment.read y.name) ∧
    load (utmost.put .maxAttempts ⟨1, rfl⟩).environment = .ok (utmost.put .maxAttempts ⟨1, rfl⟩) ∧
    utmost.Usable := by
  have hvalid : utmost.validate = .ok () := by decide
  obtain ⟨hholds, hchanges, husable⟩ := load_roundTrip
  have hload : load utmost.environment = .ok utmost :=
    (hholds utmost rfl hvalid).2 _ (heldBy_environment utmost)
  have hothers : ∀ y : Variable, y ≠ .maxAttempts →
      (utmost.put .maxAttempts ⟨1, rfl⟩).environment.read y.name =
        utmost.environment.read y.name := by
    intro y hy
    rw [heldBy_environment, heldBy_environment, field_put_of_ne _ hy]
  have hone := (hchanges _ _ utmost .maxAttempts hload hothers).2 ⟨1, rfl⟩
    (heldBy_environment (utmost.put .maxAttempts ⟨1, rfl⟩) .maxAttempts) (by decide)
  exact ⟨rfl, hvalid, hload, hothers, hone, husable _ utmost hload⟩

end Settings

end SignIn
