import SignIn.Account.User
import SignIn.Outbox.Event
import SignIn.Proofs.TokenRoundTrip
import SignIn.RefreshToken
import SignIn.TaskQueue.Task

/-!
# Records on the wire

Events of the outbox, tasks, token payloads, refresh tokens and requests survive. The payloads of
events and tasks are arbitrary data, and all other members are texts, states, ids and numbers. A
user is written without the hash of the password and read with it.
-/
namespace SignIn

open Json

/-! ## Events and tasks -/

namespace OutboxEvent

structure NumbersFit (e : OutboxEvent) : Prop where
  attempts : Decimal.Range.i32.contains e.attempts = true
  createdAt : Decimal.Range.i64.contains e.createdAt = true
  updatedAt : Decimal.Range.i64.contains e.updatedAt = true

def members (e : OutboxEvent) : Fields :=
  [("id", .ofUuid e.id), ("event_name", .str e.name), ("payload", e.payload),
    ("status", .str e.status.text), ("attempts", .int e.attempts),
    ("last_error", .ofOption .str e.lastError), ("created_at", .int e.createdAt),
    ("updated_at", .int e.updatedAt)]

variable {e : OutboxEvent}

theorem nodup_members (e : OutboxEvent) : (e.members.map (·.1)).Nodup := by
  simp [members]

theorem ofJson?_of_perm (he : e.NumbersFit) {fields : Fields} (h : fields.Perm e.members) :
    ofJson? (.obj fields) = some e := by
  have hfields := fields?_of_perm ["id", "event_name", "payload", "status", "attempts",
    "last_error", "created_at", "updated_at"] h (by simp [members]) e.nodup_members
  have hid : uuid? (.ofUuid e.id) = some e.id := Uuid.ofText?_text e.id
  have hstatus : OutboxStatus.ofJson? (.str e.status.text) = some e.status :=
    congrArg Except.toOption (OutboxStatus.ofText_text e.status)
  have hattempts : int32? (.int e.attempts) = some e.attempts := if_pos he.attempts
  have herror : e.members.optional "last_error" str? = some e.lastError :=
    optional_ofOption (by simp [members, Fields.get?])
  have hcreated : int64? (.int e.createdAt) = some e.createdAt := if_pos he.createdAt
  have hupdated : int64? (.int e.updatedAt) = some e.updatedAt := if_pos he.updatedAt
  rw [ofJson?, hfields]
  simp only [Option.bind_eq_bind, Option.bind_some, required_of_perm h e.nodup_members,
    optional_of_perm h e.nodup_members, herror]
  simp [Fields.required, Fields.get?, members, str?, hid, hstatus, hattempts, hcreated, hupdated]

theorem fits_of_ofJson? {j : Json} (h : ofJson? j = some e) : e.NumbersFit := by
  simp only [ofJson?, Option.bind_eq_bind, Option.bind_eq_some_iff] at h
  obtain ⟨f, -, id, -, name, -, payload, -, status, -, attempts, hattempts, error, -, created,
    hcreated, updated, hupdated, h⟩ := h
  obtain rfl := Option.some.inj h
  exact ⟨contains_of_required hattempts, contains_of_required hcreated,
    contains_of_required hupdated⟩

/-- The payload is arbitrary data. -/
def wire : Wire OutboxEvent where
  toJson := toJson
  ofJson? := ofJson?
  Fits := NumbersFit
  keep real e := { e with payload := e.payload.normalWith real }
  Legible e := e.payload.isLegible (Draft.greatestDepth - 1) = true

theorem survives : wire.Survives := by
  refine .of_members members (fun e => rfl) nodup_members
    (fun e fields he h => ofJson?_of_perm he h)
    (fun real e => ?_) (fun real e he => ?_) (fun e he hpayload => ?_) fun j e => fits_of_ofJson?
  · simp [members, normalMembers, normalWith, ofUuid, wire]
  · exact ⟨he.attempts, he.createdAt, he.updatedAt⟩
  · have hpayload : e.payload.isLegible (Draft.greatestDepth - 1) = true := hpayload
    simp [members, isLegible, ofUuid, hpayload, inIntegerRange_of_i32 he.attempts,
      inIntegerRange_of_i64 he.createdAt, inIntegerRange_of_i64 he.updatedAt]

end OutboxEvent

namespace Task

variable {t : Task}

def members (t : Task) : Fields := [("name", .str t.name), ("payload", t.payload)]

theorem nodup_members (t : Task) : (t.members.map (·.1)).Nodup := by
  simp [members]

theorem ofJson?_of_perm {fields : Fields} (h : fields.Perm t.members) :
    ofJson? (.obj fields) = some t := by
  have hfields := fields?_of_perm ["name", "payload"] h (by simp [members])
    t.nodup_members
  rw [ofJson?, hfields]
  simp only [Option.bind_eq_bind, Option.bind_some, required_of_perm h t.nodup_members]
  simp [Fields.required, Fields.get?, members, str?]

def wire : Wire Task where
  toJson := toJson
  ofJson? := ofJson?
  Fits _ := True
  keep real t := { t with payload := t.payload.normalWith real }
  Legible t := t.payload.isLegible (Draft.greatestDepth - 1) = true

theorem survives : wire.Survives := by
  refine .of_members members (fun t => rfl) nodup_members (fun t fields _ h => ofJson?_of_perm h)
    (fun real t => ?_) (fun real t _ => trivial) (fun t _ hpayload => ?_) fun j t _ => trivial
  · simp [members, normalMembers, normalWith, wire]
  · have hpayload : t.payload.isLegible (Draft.greatestDepth - 1) = true := hpayload
    simp [members, isLegible, hpayload]

end Task

/-! ## Tokens -/

namespace Claims

variable {c : Claims}

theorem fits_of_ofJson? {j : Json} (h : ofJson? j = some c) : c.TimesFit := by
  simp only [ofJson?, Option.bind_eq_bind, Option.bind_eq_some_iff] at h
  obtain ⟨f, -, id, -, user, -, name, -, issued, hissued, expires, hexpires, h⟩ := h
  obtain rfl := Option.some.inj h
  exact ⟨contains_of_required hissued, contains_of_required hexpires⟩

def wire : Wire Claims where
  toJson := toJson
  ofJson? := ofJson?
  Fits := TimesFit

theorem survives : wire.Survives := by
  refine .of_members fields (fun c => rfl) nodup_fields (fun c fields hc h => ofJson?_of_perm hc h)
    (fun real c => ?_) (fun real c hc => hc) (fun c hc _ => isLegible_of_mem_fields hc _)
    fun j c => fits_of_ofJson?
  simp [fields, normalMembers, normalWith, ofUuid, wire]

end Claims

namespace RefreshToken

structure TimesFit (t : RefreshToken) : Prop where
  expiresAt : Decimal.Range.i64.contains t.expiresAt = true
  createdAt : Decimal.Range.i64.contains t.createdAt = true
  updatedAt : Decimal.Range.i64.contains t.updatedAt = true

def members (t : RefreshToken) : Fields :=
  [("id", .ofUuid t.id), ("user_id", .ofUuid t.userId), ("token_hash", .str t.tokenHash),
    ("expires_at", .int t.expiresAt), ("is_revoked", .bool t.isRevoked),
    ("created_at", .int t.createdAt), ("updated_at", .int t.updatedAt)]

variable {t : RefreshToken}

theorem nodup_members (t : RefreshToken) : (t.members.map (·.1)).Nodup := by
  simp [members]

theorem ofJson?_of_perm (ht : t.TimesFit) {fields : Fields} (h : fields.Perm t.members) :
    ofJson? (.obj fields) = some t := by
  have hfields := fields?_of_perm memberNames h (by simp [members, memberNames])
    t.nodup_members
  have hid : uuid? (.ofUuid t.id) = some t.id := Uuid.ofText?_text t.id
  have huser : uuid? (.ofUuid t.userId) = some t.userId := Uuid.ofText?_text t.userId
  have hexpires : int64? (.int t.expiresAt) = some t.expiresAt := if_pos ht.expiresAt
  have hcreated : int64? (.int t.createdAt) = some t.createdAt := if_pos ht.createdAt
  have hupdated : int64? (.int t.updatedAt) = some t.updatedAt := if_pos ht.updatedAt
  rw [ofJson?, hfields]
  simp only [Option.bind_eq_bind, Option.bind_some, required_of_perm h t.nodup_members]
  simp [Fields.required, Fields.get?, members, str?, bool?, hid, huser, hexpires, hcreated,
    hupdated]

theorem fits_of_ofJson? {j : Json} (h : ofJson? j = some t) : t.TimesFit := by
  simp only [ofJson?, Option.bind_eq_bind, Option.bind_eq_some_iff] at h
  obtain ⟨f, -, id, -, user, -, hash, -, expires, hexpires, revoked, -, created, hcreated, updated,
    hupdated, h⟩ := h
  obtain rfl := Option.some.inj h
  exact ⟨contains_of_required hexpires, contains_of_required hcreated,
    contains_of_required hupdated⟩

def wire : Wire RefreshToken where
  toJson := toJson
  ofJson? := ofJson?
  Fits := TimesFit

theorem survives : wire.Survives := by
  refine .of_members members (fun t => rfl) nodup_members
    (fun t fields ht h => ofJson?_of_perm ht h)
    (fun real t => ?_) (fun real t ht => ht) (fun t ht _ => ?_) fun j t => fits_of_ofJson?
  · simp [members, normalMembers, normalWith, ofUuid, wire]
  · have ht : t.TimesFit := ht
    simp [members, isLegible, ofUuid, inIntegerRange_of_i64 ht.expiresAt,
      inIntegerRange_of_i64 ht.createdAt, inIntegerRange_of_i64 ht.updatedAt]

end RefreshToken

/-! ## Requests -/

namespace RegisterRequest

variable {r : RegisterRequest}

def members (r : RegisterRequest) : Fields :=
  [("username", .str r.username), ("password", .str r.password), ("email", .ofOption .str r.email),
    ("country_code", .ofOption .str r.countryCode),
    ("phone_number", .ofOption .str r.phoneNumber)]

theorem nodup_members (r : RegisterRequest) : (r.members.map (·.1)).Nodup := by
  simp [members]

theorem ofJson?_of_perm {fields : Fields} (h : fields.Perm r.members) :
    ofJson? (.obj fields) = some r := by
  have hfields := fields?_of_perm ["username", "password", "email", "country_code",
    "phone_number"] h (by simp [members]) r.nodup_members
  have hemail : r.members.optional "email" str? = some r.email :=
    optional_ofOption (by simp [members, Fields.get?])
  have hcode : r.members.optional "country_code" str? = some r.countryCode :=
    optional_ofOption (by simp [members, Fields.get?])
  have hphone : r.members.optional "phone_number" str? = some r.phoneNumber :=
    optional_ofOption (by simp [members, Fields.get?])
  rw [ofJson?, hfields]
  simp only [Option.bind_eq_bind, Option.bind_some, required_of_perm h r.nodup_members,
    optional_of_perm h r.nodup_members, hemail, hcode, hphone]
  simp [Fields.required, Fields.get?, members, str?]

def wire : Wire RegisterRequest where
  toJson := toJson
  ofJson? := ofJson?
  Fits _ := True

theorem survives : wire.Survives := by
  refine .of_members members (fun r => rfl) nodup_members (fun r fields _ h => ofJson?_of_perm h)
    (fun real r => ?_) (fun real r _ => trivial) (fun r _ _ => ?_) fun j r _ => trivial
  · simp [members, normalMembers, normalWith, wire]
  · simp [members, isLegible]

end RegisterRequest

namespace Identifier

theorem ofJson?_toJson (i : Identifier) : ofJson? i.toJson = some i := by
  cases i with
  | email address => rfl
  | phone country number =>
    have hfields :
        (Json.obj [("country_code", .str country), ("phone_number", .str number)]).fields?
          ["country_code", "phone_number"] =
        some [("country_code", .str country), ("phone_number", .str number)] :=
      fields?_obj (by simp) (by simp)
    simp [toJson, ofJson?, hfields, Fields.required, Fields.get?, str?]

/-- The names stand in their order. -/
theorem normalWith_toJson (real : Json.Real → Json.Real) (i : Identifier) :
    i.toJson.normalWith real = i.toJson := by
  cases i with
  | email address => rfl
  | phone country number =>
    have horder : ¬ "phone_number" < "country_code" := by decide
    simp [toJson, normalWith, normalMembers, sortMembers, insertMember, horder]

theorem isLegible_toJson (i : Identifier) :
    i.toJson.isLegible (Draft.greatestDepth - 1) = true := by
  cases i <;> simp [toJson, isLegible, membersAreLegible, Draft.greatestDepth]

end Identifier

namespace LoginRequest

variable {r : LoginRequest}

def members (r : LoginRequest) : Fields :=
  [("identifier", r.identifier.toJson), ("password", .str r.password)]

theorem nodup_members (r : LoginRequest) : (r.members.map (·.1)).Nodup := by
  simp [members]

theorem ofJson?_of_perm {fields : Fields} (h : fields.Perm r.members) :
    ofJson? (.obj fields) = some r := by
  have hfields := fields?_of_perm ["identifier", "password"] h (by simp [members])
    r.nodup_members
  rw [ofJson?, hfields]
  simp only [Option.bind_eq_bind, Option.bind_some, required_of_perm h r.nodup_members]
  simp [Fields.required, Fields.get?, members, str?, Identifier.ofJson?_toJson]

def wire : Wire LoginRequest where
  toJson := toJson
  ofJson? := ofJson?
  Fits _ := True

theorem survives : wire.Survives := by
  refine .of_members members (fun r => rfl) nodup_members (fun r fields _ h => ofJson?_of_perm h)
    (fun real r => ?_) (fun real r _ => trivial) (fun r _ _ => ?_) fun j r _ => trivial
  · simp [members, normalMembers, normalWith, Identifier.normalWith_toJson, wire]
  · simp [members, isLegible, Identifier.isLegible_toJson]

end LoginRequest

/-! ## Users -/

namespace User

structure TimesFit (u : User) : Prop where
  createdAt : Decimal.Range.i64.contains u.createdAt = true
  updatedAt : Decimal.Range.i64.contains u.updatedAt = true

variable {u : User}

/-- All that is written of a user, and a hash beside it. -/
def membersWith (u : User) (hash : String) : Fields :=
  ("password_hash", .str hash) :: (u.publicMembers ++ u.stamps)

theorem nodup_membersWith (u : User) (hash : String) : ((u.membersWith hash).map (·.1)).Nodup := by
  simp [membersWith, publicMembers, stamps]

theorem toJson_passwordHash (u : User) (hash : String) :
    { u with passwordHash := hash }.toJson = u.toJson := rfl

/-- What is written of a user brings no hash, so it is not read as one. -/
theorem ofJson?_toJson (u : User) : ofJson? u.toJson = none := by
  have hfields : u.toJson.fields? ["id", "email", "country_code", "phone_number", "username",
      "password_hash", "created_at", "updated_at"] = some (u.publicMembers ++ u.stamps) :=
    fields?_obj (by simp [publicMembers, stamps]) (by simp [publicMembers, stamps])
  rw [ofJson?, hfields]
  simp [Fields.required, Fields.get?, publicMembers, stamps]

/-- With a hash beside it, all else is given back. -/
theorem ofJson?_of_perm (hu : u.TimesFit) {hash : String} {fields : Fields}
    (h : fields.Perm (u.membersWith hash)) :
    ofJson? (.obj fields) = some { u with passwordHash := hash } := by
  have hnodup := u.nodup_membersWith hash
  have hfields := fields?_of_perm ["id", "email", "country_code", "phone_number", "username",
    "password_hash", "created_at", "updated_at"] h (by simp [membersWith, publicMembers, stamps])
    hnodup
  have hid : uuid? (.ofUuid u.id) = some u.id := Uuid.ofText?_text u.id
  have hemail : (u.membersWith hash).optional "email" str? = some u.email :=
    optional_ofOption (by simp [membersWith, publicMembers, Fields.get?])
  have hcode : (u.membersWith hash).optional "country_code" str? = some u.countryCode :=
    optional_ofOption (by simp [membersWith, publicMembers, Fields.get?])
  have hphone : (u.membersWith hash).optional "phone_number" str? = some u.phoneNumber :=
    optional_ofOption (by simp [membersWith, publicMembers, Fields.get?])
  have hcreated : int64? (.int u.createdAt) = some u.createdAt := if_pos hu.createdAt
  have hupdated : int64? (.int u.updatedAt) = some u.updatedAt := if_pos hu.updatedAt
  rw [ofJson?, hfields]
  simp only [Option.bind_eq_bind, Option.bind_some, required_of_perm h hnodup,
    optional_of_perm h hnodup, hemail, hcode, hphone]
  simp [Fields.required, Fields.get?, membersWith, publicMembers, stamps, str?, hid, hcreated,
    hupdated]

end User

end SignIn
