import SignIn.Outbox.Table
import SignIn.Proofs.Results
import SignIn.Proofs.StatementMeaning

/-!
# Stored rows read back

A row is written by place and read by name. What is written for an event, a refresh token or a user
has every field in the column of its own, and so it reads back as it was, through every statement
that finds it. A status that is none of the known words is reported as such.
-/
namespace SignIn

/-- A word that is no status is reported with its text. -/
theorem OutboxStatus.ofText_unknown {s : String} (h : ∀ status : OutboxStatus, s ≠ status.text) :
    ofText s = .error (.unknownStatus s) := by
  unfold ofText
  split
  · exact absurd rfl (h .pending)
  · exact absurd rfl (h .success)
  · exact absurd rfl (h .failed)
  · rfl

/-- A word that was read as a status is the word of this status. -/
theorem OutboxStatus.text_of_ofText {s : String} {status : OutboxStatus}
    (h : ofText s = .ok status) : status.text = s := by
  unfold ofText at h
  split at h
  · rw [← Except.ok.inj h, text]
  · rw [← Except.ok.inj h, text]
  · rw [← Except.ok.inj h, text]
  · cases h

namespace Sql

variable {row : Values} {db : Database} {time : Int} {fresh : Uuid}

/-! ## Events -/

namespace Outbox

/-- The row that is written for an event. -/
def stored (e : OutboxEvent) : Values := insertedRow columns (params e)

structure Keeps (e : OutboxEvent) (row : Values) : Prop where
  id : row "id" = .uuid e.id
  name : row "event_name" = .text e.name
  payload : row "payload" = .json e.payload
  status : row "status" = .text e.status.text
  attempts : row "attempts" = .int e.attempts
  lastError : row "last_error" = .ofText? e.lastError
  createdAt : row "created_at" = .int e.createdAt
  updatedAt : row "updated_at" = .int e.updatedAt

theorem keeps_stored (e : OutboxEvent) : Keeps e (stored e) := by
  constructor <;> rfl

theorem cells_eq (row : Values) : Schema.outboxEvents.cells columns row =
    [("id", ⟨.uuid, (row "id").shown .uuid⟩),
      ("event_name", ⟨.varchar, (row "event_name").shown .varchar⟩),
      ("payload", ⟨.jsonb, (row "payload").shown .jsonb⟩),
      ("status", ⟨.varchar, (row "status").shown .varchar⟩),
      ("attempts", ⟨.int4, (row "attempts").shown .int4⟩),
      ("last_error", ⟨.text, (row "last_error").shown .text⟩),
      ("created_at", ⟨.int8, (row "created_at").shown .int8⟩),
      ("updated_at", ⟨.int8, (row "updated_at").shown .int8⟩)] := rfl

theorem ofRow_cells {e : OutboxEvent} (h : Keeps e row) :
    ofRow (Schema.outboxEvents.cells columns row) = .ok e := by
  rw [cells_eq, h.id, h.name, h.payload, h.status, h.attempts, h.lastError, h.createdAt,
    h.updatedAt]
  obtain ⟨id, name, payload, status, attempts, lastError, createdAt, updatedAt⟩ := e
  cases lastError <;> cases status <;> rfl

/-- Whatever is read as an event has the status that its row tells. -/
theorem status_of_ofRow {shown : Row} {e : OutboxEvent} (h : ofRow shown = .ok e) :
    shown.required "status" .text = .ok e.status.text := by
  unfold ofRow at h
  obtain ⟨s, hs, h⟩ := bind_eq_ok_iff.mp h
  obtain ⟨id, -, h⟩ := bind_eq_ok_iff.mp h
  obtain ⟨name, -, h⟩ := bind_eq_ok_iff.mp h
  obtain ⟨payload, -, h⟩ := bind_eq_ok_iff.mp h
  obtain ⟨status, hstatus, h⟩ := bind_eq_ok_iff.mp h
  obtain ⟨attempts, -, h⟩ := bind_eq_ok_iff.mp h
  obtain ⟨lastError, -, h⟩ := bind_eq_ok_iff.mp h
  obtain ⟨createdAt, -, h⟩ := bind_eq_ok_iff.mp h
  obtain ⟨updatedAt, -, h⟩ := bind_eq_ok_iff.mp h
  rw [← Except.ok.inj h, OutboxStatus.text_of_ofText hstatus]
  exact mapError_eq_ok_iff.mp hs

/-- A status that is no status is reported, if what is read before it can be read. -/
theorem ofRow_unknown {shown : Row} {s : String} {id : Uuid} {name : String} {payload : Json}
    (hstatus : shown.required "status" .text = .ok s) (hid : shown.required "id" .uuid = .ok id)
    (hname : shown.required "event_name" .text = .ok name)
    (hpayload : shown.required "payload" .json = .ok payload)
    (hs : ∀ status : OutboxStatus, s ≠ status.text) :
    ofRow shown = .error (.unknownStatus s) := by
  have hword : OutboxStatus.ofText s = .error (.unknownStatus s) := OutboxStatus.ofText_unknown hs
  rw [ofRow, hstatus, hid, hname, hpayload]
  change (do
    let status ← OutboxStatus.ofText s
    _ : Except OutboxError OutboxEvent) = _
  rw [hword]
  rfl

theorem run_insert (time : Int) (fresh : Uuid) (scope : Scope) (e : OutboxEvent) (db : Database) :
    Dialogue.run (Database.reply time fresh) (insert scope e) db =
      (.ok (), Function.update db table (db table ++ [stored e])) := by
  have hexecute : db.execute (insertStatement e) =
      (⟨1, []⟩, Function.update db table (db table ++ [stored e])) :=
    Database.execute_insert mem_outboxEvents
  have hconnected : Dialogue.run (Database.reply time fresh)
      ((connection scope).mapError OutboxError.database) db = (.ok (), db) :=
    Attempt.run_mapError _ (Database.run_connection ..)
  have hinserted : Dialogue.run (Database.reply time fresh)
      (about "Failed to insert event into outbox" (query scope (insertStatement e))) db =
      (.ok (db.execute (insertStatement e)).1, (db.execute (insertStatement e)).2) :=
    Attempt.run_mapError _ (Database.run_query ..)
  rw [hexecute] at hinserted
  unfold insert
  rw [Attempt.run_bind hconnected, Attempt.run_bind hinserted]
  rfl

/-- The only row with an id is found by it, and read. -/
theorem run_findById {id : Uuid} (honly : OnlyRow (db table) row fun x => x "id" = .uuid id)
    (hrow : row "id" = .uuid id) :
    Dialogue.run (Database.reply time fresh) (findById id) db =
      (.ofExcept (ofRow (Schema.outboxEvents.cells columns row)), db) := by
  have hsent : Dialogue.run (Database.reply time fresh)
      (about "Failed to fetch outbox event" (send .ambient (byIdStatement id))) db =
      (.ok ⟨1, [Schema.outboxEvents.cells columns row]⟩, db) :=
    Attempt.run_mapError _ (Database.run_send_select_one time fresh .ambient mem_outboxEvents
      (honly.imp fun _ => meets_id.mp) (meets_id.mpr hrow))
  unfold findById
  rw [Attempt.run_bind hsent]
  rfl

theorem meets_pending (name : String) (limit : Int) (e : OutboxEvent) :
    meets ofName [.text name, .text OutboxStatus.pending.text, .int limit] (stored e) =
      SignIn.Outbox.Table.isPendingOf name e := by
  have hname : stored e "event_name" = .text e.name := (keeps_stored e).name
  have hstatus : stored e "status" = .text e.status.text := (keeps_stored e).status
  have hword : (e.status.text == OutboxStatus.pending.text) = (e.status == .pending) := by
    cases e.status <;> decide
  simp [meets, ofName, Expr.value, Param.same, hname, hstatus, hword,
    SignIn.Outbox.Table.isPendingOf]

/-- Rows are sorted as their events are. -/
theorem notAfter_stored (a b : OutboxEvent) : notAfter ["created_at", "id"] (stored a) (stored b) =
    SignIn.Outbox.Table.notAfter a b := by
  have hcreated (e : OutboxEvent) : stored e "created_at" = .int e.createdAt :=
    (keeps_stored e).createdAt
  have hid (e : OutboxEvent) : stored e "id" = .uuid e.id := (keeps_stored e).id
  have hle : (decide (a.id.toNat < b.id.toNat) || a.id == b.id) =
      decide (a.id.toNat ≤ b.id.toNat) := by
    rw [Bool.eq_iff_iff]
    simp only [Bool.or_eq_true, decide_eq_true_eq, beq_iff_eq, Nat.le_iff_lt_or_eq]
    apply or_congr_right
    constructor
    · intro h
      rw [h]
    · intro h
      exact Uuid.toNat_injective h
  simp [notAfter, Param.before, Param.same, hcreated, hid, hle, SignIn.Outbox.Table.notAfter]

theorem mapM_ofRow_cells (events : List OutboxEvent) :
    ((events.map stored).map (Schema.outboxEvents.cells columns)).mapM ofRow = .ok events := by
  induction events with
  | nil => rfl
  | cons e rest ih =>
    simp only [List.map_cons, List.mapM_cons, ofRow_cells (keeps_stored e), ih]
    rfl

/-- Where every row was written for an event, the pending ones are found as they would be among the
events themselves. -/
theorem run_findPending {events : List OutboxEvent} (hdb : db table = events.map stored)
    (name : String) (limit : Int) :
    Dialogue.run (Database.reply time fresh) (findPending name limit) db =
      (.ok (SignIn.Outbox.Table.findPending events name limit.toNat), db) := by
  have hfilter : (events.map stored).filter
      (meets ofName [.text name, .text OutboxStatus.pending.text, .int limit]) =
      (events.filter (SignIn.Outbox.Table.isPendingOf name)).map stored := by
    rw [List.filter_map]
    congr 2
    funext e
    exact meets_pending name limit e
  have hsort (l : List OutboxEvent) : (l.map stored).mergeSort (notAfter ["created_at", "id"]) =
      (l.mergeSort SignIn.Outbox.Table.notAfter).map stored := by
    rw [List.map_mergeSort fun a _ b _ => (notAfter_stored a b).symm]
  have hfound : limited [.text name, .text OutboxStatus.pending.text, .int limit]
      (((db table).filter
        (meets ofName [.text name, .text OutboxStatus.pending.text, .int limit])).mergeSort
          (notAfter ["created_at", "id"])) (some (.param 3)) =
      (SignIn.Outbox.Table.findPending events name limit.toNat).map stored := by
    rw [hdb, hfilter, hsort]
    simp [limited, Expr.value, SignIn.Outbox.Table.findPending, List.map_take]
  have hexecute : db.execute (pendingStatement name limit) = (⟨_, ((SignIn.Outbox.Table.findPending
      events name limit.toNat).map stored).map (Schema.outboxEvents.cells columns)⟩, db) :=
    Database.execute_select mem_outboxEvents hfound
  have hsent : Dialogue.run (Database.reply time fresh)
      (about "Failed to fetch pending events" (send .ambient (pendingStatement name limit))) db =
      (.ok (db.execute (pendingStatement name limit)).1,
        (db.execute (pendingStatement name limit)).2) :=
    Attempt.run_mapError _ (Database.run_send ..)
  have hread := mapM_ofRow_cells (SignIn.Outbox.Table.findPending events name limit.toNat)
  rw [hexecute] at hsent
  unfold findPending
  rw [Attempt.run_bind hsent]
  simp only [hread]
  rfl

/-- An event is written with every field in the column of its own, and found again as it was: by its
id, and while it is pending by its name, wherever it is among the rows. -/
structure ReadsBack (e : OutboxEvent) : Prop where
  keeps : Keeps e (stored e)
  decodes : ofRow (Schema.outboxEvents.cells columns (stored e)) = .ok e
  inserts : ∀ (time : Int) (fresh : Uuid) (scope : Scope) (db : Database),
    Dialogue.run (Database.reply time fresh) (insert scope e) db =
      (.ok (), Function.update db table (db table ++ [stored e]))
  byId : ∀ (time : Int) (fresh : Uuid) (db : Database),
    OnlyRow (db table) (stored e) (fun x => x "id" = .uuid e.id) →
    Dialogue.run (Database.reply time fresh) (findById e.id) db = (.ok e, db)
  pending : ∀ (time : Int) (fresh : Uuid) (db : Database) (events : List OutboxEvent) (limit : Int),
    db table = events.map stored → e ∈ events → e.status = .pending →
    (events.length : Int) ≤ limit →
    ∃ found, Dialogue.run (Database.reply time fresh) (findPending e.name limit) db =
      (.ok found, db) ∧ e ∈ found ∧ ∀ other ∈ found, other ∈ events

theorem readsBack (e : OutboxEvent) : ReadsBack e where
  keeps := keeps_stored e
  decodes := ofRow_cells (keeps_stored e)
  inserts time fresh scope db := run_insert time fresh scope e db
  byId time fresh db honly := by
    rw [run_findById honly (keeps_stored e).id, ofRow_cells (keeps_stored e)]
    rfl
  pending time fresh db events limit hdb he hpending hlimit := by
    refine ⟨_, run_findPending hdb e.name limit, ?_, fun other hother => ?_⟩
    · have hof : SignIn.Outbox.Table.isPendingOf e.name e = true := by
        simp [SignIn.Outbox.Table.isPendingOf, hpending]
      have hsorted : e ∈ (events.filter (SignIn.Outbox.Table.isPendingOf e.name)).mergeSort
          SignIn.Outbox.Table.notAfter :=
        List.mem_mergeSort.mpr (List.mem_filter.mpr ⟨he, hof⟩)
      have hlength : (events.filter (SignIn.Outbox.Table.isPendingOf e.name)).length ≤
          events.length := List.length_filter_le ..
      rw [SignIn.Outbox.Table.findPending, List.take_of_length_le]
      · exact hsorted
      · rw [List.length_mergeSort]
        omega
    · exact List.mem_of_mem_filter (List.mem_mergeSort.mp (List.mem_of_mem_take hother))

/-- A text that is no status is never taken for one, and it is what is reported of its row. -/
structure ReportsUnknown (s : String) : Prop where
  never : ∀ (shown : Row) (e : OutboxEvent), shown.required "status" .text = .ok s →
    ofRow shown ≠ .ok e
  decodes : ∀ (shown : Row) (id : Uuid) (name : String) (payload : Json),
    shown.required "status" .text = .ok s → shown.required "id" .uuid = .ok id →
    shown.required "event_name" .text = .ok name → shown.required "payload" .json = .ok payload →
    ofRow shown = .error (.unknownStatus s)
  byId : ∀ (time : Int) (fresh : Uuid) (db : Database) (row : Values) (id : Uuid) (name : String)
    (payload : Json), OnlyRow (db table) row (fun x => x "id" = .uuid id) →
    row "status" = .text s → row "id" = .uuid id → row "event_name" = .text name →
    row "payload" = .json payload →
    Dialogue.run (Database.reply time fresh) (findById id) db = (.failed (.unknownStatus s), db)

theorem reportsUnknown {s : String} (hs : ∀ status : OutboxStatus, s ≠ status.text) :
    ReportsUnknown s where
  never shown e hstatus h := by
    have hsame := (status_of_ofRow h).symm.trans hstatus
    exact hs e.status (Except.ok.inj hsame).symm
  decodes shown id name payload hstatus hid hname hpayload :=
    ofRow_unknown hstatus hid hname hpayload hs
  byId time fresh db row id name payload honly hstatus hid hname hpayload := by
    have hread : ofRow (Schema.outboxEvents.cells columns row) = .error (.unknownStatus s) := by
      rw [cells_eq, hstatus, hid, hname, hpayload]
      exact @ofRow_unknown _ s id name payload rfl rfl rfl rfl hs
    rw [run_findById honly hid, hread]
    rfl

end Outbox

/-! ## Refresh tokens -/

namespace RefreshTokens

def stored (t : RefreshToken) : Values := insertedRow columns (params t)

structure Keeps (t : RefreshToken) (row : Values) : Prop where
  id : row "id" = .uuid t.id
  userId : row "user_id" = .uuid t.userId
  tokenHash : row "token_hash" = .text t.tokenHash
  expiresAt : row "expires_at" = .int t.expiresAt
  isRevoked : row "is_revoked" = .bool t.isRevoked
  createdAt : row "created_at" = .int t.createdAt
  updatedAt : row "updated_at" = .int t.updatedAt

theorem keeps_stored (t : RefreshToken) : Keeps t (stored t) := by
  constructor <;> rfl

theorem cells_eq (row : Values) : Schema.refreshTokens.cells columns row =
    [("id", ⟨.uuid, (row "id").shown .uuid⟩), ("user_id", ⟨.uuid, (row "user_id").shown .uuid⟩),
      ("token_hash", ⟨.char, (row "token_hash").shown .char⟩),
      ("expires_at", ⟨.int8, (row "expires_at").shown .int8⟩),
      ("is_revoked", ⟨.bool, (row "is_revoked").shown .bool⟩),
      ("created_at", ⟨.int8, (row "created_at").shown .int8⟩),
      ("updated_at", ⟨.int8, (row "updated_at").shown .int8⟩)] := rfl

theorem ofRow_cells {t : RefreshToken} (h : Keeps t row) :
    ofRow (Schema.refreshTokens.cells columns row) = .ok t := by
  rw [cells_eq, h.id, h.userId, h.tokenHash, h.expiresAt, h.isRevoked, h.createdAt, h.updatedAt]
  rfl

theorem run_insert (time : Int) (fresh : Uuid) (scope : Scope) (t : RefreshToken) (db : Database) :
    Dialogue.run (Database.reply time fresh) (insert scope t) db =
      (.ok (), Function.update db table (db table ++ [stored t])) := by
  have hsent : Dialogue.run (Database.reply time fresh) (send scope (insertStatement t)) db =
      (.ok ⟨1, []⟩, Function.update db table (db table ++ [stored t])) :=
    Database.run_send_insert time fresh scope mem_refreshTokens
  exact Attempt.run_mapError IdentityError.ofStorage (Attempt.run_bind hsent)

/-- The only row with a digest is found by a token that has it, and read. -/
theorem run_getByToken {token : String} (scope : Scope)
    (honly : OnlyRow (db table) row fun x => x "token_hash" = .text (RefreshToken.hash token))
    (hrow : row "token_hash" = .text (RefreshToken.hash token)) :
    Dialogue.run (Database.reply time fresh) (getByToken scope token) db =
      (.ofExcept ((ofRow (Schema.refreshTokens.cells columns row)).mapError
        IdentityError.ofStorage), db) := by
  have hsent : Dialogue.run (Database.reply time fresh)
      ((send scope (selectStatement (RefreshToken.hash token))).mapError IdentityError.ofStorage)
      db = (.ok ⟨1, [Schema.refreshTokens.cells columns row]⟩, db) :=
    Attempt.run_mapError _ (Database.run_send_select_one time fresh scope mem_refreshTokens
      (honly.imp fun _ => meets_text.mp) (meets_text.mpr hrow))
  unfold getByToken
  rw [Attempt.run_bind hsent]
  rfl

/-- A refresh token is written with every field in the column of its own, and found again as it was
by the text that it is for. -/
structure ReadsBack (t : RefreshToken) : Prop where
  keeps : Keeps t (stored t)
  decodes : ofRow (Schema.refreshTokens.cells columns (stored t)) = .ok t
  inserts : ∀ (time : Int) (fresh : Uuid) (scope : Scope) (db : Database),
    Dialogue.run (Database.reply time fresh) (insert scope t) db =
      (.ok (), Function.update db table (db table ++ [stored t]))
  byToken : ∀ (time : Int) (fresh : Uuid) (scope : Scope) (db : Database) (token : String),
    t.isFor token = true →
    OnlyRow (db table) (stored t) (fun x => x "token_hash" = .text t.tokenHash) →
    Dialogue.run (Database.reply time fresh) (getByToken scope token) db = (.ok t, db)

theorem readsBack (t : RefreshToken) : ReadsBack t where
  keeps := keeps_stored t
  decodes := ofRow_cells (keeps_stored t)
  inserts time fresh scope db := run_insert time fresh scope t db
  byToken time fresh scope db token hfor honly := by
    have hhash : t.tokenHash = RefreshToken.hash token := eq_of_beq hfor
    have hrow : stored t "token_hash" = .text (RefreshToken.hash token) := by
      rw [(keeps_stored t).tokenHash, hhash]
    rw [hhash] at honly
    rw [run_getByToken scope honly hrow, ofRow_cells (keeps_stored t)]
    rfl

end RefreshTokens

/-! ## Users -/

namespace Users

def stored (u : User) : Values := insertedRow columns (params u)

structure Keeps (u : User) (row : Values) : Prop where
  id : row "id" = .uuid u.id
  email : row "email" = .ofText? u.email
  countryCode : row "country_code" = .ofText? u.countryCode
  phoneNumber : row "phone_number" = .ofText? u.phoneNumber
  username : row "username" = .text u.username
  passwordHash : row "password_hash" = .text u.passwordHash
  createdAt : row "created_at" = .int u.createdAt
  updatedAt : row "updated_at" = .int u.updatedAt

theorem keeps_stored (u : User) : Keeps u (stored u) := by
  constructor <;> rfl

theorem cells_eq (row : Values) : Schema.users.cells columns row =
    [("id", ⟨.uuid, (row "id").shown .uuid⟩), ("email", ⟨.varchar, (row "email").shown .varchar⟩),
      ("country_code", ⟨.varchar, (row "country_code").shown .varchar⟩),
      ("phone_number", ⟨.varchar, (row "phone_number").shown .varchar⟩),
      ("username", ⟨.varchar, (row "username").shown .varchar⟩),
      ("password_hash", ⟨.text, (row "password_hash").shown .text⟩),
      ("created_at", ⟨.int8, (row "created_at").shown .int8⟩),
      ("updated_at", ⟨.int8, (row "updated_at").shown .int8⟩)] := rfl

theorem ofRow_cells {u : User} (h : Keeps u row) :
    ofRow (Schema.users.cells columns row) = .ok u := by
  rw [cells_eq, h.id, h.email, h.countryCode, h.phoneNumber, h.username, h.passwordHash, h.createdAt,
    h.updatedAt]
  obtain ⟨id, email, countryCode, phoneNumber, username, passwordHash, createdAt, updatedAt⟩ := u
  cases email <;> cases countryCode <;> cases phoneNumber <;> rfl

theorem run_create (time : Int) (fresh : Uuid) (scope : Scope) (u : User) (db : Database) :
    Dialogue.run (Database.reply time fresh) (create scope u) db =
      (.ok (), Function.update db table (db table ++ [stored u])) := by
  have hsent : Dialogue.run (Database.reply time fresh) (send scope (insertStatement u)) db =
      (.ok ⟨1, []⟩, Function.update db table (db table ++ [stored u])) :=
    Database.run_send_insert time fresh scope mem_users
  exact Attempt.run_mapError IdentityError.ofStorage (Attempt.run_bind hsent)

/-- The only row that meets the conditions is found, and read as its user. -/
theorem run_find {u : User} {conditions : List Equation} {params : List Param} (scope : Scope)
    (honly : OnlyRow (db table) row fun x => meets conditions params x = true)
    (hrow : meets conditions params row = true) (hkeeps : Keeps u row) :
    Dialogue.run (Database.reply time fresh) (find scope (selectStatement conditions params)) db =
      (.ok (some u), db) := by
  have hsent : Dialogue.run (Database.reply time fresh)
      (send scope (selectStatement conditions params)) db =
      (.ok ⟨1, [Schema.users.cells columns row]⟩, db) :=
    Database.run_send_select_one time fresh scope mem_users honly hrow
  have hread : first ⟨1, [Schema.users.cells columns row]⟩ = .ok (some u) := by
    simp only [first, ofRow_cells hkeeps, Except.map]
  refine Attempt.run_mapError IdentityError.ofStorage (o := .ok (some u)) ?_
  rw [Attempt.run_bind hsent, hread]
  rfl

/-- A user is written with every field in the column of its own, and found again as it was: by the
id, by the email and by the phone, where the user has one. -/
structure ReadsBack (u : User) : Prop where
  keeps : Keeps u (stored u)
  decodes : ofRow (Schema.users.cells columns (stored u)) = .ok u
  creates : ∀ (time : Int) (fresh : Uuid) (scope : Scope) (db : Database),
    Dialogue.run (Database.reply time fresh) (create scope u) db =
      (.ok (), Function.update db table (db table ++ [stored u]))
  byId : ∀ (time : Int) (fresh : Uuid) (scope : Scope) (db : Database),
    OnlyRow (db table) (stored u) (fun x => x "id" = .uuid u.id) →
    Dialogue.run (Database.reply time fresh) (findById scope u.id) db = (.ok (some u), db)
  byEmail : ∀ (time : Int) (fresh : Uuid) (scope : Scope) (db : Database) (email : String),
    u.email = some email → OnlyRow (db table) (stored u) (fun x => x "email" = .text email) →
    Dialogue.run (Database.reply time fresh) (findByEmail scope email) db = (.ok (some u), db)
  byPhone : ∀ (time : Int) (fresh : Uuid) (scope : Scope) (db : Database)
    (countryCode phoneNumber : String),
    u.countryCode = some countryCode → u.phoneNumber = some phoneNumber →
    OnlyRow (db table) (stored u)
      (fun x => x "country_code" = .text countryCode ∧ x "phone_number" = .text phoneNumber) →
    Dialogue.run (Database.reply time fresh) (findByPhone scope countryCode phoneNumber) db =
      (.ok (some u), db)

theorem readsBack (u : User) : ReadsBack u where
  keeps := keeps_stored u
  decodes := ofRow_cells (keeps_stored u)
  creates time fresh scope db := run_create time fresh scope u db
  byId time fresh scope db honly :=
    run_find scope (honly.imp fun _ => meets_id.mp) (meets_id.mpr (keeps_stored u).id)
      (keeps_stored u)
  byEmail time fresh scope db email hemail honly := by
    have hrow : stored u "email" = .text email := by
      rw [(keeps_stored u).email, hemail]
      rfl
    exact run_find scope (honly.imp fun _ => meets_text.mp) (meets_text.mpr hrow) (keeps_stored u)
  byPhone time fresh scope db countryCode phoneNumber hcode hnumber honly := by
    have hcodeRow : stored u "country_code" = .text countryCode := by
      rw [(keeps_stored u).countryCode, hcode]
      rfl
    have hnumberRow : stored u "phone_number" = .text phoneNumber := by
      rw [(keeps_stored u).phoneNumber, hnumber]
      rfl
    exact run_find scope (honly.imp fun _ => meets_texts.mp)
      (meets_texts.mpr ⟨hcodeRow, hnumberRow⟩) (keeps_stored u)

end Users

/-! ## All tables -/

/-- Whatever is stored reads back as it was written, and of a status that is none the text is
reported. -/
theorem stored_rows_read_back :
    (∀ e : OutboxEvent, Outbox.ReadsBack e) ∧ (∀ t : RefreshToken, RefreshTokens.ReadsBack t) ∧
      (∀ u : User, Users.ReadsBack u) ∧
      ∀ s : String, (∀ status : OutboxStatus, s ≠ status.text) → Outbox.ReportsUnknown s :=
  ⟨Outbox.readsBack, RefreshTokens.readsBack, Users.readsBack, fun _ => Outbox.reportsUnknown⟩

/-- An event with a document that is empty and an error that is, a token that was revoked, a user
without an email, and a status that there never was. -/
theorem stored_rows_read_back_odd :
    let e : OutboxEvent := ⟨⟨7⟩, "login", .null, .pending, 2, some "", -1, 5⟩
    let t : RefreshToken := ⟨⟨1⟩, ⟨2⟩, RefreshToken.hash "raw", 10, true, 3, 4⟩
    let u : User := ⟨⟨2⟩, none, some "49", some "30123", "Ann", "", -1, 0⟩
    let db : Database := fun name =>
      if name = Outbox.table then [Outbox.stored e]
      else if name = RefreshTokens.table then [RefreshTokens.stored t] else [Users.stored u]
    let reply := Database.reply 0 ⟨9⟩
    Dialogue.run reply (Outbox.findById ⟨7⟩) db = (.ok e, db) ∧
    (∃ found, Dialogue.run reply (Outbox.findPending "login" 1) db = (.ok found, db) ∧ e ∈ found) ∧
    Dialogue.run reply (RefreshTokens.getByToken .transaction "raw") db = (.ok t, db) ∧
    Dialogue.run reply (Users.findByPhone .ambient "49" "30123") db = (.ok (some u), db) ∧
    (∀ status : OutboxStatus, "done" ≠ status.text) ∧
    Outbox.ofRow [("payload", ⟨.jsonb, some .null⟩), ("event_name", ⟨.varchar, some "login"⟩),
      ("id", ⟨.uuid, some ⟨7⟩⟩), ("status", ⟨.varchar, some "done"⟩)] =
      .error (.unknownStatus "done") := by
  intro e t u db reply
  obtain ⟨hevents, htokens, husers, hunknown⟩ := stored_rows_read_back
  have hdone (status : OutboxStatus) : "done" ≠ status.text := by cases status <;> decide
  have halone (row : Values) (p : Values → Prop) : OnlyRow [row] row p := by
    refine ⟨[], [], rfl, ?_⟩
    simp
  obtain ⟨found, hfound, he, -⟩ :=
    (hevents e).pending 0 ⟨9⟩ db [e] 1 rfl (List.mem_singleton.mpr rfl) rfl (by decide)
  exact ⟨(hevents e).byId 0 ⟨9⟩ db (halone _ _), ⟨found, hfound, he⟩,
    (htokens t).byToken 0 ⟨9⟩ .transaction db "raw" (beq_self_eq_true _) (halone _ _),
    (husers u).byPhone 0 ⟨9⟩ .ambient db "49" "30123" rfl rfl (halone _ _), hdone,
    (hunknown "done" hdone).decodes _ ⟨7⟩ "login" .null rfl rfl rfl rfl⟩

end Sql

end SignIn
