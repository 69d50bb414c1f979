import SignIn.Proofs.Repositories
import SignIn.Proofs.Signings
import SignIn.Proofs.Transcripts
import SignIn.Proofs.UniqueIndexes

/-!
# Records of refresh tokens

Of a token only the digest is ever sent, and every call of the repository that is about a token goes
by this digest: tokens with one digest are one token to the server. A record that was created is
found by its token. The first revocation revokes it, and nothing else, and the second one finds it
revoked.
-/
namespace SignIn

open Dialogue

theorem RefreshToken.make_congr {token token' : String} (htoken : token ≠ "")
    (htoken' : token' ≠ "") (hhash : hash token = hash token') (id : Uuid) (now : Int)
    (userId : Uuid) (expiresAt : Int) :
    make id now userId token expiresAt = make id now userId token' expiresAt := by
  unfold make
  simp only [htoken, htoken', or_false, hhash]

namespace Sql

/-- The statements among questions and answers. -/
def statements (notes : List ((c : Call) × Answer c)) : List Statement :=
  notes.filterMap fun note =>
    match note with
    | ⟨.query _ statement, _⟩ => some statement
    | _ => none

theorem statements_append (a b : List ((c : Call) × Answer c)) :
    statements (a ++ b) = statements a ++ statements b := List.filterMap_append

/-- At most one statement is sent, and it is this one. -/
def AtMost (statement : Statement) (notes : List ((c : Call) × Answer c)) : Prop :=
  statements notes = [] ∨ statements notes = [statement]

section Notes

variable {ε ε' α : Type} {scope : Scope} {statement : Statement}

theorem statements_connection (scope : Scope) :
    (connection scope).Notes exchange fun _ notes => statements notes = [] := by
  cases scope with
  | ambient => exact Attempt.notes_call fun _ => rfl
  | transaction => exact Attempt.notes_ofOutcome rfl

theorem atMost_query (scope : Scope) (statement : Statement) :
    (query scope statement).Notes exchange fun _ notes => AtMost statement notes :=
  Attempt.notes_call fun _ => .inr rfl

/-- Before anything is sent a connection is taken. If there is none, nothing is sent. -/
theorem statements_connection_bind {P : List ((c : Call) × Answer c) → Prop}
    {f : Unit → Attempt Call Answer StorageError α} (hnone : ∀ notes, statements notes = [] → P notes)
    (hf : ∀ first, statements first = [] →
      (f ()).Notes exchange fun _ rest => P (first ++ rest)) :
    (connection scope >>= f).Notes exchange fun _ notes => P notes :=
  Attempt.Notes.bind (statements_connection scope) (fun _ => hf) (fun _ => hnone) fun _ => hnone

theorem atMost_send (scope : Scope) (statement : Statement) :
    (send scope statement).Notes exchange fun _ notes => AtMost statement notes := by
  refine statements_connection_bind (fun _ => .inl) fun first hfirst => ?_
  refine (atMost_query scope statement).mono fun _ rest hrest => ?_
  rw [AtMost, statements_append, hfirst, List.nil_append]
  exact hrest

theorem atMost_of_revokeWhere (scope : Scope) (column : String) (value : Param) :
    (RefreshTokens.revokeWhere scope column value).Notes exchange fun _ notes =>
      statements notes = [] ∨ ∃ at1 : Int, ⟨.now, at1⟩ ∈ notes ∧
        statements notes = [RefreshTokens.revokeStatement column value at1] := by
  refine Attempt.Notes.mapError (statements_connection_bind (fun _ => .inl) fun first hfirst => ?_)
  refine Attempt.notes_ask_bind fun at1 => ?_
  refine Attempt.Notes.mono (Attempt.Notes.bind_quiet (atMost_query scope _) fun _ =>
    Attempt.notes_ofOutcome rfl) fun _ rest hrest => ?_
  have hall : statements (first ++ (exchange Call.now at1 ++ rest)) = statements rest := by
    rw [statements_append, statements_append, hfirst, List.nil_append]
    rfl
  rw [hall]
  exact hrest.imp_right fun hsent => ⟨at1, by simp [exchange], hsent⟩

end Notes

namespace RefreshTokens

/-- What is sent for a token holds nothing of it but the digest. -/
structure SendsDigest (token : String) : Prop where
  create : ∀ (scope : Scope) (userId : Uuid) (expiresAt : Int) o notes,
    Transcript exchange (create scope userId token expiresAt) o notes → ∃ id at1,
      notes.take 2 = [⟨.freshId, id⟩, ⟨.now, at1⟩] ∧
      AtMost (insertStatement
        ⟨id, userId, RefreshToken.hash token, expiresAt, false, at1, at1⟩) notes
  getByToken : ∀ (scope : Scope) o notes, Transcript exchange (getByToken scope token) o notes →
    AtMost (selectStatement (RefreshToken.hash token)) notes
  revoke : ∀ (scope : Scope) o notes, Transcript exchange (revoke scope token) o notes →
    statements notes = [] ∨ ∃ at1, ⟨.now, at1⟩ ∈ notes ∧ statements notes =
      [revokeStatement "token_hash" (.text (RefreshToken.hash token)) at1]

theorem atMost_insert (scope : Scope) (t : RefreshToken) :
    (insert scope t).Notes exchange fun _ notes => AtMost (insertStatement t) notes := by
  refine Attempt.Notes.mapError (Attempt.Notes.bind_quiet (atMost_send scope _) fun _ => ?_)
  exact Attempt.notes_ofOutcome rfl

theorem sendsDigest (token : String) : SendsDigest token where
  create scope userId expiresAt := by
    refine Attempt.notes_ask_bind fun id => Attempt.notes_ask_bind fun at1 => ?_
    cases hmake : RefreshToken.make id at1 userId token expiresAt with
    | error e => exact Attempt.notes_ofOutcome ⟨id, at1, rfl, .inl rfl⟩
    | ok record =>
      change Attempt.Notes exchange (do
        insert scope record
        return record) _
      obtain ⟨-, -, -, rfl⟩ := RefreshToken.make_eq_ok hmake
      refine Attempt.Notes.mono (Attempt.Notes.bind_quiet (atMost_insert scope _) fun _ =>
        Attempt.notes_ofOutcome rfl) fun _ rest hrest => ⟨id, at1, rfl, hrest⟩
  getByToken scope := by
    refine Attempt.Notes.bind_quiet (Attempt.Notes.mapError (atMost_send scope _)) fun result => ?_
    cases result.rows with
    | nil => exact Attempt.notes_ofOutcome rfl
    | cons row rest => exact Attempt.notes_ofExcept rfl
  revoke scope :=
    Attempt.Notes.bind_quiet (atMost_of_revokeWhere scope _ _) fun _ => Attempt.notes_ofOutcome rfl

/-! ## Rows of records -/

variable {t : RefreshToken} {row : Values} {db : Database} {time : Int} {fresh : Uuid}
  {scope : Scope}

/-- The index of digests. -/
def digests : Index where
  name := "idx_refresh_tokens_token_hash"
  unique := true
  columns := ["token_hash"]

theorem mem_digests : digests ∈ Schema.refreshTokens.keys := by decide

theorem clash_digests :
    digests.clash (stored t) row = true ↔ row "token_hash" = .text t.tokenHash := by
  have hdigest : stored t "token_hash" = .text t.tokenHash := (keeps_stored t).tokenHash
  simp [Index.clash, Index.covers, digests, hdigest, Param.same_comm (.text _), Param.same_text]

/-- A live row in which a column has a value. -/
def isLiveRow (column : String) (value : Param) (row : Values) : Bool :=
  (row column).same value && (row "is_revoked").same (.bool false)

def revokedRow (now : Int) (row : Values) : Values :=
  Function.update (Function.update row "updated_at" (.int now)) "is_revoked" (.bool true)

theorem meets_live {column : String} {value : Param} {now : Int} :
    meets [⟨column, .param 1⟩, ⟨"is_revoked", .bool false⟩] [value, .int now] row =
      isLiveRow column value row := by
  simp [meets, Expr.value, isLiveRow]

theorem updatedRow_revoked {value : Param} {now : Int} :
    updatedRow [⟨"is_revoked", .bool true⟩, ⟨"updated_at", .param 2⟩] [value, .int now] row =
      revokedRow now row := by
  funext column
  by_cases hflag : column = "is_revoked"
  · subst hflag
    simp [updatedRow, revokedRow, Expr.value]
  · by_cases htime : column = "updated_at"
    · subst htime
      simp [updatedRow, revokedRow, Expr.value]
    · simp [updatedRow, revokedRow, hflag, htime, Ne.symm hflag, Ne.symm htime]

theorem revokedRow_stored (now : Int) : revokedRow now (stored t) = stored (t.revoke now) := by
  funext column
  by_cases hcolumn : column ∈ columns
  · simp only [columns, List.mem_cons, List.not_mem_nil, or_false] at hcolumn
    rcases hcolumn with rfl | rfl | rfl | rfl | rfl | rfl | rfl <;> rfl
  · have hempty (t : RefreshToken) : stored t column = .null := by
      rw [stored, insertedRow, List.idxOf_eq_length hcolumn]
      rfl
    have hflag : column ≠ "is_revoked" := by
      rintro rfl
      exact hcolumn (by decide)
    have htime : column ≠ "updated_at" := by
      rintro rfl
      exact hcolumn (by decide)
    rw [revokedRow, Function.update_of_ne hflag, Function.update_of_ne htime, hempty, hempty]

theorem isLiveRow_digest {digest : String} :
    isLiveRow "token_hash" (.text digest) (stored t) = (t.tokenHash == digest && !t.isRevoked) := by
  have hdigest : stored t "token_hash" = .text t.tokenHash := (keeps_stored t).tokenHash
  have hflag : stored t "is_revoked" = .bool t.isRevoked := (keeps_stored t).isRevoked
  simp [isLiveRow, hdigest, hflag, Param.same]

theorem isLiveRow_owner {userId : Uuid} :
    isLiveRow "user_id" (.uuid userId) (stored t) = (t.userId == userId && !t.isRevoked) := by
  have howner : stored t "user_id" = .uuid t.userId := (keeps_stored t).userId
  have hflag : stored t "is_revoked" = .bool t.isRevoked := (keeps_stored t).isRevoked
  simp [isLiveRow, howner, hflag, Param.same]

/-- The rows after a revocation. -/
def revokeRows (column : String) (value : Param) (now : Int) (rows : List Values) : List Values :=
  rows.map fun row => if isLiveRow column value row then revokedRow now row else row

theorem answer_revoke {column : String} {value : Param} {now : Int} :
    db.answer (revokeStatement column value now) =
      (.ok ⟨(db table).countP (isLiveRow column value), []⟩,
        Function.update db table (revokeRows column value now (db table))) := by
  refine (Database.answer_update mem_refreshTokens).trans ?_
  simp only [updatedRow_revoked, meets_live]
  have hmeets : meets [⟨column, .param 1⟩, ⟨"is_revoked", .bool false⟩] [value, .int now] =
      isLiveRow column value := funext fun _ => meets_live
  rw [hmeets]
  rfl

theorem run_revokeWhere {column : String} {value : Param} :
    Dialogue.run (Database.strict time fresh) (revokeWhere scope column value) db =
      (.ok ((db table).countP (isLiveRow column value)),
        Function.update db table (revokeRows column value time (db table))) := by
  refine Attempt.run_mapError IdentityError.ofStorage (o := .ok _) ?_
  rw [Attempt.run_bind Database.run_strict_connection]
  change (Outcome.map (·.affected) (.ofExcept (db.answer (revokeStatement column value time)).1),
    (db.answer (revokeStatement column value time)).2) = _
  rw [answer_revoke]
  rfl

/-! ## From creation to revocation -/

/-- The database with one more record. -/
def holding (db : Database) (t : RefreshToken) : Database :=
  Function.update db table (db table ++ [stored t])

theorem holding_table (db : Database) (t : RefreshToken) :
    holding db t table = db table ++ [stored t] := Function.update_self ..

theorem run_insert_free (hfree : Schema.refreshTokens.clashing? (db table) (stored t) = none) :
    Dialogue.run (Database.strict time fresh) (insert scope t) db = (.ok (), holding db t) :=
  Database.run_insertion_free mem_refreshTokens hfree

theorem run_insert_taken {i : Index}
    (htaken : Schema.refreshTokens.clashing? (db table) (stored t) = some i) :
    Dialogue.run (Database.strict time fresh) (insert scope t) db =
      (.failed (.ofStorage i.violation), db) :=
  Database.run_insertion_taken mem_refreshTokens htaken

section Creation

variable {userId : Uuid} {token : String} {expiresAt : Int}

/-- The id and the time are drawn before a record is made of them. -/
theorem run_create :
    Dialogue.run (Database.strict time fresh) (create scope userId token expiresAt) db =
      Dialogue.run (Database.strict time fresh) (do
        let record ← .ofExcept (RefreshToken.make fresh time userId token expiresAt)
        insert scope record
        return record : Step RefreshToken) db := rfl

/-- A record that is created is the one that is made with the id and the time that are drawn, and
its row clashes with no other. -/
theorem of_run_create {db' : Database}
    (h : Dialogue.run (Database.strict time fresh) (create scope userId token expiresAt) db =
      (.ok t, db')) :
    t = ⟨fresh, userId, RefreshToken.hash token, expiresAt, false, time, time⟩ ∧
      Schema.refreshTokens.clashing? (db table) (stored t) = none ∧ db' = holding db t := by
  rw [run_create] at h
  cases hmake : RefreshToken.make fresh time userId token expiresAt with
  | error e =>
    rw [hmake] at h
    cases h
  | ok record =>
    have hmade : Dialogue.run (Database.strict time fresh) (Attempt.ofExcept (.ok record) :
        Step RefreshToken) db = (.ok record, db) := rfl
    rw [hmake, Attempt.run_bind hmade] at h
    cases hfound : Schema.refreshTokens.clashing? (db table) (stored record) with
    | some i =>
      rw [Attempt.run_bind_failed (run_insert_taken hfound)] at h
      cases h
    | none =>
      rw [Attempt.run_bind (run_insert_free hfound)] at h
      obtain ⟨hrecord, hdb⟩ := Prod.mk.inj h
      obtain rfl := Outcome.ok.inj hrecord
      exact ⟨(RefreshToken.make_eq_ok hmake).2.2.2, hfound, hdb.symm⟩

end Creation

section Lifetime

variable {token : String}

/-- No other row has the digest of the record. -/
def Alone (db : Database) (t : RefreshToken) : Prop :=
  ∀ row ∈ db table, row "token_hash" ≠ .text t.tokenHash

theorem alone_of_free (hfree : Schema.refreshTokens.clashing? (db table) (stored t) = none) :
    Alone db t := by
  intro row hrow hdigest
  have hclash := Table.clashing?_eq_none.mp hfree digests mem_digests row hrow
  exact Bool.noConfusion (hclash.symm.trans (clash_digests.mpr hdigest))

theorem Alone.revoked (h : Alone db t) (revokedAt : Int) : Alone db (t.revoke revokedAt) := h

theorem Alone.run_getByToken (h : Alone db t) (hfor : t.isFor token = true) :
    Dialogue.run (Database.strict time fresh) (getByToken scope token) (holding db t) =
      (.ok t, holding db t) := by
  have hhash : t.tokenHash = RefreshToken.hash token := eq_of_beq hfor
  have hrow : stored t "token_hash" = .text (RefreshToken.hash token) := by
    rw [(keeps_stored t).tokenHash, hhash]
  have honly : OnlyRow (holding db t table) (stored t)
      fun x => x "token_hash" = .text (RefreshToken.hash token) := by
    refine ⟨db table, [], holding_table db t, fun x hx => ?_⟩
    rw [List.append_nil] at hx
    rw [← hhash]
    exact h x hx
  have hsent : Dialogue.run (Database.strict time fresh)
      ((send scope (selectStatement (RefreshToken.hash token))).mapError IdentityError.ofStorage)
      (holding db t) = (.ok ⟨1, [Schema.refreshTokens.cells columns (stored t)]⟩, holding db t) :=
    Attempt.run_mapError _ (Database.run_strict_select_one mem_refreshTokens
      (honly.imp fun _ => meets_text.mp) (meets_text.mpr hrow))
  unfold getByToken
  rw [Attempt.run_bind hsent]
  simp only [ofRow_cells (keeps_stored t)]
  rfl

/-- Of the rows of the table only that of the record is looked at. -/
theorem Alone.run_revoke (h : Alone db t) (hfor : t.isFor token = true) :
    Dialogue.run (Database.strict time fresh) (revoke scope token) (holding db t) =
      (.ok !t.isRevoked, holding db (if t.isRevoked then t else t.revoke time)) := by
  have hhash : t.tokenHash = RefreshToken.hash token := eq_of_beq hfor
  have hother : ∀ row ∈ db table,
      isLiveRow "token_hash" (.text (RefreshToken.hash token)) row = false := by
    intro row hrow
    have hdigest : (row "token_hash").same (.text (RefreshToken.hash token)) = false := by
      rw [Bool.eq_false_iff, Ne, Param.same_text, ← hhash]
      exact h row hrow
    rw [isLiveRow, hdigest, Bool.false_and]
  have hown : isLiveRow "token_hash" (.text (RefreshToken.hash token)) (stored t) =
      !t.isRevoked := by
    rw [isLiveRow_digest, ← hhash, beq_self_eq_true, Bool.true_and]
  have hcount : (holding db t table).countP
      (isLiveRow "token_hash" (.text (RefreshToken.hash token))) =
        if t.isRevoked then 0 else 1 := by
    rw [holding_table, List.countP_append, List.countP_eq_zero.mpr (by simpa using hother)]
    cases hflag : t.isRevoked <;> simp [hown, hflag]
  have hrows : revokeRows "token_hash" (.text (RefreshToken.hash token)) time (holding db t table) =
      db table ++ [stored (if t.isRevoked then t else t.revoke time)] := by
    rw [holding_table, revokeRows, List.map_append]
    congr 1
    · rw [List.map_congr_left (g := id) fun row hrow => by rw [hother row hrow]; rfl, List.map_id]
    · cases hflag : t.isRevoked <;> simp [hown, hflag, revokedRow_stored]
  have hdb : Function.update (holding db t) table
      (db table ++ [stored (if t.isRevoked then t else t.revoke time)]) =
      holding db (if t.isRevoked then t else t.revoke time) := Function.update_idem ..
  unfold revoke
  rw [Attempt.run_bind run_revokeWhere, hcount, hrows, hdb]
  cases t.isRevoked <;> rfl

/-- What becomes of a record that was created for a token. -/
structure Kept (token : String) (t : RefreshToken) (db : Database) : Prop where
  others : ∀ row ∈ db table, row "token_hash" ≠ .text (RefreshToken.hash token)
  found : ∀ (time : Int) (fresh : Uuid) (scope : Scope),
    Dialogue.run (Database.strict time fresh) (getByToken scope token) (holding db t) =
      (.ok t, holding db t)
  revokes : ∀ (time : Int) (fresh : Uuid) (scope : Scope),
    Dialogue.run (Database.strict time fresh) (revoke scope token) (holding db t) =
      (.ok true, holding db (t.revoke time))
  foundRevoked : ∀ (revokedAt time : Int) (fresh : Uuid) (scope : Scope),
    Dialogue.run (Database.strict time fresh) (getByToken scope token)
      (holding db (t.revoke revokedAt)) =
      (.ok (t.revoke revokedAt), holding db (t.revoke revokedAt))
  revokesOnce : ∀ (revokedAt time : Int) (fresh : Uuid) (scope : Scope),
    Dialogue.run (Database.strict time fresh) (revoke scope token)
      (holding db (t.revoke revokedAt)) = (.ok false, holding db (t.revoke revokedAt))

theorem Alone.kept (h : Alone db t) (hfor : t.isFor token = true) (hlive : t.isRevoked = false) :
    Kept token t db where
  others := by
    rw [← show t.tokenHash = RefreshToken.hash token from eq_of_beq hfor]
    exact h
  found _ _ _ := h.run_getByToken hfor
  revokes time fresh scope := by
    rw [h.run_revoke hfor, hlive]
    rfl
  foundRevoked revokedAt _ _ _ := (h.revoked revokedAt).run_getByToken hfor
  revokesOnce revokedAt _ _ _ := (h.revoked revokedAt).run_revoke hfor

end Lifetime

/-! ## One key for all paths -/

/-- Nothing that the repository does tells the tokens apart. -/
structure OneKey (token token' : String) : Prop where
  made : ∀ (id : Uuid) (now : Int) (userId : Uuid) (expiresAt : Int),
    RefreshToken.make id now userId token expiresAt =
      RefreshToken.make id now userId token' expiresAt
  create : ∀ (scope : Scope) (userId : Uuid) (expiresAt : Int),
    create scope userId token expiresAt = create scope userId token' expiresAt
  getByToken : ∀ scope : Scope, getByToken scope token = getByToken scope token'
  revoke : ∀ scope : Scope, revoke scope token = revoke scope token'

theorem oneKey {token token' : String} (htoken : token ≠ "") (htoken' : token' ≠ "")
    (hhash : RefreshToken.hash token = RefreshToken.hash token') : OneKey token token' where
  made := RefreshToken.make_congr htoken htoken' hhash
  create scope userId expiresAt := by
    unfold RefreshTokens.create
    simp only [RefreshToken.make_congr htoken htoken' hhash]
  getByToken scope := by rw [RefreshTokens.getByToken, RefreshTokens.getByToken, hhash]
  revoke scope := by rw [RefreshTokens.revoke, RefreshTokens.revoke, hhash]

/-- Tokens with one digest are one token to the repository, and of a token it sends the digest
alone. After a record was created on a server that keeps its unique indexes, the token finds this
record, revokes it once, and leaves all other rows as they were. -/
theorem tokens_go_by_digest :
    (∀ token token' : String, token ≠ "" → token' ≠ "" →
      RefreshToken.hash token = RefreshToken.hash token' → OneKey token token') ∧
    (∀ token : String, SendsDigest token) ∧
    (∀ (scope : Scope) (record : RefreshToken) o notes,
      Transcript exchange (insert scope record) o notes → AtMost (insertStatement record) notes) ∧
    ∀ (token : String) (userId : Uuid) (expiresAt time : Int) (fresh : Uuid) (scope : Scope)
      (db db' : Database) (record : RefreshToken),
      Dialogue.run (Database.strict time fresh) (create scope userId token expiresAt) db =
        (.ok record, db') →
      record = ⟨fresh, userId, RefreshToken.hash token, expiresAt, false, time, time⟩ ∧
        db' = holding db record ∧ Kept token record db := by
  refine ⟨fun _ _ => oneKey, sendsDigest, atMost_insert, ?_⟩
  intro token userId expiresAt time fresh scope db db' record h
  obtain ⟨hrecord, hfree, hdb⟩ := of_run_create h
  have hfor : record.isFor token = true := by
    rw [hrecord]
    exact beq_self_eq_true _
  have hlive : record.isRevoked = false := by rw [hrecord]
  exact ⟨hrecord, hdb, (alone_of_free hfree).kept hfor hlive⟩

/-- A token whose record is the first of its table. -/
theorem tokens_go_by_digest_raw :
    let record : RefreshToken := ⟨⟨1⟩, ⟨2⟩, RefreshToken.hash "raw", 10, false, 5, 5⟩
    let db : Database := fun _ => []
    "raw" ≠ "" ∧ OneKey "raw" "raw" ∧
      Dialogue.run (Database.strict 5 ⟨1⟩) (create .transaction ⟨2⟩ "raw" 10) db =
        (.ok record, holding db record) ∧ Kept "raw" record db := by
  intro record db
  have hraw : "raw" ≠ "" := by decide
  have hmake : RefreshToken.make ⟨1⟩ 5 ⟨2⟩ "raw" 10 = .ok record := rfl
  have hfree : Schema.refreshTokens.clashing? (db table) (stored record) = none := rfl
  have hmade : Dialogue.run (Database.strict 5 ⟨1⟩) (Attempt.ofExcept (.ok record) :
      Step RefreshToken) db = (.ok record, db) := rfl
  have hcreate : Dialogue.run (Database.strict 5 ⟨1⟩) (create .transaction ⟨2⟩ "raw" 10) db =
      (.ok record, holding db record) := by
    rw [run_create, hmake, Attempt.run_bind hmade, Attempt.run_bind (run_insert_free hfree)]
    rfl
  have hkept := tokens_go_by_digest.2.2.2 "raw" ⟨2⟩ 10 5 ⟨1⟩ .transaction db _ record hcreate
  exact ⟨hraw, tokens_go_by_digest.1 "raw" "raw" hraw hraw rfl, hcreate, hkept.2.2⟩

end RefreshTokens

end Sql

end SignIn
