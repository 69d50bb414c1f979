import Mathlib.Logic.Relation
import SignIn.Proofs.Histories
import SignIn.Proofs.ScopeRouting
import SignIn.Proofs.TokenRecords

/-!
# The service on its database

Every call that the service makes of its stores is the work of a repository on a server that keeps
its unique indexes. A transaction has tables of its own, which become everybody's when it is
committed. The server may refuse connections, fail to do what it is told, or do it without a word.
Whatever it does and whatever is requested, no two records of refresh tokens have one digest.
-/
namespace SignIn

namespace Sql

/-- The tables that all see, and those of the open transaction. -/
structure Server where
  shared : Database := fun _ => []
  own : Option Database := none

namespace Server

def database (s : Server) : Scope → Database
  | .ambient => s.shared
  | .transaction => s.own.getD s.shared

def setDatabase (s : Server) (scope : Scope) (db : Database) : Server :=
  match scope, s.own with
  | .transaction, some _ => { s with own := some db }
  | _, _ => { s with shared := db }

def execute (s : Server) (scope : Scope) (statement : Statement) :
    Except StorageError Result × Server :=
  match statement.command with
  | .begin => (.ok {}, { s with own := some s.shared })
  | .commit => (.ok {}, ⟨s.own.getD s.shared, none⟩)
  | .rollback => (.ok {}, { s with own := none })
  | _ =>
    let done := (s.database scope).answer statement
    (done.1, s.setDatabase scope done.2)

/-- What a statement leaves behind whose answer is an error of the connection. -/
inductive Remains (s : Server) (scope : Scope) (statement : Statement) : Server → Prop where
  | nothing : Remains s scope statement s
  | effect : Remains s scope statement (s.execute scope statement).2
  | dropped : Remains s scope statement { s with own := none }

/-- The answers of the server, with or without faults. -/
inductive Replies (faults : Prop) : Conduct Call Answer Server where
  | now (time : Int) {s : Server} : Replies faults .now s time s
  | freshId (id : Uuid) {s : Server} : Replies faults .freshId s id s
  | acquired {s : Server} : Replies faults .acquire s (.ok ()) s
  | refused (e : StorageError) {s : Server} : faults → Replies faults .acquire s (.error e) s
  | done {scope : Scope} {statement : Statement} {s : Server} :
      Replies faults (.query scope statement) s (s.execute scope statement).1
        (s.execute scope statement).2
  | fails (e : StorageError) {scope : Scope} {statement : Statement} {s s' : Server} :
      faults → s.Remains scope statement s' →
      Replies faults (.query scope statement) s (.error e) s'

end Server

/-! ## Digests stay apart -/

/-- The refresh tokens are records, no two of which have one digest. -/
def Database.Tidy (db : Database) : Prop :=
  ∃ records : List RefreshToken, db RefreshTokens.table = records.map RefreshTokens.stored ∧
    (records.map (·.tokenHash)).Nodup

/-- Done in any tidy database, the statement leaves it tidy. -/
def Statement.IsTame (statement : Statement) : Prop :=
  ∀ db : Database, db.Tidy → (db.answer statement).2.Tidy

namespace Database

variable {db : Database} {statement : Statement}

/-- A statement changes no table but its own. -/
theorem answer_table_of_ne {name : String} (h : statement.command.table? ≠ some name) :
    (db.answer statement).2 name = db name := by
  have hexecute : (db.execute statement).2 name = db name := by
    unfold execute
    cases htable : statement.command.table?.bind Schema.table? with
    | none => rfl
    | some t =>
      obtain ⟨name', hname', ht⟩ := Option.bind_eq_some_iff.mp htable
      have ht' : t.name = name' := by simpa using List.find?_some ht
      refine Function.update_of_ne ?_ _ _
      rintro rfl
      exact h (ht' ▸ hname')
  unfold answer
  split
  · rfl
  · exact hexecute

theorem answer_select_db {columns : List String} {table : String} {conditions : List Equation}
    {order : List String} {limit : Option Expr} {params : List Param} :
    (db.answer ⟨.select columns table conditions order limit, params⟩).2 = db := by
  change (db.execute _).2 = db
  unfold execute
  split
  · rfl
  · exact Function.update_eq_self ..

end Database

namespace Statement

theorem isTame_elsewhere {statement : Statement}
    (h : statement.command.table? ≠ some RefreshTokens.table) : statement.IsTame := by
  rintro db ⟨records, hdb, hnodup⟩
  exact ⟨records, by rw [Database.answer_table_of_ne h, hdb], hnodup⟩

theorem isTame_select {columns : List String} {table : String} {conditions : List Equation}
    {order : List String} {limit : Option Expr} {params : List Param} :
    IsTame ⟨.select columns table conditions order limit, params⟩ := by
  intro db hdb
  rwa [Database.answer_select_db]

end Statement

namespace RefreshTokens

theorem isTame_insert (t : RefreshToken) : (insertStatement t).IsTame := by
  rintro db ⟨records, hdb, hnodup⟩
  cases hfound : Schema.refreshTokens.clashing? (db table) (stored t) with
  | some i =>
    have hanswer : db.answer (insertStatement t) = (.error i.violation, db) :=
      Database.answer_insert_taken mem_refreshTokens hfound
    rw [hanswer]
    exact ⟨records, hdb, hnodup⟩
  | none =>
    have hanswer : db.answer (insertStatement t) = (.ok ⟨1, []⟩, holding db t) :=
      Database.answer_insert_free mem_refreshTokens hfound
    have halone := alone_of_free hfound
    rw [hanswer]
    refine ⟨records ++ [t], by simp [holding_table, hdb], ?_⟩
    rw [List.map_append, List.nodup_append]
    refine ⟨hnodup, List.pairwise_singleton .., fun digest hdigest digest' hdigest' => ?_⟩
    obtain ⟨other, hother, rfl⟩ := List.mem_map.mp hdigest
    obtain rfl := List.mem_singleton.mp hdigest'
    intro hsame
    refine halone (stored other) ?_ ?_
    · rw [hdb]
      exact List.mem_map_of_mem hother
    · rw [(keeps_stored other).tokenHash, hsame]

end RefreshTokens

end Sql

/-- A record after a revocation of the live records that are concerned. -/
def RefreshToken.revise (concerned : RefreshToken → Bool) (now : Int) (t : RefreshToken) :
    RefreshToken :=
  if Service.Tables.isLive concerned t then t.revoke now else t

theorem RefreshToken.tokenHash_revise (concerned : RefreshToken → Bool) (now : Int)
    (t : RefreshToken) : (t.revise concerned now).tokenHash = t.tokenHash := by
  unfold revise
  split <;> rfl

namespace Sql

namespace RefreshTokens

variable {column : String} {value : Param} {concerned : RefreshToken → Bool}

theorem revokeRows_stored
    (hlive : ∀ t, isLiveRow column value (stored t) = Service.Tables.isLive concerned t) (now : Int)
    (records : List RefreshToken) : revokeRows column value now (records.map stored) =
      (records.map (RefreshToken.revise concerned now)).map stored := by
  simp only [revokeRows, List.map_map]
  refine List.map_congr_left fun t _ => ?_
  simp only [Function.comp, hlive, RefreshToken.revise, revokedRow_stored]
  split <;> rfl

theorem isTame_revoke
    (hlive : ∀ t, isLiveRow column value (stored t) = Service.Tables.isLive concerned t)
    (now : Int) : (revokeStatement column value now).IsTame := by
  rintro db ⟨records, hdb, hnodup⟩
  refine ⟨records.map (RefreshToken.revise concerned now), ?_, ?_⟩
  · rw [answer_revoke]
    have hrows : Function.update db table (revokeRows column value now (db table)) table = _ :=
      Function.update_self ..
    refine hrows.trans ?_
    rw [hdb, revokeRows_stored hlive]
  · rw [List.map_map]
    simpa only [Function.comp_def, RefreshToken.tokenHash_revise] using hnodup

end RefreshTokens

/-- No request to the repositories brings two records with one digest about. -/
theorem Request.Means.isTame {q : Request} {statement : Statement} (h : q.Means statement) :
    statement.IsTame := by
  obtain ⟨id, now, hstatement⟩ := h
  cases q with
  | createUser u =>
    obtain rfl := Option.some.inj hstatement
    have htable : some Users.table ≠ some RefreshTokens.table := by decide
    exact Statement.isTame_elsewhere htable
  | insertEvent event =>
    obtain rfl := Option.some.inj hstatement
    have htable : some Outbox.table ≠ some RefreshTokens.table := by decide
    exact Statement.isTame_elsewhere htable
  | userById | userByEmail | userByPhone | tokenRecord =>
    obtain rfl := Option.some.inj hstatement
    exact Statement.isTame_select
  | insertToken record =>
    obtain rfl := Option.some.inj hstatement
    exact RefreshTokens.isTame_insert record
  | createToken userId token expiresAt =>
    obtain ⟨record, -, rfl⟩ := Option.map_eq_some_iff.mp hstatement
    exact RefreshTokens.isTame_insert record
  | revokeToken token =>
    obtain rfl := Option.some.inj hstatement
    exact RefreshTokens.isTame_revoke (fun _ => RefreshTokens.isLiveRow_digest) now
  | revokeUserTokens userId =>
    obtain rfl := Option.some.inj hstatement
    exact RefreshTokens.isTame_revoke (fun _ => RefreshTokens.isLiveRow_owner) now

namespace Server

/-- No two records have one digest, neither in what all see nor in the open transaction. -/
structure Tidy (s : Server) : Prop where
  shared : s.shared.Tidy
  own : ∀ db, s.own = some db → db.Tidy

variable {s s' : Server} {scope : Scope} {statement : Statement}

theorem Tidy.database (h : s.Tidy) (scope : Scope) : (s.database scope).Tidy := by
  cases scope with
  | ambient => exact h.shared
  | transaction =>
    cases hown : s.own with
    | none => simpa [Server.database, hown] using h.shared
    | some db => simpa [Server.database, hown] using h.own db hown

theorem Tidy.setDatabase {db : Database} (h : s.Tidy) (hdb : db.Tidy) (scope : Scope) :
    (s.setDatabase scope db).Tidy := by
  unfold Server.setDatabase
  split
  · refine ⟨h.shared, fun db' hdb' => ?_⟩
    obtain rfl := Option.some.inj hdb'
    exact hdb
  · exact ⟨hdb, h.own⟩

theorem Tidy.execute (h : s.Tidy) (hstatement : statement.IsTame) (scope : Scope) :
    (s.execute scope statement).2.Tidy := by
  unfold Server.execute
  split
  · refine ⟨h.shared, fun db hdb => ?_⟩
    obtain rfl := Option.some.inj hdb
    exact h.shared
  · exact ⟨h.database .transaction, fun _ hdb => (by cases hdb)⟩
  · exact ⟨h.shared, fun _ hdb => (by cases hdb)⟩
  · exact h.setDatabase (hstatement _ (h.database scope)) scope

theorem Tidy.remains (h : s.Tidy) (hstatement : statement.IsTame)
    (hremains : s.Remains scope statement s') : s'.Tidy := by
  cases hremains with
  | nothing => exact h
  | effect => exact h.execute hstatement scope
  | dropped => exact ⟨h.shared, fun _ hdb => (by cases hdb)⟩

end Server

def Line.IsTame : Line → Prop
  | .acquired _ => True
  | .sent _ statement _ => statement.IsTame

theorem Server.Tidy.replies {faults : Prop} {c : Call} {answer : Answer c} {s s' : Server}
    (h : s.Tidy) (hlines : ∀ line ∈ lines c answer, line.IsTame)
    (hreplies : Server.Replies faults c s answer s') : s'.Tidy := by
  cases hreplies with
  | now | freshId | acquired | refused => exact h
  | done => exact h.execute (hlines _ (List.mem_singleton_self _)) _
  | fails e _ hremains => exact h.remains (hlines _ (List.mem_singleton_self _)) hremains

/-- A dialogue of which only tame statements are noted keeps the server tidy. -/
theorem Server.Tidy.of_runs {faults : Prop} {α : Type} {d : Dialogue Call Answer α} {value : α}
    {s s' : Server} (h : s.Tidy)
    (htame : ∀ notes, d.Transcript lines value notes → ∀ line ∈ notes, line.IsTame)
    (hr : d.Runs (Server.Replies faults) s value s') : s'.Tidy :=
  Dialogue.Runs.preserves_noted htame (fun _ _ _ _ hlines hs hc => hs.replies hlines hc) hr h

theorem Request.Sends.isTame {q : Request} {scope : Scope} {notes : List Line}
    (h : q.Sends scope notes) : ∀ line ∈ notes, line.IsTame := by
  cases h with
  | unmade => simp
  | inTransaction answer hmeans => simpa [Line.IsTame] using hmeans.isTame
  | overPool answer hmeans => simpa [Line.IsTame] using hmeans.isTame
  | noConnection e => simp [Line.IsTame]

theorem Command.isTame_control {command : Command} (h : command.table? = none) :
    Statement.IsTame ⟨command, []⟩ :=
  Statement.isTame_elsewhere (by rw [h]; exact fun hsome => (by cases hsome))

theorem Opens.isTame {options : TxOptions} {result : Except StorageError Unit} {notes : List Line}
    (h : Opens options result notes) : ∀ line ∈ notes, line.IsTame := by
  have hbegin : Statement.IsTame ⟨.begin, []⟩ := Command.isTame_control rfl
  have hset : Statement.IsTame ⟨.setTransaction options, []⟩ := Command.isTame_control rfl
  have hrollback : Statement.IsTame ⟨.rollback, []⟩ := Command.isTame_control rfl
  cases h <;> simp [Line.IsTame, hbegin, hset, hrollback]

theorem Closes.isTame {command : Command} {result : Except StorageError Unit} {notes : List Line}
    (h : Closes command result notes) (hcommand : command.table? = none) :
    ∀ line ∈ notes, line.IsTame := by
  have hend : Statement.IsTame ⟨command, []⟩ := Command.isTame_control hcommand
  have hrollback : Statement.IsTame ⟨.rollback, []⟩ := Command.isTame_control rfl
  cases h <;> simp [Line.IsTame, hend, hrollback]

end Sql

/-! ## The service -/

namespace Service

open Sql

/-- What a repository may answer, if it does not panic. -/
def Performs (faults : Prop) (scope : Scope) (q : Sql.Request) (s : Server)
    (answer : Except q.Error q.Value) (s' : Server) : Prop :=
  Dialogue.Runs (Server.Replies faults) (q.perform scope) s (.ofExcept answer) s'

/-- What a call of the service comes to. Times and draws do not come from the server. -/
def Backed (faults : Prop) : Conduct Call Answer Server
  | .now, s, _, s' | .instant, s, _, s' | .freshId, s, _, s' | .freshSalt, s, _, s' => s' = s
  | .begin options, s, answer, s' =>
    (Sql.manager.begin options).Runs (Server.Replies faults) s answer s'
  | .commit, s, answer, s' => Sql.manager.commit.Runs (Server.Replies faults) s answer s'
  | .rollback, s, answer, s' => Sql.manager.rollback.Runs (Server.Replies faults) s answer s'
  | .abandon, s, answer, s' => Sql.manager.abandon.Runs (Server.Replies faults) s answer s'
  | .createUser scope user, s, answer, s' => Performs faults scope (.createUser user) s answer s'
  | .userById scope id, s, answer, s' => Performs faults scope (.userById id) s answer s'
  | .userByEmail scope address, s, answer, s' =>
    Performs faults scope (.userByEmail address) s answer s'
  | .userByPhone scope country number, s, answer, s' =>
    Performs faults scope (.userByPhone country number) s answer s'
  | .insertToken scope record, s, answer, s' =>
    Performs faults scope (.insertToken record) s answer s'
  | .tokenRecord scope token, s, answer, s' =>
    Performs faults scope (.tokenRecord token) s answer s'
  | .revokeToken scope token, s, answer, s' =>
    Performs faults scope (.revokeToken token) s answer s'
  | .revokeUserTokens scope userId, s, answer, s' =>
    Performs faults scope (.revokeUserTokens userId) s answer s'
  | .insertEvent scope event, s, answer, s' =>
    Performs faults scope (.insertEvent event) s answer s'

variable {faults : Prop} {s s' : Server}

theorem tidy_of_performs {scope : Scope} {q : Sql.Request} {answer : Except q.Error q.Value}
    (hs : s.Tidy) (h : Performs faults scope q s answer s') : s'.Tidy :=
  hs.of_runs (fun notes hnotes => (notes_perform scope q _ notes hnotes).isTame) h

theorem tidy_of_ends {command : Command} (hcommand : command.table? = none)
    {answer : Except StorageError Unit} (hs : s.Tidy)
    (h : (endWith command).Runs (Server.Replies faults) s answer s') : s'.Tidy :=
  hs.of_runs (fun _ hnotes => (closes_of_transcript hnotes).isTame hcommand) h

theorem tidy_of_backed {c : Call} {answer : Answer c} (hs : s.Tidy)
    (h : Backed faults c s answer s') : s'.Tidy := by
  cases c with
  | now | instant | freshId | freshSalt =>
    obtain rfl : s' = s := h
    exact hs
  | begin options => exact hs.of_runs (fun _ hnotes => (opens_of_transcript hnotes).isTame) h
  | commit => exact tidy_of_ends rfl hs h
  | rollback => exact tidy_of_ends rfl hs h
  | abandon =>
    refine hs.of_runs (fun notes hnotes => ?_) h
    obtain ⟨answer, _, ⟨-, rfl⟩, rfl⟩ := Dialogue.transcript_ask.mp hnotes
    simpa [lines, Line.IsTame] using Command.isTame_control rfl
  | createUser | userById | userByEmail | userByPhone => exact tidy_of_performs hs h
  | insertToken | tokenRecord | revokeToken | revokeUserTokens => exact tidy_of_performs hs h
  | insertEvent => exact tidy_of_performs hs h

/-- Any operation of any issuer, while the server may fail at every statement. -/
def Served (s s' : Server) : Prop :=
  ∃ (issuer : Issuer) (q : Request) (o : Outcome IdentityError q.Reply),
    Dialogue.Runs (Backed True) (issuer.serve q) s o s'

/-- A server that started empty and served one operation after the other. -/
def Reachable (s : Server) : Prop := Relation.ReflTransGen Served {} s

theorem tidy_of_reachable (h : Reachable s) : s.Tidy := by
  induction h with
  | refl =>
    have hempty : Database.Tidy fun _ => [] := ⟨[], rfl, .nil⟩
    exact ⟨hempty, fun _ hdb => (by cases hdb)⟩
  | tail _ hserved ih =>
    obtain ⟨issuer, q, o, hr⟩ := hserved
    exact hr.preserves (fun _ _ _ _ hs hc => tidy_of_backed hs hc) ih

end Service

end SignIn
