import Mathlib.Data.List.Basic
import SignIn.Sql.Schema

/-!
# What the schema admits

The schema is given its meaning: which values a column takes, when a check holds, and
which rows a statement writes. Values that are within their limits make rows that the
schema admits, and the updates that are sent leave no other ones behind.

Numbers are words of the program already, and whether a row stands in the way of another
one is not looked at here.
-/
namespace SignIn

/-! ## The meaning of a schema -/

namespace Sql

/-- A row, as the value in each column. -/
abbrev Values : Type := String → Param

def Constant.param : Constant → Param
  | .word s => .text s
  | .number n => .int n
  | .no => .bool false

/-- Widths are counted in characters. -/
def ColumnType.Admits : ColumnType → Param → Prop
  | .uuid, .uuid _ | .text, .text _ | .bigint, .int _ | .integer, .int _ => True
  | .boolean, .bool _ | .jsonb, .json _ => True
  | .varchar size, .text s => s.length ≤ size
  | .char size, .text s => s.length = size
  | _, _ => False

/-- Only an optional column may be empty. -/
def Column.Admits (c : Column) (value : Param) : Prop :=
  (value = .null → c.presence = .optional) ∧ (value ≠ .null → c.type.Admits value)

def Condition.Holds (row : Values) : Condition → Prop
  | present column => row column ≠ .null
  | greater a b => ∃ m n : Int, row a = .int m ∧ row b = .int n ∧ n < m
  | equal column value => row column = value.param
  | oneOf column values => ∃ value ∈ values, row column = value.param
  | both a b => a.Holds row ∧ b.Holds row
  | either a b => a.Holds row ∨ b.Holds row

structure Table.Admits (t : Table) (row : Values) : Prop where
  columns : ∀ c ∈ t.columns, c.Admits (row c.name)
  check : t.check.condition.Holds row

/-- An insert fills every column with the parameter at its place. -/
def insertedRow (columns : List String) (params : List Param) : Values :=
  fun column => params.getD (columns.idxOf column) .null

/-- The value of an expression at a row. What is not known counts as not reached. -/
def Expr.value (params : List Param) (row : Values) : Expr → Param
  | .param place => params.getD (place - 1) .null
  | .bool b => .bool b
  | .null => .null
  | .text s => .text s
  | .column name => row name
  | .next e =>
    match e.value params row with
    | .int n => .int (n + 1)
    | _ => .null
  | .choose a b yes no =>
    match a.value params row, b.value params row with
    | .int m, .int n => if n ≤ m then yes.value params row else no.value params row
    | _, _ => no.value params row

/-- An update changes the columns that it names. -/
def updatedRow (changes : List Equation) (params : List Param) (row : Values) : Values :=
  fun column => (changes.find? (·.column == column)).elim (row column) (·.value.value params row)

/-- The rows that a statement writes into a table whose rows are admitted so far. -/
inductive Statement.Writes (t : Table) : Statement → Values → Prop where
  | insert {columns : List String} {params : List Param} :
      Writes t ⟨.insert t.name columns, params⟩ (insertedRow columns params)
  | update {changes conditions : List Equation} {returning : List String} {params : List Param}
      {row : Values} : t.Admits row →
      Writes t ⟨.update t.name changes conditions returning, params⟩
        (updatedRow changes params row)

def Schema.tables : List Table := Migration.all.map Migration.table

/-- Into no table of the schema is a row written that the table does not admit. -/
def Statement.IsLawful (statement : Statement) : Prop :=
  ∀ t ∈ Schema.tables, ∀ row, statement.Writes t row → t.Admits row

end Sql

open Sql

/-! ## Values within their limits -/

structure User.Fits (u : User) : Prop where
  email : ∀ s, u.email = some s → s ≠ "" ∧ s.length ≤ 254
  countryCode : ∀ s, u.countryCode = some s → s ≠ "" ∧ s.length ≤ 2
  phoneNumber : ∀ s, u.phoneNumber = some s → s ≠ "" ∧ s.length ≤ 15
  username : u.username.length ≤ 30
  contact : u.email.isSome ∨ u.countryCode.isSome ∧ u.phoneNumber.isSome

def Hex.IsLower (c : Char) : Prop := '0' ≤ c ∧ c ≤ '9' ∨ 'a' ≤ c ∧ c ≤ 'f'

structure RefreshToken.Fits (t : RefreshToken) : Prop where
  width : t.tokenHash.length = 64
  digits : ∀ c ∈ t.tokenHash.toList, Hex.IsLower c
  lifetime : t.createdAt < t.expiresAt

structure OutboxEvent.Fits (e : OutboxEvent) : Prop where
  name : e.name.length ≤ 64
  status : .word e.status.text ∈ Schema.statusWords

/-! ## What fits is admitted -/

namespace Sql

theorem Column.admits_iff {c : Column} {value : Param} (h : value ≠ .null) :
    c.Admits value ↔ c.type.Admits value := by
  simp [Column.Admits, h]

theorem Column.admits_ofText? {c : Column} {s : Option String} :
    c.Admits (.ofText? s) ↔ (s = none → c.presence = .optional) ∧
      ∀ text, s = some text → c.type.Admits (.text text) := by
  cases s <;> simp [Param.ofText?, Column.Admits]

theorem Param.ofText?_eq_null {s : Option String} : Param.ofText? s = .null ↔ s = none := by
  cases s <;> simp [Param.ofText?]

theorem admits_user {u : User} (h : u.Fits) :
    Schema.users.Admits (insertedRow Users.columns (Users.params u)) := by
  constructor
  · have hemail (s : String) (hs : u.email = some s) : s.length ≤ 254 := (h.email s hs).2
    have hcountry (s : String) (hs : u.countryCode = some s) : s.length ≤ 2 :=
      (h.countryCode s hs).2
    have hnumber (s : String) (hs : u.phoneNumber = some s) : s.length ≤ 15 :=
      (h.phoneNumber s hs).2
    simpa [Schema.users, insertedRow, Users.columns, Users.params, Column.admits_ofText?,
      Column.admits_iff, ColumnType.Admits, h.username] using ⟨hemail, hcountry, hnumber⟩
  · simpa [Schema.users, insertedRow, Users.columns, Users.params, Condition.Holds,
      Param.ofText?_eq_null, Option.isSome_iff_ne_none] using h.contact

theorem admits_token {t : RefreshToken} (h : t.Fits) :
    Schema.refreshTokens.Admits (insertedRow RefreshTokens.columns (RefreshTokens.params t)) := by
  constructor
  · simp [Schema.refreshTokens, insertedRow, RefreshTokens.columns, RefreshTokens.params,
      Column.admits_iff, ColumnType.Admits, h.width]
  · exact ⟨t.expiresAt, t.createdAt, rfl, rfl, h.lifetime⟩

theorem length_status (s : OutboxStatus) : s.text.length ≤ 16 := by cases s <;> decide

theorem admits_event {e : OutboxEvent} (h : e.Fits) :
    Schema.outboxEvents.Admits (insertedRow Outbox.columns (Outbox.params e)) := by
  constructor
  · simp [Schema.outboxEvents, insertedRow, Outbox.columns, Outbox.params, Column.admits_ofText?,
      Column.admits_iff, ColumnType.Admits, h.name, length_status]
  · exact ⟨_, h.status, rfl⟩

/-! ## Updates -/

/-- An update has to fill the columns that it names with what they take, and to leave the check
as it is. -/
theorem admits_updatedRow {t : Table} {changes : List Equation} {params : List Param} {row : Values}
    (h : t.Admits row)
    (hchanges : ∀ change ∈ changes, ∀ c ∈ t.columns, c.name = change.column →
      c.Admits (change.value.value params row))
    (hcheck : t.check.condition.Holds (updatedRow changes params row)) :
    t.Admits (updatedRow changes params row) := by
  refine ⟨fun c hc => ?_, hcheck⟩
  unfold updatedRow
  cases hfind : changes.find? (·.column == c.name) with
  | none => exact h.columns c hc
  | some change =>
    have hname : change.column = c.name := by simpa using List.find?_some hfind
    exact hchanges change (List.mem_of_find?_eq_some hfind) c hc hname.symm

/-- The check of the events looks at the status alone. -/
theorem holds_status {row : Values} (s : OutboxStatus) (h : row "status" = .text s.text) :
    Schema.outboxEvents.check.condition.Holds row := by
  refine ⟨.word s.text, ?_, h⟩
  cases s <;> simp [Schema.statusWords]

/-! ## Lawful statements -/

namespace Statement

/-- Tables are told apart by their names. -/
theorem table_eq_of_name {t t' : Table} (ht : t ∈ Schema.tables) (ht' : t' ∈ Schema.tables)
    (h : t.name = t'.name) : t = t' := by
  have hall : ∀ t ∈ Schema.tables, ∀ t' ∈ Schema.tables, t.name = t'.name → t = t' := by decide
  exact hall t ht t' ht' h

theorem isLawful_insert {t : Table} (ht : t ∈ Schema.tables) {columns : List String}
    {params : List Param} (h : t.Admits (insertedRow columns params)) :
    IsLawful ⟨.insert t.name columns, params⟩ := by
  intro t' ht' row hw
  generalize hname : t.name = name at hw
  cases hw with
  | insert =>
    rw [← table_eq_of_name ht ht' hname]
    exact h

theorem isLawful_update {t : Table} (ht : t ∈ Schema.tables) {changes conditions : List Equation}
    {returning : List String} {params : List Param}
    (h : ∀ row, t.Admits row → t.Admits (updatedRow changes params row)) :
    IsLawful ⟨.update t.name changes conditions returning, params⟩ := by
  intro t' ht' row hw
  generalize hname : t.name = name at hw
  cases hw with
  | update hrow =>
    rw [← table_eq_of_name ht ht' hname] at hrow ⊢
    exact h _ hrow

theorem isLawful_select {columns : List String} {table : String} {conditions : List Equation}
    {order : List String} {limit : Option Expr} {params : List Param} :
    IsLawful ⟨.select columns table conditions order limit, params⟩ := by
  rintro t - row ⟨⟩

end Statement

theorem mem_users : Schema.users ∈ Schema.tables := .head _

theorem mem_refreshTokens : Schema.refreshTokens ∈ Schema.tables := .tail _ (.head _)

theorem mem_outboxEvents : Schema.outboxEvents ∈ Schema.tables := .tail _ (.tail _ (.head _))

theorem isLawful_insertUser {u : User} (h : u.Fits) : (Users.insertStatement u).IsLawful :=
  Statement.isLawful_insert mem_users (admits_user h)

theorem isLawful_insertToken {t : RefreshToken} (h : t.Fits) :
    (RefreshTokens.insertStatement t).IsLawful :=
  Statement.isLawful_insert mem_refreshTokens (admits_token h)

theorem isLawful_insertEvent {e : OutboxEvent} (h : e.Fits) : (Outbox.insertStatement e).IsLawful :=
  Statement.isLawful_insert mem_outboxEvents (admits_event h)

theorem isLawful_revoke (column : String) (value : Param) (now : Int) :
    (RefreshTokens.revokeStatement column value now).IsLawful := by
  refine Statement.isLawful_update mem_refreshTokens fun row h => admits_updatedRow h ?_ ?_
  · simp [Schema.refreshTokens, Expr.value, Column.Admits, ColumnType.Admits]
  · obtain ⟨m, n, hm, hn, hlt⟩ := h.check
    exact ⟨m, n, by simp [updatedRow, hm], by simp [updatedRow, hn], hlt⟩

theorem isLawful_success (id : Uuid) (now : Int) : (Outbox.successStatement id now).IsLawful := by
  refine Statement.isLawful_update mem_outboxEvents fun row h => admits_updatedRow h ?_ ?_
  · simp [Schema.outboxEvents, Expr.value, Column.Admits, ColumnType.Admits, length_status]
  · exact holds_status .success rfl

theorem isLawful_failed (id : Uuid) (error : String) (now : Int) :
    (Outbox.failedStatement id error now).IsLawful := by
  refine Statement.isLawful_update mem_outboxEvents fun row h => admits_updatedRow h ?_ ?_
  · simp [Schema.outboxEvents, Expr.value, Column.Admits, ColumnType.Admits, length_status]
  · exact holds_status .failed rfl

/-- A column of numbers that may not be empty holds a number. -/
theorem exists_attempts {row : Values} (h : Schema.outboxEvents.Admits row) :
    ∃ n : Int, row "attempts" = .int n := by
  have hcolumn := h.columns { name := "attempts", type := .integer, default := some (.number 0) }
    (by simp [Schema.outboxEvents])
  cases hvalue : row "attempts" with
  | int n => exact ⟨n, rfl⟩
  | _ => simp [Column.Admits, ColumnType.Admits, hvalue] at hcolumn

/-- Whichever branch is taken, the status after an attempt is one of the known words. -/
theorem isLawful_attempt (id : Uuid) (error : String) (maxAttempts now : Int) :
    (Outbox.attemptStatement id error maxAttempts now).IsLawful := by
  refine Statement.isLawful_update mem_outboxEvents fun row h => ?_
  obtain ⟨n, hn⟩ := exists_attempts h
  by_cases hlast : maxAttempts ≤ n + 1
  · refine admits_updatedRow h ?_ (holds_status .failed ?_)
    · simp [Schema.outboxEvents, Expr.value, Column.Admits, ColumnType.Admits, length_status, hn,
        hlast]
    · simp [updatedRow, Expr.value, hn, hlast]
  · refine admits_updatedRow h ?_ (holds_status .pending ?_)
    · simp [Schema.outboxEvents, Expr.value, Column.Admits, ColumnType.Admits, length_status, hn,
        hlast]
    · simp [updatedRow, Expr.value, hn, hlast]

end Sql

end SignIn
