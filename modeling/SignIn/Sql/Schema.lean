import SignIn.Failure.Storage
import SignIn.Sql.Outbox
import SignIn.Sql.RefreshTokens
import SignIn.Sql.Users

/-!
# The schema

The tables with their columns, conditions and indexes, and the migrations that
create them. Each migration can be run again on a database that has it.
-/

namespace SignIn.Sql

/-- The types of columns that the schema uses. -/
inductive ColumnType where
  | uuid
  | varchar (size : Nat)
  | char (size : Nat)
  | text
  | bigint
  | integer
  | boolean
  | jsonb
  deriving DecidableEq, Repr

/-- The type as it is declared. -/
def ColumnType.sql : ColumnType → String
  | .uuid => "UUID"
  | .varchar size => "VARCHAR(" ++ Decimal.text size ++ ")"
  | .char size => "CHAR(" ++ Decimal.text size ++ ")"
  | .text => "TEXT"
  | .bigint => "BIGINT"
  | .integer => "INTEGER"
  | .boolean => "BOOLEAN"
  | .jsonb => "JSONB"

/-- A value that a schema mentions. -/
inductive Constant where
  | word (s : String)
  | number (n : Nat)
  | no
  deriving DecidableEq, Repr

/-- The constant as it is written in a statement. -/
def Constant.sql : Constant → String
  | .word s => "'" ++ s ++ "'"
  | .number n => Decimal.text n
  | .no => "FALSE"

/-- May a column be empty, and is it the key of its table? -/
inductive Presence where
  | key
  | required
  | optional
  deriving DecidableEq, Repr

/-- The words behind the type of a column. -/
def Presence.sql : Presence → String
  | .key => " PRIMARY KEY"
  | .required => " NOT NULL"
  | .optional => ""

/-- The declaration of a column, with the table that owns its values, if there is one. -/
structure Column where
  name : String
  type : ColumnType
  presence : Presence := .required
  default : Option Constant := none
  owner : Option String := none
  deriving DecidableEq, Repr

/-- A row that belongs to a row of another table goes when its owner goes. -/
def Column.sql (c : Column) : String :=
  c.name ++ " " ++ c.type.sql ++ c.presence.sql ++
    (c.default.elim "" fun value => " DEFAULT " ++ value.sql) ++
    (c.owner.elim "" fun table => " REFERENCES " ++ table ++ " (id) ON DELETE CASCADE")

/-- What a row has to fulfil. -/
inductive Condition where
  | present (column : String)
  | greater (a b : String)
  | equal (column : String) (value : Constant)
  | oneOf (column : String) (values : List Constant)
  | both (a b : Condition)
  | either (a b : Condition)
  deriving DecidableEq, Repr

namespace Condition

/-- The condition as it is written in a declaration. -/
def sql : Condition → String
  | present column => column ++ " IS NOT NULL"
  | greater a b => a ++ " > " ++ b
  | equal column value => column ++ " = " ++ value.sql
  | oneOf column values => column ++ " IN (" ++ Command.list (values.map Constant.sql) ++ ")"
  | both a b => "(" ++ a.sql ++ " AND " ++ b.sql ++ ")"
  | either a b => a.sql ++ " OR " ++ b.sql

/-- The condition in its parentheses. An alternative is set off by blanks. -/
def enclosed : Condition → String
  | either a b => "( " ++ (either a b).sql ++ " )"
  | c => "(" ++ c.sql ++ ")"

end Condition

/-- A condition that every row of a table meets. -/
structure Check where
  name : String
  condition : Condition
  deriving DecidableEq, Repr

/-- An index on columns, for all rows or for those that meet a condition. -/
structure Index where
  name : String
  unique : Bool := false
  columns : List String
  condition : Option Condition := none
  deriving DecidableEq, Repr

/-- The declaration of a table. -/
structure Table where
  name : String
  columns : List Column
  check : Check
  indexes : List Index
  deriving DecidableEq, Repr

namespace Table

/-- The unique indexes: the one of the primary key, and the declared ones. -/
def uniqueIndexes (t : Table) : List String :=
  (t.name ++ "_pkey") :: (t.indexes.filter Index.unique).map Index.name

/-- The statement that creates the table, if it is not there. -/
def createSql (t : Table) : String :=
  "CREATE TABLE IF NOT EXISTS " ++ t.name ++ " ( " ++
    Command.list (t.columns.map Column.sql ++
      ["CONSTRAINT " ++ t.check.name ++ " CHECK " ++ t.check.condition.enclosed]) ++ " );"

/-- The statement that creates an index, if it is not there. -/
def indexSql (t : Table) (i : Index) : String :=
  "CREATE " ++ (if i.unique then "UNIQUE " else "") ++ "INDEX IF NOT EXISTS " ++ i.name ++ " ON " ++
    t.name ++ " (" ++ Command.list i.columns ++ ")" ++
    (i.condition.elim "" fun c => " WHERE " ++ c.sql) ++ ";"

/-- The statements that create the table and its indexes. -/
def sql (t : Table) : String := String.intercalate " " (t.createSql :: t.indexes.map t.indexSql)

end Table

namespace Schema

/-- The table of users. Emails, user names and phone numbers are unique. -/
def users : Table where
  name := Users.table
  columns := [
    { name := "id", type := .uuid, presence := .key },
    { name := "email", type := .varchar 254, presence := .optional },
    { name := "country_code", type := .varchar 2, presence := .optional },
    { name := "phone_number", type := .varchar 15, presence := .optional },
    { name := "username", type := .varchar 30 },
    { name := "password_hash", type := .text },
    { name := "created_at", type := .bigint },
    { name := "updated_at", type := .bigint }]
  check := ⟨"users_contact_present",
    .either (.present "email") (.both (.present "country_code") (.present "phone_number"))⟩
  indexes := [
    { name := "idx_users_email", unique := true, columns := ["email"],
      condition := some (.present "email") },
    { name := "idx_users_username", unique := true, columns := ["username"] },
    { name := "idx_users_phone", unique := true, columns := ["country_code", "phone_number"],
      condition := some (.present "phone_number") }]

/-- The table of records of refresh tokens, which go with their user. -/
def refreshTokens : Table where
  name := RefreshTokens.table
  columns := [
    { name := "id", type := .uuid, presence := .key },
    { name := "user_id", type := .uuid, owner := some Users.table },
    { name := "token_hash", type := .char 64 },
    { name := "expires_at", type := .bigint },
    { name := "is_revoked", type := .boolean, default := some .no },
    { name := "created_at", type := .bigint },
    { name := "updated_at", type := .bigint }]
  check := ⟨"refresh_tokens_expiry_after_creation", .greater "expires_at" "created_at"⟩
  indexes := [
    { name := "idx_refresh_tokens_token_hash", unique := true, columns := ["token_hash"] },
    { name := "idx_refresh_tokens_user_id", columns := ["user_id"] }]

/-- The words that the status of an event may be. -/
def statusWords : List Constant :=
  [OutboxStatus.pending, .success, .failed].map fun s => .word s.text

/-- The table of events, with an index on those that are pending. -/
def outboxEvents : Table where
  name := Outbox.table
  columns := [
    { name := "id", type := .uuid, presence := .key },
    { name := "event_name", type := .varchar 64 },
    { name := "payload", type := .jsonb },
    { name := "status", type := .varchar 16, default := some (.word OutboxStatus.pending.text) },
    { name := "attempts", type := .integer, default := some (.number 0) },
    { name := "last_error", type := .text, presence := .optional },
    { name := "created_at", type := .bigint },
    { name := "updated_at", type := .bigint }]
  check := ⟨"outbox_events_status_known", .oneOf "status" statusWords⟩
  indexes := [
    { name := "idx_outbox_events_pending", columns := ["event_name", "created_at", "id"],
      condition := some (.equal "status" (.word OutboxStatus.pending.text)) }]

/-- The conflicts that mean a user is there already are those of the unique indexes. -/
theorem uniqueIndexes_users : users.uniqueIndexes = StorageError.userIndexes := by decide

end Schema

/-- A step in the history of the schema. -/
structure Migration where
  version : Nat
  description : String
  table : Table
  deriving DecidableEq, Repr

namespace Migration

def sql (m : Migration) : String := m.table.sql

/-- The history of the schema so far. -/
def all : List Migration :=
  [⟨20250101000001, "create users", Schema.users⟩,
    ⟨20250101000002, "create refresh tokens", Schema.refreshTokens⟩,
    ⟨20250101000003, "create outbox events", Schema.outboxEvents⟩]

end Migration

end SignIn.Sql
