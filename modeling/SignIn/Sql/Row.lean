import SignIn.Failure.Storage
import SignIn.Json.Record

/-!
# Rows

What the server returns for a statement. Columns are found by name, and columns
that nobody asks for are passed over. A cell has the type of its column, which
has to be one that its reader understands; only of an empty cell it does not
matter.
-/

namespace SignIn.Sql

/-- The types of cells. -/
inductive CellType where
  | text
  | varchar
  | char
  | int4
  | int8
  | bool
  | uuid
  | jsonb
  deriving DecidableEq, Repr

namespace CellType

/-- The name of the type in messages. -/
def name : CellType → String
  | .text => "TEXT"
  | .varchar => "VARCHAR"
  | .char => "CHAR"
  | .int4 => "INT4"
  | .int8 => "INT8"
  | .bool => "BOOL"
  | .uuid => "UUID"
  | .jsonb => "JSONB"

/-- What a cell of a type holds. -/
abbrev Value : CellType → Type
  | .text | .varchar | .char => String
  | .int4 | .int8 => Int
  | .bool => Bool
  | .uuid => Uuid
  | .jsonb => Json

end CellType

/-- A cell of a row; it may be empty. -/
structure Cell where
  type : CellType
  value : Option type.Value

/-- Cells with the names of their columns, in the order of the answer. -/
abbrev Row := List (String × Cell)

/-- The rows of an answer, and the number of rows that a statement changed. -/
structure Result where
  affected : Nat := 0
  rows : List Row := []

/-- What reads cells of some types. It has a name of its own, and the name of a type of the server. -/
structure Reader (α : Type) where
  name : String
  type : CellType
  read : (t : CellType) → Option (t.Value → α)

namespace Reader

/-- Texts are read from columns of three types. -/
def text : Reader String where
  name := "alloc::string::String"
  type := .text
  read
    | .text | .varchar | .char => some id
    | _ => none

def int4 : Reader Int where
  name := "i32"
  type := .int4
  read
    | .int4 => some id
    | _ => none

def int8 : Reader Int where
  name := "i64"
  type := .int8
  read
    | .int8 => some id
    | _ => none

def bool : Reader Bool where
  name := "bool"
  type := .bool
  read
    | .bool => some id
    | _ => none

def uuid : Reader Uuid where
  name := "uuid::Uuid"
  type := .uuid
  read
    | .uuid => some id
    | _ => none

def json : Reader Json where
  name := "serde_json::value::Value"
  type := .jsonb
  read
    | .jsonb => some id
    | _ => none

/-- The name of a reader that minds no empty cell. -/
def optionalName (r : Reader α) : String := "core::option::Option<" ++ r.name ++ ">"

end Reader

namespace Row

/-- The cell of a column; of columns with one name, the last. -/
def cell (row : Row) (column : String) : Except StorageError Cell :=
  match row.reverse.find? (·.1 == column) with
  | some (_, cell) => .ok cell
  | none => .error (.columnNotFound column)

/-- Read a cell, under the name that a reader has here. -/
def read (row : Row) (column : String) (r : Reader α) (name : String) :
    Except StorageError (Option α) := do
  let cell ← row.cell column
  match cell.value, r.read cell.type with
  | none, _ => .ok none
  | some value, some read => .ok (some (read value))
  | some _, none => .error (.columnMismatch column name r.type.name cell.type.name)

/-- A cell that may be empty. -/
def optional (row : Row) (column : String) (r : Reader α) : Except StorageError (Option α) :=
  row.read column r r.optionalName

/-- A cell that must not be empty. -/
def required (row : Row) (column : String) (r : Reader α) : Except StorageError α := do
  match ← row.read column r r.name with
  | some a => .ok a
  | none => .error (.columnNull column)

end Row

end SignIn.Sql
