import Mathlib.Logic.Function.Basic
import SignIn.Proofs.SchemaMeaning
import SignIn.Proofs.Terms

/-!
# What statements do

Statements are given their meaning on tables, as they are written: an insert adds a row, a select
shows the rows that meet its conditions, in its order, and an update changes the rows that meet its
conditions. The server that does just that keeps whatever a statement writes: what the schema admits
is looked at elsewhere, and so are the limits of transactions. A select shows columns of its table;
one that computes something, as for the statistics of the outbox, shows nothing here.
-/
namespace SignIn

namespace Sql

/-! ## Values -/

namespace Param

/-- Equality as conditions have it: nothing is equal to what is empty. Documents are never
compared. -/
def same : Param → Param → Bool
  | .text a, .text b => a == b
  | .int a, .int b => a == b
  | .bool a, .bool b => a == b
  | .uuid a, .uuid b => a == b
  | _, _ => false

/-- The order of what is sorted by, which are numbers and ids. -/
def before : Param → Param → Bool
  | .int a, .int b => a < b
  | .uuid a, .uuid b => a.toNat < b.toNat
  | _, _ => false

/-- What a cell of a type shows of a value. -/
def shown : (t : CellType) → Param → Option t.Value
  | .text, .text s | .varchar, .text s | .char, .text s => some s
  | .int4, .int n | .int8, .int n => some n
  | .bool, .bool b => some b
  | .uuid, .uuid id => some id
  | .jsonb, .json j => some j
  | _, _ => none

theorem same_uuid {p : Param} {id : Uuid} : p.same (.uuid id) = true ↔ p = .uuid id := by
  cases p <;> simp [same]

theorem same_text {p : Param} {s : String} : p.same (.text s) = true ↔ p = .text s := by
  cases p <;> simp [same]

end Param

/-- The type of the cells of a column. -/
def ColumnType.cell : ColumnType → CellType
  | .uuid => .uuid
  | .varchar _ => .varchar
  | .char _ => .char
  | .text => .text
  | .bigint => .int8
  | .integer => .int4
  | .boolean => .bool
  | .jsonb => .jsonb

/-! ## Rows -/

/-- Does a row meet conditions? -/
def meets (conditions : List Equation) (params : List Param) (row : Values) : Bool :=
  conditions.all fun e => (row e.column).same (e.value.value params row)

/-- The first of the columns in which two rows differ decides which of them comes first. -/
def notAfter : List String → Values → Values → Bool
  | [], _, _ => true
  | column :: rest, a, b =>
    (a column).before (b column) || (a column).same (b column) && notAfter rest a b

/-- As many rows as a limit allows, which has to be a number that is not negative. -/
def limited (params : List Param) (rows : List Values) : Option Expr → List Values
  | none => rows
  | some limit =>
    match limit.value params fun _ => .null with
    | .int n => rows.take n.toNat
    | _ => rows

/-- The row of an answer that shows some columns of a row of a table. -/
def Table.cells (t : Table) (columns : List String) (row : Values) : Row :=
  columns.filterMap fun name => (t.columns.find? (·.name == name)).map fun c =>
    (name, ⟨c.type.cell, (row name).shown c.type.cell⟩)

theorem meets_id {id : Uuid} {row : Values} :
    meets [⟨"id", .param 1⟩] [.uuid id] row = true ↔ row "id" = .uuid id := by
  simp [meets, Expr.value, Param.same_uuid]

theorem meets_text {column s : String} {row : Values} :
    meets [⟨column, .param 1⟩] [.text s] row = true ↔ row column = .text s := by
  simp [meets, Expr.value, Param.same_text]

theorem meets_texts {column column' s s' : String} {row : Values} :
    meets [⟨column, .param 1⟩, ⟨column', .param 2⟩] [.text s, .text s'] row = true ↔
      row column = .text s ∧ row column' = .text s' := by
  simp [meets, Expr.value, Param.same_text]

/-! ## Tables -/

/-- A row is in a table, at any place, and no other row there has a property. -/
def OnlyRow (rows : List Values) (row : Values) (p : Values → Prop) : Prop :=
  ∃ before after, rows = before ++ row :: after ∧ ∀ x ∈ before ++ after, ¬p x

theorem OnlyRow.imp {rows : List Values} {row : Values} {p q : Values → Prop}
    (h : OnlyRow rows row p) (hqp : ∀ x, q x → p x) : OnlyRow rows row q := by
  obtain ⟨before, after, hrows, hother⟩ := h
  exact ⟨before, after, hrows, fun x hx hq => hother x hx (hqp x hq)⟩

/-- The answer to a statement about a table, and the rows that the table has afterwards. -/
def Table.execute (t : Table) (s : Statement) (rows : List Values) : Result × List Values :=
  match s.command with
  | .insert _ columns => (⟨1, []⟩, rows ++ [insertedRow columns s.params])
  | .select columns _ conditions order limit =>
    let sorted := (rows.filter (meets conditions s.params)).mergeSort (notAfter order)
    let found := limited s.params sorted limit
    (⟨found.length, found.map (t.cells columns)⟩, rows)
  | .update _ changes conditions returning =>
    let changed := (rows.filter (meets conditions s.params)).map (updatedRow changes s.params)
    (⟨changed.length, if returning.isEmpty then [] else changed.map (t.cells returning)⟩,
      rows.map fun row =>
        if meets conditions s.params row then updatedRow changes s.params row else row)
  | _ => ({}, rows)

def Command.table? : Command → Option String
  | .insert table _ | .select _ table .. | .update table .. => some table
  | _ => none

def Schema.table? (name : String) : Option Table := Schema.tables.find? (·.name == name)

theorem Schema.table?_name {t : Table} (ht : t ∈ Schema.tables) : table? t.name = some t := by
  have hall : ∀ t ∈ Schema.tables, table? t.name = some t := by decide
  exact hall t ht

/-! ## The server -/

/-- The rows of each table, by its name. -/
abbrev Database : Type := String → List Values

namespace Database

def execute (s : Statement) (db : Database) : Result × Database :=
  match s.command.table?.bind Schema.table? with
  | none => ({}, db)
  | some t =>
    let done := t.execute s (db t.name)
    (done.1, Function.update db t.name done.2)

/-- The server at a time, with an id for whoever draws one. -/
def reply (time : Int) (fresh : Uuid) : (c : Call) → Database → Answer c × Database
  | .now, db => (time, db)
  | .freshId, db => (fresh, db)
  | .acquire, db => (.ok (), db)
  | .query _ s, db => (.ok (db.execute s).1, (db.execute s).2)

variable {t : Table} {db : Database} {columns : List String} {conditions : List Equation}
  {order : List String} {limit : Option Expr} {params : List Param} {row : Values}

theorem execute_insert (ht : t ∈ Schema.tables) :
    db.execute ⟨.insert t.name columns, params⟩ =
      (⟨1, []⟩, Function.update db t.name (db t.name ++ [insertedRow columns params])) := by
  simp only [execute, Command.table?, Option.bind_some, Schema.table?_name ht, Table.execute]

/-- A select shows the rows that it finds, and changes nothing. -/
theorem execute_select (ht : t ∈ Schema.tables) {found : List Values}
    (hfound : limited params (((db t.name).filter (meets conditions params)).mergeSort
      (notAfter order)) limit = found) :
    db.execute ⟨.select columns t.name conditions order limit, params⟩ =
      (⟨found.length, found.map (t.cells columns)⟩, db) := by
  simp only [execute, Command.table?, Option.bind_some, Schema.table?_name ht, Table.execute,
    hfound, Function.update_eq_self]

theorem filter_meets_eq_singleton {rows : List Values}
    (h : OnlyRow rows row fun x => meets conditions params x = true)
    (hrow : meets conditions params row = true) :
    rows.filter (meets conditions params) = [row] := by
  obtain ⟨before, after, hrows, hother⟩ := h
  have hbefore : before.filter (meets conditions params) = [] :=
    List.filter_eq_nil_iff.mpr fun x hx => hother x (List.mem_append_left _ hx)
  have hafter : after.filter (meets conditions params) = [] :=
    List.filter_eq_nil_iff.mpr fun x hx => hother x (List.mem_append_right _ hx)
  rw [hrows, List.filter_append, List.filter_cons_of_pos hrow, hbefore, hafter, List.nil_append]

/-! ### Runs -/

theorem run_connection (time : Int) (fresh : Uuid) (scope : Scope) :
    Dialogue.run (reply time fresh) (connection scope) db = (.ok (), db) := by
  cases scope <;> rfl

theorem run_query (time : Int) (fresh : Uuid) (scope : Scope) (s : Statement) :
    Dialogue.run (reply time fresh) (query scope s) db =
      (.ok (db.execute s).1, (db.execute s).2) := rfl

theorem run_send (time : Int) (fresh : Uuid) (scope : Scope) (s : Statement) :
    Dialogue.run (reply time fresh) (send scope s) db =
      (.ok (db.execute s).1, (db.execute s).2) := by
  unfold send
  rw [Attempt.run_bind (run_connection time fresh scope), run_query]

theorem run_send_insert (time : Int) (fresh : Uuid) (scope : Scope) (ht : t ∈ Schema.tables) :
    Dialogue.run (reply time fresh) (send scope ⟨.insert t.name columns, params⟩) db =
      (.ok ⟨1, []⟩, Function.update db t.name (db t.name ++ [insertedRow columns params])) := by
  rw [run_send, execute_insert ht]

/-- A row that alone meets the conditions is found, wherever it is in its table. -/
theorem run_send_select_one (time : Int) (fresh : Uuid) (scope : Scope) (ht : t ∈ Schema.tables)
    (honly : OnlyRow (db t.name) row fun x => meets conditions params x = true)
    (hrow : meets conditions params row = true) :
    Dialogue.run (reply time fresh) (send scope ⟨.select columns t.name conditions [] none, params⟩)
      db = (.ok ⟨1, [t.cells columns row]⟩, db) := by
  have hfound : limited params (((db t.name).filter (meets conditions params)).mergeSort
      (notAfter [])) none = [row] := by
    rw [filter_meets_eq_singleton honly hrow, List.mergeSort_singleton, limited]
  rw [run_send, execute_select ht hfound]
  simp only [List.length_singleton, List.map_cons, List.map_nil]

end Database

end Sql

end SignIn
