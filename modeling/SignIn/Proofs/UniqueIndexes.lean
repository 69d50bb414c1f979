import SignIn.Proofs.StoredRows

/-!
# Unique indexes

A unique index keeps two rows from standing beside each other if it covers both and they have the
same values in all of its columns. What is empty is the same as nothing. The server that keeps the
unique indexes refuses an insert that would break one, with a failure that names the index, and
does every other statement as it is written: no update names a column of a unique index.
-/
namespace SignIn.Sql

/-! ## Rows that clash -/

namespace Param

def isNull : Param → Bool
  | .null => true
  | _ => false

theorem isNull_iff {p : Param} : p.isNull = true ↔ p = .null := by
  cases p <;> simp [isNull]

theorem same_comm (a b : Param) : a.same b = b.same a := by
  cases a <;> cases b <;> simp [same, Bool.beq_comm]

theorem same_constant {p : Param} {c : Constant} : p.same c.param = true ↔ p = c.param := by
  cases c <;> cases p <;> simp [same, Constant.param]

end Param

namespace Condition

variable {row : Values}

def test (row : Values) : Condition → Bool
  | present column => !(row column).isNull
  | greater a b =>
    match row a, row b with
    | .int m, .int n => decide (n < m)
    | _, _ => false
  | equal column value => (row column).same value.param
  | oneOf column values => values.any fun value => (row column).same value.param
  | both a b => a.test row && b.test row
  | either a b => a.test row || b.test row

theorem test_greater {a b : String} :
    (greater a b).test row = true ↔ (greater a b).Holds row := by
  unfold test Holds
  constructor
  · intro h
    split at h
    · rename_i m n ha hb
      exact ⟨m, n, ha, hb, of_decide_eq_true h⟩
    · cases h
  · rintro ⟨m, n, ha, hb, hlt⟩
    simp only [ha, hb, decide_eq_true hlt]

theorem test_iff {c : Condition} : c.test row = true ↔ c.Holds row := by
  induction c with
  | present column => simp [test, Holds, ← Param.isNull_iff]
  | greater a b => exact test_greater
  | equal column value => exact Param.same_constant
  | oneOf column values => simp [test, Holds, Param.same_constant]
  | both a b iha ihb => simp [test, Holds, iha, ihb]
  | either a b iha ihb => simp [test, Holds, iha, ihb]

instance (c : Condition) : Decidable (c.Holds row) := decidable_of_iff _ test_iff

end Condition

namespace Index

/-- An index without a condition covers every row. -/
def covers (i : Index) (row : Values) : Bool := i.condition.all (·.Holds row)

def clash (i : Index) (a b : Values) : Bool :=
  i.covers a && i.covers b && i.columns.all fun column => (a column).same (b column)

theorem covers_iff {i : Index} {row : Values} :
    i.covers row = true ↔ ∀ c, i.condition = some c → c.Holds row := by
  simp [covers, Option.all_eq_true]

theorem clash_iff {i : Index} {a b : Values} : i.clash a b = true ↔
    (i.covers a = true ∧ i.covers b = true) ∧
      ∀ column ∈ i.columns, (a column).same (b column) = true := by
  simp [clash]

theorem clash_comm (i : Index) (a b : Values) : i.clash a b = i.clash b a := by
  simp only [clash, Param.same_comm (a _), Bool.and_comm (i.covers a)]

/-- What the server says of rows that clash. -/
def violation (i : Index) : StorageError :=
  .server ⟨some StorageError.uniqueViolation, some i.name,
    "duplicate key value violates unique constraint \"" ++ i.name ++ "\""⟩

end Index

namespace Table

variable {t : Table} {rows : List Values} {row : Values}

def keyIndex (t : Table) : Index where
  name := t.name ++ "_pkey"
  unique := true
  columns := (t.columns.filter (·.presence = .key)).map Column.name

/-- The unique indexes that the names of `uniqueIndexes` stand for. -/
def keys (t : Table) : List Index := t.keyIndex :: t.indexes.filter Index.unique

theorem map_name_keys (t : Table) : t.keys.map Index.name = t.uniqueIndexes := rfl

/-- The first unique index in which a row clashes with one that is there. -/
def clashing? (t : Table) (rows : List Values) (row : Values) : Option Index :=
  t.keys.find? fun i => rows.any (i.clash row)

theorem clashing?_eq_none :
    t.clashing? rows row = none ↔ ∀ i ∈ t.keys, ∀ other ∈ rows, i.clash row other = false := by
  simp [clashing?]

theorem exists_clashing? {i : Index} {other : Values} (hi : i ∈ t.keys) (hother : other ∈ rows)
    (hclash : i.clash row other = true) : ∃ j ∈ t.keys, t.clashing? rows row = some j := by
  cases hfound : t.clashing? rows row with
  | none =>
    have hfree := clashing?_eq_none.mp hfound i hi other hother
    exact Bool.noConfusion (hclash.symm.trans hfree)
  | some j => exact ⟨j, List.mem_of_find?_eq_some hfound, rfl⟩

/-- No two rows clash in a unique index. -/
def Apart (t : Table) (rows : List Values) : Prop :=
  rows.Pairwise fun a b => ∀ i ∈ t.keys, i.clash a b = false

theorem Apart.append (h : t.Apart rows) (hfree : t.clashing? rows row = none) :
    t.Apart (rows ++ [row]) := by
  refine List.pairwise_append.mpr ⟨h, List.pairwise_singleton .., fun other hother row' hrow => ?_⟩
  obtain rfl := List.mem_singleton.mp hrow
  intro i hi
  rw [i.clash_comm]
  exact clashing?_eq_none.mp hfree i hi other hother

end Table

/-! ## The server that keeps them -/

namespace Database

variable {t : Table} {db : Database} {columns : List String} {conditions : List Equation}
  {params : List Param} {i : Index}

/-- The unique index that a statement would break. -/
def broken? (db : Database) (s : Statement) : Option Index :=
  match s.command with
  | .insert table columns =>
    (Schema.table? table).bind fun t => t.clashing? (db t.name) (insertedRow columns s.params)
  | _ => none

def answer (db : Database) (s : Statement) : Except StorageError Result × Database :=
  match db.broken? s with
  | some i => (.error i.violation, db)
  | none => (.ok (db.execute s).1, (db.execute s).2)

/-- The server at a time, with an id for whoever draws one. -/
def strict (time : Int) (fresh : Uuid) : (c : Call) → Database → Answer c × Database
  | .now, db => (time, db)
  | .freshId, db => (fresh, db)
  | .acquire, db => (.ok (), db)
  | .query _ s, db => db.answer s

theorem answer_insert_free (ht : t ∈ Schema.tables)
    (hfree : t.clashing? (db t.name) (insertedRow columns params) = none) :
    db.answer ⟨.insert t.name columns, params⟩ =
      (.ok ⟨1, []⟩, Function.update db t.name (db t.name ++ [insertedRow columns params])) := by
  simp only [answer, broken?, Schema.table?_name ht, Option.bind_some, hfree, execute_insert ht]

theorem answer_insert_taken (ht : t ∈ Schema.tables)
    (htaken : t.clashing? (db t.name) (insertedRow columns params) = some i) :
    db.answer ⟨.insert t.name columns, params⟩ = (.error i.violation, db) := by
  simp only [answer, broken?, Schema.table?_name ht, Option.bind_some, htaken]

/-- Where the rows of a table stand for values, a select finds those whose values are wanted. -/
theorem answer_select {α : Type} {stored : α → Values} {values : List α} {wanted : α → Bool}
    (columns : List String) (ht : t ∈ Schema.tables) (hdb : db t.name = values.map stored)
    (hwanted : ∀ value, meets conditions params (stored value) = wanted value) :
    ∃ n, db.answer ⟨.select columns t.name conditions [] none, params⟩ =
      (.ok ⟨n, ((values.filter wanted).map stored).map (t.cells columns)⟩, db) := by
  have hfilter : (db t.name).filter (meets conditions params) =
      (values.filter wanted).map stored := by
    rw [hdb, List.filter_map]
    congr 2
    exact funext hwanted
  have hsort (found : List Values) : found.mergeSort (notAfter []) = found :=
    List.mergeSort_of_pairwise (List.pairwise_of_forall fun _ _ => rfl)
  have hfound : limited params (((db t.name).filter (meets conditions params)).mergeSort
      (notAfter [])) none = (values.filter wanted).map stored := by
    rw [hfilter, hsort, limited]
  refine ⟨((values.filter wanted).map stored).length, ?_⟩
  change (Except.ok (db.execute _).1, (db.execute _).2) = _
  rw [execute_select ht hfound]

theorem answer_update (ht : t ∈ Schema.tables) {changes : List Equation} :
    db.answer ⟨.update t.name changes conditions [], params⟩ =
      (.ok ⟨(db t.name).countP (meets conditions params), []⟩, Function.update db t.name
        ((db t.name).map fun row =>
          if meets conditions params row then updatedRow changes params row else row)) := by
  change (Except.ok (db.execute _).1, (db.execute _).2) = _
  simp only [execute, Command.table?, Option.bind_some, Schema.table?_name ht, Table.execute,
    List.length_map, List.countP_eq_length_filter, List.isEmpty_nil, if_true]

/-! ### Runs -/

variable {ε : Type} {time : Int} {fresh : Uuid} {scope : Scope}

theorem run_strict_connection :
    Dialogue.run (strict time fresh) (connection scope) db = (.ok (), db) := by
  cases scope <;> rfl

theorem run_strict_send (s : Statement) :
    Dialogue.run (strict time fresh) (send scope s) db =
      (.ofExcept (db.answer s).1, (db.answer s).2) := by
  unfold send
  rw [Attempt.run_bind run_strict_connection]
  rfl

theorem run_strict_select {α : Type} {stored : α → Values} {values : List α} {wanted : α → Bool}
    (ht : t ∈ Schema.tables) (hdb : db t.name = values.map stored)
    (hwanted : ∀ value, meets conditions params (stored value) = wanted value) :
    ∃ n, Dialogue.run (strict time fresh)
      (send scope ⟨.select columns t.name conditions [] none, params⟩) db =
      (.ok ⟨n, ((values.filter wanted).map stored).map (t.cells columns)⟩, db) := by
  obtain ⟨n, hanswer⟩ := answer_select columns ht hdb hwanted
  exact ⟨n, by rw [run_strict_send, hanswer]; rfl⟩

theorem run_strict_select_one {row : Values} (ht : t ∈ Schema.tables)
    (honly : OnlyRow (db t.name) row fun x => meets conditions params x = true)
    (hrow : meets conditions params row = true) :
    Dialogue.run (strict time fresh)
      (send scope ⟨.select columns t.name conditions [] none, params⟩) db =
      (.ok ⟨1, [t.cells columns row]⟩, db) := by
  rw [← run_send_select_one time fresh scope ht honly hrow]
  cases scope <;> rfl

/-- The work of a repository that stores a row. -/
abbrev insertion (ofStorage : StorageError → ε) (scope : Scope) (s : Statement) :
    Attempt Call Answer ε Unit :=
  .mapError ofStorage do
    let _ ← send scope s
    return ()

theorem run_insertion_free {ofStorage : StorageError → ε} (ht : t ∈ Schema.tables)
    (hfree : t.clashing? (db t.name) (insertedRow columns params) = none) :
    Dialogue.run (strict time fresh)
      (insertion ofStorage scope ⟨.insert t.name columns, params⟩) db =
      (.ok (), Function.update db t.name (db t.name ++ [insertedRow columns params])) := by
  have hsent : Dialogue.run (strict time fresh) (send scope ⟨.insert t.name columns, params⟩) db =
      _ := run_strict_send _
  rw [answer_insert_free ht hfree] at hsent
  exact Attempt.run_mapError ofStorage (Attempt.run_bind hsent)

theorem run_insertion_taken {ofStorage : StorageError → ε} (ht : t ∈ Schema.tables)
    (htaken : t.clashing? (db t.name) (insertedRow columns params) = some i) :
    Dialogue.run (strict time fresh)
      (insertion ofStorage scope ⟨.insert t.name columns, params⟩) db =
      (.failed (ofStorage i.violation), db) := by
  have hsent : Dialogue.run (strict time fresh) (send scope ⟨.insert t.name columns, params⟩) db =
      _ := run_strict_send _
  rw [answer_insert_taken ht htaken] at hsent
  exact Attempt.run_mapError ofStorage (Attempt.run_bind_failed hsent)

end Database

end SignIn.Sql
