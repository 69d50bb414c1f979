import SignIn.Json.Basic
import SignIn.Text.Decimal
import SignIn.UnitOfWork.Options
import SignIn.Uuid

/-!
# SQL statements

The few kinds of statements that the repositories send. Values are never part of
the text: they are bound to numbered places.
-/

namespace SignIn.Sql

/-- A value bound to a place of a statement. -/
inductive Param where
  | text (s : String)
  | int (n : Int)
  | bool (b : Bool)
  | uuid (id : Uuid)
  | json (j : Json)
  | null

def Param.ofText? (s : Option String) : Param := s.elim .null .text

/-- What stands on the right of an equation. -/
inductive Expr where
  | param (place : Nat)
  | bool (b : Bool)
  | null
  | text (s : String)
  | column (name : String)
  | next (e : Expr)
  | choose (a b yes no : Expr)
  deriving DecidableEq, Repr

namespace Expr

/-- Texts are known words, which have nothing to escape. -/
def sql : Expr → String
  | .param place => "$" ++ Decimal.text place
  | .bool true => "TRUE"
  | .bool false => "FALSE"
  | .null => "NULL"
  | .text s => "'" ++ s ++ "'"
  | .column name => name
  | .next e => e.sql ++ " + 1"
  | .choose a b yes no =>
    "CASE WHEN " ++ a.sql ++ " >= " ++ b.sql ++ " THEN " ++ yes.sql ++ " ELSE " ++ no.sql ++ " END"

end Expr

/-- A column and the value that it has to have, or is to get. -/
structure Equation where
  column : String
  value : Expr
  deriving DecidableEq, Repr

def Equation.sql (e : Equation) : String := e.column ++ " = " ++ e.value.sql

/-- The statements that the repositories send, by their shape. -/
inductive Command where
  | insert (table : String) (columns : List String)
  | select (columns : List String) (table : String) (conditions : List Equation)
      (order : List String) (limit : Option Expr)
  | update (table : String) (changes conditions : List Equation) (returning : List String)
  | probe
  | setTransaction (options : TxOptions)
  | begin
  | commit
  | rollback
  deriving DecidableEq, Repr

namespace Command

def list (texts : List String) : String := String.intercalate ", " texts

/-- All conditions have to be met. -/
def whereSql (conditions : List Equation) : String :=
  " WHERE " ++ String.intercalate " AND " (conditions.map Equation.sql)

/-- The text that is sent. Values are only in the parameters. -/
def sql : Command → String
  | .insert table columns =>
    "INSERT INTO " ++ table ++ " ( " ++ list columns ++ " ) VALUES (" ++
      list ((List.range columns.length).map fun i => (Expr.param (i + 1)).sql) ++ ")"
  | .select columns table conditions order limit =>
    "SELECT " ++ list columns ++ " FROM " ++ table ++ whereSql conditions ++
      (if order.isEmpty then "" else " ORDER BY " ++ list (order.map (· ++ " ASC"))) ++
      (limit.elim "" fun e => " LIMIT " ++ e.sql)
  | .update table changes conditions returning =>
    "UPDATE " ++ table ++ " SET " ++ list (changes.map Equation.sql) ++ whereSql conditions ++
      (if returning.isEmpty then "" else " RETURNING " ++ list returning)
  | .probe => "SELECT 1"
  | .setTransaction options => options.statement
  | .begin => "BEGIN"
  | .commit => "COMMIT"
  | .rollback => "ROLLBACK"

end Command

/-- A command with the values of its parameters, the first one for place 1. -/
structure Statement where
  command : Command
  params : List Param := []

end SignIn.Sql
