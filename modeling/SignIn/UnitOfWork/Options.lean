/-!
# Options of a transaction

How far a transaction is kept apart from others, and whether it may write.
-/

namespace SignIn

/-- How much a transaction sees of others. -/
inductive Isolation where
  | readUncommitted
  | readCommitted
  | repeatableRead
  | serializable
  deriving DecidableEq, Repr

namespace Isolation

instance : Inhabited Isolation := ⟨.readCommitted⟩

/-- The level as it stands in a statement. -/
def text : Isolation → String
  | .readUncommitted => "READ UNCOMMITTED"
  | .readCommitted => "READ COMMITTED"
  | .repeatableRead => "REPEATABLE READ"
  | .serializable => "SERIALIZABLE"

end Isolation

/-- The options of a transaction, which by default reads what is committed and may write. -/
structure TxOptions where
  isolation : Isolation := .readCommitted
  readOnly : Bool := false
  deriving DecidableEq, Repr, Inhabited

namespace TxOptions

/-- The options of a transaction that does not write. -/
def reading : TxOptions := { readOnly := true }

/-- The options of a transaction on a level. -/
def isolated (isolation : Isolation) : TxOptions := { isolation }

/-- The statement that applies the options to a transaction that has just begun. -/
def statement (o : TxOptions) : String :=
  "SET TRANSACTION ISOLATION LEVEL " ++ o.isolation.text ++ ", " ++
    (if o.readOnly then "READ ONLY" else "READ WRITE")

end TxOptions

/-- The ways to enter a unit of work. Each stands for options. -/
inductive Entry where
  | transaction
  | isolation (level : Isolation)
  | readOnly
  | serializable
  | repeatableRead
  | readUncommitted
  | given (o : TxOptions)
  deriving DecidableEq, Repr

/-- The options that an entry point begins its transaction with. -/
def Entry.options : Entry → TxOptions
  | .transaction => {}
  | .isolation level => .isolated level
  | .readOnly => .reading
  | .serializable => .isolated .serializable
  | .repeatableRead => .isolated .repeatableRead
  | .readUncommitted => .isolated .readUncommitted
  | .given o => o

/-- Where a call of the store runs: on its own, or inside the open transaction. -/
inductive Scope where
  | ambient
  | transaction
  deriving DecidableEq, Repr

namespace Scope

instance : Inhabited Scope := ⟨.ambient⟩

def isTransactional (s : Scope) : Bool := s == .transaction

end Scope

end SignIn
