/-!
# Failures of the database

What can go wrong between a statement and its answer. A failure reported by the
server carries the SQLSTATE code and, for constraints, the name of the constraint.
-/

namespace SignIn

/-- An error that the database reports, with the constraint that was broken, if there is one. -/
structure ServerError where
  code : Option String
  constraint : Option String
  message : String
  deriving DecidableEq, Repr

/-- What a call of the database may fail with. -/
inductive StorageError where
  | poolClosed
  | poolTimedOut
  | rowNotFound
  | workerCrashed
  | protocol (text : String)
  | columnNotFound (name : String)
  | columnNull (name : String)
  | columnMismatch (name reader readerType type : String)
  | configuration (text : String)
  | io (text : String)
  | server (error : ServerError)
  | other (text : String)
  deriving DecidableEq, Repr

namespace StorageError

/-- The failure in words. -/
def message : StorageError → String
  | .poolClosed => "attempted to acquire a connection on a closed pool"
  | .poolTimedOut => "pool timed out while waiting for an open connection"
  | .rowNotFound => "no rows returned by a query that expected to return at least one row"
  | .workerCrashed => "attempted to communicate with a crashed background worker"
  | .protocol text => "encountered unexpected or invalid data: " ++ text
  | .columnNotFound name => "no column found for name: " ++ name
  | .columnNull name =>
    "error occurred while decoding column \"" ++ name ++
      "\": unexpected null; try decoding as an `Option`"
  | .columnMismatch name reader readerType type =>
    "error occurred while decoding column \"" ++ name ++ "\": mismatched types; Rust type `" ++
      reader ++ "` (as SQL type `" ++ readerType ++ "`) is not compatible with SQL type `" ++ type ++
      "`"
  | .configuration text => "error with configuration: " ++ text
  | .io text => "error communicating with database: " ++ text
  | .server error => "error returned from database: " ++ error.message
  | .other text => text

/-- The unique indexes of the table of users. -/
def userIndexes : List String :=
  ["users_pkey", "idx_users_email", "idx_users_username", "idx_users_phone"]

/-- The code of a value that is there already. -/
def uniqueViolation : String := "23505"

/-- A unique index of the table of users refused a row. -/
def isUserConflict : StorageError → Bool
  | .server error =>
    error.code == some uniqueViolation && error.constraint.any fun name => userIndexes.contains name
  | _ => false

end StorageError

end SignIn
