import SignIn.Account.User
import SignIn.Sql.Connection

/-!
# Users in SQL

A user is one row, a column for each field. A conflict with a unique index of the
table says that the user is there already.
-/

namespace SignIn.Sql.Users

def table : String := "users"

/-- The columns in the order in which they are written and asked for. -/
def columns : List String :=
  ["id", "email", "country_code", "phone_number", "username", "password_hash", "created_at",
    "updated_at"]

/-- The values of a user, in the order of the columns. -/
def params (u : User) : List Param :=
  [.uuid u.id, .ofText? u.email, .ofText? u.countryCode, .ofText? u.phoneNumber, .text u.username,
    .text u.passwordHash, .int u.createdAt, .int u.updatedAt]

/-- The user in a row. Three columns may be empty. -/
def ofRow (row : Row) : Except StorageError User := do
  return {
    id := ← row.required "id" .uuid
    email := ← row.optional "email" .text
    countryCode := ← row.optional "country_code" .text
    phoneNumber := ← row.optional "phone_number" .text
    username := ← row.required "username" .text
    passwordHash := ← row.required "password_hash" .text
    createdAt := ← row.required "created_at" .int8
    updatedAt := ← row.required "updated_at" .int8 }

/-- The user in the first row, if there is one. -/
def first (result : Result) : Except StorageError (Option User) :=
  match result.rows with
  | [] => .ok none
  | row :: _ => (ofRow row).map some

/-- Write a user with all columns. -/
def insertStatement (u : User) : Statement := ⟨.insert table columns, params u⟩

/-- Ask for the users that meet conditions. -/
def selectStatement (conditions : List Equation) (params : List Param) : Statement :=
  ⟨.select columns table conditions [] none, params⟩

/-- A call of this repository. -/
abbrev Step (α : Type) : Type := Attempt Call Answer IdentityError α

/-- Store a user. The unique indexes find out who is there already. -/
def create (scope : Scope) (u : User) : Step Unit :=
  .mapError IdentityError.ofStorage do
    let _ ← send scope (insertStatement u)
    return ()

/-- The first user that a statement finds. -/
def find (scope : Scope) (statement : Statement) : Step (Option User) :=
  .mapError IdentityError.ofStorage do
    let result ← send scope statement
    .ofExcept (first result)

/-- The user with an id. -/
def findById (scope : Scope) (id : Uuid) : Step (Option User) :=
  find scope (selectStatement [⟨"id", .param 1⟩] [.uuid id])

/-- The user with an email, letter by letter. -/
def findByEmail (scope : Scope) (email : String) : Step (Option User) :=
  find scope (selectStatement [⟨"email", .param 1⟩] [.text email])

/-- The user with both parts of a phone number. -/
def findByPhone (scope : Scope) (countryCode phoneNumber : String) : Step (Option User) :=
  find scope (selectStatement [⟨"country_code", .param 1⟩, ⟨"phone_number", .param 2⟩]
    [.text countryCode, .text phoneNumber])

end SignIn.Sql.Users
