import SignIn.Json.Basic
import SignIn.Time.Rfc3339
import SignIn.Uuid

/-!
# Records in JSON

A record is an object, whose unknown members are passed over, or an array of all
its members in order. A member may not be given twice. Optional members may be
absent or null.
-/

namespace SignIn.Json

/-- The members of an object, each name once. -/
abbrev Fields := List (String × Json)

/-- The members of a record with these names. -/
def fields? (names : List String) : Json → Option Fields
  | .obj members =>
    let known := members.filter fun m => names.contains m.1
    if (known.map (·.1)).Nodup then some known else none
  | .arr items => if items.length = names.length then some (names.zip items) else none
  | _ => none

/-- The value of a member. -/
def Fields.get? (fields : Fields) (name : String) : Option Json :=
  (fields.find? (·.1 == name)).map (·.2)

/-- Read a member that has to be there. -/
def Fields.required (fields : Fields) (name : String) (read : Json → Option α) : Option α :=
  fields.get? name >>= read

/-- Read a member that may be absent, or null. -/
def Fields.optional (fields : Fields) (name : String) (read : Json → Option α) : Option (Option α) :=
  match fields.get? name with
  | none | some .null => some none
  | some j => (read j).map some

def str? : Json → Option String
  | .str s => some s
  | _ => none

def bool? : Json → Option Bool
  | .bool b => some b
  | _ => none

/-- An integer of a range. -/
def integer (range : Decimal.Range) : Json → Option Int
  | .int n => if range.contains n then some n else none
  | _ => none

def int64? : Json → Option Int := integer .i64

def int32? : Json → Option Int := integer .i32

/-- An id, in any of its forms. -/
def uuid? : Json → Option Uuid
  | .str s => Uuid.ofText? s
  | _ => none

/-- A point in time, written as RFC 3339 has it. -/
def time? : Json → Option Timestamp
  | .str s => (Rfc3339.ofText s).toOption
  | _ => none

def ofUuid (id : Uuid) : Json := .str id.text

/-- A name standing for a case without content: the name itself, or an object that gives it null. -/
def caseName? : Json → Option String
  | .str s => some s
  | .obj [(name, .null)] => some name
  | _ => none

end SignIn.Json
