import SignIn.Json.Number

/-!
# JSON values

The members of an object are kept in order and with repetitions, as they stand in
the text. `normal` is the value that a reader of arbitrary data keeps: members
sorted by name, the last one of a name winning.
-/

namespace SignIn

/-- A JSON value. Integers are kept apart from other numbers, which keep their token. -/
inductive Json where
  | null
  | bool (value : Bool)
  | int (value : Int)
  | real (token : Json.Real)
  | str (text : String)
  | arr (items : List Json)
  | obj (members : List (String × Json))

namespace Json

instance : Inhabited Json := ⟨.null⟩

def ofOption (f : α → Json) : Option α → Json
  | none => .null
  | some a => f a

/-- Put a member into a sorted list of members, in place of one of the same name. -/
def insertMember (name : String) (value : Json) : List (String × Json) → List (String × Json)
  | [] => [(name, value)]
  | (name', value') :: rest =>
    if name < name' then (name, value) :: (name', value') :: rest
    else if name = name' then (name, value) :: rest
    else (name', value') :: insertMember name value rest

/-- The members by name. Of those with one name the last one counts. -/
def sortMembers (members : List (String × Json)) : List (String × Json) :=
  members.foldl (fun sorted m => insertMember m.1 m.2 sorted) []

mutual

/-- Every object sorted, and every real number rewritten. -/
def normalWith (real : Real → Real) : Json → Json
  | .real token => .real (real token)
  | .arr items => .arr (normalItems real items)
  | .obj members => .obj (sortMembers (normalMembers real members))
  | .null => .null
  | .bool b => .bool b
  | .int n => .int n
  | .str s => .str s

def normalItems (real : Real → Real) : List Json → List Json
  | [] => []
  | item :: rest => normalWith real item :: normalItems real rest

def normalMembers (real : Real → Real) : List (String × Json) → List (String × Json)
  | [] => []
  | (name, value) :: rest => (name, normalWith real value) :: normalMembers real rest

end

/-- The first member of a name. -/
def member? (name : String) : Json → Option Json
  | .obj members => (members.find? (·.1 == name)).map (·.2)
  | _ => none

end Json

end SignIn
