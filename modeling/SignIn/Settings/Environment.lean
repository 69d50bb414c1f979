import SignIn.Attempt
import SignIn.Text.Quoted

/-!
# Environments

An environment gives values to names. A value may be a byte string that is no
text. Required variables have to be texts; optional ones fall back to a default.
-/

namespace SignIn

/-- Why a variable cannot be read. -/
inductive VariableProblem where
  | absent
  | notText (bytes : Bytes)
  deriving DecidableEq, Repr

/-- The problem in words, with the bytes that are no text. -/
def VariableProblem.message : VariableProblem → String
  | .absent => "environment variable not found"
  | .notText bytes => "environment variable was not valid unicode: " ++ Quoted.ofBytes bytes

/-- The variables with their values. The first of a name counts. -/
structure Environment where
  entries : List (String × Bytes)
  deriving DecidableEq, Repr

namespace Environment

def empty : Environment := ⟨[]⟩

/-- The text of a variable. Of several entries for a name the first one counts. -/
def read (env : Environment) (name : String) : Except VariableProblem String :=
  match env.entries.find? (·.1 == name) with
  | none => .error .absent
  | some (_, bytes) =>
    match Bytes.toString? bytes with
    | some s => .ok s
    | none => .error (.notText bytes)

/-- The text of a variable, with all problems taken as absence. -/
def read? (env : Environment) (name : String) : Option String := (env.read name).toOption

/-- The text of a variable, or a default. -/
def textOr (env : Environment) (name default : String) : String := (env.read? name).getD default

/-- No variable has a value with a zero character. -/
def badValue (name value : String) : Panic :=
  ⟨"failed to set environment variable `" ++ Quoted.ofBytes (Bytes.ofString name) ++ "` to `" ++
    Quoted.ofBytes (Bytes.ofString value) ++ "`: file name contained an unexpected NUL byte"⟩

/-- Set a variable, unless it has a text already. -/
def supply (env : Environment) (name value : String) : Except Panic Environment :=
  if (env.read? name).isSome then .ok env
  else if value.toList.contains '\x00' then .error (badValue name value)
  else .ok ⟨(name, Bytes.ofString value) :: env.entries⟩

end Environment

end SignIn
