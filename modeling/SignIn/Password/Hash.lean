import SignIn.Attempt
import SignIn.Digest.Argon2
import SignIn.Failure.Identity
import SignIn.Password.Text

/-!
# Password hashes

New hashes are made with fixed parameters. A stored hash is verified with the
algorithm, the parameters, the salt and the digest length that its text names.
-/

namespace SignIn

/-- Sixteen random bytes. -/
abbrev Salt := Vector UInt8 16

namespace HashText

/-- The parameters that a text may set. -/
structure Costs where
  memory : Nat
  passes : Nat
  lanes : Nat
  data : Bytes
  deriving DecidableEq, Repr

/-- The costs of new hashes, and of stored ones that do not name theirs. -/
def Costs.standard : Costs := ⟨19456, 2, 1, []⟩

/-- Take one parameter into account. The key identifier takes no part in hashing. -/
def Costs.set (costs : Costs) (p : List Char × List Char) : Except HashProblem Costs :=
  match String.ofList p.1 with
  | "m" => do return { costs with memory := ← decimal p.2 }
  | "t" => do return { costs with passes := ← decimal p.2 }
  | "p" => do return { costs with lanes := ← decimal p.2 }
  | "keyid" => do
    let _ ← bytesUpTo 8 p.2
    return costs
  | "data" => do return { costs with data := ← bytesUpTo 32 p.2 }
  | _ => .error .badName

/-- Every lane needs eight blocks; their number has to fit 32 bits before it is compared. -/
def Costs.check (costs : Costs) : Except HashProblem Unit :=
  if costs.memory < 8 then .error (.badValue .tooShort)
  else if 4294967296 ≤ 8 * costs.lanes then .error .overflow
  else if costs.memory < 8 * costs.lanes then .error (.badValue .tooShort)
  else if costs.passes < 1 ∨ costs.lanes < 1 then .error (.badValue .tooShort)
  else if 16777215 < costs.lanes then .error (.badValue .tooLong)
  else .ok ()

/-- The variant by its name. There are no others. -/
def variant (algorithm : List Char) : Except HashProblem Argon2.Variant :=
  match String.ofList algorithm with
  | "argon2d" => .ok .d
  | "argon2i" => .ok .i
  | "argon2id" => .ok .id
  | _ => .error .unknownAlgorithm

/-- The version by its number. Without one it is the current version. -/
def version? (version : Option Nat) : Except HashProblem Argon2.Version :=
  match version with
  | none | some 19 => .ok .v19
  | some 16 => .ok .v16
  | some _ => .error .unknownVersion

/-- Does a password have this hash? Without a salt or a digest none has. -/
def admits (h : HashText) (password : Bytes) : Except HashProblem Bool :=
  match h.salt, h.digest with
  | some salt, some digest => do
    let costs ← h.params.foldlM Costs.set Costs.standard
    costs.check
    let variant ← variant h.algorithm
    let version ← version? h.version
    let salt ← bytesUpTo 64 salt
    if salt.length < 8 then .error (.badSalt .tooShort)
    else
      let p : Argon2.Params :=
        ⟨variant, version, costs.memory, costs.passes, costs.lanes, costs.data, digest.length⟩
      return Argon2.digest p password salt == digest
  | _, _ => .ok false

end HashText

namespace Password

/-- The parameters of new hashes. -/
def standard : Argon2.Params := ⟨.id, .v19, 19456, 2, 1, [], 32⟩

/-- The digest of a password under a salt, with the parameters of new hashes. -/
def digest (password : String) (salt : Salt) : Bytes :=
  Argon2.digest standard (Bytes.ofString password) salt.toList

/-- The parts of a new hash, with the costs that are standard. -/
def hashText (password : String) (salt : Salt) : HashText where
  algorithm := "argon2id".toList
  version := some 19
  params := [(['m'], Decimal.ofNat 19456), (['t'], Decimal.ofNat 2), (['p'], Decimal.ofNat 1)]
  salt := some (Base64.encode .standard salt.toList)
  digest := some (digest password salt)

/-- The text that is stored in place of a password. -/
def hash (password : String) (salt : Salt) : String := String.ofList (hashText password salt).chars

/-- Does a password fit a stored hash? Failures are left to malformed hashes, and a panic to one
whose number of lanes cannot be computed with. -/
def verify (password stored : String) : Outcome IdentityError Bool :=
  match HashText.ofChars stored.toList with
  | .error problem => .failed (.internal ("Invalid password hash format: " ++ problem.message))
  | .ok h =>
    match h.admits (Bytes.ofString password) with
    | .error .overflow => .panicked ⟨HashProblem.overflow.message⟩
    | .error problem => .failed (.internal ("Password verification failed: " ++ problem.message))
    | .ok fits => .ok fits

/-- The form of a stored hash: its fields, the salt and the digest replaced by their lengths. -/
def shape (stored : String) : String :=
  let fields := Split.pieces '$' stored.toList
  let measured := (fields.drop 4).map fun field => '<' :: Decimal.ofNat field.length ++ ['>']
  String.ofList (Split.join '$' (fields.take 4 ++ measured))

end Password

end SignIn
