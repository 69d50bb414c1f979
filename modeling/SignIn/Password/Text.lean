import SignIn.Text.Base64
import SignIn.Text.Decimal
import SignIn.Text.Split

/-!
# Texts of password hashes

A hash is kept as one text: fields behind dollar signs that name the algorithm,
its version and its parameters, and carry the salt and the digest. All but the
algorithm may be missing. Numbers stay texts until they are used.
-/

namespace SignIn

/-- What is wrong with the value of a field. -/
inductive ValueProblem where
  | badChar (c : Char)
  | badFormat
  | malformed
  | tooLong
  | tooShort
  deriving DecidableEq, Repr

/-- The problem in words. -/
def ValueProblem.message : ValueProblem → String
  | .badChar c => "contains invalid character: '" ++ String.singleton c ++ "'"
  | .badFormat => "value format is invalid"
  | .malformed => "value malformed"
  | .tooLong => "value to long"
  | .tooShort => "value to short"

/-- What is wrong with the text of a hash. -/
inductive HashProblem where
  | missingField
  | trailingFields
  | badName
  | badValue (problem : ValueProblem)
  | badSalt (problem : ValueProblem)
  | badBase64
  | badBase64Length
  | shortDigest
  | tooManyParams
  | unknownAlgorithm
  | unknownVersion
  | overflow
  deriving DecidableEq, Repr

/-- The problem in words. -/
def HashProblem.message : HashProblem → String
  | .missingField => "password hash string missing field"
  | .trailingFields => "password hash string contains trailing characters"
  | .badName => "invalid parameter name"
  | .badValue problem => "invalid parameter value: " ++ problem.message
  | .badSalt problem => "salt invalid: " ++ problem.message
  | .badBase64 => "invalid Base64 encoding"
  | .badBase64Length => "invalid Base64 length"
  | .shortDigest => "output size too short, expected at least 10 bytes"
  | .tooManyParams => "maximum number of parameters reached"
  | .unknownAlgorithm => "unsupported algorithm"
  | .unknownVersion => "invalid algorithm version"
  | .overflow => "attempt to multiply with overflow"

/-- The fields of the text of a hash. -/
structure HashText where
  algorithm : List Char
  version : Option Nat
  params : List (List Char × List Char)
  salt : Option (List Char)
  digest : Option Bytes
  deriving DecidableEq, Repr

namespace HashText

/-- Lengths are counted in bytes. They are checked before the characters are. -/
def byteSize (cs : List Char) : Nat := (String.ofList cs).utf8ByteSize

def isNameChar (c : Char) : Bool := ('a' ≤ c && c ≤ 'z') || ('0' ≤ c && c ≤ '9') || c == '-'

/-- The characters of the value of a parameter, and of a salt. -/
def isValueChar (c : Char) : Bool :=
  ('a' ≤ c && c ≤ 'z') || ('A' ≤ c && c ≤ 'Z') || ('0' ≤ c && c ≤ '9') ||
    c == '/' || c == '+' || c == '.' || c == '-'

/-- The name of an algorithm or of a parameter. -/
def name (cs : List Char) : Except HashProblem (List Char) :=
  if cs.isEmpty || 32 < byteSize cs || !cs.all isNameChar then .error .badName else .ok cs

/-- The value of a parameter, as text. -/
def value (cs : List Char) : Except HashProblem (List Char) :=
  if 64 < byteSize cs then .error (.badValue .tooLong)
  else
    match cs.find? (!isValueChar ·) with
    | some c => .error (.badValue (.badChar c))
    | none => .ok cs

/-- The number that a value stands for, in 32 bits and without leading zeros. -/
def decimal (cs : List Char) : Except HashProblem Nat :=
  match cs with
  | [] => .error (.badValue .malformed)
  | first :: rest =>
    match cs.find? (Decimal.value? · |>.isNone) with
    | some c => .error (.badValue (.badChar c))
    | none =>
      if first = '0' ∧ rest ≠ [] then .error (.badValue .badFormat)
      else
        match Decimal.number? cs with
        | some n => if n < 4294967296 then .ok n else .error (.badValue .badFormat)
        | none => .error (.badValue .badFormat)

/-- One parameter: a name, an equals sign and a value. -/
def param (cs : List Char) : Except HashProblem (List Char × List Char) := do
  match Split.pieces '=' cs with
  | [] => .error .badName
  | [n] =>
    let _ ← name n
    .error (.badValue .malformed)
  | n :: v :: more =>
    let n ← name n
    let v ← value v
    if more.isEmpty then .ok (n, v) else .error (.badValue .malformed)

/-- The parameters, between commas. Their text has at most 127 bytes. -/
def params? (cs : List Char) : Except HashProblem (List (List Char × List Char)) :=
  if 127 < byteSize cs then .error .tooManyParams else (Split.pieces ',' cs).mapM param

/-- The digits of a salt, which are not decoded here. -/
def salt? (cs : List Char) : Except HashProblem (List Char) :=
  if byteSize cs < 4 then .error (.badSalt .tooShort)
  else if 64 < byteSize cs then .error (.badSalt .tooLong)
  else
    match cs.find? (!isValueChar ·) with
    | some c => .error (.badSalt (.badChar c))
    | none => .ok cs

/-- Bytes in base64, at most `limit` of them. -/
def bytesUpTo (limit : Nat) (cs : List Char) : Except HashProblem Bytes :=
  if limit < Base64.decodedLength (byteSize cs) then .error .badBase64Length
  else
    match Base64.decode? .standard cs with
    | none => .error .badBase64
    | some bytes => .ok bytes

/-- The bytes of a digest, between 10 and 64 of them. -/
def digest? (cs : List Char) : Except HashProblem Bytes := do
  let bytes ← bytesUpTo 64 cs
  if bytes.length < 10 then .error .shortDigest else .ok bytes

/-- Take the version from the head of the fields, if it is there. -/
def takeVersion (fields : List (List Char)) : Except HashProblem (Option Nat × List (List Char)) :=
  match fields with
  | ('v' :: '=' :: v) :: rest =>
    if ',' ∈ v then .ok (none, fields)
    else do
      let v ← value v
      return (some (← decimal v), rest)
  | _ => .ok (none, fields)

/-- Take the parameters from the head of the fields, if they are there. -/
def takeParams (fields : List (List Char)) :
    Except HashProblem (List (List Char × List Char) × List (List Char)) :=
  match fields with
  | field :: rest => if '=' ∈ field then do return (← params? field, rest) else .ok ([], fields)
  | [] => .ok ([], [])

/-- The salt and the digest are the last fields. -/
def takeDigest (fields : List (List Char)) :
    Except HashProblem (Option (List Char) × Option Bytes) :=
  match fields with
  | [] => .ok (none, none)
  | [s] => do return (some (← salt? s), none)
  | s :: d :: more => do
    let s ← salt? s
    let d ← digest? d
    if more.isEmpty then .ok (some s, some d) else .error .trailingFields

/-- Read the fields of a hash, behind an empty one. -/
def ofFields (fields : List (List Char)) : Except HashProblem HashText :=
  match fields with
  | [] :: algorithm :: fields => do
    let algorithm ← name algorithm
    let (version, fields) ← takeVersion fields
    let (params, fields) ← takeParams fields
    let (salt, digest) ← takeDigest fields
    return { algorithm, version, params, salt, digest }
  | _ => .error .missingField

/-- Read the text of a hash, whose fields stand between dollar signs. -/
def ofChars (cs : List Char) : Except HashProblem HashText := ofFields (Split.pieces '$' cs)

def paramChars (p : List Char × List Char) : List Char := p.1 ++ '=' :: p.2

/-- The fields of a hash, those that are missing left out. -/
def fields (h : HashText) : List (List Char) :=
  [] :: h.algorithm ::
    ((h.version.map fun v => 'v' :: '=' :: Decimal.ofNat v).toList ++
      (if h.params.isEmpty then [] else [Split.join ',' (h.params.map paramChars)]) ++
      h.salt.toList ++ (h.digest.map (Base64.encode .standard)).toList)

/-- The text of a hash. -/
def chars (h : HashText) : List Char := Split.join '$' h.fields

end HashText

end SignIn
