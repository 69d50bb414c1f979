import SignIn.Json.Draft
import SignIn.Json.Record

/-!
# Headers

The header of a signed token names the algorithm, and may say more about the token
and about the key. All of it has to be well formed, but only the algorithm counts.
-/

namespace SignIn.Header

open Json (Draft)

/-- The members of a header, in the order of its list form. -/
def members : List String := ["typ", "alg", "cty", "jku", "jwk", "kid", "x5u", "x5c", "x5t", "x5t#S256"]

/-- The members that are texts if they are there. -/
def textMembers : List String := ["typ", "cty", "jku", "kid", "x5u", "x5t", "x5t#S256"]

def isText (j : Json) : Bool := j.str?.isSome

def isTexts : Json → Bool
  | .arr items => items.all isText
  | _ => false

/-- Is a member absent, null, or as it should be? -/
def optional (fields : Json.Fields) (name : String) (isRight : Json → Bool) : Bool :=
  match fields.get? name with
  | none | some .null => true
  | some j => isRight j

/-! ## Keys -/

/-- The members of a key that say how it is used. -/
def usageMembers : List String := ["use", "key_ops", "alg", "kid", "x5u", "x5c", "x5t", "x5t#S256"]

/-- A name of a case: a text, or an object that gives it null or nothing. -/
def isCase : Json → Bool
  | .str _ => true
  | .obj [(_, .null)] => true
  | .obj [(_, .obj [])] => true
  | _ => false

/-- Are the members on the use of a key as they should be? -/
def usageOk (fields : Json.Fields) : Bool :=
  (["use", "kid", "x5u", "x5t", "x5t#S256"].all fun name => optional fields name isText) &&
    (["key_ops", "x5c"].all fun name => optional fields name isTexts) &&
    optional fields "alg" isCase

/-- The curves that a key may be on. -/
def curves : List String := ["P-256", "P-384", "P-521", "Ed25519"]

/-- A kind of key: its name, whether it is on a curve, and the numbers that make it up. -/
structure KeyKind where
  name : String
  onCurve : Bool
  parts : List String

/-- The kinds of keys. The kind of a key is its `kty`. -/
def keyKinds : List KeyKind := [⟨"EC", true, ["x", "y"]⟩, ⟨"RSA", false, ["n", "e"]⟩,
  ⟨"oct", false, ["k"]⟩, ⟨"OKP", true, ["x"]⟩]

/-- Does a key have all that keys of a kind have? -/
def isOfKind (j : Json) (kind : KeyKind) : Bool :=
  match j.fields? (["kty"] ++ (if kind.onCurve then ["crv"] else []) ++ kind.parts) with
  | none => false
  | some f =>
    (f.required "kty" Json.caseName?).any (· == kind.name) &&
      (!kind.onCurve || (f.required "crv" Json.caseName?).any curves.contains) &&
      kind.parts.all fun part => (f.get? part).any isText

/-- Is it a key in the form of an object? -/
def isKey : Json → Bool
  | .obj ms =>
    match (Json.obj ms).fields? usageMembers with
    | none => false
    | some usage => usageOk usage && keyKinds.any (isOfKind (.obj ms))
  | _ => false

/-! ## The header as a whole -/

/-- Does a header ask for the one algorithm that is accepted? -/
def isAccepted (d : Draft) : Bool :=
  match d.fields? members with
  | none => false
  | some drafts =>
    match drafts.mapM fun m => do return (m.1, ← m.2.json? 1) with
    | none => false
    | some fields =>
      (Json.Fields.required fields "alg" Json.caseName?).any (· == "HS256") &&
        (textMembers.all fun name => optional fields name isText) &&
        optional fields "x5c" isTexts && optional fields "jwk" isKey

end SignIn.Header
