import SignIn.Attempt
import SignIn.Digest.Hmac
import SignIn.Json.Parser
import SignIn.Json.Printer
import SignIn.Text.Base64
import SignIn.Token.Claims
import SignIn.Token.Header

/-!
# Signed tokens

A token is three parts joined by dots: a header, the claims, and the code that
authenticates both under a shared secret. Verification looks at the header, then
at the signature, then at the claims, so that nothing unsigned is trusted.
-/

namespace SignIn

/-- A secret long enough to sign with. -/
structure SigningKey where
  secret : Bytes
  long : minSecretBytes ≤ secret.length
  deriving DecidableEq

namespace SigningKey

/-- The key with a secret, unless that is too short. -/
def ofSecret? (secret : String) : Except TokenError SigningKey :=
  if h : minSecretBytes ≤ (Bytes.ofString secret).length then .ok ⟨Bytes.ofString secret, h⟩
  else .error .secretTooShort

/-- A program that starts with a short secret gives up. -/
def tooShort : Panic := ⟨"JWT secret key must be at least 32 bytes"⟩

/-- The key without its secret, for diagnostics. -/
def debugText : String := "JwtTokenMaker \x7b algorithm: HS256, secret: \"[REDACTED]\" \x7d"

end SigningKey

namespace SignedToken

/-- A part of a token, in the letters of URLs. -/
def encodePart (text : String) : List Char := Base64.encode .url (Bytes.ofString text)

/-- The JSON text of a part. -/
def decodePart? (part : List Char) : Option Json.Draft :=
  Base64.decode? .url part >>= Json.Draft.ofBytes?

/-- The header of every token that is issued. -/
def header : Json := .obj [("typ", .str "JWT"), ("alg", .str "HS256")]

/-- The signature of a message, as the third part of a token. -/
def signature (key : SigningKey) (message : List Char) : List Char :=
  Base64.encode .url (Hmac.sha256 key.secret (Bytes.ofString (String.ofList message)))

/-- The token as characters: header, claims and signature. -/
def issueChars (key : SigningKey) (claims : Claims) : List Char :=
  let message := encodePart header.text ++ '.' :: encodePart claims.toJson.text
  message ++ '.' :: signature key message

/-- The token that carries the claims. -/
def issue (key : SigningKey) (claims : Claims) : String := String.ofList (issueChars key claims)

/-- Cut at the last dot. -/
def splitLast? (cs : List Char) : Option (List Char × List Char) :=
  if '.' ∈ cs then
    let reversed := cs.reverse
    some (((reversed.dropWhile (· != '.')).drop 1).reverse, (reversed.takeWhile (· != '.')).reverse)
  else none

/-- The members of the claims that concern a receiver and have no part in the claims themselves. -/
def deliveryMembers : List String := ["iss", "aud", "nbf"]

/-- Can a reader of times get behind a value? It looks into no list and no object. -/
def isPassable : Json.Draft → Bool
  | .arr items => items.isEmpty
  | .obj members => members.isEmpty
  | d => !(d.value 0).isStuck

/-- None of these members may be given twice, and none may hold up the reader. -/
def deliveryOk (fields : List (String × Json.Draft)) : Bool :=
  fields.all fun m =>
    if m.1 = "nbf" then isPassable m.2 else !(m.2.value (Json.Draft.greatestDepth - 1)).isStuck

/-- Is the token addressed to somebody? Then it is not for us. -/
def hasAudience (fields : List (String × Json.Draft)) : Bool :=
  match (fields.find? (·.1 == "aud")).bind (·.2.json? 1) with
  | some (.str _) => true
  | some (.arr items) => items.all fun item => item.str?.isSome
  | _ => false

/-- The claims that a draft holds, whatever else it holds. -/
def claims? (d : Json.Draft) : Option Claims := do
  let known ← d.fields? Claims.members
  let fields ← known.mapM fun m => do return (m.1, ← m.2.json? 1)
  Claims.ofJson? (.obj fields)

/-- The claims part, when it is an object of the right members and the last second is not past. -/
def readClaims (part : List Char) (nowSeconds : Int) : Except TokenError Claims :=
  match (decodePart? part).filter Json.Draft.isObject with
  | none => .error .invalid
  | some d =>
    match claims? d, d.fields? deliveryMembers with
    | some claims, some delivery =>
      if claims.expiresAt < 0 ∨ deliveryOk delivery = false then .error .invalid
      else if claims.isExpiredAt nowSeconds then .error .expired
      else if hasAudience delivery then .error .invalid
      else .ok claims
    | _, _ => .error .invalid

/-- The claims of a token, after its header, its signature and its lifetime were checked. -/
def verifyChars (key : SigningKey) (nowSeconds : Int) (cs : List Char) : Except TokenError Claims :=
  match splitLast? cs with
  | none => .error .invalid
  | some (message, sig) =>
    match splitLast? message with
    | none => .error .invalid
    | some (head, payload) =>
      if !(decodePart? head).any Header.isAccepted then .error .invalid
      else if sig ≠ signature key message then .error .invalid
      else do
        let claims ← readClaims payload nowSeconds
        claims.validate nowSeconds
        return claims

/-- The claims of a token that is authentic and valid at a point in time. -/
def verify (key : SigningKey) (nowSeconds : Int) (token : String) : Except TokenError Claims :=
  verifyChars key nowSeconds token.toList

end SignedToken

/-- A token together with what it says. -/
structure IssuedToken where
  text : String
  claims : Claims
  deriving DecidableEq, Repr

namespace IssuedToken

/-- Sign new claims. -/
def make (key : SigningKey) (id : Uuid) (nowSeconds : Int) (userId username : String) (ttl : Int) :
    IssuedToken :=
  let claims := Claims.make id nowSeconds userId username ttl
  ⟨SignedToken.issue key claims, claims⟩

/-- The two tokens of a login, each with its own id and time. They live equally long; the stored
record of the second one owns the longer lifetime. -/
def makePair (key : SigningKey) (access refresh : Uuid × Int) (userId username : String)
    (ttl : Int) : IssuedToken × IssuedToken :=
  (make key access.1 access.2 userId username ttl, make key refresh.1 refresh.2 userId username ttl)

end IssuedToken

/-- Whatever makes tokens, each from a random id and the time in seconds, and reads them again. -/
structure TokenMaker where
  issue (id : Uuid) (nowSeconds : Int) (userId username : String) (ttl : Int) :
    Except TokenError String
  verify (nowSeconds : Int) (token : String) : Except TokenError Claims

/-- With a key at hand, signing does not fail. -/
def TokenMaker.ofKey (key : SigningKey) : TokenMaker where
  issue id nowSeconds userId username ttl :=
    .ok (IssuedToken.make key id nowSeconds userId username ttl).text
  verify := SignedToken.verify key

end SignIn
