import SignIn.Failure.Report
import SignIn.Rehearsal.Chance
import SignIn.Text.Split
import SignIn.Token.Signed

/-!
# Rehearsing tokens

Tokens are issued and taken apart again: their parts, their claims with labels for
the id and for the times, and what their verification says.
-/

namespace SignIn.Rehearsal

/-- A part of a token, decoded. -/
def partText (part : List Char) : String :=
  ((Base64.decode? .url part).bind Bytes.toString?).getD ""

/-- The text of the claims with labels for the id, the time of issue and the end. -/
def labelledClaims (c : Claims) (text : String) : String :=
  let times (issued ends : String) := "\"iat\":" ++ issued ++ ",\"exp\":" ++ ends ++ "\x7d"
  let opening (id : String) := "\x7b\"jti\":\"" ++ id ++ "\""
  (text.replace (times (Decimal.text c.issuedAt) (Decimal.text c.expiresAt)) (times "<iat>" "<exp>")).replace
    (opening c.id.text) (opening "<jti>")

/-- The time between issue and end, unless the end is the last one there is. -/
def lifetimeJson (c : Claims) : Json :=
  if c.expiresAt = Decimal.Range.i64.greatest then .str "saturated"
  else .int (c.expiresAt - c.issuedAt)

/-- What the verification of a token says. -/
def verdictJson (secret : String) (nowSeconds : Int) (t : IssuedToken) : Json :=
  match SigningKey.ofSecret? secret >>= fun key => SignedToken.verify key nowSeconds t.text with
  | .ok claims => .obj [("same_payload", .bool (claims == t.claims))]
  | .error e => e.report

/-- A new token: its parts, and whether it verifies. -/
def issuedJson (verifySecret : String) (nowSeconds : Int) (t : IssuedToken) : Json :=
  let parts := Split.pieces '.' t.text.toList
  let part (i : Nat) := parts[i]?.getD []
  .obj [("parts", .int parts.length), ("header", .str (partText (part 0))),
    ("claims", .str (labelledClaims t.claims (partText (part 1)))),
    ("signature_chars", .int (part 2).length), ("jti_version", .int t.claims.id.version),
    ("ttl", lifetimeJson t.claims), ("verify", verdictJson verifySecret nowSeconds t)]

/-- Issue one token, or a pair, and show what was issued. -/
def issued (key : SigningKey) (verifySecret : String) (nowSeconds : Int) (paired : Bool)
    (userId username : String) (ttl : Int) : Json :=
  let (access, refresh) := IssuedToken.makePair key (freshId 0, nowSeconds) (freshId 1, nowSeconds)
    userId username ttl
  let tokens := if paired then [access, refresh] else [access]
  .obj [("tokens", .arr (tokens.map (issuedJson verifySecret nowSeconds))),
    ("distinct_ids", .int (tokens.map (·.claims.id)).eraseDups.length),
    ("iat_is_now", .bool (tokens.all (·.claims.issuedAt == nowSeconds)))]

end SignIn.Rehearsal
