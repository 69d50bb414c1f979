/-!
# Failures of signed tokens

A token that cannot be accepted is invalid or expired. A secret that is too short
makes no tokens at all.
-/

namespace SignIn

/-- The least length of a signing secret, in bytes. -/
def minSecretBytes : Nat := 32

/-- What making or reading a token may fail with. -/
inductive TokenError where
  | invalid
  | expired
  | secretTooShort
  | signing (reason : String)
  deriving DecidableEq, Repr

/-- The failure in words. -/
def TokenError.message : TokenError → String
  | .invalid => "token is invalid"
  | .expired => "token has expired"
  | .secretTooShort => "secret key must be at least 32 bytes"
  | .signing reason => "failed to sign token: " ++ reason

end SignIn
