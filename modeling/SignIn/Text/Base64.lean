import SignIn.Text.Bytes

/-!
# Base64 without padding

Three bytes become four digits; one or two bytes left over become two or three.
Reading is strict: no padding, no other characters, and the bits of the last
digit that belong to no byte are zero. So every byte string has one text.
-/

namespace SignIn.Base64

/-- The two digits on which the common alphabets differ. -/
structure Alphabet where
  digit62 : Char
  digit63 : Char
  deriving DecidableEq, Repr

/-- The usual alphabet. -/
def Alphabet.standard : Alphabet := ⟨'+', '/'⟩

/-- The alphabet for URLs and file names. -/
def Alphabet.url : Alphabet := ⟨'-', '_'⟩

/-- The digit of a value below sixty-four. -/
def Alphabet.digit (a : Alphabet) (value : Nat) : Char :=
  if value < 26 then Char.ofNat (65 + value)
  else if value < 52 then Char.ofNat (71 + value)
  else if value < 62 then Char.ofNat (value - 4)
  else if value = 62 then a.digit62
  else a.digit63

/-- The value of a digit. -/
def Alphabet.value? (a : Alphabet) (c : Char) : Option Nat :=
  if 'A' ≤ c ∧ c ≤ 'Z' then some (c.toNat - 65)
  else if 'a' ≤ c ∧ c ≤ 'z' then some (c.toNat - 71)
  else if '0' ≤ c ∧ c ≤ '9' then some (c.toNat + 4)
  else if c = a.digit62 then some 62
  else if c = a.digit63 then some 63
  else none

/-- Three bytes make four digits. There is no padding. -/
def encode (a : Alphabet) : Bytes → List Char
  | b0 :: b1 :: b2 :: rest =>
    a.digit (b0.toNat / 4) :: a.digit (b0.toNat % 4 * 16 + b1.toNat / 16) ::
      a.digit (b1.toNat % 16 * 4 + b2.toNat / 64) :: a.digit (b2.toNat % 64) :: encode a rest
  | [b0, b1] =>
    [a.digit (b0.toNat / 4), a.digit (b0.toNat % 4 * 16 + b1.toNat / 16),
      a.digit (b1.toNat % 16 * 4)]
  | [b0] => [a.digit (b0.toNat / 4), a.digit (b0.toNat % 4 * 16)]
  | [] => []

/-- The bytes, if the digits are ones that `encode` writes. -/
def decode? (a : Alphabet) : List Char → Option Bytes
  | c0 :: c1 :: c2 :: c3 :: rest => do
    let v0 ← a.value? c0
    let v1 ← a.value? c1
    let v2 ← a.value? c2
    let v3 ← a.value? c3
    let more ← decode? a rest
    return UInt8.ofNat (v0 * 4 + v1 / 16) :: UInt8.ofNat (v1 % 16 * 16 + v2 / 4) ::
      UInt8.ofNat (v2 % 4 * 64 + v3) :: more
  | [c0, c1, c2] => do
    let v0 ← a.value? c0
    let v1 ← a.value? c1
    let v2 ← a.value? c2
    guard (v2 % 4 = 0)
    return [UInt8.ofNat (v0 * 4 + v1 / 16), UInt8.ofNat (v1 % 16 * 16 + v2 / 4)]
  | [c0, c1] => do
    let v0 ← a.value? c0
    let v1 ← a.value? c1
    guard (v1 % 16 = 0)
    return [UInt8.ofNat (v0 * 4 + v1 / 16)]
  | [_] => none
  | [] => some []

/-- The number of bytes that so many digits stand for. -/
def decodedLength (digits : Nat) : Nat := digits * 3 / 4

theorem length_encode (a : Alphabet) (bytes : Bytes) :
    (encode a bytes).length = (bytes.length * 4 + 2) / 3 := by
  fun_induction encode a bytes with
  | case1 b0 b1 b2 rest ih => simp only [List.length_cons, ih]; omega
  | case2 => simp
  | case3 => simp
  | case4 => rfl

end SignIn.Base64
