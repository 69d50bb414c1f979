import SignIn.Text.Bytes

/-!
# Hexadecimal text

Bytes are written as two lowercase digits each. Digits are read in either case.
-/

namespace SignIn.Hex

/-- The digit of a value below sixteen. -/
def digit (value : Nat) : Char :=
  if value < 10 then Char.ofNat (48 + value) else Char.ofNat (87 + value)

/-- The value of a digit of either case. -/
def value? (c : Char) : Option Nat :=
  if '0' ≤ c ∧ c ≤ '9' then some (c.toNat - 48)
  else if 'a' ≤ c ∧ c ≤ 'f' then some (c.toNat - 87)
  else if 'A' ≤ c ∧ c ≤ 'F' then some (c.toNat - 55)
  else none

theorem value?_digit {value : Nat} (h : value < 16) : value? (digit value) = some value := by
  rcases value with _|_|_|_|_|_|_|_|_|_|_|_|_|_|_|_|value
  all_goals first | rfl | omega

/-- The two digits of a byte, high half first. -/
def pair (b : UInt8) : List Char := [digit (b.toNat / 16), digit (b.toNat % 16)]

/-- Two digits for each byte. -/
def encode (bytes : Bytes) : List Char := bytes.flatMap pair

@[simp] theorem length_encode (bytes : Bytes) : (encode bytes).length = 2 * bytes.length := by
  induction bytes with
  | nil => rfl
  | cons b rest ih => simp only [encode, List.flatMap_cons, List.length_append] at *; simp [ih, pair]; omega

/-- The bytes that are written with two digits each. -/
def decode? : List Char → Option Bytes
  | [] => some []
  | high :: low :: rest => do
    let h ← value? high
    let l ← value? low
    return UInt8.ofNat (16 * h + l) :: (← decode? rest)
  | _ => none

/-- The digits of a number, `width` of them, most significant first. -/
def fixed (width n : Nat) : List Char :=
  match width with
  | 0 => []
  | width + 1 => fixed width (n / 16) ++ [digit (n % 16)]

@[simp] theorem length_fixed (width n : Nat) : (fixed width n).length = width := by
  induction width generalizing n with
  | zero => rfl
  | succ width ih => simp [fixed, ih]

/-- The number written in hexadecimal; `none` at a character that is no digit. -/
def number? (cs : List Char) : Option Nat :=
  cs.foldlM (fun n c => (value? c).map (16 * n + ·)) 0

theorem number?_append_singleton (cs : List Char) (c : Char) :
    number? (cs ++ [c]) = (number? cs).bind fun n => (value? c).map (16 * n + ·) := by
  simp [number?, List.foldlM_append]

theorem number?_fixed (width n : Nat) (h : n < Nat.pow 16 width) :
    number? (fixed width n) = some n := by
  induction width generalizing n with
  | zero =>
    obtain rfl : n = 0 := Nat.lt_one_iff.mp h
    rfl
  | succ width ih =>
    have h : n < Nat.pow 16 width * 16 := h
    simp only [fixed, number?_append_singleton, ih (n / 16) (by omega), Option.bind_some,
      value?_digit (Nat.mod_lt n (by decide : 0 < 16)), Option.map_some, Option.some.injEq]
    omega

end SignIn.Hex
