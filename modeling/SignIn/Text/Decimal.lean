/-!
# Decimal text of integers

Integers are written without leading zeros. Reading is bounded by a least and a
greatest value and looks at the characters from left to right: the first
character that is no digit, or the first digit that takes the number out of its
bounds, decides the failure.
-/

namespace SignIn.Decimal

/-- The digit of a value below ten. -/
def digit (value : Nat) : Char := Char.ofNat (48 + value)

/-- The value of a digit. -/
def value? (c : Char) : Option Nat :=
  if '0' ≤ c ∧ c ≤ '9' then some (c.toNat - 48) else none

theorem value?_digit {value : Nat} (h : value < 10) : value? (digit value) = some value := by
  rcases value with _|_|_|_|_|_|_|_|_|_|value
  all_goals first | rfl | omega

/-- The digits of a natural number, most significant first. -/
def ofNat (n : Nat) : List Char :=
  if n < 10 then [digit n] else ofNat (n / 10) ++ [digit (n % 10)]

/-- An integer, with a sign only if it is negative. -/
def ofInt : Int → List Char
  | .ofNat n => ofNat n
  | .negSucc n => '-' :: ofNat (n + 1)

/-- The text of an integer. -/
def text (n : Int) : String := String.ofList (ofInt n)

/-- A number in `width` digits, filled with zeros on the left. -/
def padded (width n : Nat) : List Char :=
  List.replicate (width - (ofNat n).length) '0' ++ ofNat n

/-- The number written by these digits; `none` at a character that is no digit. -/
def number? (cs : List Char) : Option Nat :=
  cs.foldlM (fun n c => (value? c).map (10 * n + ·)) 0

theorem number?_append_singleton (cs : List Char) (c : Char) :
    number? (cs ++ [c]) = (number? cs).bind fun n => (value? c).map (10 * n + ·) := by
  simp [number?, List.foldlM_append]

theorem number?_ofNat (n : Nat) : number? (ofNat n) = some n := by
  fun_induction ofNat n with
  | case1 n h => simp [number?, value?_digit h]
  | case2 n h ih =>
    simp only [number?_append_singleton, ih, Option.bind_some,
      value?_digit (Nat.mod_lt n (by decide : 0 < 10)), Option.map_some, Option.some.injEq]
    omega

theorem ofNat_ne_nil (n : Nat) : ofNat n ≠ [] := by
  fun_induction ofNat n <;> simp

/-- What is wrong with the text of a number. -/
inductive Problem where
  | empty
  | badDigit
  | tooLarge
  | tooSmall
  deriving DecidableEq, Repr

/-- The problem in words. -/
def Problem.message : Problem → String
  | .empty => "cannot parse integer from empty string"
  | .badDigit => "invalid digit found in string"
  | .tooLarge => "number too large to fit in target type"
  | .tooSmall => "number too small to fit in target type"

/-- Read a magnitude, digit by digit, which may not pass the limit. -/
def magnitude (limit : Nat) (overflow : Problem) (acc : Nat) : List Char → Except Problem Nat
  | [] => .ok acc
  | c :: rest =>
    match value? c with
    | none => .error .badDigit
    | some d =>
      if 10 * acc + d ≤ limit then magnitude limit overflow (10 * acc + d) rest
      else .error overflow

/-- The integers from `least` to `greatest`, one of the usual machine ranges. -/
structure Range where
  least : Int
  greatest : Int
  deriving DecidableEq, Repr

def Range.u16 : Range := ⟨0, 65535⟩

def Range.u32 : Range := ⟨0, 4294967295⟩

def Range.u64 : Range := ⟨0, 18446744073709551615⟩

def Range.i32 : Range := ⟨-2147483648, 2147483647⟩

def Range.i64 : Range := ⟨-9223372036854775808, 9223372036854775807⟩

/-- Does the range have this number? -/
def Range.contains (r : Range) (n : Int) : Bool := r.least ≤ n && n ≤ r.greatest

theorem Range.contains_iff {r : Range} {n : Int} :
    r.contains n = true ↔ r.least ≤ n ∧ n ≤ r.greatest := by
  rw [contains, Bool.and_eq_true, decide_eq_true_iff, decide_eq_true_iff]

/-- The member of the range nearest to an integer. -/
def Range.clamp (r : Range) (n : Int) : Int := max r.least (min r.greatest n)

/-- Read an integer of a range. One plus sign is allowed, and one minus sign where the
range has negative members; a sign alone is no number. -/
def Range.read (r : Range) (text : String) : Except Problem Int :=
  match text.toList with
  | [] => .error .empty
  | '+' :: c :: rest => (magnitude r.greatest.toNat .tooLarge 0 (c :: rest)).map Int.ofNat
  | '-' :: c :: rest =>
    if r.least < 0 then
      (magnitude (-r.least).toNat .tooSmall 0 (c :: rest)).map fun n => -Int.ofNat n
    else .error .badDigit
  | cs => (magnitude r.greatest.toNat .tooLarge 0 cs).map Int.ofNat

/-- An integer of a range. -/
structure Ranged (r : Range) where
  value : Int
  inRange : r.contains value = true
  deriving DecidableEq, Repr

namespace Ranged

variable {r : Range}

/-- The number as one of the range, if it is. -/
def ofInt? (r : Range) (n : Int) : Option (Ranged r) :=
  if h : r.contains n = true then some ⟨n, h⟩ else none

/-- Read an integer of a range, as such. -/
def read (r : Range) (text : String) : Except Problem (Ranged r) :=
  match r.read text with
  | .error problem => .error problem
  | .ok n => if h : r.contains n = true then .ok ⟨n, h⟩ else .error .tooLarge

end Ranged

end SignIn.Decimal
