import SignIn.Json.Basic

/-!
# Real numbers as binary64

A real number is kept to 53 binary digits. It is read from its leading digits, as
many as fit 64 bits, which are rounded, then scaled by a rounded power of ten, and
rounded again. Its text has the fewest decimal digits whose nearest binary number
it is, and of those the nearest ones. The text is positional from 1e-5 up to below
1e16 and has a signed exponent elsewhere.
-/

namespace SignIn.Json

/-- The number `digits * 10 ^ exponent`. -/
structure Scientific where
  digits : Nat
  exponent : Int
  deriving DecidableEq, Repr

/-- The number `significand * 2 ^ exponent`. -/
structure Binary64 where
  significand : Nat
  exponent : Int
  deriving DecidableEq, Repr

/-- A ratio of two natural numbers. -/
structure Ratio where
  num : Nat
  den : Nat
  deriving DecidableEq, Repr

namespace Ratio

/-- The number `n * base ^ e`. -/
def ofPower (n base : Nat) (e : Int) : Ratio :=
  if 0 ≤ e then ⟨n * base.pow e.toNat, 1⟩ else ⟨n, base.pow e.natAbs⟩

def mul (a b : Ratio) : Ratio := ⟨a.num * b.num, a.den * b.den⟩

def le (a b : Ratio) : Bool := a.num * b.den ≤ b.num * a.den

def lt (a b : Ratio) : Bool := a.num * b.den < b.num * a.den

/-- The nearest natural number, a half going to the even neighbour. -/
def round (a : Ratio) : Nat :=
  let q := a.num / a.den
  let r := a.num % a.den
  if 2 * r < a.den then q
  else if 2 * r > a.den then q + 1
  else if q % 2 = 0 then q else q + 1

/-- The greatest exponent `e` with `2 ^ e` at most the number, which is not zero. -/
def log2 (a : Ratio) : Int :=
  let e : Int := (Nat.log2 a.num : Int) - Nat.log2 a.den
  if (ofPower 1 2 e).le a then e else e - 1

/-- The greatest exponent `e` with `10 ^ e` at most the number, which is not zero. -/
def log10 (a : Ratio) : Int :=
  let e : Int := a.log2 * 30103 / 100000
  if (ofPower 1 10 (e + 1)).le a then e + 1
  else if (ofPower 1 10 e).le a then e
  else e - 1

end Ratio

namespace Binary64

/-- The nearest binary number; `none` when it is too large to have one. -/
def ofRatio? (a : Ratio) : Option Binary64 :=
  if a.num = 0 then some ⟨0, -1074⟩
  else
    let e := max (a.log2 - 52) (-1074)
    let m := (a.mul (Ratio.ofPower 1 2 (-e))).round
    let b : Binary64 := if m = Nat.pow 2 53 then ⟨Nat.pow 2 52, e + 1⟩ else ⟨m, e⟩
    if b.exponent ≤ 971 then some b else none

/-- The exact value of a binary number. -/
def ratio (b : Binary64) : Ratio := Ratio.ofPower b.significand 2 b.exponent

/-- Does a number lie in the interval of those whose nearest binary number is this one? -/
def isNearest (b : Binary64) (a : Ratio) : Bool :=
  let low := Ratio.ofPower
    (if b.significand = Nat.pow 2 52 ∧ -1074 < b.exponent then 4 * b.significand - 1 else 4 * b.significand - 2)
    2 (b.exponent - 2)
  let high := Ratio.ofPower (4 * b.significand + 2) 2 (b.exponent - 2)
  if b.significand % 2 = 0 then low.le a && a.le high else low.lt a && a.lt high

/-- The nearer of the two neighbours with `count` digits, if one of them reads back. -/
def withDigits? (b : Binary64) (count : Nat) : Option Scientific :=
  let v := b.ratio
  let e := v.log10 - (count : Int) + 1
  let scaled := v.mul (Ratio.ofPower 1 10 (-e))
  let nearest := scaled.round
  let other := if nearest = scaled.num / scaled.den then nearest + 1 else nearest - 1
  [nearest, other].findSome? fun d =>
    if b.isNearest (Ratio.ofPower d 10 e) then some ⟨d, e⟩ else none

/-- The fewest digits that read back; seventeen always do. -/
def shortest (b : Binary64) : Scientific :=
  match (List.range 17).findSome? fun count => b.withDigits? (count + 1) with
  | some s => s
  | none => ⟨0, 0⟩

/-! ### Reading -/

/-- The nearest binary number to a power of ten. -/
def powerOfTen? (exponent : Nat) : Option Binary64 := ofRatio? (Ratio.ofPower 1 10 exponent)

/-- The product, rounded once. -/
def mul? (a b : Binary64) : Option Binary64 := ofRatio? (a.ratio.mul b.ratio)

/-- The quotient, rounded once. -/
def div? (a b : Binary64) : Option Binary64 :=
  ofRatio? ((a.ratio).mul ⟨b.ratio.den, b.ratio.num⟩)

/-- The greatest exponent of a power of ten that is a binary number. -/
def greatestPower : Nat := 308

/-- Scale by a power of ten, rounding at every step. A number that is too small becomes zero in
at most three steps, and one that is too large is refused. -/
def scale? : Nat → Binary64 → Int → Option Binary64
  | 0, b, _ => some b
  | steps + 1, b, e =>
    if e.natAbs ≤ greatestPower then
      if 0 ≤ e then powerOfTen? e.toNat >>= b.mul? else powerOfTen? e.natAbs >>= b.div?
    else if b.significand = 0 then some b
    else if 0 ≤ e then none
    else do
      let smaller ← powerOfTen? greatestPower >>= b.div?
      scale? steps smaller (e + greatestPower)

/-- The number `digits * 10 ^ exponent` as it is read. -/
def ofScientific? (s : Scientific) : Option Binary64 := do
  let b ← ofRatio? ⟨s.digits, 1⟩
  scale? 5 b s.exponent

end Binary64

namespace Scientific

/-- Move trailing zeros of the digits into the exponent. -/
def stripped (s : Scientific) : Nat → Scientific
  | 0 => s
  | fuel + 1 =>
    if s.digits % 10 = 0 ∧ s.digits ≠ 0 then stripped ⟨s.digits / 10, s.exponent + 1⟩ fuel else s

/-- All digits around a point, without an exponent. -/
def positional (s : Scientific) : List Char :=
  let ds := Decimal.ofNat s.digits
  let point := (ds.length : Int) + s.exponent
  if 0 ≤ s.exponent then ds ++ List.replicate s.exponent.toNat '0' ++ ['.', '0']
  else if 0 < point then ds.take point.toNat ++ '.' :: ds.drop point.toNat
  else '0' :: '.' :: List.replicate (-point).toNat '0' ++ ds

/-- One digit before the point, and an exponent. -/
def exponential (s : Scientific) : List Char :=
  let ds := Decimal.ofNat s.digits
  let e := (ds.length : Int) + s.exponent - 1
  let fraction := if ds.length = 1 then [] else '.' :: ds.drop 1
  ds.take 1 ++ fraction ++ 'e' :: (if 0 ≤ e then ['+'] else []) ++ Decimal.ofInt e

/-- With an exponent, unless the point is near the digits. -/
def write (s : Scientific) : List Char :=
  let point := (Decimal.ofNat s.digits).length + s.exponent
  if s.digits = 0 ∨ (-5 < point ∧ point ≤ 16) then s.positional else s.exponential

end Scientific

namespace Real

/-- Append a digit, if the number still fits 64 bits. -/
def append? (significand digit : Nat) : Option Nat :=
  let n := 10 * significand + digit
  if n ≤ 18446744073709551615 then some n else none

/-- The leading digits of the whole part, and how many were left out. -/
def wholePart : Nat → List Nat → Nat × Nat
  | significand, [] => (significand, 0)
  | significand, d :: rest =>
    match append? significand d with
    | some n => wholePart n rest
    | none => (significand, rest.length + 1)

/-- Go on with the leading digits of the fraction. The second component counts them. -/
def fractionPart : Nat → List Nat → Nat × Nat
  | significand, [] => (significand, 0)
  | significand, d :: rest =>
    match append? significand d with
    | some n =>
      let (m, count) := fractionPart n rest
      (m, count + 1)
    | none => (significand, 0)

def digitValues (cs : List Char) : List Nat := cs.filterMap Decimal.value?

/-- The leading digits of the value without its sign. Exponents beyond every binary number are
cut. -/
def scientific (token : Real) : Scientific :=
  let p := (NumberParts.ofChars token.chars).1
  let (whole, omitted) := wholePart 0 (digitValues p.whole)
  let (significand, count) := fractionPart whole (digitValues p.fraction)
  let e : Int := min ((Decimal.number? p.exponent).getD 0) 4294967296
  ⟨significand, (if p.exponentSign = some true then -e else e) + omitted - count⟩

/-- Is there a minus sign? -/
def negative (token : Real) : Bool := (NumberParts.ofChars token.chars).1.negative

/-- The number as it is kept, without its sign; `none` when it is too large. -/
def value? (token : Real) : Option Binary64 := Binary64.ofScientific? token.scientific

/-- The number as it is kept, in the fewest digits. -/
def kept (token : Real) : Scientific :=
  match token.value? with
  | none => token.scientific
  | some b => if b.significand = 0 then ⟨0, 0⟩ else b.shortest.stripped 20

def signed (token : Real) (cs : List Char) : List Char := if token.negative then '-' :: cs else cs

/-- The token that binary64 writes for this number. -/
def shortest (token : Real) : Real :=
  let cs := token.signed token.kept.write
  if h : isReal cs = true then ⟨cs, h⟩ else token

end Real

/-- The value that a reader of arbitrary data keeps. -/
def normal (j : Json) : Json := normalWith Real.shortest j

end SignIn.Json
