import SignIn.Text.Decimal

/-!
# Number tokens

A number in JSON text is either an integer that fits 64 bits, signed or unsigned,
or a real number. Integers are known by value. Real numbers are kept as they are
written, so that they pass through unchanged.
-/

namespace SignIn.Json

def isDigit (c : Char) : Bool := (Decimal.value? c).isSome

def isNumberChar (c : Char) : Bool :=
  isDigit c || c == '-' || c == '+' || c == '.' || c == 'e' || c == 'E'

/-- The parts of a number token. -/
structure NumberParts where
  negative : Bool
  whole : List Char
  fraction : List Char
  exponentSign : Option Bool
  exponent : List Char
  deriving DecidableEq, Repr

namespace NumberParts

/-- Cut a token at its sign, point and exponent mark. The second component holds whether a point
and an exponent mark were there. -/
def ofChars (cs : List Char) : NumberParts × Bool × Bool :=
  let (negative, cs) := match cs with
    | '-' :: rest => (true, rest)
    | cs => (false, cs)
  let whole := cs.takeWhile isDigit
  let (point, cs) := match cs.dropWhile isDigit with
    | '.' :: rest => (true, rest)
    | cs => (false, cs)
  let fraction := if point then cs.takeWhile isDigit else []
  let cs := if point then cs.dropWhile isDigit else cs
  let (mark, cs) := match cs with
    | 'e' :: rest => (true, rest)
    | 'E' :: rest => (true, rest)
    | cs => (false, cs)
  let (sign, cs) := match mark, cs with
    | true, '+' :: rest => (some false, rest)
    | true, '-' :: rest => (some true, rest)
    | _, cs => (none, cs)
  (⟨negative, whole, fraction, sign, cs⟩, point, mark)

/-- The grammar of number tokens: no leading zeros, and digits behind a point or exponent mark. -/
def wellFormed (p : NumberParts × Bool × Bool) : Bool :=
  let n := p.1
  let point := p.2.1
  let mark := p.2.2
  !n.whole.isEmpty && (n.whole.length == 1 || n.whole.head? != some '0') &&
    (point == !n.fraction.isEmpty) &&
    (if mark then !n.exponent.isEmpty && n.exponent.all isDigit else n.exponent.isEmpty)

end NumberParts

/-- Is the token a number as JSON has it? -/
def isNumber (cs : List Char) : Bool := NumberParts.wellFormed (NumberParts.ofChars cs)

/-- The integers that are known by value. -/
def inIntegerRange (n : Int) : Bool := -9223372036854775808 ≤ n && n ≤ 18446744073709551615

/-- The value of an integer token in range. Minus zero is a real number. -/
def integer? (cs : List Char) : Option Int :=
  if isNumber cs then
    match cs with
    | '-' :: rest => do
      let n ← Decimal.number? rest
      if n ≠ 0 ∧ inIntegerRange (-n) then some (-n) else none
    | cs => do
      let n ← Decimal.number? cs
      if inIntegerRange n then some n else none
  else none

/-- A token of a real number: a number token that is no integer in range. -/
def isReal (cs : List Char) : Bool := isNumber cs && (integer? cs).isNone

/-- The token of a number that is no integer. -/
structure Real where
  chars : List Char
  isReal_chars : isReal chars = true
  deriving DecidableEq

end SignIn.Json
