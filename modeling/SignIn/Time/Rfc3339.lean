import SignIn.Text.Blank
import SignIn.Text.Bytes
import SignIn.Text.Decimal
import SignIn.Time.Timestamp

/-!
# Date and time text

Points in time are written in UTC with the letter Z and with 0, 3, 6 or 9 digits
of a second. Reading is more generous: blanks before the numbers and separators,
numbers without leading zeros, signed years, a blank for the letter T, offsets
with or without a colon, and second 60 for a leap second.
-/

namespace SignIn.Rfc3339

/-! ## Writing -/

/-- A year of four digits, or with a sign. -/
def writeYear (year : Int) : List Char :=
  if 0 ≤ year ∧ year ≤ 9999 then Decimal.padded 4 year.toNat
  else (if year < 0 then '-' else '+') :: Decimal.padded 4 year.natAbs

/-- The fraction of a second, to the millisecond, microsecond or nanosecond. -/
def writeFraction (nanos : Nat) : List Char :=
  if nanos = 0 then []
  else if nanos % 1000000 = 0 then '.' :: Decimal.padded 3 (nanos / 1000000)
  else if nanos % 1000 = 0 then '.' :: Decimal.padded 6 (nanos / 1000)
  else '.' :: Decimal.padded 9 nanos

/-- The point in time as text, in universal time. -/
def write (t : Timestamp) : List Char :=
  let leap := t.nanos / 1000000000
  let s := t.secondOfDay
  writeYear t.date.year ++ '-' :: Decimal.padded 2 t.date.month ++ '-' :: Decimal.padded 2 t.date.day ++
    'T' :: Decimal.padded 2 (s / 3600) ++ ':' :: Decimal.padded 2 (s / 60 % 60) ++
    ':' :: Decimal.padded 2 (s % 60 + leap) ++ writeFraction (t.nanos % 1000000000) ++ ['Z']

/-- The text of a point in time. -/
def text (t : Timestamp) : String := String.ofList (write t)

/-! ## Reading -/

/-- What is wrong with the text of a point in time. -/
inductive Problem where
  | tooShort
  | invalid
  | outOfRange
  | impossible
  | trailing
  deriving DecidableEq, Repr

/-- The problem in words. -/
def Problem.message : Problem → String
  | .tooShort => "premature end of input"
  | .invalid => "input contains invalid characters"
  | .outOfRange => "input is out of range"
  | .impossible => "no possible date and time matching input"
  | .trailing => "trailing input"

/-- Further digits of a number, at most `width` of them where a width is given. -/
def moreDigits (width : Option Nat) (acc : Nat) : List Char → Except Problem (Nat × List Char)
  | [] => .ok (acc, [])
  | c :: rest =>
    if width = some 0 then .ok (acc, c :: rest)
    else
      match Decimal.value? c with
      | none => .ok (acc, c :: rest)
      | some d =>
        if 10 * acc + d ≤ 9223372036854775807 then
          moreDigits (width.map (· - 1)) (10 * acc + d) rest
        else .error .outOfRange

/-- Read a number: at most so many digits, or as many as there are. -/
def number (width : Option Nat) : List Char → Except Problem (Nat × List Char)
  | [] => .error .tooShort
  | c :: rest =>
    match Decimal.value? c with
    | none => .error .invalid
    | some d => moreDigits (width.map (· - 1)) d rest

/-- A number of one or two digits between two bounds, behind any blanks. -/
def field (least greatest : Nat) (cs : List Char) : Except Problem (Nat × List Char) := do
  let (n, rest) ← number (some 2) (Blank.skip cs)
  if least ≤ n ∧ n ≤ greatest then return (n, rest) else throw .outOfRange

/-- A year has at most four digits unless it has a sign. -/
def year (cs : List Char) : Except Problem (Int × List Char) := do
  let (y, rest) ← match Blank.skip cs with
    | '-' :: rest => do
      let (n, rest) ← number none rest
      pure (-(n : Int), rest)
    | '+' :: rest => do
      let (n, rest) ← number none rest
      pure ((n : Int), rest)
    | rest => do
      let (n, rest) ← number (some 4) rest
      pure ((n : Int), rest)
  if Decimal.Range.i32.contains y then return (y, rest) else throw .outOfRange

/-- Read a character that has to be there. Blanks before it are passed over. -/
def literal (c : Char) (cs : List Char) : Except Problem (Unit × List Char) :=
  match Blank.skip cs with
  | [] => .error .tooShort
  | d :: rest => if d = c then .ok ((), rest) else .error .invalid

/-- Digits past the ninth are passed over. -/
def fraction : List Char → Except Problem (Nat × List Char)
  | '.' :: rest => do
    let (n, rest') ← number (some 9) rest
    let width := rest.length - rest'.length
    return (n * Nat.pow 10 (9 - width), rest'.dropWhile fun c => (Decimal.value? c).isSome)
  | cs => .ok (0, cs)

/-- Read what stands between the date and the time. -/
def separator : List Char → Except Problem (Unit × List Char)
  | [] => .error .tooShort
  | c :: rest => if c = 'T' ∨ c = 't' ∨ c = ' ' then .ok ((), rest) else .error .invalid

/-- Two digits, whose first must be at most the given one. -/
def twoDigits (cs : List Char) : Except Problem ((Nat × Nat) × List Char) :=
  match cs with
  | a :: b :: rest =>
    match Decimal.value? a, Decimal.value? b with
    | some x, some y => .ok ((x, y), rest)
    | _, _ => .error .invalid
  | [a] => if a.utf8Size < 2 then .error .tooShort else .error .invalid
  | [] => .error .tooShort

/-- The seconds by which local time is ahead of UTC. -/
def signedOffset (sign : Int) (cs : List Char) : Except Problem (Int × List Char) := do
  let ((h1, h2), rest) ← twoDigits cs
  let ((m1, m2), rest) ← twoDigits (rest.dropWhile fun c => c = ':' || Blank.isBlank c)
  if m1 ≤ 5 then
    return (sign * ((10 * h1 + h2) * 3600 + (10 * m1 + m2) * 60 : Nat), rest)
  else throw .outOfRange

def isUtc (cs : List Char) : Bool := cs.take 3 |>.map Char.toUpper |> (· == ['U', 'T', 'C'])

/-- Read how far the local time is ahead, in seconds. -/
def offset (cs : List Char) : Except Problem (Int × List Char) :=
  if isUtc cs then .ok (0, cs.drop 3)
  else
    match cs with
    | [] => .error .tooShort
    | c :: rest =>
      if c = 'Z' ∨ c = 'z' then .ok (0, rest)
      else if c = '+' then signedOffset 1 rest
      else if c = '-' ∨ c = '\u2212' then signedOffset (-1) rest
      else .error .invalid

/-- The years that points in time may lie in. -/
def leastYear : Int := -262143

def greatestYear : Int := 262142

def inYears (d : Date) : Bool := leastYear ≤ d.year && d.year ≤ greatestYear

/-- The parts of a date and time as they were read. -/
structure Parts where
  date : Date
  hour : Nat
  minute : Nat
  second : Nat
  nanos : Nat
  offset : Int

/-- The point in time the parts name. Local date and UTC date must both lie in the years allowed. -/
def Parts.timestamp (p : Parts) : Except Problem Timestamp :=
  if ¬(p.date.Exists ∧ inYears p.date) then .error .outOfRange
  else if 86400 ≤ p.offset.natAbs then .error .outOfRange
  else
    let leap := p.second / 60
    let seconds := p.date.dayNumber * 86400 + (p.hour * 3600 + p.minute * 60 + (p.second - leap) : Nat)
      - p.offset
    let t : Timestamp := ⟨seconds, p.nanos + leap * 1000000000⟩
    if inYears t.date then .ok t else .error .impossible

/-- Read the parts in turn. Each may follow blanks. -/
def readParts (cs : List Char) : Except Problem (Parts × List Char) := do
  let (y, cs) ← year cs
  let (_, cs) ← literal '-' cs
  let (m, cs) ← field 1 12 cs
  let (_, cs) ← literal '-' cs
  let (d, cs) ← field 1 31 cs
  let (_, cs) ← separator cs
  let (hour, cs) ← field 0 23 cs
  let (_, cs) ← literal ':' cs
  let (minute, cs) ← field 0 59 cs
  let (_, cs) ← literal ':' cs
  let (second, cs) ← field 0 60 cs
  let (nanos, cs) ← fraction cs
  let (off, cs) ← offset (Blank.skip cs)
  return (⟨⟨y, m, d⟩, hour, minute, second, nanos, off⟩, cs)

/-- Read a whole text as a point in time. -/
def read (cs : List Char) : Except Problem Timestamp := do
  let (parts, rest) ← readParts cs
  if Blank.skip rest = [] then parts.timestamp else throw .trailing

/-- Read the text of a point in time. -/
def ofText (s : String) : Except Problem Timestamp := read s.toList

end SignIn.Rfc3339
