import SignIn.Text.Decimal

/-!
# Punycode

The characters of a label outside of ASCII are written behind its last hyphen, in
the order of their code points. Each is a number of variable length in base 36,
which says how many positions and code points it is ahead of the one before. The
bounds that tell the last digit of a number from the others follow the sizes of
the numbers so far.
-/

namespace SignIn.Punycode

/-- Letters are the digits below 26, and decimal digits the ten above. -/
def digit? (c : Char) : Option Nat :=
  if 'a' ≤ c ∧ c ≤ 'z' then some (c.toNat - 97)
  else if 'A' ≤ c ∧ c ≤ 'Z' then some (c.toNat - 65)
  else (Decimal.value? c).map (· + 26)

/-- A digit below the bound of its place is the last one. -/
def bound (place bias : Nat) : Nat := max 1 (min 26 (place - bias))

/-- Bring a number below the bound of the first place, counting the places. -/
def settle (delta places : Nat) : Nat × Nat :=
  if 455 < delta then settle (delta / 35) (places + 36) else (delta, places)
termination_by delta
decreasing_by omega

/-- The bias after a number, when so many characters are known. -/
def nextBias (delta count : Nat) (isFirst : Bool) : Nat :=
  let damped := if isFirst then delta / 700 else delta / 2
  let (small, places) := settle (damped + damped / count) 0
  places + 36 * small / (small + 38)

/-- Read a number, from its least digit on. -/
def number? (bias place weight acc : Nat) : List Char → Option (Nat × List Char)
  | [] => none
  | c :: rest => do
    let d ← digit? c
    if d < bound place bias then return (acc + d * weight, rest)
    else number? bias (place + 36) (weight * (36 - bound place bias)) (acc + d * weight) rest

theorem length_of_number? {bias place weight acc : Nat} {cs : List Char} {r : Nat × List Char}
    (h : number? bias place weight acc cs = some r) : r.2.length < cs.length := by
  induction cs generalizing place weight acc with
  | nil => simp [number?] at h
  | cons c rest ih =>
    simp only [number?, Option.bind_eq_bind, Option.bind_eq_some_iff] at h
    obtain ⟨d, -, h⟩ := h
    split at h
    · simp only [Option.pure_def, Option.some.injEq] at h
      simp [← h]
    · have := ih h
      simp only [List.length_cons]
      omega

/-- The state between two numbers: what is known of the label, and where the next number counts
from. -/
structure State where
  known : List Char
  codePoint : Nat := 128
  position : Nat := 0
  bias : Nat := 72
  isFirst : Bool := true

/-- Insert the character that a number stands for. -/
def State.insert? (s : State) (delta : Nat) : Option State :=
  let count := s.known.length + 1
  let ahead := s.position + delta
  let codePoint := s.codePoint + ahead / count
  if codePoint.isValidChar then
    some ⟨s.known.insertIdx (ahead % count) (Char.ofNat codePoint), codePoint, ahead % count + 1,
      nextBias delta count s.isFirst, false⟩
  else none

/-- Put in all characters that the rest of the text encodes. -/
def insertAll? (s : State) (cs : List Char) : Option (List Char) :=
  if cs.isEmpty then some s.known
  else
    match h : number? s.bias 36 1 0 cs with
    | none => none
    | some (delta, rest) =>
      have : rest.length < cs.length := length_of_number? h
      (s.insert? delta).bind fun s => insertAll? s rest
termination_by cs.length

/-- The label that a text stands for. What is before its last hyphen stands for itself; a hyphen with
nothing before it is none. -/
def decode? (cs : List Char) : Option (List Char) :=
  let numbers := (cs.reverse.takeWhile (· != '-')).reverse
  let known := (cs.take (cs.length - numbers.length)).dropLast
  if known.isEmpty then insertAll? { known } cs else insertAll? { known } numbers

end SignIn.Punycode
