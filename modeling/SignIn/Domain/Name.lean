import SignIn.Domain.Characters
import SignIn.Domain.Direction
import SignIn.Domain.Punycode
import SignIn.Text.Split
import SignIn.Text.Utf8

/-!
# Domain names

A name is cut at its dots into labels. A label that begins with `xn--` stands for
one with other characters than those of ASCII, which may not need replacement. No
label begins with a mark, joiners stand only where they have something to join,
and a name that is written from right to left in part does so in an orderly way.
-/

namespace SignIn.Domain

/-! ## Labels -/

def zeroWidthNonJoiner : Char := '\u200c'

def zeroWidthJoiner : Char := '\u200d'

/-- The character before a joiner, and the nearest characters on either side that are no marks. -/
structure Seam where
  last : Option Char
  before : Option Char
  behind : Option Char

/-- A joiner follows a virama. A divider may also stand between letters that are written from right
to left. -/
def Seam.allows (s : Seam) (joiner : Char) : Bool :=
  s.last.any isVirama ||
    (joiner == zeroWidthNonJoiner && s.before.any (direction · == .right) &&
      s.behind.any (direction · == .right))

/-- Every joiner is in its place; the characters before are given in reverse. -/
def joinersFit (before : List Char) : List Char → Bool
  | [] => true
  | c :: rest =>
    (!(c == zeroWidthNonJoiner || c == zeroWidthJoiner) ||
      Seam.allows ⟨before.head?, before.find? (!isMark ·), rest.find? (!isMark ·)⟩ c) &&
    joinersFit (c :: before) rest

/-- May the label stand in a name? It begins with no mark, and its joiners join something. -/
def isLabel (cs : List Char) : Bool := !cs.head?.any isMark && joinersFit [] cs

/-- A character that is what it would be replaced by. -/
def isSettled (c : Char) : Bool := replace? c == some [c]

/-- The label that a label stands for. -/
def label? : List Char → Option (List Char)
  | 'x' :: 'n' :: '-' :: '-' :: rest => do
    let cs ← Punycode.decode? rest
    if cs.all isSettled && cs.any (128 ≤ ·.toNat) && isLabel cs then return cs else none
  | cs => if isLabel cs then some cs else none

/-! ## Directions of a name -/

/-- The direction of the last character that is no mark. -/
def lastDirection (directions : List Direction) : Option Direction :=
  directions.reverse.find? (· != .mark)

/-- A label that begins on the left has nothing from the right. One that begins on the right has
nothing from the left and only one kind of numbers. -/
def isOrderly : List Direction → Bool
  | [] => true
  | .left :: rest =>
    !rest.contains .right && !rest.contains .arabicNumber &&
      (lastDirection (.left :: rest)).any fun d => d == .left || d == .number
  | .right :: rest =>
    !rest.contains .left && !(rest.contains .number && rest.contains .arabicNumber) &&
      (lastDirection (.right :: rest)).any fun d =>
        d == .right || d == .number || d == .arabicNumber
  | _ => false

/-- Is a part of the name written from right to left? -/
def isBidirectional (labels : List (List Char)) : Bool :=
  labels.any fun cs => cs.any fun c => direction c == .right || direction c == .arabicNumber

/-- The labels of a name. -/
def labels? (bytes : Bytes) : Option (List (List Char)) := do
  let labels ← (Split.pieces '.' (← replaced? (Utf8.chars bytes))).mapM label?
  if isBidirectional labels && !labels.all fun cs => isOrderly (cs.map direction) then none
  else return labels

end SignIn.Domain
