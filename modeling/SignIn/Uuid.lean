import SignIn.Text.Hex

/-!
# Unique identifiers

An identifier is a number of 128 bits, ordered as its sixteen bytes are. It is
written as five groups of hexadecimal digits. Four forms are read: the written
one, the same in braces or behind `urn:uuid:` in any case, and the bare digits.
-/

namespace SignIn

/-- A universally unique id, as its 128 bits. -/
structure Uuid where
  bits : BitVec 128
  deriving DecidableEq, Repr, Inhabited

namespace Uuid

/-- The id that stands for none. -/
def nil : Uuid := ⟨0⟩

def isNil (id : Uuid) : Bool := id.bits == 0

/-- The order of the sixteen bytes. -/
def toNat (id : Uuid) : Nat := id.bits.toNat

theorem toNat_injective {a b : Uuid} (h : a.toNat = b.toNat) : a = b := by
  cases a; cases b; congr 1; exact BitVec.eq_of_toNat_eq h

/-- The four bits that tell how the identifier was made. -/
def version (id : Uuid) : Nat := id.toNat >>> 76 % 16

/-- The random identifier made from any 128 bits: version 4, variant 2. -/
def ofRandom (bits : BitVec 128) : Uuid :=
  ⟨bits &&& ~~~(0xF#128 <<< 76) &&& ~~~(0x3#128 <<< 62) ||| (0x4#128 <<< 76) ||| (0x2#128 <<< 62)⟩

/-- The 32 digits, without hyphens. -/
def digits (id : Uuid) : List Char := Hex.fixed 32 id.toNat

/-- Put hyphens after the 8th, 12th, 16th and 20th digit. -/
def hyphenate (ds : List Char) : List Char :=
  ds.take 8 ++ '-' :: (ds.drop 8).take 4 ++ '-' :: (ds.drop 12).take 4 ++
    '-' :: (ds.drop 16).take 4 ++ '-' :: ds.drop 20

/-- The usual text: lowercase digits in five groups. -/
def text (id : Uuid) : String := String.ofList (hyphenate id.digits)

/-- Read 32 digits of either case. -/
def ofDigits? (ds : List Char) : Option Uuid :=
  if ds.length = 32 then (Hex.number? ds).map fun n => ⟨BitVec.ofNat 128 n⟩ else none

/-- Read the form with hyphens, which stand in their four places only. -/
def ofHyphenated? (cs : List Char) : Option Uuid :=
  let ds := cs.take 8 ++ (cs.drop 9).take 4 ++ (cs.drop 14).take 4 ++ (cs.drop 19).take 4 ++ cs.drop 24
  if cs = hyphenate ds then ofDigits? ds else none

/-- The prefix of an id that is written as a name. -/
def urn : List Char := "urn:uuid:".toList

/-- Read an id in any of its forms, which are told apart by their length. -/
def ofChars? (cs : List Char) : Option Uuid :=
  match cs.length with
  | 32 => ofDigits? cs
  | 36 => ofHyphenated? cs
  | 38 => if cs.take 1 = ['\x7b'] ∧ cs.drop 37 = ['\x7d'] then ofHyphenated? ((cs.drop 1).take 36) else none
  | 45 => if (cs.take 9).map Char.toLower = urn then ofHyphenated? (cs.drop 9) else none
  | _ => none

def ofText? (s : String) : Option Uuid := ofChars? s.toList

end Uuid

end SignIn
