import SignIn.Text.Bytes
import SignIn.Text.Decimal

/-!
# Faults in UTF-8

The first byte of a character says how many bytes follow it and which they may
be. A byte string is cut into pieces, each the longest beginning of a character;
a piece that is no whole character is a fault, unless the string ends too soon.
-/

namespace SignIn.Utf8

/-- The least and the greatest value of a byte that follows. -/
abbrev Follower := Nat × Nat

/-- Any byte that may continue a character. -/
def anyFollower : Follower := (0x80, 0xBF)

/-- The bytes that follow a first byte; `none` of a byte that begins no character. -/
def followers? (first : Nat) : Option (List Follower) :=
  if first < 0x80 then some []
  else if first < 0xC2 then none
  else if first < 0xE0 then some [anyFollower]
  else if first = 0xE0 then some [(0xA0, 0xBF), anyFollower]
  else if first = 0xED then some [(0x80, 0x9F), anyFollower]
  else if first < 0xF0 then some [anyFollower, anyFollower]
  else if first = 0xF0 then some [(0x90, 0xBF), anyFollower, anyFollower]
  else if first < 0xF4 then some [anyFollower, anyFollower, anyFollower]
  else if first = 0xF4 then some [(0x80, 0x8F), anyFollower, anyFollower]
  else none

/-- How many bytes agree with the followers that are due. -/
def agreeing : List Follower → Bytes → Nat
  | f :: due, b :: rest => if f.1 ≤ b.toNat && b.toNat ≤ f.2 then agreeing due rest + 1 else 0
  | _, _ => 0

/-- A whole character, bytes that cannot go on to be one, or the beginning of one. -/
inductive Form where
  | whole
  | broken
  | cut
  deriving DecidableEq, Repr

/-- How many bytes after the first belong to a piece, and what the piece is. -/
structure Piece where
  more : Nat
  form : Form
  deriving DecidableEq, Repr

/-- The piece at the head of a byte string. -/
def piece (first : UInt8) (rest : Bytes) : Piece :=
  match followers? first.toNat with
  | none => ⟨0, .broken⟩
  | some due =>
    let more := agreeing due rest
    if more = due.length then ⟨more, .whole⟩
    else if more = rest.length then ⟨more, .cut⟩
    else ⟨more, .broken⟩

/-- Where the first fault is, and how many bytes it has; none are counted at the end of the string. -/
structure Fault where
  index : Nat
  size : Option Nat
  deriving DecidableEq, Repr

def Fault.message (f : Fault) : String :=
  match f.size with
  | some size =>
    "invalid utf-8 sequence of " ++ Decimal.text size ++ " bytes from index " ++ Decimal.text f.index
  | none => "incomplete utf-8 byte sequence from index " ++ Decimal.text f.index

/-- The first fault behind so many bytes. -/
def faultFrom (index : Nat) : Bytes → Option Fault
  | [] => none
  | first :: rest =>
    let p := piece first rest
    match p.form with
    | .whole => faultFrom (index + p.more + 1) (rest.drop p.more)
    | .broken => some ⟨index, some (p.more + 1)⟩
    | .cut => some ⟨index, none⟩
termination_by bytes => bytes.length
decreasing_by simp only [List.length_drop, List.length_cons]; omega

/-- The first fault, if the bytes are no text. -/
def fault? (bytes : Bytes) : Option Fault := faultFrom 0 bytes

/-- The character that stands for those that cannot be read. -/
def replacement : Char := '\ufffd'

/-- The characters of a byte string, with a replacement for every piece that is none. -/
def chars : Bytes → List Char
  | [] => []
  | first :: rest =>
    let p := piece first rest
    let here := match Bytes.toString? (first :: rest.take p.more) with
      | some s => s.toList
      | none => [replacement]
    here ++ chars (rest.drop p.more)
termination_by bytes => bytes.length
decreasing_by simp only [List.length_drop, List.length_cons]; omega

/-- The text of a byte string, with replacements for faults. -/
def lossyText (bytes : Bytes) : String := String.ofList (chars bytes)

/-- The text of a byte string without faults. -/
def text (bytes : Bytes) : Except Fault String :=
  match fault? bytes with
  | some fault => .error fault
  | none => .ok (lossyText bytes)

end SignIn.Utf8
