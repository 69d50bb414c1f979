import SignIn.Text.Decimal
import SignIn.Text.Hex
import SignIn.Text.Split

/-!
# IP addresses

An address of version 6 is eight groups of hexadecimal digits between colons; the
last two may be four numbers with dots, and two colons stand for one run of zero
groups. An address of version 4 is four numbers with dots. As the host of a URL
it may also have fewer parts, of which the last fills the bytes that are left, and
its numbers may be octal or hexadecimal.
-/

namespace SignIn.IpAddress

/-- A byte in decimal, without leading zeros. -/
def byte? (cs : List Char) : Option Nat :=
  match cs with
  | [] => none
  | '0' :: _ :: _ => none
  | cs => (Decimal.number? cs).filter (· < 256)

/-- Four bytes with dots between them. -/
def dotted? (cs : List Char) : Option (List Nat) := do
  let bytes ← (Split.pieces '.' cs).mapM byte?
  if bytes.length = 4 then return bytes else none

/-! ## Version 6 -/

/-- One to four hexadecimal digits. -/
def group? (cs : List Char) : Option Nat :=
  if cs.isEmpty || 4 < cs.length then none else Hex.number? cs

/-- Groups between colons; there may be none. -/
def groups? (cs : List Char) : Option (List Nat) :=
  if cs.isEmpty then some [] else (Split.pieces ':' cs).mapM group?

/-- Groups of which the last two may be four bytes with dots. -/
def lastGroups? (cs : List Char) : Option (List Nat) :=
  match (Split.pieces ':' cs).reverse with
  | last :: before =>
    match dotted? last with
    | some [a, b, c, d] => (before.reverse.mapM group?).map (· ++ [256 * a + b, 256 * c + d])
    | _ => groups? cs
  | [] => none

/-- What stands before and behind the first two colons in a row. -/
def splitGap : List Char → Option (List Char × List Char)
  | ':' :: ':' :: rest => some ([], rest)
  | c :: rest => (splitGap rest).map fun parts => (c :: parts.1, parts.2)
  | [] => none

/-- The eight groups of an address. -/
def version6? (cs : List Char) : Option (List Nat) := do
  match splitGap cs with
  | none =>
    let groups ← lastGroups? cs
    if groups.length = 8 then return groups else none
  | some (before, behind) =>
    let head ← groups? before
    let tail ← lastGroups? behind
    if head.length + tail.length < 8 then
      return head ++ List.replicate (8 - head.length - tail.length) 0 ++ tail
    else none

/-- A text that is an address of either version. -/
def isAddress (cs : List Char) : Bool := (dotted? cs).isSome || (version6? cs).isSome

/-! ## Version 4 as a host -/

/-- The number with these octal digits. Without any it is zero. -/
def octal? (cs : List Char) : Option Nat :=
  if cs.all fun c => '0' ≤ c && c ≤ '7' then
    some (cs.foldl (fun n c => 8 * n + (c.toNat - 48)) 0)
  else none

/-- The number of a part: hexadecimal behind `0x`, octal behind another zero, else decimal. -/
def part? (cs : List Char) : Option Nat :=
  match cs with
  | [] => none
  | '0' :: 'x' :: digits => Hex.number? digits
  | '0' :: 'X' :: digits => Hex.number? digits
  | '0' :: c :: digits => octal? (c :: digits)
  | digits => Decimal.number? digits

/-- A host is taken for an address of version 4 if its last part is a number. One empty part at the
end does not count. -/
def endsInNumber (parts : List (List Char)) : Bool :=
  let isNumber (cs : List Char) : Bool :=
    (!cs.isEmpty && cs.all fun c => (Decimal.value? c).isSome) || (part? cs).isSome
  match parts.reverse with
  | [] :: last :: _ => isNumber last
  | last :: _ => isNumber last
  | [] => false

/-- Put numbers together, each a byte, but for the last, which fills the rest of four bytes. -/
def joined? : List Nat → Option Nat
  | [] => none
  | [n] => if n < 4294967296 then some n else none
  | [a, n] => if a < 256 && n < 16777216 then some (16777216 * a + n) else none
  | [a, b, n] =>
    if a < 256 && b < 256 && n < 65536 then some (16777216 * a + 65536 * b + n) else none
  | [a, b, c, n] =>
    if a < 256 && b < 256 && c < 256 && n < 256 then
      some (16777216 * a + 65536 * b + 256 * c + n)
    else none
  | _ => none

/-- The address with these parts. It may end in a dot. -/
def version4? (parts : List (List Char)) : Option Nat := do
  let parts := if parts.getLast? == some [] then parts.dropLast else parts
  joined? (← parts.mapM part?)

end SignIn.IpAddress
