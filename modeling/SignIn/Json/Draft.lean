import SignIn.Json.Shortest
import SignIn.Text.Bytes
import SignIn.Text.Hex

/-!
# Drafts of JSON values

A draft follows the grammar of JSON, but its strings and numbers stand as they are
written, the bytes of a string as characters of the same number. What nobody asks
for stays a draft: it may hold halves of surrogate pairs, bytes that are no text,
numbers of any size, and levels without end.

Reading a draft may fail in two ways. A reader that has passed the whole value can
go on behind it. One that is stuck inside cannot.
-/

namespace SignIn.Json

/-- A JSON text that was taken apart, with numbers and strings as they stand there. -/
inductive Draft where
  | null
  | bool (value : Bool)
  | number (token : List Char)
  | str (body : List Char)
  | arr (items : List Draft)
  | obj (members : List (List Char × Draft))

/-- A part was read, or passed over as it is, or it cannot be read. -/
inductive Reading (α : Type) where
  | read (value : α)
  | passed
  | stuck

namespace Reading

def map (f : α → β) : Reading α → Reading β
  | .read value => .read (f value)
  | .passed => .passed
  | .stuck => .stuck

def toOption : Reading α → Option α
  | .read value => some value
  | _ => none

def isStuck : Reading α → Bool
  | .stuck => true
  | _ => false

end Reading

/-- The character that a letter behind a backslash stands for. -/
def unescape? (letter : Char) : Option Char :=
  if letter = '"' then some '"'
  else if letter = '\\' then some '\\'
  else if letter = '/' then some '/'
  else if letter = 'n' then some '\n'
  else if letter = 'r' then some '\r'
  else if letter = 't' then some '\t'
  else if letter = 'b' then some '\x08'
  else if letter = 'f' then some '\x0c'
  else none

def hex4? (a b c d : Char) : Option Nat := Hex.number? [a, b, c, d]

/-- The character made of the two halves of a surrogate pair. -/
def joinSurrogates (high low : Nat) : Char :=
  Char.ofNat (0x10000 + (high - 0xD800) * 0x400 + (low - 0xDC00))

namespace Draft

/-- Put a character in front of what is read. -/
def pushChar (c : Char) (rest : Reading Bytes) : Reading Bytes :=
  rest.map (Bytes.ofString (String.singleton c) ++ ·)

/-- The bytes of a string, escapes resolved. A first half of a surrogate pair takes the next byte
with it: at the very end that is the closing quote, elsewhere it is lost inside. -/
def unquote : List Char → Reading Bytes
  | [] => .read []
  | '\\' :: 'u' :: a :: b :: c :: d :: rest =>
    let unit := (hex4? a b c d).getD 0
    if unit < 0xD800 ∨ 0xE000 ≤ unit then pushChar (Char.ofNat unit) (unquote rest)
    else if 0xDC00 ≤ unit then .stuck
    else
      match rest with
      | [] => .passed
      | '\\' :: 'u' :: a :: b :: c :: d :: rest =>
        let low := (hex4? a b c d).getD 0
        if 0xDC00 ≤ low ∧ low < 0xE000 then pushChar (joinSurrogates unit low) (unquote rest)
        else .stuck
      | _ => .stuck
  | '\\' :: letter :: rest => pushChar ((unescape? letter).getD letter) (unquote rest)
  | c :: rest => (unquote rest).map (UInt8.ofNat c.toNat :: ·)

/-- The text of a string. -/
def text (body : List Char) : Reading String :=
  match unquote body with
  | .read bytes =>
    match Bytes.toString? bytes with
    | some s => .read s
    | none => .passed
  | .passed => .passed
  | .stuck => .stuck

/-- The text in the body of a string, if it can be read. -/
def text? (body : List Char) : Option String := (text body).toOption

/-- The greatest exponent that is counted. -/
def greatestExponent : Nat := 2147483647

/-- Does the exponent of a number that is too large pass its limit before the last digit? Then the
digits behind that one are left over. -/
def leavesDigits (token : List Char) : Bool :=
  (Decimal.number? (NumberParts.ofChars token).1.exponent.dropLast).any (greatestExponent < ·)

/-- The number of a token: an integer, if it is one that fits. -/
def numberValue (token : List Char) : Reading Json :=
  match integer? token with
  | some n => .read (.int n)
  | none =>
    if h : isReal token = true then
      let real : Real := ⟨token, h⟩
      if real.value?.isSome then .read (.real real)
      else if leavesDigits token then .stuck else .passed
    else .stuck

mutual

/-- Read a value with at most so many levels of lists and objects. -/
def value (depth : Nat) : Draft → Reading Json
  | .null => .read .null
  | .bool b => .read (.bool b)
  | .number token => numberValue token
  | .str body => (text body).map .str
  | .arr items => if depth = 0 then .stuck else (values (depth - 1) items).map .arr
  | .obj members => if depth = 0 then .stuck else (valueMembers (depth - 1) members).map .obj

/-- Read the items of an array, until one is stuck. -/
def values (depth : Nat) : List Draft → Reading (List Json)
  | [] => .read []
  | item :: rest =>
    match value depth item with
    | .read j => (values depth rest).map (j :: ·)
    | .passed => if rest.isEmpty then .passed else .stuck
    | .stuck => .stuck

/-- Read the members of an object, names first, until one is stuck. -/
def valueMembers (depth : Nat) : List (List Char × Draft) → Reading (List (String × Json))
  | [] => .read []
  | (name, item) :: rest =>
    match text name with
    | .read name =>
      match value depth item with
      | .read j => (valueMembers depth rest).map ((name, j) :: ·)
      | .passed => if rest.isEmpty then .passed else .stuck
      | .stuck => .stuck
    | _ => .stuck

end

/-- The levels of lists and objects that a whole text may have. -/
def greatestDepth : Nat := 127

/-- The value of a draft that stands below so many lists and objects. -/
def json? (above : Nat) (d : Draft) : Option Json := (d.value (greatestDepth - above)).toOption

/-- The members of a record with these names: of an object, whose other members may be anything,
or of an array that holds them all in order. None may be given twice. -/
def fields? (names : List String) : Draft → Option (List (String × Draft))
  | .obj members => do
    let named ← members.mapM fun m => do return (← text? m.1, m.2)
    let known := named.filter fun m => names.contains m.1
    if (known.map (·.1)).Nodup then some known else none
  | .arr items => if items.length = names.length then some (names.zip items) else none
  | _ => none

def isObject : Draft → Bool
  | .obj _ => true
  | _ => false

end Draft

end SignIn.Json
