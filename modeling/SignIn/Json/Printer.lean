import SignIn.Json.Basic
import SignIn.Text.Hex

/-!
# JSON text, written

Values are written without blanks. In strings, quotes, backslashes and control
characters are escaped; every other character stands for itself.
-/

namespace SignIn.Json

/-- The letter that stands for a character behind a backslash. -/
def shortEscape? (c : Char) : Option Char :=
  if c = '"' then some '"'
  else if c = '\\' then some '\\'
  else if c = '\n' then some 'n'
  else if c = '\r' then some 'r'
  else if c = '\t' then some 't'
  else if c = '\x08' then some 'b'
  else if c = '\x0c' then some 'f'
  else none

/-- A character inside of a string. -/
def escape (c : Char) : List Char :=
  match shortEscape? c with
  | some letter => ['\\', letter]
  | none => if c.toNat < 32 then '\\' :: 'u' :: Hex.fixed 4 c.toNat else [c]

/-- The characters of a string, closing quote included. -/
def closeString (cs : List Char) : List Char := cs.flatMap escape ++ ['"']

mutual

/-- The text of a value, without blanks. -/
def write : Json → List Char
  | .null => ['n', 'u', 'l', 'l']
  | .bool true => ['t', 'r', 'u', 'e']
  | .bool false => ['f', 'a', 'l', 's', 'e']
  | .int n => Decimal.ofInt n
  | .real token => token.chars
  | .str s => '"' :: closeString s.toList
  | .arr [] => ['[', ']']
  | .arr (item :: rest) => '[' :: write item ++ writeItems rest
  | .obj [] => ['\x7b', '\x7d']
  | .obj ((name, value) :: rest) =>
    '\x7b' :: '"' :: closeString name.toList ++ ':' :: write value ++ writeMembers rest

/-- The items behind the first, and the end of the array. -/
def writeItems : List Json → List Char
  | [] => [']']
  | item :: rest => ',' :: write item ++ writeItems rest

/-- The members behind the first, and the end of the object. -/
def writeMembers : List (String × Json) → List Char
  | [] => ['\x7d']
  | (name, value) :: rest =>
    ',' :: '"' :: closeString name.toList ++ ':' :: write value ++ writeMembers rest

end

/-- The text of a value. -/
def text (j : Json) : String := String.ofList (write j)

end SignIn.Json
