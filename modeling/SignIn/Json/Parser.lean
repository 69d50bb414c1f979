import SignIn.Json.Draft

/-!
# JSON text, read

A text is read as one value with blanks around it. Strings may hold any escape,
but no bare control character. The recursion is bounded by the length of the text.
-/

namespace SignIn.Json

/-- The four blanks of JSON. -/
def isBlank (c : Char) : Bool := c == ' ' || c == '\n' || c == '\r' || c == '\t'

def skipBlanks (cs : List Char) : List Char := cs.dropWhile isBlank

/-- Cut a string off at its closing quote. -/
def cutString : List Char → Option (List Char × List Char)
  | [] => none
  | '"' :: rest => some ([], rest)
  | '\\' :: 'u' :: a :: b :: c :: d :: rest => do
    let _ ← hex4? a b c d
    let (body, rest) ← cutString rest
    return ('\\' :: 'u' :: a :: b :: c :: d :: body, rest)
  | '\\' :: letter :: rest => do
    let _ ← unescape? letter
    let (body, rest) ← cutString rest
    return ('\\' :: letter :: body, rest)
  | c :: rest => do
    if c.toNat < 32 ∨ c = '\\' then none
    else
      let (body, rest) ← cutString rest
      return (c :: body, rest)

/-- Cut the longest run of number characters off as one number. -/
def cutNumber (cs : List Char) : Option (Draft × List Char) :=
  let token := cs.takeWhile isNumberChar
  if isNumber token then some (.number token, cs.dropWhile isNumberChar) else none

mutual

/-- Read one value, and return the rest. The fuel bounds the calls. -/
def readValue : Nat → List Char → Option (Draft × List Char)
  | 0, _ => none
  | fuel + 1, cs =>
    match skipBlanks cs with
    | 'n' :: 'u' :: 'l' :: 'l' :: rest => some (.null, rest)
    | 't' :: 'r' :: 'u' :: 'e' :: rest => some (.bool true, rest)
    | 'f' :: 'a' :: 'l' :: 's' :: 'e' :: rest => some (.bool false, rest)
    | '"' :: rest => do
      let (s, rest) ← cutString rest
      return (.str s, rest)
    | '[' :: rest =>
      match skipBlanks rest with
      | ']' :: rest => some (.arr [], rest)
      | rest => do
        let (item, rest) ← readValue fuel rest
        let (items, rest) ← readItems fuel rest
        return (.arr (item :: items), rest)
    | '\x7b' :: rest =>
      match skipBlanks rest with
      | '\x7d' :: rest => some (.obj [], rest)
      | rest => do
        let (m, rest) ← readMember fuel rest
        let (ms, rest) ← readMembers fuel rest
        return (.obj (m :: ms), rest)
    | rest => cutNumber rest

/-- The items behind the first one, up to the closing bracket. -/
def readItems : Nat → List Char → Option (List Draft × List Char)
  | 0, _ => none
  | fuel + 1, cs =>
    match skipBlanks cs with
    | ']' :: rest => some ([], rest)
    | ',' :: rest => do
      let (item, rest) ← readValue fuel rest
      let (items, rest) ← readItems fuel rest
      return (item :: items, rest)
    | _ => none

/-- Read a name and its value. -/
def readMember : Nat → List Char → Option ((List Char × Draft) × List Char)
  | 0, _ => none
  | fuel + 1, cs =>
    match skipBlanks cs with
    | '"' :: rest => do
      let (name, rest) ← cutString rest
      match skipBlanks rest with
      | ':' :: rest => do
        let (value, rest) ← readValue fuel rest
        return ((name, value), rest)
      | _ => none
    | _ => none

/-- The members behind the first one, up to the closing brace. -/
def readMembers : Nat → List Char → Option (List (List Char × Draft) × List Char)
  | 0, _ => none
  | fuel + 1, cs =>
    match skipBlanks cs with
    | '\x7d' :: rest => some ([], rest)
    | ',' :: rest => do
      let (m, rest) ← readMember fuel rest
      let (ms, rest) ← readMembers fuel rest
      return (m :: ms, rest)
    | _ => none

end

/-- Read a byte string as one draft. -/
def Draft.ofBytes? (bytes : Bytes) : Option Draft := do
  let cs := bytes.map fun b => Char.ofNat b.toNat
  let (d, rest) ← readValue (2 * cs.length + 1) cs
  if skipBlanks rest = [] then some d else none

/-- Read a whole text as one value. -/
def parse? (s : String) : Option Json := Draft.ofBytes? (Bytes.ofString s) >>= Draft.json? 0

end SignIn.Json
