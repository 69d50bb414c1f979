import SignIn.Settings.Environment
import SignIn.Text.Alphanumeric
import SignIn.Text.Blank
import SignIn.Text.Split

/-!
# Files of variables

A file of variables has a variable on each line, `NAME=value`, with `export` in
front if one likes. Blank lines and comments are passed over. A value may be
quoted, may name other variables behind a dollar sign, and goes on in the next
line while a quote is open. The first line that cannot be read ends the file;
variables that have a text keep it.
-/

namespace SignIn.Dotenv

/-! ## Lines -/

/-- Where the end of a piece of text stands. -/
inductive Place where
  | plain
  | blank
  | escaped
  | single
  | singleEscaped
  | double
  | doubleEscaped
  deriving DecidableEq, Repr

namespace Place

def isApostrophe (c : Char) : Bool := c.toNat == 39

/-- The place behind a character outside of quotes. -/
def outside (c : Char) : Place :=
  if c = '\\' then .escaped
  else if c = '"' then .double
  else if isApostrophe c then .single
  else .plain

/-- Where the reader is behind a character. -/
def next (p : Place) (c : Char) : Place :=
  match p with
  | .plain => if Blank.isBlank c ∧ c ≠ '\n' ∧ c ≠ '\r' then .blank else outside c
  | .blank => outside c
  | .escaped => .plain
  | .single => if c = '\\' then .singleEscaped else if isApostrophe c then .plain else .single
  | .singleEscaped => .single
  | .double => if c = '\\' then .doubleEscaped else if c = '"' then .plain else .double
  | .doubleEscaped => .double

end Place

/-- Go through a line. A hash behind a blank starts a comment, which is cut off. -/
def scan : Place → List Char → Option Place × List Char
  | p, [] => (some p, [])
  | p, c :: rest =>
    if p = .blank ∧ c = '#' then (none, [])
    else
      let (ends, kept) := scan (p.next c) rest
      (ends, c :: kept)

/-- The lines of a text, each with the line feed that ends it. -/
def feeds (cs : List Char) : List (List Char) :=
  let pieces := Split.pieces '\n' cs
  let last := pieces.getLast?.getD []
  pieces.dropLast.map (· ++ ['\n']) ++ if last.isEmpty then [] else [last]

/-- The text without one last character, if it is this one. -/
def withoutLast (c : Char) (cs : List Char) : List Char :=
  if cs.getLast? == some c then cs.dropLast else cs

/-- A line without its end. -/
def withoutFeed (cs : List Char) : List Char :=
  if cs.getLast? == some '\n' then withoutLast '\r' cs.dropLast else cs

/-- Does the line hold nothing but a comment? -/
def isComment (cs : List Char) : Bool := (Blank.skip cs).head? == some '#'

/-- Put lines together that belong together. A file that ends inside of a line has no last line. -/
def logicalLines : Place → List Char → List (List Char) → List (Option (List Char))
  | p, _, [] => if p = .plain then [] else [none]
  | p, before, line :: rest =>
    if isComment (before ++ line) then some [] :: logicalLines .plain [] rest
    else
      match scan p line with
      | (none, kept) => some (before ++ kept) :: logicalLines .plain [] rest
      | (some .plain, _) => some (withoutFeed (before ++ line)) :: logicalLines .plain [] rest
      | (some p, _) => logicalLines p (before ++ line) rest

/-! ## Values -/

/-- What the next character of a value belongs to. -/
inductive Mode where
  | plain
  | single
  | double
  | escape (quoted : Bool)
  | name (quoted : Bool) (sofar : List Char)
  | braces (quoted : Bool) (sofar : List Char)
  | ending

/-- The escapes outside of single quotes. -/
def unescape? (c : Char) : Option Char :=
  if c = 'n' then some '\n'
  else if c = '\\' ∨ c.toNat = 39 ∨ c = '"' ∨ c = '$' ∨ c = ' ' then some c
  else none

def unquote (quoted : Bool) : Mode := if quoted then .double else .plain

/-- Read a value. Behind a blank outside of quotes only a comment may follow. The character that
ends the name of a variable stands for itself. -/
def value (lookup : List Char → List Char) : Mode → List Char → Option (List Char)
  | .plain, [] => some []
  | .escape false, [] => some []
  | .ending, [] => some []
  | .name false sofar, [] => some (lookup sofar)
  | _, [] => none
  | .ending, c :: rest =>
    if c = ' ' ∨ c = '\t' then value lookup .ending rest
    else if c = '#' then some []
    else none
  | .escape quoted, c :: rest => do
    let c ← unescape? c
    return c :: (← value lookup (unquote quoted) rest)
  | .single, c :: rest =>
    if c.toNat = 39 then value lookup .plain rest
    else (value lookup .single rest).map (c :: ·)
  | .braces quoted sofar, c :: rest =>
    if c = '\x7d' then (value lookup (unquote quoted) rest).map (lookup sofar ++ ·)
    else value lookup (.braces quoted (sofar ++ [c])) rest
  | .name quoted sofar, c :: rest =>
    if Alphanumeric.isAlphanumeric c then value lookup (.name quoted (sofar ++ [c])) rest
    else if c = '\x7b' ∧ sofar = [] then value lookup (.braces quoted []) rest
    else if c = '$' then (value lookup (.name quoted []) rest).map (lookup sofar ++ ·)
    else (value lookup (unquote quoted) rest).map fun cs => lookup sofar ++ c :: cs
  | .double, c :: rest =>
    if c = '$' then value lookup (.name true []) rest
    else if c = '"' then value lookup .plain rest
    else if c = '\\' then value lookup (.escape true) rest
    else (value lookup .double rest).map (c :: ·)
  | .plain, c :: rest =>
    if c = '$' then value lookup (.name false []) rest
    else if c.toNat = 39 then value lookup .single rest
    else if c = '"' then value lookup .double rest
    else if c = '\\' then value lookup (.escape false) rest
    else if c = ' ' ∨ c = '\t' then value lookup .ending rest
    else (value lookup .plain rest).map (c :: ·)

/-! ## Variables -/

/-- A name starts with a letter or an underscore. -/
def isNameStart (c : Char) : Bool := c.isAlpha || c == '_'

/-- The characters of a name behind the first. -/
def isNameChar (c : Char) : Bool := c.isAlphanum || c == '_' || c == '.'

/-- A name and what follows it. -/
def name? (cs : List Char) : Option (String × List Char) :=
  if cs.head?.any isNameStart then
    some (String.ofList (cs.takeWhile isNameChar), Blank.skip (cs.dropWhile isNameChar))
  else none

/-- A line without the blanks around it. -/
def trimmed (cs : List Char) : List Char := Blank.skip (Blank.skip cs.reverse).reverse

/-- The variable on a line; `some none` if the line holds none. -/
def line (env : Environment) (cs : List Char) : Option (Option (String × String)) := do
  let cs := trimmed cs
  if cs.isEmpty || cs.head? == some '#' then return none
  let (name, rest) ← name? cs
  let (name, rest) ←
    if name == "export" && rest.head? != some '=' then name? rest else some (name, rest)
  guard (rest.head? == some '=')
  let rest := Blank.skip (rest.drop 1)
  if rest.isEmpty || rest.head? == some '#' then return some (name, "")
  let text ← value (fun name => (env.textOr (String.ofList name) "").toList) .plain rest
  return some (name, String.ofList text)

/-- Supply the variables of the lines, up to the first line that cannot be read. -/
def supplyLines (env : Environment) : List (Option (List Char)) → Except Panic Environment
  | [] => .ok env
  | none :: _ => .ok env
  | some cs :: rest =>
    match line env cs with
    | none => .ok env
    | some none => supplyLines env rest
    | some (some (name, text)) => do supplyLines (← env.supply name text) rest

/-- The mark that may open a file. -/
def isMark (c : Char) : Bool := c.toNat == 0xFEFF

/-- The environment with what a file adds to it. -/
def supply (env : Environment) (file : String) : Except Panic Environment :=
  let cs := file.toList
  supplyLines env (logicalLines .plain [] (feeds (if cs.head?.any isMark then cs.tail else cs)))

end SignIn.Dotenv
