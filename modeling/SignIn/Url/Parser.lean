import SignIn.Url.Host
import SignIn.Url.Path

/-!
# URLs

A URL names a scheme and, behind two slashes, who may use it, a host and a port;
a path and a query follow. With one of the well-known schemes there has to be a
host, any number of slashes stands before it, and backslashes count as slashes.
What is wrong first, from left to right, is the problem that is told.
-/

namespace SignIn

/-- The parts of a URL. -/
structure Url where
  scheme : String
  username : List Char := []
  password : List Char := []
  host : Option Url.Host := none
  port : Option Nat := none
  path : List Char := []
  query : List Char := []
  deriving DecidableEq, Repr

namespace Url

/-! ## Schemes -/

/-- How a URL is read depends on its scheme. -/
inductive Kind where
  | file
  | wellKnown
  | other
  deriving DecidableEq, Repr

/-- The well-known schemes and their usual ports; files have none. -/
def usualPorts : List (String × Nat) :=
  [("http", 80), ("ws", 80), ("https", 443), ("wss", 443), ("ftp", 21)]

/-- The kind of a scheme. -/
def kindOf (scheme : String) : Kind :=
  if scheme == "file" then .file
  else if (usualPorts.lookup scheme).isSome then .wellKnown
  else .other

/-- Characters that a scheme may have behind its first. -/
def isSchemeChar (c : Char) : Bool := c.isAlphanum || c == '+' || c == '-' || c == '.'

/-- The scheme in front of the first colon, in small letters, and what follows the colon. -/
def scheme? (cs : List Char) : Option (String × List Char) :=
  let scheme := cs.takeWhile isSchemeChar
  match cs.dropWhile isSchemeChar with
  | ':' :: rest =>
    if scheme.head?.any Char.isAlpha then some (String.ofList (scheme.map Char.toLower), rest)
    else none
  | _ => none

namespace Kind

/-- The characters that separate segments of a path. -/
def isSlash (k : Kind) (c : Char) : Bool := c == '/' || (k != .other && c == '\\')

/-- The characters that end the part before the path. -/
def isEnd (k : Kind) (c : Char) : Bool := k.isSlash c || c == '?' || c == '#'

end Kind

/-! ## Users -/

/-- The name and the password of a user, who is to be given if any of it was written. -/
structure User where
  name : List Char := []
  password : List Char := []
  isGiven : Bool := false

/-- A user as written before an at sign. A colon alone is nobody. -/
def User.ofWritten (cs : List Char) : User :=
  ⟨cs.takeWhile (· != ':'), (cs.dropWhile (· != ':')).drop 1, !cs.isEmpty && cs != [':']⟩

/-- What is before the last at sign and what follows it. -/
def splitAtSign? (cs : List Char) : Option (List Char × List Char) :=
  if cs.contains '@' then
    let behind := (cs.reverse.takeWhile (· != '@')).reverse
    some (cs.take (cs.length - behind.length - 1), behind)
  else none

/-- The user, and what follows. Nobody can be given in front of nothing. -/
def readUser (k : Kind) (cs : List Char) : Except Problem (User × List Char) :=
  let authority := cs.takeWhile (!k.isEnd ·)
  let rest := cs.dropWhile (!k.isEnd ·)
  match splitAtSign? authority with
  | none => .ok ({}, cs)
  | some (written, behind) =>
    if written.isEmpty && behind.isEmpty && !rest.isEmpty then .error .emptyHost
    else .ok (.ofWritten written, behind ++ rest)

/-! ## Hosts and ports -/

/-- The written host and what follows it. In brackets a colon does not end the host. -/
def splitHost (k : Kind) (inBrackets : Bool) : List Char → List Char × List Char
  | [] => ([], [])
  | c :: rest =>
    if k.isEnd c || (c == ':' && !inBrackets) then ([], c :: rest)
    else
      let (host, behind) := splitHost k (c == '[' || (inBrackets && c != ']')) rest
      (c :: host, behind)

/-- Read a host. With a well-known scheme there has to be one. -/
def readHost (k : Kind) (written : List Char) : Except Problem (Option Host) :=
  match k with
  | .other => Host.other written
  | _ => if written.isEmpty then .error .emptyHost else (Host.wellKnown written).map some

/-- A port behind its colon, and what follows. A port that is left out is the usual one. -/
def readPort : List Char → Except Problem (Option Nat × List Char)
  | ':' :: rest =>
    let digits := rest.takeWhile fun c => (Decimal.value? c).isSome
    let behind := rest.dropWhile fun c => (Decimal.value? c).isSome
    let isEnded := !behind.head?.any fun c => !(Kind.isEnd .wellKnown c)
    match Decimal.number? digits with
    | some n =>
      if 65535 < n || !isEnded then .error .badPort
      else .ok (if digits.isEmpty then none else some n, behind)
    | none => .error .badPort
  | cs => .ok (none, cs)

/-! ## Paths and queries -/

/-- The query, up to the fragment. -/
def readQuery (cs : List Char) : List Char :=
  match cs with
  | '?' :: rest => rest.takeWhile (· != '#')
  | _ => []

/-- The path that begins a text. With a well-known scheme there is one always. -/
def readPath (k : Kind) (cs : List Char) : List Char :=
  let written := (cs.takeWhile fun c => c != '?' && c != '#').map fun c => if k.isSlash c then '/' else c
  match written, k with
  | [], .other => []
  | '/' :: rest, _ => Path.ofWritten rest
  | rest, _ => Path.ofWritten rest

/-- The URL with what follows its host. -/
def finish (k : Kind) (url : Url) (cs : List Char) : Url :=
  { url with path := readPath k cs, query := readQuery (cs.dropWhile fun c => c != '?' && c != '#') }

/-! ## URLs -/

/-- What follows the slashes behind a scheme. -/
def behindSlashes (k : Kind) (scheme : String) (cs : List Char) : Except Problem Url := do
  let (user, cs) ← readUser k cs
  let (written, cs) := splitHost k false cs
  let host ← readHost k written
  if host.isNone && cs.head? == some ':' then throw .emptyHost
  let (port, cs) ← readPort cs
  if host.isNone && user.isGiven then throw .emptyHost
  let port := if port == usualPorts.lookup scheme then none else port
  return finish k { scheme, username := user.name, password := user.password, host, port } cs

/-- A letter and a colon or a bar, which name a drive and no host. -/
def isDrive : List Char → Bool
  | [c, ':'] | [c, '|'] => c.isAlpha
  | _ => false

/-- The host of a file; the host `localhost` is the same as none. -/
def fileHost (cs : List Char) : Except Problem (Option Host) :=
  if cs.isEmpty || isDrive cs then .ok none
  else do
    let host ← Host.wellKnown cs
    return if host = .name ["localhost".toList] then none else some host

/-- Read the URL of a file, behind its scheme. -/
def readFile (cs : List Char) : Except Problem Url :=
  let isSlash := Kind.isSlash .file
  match cs with
  | a :: b :: rest =>
    if isSlash a && isSlash b then do
      let written := rest.takeWhile (!Kind.isEnd .file ·)
      let host ← fileHost written
      let behind := if isDrive written then rest else rest.drop written.length
      return finish .file { scheme := "file", host } behind
    else .ok (finish .file { scheme := "file" } cs)
  | cs => .ok (finish .file { scheme := "file" } cs)

/-- A URL that need not have a host. A path that begins without a slash is left as it is. -/
def readOther (scheme : String) (cs : List Char) : Except Problem Url :=
  match cs with
  | '/' :: '/' :: rest => behindSlashes .other scheme rest
  | '/' :: _ => .ok (finish .other { scheme } cs)
  | cs =>
    let isPath (c : Char) : Bool := c != '?' && c != '#'
    .ok { scheme, path := cs.takeWhile isPath, query := readQuery (cs.dropWhile isPath) }

/-- Characters that are dropped on either side of a URL. -/
def isControlOrBlank (c : Char) : Bool := c.toNat ≤ 32

/-- Without blanks on either side, and without tabs and line ends. -/
def cleaned (cs : List Char) : List Char :=
  let trimmed := ((cs.dropWhile isControlOrBlank).reverse.dropWhile isControlOrBlank).reverse
  trimmed.filter fun c => !(c == '\t' || c == '\n' || c == '\r')

/-- Read a URL. Without a scheme there is nothing that it could be relative to. -/
def parse (text : String) : Except Problem Url :=
  match scheme? (cleaned text.toList) with
  | none => .error .noScheme
  | some (scheme, rest) =>
    match kindOf scheme with
    | .file => readFile rest
    | .wellKnown => behindSlashes .wellKnown scheme (rest.dropWhile (Kind.isSlash .wellKnown))
    | .other => readOther scheme rest

end Url

end SignIn
