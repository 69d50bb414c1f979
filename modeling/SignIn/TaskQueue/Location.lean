import SignIn.Url.Parser

/-!
# Locations of brokers

A broker is reached over a network, under the name of its host, or through a local
socket, which is a file. Its databases have numbers.
-/

namespace SignIn.Broker

def isNumber (text : String) : Bool := (Decimal.Range.i64.read text).isOk

def isText (cs : List Char) : Bool := (Percent.decodeText cs).isOk

/-- The path without the slashes on either side names a database, or none. -/
def isDatabase (path : List Char) : Bool :=
  let name := ((path.dropWhile (· == '/')).reverse.dropWhile (· == '/')).reverse
  name.isEmpty || isNumber (String.ofList name)

/-- A location in a network. -/
def isNetworkLocation (url : Url) : Bool :=
  url.host.isSome && isDatabase url.path && isText url.username && isText url.password

/-- A location on this host, with a path. Of several databases the last one counts. -/
def isFileLocation (url : Url) : Bool :=
  (url.host.isNone || url.host == some (.text "localhost".toList)) && url.path.head? == some '/' &&
    ((Percent.form url.query).reverse.lookup "db").all isNumber

/-- Does the URL lead to a server, or to a socket on this machine? -/
def isLocation (url : Url) : Bool :=
  match url.scheme with
  | "redis" => isNetworkLocation url
  | "unix" | "redis+unix" => isFileLocation url
  | _ => false

/-- A text that is the URL of a location. -/
def isAddress (text : String) : Bool :=
  match Url.parse text with
  | .ok url => isLocation url
  | .error _ => false

end SignIn.Broker
