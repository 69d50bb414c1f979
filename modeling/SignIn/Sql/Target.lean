import SignIn.Text.Quoted
import SignIn.Url.Parser

/-!
# Targets

A URL tells a pool where its server is, who logs in, and with which parameters. A
parameter may be given more than once, and each time it has to be well formed;
unknown parameters are passed over.
-/

namespace SignIn.Sql.Target

/-- What is wrong with the address of a database. -/
inductive Problem where
  | url (problem : Url.Problem)
  | badText (fault : Utf8.Fault)
  | badNumber (problem : Decimal.Problem)
  | badAddress
  | unknownMode (text : String)
  deriving DecidableEq, Repr

/-- The problem in words. -/
def Problem.message : Problem → String
  | .url problem => problem.message
  | .badText fault => fault.message
  | .badNumber problem => problem.message
  | .badAddress => "invalid IP address syntax"
  | .unknownMode text =>
    "error with configuration: unknown value " ++ Quoted.text text ++ " for `ssl_mode`"

/-- How much encryption is asked for. -/
def encryptionModes : List String :=
  ["disable", "allow", "prefer", "require", "verify-ca", "verify-full"]

/-- The value of an option that is a number of a range. -/
def number (range : Decimal.Range) (value : String) : Except Problem Unit :=
  match range.read value with
  | .ok _ => .ok ()
  | .error problem => .error (.badNumber problem)

/-- A parameter is unknown or well formed. -/
def checkParameter (name value : String) : Except Problem Unit :=
  match name with
  | "sslmode" | "ssl-mode" =>
    if encryptionModes.contains value.toLower then .ok () else .error (.unknownMode value)
  | "statement-cache-capacity" => number .u64 value
  | "hostaddr" => if IpAddress.isAddress value.toList then .ok () else .error .badAddress
  | "port" => number .u16 value
  | _ => .ok ()

/-- A part of the address that stands for a text. -/
def checkText (cs : List Char) : Except Problem Unit :=
  match Percent.decodeText cs with
  | .ok _ => .ok ()
  | .error fault => .error (.badText fault)

/-- A host whose text begins with a slash is the name of a local socket. -/
def checkHost : Option Url.Host → Except Problem Unit
  | some (.text cs) => if (Percent.decode cs).head? = some 47 then checkText cs else .ok ()
  | _ => .ok ()

/-- The first thing that is wrong with a URL as a target, if there is one. -/
def check (url : Url) : Except Problem Unit := do
  checkHost url.host
  checkText url.username
  checkText url.password
  checkText (url.path.dropWhile (· == '/'))
  (Percent.form url.query).forM fun p => checkParameter p.1 p.2

/-- The URL of a target. -/
def ofText (text : String) : Except Problem Url :=
  match Url.parse text with
  | .error problem => .error (.url problem)
  | .ok url => (check url).map fun () => url

end SignIn.Sql.Target
