import SignIn.Domain.Name
import SignIn.Text.Percent
import SignIn.Url.IpAddress

/-!
# Hosts

The host of a URL with one of the well-known schemes is a domain name or an IP
address. With other schemes it is a text that the server makes sense of, or an
address in brackets.
-/

namespace SignIn.Url

/-- What is wrong with a URL. -/
inductive Problem where
  | noScheme
  | emptyHost
  | badPort
  | badVersion4
  | badVersion6
  | badName
  | badCharacter
  deriving DecidableEq, Repr

/-- The problem in words. -/
def Problem.message : Problem → String
  | .noScheme => "relative URL without a base"
  | .emptyHost => "empty host"
  | .badPort => "invalid port number"
  | .badVersion4 => "invalid IPv4 address"
  | .badVersion6 => "invalid IPv6 address"
  | .badName => "invalid international domain name"
  | .badCharacter => "invalid domain character"

/-- A domain name, a text, or an address. -/
inductive Host where
  | name (labels : List (List Char))
  | text (cs : List Char)
  | version4 (address : Nat)
  | version6 (groups : List Nat)
  deriving DecidableEq, Repr

namespace Host

/-- An address in brackets, which were opened already. -/
def bracketed (cs : List Char) : Except Problem Host :=
  match cs.getLast?, IpAddress.version6? cs.dropLast with
  | some ']', some groups => .ok (.version6 groups)
  | _, _ => .error .badVersion6

/-- A domain name, or an address of version 4. -/
def named (cs : List Char) : Except Problem Host :=
  match Domain.labels? (Percent.decode cs) with
  | none => .error .badName
  | some labels =>
    if labels == [[]] then .error .emptyHost
    else if IpAddress.endsInNumber labels then
      match IpAddress.version4? labels with
      | some address => .ok (.version4 address)
      | none => .error .badVersion4
    else .ok (.name labels)

/-- The host of a URL with a well-known scheme. -/
def wellKnown : List Char → Except Problem Host
  | '[' :: rest => bracketed rest
  | cs => named cs

/-- Characters that may not stand in a host, unless they are encoded. -/
def isMisplaced (c : Char) : Bool :=
  c.toNat == 0 || [' ', '#', '/', ':', '<', '>', '?', '@', '[', '\\', ']', '^', '|'].contains c

/-- The host of a URL with any other scheme. It may be left out. -/
def other : List Char → Except Problem (Option Host)
  | [] => .ok none
  | '[' :: rest => (bracketed rest).map some
  | cs => if cs.any isMisplaced then .error .badCharacter else .ok (some (.text cs))

end Host

end SignIn.Url
