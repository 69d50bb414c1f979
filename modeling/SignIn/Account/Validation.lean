import SignIn.Failure.Identity
import SignIn.Text.Alphanumeric
import SignIn.Text.DecimalDigit

/-!
# Validation of the parts of an account

Emails and phone numbers are measured in bytes, usernames and passwords in
characters. The first rule that is broken is reported.
-/

namespace SignIn.Validation

/-- Stop with a failure unless a rule holds. -/
def require (rule : Bool) (e : IdentityError) : Except IdentityError Unit :=
  if rule then .ok () else .error e

/-! ## Emails -/

/-- The domain has a dot inside and none at its ends. -/
def domainOk (domain : List Char) : Bool :=
  let size := (String.ofList domain).utf8ByteSize
  2 ≤ size && size ≤ 253 && domain.contains '.' && domain.head? != some '.' &&
    domain.getLast? != some '.'

/-- The rules for an email address: its length in bytes, its one sign, and its two sides. -/
def email (s : String) : Except IdentityError Unit := do
  let size := s.utf8ByteSize
  let cs := s.toList
  require (5 ≤ size && size ≤ 254) (.invalidEmail "length must be between 5 and 254 characters")
  require (cs.count '@' == 1) (.invalidEmail "must contain exactly one '@'")
  let localPart := cs.takeWhile (· != '@')
  let domain := (cs.dropWhile (· != '@')).drop 1
  require (!localPart.isEmpty && !domain.isEmpty) (.invalidEmail "'@' must not be at the start or end")
  require (domainOk domain) (.invalidEmail "domain is malformed")

/-! ## Usernames -/

def isAsciiLetter (c : Char) : Bool := ('a' ≤ c && c ≤ 'z') || ('A' ≤ c && c ≤ 'Z')

def isAsciiDigit (c : Char) : Bool := '0' ≤ c && c ≤ '9'

/-- The characters that may join the parts of a user name. -/
def isSeparator (c : Char) : Bool := c == '_' || c == '-'

/-- The characters of a user name. -/
def isUsernameChar (c : Char) : Bool := isAsciiLetter c || isAsciiDigit c || isSeparator c

/-- Two equal separators side by side. -/
def hasDouble : List Char → Bool
  | a :: b :: rest => (a == b && isSeparator a) || hasDouble (b :: rest)
  | _ => false

/-- The rules for a user name: its length, its characters, and its ends. -/
def username (s : String) : Except IdentityError Unit := do
  let cs := s.toList
  require (3 ≤ cs.length && cs.length ≤ 30 && cs.all isUsernameChar)
    (.invalidUsername "must be 3-30 letters, digits, '_' or '-'")
  require (!cs.head?.any isSeparator && !cs.getLast?.any isSeparator)
    (.invalidUsername "must not start or end with '_' or '-'")
  require (!hasDouble cs) (.invalidUsername "must not contain consecutive '_' or '-'")

/-! ## Passwords -/

/-- The classes of which a password has to show three. -/
def classes : List (Char → Bool) :=
  [fun c => 'A' ≤ c && c ≤ 'Z', fun c => 'a' ≤ c && c ≤ 'z', isAsciiDigit,
    fun c => !Alphanumeric.isAlphanumeric c]

/-- The rules for a password: its length in characters, and how many classes of them it has. -/
def password (s : String) : Except IdentityError Unit := do
  let cs := s.toList
  require (8 ≤ cs.length && cs.length ≤ 32)
    (.invalidPassword "length must be between 8 and 32 characters")
  require (3 ≤ classes.countP fun inClass => cs.any inClass)
    (.invalidPassword
      "must contain at least three of uppercase, lowercase, digit and special characters")

/-! ## Phones -/

/-- A plus sign, a digit from 1 to 9, and 1 to 14 decimal digits of any script. -/
def phonePattern : List Char → Bool
  | '+' :: first :: rest =>
    '1' ≤ first && first ≤ '9' && 1 ≤ rest.length && rest.length ≤ 14 &&
      rest.all DecimalDigit.isDecimalDigit
  | _ => false

/-- The rule for a phone number. Its length is that of its bytes. -/
def phoneNumber (s : String) : Except IdentityError Unit :=
  require (10 ≤ s.utf8ByteSize && s.utf8ByteSize ≤ 15 && phonePattern s.toList)
    (.invalidPhoneNumber "must be in E.164 format")

/-- The rule for a country code: two letters of either case. -/
def countryCode (s : String) : Except IdentityError Unit :=
  require (s.utf8ByteSize == 2 && s.toList.all isAsciiLetter)
    (.invalidCountryCode "must be two letters")

end SignIn.Validation
