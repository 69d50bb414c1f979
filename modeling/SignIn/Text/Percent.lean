import SignIn.Text.Hex
import SignIn.Text.Split
import SignIn.Text.Utf8

/-!
# Percent-encoded text

A byte may be written as a percent sign and two hexadecimal digits. Any other
percent sign stands for itself. A form is a list of names and values, in which a
plus sign stands for a blank.
-/

namespace SignIn.Percent

/-- The bytes that a text stands for. -/
def decode : List Char → Bytes
  | [] => []
  | '%' :: high :: low :: rest =>
    match Hex.value? high, Hex.value? low with
    | some h, some l => UInt8.ofNat (16 * h + l) :: decode rest
    | _, _ => 37 :: decode (high :: low :: rest)
  | c :: rest => Bytes.ofString (String.ofList [c]) ++ decode rest

/-- The text that a text stands for, if it is one. -/
def decodeText (cs : List Char) : Except Utf8.Fault String := Utf8.text (decode cs)

/-- A name or a value of a form. -/
def formText (cs : List Char) : String :=
  Utf8.lossyText (decode (cs.map fun c => if c = '+' then ' ' else c))

/-- A name and its value, which may be missing. -/
def formPair (cs : List Char) : String × String :=
  (formText (cs.takeWhile (· != '=')), formText ((cs.dropWhile (· != '=')).drop 1))

/-- The names and values of a form, in order. -/
def form (cs : List Char) : List (String × String) :=
  ((Split.pieces '&' cs).filter (!·.isEmpty)).map formPair

end SignIn.Percent
