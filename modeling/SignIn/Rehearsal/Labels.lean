import SignIn.Json.Basic
import SignIn.Text.Decimal
import SignIn.Uuid

/-!
# Labels

Identifiers differ from run to run, so they are shown as labels: users as `u0`,
`u1`, and so on, events as `e0`, `e1`, in the order in which they are first shown.
-/

namespace SignIn.Rehearsal

/-- The ids that were shown so far. An id is labelled by its place among them. -/
structure Labels where
  users : List Uuid := []
  events : List Uuid := []

namespace Labels

/-- The label of the id that belongs to nobody. -/
def nilLabel : String := "nil"

/-- The label of an identifier, which becomes known if it was not. -/
def labelIn (letter : Char) (known : List Uuid) (id : Uuid) : String × List Uuid :=
  if id.isNil then (nilLabel, known)
  else
    let known := if known.contains id then known else known ++ [id]
    (String.ofList (letter :: Decimal.ofNat (known.idxOf id)), known)

/-- The identifier with a label, or with this text. -/
def user? (l : Labels) (text : String) : Option Uuid :=
  match text.toList with
  | 'u' :: digits =>
    match Decimal.number? digits with
    | some n => if digits.isEmpty then none else l.users[n]?
    | none => Uuid.ofText? text
  | _ => if text = nilLabel then some Uuid.nil else Uuid.ofText? text

end Labels

/-- Writing with labels. -/
abbrev Labelled (α : Type) : Type := StateM Labels α

/-- The label of a user, new or old. -/
def userLabel (id : Uuid) : Labelled String :=
  modifyGet fun l =>
    let (label, users) := Labels.labelIn 'u' l.users id
    (label, { l with users })

/-- The label of an event, new or old. -/
def eventLabel (id : Uuid) : Labelled String :=
  modifyGet fun l =>
    let (label, events) := Labels.labelIn 'e' l.events id
    (label, { l with events })

/-- The label of a user if the text is an identifier, or else the text. -/
def userText (text : String) : Labelled String :=
  match Uuid.ofText? text with
  | some id => userLabel id
  | none => pure text

end SignIn.Rehearsal
