import SignIn.Dialogue

/-!
# Attempts

An attempt is a dialogue that may end without a value: with a failure, which its
caller has to expect, or with a panic, which nobody expects and which passes
through every caller.
-/

namespace SignIn

/-- A computation that gave up. -/
structure Panic where
  message : String
  deriving DecidableEq, Repr

namespace Panic

/-! Arithmetic on words panics when the result does not fit. -/

def addOverflow : Panic := ⟨"attempt to add with overflow"⟩

def subtractOverflow : Panic := ⟨"attempt to subtract with overflow"⟩

def multiplyOverflow : Panic := ⟨"attempt to multiply with overflow"⟩

end Panic

/-- What an attempt ends with. -/
inductive Outcome (ε α : Type) where
  | ok (value : α)
  | failed (error : ε)
  | panicked (panic : Panic)
  deriving DecidableEq, Repr

namespace Outcome

variable {ε α β : Type}

/-- A result never panics. -/
def ofExcept : Except ε α → Outcome ε α
  | .ok value => .ok value
  | .error e => .failed e

def isOk : Outcome ε α → Bool
  | .ok _ => true
  | _ => false

/-- A value or a failure, unless there was a panic. -/
def result : Outcome ε α → Except Panic (Except ε α)
  | .ok value => .ok (.ok value)
  | .failed e => .ok (.error e)
  | .panicked p => .error p

/-- The value of what cannot fail, unless there was a panic. -/
def value : Outcome Empty α → Except Panic α
  | .ok value => .ok value
  | .panicked p => .error p

/-- Change the value, if there is one. -/
def map (f : α → β) : Outcome ε α → Outcome ε β
  | .ok value => .ok (f value)
  | .failed e => .failed e
  | .panicked p => .panicked p

/-- Change the failure, if there is one. A panic stays what it is. -/
def mapError (f : ε → ε') : Outcome ε α → Outcome ε' α
  | .ok value => .ok value
  | .failed e => .failed (f e)
  | .panicked p => .panicked p

end Outcome

/-- A dialogue that ends with an outcome. -/
def Attempt (Ask : Type) (Answer : Ask → Type) (ε α : Type) : Type :=
  Dialogue Ask Answer (Outcome ε α)

namespace Attempt

variable {Ask : Type} {Answer : Ask → Type} {ε α β : Type}

/-- Go on with the value of an attempt, if it has one. -/
def andThen (a : Attempt Ask Answer ε α) (f : α → Attempt Ask Answer ε β) :
    Attempt Ask Answer ε β :=
  Dialogue.andThen a fun
    | .ok value => f value
    | .failed e => .done (.failed e)
    | .panicked p => .done (.panicked p)

instance : Monad (Attempt Ask Answer ε) where
  pure value := Dialogue.done (.ok value)
  bind := andThen

/-- End with an outcome that is known already. -/
def ofOutcome (outcome : Outcome ε α) : Attempt Ask Answer ε α := Dialogue.done outcome

def ofExcept (result : Except ε α) : Attempt Ask Answer ε α := ofOutcome (.ofExcept result)

/-- End with a failure. -/
def fail (e : ε) : Attempt Ask Answer ε α := ofOutcome (.failed e)

/-- Pass failures on in other words. -/
def mapError (f : ε → ε') (a : Attempt Ask Answer ε α) : Attempt Ask Answer ε' α :=
  Dialogue.andThen a fun outcome => .done (outcome.mapError f)

/-- A dialogue that always has a value. -/
def hear (d : Dialogue Ask Answer α) : Attempt Ask Answer ε α := d.andThen fun value => .done (.ok value)

/-- A dialogue whose answer is a value or a failure. -/
def call (d : Dialogue Ask Answer (Except ε α)) : Attempt Ask Answer ε α :=
  d.andThen fun result => .done (.ofExcept result)

/-- Go on after a failure, with the failure as a value. -/
def result (a : Attempt Ask Answer ε α) : Attempt Ask Answer ε' (Except ε α) :=
  Dialogue.andThen a fun
    | .ok value => .done (.ok (.ok value))
    | .failed e => .done (.ok (.error e))
    | .panicked p => .done (.panicked p)

end Attempt

end SignIn
