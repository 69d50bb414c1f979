import SignIn.Time.Calendar

/-!
# Points in time

A point in time counts seconds since the start of 1970 and nanoseconds inside
the second. A leap second shares the count of the second before it and has
nanoseconds from 1000000000 on.
-/

namespace SignIn

/-- A point in time, in seconds since 1970 and nanoseconds. -/
structure Timestamp where
  seconds : Int
  nanos : Nat
  deriving DecidableEq, Repr, Inhabited

namespace Timestamp

/-- The point in time that counts so many milliseconds. -/
def ofMillis (ms : Int) : Timestamp := ⟨ms / 1000, (ms % 1000).toNat * 1000000⟩

/-- Whole milliseconds since the start of 1970. -/
def millis (t : Timestamp) : Int := t.seconds * 1000 + t.nanos / 1000000

theorem millis_ofMillis (ms : Int) : (ofMillis ms).millis = ms := by
  have h : 0 ≤ ms % 1000 := Int.emod_nonneg _ (by decide)
  simp only [ofMillis, millis]
  omega

/-- A clock shows no leap second. -/
def IsClock (t : Timestamp) : Prop := t.nanos < 1000000000

instance (t : Timestamp) : Decidable t.IsClock := inferInstanceAs (Decidable (_ < _))

/-- The days, and the second of the day, of a point in time. -/
def date (t : Timestamp) : Date := Date.ofDayNumber (t.seconds / 86400)

/-- The seconds since midnight. -/
def secondOfDay (t : Timestamp) : Nat := (t.seconds % 86400).toNat

end Timestamp

end SignIn
