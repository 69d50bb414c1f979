import SignIn.Outbox.Event

/-!
# The table of events

Events are kept in the order of their insertion and never removed. Every update
looks for a pending row, so a row that is no longer pending is never changed.
-/

namespace SignIn.Outbox

/-- Rows in the order of insertion. -/
abbrev Table := List OutboxEvent

namespace Table

/-- A pending row of a name. -/
def isPendingOf (name : String) (e : OutboxEvent) : Bool := e.name == name && e.status == .pending

/-- Older events come first; of the same age, those with the smaller id. -/
def notAfter (a b : OutboxEvent) : Bool :=
  a.createdAt < b.createdAt || (a.createdAt == b.createdAt && a.id.toNat ≤ b.id.toNat)

/-- The oldest pending events of a name. -/
def findPending (t : Table) (name : String) (limit : Nat) : List OutboxEvent :=
  ((t.filter (isPendingOf name)).mergeSort notAfter).take limit

/-- The row with an id, while it is pending. -/
def isPendingId (id : Uuid) (e : OutboxEvent) : Bool := e.id == id && e.status == .pending

/-- The pending row with an id. -/
def pendingRow? (t : Table) (id : Uuid) : Option OutboxEvent := t.find? (isPendingId id)

/-- Change the first pending row with an id. -/
def updatePending (id : Uuid) (change : OutboxEvent → OutboxEvent) : Table → Table
  | [] => []
  | e :: rest => if isPendingId id e then change e :: rest else e :: updatePending id change rest

theorem length_updatePending (id : Uuid) (change : OutboxEvent → OutboxEvent) (t : Table) :
    (updatePending id change t).length = t.length := by
  induction t with
  | nil => rfl
  | cons e rest ih => simp only [updatePending]; split <;> simp [ih]

/-- A row with another status. Its payload and its attempts stay. -/
def settled (status : OutboxStatus) (lastError : Option String) (now : Int) (e : OutboxEvent) :
    OutboxEvent :=
  { e with status, lastError, updatedAt := now }

/-- Was there a pending row to mark as delivered? -/
def markSuccess (t : Table) (now : Int) (id : Uuid) : Bool × Table :=
  ((t.pendingRow? id).isSome, updatePending id (settled .success none now) t)

/-- Was there a pending row to give up? -/
def markFailed (t : Table) (now : Int) (id : Uuid) (error : String) : Bool × Table :=
  ((t.pendingRow? id).isSome, updatePending id (settled .failed (some error) now) t)

/-- The status after one more attempt. -/
def statusAfter (maxAttempts : Int) (e : OutboxEvent) : OutboxStatus :=
  if maxAttempts ≤ e.attempts + 1 then .failed else .pending

/-- A row after one more attempt that failed. -/
def attempted (maxAttempts : Int) (error : String) (now : Int) (e : OutboxEvent) : OutboxEvent :=
  { settled (statusAfter maxAttempts e) (some error) now e with attempts := e.attempts + 1 }

/-- Count an attempt that failed. The row is given up with its last attempt. -/
def recordFailure (t : Table) (now : Int) (id : Uuid) (error : String) (maxAttempts : Int) :
    Except OutboxError OutboxStatus × Table :=
  match t.pendingRow? id with
  | none => (.error (.eventNotFound id), t)
  | some e => (.ok (statusAfter maxAttempts e), updatePending id (attempted maxAttempts error now) t)

/-- The number of pending rows of a name. -/
def pendingCount (t : Table) (name : String) : Nat := t.countP (isPendingOf name)

end Table

end SignIn.Outbox
