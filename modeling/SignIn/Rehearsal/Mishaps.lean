/-!
# Mishaps

A rehearsal runs the program in surroundings of its own. Mishaps are laid out for
them beforehand: for each kind of call a line of outcomes, of which every call
uses up one. A blank outcome lets the call act as usual.
-/

namespace SignIn.Rehearsal

/-- The mishaps that are staged for each call, in their order. -/
structure Mishaps (ε : Type) where
  lines : List (String × List (Option ε)) := []

instance : Inhabited (Mishaps ε) := ⟨{}⟩

namespace Mishaps

/-- Add outcomes to the end of the line of a call. -/
def add (m : Mishaps ε) (call : String) (outcomes : List (Option ε)) : Mishaps ε :=
  if m.lines.any (·.1 == call) then
    ⟨m.lines.map fun line => if line.1 == call then (call, line.2 ++ outcomes) else line⟩
  else ⟨m.lines ++ [(call, outcomes)]⟩

/-- Use up the next outcome of a call. -/
def take (m : Mishaps ε) (call : String) : Option ε × Mishaps ε :=
  match m.lines.find? (·.1 == call) with
  | some (_, next :: later) =>
    (next, ⟨m.lines.map fun line => if line.1 == call then (call, later) else line⟩)
  | _ => (none, m)

end Mishaps

end SignIn.Rehearsal
