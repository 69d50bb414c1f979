import SignIn.Password.Hash
import SignIn.Uuid

/-!
# Chance, rehearsed

Identifiers and salts that look random and are the same in every rehearsal. An
identifier that is drawn later is greater, so events of the same moment keep the
order in which they were made.
-/

namespace SignIn.Rehearsal

/-- 128 bits that change with every draw. The first 32 count the draws. -/
def bits (draw : Nat) : Nat :=
  (0x3b9ac9ff + draw) % Nat.pow 2 32 * Nat.pow 2 96 +
    (draw + 1) * 0x9e3779b97f4a7c15f39cc0605cedc835 % Nat.pow 2 96

/-- The id of a draw. -/
def freshId (draw : Nat) : Uuid := Uuid.ofRandom (BitVec.ofNat 128 (bits draw))

/-- The salt of a draw. -/
def freshSalt (draw : Nat) : Salt :=
  Vector.ofFn fun i => UInt8.ofNat (bits draw / Nat.pow 256 i.val)

end SignIn.Rehearsal
