/-!
# Decimal digits of all scripts

The characters of Unicode category Nd come in runs of ten, from a zero to a
nine. The table lists the zeros.
-/

namespace SignIn.DecimalDigit

def zeros : List Nat := [
    48, 1632, 1776, 1984, 2406, 2534, 2662, 2790, 2918, 3046, 3174, 3302, 3430, 3558, 3664,
    3792, 3872, 4160, 4240, 6112, 6160, 6470, 6608, 6784, 6800, 6992, 7088, 7232, 7248, 42528,
    43216, 43264, 43472, 43504, 43600, 44016, 65296, 66720, 68912, 68928, 69734, 69872, 69942,
    70096, 70384, 70736, 70864, 71248, 71360, 71376, 71386, 71472, 71904, 72016, 72688, 72784,
    73040, 73120, 73552, 90416, 92768, 92864, 93008, 93552, 118000, 120782, 120792, 120802,
    120812, 120822, 123200, 123632, 124144, 124401, 125264, 130032]

/-- Is the character a decimal digit, of any script? -/
def isDecimalDigit (c : Char) : Bool := zeros.any fun first => first ≤ c.toNat && c.toNat < first + 10

theorem isDecimalDigit_of_ascii {c : Char} (h : 48 ≤ c.toNat ∧ c.toNat < 58) :
    isDecimalDigit c = true := by
  simp only [isDecimalDigit, zeros, List.any_cons, Bool.or_eq_true, Bool.and_eq_true, decide_eq_true_eq]
  exact Or.inl ⟨h.1, h.2⟩

end SignIn.DecimalDigit
