/-!
# Blank characters

The characters with the Unicode property White_Space.
-/

namespace SignIn.Blank

/-- The first and last code point of each run of blank characters. -/
def ranges : List (Nat × Nat) :=
  [(0x9, 0xD), (0x20, 0x20), (0x85, 0x85), (0xA0, 0xA0), (0x1680, 0x1680), (0x2000, 0x200A),
    (0x2028, 0x2029), (0x202F, 0x202F), (0x205F, 0x205F), (0x3000, 0x3000)]

/-- Is the character white space? -/
def isBlank (c : Char) : Bool := ranges.any fun r => r.1 ≤ c.toNat && c.toNat ≤ r.2

/-- What is left behind the leading blanks. -/
def skip (cs : List Char) : List Char := cs.dropWhile isBlank

theorem skip_cons_of_not_isBlank {c : Char} (cs : List Char) (h : isBlank c = false) :
    skip (c :: cs) = c :: cs := by simp [skip, h]

end SignIn.Blank
