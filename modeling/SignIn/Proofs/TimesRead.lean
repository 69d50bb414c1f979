import SignIn.Proofs.Rfc3339Text

/-!
# Times that are read can be told

Whatever text a point in time is read from, it lies in a year that is allowed, and is a leap second
only at the end of a minute, since offsets are whole minutes. So it has a text that is read as the
same point in time.
-/
namespace SignIn.Rfc3339

open Decimal

variable {cs rest : List Char} {n : Nat}

/-! ## Numbers -/

/-- Some digits behind a number make it a longer one. There are no more of them than the width
allows. -/
def Lengthens (width : Option Nat) (acc : Nat) (cs : List Char) (n : Nat) (rest : List Char) :
    Prop :=
  ∃ digits, rest.length + digits = cs.length ∧ (∀ k, width = some k → digits ≤ k) ∧
    n < (acc + 1) * 10 ^ digits

theorem lengthens_of_eq {width : Option Nat} {acc : Nat}
    (h : (.ok (acc, cs) : Except Problem (Nat × List Char)) = .ok (n, rest)) :
    Lengthens width acc cs n rest := by
  obtain ⟨rfl, rfl⟩ := Prod.mk.inj (Except.ok.inj h)
  exact ⟨0, rfl, fun k _ => Nat.zero_le k, by omega⟩

theorem Lengthens.cons {c : Char} {width : Option Nat} {acc d : Nat} (hdigit : d < 10)
    (hwidth : width ≠ some 0) (h : Lengthens (width.map (· - 1)) (10 * acc + d) cs n rest) :
    Lengthens width acc (c :: cs) n rest := by
  obtain ⟨digits, hlength, hbound, hn⟩ := h
  refine ⟨digits + 1, by rw [List.length_cons, ← hlength]; rfl, fun k hk => ?_, ?_⟩
  · subst hk
    have hle := hbound (k - 1) rfl
    have hpos : k ≠ 0 := fun hzero => hwidth (congrArg some hzero)
    omega
  · calc n < (10 * acc + d + 1) * 10 ^ digits := hn
      _ ≤ ((acc + 1) * 10) * 10 ^ digits := Nat.mul_le_mul_right _ (by omega)
      _ = (acc + 1) * 10 ^ (digits + 1) := by rw [Nat.pow_succ', Nat.mul_assoc]

theorem lengthens_of_moreDigits {width : Option Nat} {acc : Nat}
    (h : moreDigits width acc cs = .ok (n, rest)) : Lengthens width acc cs n rest := by
  induction cs generalizing width acc with
  | nil => exact lengthens_of_eq h
  | cons c cs ih =>
    unfold moreDigits at h
    split at h
    · exact lengthens_of_eq h
    next hwidth =>
    split at h
    · exact lengthens_of_eq h
    next d hd =>
    split at h
    · exact (ih h).cons (lt_of_value? hd) hwidth
    · cases h

theorem lengthens_of_number {width : Option Nat} (hwidth : width ≠ some 0)
    (h : number width cs = .ok (n, rest)) : Lengthens width 0 cs n rest := by
  cases cs with
  | nil => cases h
  | cons c cs =>
    rw [number] at h
    split at h
    · cases h
    next d hd =>
    have hmore : moreDigits (width.map (· - 1)) (10 * 0 + d) cs = .ok (n, rest) := by
      rw [Nat.mul_zero, Nat.zero_add]
      exact h
    exact (lengthens_of_moreDigits hmore).cons (lt_of_value? hd) hwidth

theorem field_bounds {least greatest : Nat} (h : field least greatest cs = .ok (n, rest)) :
    least ≤ n ∧ n ≤ greatest := by
  obtain ⟨⟨m, cs'⟩, -, h⟩ := bind_eq_ok_iff.mp h
  change (if least ≤ m ∧ m ≤ greatest then .ok (m, cs') else .error Problem.outOfRange) =
    (.ok (n, rest) : Except Problem (Nat × List Char)) at h
  split at h
  · next hbounds =>
    obtain ⟨rfl, -⟩ := Prod.mk.inj (Except.ok.inj h)
    exact hbounds
  · cases h

/-- The ninth digit counts nanoseconds, and those after it do not count. -/
theorem fraction_lt (h : fraction cs = .ok (n, rest)) : n < 1000000000 := by
  unfold fraction at h
  split at h
  · next tail =>
    obtain ⟨⟨m, tail'⟩, hnumber, h⟩ := bind_eq_ok_iff.mp h
    obtain ⟨rfl, -⟩ := Prod.mk.inj (Except.ok.inj h)
    have hnine : some 9 ≠ some 0 := by decide
    obtain ⟨digits, hlength, hbound, hm⟩ := lengthens_of_number hnine hnumber
    have hdigits : digits ≤ 9 := hbound 9 rfl
    have hwidth : tail.length - tail'.length = digits := by omega
    calc m * Nat.pow 10 (9 - (tail.length - tail'.length))
        = m * 10 ^ (9 - digits) := by rw [hwidth]; rfl
      _ < (0 + 1) * 10 ^ digits * 10 ^ (9 - digits) :=
        Nat.mul_lt_mul_of_pos_right hm (Nat.pow_pos (by decide))
      _ = 10 ^ (digits + (9 - digits)) := by rw [Nat.zero_add, Nat.one_mul, Nat.pow_add]
      _ = 10 ^ 9 := by rw [Nat.add_sub_cancel' hdigits]
      _ = 1000000000 := by decide
  · obtain ⟨rfl, -⟩ := Prod.mk.inj (Except.ok.inj h)
    decide

/-! ## Offsets -/

theorem signedOffset_dvd {sign offset : Int} (h : signedOffset sign cs = .ok (offset, rest)) :
    60 ∣ offset := by
  obtain ⟨⟨⟨h1, h2⟩, cs₁⟩, -, h⟩ := bind_eq_ok_iff.mp h
  obtain ⟨⟨⟨m1, m2⟩, cs₂⟩, -, h⟩ := bind_eq_ok_iff.mp h
  change (if m1 ≤ 5 then .ok (sign * ((10 * h1 + h2) * 3600 + (10 * m1 + m2) * 60 : Nat), cs₂)
    else .error Problem.outOfRange) = (.ok (offset, rest) : Except Problem (Int × List Char)) at h
  split at h
  · obtain ⟨rfl, -⟩ := Prod.mk.inj (Except.ok.inj h)
    refine Int.dvd_mul_of_dvd_right ?_
    omega
  · cases h

/-- An offset is a number of minutes. -/
theorem offset_dvd {seconds : Int} (h : offset cs = .ok (seconds, rest)) : 60 ∣ seconds := by
  have hzero : ∀ {cs : List Char}, (.ok (0, cs) : Except Problem (Int × List Char)) =
      .ok (seconds, rest) → 60 ∣ seconds := by
    intro cs h
    obtain ⟨rfl, -⟩ := Prod.mk.inj (Except.ok.inj h)
    exact Int.dvd_zero 60
  unfold offset at h
  split at h
  · exact hzero h
  split at h
  · cases h
  split at h
  · exact hzero h
  split at h
  · exact signedOffset_dvd h
  split at h
  · exact signedOffset_dvd h
  · cases h

/-! ## The whole text -/

/-- What is sure about parts that were read. -/
structure Parts.Bounded (p : Parts) : Prop where
  second : p.second ≤ 60
  nanos : p.nanos < 1000000000
  offset : 60 ∣ p.offset

theorem bounded_of_readParts {p : Parts} (h : readParts cs = .ok (p, rest)) : p.Bounded := by
  obtain ⟨⟨y, cs₁⟩, -, h⟩ := bind_eq_ok_iff.mp h
  obtain ⟨⟨_, cs₂⟩, -, h⟩ := bind_eq_ok_iff.mp h
  obtain ⟨⟨m, cs₃⟩, -, h⟩ := bind_eq_ok_iff.mp h
  obtain ⟨⟨_, cs₄⟩, -, h⟩ := bind_eq_ok_iff.mp h
  obtain ⟨⟨d, cs₅⟩, -, h⟩ := bind_eq_ok_iff.mp h
  obtain ⟨⟨_, cs₆⟩, -, h⟩ := bind_eq_ok_iff.mp h
  obtain ⟨⟨hour, cs₇⟩, -, h⟩ := bind_eq_ok_iff.mp h
  obtain ⟨⟨_, cs₈⟩, -, h⟩ := bind_eq_ok_iff.mp h
  obtain ⟨⟨minute, cs₉⟩, -, h⟩ := bind_eq_ok_iff.mp h
  obtain ⟨⟨_, cs₁₀⟩, -, h⟩ := bind_eq_ok_iff.mp h
  obtain ⟨⟨second, cs₁₁⟩, hsecond, h⟩ := bind_eq_ok_iff.mp h
  obtain ⟨⟨nanos, cs₁₂⟩, hnanos, h⟩ := bind_eq_ok_iff.mp h
  obtain ⟨⟨seconds, cs₁₃⟩, hoffset, h⟩ := bind_eq_ok_iff.mp h
  obtain ⟨rfl, -⟩ := Prod.mk.inj (Except.ok.inj h)
  exact ⟨(field_bounds hsecond).2, fraction_lt hnanos, offset_dvd hoffset⟩

theorem isTold_of_timestamp {p : Parts} {t : Timestamp} (hp : p.Bounded)
    (h : p.timestamp = .ok t) : IsTold t := by
  obtain ⟨hsecond, hnanos, hoffset⟩ := hp
  unfold Parts.timestamp at h
  split at h
  · cases h
  split at h
  · cases h
  dsimp only at h
  split at h
  · next hyears =>
    obtain rfl := Except.ok.inj h
    refine ⟨hyears, ?_⟩
    rcases Nat.lt_or_ge p.second 60 with hordinary | hleap
    · left
      change p.nanos + p.second / 60 * 1000000000 < 1000000000
      omega
    · right
      change (p.date.dayNumber * 86400 + (p.hour * 3600 + p.minute * 60 +
        (p.second - p.second / 60) : Nat) - p.offset) % 60 = 59 ∧
          p.nanos + p.second / 60 * 1000000000 < 2000000000
      omega
  · cases h

theorem isTold_of_ofText {s : String} {t : Timestamp} (h : ofText s = .ok t) : IsTold t := by
  obtain ⟨⟨p, rest⟩, hparts, h⟩ := bind_eq_ok_iff.mp h
  change (if Blank.skip rest = [] then p.timestamp else .error Problem.trailing) = .ok t at h
  split at h
  · exact isTold_of_timestamp (bounded_of_readParts hparts) h
  · cases h

end SignIn.Rfc3339
