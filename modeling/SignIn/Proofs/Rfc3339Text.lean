import SignIn.Proofs.Calendar
import SignIn.Proofs.DecimalText
import SignIn.Proofs.Results
import SignIn.Time.Rfc3339

/-!
# The text of a point in time reads back

Every part of the text is read by one reader, which takes the characters that its
writer wrote and leaves the rest. The point in time is then put together from the
parts.
-/
namespace SignIn.Rfc3339

open Decimal

/-! ## Numbers -/

/-- A number ends where its width is used up, or in front of something that is no digit. -/
def Ends (width : Option Nat) (rest : List Char) : Prop :=
  width = some 0 ∨ ∀ c ∈ rest.head?, value? c = none

theorem moreDigits_of_ends {width : Option Nat} {rest : List Char} (h : Ends width rest) (n : Nat) :
    moreDigits width n rest = .ok (n, rest) := by
  cases rest with
  | nil => rfl
  | cons c rest =>
    rcases h with rfl | h
    · rfl
    · unfold moreDigits
      rw [h c rfl]
      split <;> rfl

theorem map_sub_one_sub (width : Option Nat) (m : Nat) :
    (width.map (· - 1)).map (· - m) = width.map (· - (m + 1)) := by
  cases width with
  | none => rfl
  | some k =>
    apply congrArg some
    dsimp only
    omega

theorem moreDigits_append {n v : Nat} {cs rest : List Char} {width : Option Nat}
    (hv : more? n cs = some v) (hlimit : v ≤ 9223372036854775807)
    (hwidth : ∀ k, width = some k → cs.length ≤ k)
    (hends : Ends (width.map (· - cs.length)) rest) :
    moreDigits width n (cs ++ rest) = .ok (v, rest) := by
  induction cs generalizing n width with
  | nil =>
    obtain rfl : n = v := Option.some.inj hv
    refine moreDigits_of_ends ?_ n
    cases width <;> exact hends
  | cons c cs ih =>
    rw [more?_cons] at hv
    obtain ⟨d, hd, hrest⟩ := Option.bind_eq_some_iff.mp hv
    have hfits : 10 * n + d ≤ 9223372036854775807 := (le_of_more? hrest).trans hlimit
    have hroom : width ≠ some 0 := fun h => absurd (hwidth 0 h) (Nat.not_succ_le_zero _)
    rw [List.cons_append, moreDigits, if_neg hroom, hd]
    simp only [if_pos hfits]
    refine ih hrest (fun k hk => ?_) ?_
    · obtain ⟨j, hj, rfl⟩ := Option.map_eq_some_iff.mp hk
      have hle := hwidth j hj
      rw [List.length_cons] at hle
      omega
    · rw [map_sub_one_sub]
      exact hends

/-- A padded number is read as far as it goes. -/
theorem number_padded {digits n : Nat} {rest : List Char} {width : Option Nat}
    (hlimit : n ≤ 9223372036854775807)
    (hwidth : ∀ k, width = some k → (padded digits n).length ≤ k)
    (hends : Ends (width.map (· - (padded digits n).length)) rest) :
    number width (padded digits n ++ rest) = .ok (n, rest) := by
  obtain ⟨c, cs, hcs, -⟩ := exists_padded_eq_cons digits n
  have hv : more? 0 (c :: cs) = some n := by
    rw [← hcs]
    exact number?_padded digits n
  rw [more?_cons] at hv
  obtain ⟨d, hd, hrest⟩ := Option.bind_eq_some_iff.mp hv
  rw [hcs] at hwidth hends ⊢
  rw [List.cons_append, number, hd]
  rw [Nat.mul_zero, Nat.zero_add] at hrest
  refine moreDigits_append hrest hlimit (fun k hk => ?_) ?_
  · obtain ⟨j, hj, rfl⟩ := Option.map_eq_some_iff.mp hk
    have hle := hwidth j hj
    rw [List.length_cons] at hle
    omega
  · rw [map_sub_one_sub]
    exact hends

theorem skip_padded (digits n : Nat) (rest : List Char) :
    Blank.skip (padded digits n ++ rest) = padded digits n ++ rest := by
  obtain ⟨c, cs, hcs, hc⟩ := exists_padded_eq_cons digits n
  rw [hcs, List.cons_append]
  exact Blank.skip_cons_of_not_isBlank _ (isBlank_eq_false_of_value? hc)

/-! ## Parts -/

theorem field_padded {least greatest n : Nat} (h : least ≤ n ∧ n ≤ greatest) (hn : n < 100)
    (rest : List Char) : field least greatest (padded 2 n ++ rest) = .ok (n, rest) := by
  have hlength : (padded 2 n).length = 2 := length_padded (by decide) hn
  have hnumber : number (some 2) (padded 2 n ++ rest) = .ok (n, rest) := by
    refine number_padded (by omega) (fun k hk => ?_) (.inl ?_)
    · rw [hlength]
      exact (Option.some.inj hk).le
    · rw [hlength]
      rfl
  unfold field
  rw [skip_padded, hnumber, ok_bind]
  exact if_pos h

theorem literal_cons {c : Char} (hc : Blank.isBlank c = false) (rest : List Char) :
    literal c (c :: rest) = .ok ((), rest) := by
  unfold literal
  rw [Blank.skip_cons_of_not_isBlank rest hc]
  exact if_pos rfl

theorem contains_i32 {y : Int} (h : leastYear ≤ y ∧ y ≤ greatestYear) :
    Range.i32.contains y = true := by
  have hleast : Range.i32.least ≤ leastYear := by decide
  have hgreatest : greatestYear ≤ Range.i32.greatest := by decide
  exact Range.contains_iff.mpr ⟨hleast.trans h.1, h.2.trans hgreatest⟩

theorem number_none_padded {n : Nat} (hn : n ≤ 9223372036854775807) (rest : List Char) :
    number none (padded 4 n ++ '-' :: rest) = .ok (n, '-' :: rest) := by
  refine number_padded hn (fun k hk => by cases hk) (.inr fun c hc => ?_)
  obtain rfl : '-' = c := Option.some.inj hc
  rfl

theorem number_four_padded {n : Nat} (hn : n ≤ 9999) (rest : List Char) :
    number (some 4) (padded 4 n ++ rest) = .ok (n, rest) := by
  have hlength : (padded 4 n).length = 4 := length_padded (by decide) (by omega)
  refine number_padded (by omega) (fun k hk => ?_) (.inl ?_)
  · rw [hlength]
    exact (Option.some.inj hk).le
  · rw [hlength]
    rfl

/-- A year is read up to the hyphen behind it, whether it has a sign or not. -/
theorem year_writeYear {y : Int} (h : leastYear ≤ y ∧ y ≤ greatestYear) (rest : List Char) :
    year (writeYear y ++ '-' :: rest) = .ok (y, '-' :: rest) := by
  have hi32 := contains_i32 h
  unfold leastYear greatestYear at h
  unfold writeYear year
  by_cases hshort : 0 ≤ y ∧ y ≤ 9999
  · have hcast : ((y.toNat : Nat) : Int) = y := Int.toNat_of_nonneg hshort.1
    have hnumber := number_four_padded (n := y.toNat) (by omega) ('-' :: rest)
    obtain ⟨c, cs, hcs, hc⟩ := exists_padded_eq_cons 4 y.toNat
    rw [if_pos hshort, skip_padded]
    rw [hcs, List.cons_append] at hnumber ⊢
    have hdigit := toNat_of_value? hc
    simp only
    split
    · next heq =>
      obtain rfl : c = '-' := (List.cons.inj heq).1
      exact absurd hdigit (by decide)
    · next heq =>
      obtain rfl : c = '+' := (List.cons.inj heq).1
      exact absurd hdigit (by decide)
    · rw [hnumber, ok_bind, hcast]
      exact if_pos hi32
  · rw [if_neg hshort, List.cons_append]
    have hnumber := number_none_padded (n := y.natAbs) (by omega) rest
    by_cases hneg : y < 0
    · have hcast : -((y.natAbs : Nat) : Int) = y := by omega
      rw [if_pos hneg, Blank.skip_cons_of_not_isBlank _ (by decide)]
      simp only
      rw [hnumber, ok_bind, hcast]
      exact if_pos hi32
    · have hcast : ((y.natAbs : Nat) : Int) = y := by omega
      rw [if_neg hneg, Blank.skip_cons_of_not_isBlank _ (by decide)]
      simp only
      rw [hnumber, ok_bind, hcast]
      exact if_pos hi32

theorem fraction_padded {digits n : Nat} (h₀ : 0 < digits) (h : digits ≤ 9)
    (hn : n < 10 ^ digits) :
    fraction ('.' :: padded digits n ++ ['Z']) = .ok (n * Nat.pow 10 (9 - digits), ['Z']) := by
  have hlength : (padded digits n).length = digits := length_padded h₀ hn
  have hlimit : n ≤ 9223372036854775807 := by
    have hpow : 10 ^ digits ≤ 10 ^ 9 := Nat.pow_le_pow_right (by decide) h
    omega
  have hnumber : number (some 9) (padded digits n ++ ['Z']) = .ok (n, ['Z']) := by
    refine number_padded hlimit (fun k hk => ?_) (.inr fun c hc => ?_)
    · rw [hlength, ← Option.some.inj hk]
      exact h
    · obtain rfl : 'Z' = c := Option.some.inj hc
      rfl
  rw [List.cons_append, fraction, hnumber, ok_bind]
  simp only [List.length_append, hlength, Nat.add_sub_cancel]
  rfl

theorem fraction_writeFraction {nanos : Nat} (h : nanos < 1000000000) :
    fraction (writeFraction nanos ++ ['Z']) = .ok (nanos, ['Z']) := by
  unfold writeFraction
  by_cases hzero : nanos = 0
  · rw [if_pos hzero, hzero]
    rfl
  rw [if_neg hzero]
  by_cases hmilli : nanos % 1000000 = 0
  · have hback : nanos / 1000000 * Nat.pow 10 (9 - 3) = nanos :=
      Nat.div_mul_cancel (Nat.dvd_of_mod_eq_zero hmilli)
    rw [if_pos hmilli, fraction_padded (by decide) (by decide) (by omega), hback]
  rw [if_neg hmilli]
  by_cases hmicro : nanos % 1000 = 0
  · have hback : nanos / 1000 * Nat.pow 10 (9 - 6) = nanos :=
      Nat.div_mul_cancel (Nat.dvd_of_mod_eq_zero hmicro)
    rw [if_pos hmicro, fraction_padded (by decide) (by decide) (by omega), hback]
  rw [if_neg hmicro, fraction_padded (by decide) (by decide) h]
  exact congrArg (fun n => Except.ok (n, ['Z'])) (Nat.mul_one nanos)

/-! ## The whole text -/

theorem inYears_iff (d : Date) : inYears d = true ↔ leastYear ≤ d.year ∧ d.year ≤ greatestYear := by
  unfold inYears
  rw [Bool.and_eq_true, decide_eq_true_iff, decide_eq_true_iff]

theorem secondOfDay_lt (t : Timestamp) : t.secondOfDay < 86400 := by
  unfold Timestamp.secondOfDay
  omega

/-- A point in time that a text tells: it lies in a year that is allowed, and a leap second is the
last one of its minute. -/
structure IsTold (t : Timestamp) : Prop where
  years : inYears t.date = true
  nanos : t.nanos < 1000000000 ∨ t.seconds % 60 = 59 ∧ t.nanos < 2000000000

theorem isTold_of_isClock {t : Timestamp} (hclock : t.IsClock) (hyears : inYears t.date = true) :
    IsTold t :=
  ⟨hyears, .inl hclock⟩

/-- The parts that the text of a point in time shows. -/
def shown (t : Timestamp) : Parts :=
  ⟨t.date, t.secondOfDay / 3600, t.secondOfDay / 60 % 60,
    t.secondOfDay % 60 + t.nanos / 1000000000, t.nanos % 1000000000, 0⟩

/-- A leap second is the sixtieth. -/
theorem second_shown {t : Timestamp} (h : IsTold t) : (shown t).second =
    t.secondOfDay % 60 + (shown t).second / 60 ∧ (shown t).second / 60 = t.nanos / 1000000000 := by
  change t.secondOfDay % 60 + t.nanos / 1000000000 =
    t.secondOfDay % 60 + (t.secondOfDay % 60 + t.nanos / 1000000000) / 60 ∧
      (t.secondOfDay % 60 + t.nanos / 1000000000) / 60 = t.nanos / 1000000000
  have hsecondOfDay : t.secondOfDay = (t.seconds % 86400).toNat := rfl
  rcases h.nanos with hnanos | ⟨hseconds, hnanos⟩ <;> omega

theorem readParts_write {t : Timestamp} (h : IsTold t) :
    readParts (write t) = .ok (shown t, []) := by
  have hsecondOfDay := secondOfDay_lt t
  have hmonth : 1 ≤ t.date.month ∧ t.date.month ≤ 12 := Date.month_ofDayNumber _
  have hday : 1 ≤ t.date.day ∧ t.date.day ≤ 31 := Date.day_ofDayNumber _
  have hhour : 0 ≤ t.secondOfDay / 3600 ∧ t.secondOfDay / 3600 ≤ 23 := by omega
  have hminute : 0 ≤ t.secondOfDay / 60 % 60 ∧ t.secondOfDay / 60 % 60 ≤ 59 := by omega
  have hsecond : 0 ≤ t.secondOfDay % 60 + t.nanos / 1000000000 ∧
      t.secondOfDay % 60 + t.nanos / 1000000000 ≤ 60 := by
    have hnanos := h.nanos
    omega
  have hnanos : t.nanos % 1000000000 < 1000000000 := Nat.mod_lt _ (by decide)
  -- each reader, on what its writer wrote
  have readYear := year_writeYear ((inYears_iff _).mp h.years)
  have readMonth := field_padded hmonth (by omega)
  have readDay := field_padded hday (by omega)
  have readHour := field_padded hhour (by omega)
  have readMinute := field_padded hminute (by omega)
  have readSecond := field_padded hsecond (by omega)
  have readHyphen := literal_cons (c := '-') (by decide)
  have readColon := literal_cons (c := ':') (by decide)
  have readT (rest : List Char) : separator ('T' :: rest) = .ok ((), rest) := rfl
  unfold write readParts
  simp only [List.append_assoc, List.cons_append, readYear, ok_bind, readHyphen, readMonth, readDay,
    readT, readHour, readColon, readMinute, readSecond, fraction_writeFraction hnanos]
  rfl

theorem timestamp_shown {t : Timestamp} (h : IsTold t) : (shown t).timestamp = .ok t := by
  have hdate : t.date.Exists := Date.exists_ofDayNumber _
  have hnumber : t.date.dayNumber = t.seconds / 86400 := Date.dayNumber_ofDayNumber _
  have hsecondOfDay : t.secondOfDay = (t.seconds % 86400).toNat := rfl
  obtain ⟨hsecond, hleap⟩ := second_shown h
  have hseconds : t.date.dayNumber * 86400 + ((shown t).hour * 3600 + (shown t).minute * 60 +
      ((shown t).second - (shown t).second / 60) : Nat) - (shown t).offset = t.seconds := by
    rw [hnumber]
    change t.seconds / 86400 * 86400 + (t.secondOfDay / 3600 * 3600 +
      t.secondOfDay / 60 % 60 * 60 + ((shown t).second - (shown t).second / 60) : Nat) - 0 = t.seconds
    omega
  have hnanos : (shown t).nanos + (shown t).second / 60 * 1000000000 = t.nanos := by
    rw [hleap]
    exact Nat.mod_add_div' _ _
  unfold Parts.timestamp
  have hshown : (shown t).date = t.date := rfl
  have hoffset : ¬86400 ≤ (shown t).offset.natAbs := Nat.not_succ_le_zero 86399
  rw [hshown, if_neg (not_not_intro ⟨hdate, h.years⟩), if_neg hoffset]
  simp only [hseconds, hnanos, h.years, if_true]

theorem ofText_text_of_isTold {t : Timestamp} (h : IsTold t) : ofText (text t) = .ok t := by
  unfold ofText text read
  rw [String.toList_ofList, readParts_write h, ok_bind]
  exact timestamp_shown h

end SignIn.Rfc3339
