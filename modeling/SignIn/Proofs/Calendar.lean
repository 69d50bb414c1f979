import Mathlib.Tactic.SplitIfs
import SignIn.Time.Calendar

/-!
# Day numbers and dates, back and forth

Inside a cycle of 400 years, a day is found by its year and its day of the year, and
the day of the year by its month, counted from March, and its day of the month. The
arithmetic is done on one cycle, and the cycles are added at the end.
-/
namespace SignIn.Date

/-- The year of a day of the cycle. -/
def yearIn (d : Int) : Int := (d - d / 1460 + d / 36524 - d / 146096) / 365

/-- The days of the cycle before a year. -/
def daysBefore (y : Int) : Int := 365 * y + y / 4 - y / 100

/-- The date of a day of a year of a cycle. -/
def inEra (era year day : Int) : Date :=
  let fromMarch := (5 * day + 2) / 153
  let month := if fromMarch < 10 then fromMarch + 3 else fromMarch - 9
  ⟨if month ≤ 2 then year + era * 400 + 1 else year + era * 400, month.toNat,
    (day - (153 * fromMarch + 2) / 5 + 1).toNat⟩

variable {d : Int}

theorem yearIn_bounds (h₀ : 0 ≤ d) (h : d < cycle) : 0 ≤ yearIn d ∧ yearIn d < 400 := by
  unfold cycle at h
  unfold yearIn
  omega

/-- A day does not come before its year. The century decides how many leap days were left out. -/
theorem daysBefore_yearIn_le (h₀ : 0 ≤ d) (h : d < cycle) : daysBefore (yearIn d) ≤ d := by
  have hbounds := yearIn_bounds h₀ h
  generalize hy : yearIn d = y at hbounds ⊢
  unfold yearIn at hy
  unfold cycle at h
  unfold daysBefore
  have hcentury : y / 100 = 0 ∨ y / 100 = 1 ∨ y / 100 = 2 ∨ y / 100 = 3 := by omega
  rcases hcentury with hc | hc | hc | hc <;> omega

theorem le_daysBefore_yearIn (h₀ : 0 ≤ d) (h : d < cycle) : d ≤ daysBefore (yearIn d) + 365 := by
  have hbounds := yearIn_bounds h₀ h
  generalize hy : yearIn d = y at hbounds ⊢
  unfold yearIn at hy
  unfold cycle at h
  unfold daysBefore
  have hcentury : y / 100 = 0 ∨ y / 100 = 1 ∨ y / 100 = 2 ∨ y / 100 = 3 := by omega
  rcases hcentury with hc | hc | hc | hc <;> omega

theorem exists_inEra (n : Int) : ∃ era year day : Int, (0 ≤ year ∧ year < 400) ∧
    (0 ≤ day ∧ day ≤ 365) ∧ n + 719468 = era * cycle + daysBefore year + day ∧
    ofDayNumber n = inEra era year day := by
  have h₀ : 0 ≤ (n + 719468) % cycle := Int.emod_nonneg _ (by decide)
  have h : (n + 719468) % cycle < cycle := Int.emod_lt_of_pos _ (by decide)
  have hle := daysBefore_yearIn_le h₀ h
  have hge := le_daysBefore_yearIn h₀ h
  refine ⟨(n + 719468) / cycle, yearIn ((n + 719468) % cycle),
    (n + 719468) % cycle - daysBefore (yearIn ((n + 719468) % cycle)), yearIn_bounds h₀ h, ?_, ?_,
    rfl⟩
  · omega
  · have hdiv := Int.mul_ediv_add_emod (n + 719468) cycle
    rw [Int.mul_comm] at hdiv
    omega

theorem month_ofDayNumber (n : Int) :
    1 ≤ (ofDayNumber n).month ∧ (ofDayNumber n).month ≤ 12 := by
  obtain ⟨era, year, day, -, hday, -, hdate⟩ := exists_inEra n
  rw [hdate]
  simp only [inEra]
  split <;> omega

theorem day_ofDayNumber (n : Int) : 1 ≤ (ofDayNumber n).day ∧ (ofDayNumber n).day ≤ 31 := by
  obtain ⟨era, year, day, -, hday, -, hdate⟩ := exists_inEra n
  rw [hdate]
  simp only [inEra]
  omega

theorem dayNumber_inEra {era year day : Int} (hyear : 0 ≤ year ∧ year < 400)
    (hday : 0 ≤ day ∧ day ≤ 365) :
    (inEra era year day).dayNumber = era * cycle + daysBefore year + day - 719468 := by
  have hshift : (if (inEra era year day).month ≤ 2 then (inEra era year day).year - 1
      else (inEra era year day).year) = year + era * 400 := by
    simp only [inEra]
    split_ifs <;> omega
  have hfrom : (if (inEra era year day).month ≤ 2 then ((inEra era year day).month : Int) + 9
      else (inEra era year day).month - 3) = (5 * day + 2) / 153 := by
    simp only [inEra]
    split_ifs <;> omega
  have hday' : ((inEra era year day).day : Int) =
      day - (153 * ((5 * day + 2) / 153) + 2) / 5 + 1 := by
    simp only [inEra]
    omega
  unfold dayNumber
  simp only [hshift, hfrom, hday', Int.add_mul_ediv_right year era (by decide : (400 : Int) ≠ 0),
    Int.add_mul_emod_self_right, Int.ediv_eq_zero_of_lt hyear.1 hyear.2, Int.zero_add,
    Int.emod_eq_of_lt hyear.1 hyear.2, daysBefore]
  omega

/-- A day number is the day number of its date. -/
theorem dayNumber_ofDayNumber (n : Int) : (ofDayNumber n).dayNumber = n := by
  obtain ⟨era, year, day, hyear, hday, hn, hdate⟩ := exists_inEra n
  rw [hdate, dayNumber_inEra hyear hday]
  omega

theorem exists_ofDayNumber (n : Int) : (ofDayNumber n).Exists := by
  unfold Exists
  rw [dayNumber_ofDayNumber]

end SignIn.Date
