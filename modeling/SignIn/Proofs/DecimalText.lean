import Mathlib.Algebra.Order.Ring.Nat
import SignIn.Text.Blank
import SignIn.Text.Decimal

/-!
# Numbers in digits

A number in digits reads back, with leading zeros or without. A number below a power
of ten fits as many digits.
-/
namespace SignIn.Decimal

/-- Go on reading digits behind a number. -/
def more? (n : Nat) (cs : List Char) : Option Nat :=
  cs.foldlM (fun n c => (value? c).map (10 * n + ·)) n

theorem more?_cons (n : Nat) (c : Char) (cs : List Char) :
    more? n (c :: cs) = (value? c).bind fun d => more? (10 * n + d) cs := by
  unfold more?
  rw [List.foldlM_cons]
  cases value? c <;> rfl

theorem number?_eq_more? (cs : List Char) : number? cs = more? 0 cs := rfl

/-- Further digits make no number smaller. -/
theorem le_of_more? {n v : Nat} {cs : List Char} (h : more? n cs = some v) : n ≤ v := by
  induction cs generalizing n with
  | nil => exact (Option.some.inj h).le
  | cons c cs ih =>
    rw [more?_cons] at h
    obtain ⟨d, -, hd⟩ := Option.bind_eq_some_iff.mp h
    have hle := ih hd
    omega

/-- A number is made of digits. -/
theorem isSome_of_more? {n v : Nat} {cs : List Char} (h : more? n cs = some v) :
    ∀ c ∈ cs, (value? c).isSome := by
  induction cs generalizing n with
  | nil => exact fun c hc => absurd hc List.not_mem_nil
  | cons c cs ih =>
    rw [more?_cons] at h
    obtain ⟨d, hd, hrest⟩ := Option.bind_eq_some_iff.mp h
    intro x hx
    rcases List.mem_cons.mp hx with rfl | hx
    · rw [hd]
      rfl
    · exact ih hrest x hx

theorem more?_zeros (k : Nat) (cs : List Char) :
    more? 0 (List.replicate k '0' ++ cs) = more? 0 cs := by
  induction k with
  | zero => rfl
  | succ k ih =>
    rw [List.replicate_succ, List.cons_append, more?_cons]
    exact ih

theorem number?_padded (width n : Nat) : number? (padded width n) = some n := by
  unfold padded
  rw [number?_eq_more?, more?_zeros]
  exact number?_ofNat n

theorem padded_ne_nil (width n : Nat) : padded width n ≠ [] := by
  intro h
  exact ofNat_ne_nil n (List.append_eq_nil_iff.mp h).2

theorem length_ofNat_le {width n : Nat} (hw : 0 < width) (h : n < 10 ^ width) :
    (ofNat n).length ≤ width := by
  fun_induction ofNat n generalizing width with
  | case1 n hn => exact hw
  | case2 n hn ih =>
    cases width with
    | zero => exact absurd hw (Nat.lt_irrefl 0)
    | succ w =>
      have hlt : n / 10 < 10 ^ w := Nat.div_lt_of_lt_mul (by rwa [pow_succ, Nat.mul_comm] at h)
      have hpos : 0 < w := by
        by_contra hzero
        obtain rfl : w = 0 := by omega
        omega
      rw [List.length_append, List.length_singleton]
      exact Nat.succ_le_succ (ih hpos hlt)

theorem length_padded {width n : Nat} (hw : 0 < width) (h : n < 10 ^ width) :
    (padded width n).length = width := by
  unfold padded
  rw [List.length_append, List.length_replicate]
  exact Nat.sub_add_cancel (length_ofNat_le hw h)

theorem toNat_of_value? {c : Char} (h : (value? c).isSome) : 48 ≤ c.toNat ∧ c.toNat ≤ 57 := by
  unfold value? at h
  split at h
  · next hc => exact ⟨hc.1, hc.2⟩
  · cases h

theorem lt_of_value? {c : Char} {d : Nat} (h : value? c = some d) : d < 10 := by
  have hc := toNat_of_value? (Option.isSome_of_eq_some h)
  unfold value? at h
  split at h
  · obtain rfl := Option.some.inj h
    omega
  · cases h

/-- A number in digits starts with a digit. -/
theorem exists_padded_eq_cons (width n : Nat) :
    ∃ c cs, padded width n = c :: cs ∧ (value? c).isSome := by
  obtain ⟨c, cs, hcs⟩ := List.exists_cons_of_ne_nil (padded_ne_nil width n)
  refine ⟨c, cs, hcs, isSome_of_more? (number?_padded width n) c ?_⟩
  rw [hcs]
  exact List.mem_cons_self

theorem isBlank_eq_false_of_value? {c : Char} (h : (value? c).isSome) :
    Blank.isBlank c = false := by
  have hc := toNat_of_value? h
  simp [Blank.isBlank, Blank.ranges]
  omega

end SignIn.Decimal
