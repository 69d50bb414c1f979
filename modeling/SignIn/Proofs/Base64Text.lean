import Mathlib.Data.Option.Basic
import SignIn.Text.Base64

/-!
# Base64 reads back

Digits are read for what they are, three bytes at a time. What is asked of an alphabet
can be looked up: its sixty-four digits are told apart.
-/
namespace SignIn.Base64

/-- Every digit of the alphabet has the value that it stands for. -/
def Alphabet.Faithful (a : Alphabet) : Prop := ∀ v < 64, a.value? (a.digit v) = some v

theorem faithful_standard : Alphabet.standard.Faithful := by
  unfold Alphabet.Faithful
  decide

theorem ofNat_eq {b : UInt8} {n : Nat} (h : n = b.toNat) : UInt8.ofNat n = b := by
  rw [h]
  exact UInt8.ofNat_toNat

theorem decode?_encode {a : Alphabet} (ha : a.Faithful) (bytes : Bytes) :
    decode? a (encode a bytes) = some bytes := by
  fun_induction encode a bytes with
  | case1 b0 b1 b2 rest ih =>
    have h0 := b0.toNat_lt
    have h1 := b1.toNat_lt
    have h2 := b2.toNat_lt
    simp only [decode?, ha (b0.toNat / 4) (by omega),
      ha (b0.toNat % 4 * 16 + b1.toNat / 16) (by omega),
      ha (b1.toNat % 16 * 4 + b2.toNat / 64) (by omega), ha (b2.toNat % 64) (by omega), ih]
    apply congrArg some
    rw [ofNat_eq (b := b0) (by omega), ofNat_eq (b := b1) (by omega),
      ofNat_eq (b := b2) (by omega)]
  | case2 b0 b1 =>
    have h0 := b0.toNat_lt
    have h1 := b1.toNat_lt
    have hlast : guard (b1.toNat % 16 * 4 % 4 = 0) = some () :=
      (Option.guard_eq_some' ()).mpr (by omega)
    simp only [decode?, ha (b0.toNat / 4) (by omega),
      ha (b0.toNat % 4 * 16 + b1.toNat / 16) (by omega), ha (b1.toNat % 16 * 4) (by omega),
      Option.bind_eq_bind, Option.bind_some, hlast]
    apply congrArg some
    rw [ofNat_eq (b := b0) (by omega), ofNat_eq (b := b1) (by omega)]
  | case3 b0 =>
    have h0 := b0.toNat_lt
    have hlast : guard (b0.toNat % 4 * 16 % 16 = 0) = some () :=
      (Option.guard_eq_some' ()).mpr (by omega)
    simp only [decode?, ha (b0.toNat / 4) (by omega), ha (b0.toNat % 4 * 16) (by omega),
      Option.bind_eq_bind, Option.bind_some, hlast]
    apply congrArg some
    rw [ofNat_eq (b := b0) (by omega)]
  | case4 => rfl

/-- Only digits are written. -/
theorem exists_digit_of_mem_encode {a : Alphabet} {bytes : Bytes} {c : Char}
    (hc : c ∈ encode a bytes) : ∃ v < 64, c = a.digit v := by
  fun_induction encode a bytes with
  | case1 b0 b1 b2 rest ih =>
    have h0 := b0.toNat_lt
    have h1 := b1.toNat_lt
    have h2 := b2.toNat_lt
    simp only [List.mem_cons] at hc
    rcases hc with h | h | h | h | h
    · exact ⟨_, by omega, h⟩
    · exact ⟨_, by omega, h⟩
    · exact ⟨_, by omega, h⟩
    · exact ⟨_, by omega, h⟩
    · exact ih h
  | case2 b0 b1 =>
    have h0 := b0.toNat_lt
    have h1 := b1.toNat_lt
    simp only [List.mem_cons, List.not_mem_nil, or_false] at hc
    rcases hc with h | h | h <;> exact ⟨_, by omega, h⟩
  | case3 b0 =>
    have h0 := b0.toNat_lt
    simp only [List.mem_cons, List.not_mem_nil, or_false] at hc
    rcases hc with h | h <;> exact ⟨_, by omega, h⟩
  | case4 => cases hc

end SignIn.Base64
