import Mathlib.Logic.Function.Basic
import SignIn.Uuid

/-!
# The text of an identifier

An identifier is read back from its text, so no two identifiers share a text.
-/
namespace SignIn.Uuid

theorem length_digits (id : Uuid) : id.digits.length = 32 := Hex.length_fixed ..

theorem length_hyphenate {ds : List Char} (h : ds.length = 32) : (hyphenate ds).length = 36 := by
  simp only [hyphenate, List.length_append, List.length_cons, List.length_take, List.length_drop]
  omega

/-- The digits between the hyphens are the digits that were put there. -/
theorem ofHyphenated?_hyphenate {ds : List Char} (h : ds.length = 32) :
    ofHyphenated? (hyphenate ds) = ofDigits? ds := by
  obtain ⟨a, rest, ha, rfl⟩ : ∃ a rest, a.length = 8 ∧ a ++ rest = ds :=
    ⟨ds.take 8, ds.drop 8, by simp [h], List.take_append_drop ..⟩
  obtain ⟨b, rest, hb, rfl⟩ : ∃ b rest', b.length = 4 ∧ b ++ rest' = rest :=
    ⟨rest.take 4, rest.drop 4, by simp at h ⊢; omega, List.take_append_drop ..⟩
  obtain ⟨c, rest, hc, rfl⟩ : ∃ c rest', c.length = 4 ∧ c ++ rest' = rest :=
    ⟨rest.take 4, rest.drop 4, by simp at h ⊢; omega, List.take_append_drop ..⟩
  obtain ⟨d, e, hd, rfl⟩ : ∃ d e, d.length = 4 ∧ d ++ e = rest :=
    ⟨rest.take 4, rest.drop 4, by simp at h ⊢; omega, List.take_append_drop ..⟩
  have hw : hyphenate (a ++ (b ++ (c ++ (d ++ e)))) =
      a ++ '-' :: (b ++ '-' :: (c ++ '-' :: (d ++ '-' :: e))) := by
    simp (disch := omega) [hyphenate, List.drop_append, List.drop_eq_nil_of_le, ha, hb, hc]
  have hds : (hyphenate (a ++ (b ++ (c ++ (d ++ e))))).take 8 ++
      ((hyphenate (a ++ (b ++ (c ++ (d ++ e))))).drop 9).take 4 ++
      ((hyphenate (a ++ (b ++ (c ++ (d ++ e))))).drop 14).take 4 ++
      ((hyphenate (a ++ (b ++ (c ++ (d ++ e))))).drop 19).take 4 ++
      (hyphenate (a ++ (b ++ (c ++ (d ++ e))))).drop 24 = a ++ (b ++ (c ++ (d ++ e))) := by
    rw [hw]
    simp (disch := omega) [List.drop_append, List.drop_eq_nil_of_le, ha, hb, hc, hd]
  simp only [ofHyphenated?, hds, if_true]

theorem toNat_lt (id : Uuid) : id.toNat < Nat.pow 16 32 :=
  lt_of_lt_of_eq id.bits.isLt (by decide : (2 : Nat) ^ 128 = Nat.pow 16 32)

theorem ofDigits?_digits (id : Uuid) : ofDigits? id.digits = some id := by
  have hread : Hex.number? id.digits = some id.toNat := Hex.number?_fixed 32 _ id.toNat_lt
  have hbits : BitVec.ofNat 128 id.toNat = id.bits := BitVec.ofNat_toNat .. |>.trans (by simp)
  rw [ofDigits?, if_pos id.length_digits, hread, Option.map_some, hbits]

theorem ofText?_text (id : Uuid) : ofText? id.text = some id := by
  have hlen := length_hyphenate id.length_digits
  simp only [ofText?, text, String.toList_ofList, ofChars?, hlen,
    ofHyphenated?_hyphenate id.length_digits, ofDigits?_digits]

theorem text_injective : Function.Injective text := by
  intro a b h
  have hread : some a = some b := by rw [← ofText?_text a, ← ofText?_text b, h]
  exact Option.some.inj hread

@[simp] theorem text_inj {a b : Uuid} : a.text = b.text ↔ a = b := text_injective.eq_iff

theorem text_ne_empty (id : Uuid) : id.text ≠ "" := by
  intro h
  have hread := ofText?_text id
  rw [h] at hread
  cases hread

end SignIn.Uuid
