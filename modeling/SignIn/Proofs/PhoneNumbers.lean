import SignIn.Proofs.SchemaRows

/-!
# Which phone numbers are accepted

A phone number is a plus sign, a digit from 1 to 9, and 8 to 13 more digits. The validator
counts bytes and takes the digits of all scripts. Of texts in ASCII it accepts the phone
numbers and nothing else. Beyond ASCII it accepts texts that are none: a digit of another
script counts for as many digits as it has bytes.
-/
namespace SignIn.Validation

open DecimalDigit HashText

inductive Dialable : List Char → Prop where
  | mk {first : Char} {rest : List Char} : '1' ≤ first → first ≤ '9' → 8 ≤ rest.length →
      rest.length ≤ 13 → (∀ c ∈ rest, '0' ≤ c ∧ c ≤ '9') → Dialable ('+' :: first :: rest)

/-- Not all digits behind the first are ASCII, and they have 8 to 13 bytes. -/
inductive HasForeignDigits : List Char → Prop where
  | mk {first : Char} {rest : List Char} : '1' ≤ first → first ≤ '9' → 8 ≤ byteSize rest →
      byteSize rest ≤ 13 → (∀ c ∈ rest, isDecimalDigit c = true) → (∃ c ∈ rest, 128 ≤ c.toNat) →
      HasForeignDigits ('+' :: first :: rest)

/-! ## Digits -/

theorem isDigit_iff {c : Char} : '0' ≤ c ∧ c ≤ '9' ↔ 48 ≤ c.toNat ∧ c.toNat < 58 := by
  simp only [Char.le_def, UInt32.le_iff_toNat_le]
  exact and_congr_right fun _ => Nat.lt_succ_iff.symm

/-- In ASCII there are no other decimal digits. -/
theorem isDecimalDigit_iff_of_ascii {c : Char} (h : c.toNat < 128) :
    isDecimalDigit c = true ↔ '0' ≤ c ∧ c ≤ '9' := by
  have hzeros : ∀ start ∈ zeros, start = 48 ∨ 128 ≤ start := by decide
  rw [isDigit_iff]
  refine ⟨fun hc => ?_, isDecimalDigit_of_ascii⟩
  obtain ⟨start, hstart, hrange⟩ := List.any_eq_true.mp hc
  simp only [Bool.and_eq_true, decide_eq_true_eq] at hrange
  have hascii := hzeros start hstart
  omega

theorem utf8Size_of_ascii {c : Char} (h : c.toNat < 128) : c.utf8Size = 1 := by
  rw [Char.utf8Size_eq_one_iff, UInt32.le_iff_toNat_le]
  exact Nat.le_of_lt_succ h

theorem byteSize_of_digits {rest : List Char} (h : ∀ c ∈ rest, '0' ≤ c ∧ c ≤ '9') :
    byteSize rest = rest.length := by
  refine byteSize_of_forall fun c hc => utf8Size_of_ascii ?_
  have hdigit := isDigit_iff.mp (h c hc)
  omega

/-! ## The form of a number -/

theorem phonePattern_iff {cs : List Char} : phonePattern cs = true ↔
    ∃ first rest, cs = '+' :: first :: rest ∧ '1' ≤ first ∧ first ≤ '9' ∧ 1 ≤ rest.length ∧
      rest.length ≤ 14 ∧ ∀ c ∈ rest, isDecimalDigit c = true := by
  constructor
  · intro h
    unfold phonePattern at h
    split at h
    · rename_i first rest
      simp only [Bool.and_eq_true, decide_eq_true_eq, List.all_eq_true] at h
      obtain ⟨⟨⟨⟨hlow, hhigh⟩, hsome⟩, hmany⟩, hdigits⟩ := h
      exact ⟨first, rest, rfl, hlow, hhigh, hsome, hmany, hdigits⟩
    · cases h
  · rintro ⟨first, rest, rfl, hlow, hhigh, hsome, hmany, hdigits⟩
    simpa [phonePattern, hlow, hhigh, hmany] using ⟨hsome, hdigits⟩

theorem byteSize_number {first : Char} (hlow : '1' ≤ first) (hhigh : first ≤ '9')
    (rest : List Char) : byteSize ('+' :: first :: rest) = byteSize rest + 2 := by
  have hfirst : first.utf8Size = 1 := by
    have hdigit := isDigit_iff.mp ⟨Char.le_trans (by decide) hlow, hhigh⟩
    exact utf8Size_of_ascii (by omega)
  have hplus : '+'.utf8Size = 1 := by decide
  unfold byteSize
  rw [String.ofList_cons, String.ofList_cons, String.utf8ByteSize_append,
    String.utf8ByteSize_append, String.utf8ByteSize_singleton, String.utf8ByteSize_singleton,
    hplus, hfirst]
  omega

/-- As far as the validator sees it, the digits behind the first are measured in bytes. Their
number is within the limits of the pattern then. -/
theorem phoneNumber_eq_ok_iff {s : String} : phoneNumber s = .ok () ↔
    ∃ first rest, s.toList = '+' :: first :: rest ∧ '1' ≤ first ∧ first ≤ '9' ∧
      8 ≤ byteSize rest ∧ byteSize rest ≤ 13 ∧ ∀ c ∈ rest, isDecimalDigit c = true := by
  have hsize : s.utf8ByteSize = byteSize s.toList := by rw [byteSize, String.ofList_toList]
  constructor
  · intro h
    have hrule := of_require h
    simp only [Bool.and_eq_true, decide_eq_true_eq, hsize] at hrule
    obtain ⟨⟨hshort, hlong⟩, hpattern⟩ := hrule
    obtain ⟨first, rest, hs, hlow, hhigh, -, -, hdigits⟩ := phonePattern_iff.mp hpattern
    rw [hs, byteSize_number hlow hhigh] at hshort hlong
    exact ⟨first, rest, hs, hlow, hhigh, by omega, by omega, hdigits⟩
  · rintro ⟨first, rest, hs, hlow, hhigh, hshort, hlong, hdigits⟩
    have hlength : rest.length ≤ byteSize rest := by
      simpa [byteSize] using Text.length_le_utf8ByteSize (String.ofList rest)
    have hsome : 1 ≤ rest.length := by
      by_contra hnone
      have hnil : rest = [] := List.eq_nil_of_length_eq_zero (by omega)
      rw [hnil] at hshort
      exact absurd hshort (by decide)
    have hpattern : phonePattern s.toList = true :=
      phonePattern_iff.mpr ⟨first, rest, hs, hlow, hhigh, hsome, by omega, hdigits⟩
    have hbounds : 10 ≤ s.utf8ByteSize ∧ s.utf8ByteSize ≤ 15 := by
      rw [hsize, hs, byteSize_number hlow hhigh]
      omega
    simp [phoneNumber, require, hpattern, hbounds]

theorem Dialable.accepted {s : String} (h : Dialable s.toList) : phoneNumber s = .ok () := by
  generalize hs : s.toList = cs at h
  obtain ⟨hlow, hhigh, hshort, hlong, hdigits⟩ := h
  refine phoneNumber_eq_ok_iff.mpr ⟨_, _, hs, hlow, hhigh, ?_, ?_, fun c hc => ?_⟩
  · rwa [byteSize_of_digits hdigits]
  · rwa [byteSize_of_digits hdigits]
  · exact isDecimalDigit_of_ascii (isDigit_iff.mp (hdigits c hc))

theorem HasForeignDigits.accepted {s : String} (h : HasForeignDigits s.toList) :
    phoneNumber s = .ok () := by
  generalize hs : s.toList = cs at h
  obtain ⟨hlow, hhigh, hshort, hlong, hdigits, -⟩ := h
  exact phoneNumber_eq_ok_iff.mpr ⟨_, _, hs, hlow, hhigh, hshort, hlong, hdigits⟩

theorem dialable_or_of_accepted {s : String} (h : phoneNumber s = .ok ()) :
    Dialable s.toList ∨ HasForeignDigits s.toList := by
  obtain ⟨first, rest, hs, hlow, hhigh, hshort, hlong, hdigits⟩ := phoneNumber_eq_ok_iff.mp h
  rw [hs]
  by_cases hforeign : ∃ c ∈ rest, 128 ≤ c.toNat
  · exact .inr (.mk hlow hhigh hshort hlong hdigits hforeign)
  · have hascii : ∀ c ∈ rest, '0' ≤ c ∧ c ≤ '9' := by
      intro c hc
      have hlt : c.toNat < 128 := by
        by_contra hge
        exact hforeign ⟨c, hc, by omega⟩
      exact (isDecimalDigit_iff_of_ascii hlt).mp (hdigits c hc)
    rw [byteSize_of_digits hascii] at hshort hlong
    exact .inl (.mk hlow hhigh hshort hlong hascii)

/-- Every phone number is accepted, and besides only texts with a digit of another script, of which
none is a phone number or in ASCII. Every other text gives the one failure. -/
theorem accepts_phone_numbers (s : String) :
    (phoneNumber s = .ok () ↔ Dialable s.toList ∨ HasForeignDigits s.toList) ∧
    (phoneNumber s ≠ .ok () →
      phoneNumber s = .error (.invalidPhoneNumber "must be in E.164 format")) ∧
    (HasForeignDigits s.toList → ¬Dialable s.toList ∧ ∃ c ∈ s.toList, 128 ≤ c.toNat) := by
  refine ⟨⟨dialable_or_of_accepted, fun h => h.elim Dialable.accepted HasForeignDigits.accepted⟩,
    fun h => ?_, fun h => ?_⟩
  · unfold phoneNumber require at h ⊢
    split
    · rename_i hrule
      exact absurd (if_pos hrule) h
    · rfl
  · generalize s.toList = cs at h
    obtain ⟨-, -, -, -, -, c, hc, hforeign⟩ := h
    refine ⟨fun hdialable => ?_, c, by simp [hc], hforeign⟩
    obtain ⟨-, -, -, -, hdigits⟩ := hdialable
    have hdigit := isDigit_iff.mp (hdigits c hc)
    omega

/-- Four digits, of which three are written in three bytes each. -/
theorem exists_accepted_not_dialable :
    phoneNumber "+1２３４" = .ok () ∧ ¬Dialable "+1２３４".toList := by
  refine ⟨by decide +kernel, fun h => ?_⟩
  cases h with
  | mk _ _ hmany => exact absurd hmany (by decide)

end SignIn.Validation
