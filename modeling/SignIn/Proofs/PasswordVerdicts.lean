import SignIn.Proofs.PasswordText

/-!
# Verdicts on passwords

What is wrong with a stored hash is found before the password is looked at: it fails for all
passwords alike, or it has a verdict on each. Every new hash has one, and takes the passwords
that have its digest under its salt.
-/
namespace SignIn

namespace HashText

/-- A verdict whose failure does not depend on the password. -/
def Uniform (verdict : Bytes → Except HashProblem Bool) : Prop :=
  ∃ read : Except HashProblem (Bytes → Bool), ∀ password, verdict password = read.map (· password)

theorem Uniform.pure (fits : Bytes → Bool) : Uniform fun password => .ok (fits password) :=
  ⟨.ok fits, fun _ => rfl⟩

theorem Uniform.error (problem : HashProblem) : Uniform fun _ => .error problem :=
  ⟨.error problem, fun _ => rfl⟩

theorem Uniform.bind {α : Type} (x : Except HashProblem α)
    {next : α → Bytes → Except HashProblem Bool} (h : ∀ a, Uniform (next a)) :
    Uniform fun password => x >>= fun a => next a password := by
  cases x with
  | error problem => exact Uniform.error problem
  | ok a => exact h a

theorem admits_uniform (h : HashText) : Uniform h.admits := by
  unfold admits
  split
  · rename_i salt digest _ _
    refine .bind _ fun costs => .bind costs.check fun _ => .bind _ fun variant =>
      .bind _ fun version => .bind _ fun bytes => ?_
    split
    · exact .error (.badSalt .tooShort)
    · exact .pure _
  · exact .pure _

end HashText

namespace Password

/-- Whether a stored hash has a verdict does not depend on the password. -/
theorem verify_uniform (stored : String) :
    (∀ password, ∃ fits, verify password stored = .ok fits) ∨
      ∃ failure, (∀ fits, failure ≠ .ok fits) ∧ ∀ password, verify password stored = failure := by
  unfold verify
  cases HashText.ofChars stored.toList with
  | error problem =>
    refine .inr ⟨_, ?_, fun _ => rfl⟩
    rintro fits ⟨⟩
  | ok h =>
    obtain ⟨read, hread⟩ := h.admits_uniform
    simp only [hread]
    cases read with
    | ok fits => exact .inl fun password => ⟨_, rfl⟩
    | error problem =>
      -- an overflow is a panic, all else is reported
      cases problem
      all_goals
        refine .inr ⟨_, ?_, fun _ => rfl⟩
        rintro fits ⟨⟩

/-- A new hash is well formed and takes its own password. It has a verdict on every other one,
which is taken exactly when the digests under the salt of the hash are equal. -/
theorem verify_by_digest (password : String) (salt : Salt) :
    HashText.ofChars (hash password salt).toList = .ok (hashText password salt) ∧
    verify password (hash password salt) = .ok true ∧
    ∀ other, ∃ fits, verify other (hash password salt) = .ok fits ∧
      (fits = true ↔ Argon2.digest standard (Bytes.ofString other) salt.toList =
        Argon2.digest standard (Bytes.ofString password) salt.toList) :=
  ⟨ofChars_hash password salt, verify_hash password salt,
    fun other => ⟨_, verify_hash_eq password other salt, beq_iff_eq⟩⟩

end Password

end SignIn
