import SignIn.Failure.Identity
import SignIn.Sql.Schema

/-!
# What clients see of inner failures

The failures of the database, of the token codec and of the outbox are shown to clients as one of
four statuses. Two tell of a token, one of a user that is there already, and one tells nothing: no
text of a failure is in any of them.
-/
namespace SignIn

open Sql

/-- A failure that does not come from the request. -/
inductive InnerError where
  | storage (error : StorageError)
  | token (error : TokenError)
  | outbox (error : OutboxError)

/-- The names of the unique indexes that the migrations create on a table. -/
def Sql.Migration.uniqueIndexes (table : String) : List String :=
  (all.filter (·.table.name = table)).flatMap (·.table.uniqueIndexes)

theorem Sql.Migration.uniqueIndexes_users :
    uniqueIndexes "users" = StorageError.userIndexes := by
  decide

/-- A unique index of the users refused a row. -/
inductive StorageError.UserClash : StorageError → Prop where
  | mk {index message : String} : index ∈ Migration.uniqueIndexes "users" →
      UserClash (.server ⟨some "23505", some index, message⟩)

theorem StorageError.isUserConflict_iff {e : StorageError} :
    e.isUserConflict = true ↔ e.UserClash := by
  constructor
  · intro h
    unfold isUserConflict at h
    split at h
    · rename_i error
      obtain ⟨code, constraint, message⟩ := error
      simp only [Bool.and_eq_true, beq_iff_eq, Option.any_eq_true, List.contains_iff_mem,
        ← Migration.uniqueIndexes_users] at h
      obtain ⟨rfl, index, rfl, hindex⟩ := h
      exact .mk hindex
    · cases h
  · rintro ⟨hindex⟩
    rw [Migration.uniqueIndexes_users] at hindex
    simpa [isUserConflict, uniqueViolation] using hindex

/-- What is shown of a clash of users. -/
def Status.taken : Status := ⟨.alreadyExists, "User already exists"⟩

/-- What is shown when nothing is told. -/
def Status.silent : Status := ⟨.internal, "Internal server error"⟩

theorem IdentityError.status_ofStorage_of_clash {e : StorageError} (h : e.UserClash) :
    (ofStorage e).status = .taken := by
  rw [ofStorage, if_pos (StorageError.isUserConflict_iff.mpr h)]
  rfl

theorem IdentityError.status_ofStorage_of_not_clash {e : StorageError} (h : ¬e.UserClash) :
    (ofStorage e).status = .silent := by
  rw [ofStorage, if_neg (mt StorageError.isUserConflict_iff.mp h)]
  rfl

namespace InnerError

def identity : InnerError → IdentityError
  | .storage error => .ofStorage error
  | .token error => .ofToken error
  | .outbox error => .ofOutbox error

def status (e : InnerError) : Status := e.identity.status

/-- A clash of users, bare or reported by the outbox. -/
inductive UserClash : InnerError → Prop where
  | bare {error : StorageError} : error.UserClash → UserClash (.storage error)
  | wrapped {error : StorageError} : error.UserClash → UserClash (.outbox (.database error))

/-- Neither a clash of users nor a token that is not accepted. -/
structure Internal (e : InnerError) : Prop where
  apart : ¬e.UserClash
  notInvalid : e ≠ .token .invalid
  notExpired : e ≠ .token .expired

theorem userClash_or (e : InnerError) :
    e.UserClash ∨ e = .token .invalid ∨ e = .token .expired ∨ e.Internal := by
  by_cases hclash : e.UserClash
  · exact .inl hclash
  by_cases hinvalid : e = .token .invalid
  · exact .inr (.inl hinvalid)
  by_cases hexpired : e = .token .expired
  · exact .inr (.inr (.inl hexpired))
  exact .inr (.inr (.inr ⟨hclash, hinvalid, hexpired⟩))

theorem status_of_userClash {e : InnerError} (h : e.UserClash) : e.status = .taken := by
  cases h with
  | bare h => exact IdentityError.status_ofStorage_of_clash h
  | wrapped h => exact IdentityError.status_ofStorage_of_clash h

theorem status_of_internal {e : InnerError} (h : e.Internal) : e.status = .silent := by
  cases e with
  | storage error => exact IdentityError.status_ofStorage_of_not_clash fun hc => h.apart (.bare hc)
  | token error =>
    cases error with
    | invalid => exact absurd rfl h.notInvalid
    | expired => exact absurd rfl h.notExpired
    | secretTooShort => rfl
    | signing reason => rfl
  | outbox error =>
    cases error with
    | database error =>
      exact IdentityError.status_ofStorage_of_not_clash fun hc => h.apart (.wrapped hc)
    | _ => rfl

end InnerError

/-! ## Texts that failures carry -/

/-- The same failure with other texts. The code and the constraint of the server stay. -/
def StorageError.reword (w : String → String) : StorageError → StorageError
  | .protocol text => .protocol (w text)
  | .columnNotFound name => .columnNotFound (w name)
  | .columnNull name => .columnNull (w name)
  | .columnMismatch name reader readerType type =>
    .columnMismatch (w name) (w reader) (w readerType) (w type)
  | .configuration text => .configuration (w text)
  | .io text => .io (w text)
  | .server error => .server { error with message := w error.message }
  | .other text => .other (w text)
  | e => e

def TokenError.reword (w : String → String) : TokenError → TokenError
  | .signing reason => .signing (w reason)
  | e => e

def OutboxError.reword (w : String → String) : OutboxError → OutboxError
  | .database error => .database (error.reword w)
  | .eventNotFound id => .eventNotFound id
  | .serialization text => .serialization (w text)
  | .invalidPayload reason => .invalidPayload (w reason)
  | .unknownStatus text => .unknownStatus (w text)
  | .enqueueFailed reason => .enqueueFailed (w reason)
  | .taskIdConflict id => .taskIdConflict (w id)
  | .broker text => .broker (w text)
  | .other context => .other (w context)

theorem StorageError.userClash_reword {w : String → String} {e : StorageError} :
    (e.reword w).UserClash ↔ e.UserClash := by
  simp only [← isUserConflict_iff]
  cases e <;> rfl

namespace InnerError

def reword (w : String → String) : InnerError → InnerError
  | .storage error => .storage (error.reword w)
  | .token error => .token (error.reword w)
  | .outbox error => .outbox (error.reword w)

variable {e : InnerError} {w : String → String}

theorem userClash_reword : (e.reword w).UserClash ↔ e.UserClash := by
  constructor
  · intro h
    cases e with
    | storage error =>
      cases h with
      | bare h => exact .bare (StorageError.userClash_reword.mp h)
    | token error => cases h
    | outbox error =>
      cases error with
      | database error =>
        cases h with
        | wrapped h => exact .wrapped (StorageError.userClash_reword.mp h)
      | _ => cases h
  · rintro (h | h)
    · exact .bare (StorageError.userClash_reword.mpr h)
    · exact .wrapped (StorageError.userClash_reword.mpr h)

/-- Of failures of tokens only those of signing carry a text. -/
theorem eq_of_reword_eq_token {error : TokenError} (h : e.reword w = .token error)
    (herror : ∀ reason, error ≠ .signing reason) : e = .token error := by
  cases e with
  | token error' =>
    cases error' with
    | signing reason =>
      cases h
      exact absurd rfl (herror _)
    | _ => exact h
  | _ => cases h

theorem Internal.reword (h : e.Internal) (w : String → String) : (e.reword w).Internal where
  apart := mt userClash_reword.mp h.apart
  notInvalid heq := h.notInvalid (eq_of_reword_eq_token heq nofun)
  notExpired heq := h.notExpired (eq_of_reword_eq_token heq nofun)

theorem status_reword (e : InnerError) (w : String → String) : (e.reword w).status = e.status := by
  rcases e.userClash_or with h | rfl | rfl | h
  · rw [status_of_userClash h, status_of_userClash (userClash_reword.mpr h)]
  · rfl
  · rfl
  · rw [status_of_internal h, status_of_internal (h.reword w)]

/-! ## What is told -/

theorem code_eq_alreadyExists_iff (e : InnerError) :
    e.status.code = .alreadyExists ↔ e.UserClash := by
  rcases e.userClash_or with h | rfl | rfl | h
  · exact iff_of_true (by rw [status_of_userClash h]; rfl) h
  · exact iff_of_false nofun nofun
  · exact iff_of_false nofun nofun
  · exact iff_of_false (by rw [status_of_internal h]; nofun) h.apart

theorem code_eq_unauthenticated_iff (e : InnerError) :
    e.status.code = .unauthenticated ↔ e = .token .invalid ∨ e = .token .expired := by
  rcases e.userClash_or with h | rfl | rfl | h
  · refine iff_of_false (by rw [status_of_userClash h]; nofun) ?_
    rintro (rfl | rfl) <;> cases h
  · exact iff_of_true rfl (.inl rfl)
  · exact iff_of_true rfl (.inr rfl)
  · refine iff_of_false (by rw [status_of_internal h]; nofun) ?_
    exact not_or.mpr ⟨h.notInvalid, h.notExpired⟩

/-- Failures that are shown with one code are shown with one message, but for tokens. -/
theorem status_eq_of_code_eq {e e' : InnerError} (h : e.status.code = e'.status.code) :
    e.status = e'.status ∨ (e = .token .invalid ∧ e' = .token .expired) ∨
      (e = .token .expired ∧ e' = .token .invalid) := by
  rcases e.userClash_or with he | rfl | rfl | he
  · have he' := e'.code_eq_alreadyExists_iff.mp (h ▸ e.code_eq_alreadyExists_iff.mpr he)
    exact .inl (by rw [status_of_userClash he, status_of_userClash he'])
  · rcases e'.code_eq_unauthenticated_iff.mp h.symm with rfl | rfl
    · exact .inl rfl
    · exact .inr (.inl ⟨rfl, rfl⟩)
  · rcases e'.code_eq_unauthenticated_iff.mp h.symm with rfl | rfl
    · exact .inr (.inr ⟨rfl, rfl⟩)
    · exact .inl rfl
  · rw [status_of_internal he] at h
    rcases e'.userClash_or with he' | rfl | rfl | he'
    · rw [status_of_userClash he'] at h
      cases h
    · cases h
    · cases h
    · exact .inl (by rw [status_of_internal he, status_of_internal he'])

/-- Whatever fails, the status is one of four. -/
theorem status_mem (e : InnerError) :
    e.status ∈ [.taken, ⟨.unauthenticated, "Invalid token"⟩, ⟨.unauthenticated, "Token expired"⟩,
      .silent] := by
  rcases e.userClash_or with h | rfl | rfl | h
  · rw [status_of_userClash h]
    exact List.mem_cons_self
  · decide
  · decide
  · rw [status_of_internal h]
    decide

/-- A client is told of a clash of users, and of a token that is invalid or has expired. All other
failures look the same to it, and no text that a failure carries is ever shown. -/
theorem status_hides_texts :
    (∀ e : InnerError, (e.status.code = .alreadyExists ↔ e.UserClash) ∧
      (e.status.code = .unauthenticated ↔ e = .token .invalid ∨ e = .token .expired) ∧
      (¬e.UserClash → e ≠ .token .invalid → e ≠ .token .expired →
        e.status = ⟨.internal, "Internal server error"⟩)) ∧
    (∀ e e' : InnerError, e.status.code = e'.status.code →
      e.status.message = e'.status.message ∨ (e = .token .invalid ∧ e' = .token .expired) ∨
        (e = .token .expired ∧ e' = .token .invalid)) ∧
    (∀ e : InnerError, e.status ∈ [⟨.alreadyExists, "User already exists"⟩,
      ⟨.unauthenticated, "Invalid token"⟩, ⟨.unauthenticated, "Token expired"⟩,
      ⟨.internal, "Internal server error"⟩]) ∧
    ∀ (e : InnerError) (w : String → String), (e.reword w).status = e.status := by
  refine ⟨fun e => ⟨e.code_eq_alreadyExists_iff, e.code_eq_unauthenticated_iff,
    fun hclash hinvalid hexpired => status_of_internal ⟨hclash, hinvalid, hexpired⟩⟩,
    fun e e' h => (status_eq_of_code_eq h).imp_left (congrArg Status.message), status_mem,
    status_reword⟩

end InnerError

end SignIn
