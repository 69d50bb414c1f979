import Mathlib.Data.List.Forall2
import Mathlib.Data.List.Pairwise
import SignIn.Proofs.PasswordText
import SignIn.Proofs.UuidText
import SignIn.Service.Store

/-!
# Accounts in order

What the tables of the service are like when only the service has written to them: users
were made from valid requests and do not stand in each other's way, and every record
belongs to one of them. Tables only grow. Users stay as they are, and a record stays as
it is or is revoked.
-/
namespace SignIn

namespace RefreshToken

theorem hash_ne_empty (token : String) : hash token ≠ "" := by
  intro h
  have hlength : (hash token).toList.length = 64 := by simp [hash, Sha256.hex]
  rw [h] at hlength
  cases hlength

theorem make_eq_ok {id userId : Uuid} {now expiresAt : Int} {token : String}
    {record : RefreshToken} (h : make id now userId token expiresAt = .ok record) :
    userId.isNil = false ∧ token ≠ "" ∧ now < expiresAt ∧
      record = ⟨id, userId, hash token, expiresAt, false, now, now⟩ := by
  unfold make at h
  split at h
  · cases h
  · rename_i hgiven
    split at h
    · cases h
    · rename_i halive
      rw [not_or, Bool.not_eq_true] at hgiven
      exact ⟨hgiven.1, hgiven.2, by omega, (Except.ok.inj h).symm⟩

theorem of_make_eq_error {id userId : Uuid} {now expiresAt : Int} {token : String}
    {e : IdentityError} (h : make id now userId token expiresAt = .error e) :
    (e = .invalidToken ∧ (userId.isNil = true ∨ token = "")) ∨
      (e = .tokenExpired ∧ expiresAt ≤ now) := by
  unfold make at h
  split at h
  · rename_i hblank
    exact .inl ⟨(Except.error.inj h).symm, hblank⟩
  · split at h
    · rename_i hlate
      exact .inr ⟨(Except.error.inj h).symm, hlate⟩
    · cases h

theorem of_validate_eq_ok {r : RefreshToken} {now : Int} (h : r.validate now = .ok ()) :
    r.isRevoked = false ∧ now < r.expiresAt := by
  unfold validate at h
  split at h
  · cases h
  · split at h
    · cases h
    · rename_i hrevoked
      split at h
      · cases h
      · exact ⟨by simpa using hrevoked, by omega⟩

/-- The three reasons to turn a record down, of which the first that applies is given. -/
theorem of_validate_eq_error {r : RefreshToken} {now : Int} {e : IdentityError}
    (h : r.validate now = .error e) :
    (e = .invalidToken ∧ (r.id.isNil = true ∨ r.userId.isNil = true ∨ r.tokenHash = "")) ∨
      (e = .tokenRevoked ∧ r.isRevoked = true) ∨
      (e = .tokenExpired ∧ r.isRevoked = false ∧ r.expiresAt ≤ now) := by
  unfold validate at h
  split at h
  · rename_i hblank
    exact .inl ⟨(Except.error.inj h).symm, hblank⟩
  · split at h
    · rename_i hrevoked
      exact .inr (.inl ⟨(Except.error.inj h).symm, hrevoked⟩)
    · rename_i hrevoked
      split at h
      · rename_i hexpired
        exact .inr (.inr ⟨(Except.error.inj h).symm, by simpa using hrevoked, hexpired⟩)
      · cases h

theorem isRevoked_of_validate {r : RefreshToken} {now : Int}
    (h : r.validate now = .error .tokenRevoked) : r.isRevoked = true := by
  rcases of_validate_eq_error h with ⟨he, -⟩ | ⟨-, hrevoked⟩ | ⟨he, -⟩
  · cases he
  · exact hrevoked
  · cases he

theorem of_validate_eq_expired {r : RefreshToken} {now : Int}
    (h : r.validate now = .error .tokenExpired) : r.isRevoked = false ∧ r.expiresAt ≤ now := by
  rcases of_validate_eq_error h with ⟨he, -⟩ | ⟨he, -⟩ | ⟨-, hexpired⟩
  · cases he
  · cases he
  · exact hexpired

/-- The same record later on, which may have been revoked. -/
def Continues (r r' : RefreshToken) : Prop := r' = r ∨ ∃ now, r' = r.revoke now

namespace Continues

variable {r r' r'' : RefreshToken}

theorem refl (r : RefreshToken) : Continues r r := .inl rfl

theorem trans (h : Continues r r') (h' : Continues r' r'') : Continues r r'' := by
  rcases h' with rfl | ⟨now', rfl⟩
  · exact h
  · rcases h with rfl | ⟨now, rfl⟩
    · exact .inr ⟨now', rfl⟩
    · exact .inr ⟨now', rfl⟩

theorem isFor (h : Continues r r') (token : String) : r'.isFor token = r.isFor token := by
  rcases h with rfl | ⟨now, rfl⟩ <;> rfl

theorem id (h : Continues r r') : r'.id = r.id := by
  rcases h with rfl | ⟨now, rfl⟩ <;> rfl

theorem userId (h : Continues r r') : r'.userId = r.userId := by
  rcases h with rfl | ⟨now, rfl⟩ <;> rfl

theorem tokenHash (h : Continues r r') : r'.tokenHash = r.tokenHash := by
  rcases h with rfl | ⟨now, rfl⟩ <;> rfl

theorem expiresAt (h : Continues r r') : r'.expiresAt = r.expiresAt := by
  rcases h with rfl | ⟨now, rfl⟩ <;> rfl

theorem isRevoked (h : Continues r r') (hr : r.isRevoked = true) : r'.isRevoked = true := by
  rcases h with rfl | ⟨now, rfl⟩
  · exact hr
  · rfl

end Continues

end RefreshToken

namespace Validation

theorem of_bind {rule : Except IdentityError Unit} {rest : Unit → Except IdentityError Unit}
    (h : (rule >>= rest) = .ok ()) : rule = .ok () ∧ rest () = .ok () := by
  cases rule with
  | ok u => exact ⟨rfl, h⟩
  | error e => cases h

theorem of_require {rule : Bool} {e : IdentityError} (h : require rule e = .ok ()) :
    rule = true := by
  unfold require at h
  split at h
  · assumption
  · cases h

theorem username_ne_empty {s : String} (h : username s = .ok ()) : s ≠ "" := by
  have hlength := of_require (of_bind h).1
  rintro rfl
  cases hlength

theorem password_ne_empty {s : String} (h : password s = .ok ()) : s ≠ "" := by
  have hlength := of_require (of_bind h).1
  rintro rfl
  cases hlength

end Validation

namespace RegisterRequest

/-- What has been checked of a request that is accepted. -/
structure Accepted (r : RegisterRequest) : Prop where
  contact : r.hasContact = true
  username : Validation.username r.username = .ok ()
  password : Validation.password r.password = .ok ()
  email : checkPart r.email Validation.email = .ok ()
  countryCode : checkPart r.countryCode Validation.countryCode = .ok ()
  phoneNumber : checkPart r.phoneNumber Validation.phoneNumber = .ok ()

theorem accepted_of_validate {r : RegisterRequest} (h : r.validate = .ok ()) : r.Accepted := by
  obtain ⟨hcontact, h⟩ := Validation.of_bind h
  obtain ⟨husername, h⟩ := Validation.of_bind h
  obtain ⟨hpassword, h⟩ := Validation.of_bind h
  obtain ⟨hemail, h⟩ := Validation.of_bind h
  obtain ⟨hcountry, hnumber⟩ := Validation.of_bind h
  exact ⟨Validation.of_require hcontact, husername, hpassword, hemail, hcountry, hnumber⟩

/-- How the user of a request may be named at login. -/
inductive Names (r : RegisterRequest) : Identifier → Prop where
  | email {address : String} : r.email = some address → address ≠ "" → Names r (.email address)
  | phone {country number : String} : r.countryCode = some country → country ≠ "" →
      r.phoneNumber = some number → number ≠ "" → Names r (.phone country number)

theorem nonEmpty_some {s : String} (h : s ≠ "") : nonEmpty (some s) = some s := by
  simp [nonEmpty, h]

/-- Login finds nothing to reject in what was accepted at registration. -/
theorem Names.validate {r : RegisterRequest} {i : Identifier} (hr : r.validate = .ok ())
    (hi : r.Names i) : i.validate = .ok () := by
  have haccepted := accepted_of_validate hr
  cases hi with
  | @email address haddress hne =>
    have hemail : Validation.email address = .ok () := by
      have hpart := haccepted.email
      rwa [haddress, checkPart, nonEmpty_some hne] at hpart
    simp only [Identifier.validate, Validation.require]
    rw [if_pos (bne_iff_ne.mpr hne)]
    exact hemail
  | @phone country number hcountry hc hnumber hn =>
    have hcode : Validation.countryCode country = .ok () := by
      have hpart := haccepted.countryCode
      rwa [hcountry, checkPart, nonEmpty_some hc] at hpart
    have hphone : Validation.phoneNumber number = .ok () := by
      have hpart := haccepted.phoneNumber
      rwa [hnumber, checkPart, nonEmpty_some hn] at hpart
    have hboth : (country != "" && number != "") = true := by
      rw [bne_iff_ne.mpr hc, bne_iff_ne.mpr hn, Bool.and_self]
    simp only [Identifier.validate, Validation.require]
    rw [if_pos hboth, hcode]
    exact hphone

end RegisterRequest

namespace User

/-- A user that a request was answered with. -/
def MadeFor (u : User) (r : RegisterRequest) : Prop :=
  ∃ salt id now, User.register r salt id now = .ok u

theorem of_register {r : RegisterRequest} {salt : Salt} {id : Uuid} {now : Int} {u : User}
    (h : User.register r salt id now = .ok u) :
    r.validate = .ok () ∧ u = ⟨id, nonEmpty r.email, nonEmpty r.countryCode,
      nonEmpty r.phoneNumber, r.username, Password.hash r.password salt, now, now⟩ := by
  unfold User.register at h
  cases hvalid : r.validate with
  | error e =>
    rw [hvalid] at h
    cases h
  | ok =>
    rw [hvalid] at h
    exact ⟨rfl, (Except.ok.inj h).symm⟩

theorem MadeFor.validate {u : User} {r : RegisterRequest} (h : u.MadeFor r) :
    r.validate = .ok () := by
  obtain ⟨salt, id, now, h⟩ := h
  exact (of_register h).1

/-- Every password can be checked against the hash of the user. -/
theorem MadeFor.exists_verify {u : User} {r : RegisterRequest} (h : u.MadeFor r)
    (password : String) : ∃ fits, Password.verify password u.passwordHash = .ok fits := by
  obtain ⟨salt, id, now, h⟩ := h
  obtain ⟨-, rfl⟩ := of_register h
  exact ⟨_, Password.verify_hash_eq r.password password salt⟩

theorem MadeFor.verify {u : User} {r : RegisterRequest} (h : u.MadeFor r) :
    Password.verify r.password u.passwordHash = .ok true := by
  obtain ⟨salt, id, now, h⟩ := h
  obtain ⟨-, rfl⟩ := of_register h
  exact Password.verify_hash r.password salt

theorem MadeFor.username_ne_empty {u : User} {r : RegisterRequest} (h : u.MadeFor r) :
    u.username ≠ "" := by
  obtain ⟨salt, id, now, h⟩ := h
  obtain ⟨hvalid, rfl⟩ := of_register h
  exact Validation.username_ne_empty (RegisterRequest.accepted_of_validate hvalid).username

end User

namespace Service

namespace Tables

/-- The record that a token is looked up by. -/
def record? (t : Tables) (token : String) : Option RefreshToken := t.tokens.find? (·.isFor token)

theorem tokenRecord_eq (t : Tables) (token : String) :
    t.tokenRecord token = match t.record? token with
      | some record => .ok record
      | none => .error .tokenNotFound := rfl

theorem record?_eq_none_iff {t : Tables} {token : String} : t.record? token = none ↔
    ∀ record ∈ t.tokens, record.tokenHash ≠ RefreshToken.hash token := by
  simp [record?, RefreshToken.isFor]

/-! ## Users -/

theorem sameText_comm (a b : Option String) : sameText a b = sameText b a := by
  unfold sameText
  by_cases h : a = b
  · rw [h]
  · rw [beq_false_of_ne h, beq_false_of_ne (Ne.symm h)]
    simp

theorem conflict_comm (a b : User) : conflict a b = conflict b a := by
  unfold conflict
  rw [sameText_comm a.email, sameText_comm a.countryCode, sameText_comm a.phoneNumber,
    Bool.beq_comm (a := a.id), Bool.beq_comm (a := a.username)]

instance : Std.Symm fun u v : User => conflict u v = false where
  symm u v h := by rwa [conflict_comm]

/-- Whom an identifier names. -/
def named (t : Tables) : Identifier → Option User
  | .email address => t.userByEmail address
  | .phone country number => t.userByPhone country number

end Tables

end Service

/-- Does a user go by an identifier? -/
def Identifier.names : Identifier → User → Bool
  | .email address, u => u.email == some address
  | .phone country number, u => u.countryCode == some country && u.phoneNumber == some number

theorem User.MadeFor.names {u : User} {r : RegisterRequest} {i : Identifier} (h : u.MadeFor r)
    (hi : r.Names i) : i.names u = true := by
  obtain ⟨salt, id, now, h⟩ := h
  obtain ⟨-, rfl⟩ := User.of_register h
  cases hi with
  | email haddress hne =>
    simp [Identifier.names, haddress, RegisterRequest.nonEmpty_some hne]
  | phone hcountry hc hnumber hn =>
    simp [Identifier.names, hcountry, hnumber, RegisterRequest.nonEmpty_some hc,
      RegisterRequest.nonEmpty_some hn]

namespace Service

namespace Tables

theorem named_eq_find? (t : Tables) (i : Identifier) : t.named i = t.users.find? i.names := by
  cases i <;> rfl

theorem named_eq_none {t : Tables} {i : Identifier} (h : ∀ u ∈ t.users, i.names u = false) :
    t.named i = none := by
  rw [named_eq_find?, List.find?_eq_none]
  intro u hu
  simp [h u hu]

theorem mem_of_named {t : Tables} {i : Identifier} {u : User} (h : t.named i = some u) :
    u ∈ t.users := by
  rw [named_eq_find?] at h
  exact List.mem_of_find?_eq_some h

theorem of_userById {t : Tables} {id : Uuid} {u : User} (h : t.userById id = some u) :
    u ∈ t.users ∧ u.id = id := by
  unfold userById at h
  refine ⟨List.mem_of_find?_eq_some h, ?_⟩
  simpa using List.find?_some h

/-- Users that go by the same identifier cannot both be stored. -/
theorem conflict_of_names {i : Identifier} {u v : User} (hu : i.names u = true)
    (hv : i.names v = true) : conflict u v = true := by
  cases i with
  | email address =>
    simp only [Identifier.names, beq_iff_eq] at hu hv
    simp [conflict, sameText, hu, hv]
  | phone country number =>
    simp only [Identifier.names, Bool.and_eq_true, beq_iff_eq] at hu hv
    simp [conflict, sameText, hu, hv]

/-! ## Order -/

/-- Users are kept apart and were made from valid requests, and records belong to users. Their ids
are among those that were drawn. -/
structure InOrder (drawn : List Uuid) (t : Tables) : Prop where
  apart : t.users.Pairwise fun u v => conflict u v = false
  users : ∀ u ∈ t.users, u.id.isNil = false ∧ ∃ r, u.MadeFor r
  records : ∀ r ∈ t.tokens, r.id ∈ drawn ∧ r.tokenHash ≠ "" ∧ ∃ u ∈ t.users, u.id = r.userId

theorem inOrder_empty (drawn : List Uuid) : InOrder drawn {} where
  apart := .nil
  users := fun u hu => by cases hu
  records := fun r hr => by cases hr

namespace InOrder

variable {drawn drawn' : List Uuid} {t : Tables}

theorem mono (h : t.InOrder drawn) (hd : drawn ⊆ drawn') : t.InOrder drawn' := by
  refine ⟨h.apart, h.users, fun r hr => ?_⟩
  obtain ⟨hid, howner⟩ := h.records r hr
  exact ⟨hd hid, howner⟩

/-- An identifier names one user at most. -/
theorem named_eq (h : t.InOrder drawn) {i : Identifier} {u : User} (hu : u ∈ t.users)
    (hi : i.names u = true) : t.named i = some u := by
  rw [named_eq_find?]
  cases hfind : t.users.find? i.names with
  | none =>
    rw [List.find?_eq_none] at hfind
    exact absurd hi (hfind u hu)
  | some v =>
    by_contra hne
    have hvu : v ≠ u := fun heq => hne (congrArg some heq)
    have hapart : conflict v u = false :=
      h.apart.forall (List.mem_of_find?_eq_some hfind) hu hvu
    rw [conflict_of_names (List.find?_some hfind) hi] at hapart
    cases hapart

theorem exists_owner (h : t.InOrder drawn) {r : RefreshToken} (hr : r ∈ t.tokens) :
    ∃ u, t.userById r.userId = some u := by
  obtain ⟨-, -, u, hu, hid⟩ := h.records r hr
  exact Option.isSome_iff_exists.mp (List.find?_isSome.mpr ⟨u, hu, beq_iff_eq.mpr hid⟩)

/-- With proper ids, every record has all that it takes. -/
theorem formed (h : t.InOrder drawn) (hids : ∀ id ∈ drawn, id.isNil = false) {r : RefreshToken}
    (hr : r ∈ t.tokens) :
    r.id.isNil = false ∧ r.userId.isNil = false ∧ r.tokenHash ≠ "" := by
  obtain ⟨hid, hhash, u, hu, howner⟩ := h.records r hr
  refine ⟨hids r.id hid, ?_, hhash⟩
  rw [← howner]
  exact (h.users u hu).1

theorem addUser (h : t.InOrder drawn) {u : User} (hfree : t.users.any (conflict u) = false)
    (hid : u.id.isNil = false) (hmade : ∃ r, u.MadeFor r) :
    InOrder drawn { t with users := t.users ++ [u] } where
  apart := by
    rw [List.any_eq_false] at hfree
    refine List.pairwise_append.mpr ⟨h.apart, List.pairwise_singleton .., fun v hv w hw => ?_⟩
    obtain rfl := List.mem_singleton.mp hw
    rw [conflict_comm]
    simpa using hfree v hv
  users := by
    intro v hv
    rcases List.mem_append.mp hv with hold | hnew
    · exact h.users v hold
    · obtain rfl := List.mem_singleton.mp hnew
      exact ⟨hid, hmade⟩
  records := by
    intro r hr
    obtain ⟨hdrawn, hhash, v, hv, howner⟩ := h.records r hr
    exact ⟨hdrawn, hhash, v, List.mem_append_left _ hv, howner⟩

theorem insertToken (h : t.InOrder drawn) {record : RefreshToken} {id userId : Uuid}
    {now expiresAt : Int} {token : String}
    (hmake : RefreshToken.make id now userId token expiresAt = .ok record) (hid : id ∈ drawn)
    (howner : ∃ u ∈ t.users, u.id = userId) : InOrder drawn (t.insertToken record) where
  apart := h.apart
  users := h.users
  records := by
    intro r hr
    rcases List.mem_append.mp hr with hold | hnew
    · exact h.records r hold
    · obtain rfl := List.mem_singleton.mp hnew
      obtain ⟨-, -, -, rfl⟩ := RefreshToken.make_eq_ok hmake
      exact ⟨hid, RefreshToken.hash_ne_empty token, howner⟩

end InOrder

/-! ## Growth -/

/-- Later tables. Users stay as they are and where they are, and every record stays in its place
and continues. -/
structure Grows (t t' : Tables) : Prop where
  users : t.users <+: t'.users
  records : ∀ (i : Nat) (r : RefreshToken), t.tokens[i]? = some r →
    ∃ r', t'.tokens[i]? = some r' ∧ r.Continues r'

namespace Grows

variable {t t' t'' : Tables}

theorem refl (t : Tables) : Grows t t := ⟨List.prefix_rfl, fun _ r hr => ⟨r, hr, .refl r⟩⟩

theorem trans (h : Grows t t') (h' : Grows t' t'') : Grows t t'' := by
  refine ⟨h.users.trans h'.users, fun i r hr => ?_⟩
  obtain ⟨r', hr', hc⟩ := h.records i r hr
  obtain ⟨r'', hr'', hc'⟩ := h'.records i r' hr'
  exact ⟨r'', hr'', hc.trans hc'⟩

/-- A token is looked up by the same record as before. -/
theorem record? (h : Grows t t') {token : String} {r : RefreshToken}
    (hr : t.record? token = some r) : ∃ r', t'.record? token = some r' ∧ r.Continues r' := by
  unfold Tables.record? at hr ⊢
  obtain ⟨hfor, i, hi, hat, hbefore⟩ := List.find?_eq_some_iff_getElem.mp hr
  obtain ⟨r', hr', hc⟩ := h.records i r (by rw [List.getElem?_eq_getElem hi, hat])
  obtain ⟨hi', hat'⟩ := List.getElem?_eq_some_iff.mp hr'
  refine ⟨r', List.find?_eq_some_iff_getElem.mpr ⟨?_, i, hi', hat', fun j hj => ?_⟩, hc⟩
  · rwa [hc.isFor]
  · -- A record in front keeps its digest, so it has not come to match.
    obtain ⟨q, hq, hcq⟩ := h.records j t.tokens[j] (List.getElem?_eq_getElem (Nat.lt_trans hj hi))
    obtain ⟨_, hatq⟩ := List.getElem?_eq_some_iff.mp hq
    rw [hatq, hcq.isFor]
    exact hbefore j hj

theorem insertToken (t : Tables) (record : RefreshToken) : Grows t (t.insertToken record) := by
  refine ⟨List.prefix_rfl, fun i r hr => ⟨r, ?_, .refl r⟩⟩
  obtain ⟨hi, -⟩ := List.getElem?_eq_some_iff.mp hr
  exact (List.getElem?_append_left hi).trans hr

end Grows

/-! ## Revocation -/

open RefreshToken (Continues)

theorem forall₂_revokeFirst (now : Int) (wanted : RefreshToken → Bool)
    (records : List RefreshToken) :
    List.Forall₂ Continues records (revokeFirst now wanted records) := by
  induction records with
  | nil => exact .nil
  | cons record rest ih =>
    unfold revokeFirst
    split
    · exact .cons (.inr ⟨now, rfl⟩) (List.forall₂_same.mpr fun r _ => .refl r)
    · exact .cons (.refl record) ih

theorem forall₂_revokeAll (now : Int) (wanted : RefreshToken → Bool) (records : List RefreshToken) :
    List.Forall₂ Continues records
      (records.map fun record => if isLive wanted record then record.revoke now else record) := by
  rw [List.forall₂_map_right_iff, List.forall₂_same]
  intro record _
  split
  · exact .inr ⟨now, rfl⟩
  · exact .refl record

section Revision

variable {t : Tables} {records : List RefreshToken}

theorem Grows.revise (h : List.Forall₂ Continues t.tokens records) :
    Grows t { t with tokens := records } := by
  refine ⟨List.prefix_rfl, fun i r hr => ?_⟩
  obtain ⟨hi, rfl⟩ := List.getElem?_eq_some_iff.mp hr
  have hi' : i < records.length := h.length_eq ▸ hi
  exact ⟨records[i], List.getElem?_eq_getElem hi', h.get hi hi'⟩

theorem InOrder.revise {drawn : List Uuid} (ht : t.InOrder drawn)
    (h : List.Forall₂ Continues t.tokens records) : InOrder drawn { t with tokens := records } where
  apart := ht.apart
  users := ht.users
  records := by
    intro r' hr'
    obtain ⟨i, hi', rfl⟩ := List.getElem_of_mem hr'
    have hi : i < t.tokens.length := h.length_eq ▸ hi'
    have hc : t.tokens[i].Continues records[i] := h.get hi hi'
    rw [hc.id, hc.tokenHash, hc.userId]
    exact ht.records _ (List.getElem_mem hi)

end Revision

/-- Whatever token is revoked, the record that it is looked up by is revoked then. -/
theorem isRevoked_of_revokeToken {t : Tables} {now : Int} {token : String} {r : RefreshToken}
    (h : (t.revokeToken now token).2.record? token = some r) : r.isRevoked = true := by
  unfold record? revokeToken at h
  simp only at h
  generalize t.tokens = records at h
  induction records with
  | nil => cases h
  | cons record rest ih =>
    unfold revokeFirst at h
    by_cases hfor : record.isFor token = true
    · -- The first that matches may be revoked already. Then it is not this call that revokes it.
      by_cases hrevoked : record.isRevoked = true
      · simp only [hfor, hrevoked, Bool.not_true, Bool.and_false, Bool.false_eq_true, if_false,
          List.find?_cons_of_pos, Option.some.injEq] at h
        rwa [← h]
      · have hhead : (record.revoke now).isFor token = true := hfor
        simp only [hfor, hrevoked, Bool.not_false, Bool.and_true, if_true, hhead,
          List.find?_cons_of_pos, Option.some.injEq] at h
        rw [← h]
        rfl
    · simp only [hfor, Bool.false_and, Bool.false_eq_true, if_false] at h
      rw [List.find?_cons_of_neg (by simpa using hfor)] at h
      exact ih h

theorem record?_of_any {t : Tables} {token : String}
    (h : t.tokens.any (isLive (·.isFor token)) = true) : ∃ r, t.record? token = some r := by
  obtain ⟨r, hr, hlive⟩ := List.any_eq_true.mp h
  rw [isLive, Bool.and_eq_true] at hlive
  refine Option.isSome_iff_exists.mp (List.find?_isSome.mpr ⟨r, hr, hlive.1⟩)

theorem isRevoked_of_revokeUserTokens {t : Tables} {now : Int} {userId : Uuid} {r : RefreshToken}
    (h : r ∈ (t.revokeUserTokens now userId).2.tokens) (howner : r.userId = userId) :
    r.isRevoked = true := by
  obtain ⟨record, -, hrecord⟩ := List.mem_map.mp h
  by_cases hlive : isLive (·.userId == userId) record = true
  · rw [if_pos hlive] at hrecord
    rw [← hrecord]
    rfl
  · rw [if_neg hlive] at hrecord
    obtain rfl := hrecord
    simpa [isLive, howner] using hlive

end Tables

end Service

end SignIn
