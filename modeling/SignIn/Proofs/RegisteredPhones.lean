import SignIn.Proofs.SchemaRows
import SignIn.Proofs.UniqueIndexes

/-!
# Registered phones

A user who registers without an email brings both parts of a phone. Beside an email, one part is let
through alone. A whole phone leads to its user and to nobody else, and nobody else can be stored
with it. A number without a country code leads to nobody, and no index covers it.
-/
namespace SignIn

/-- One part of a phone is there, and the other one is not. -/
def RegisterRequest.HasHalfPhone (r : RegisterRequest) : Prop :=
  (nonEmpty r.countryCode).isSome ≠ (nonEmpty r.phoneNumber).isSome

theorem RegisterRequest.Accepted.email_of_half {r : RegisterRequest} (h : r.Accepted)
    (hhalf : r.HasHalfPhone) : (nonEmpty r.email).isSome = true := by
  have hcontact := h.contact
  unfold hasContact at hcontact
  unfold HasHalfPhone at hhalf
  rcases Bool.eq_false_or_eq_true (nonEmpty r.email).isSome with hemail | hemail
  · exact hemail
  · simp only [hemail, Bool.false_or, Bool.and_eq_true] at hcontact
    exact absurd (hcontact.1.trans hcontact.2.symm) hhalf

namespace Sql

theorem Param.same_ofText? {s : Option String} {p : Param} :
    (Param.ofText? s).same p = true ↔ ∃ text, s = some text ∧ p = .text text := by
  cases s with
  | none => cases p <;> simp [ofText?, same]
  | some text => simp [ofText?, same_comm (.text text), same_text]

namespace Schema

def phones : Index where
  name := "idx_users_phone"
  unique := true
  columns := ["country_code", "phone_number"]
  condition := some (.present "phone_number")

theorem mem_phones : phones ∈ users.keys := by decide

end Schema

namespace Users

variable {u : User} {code number : String} {db : Database} {time : Int} {fresh : Uuid}
  {scope : Scope}

/-- Every conflict that the table reports is one of a user who is there already. -/
theorem ofStorage_violation {i : Index} (hi : i ∈ Schema.users.keys) :
    IdentityError.ofStorage i.violation = .userAlreadyExists := by
  have hname : i.name ∈ StorageError.userIndexes := by
    rw [← Schema.uniqueIndexes_users, ← Table.map_name_keys]
    exact List.mem_map_of_mem hi
  simp [IdentityError.ofStorage, StorageError.isUserConflict, Index.violation, hname]

theorem run_create_free (hfree : Schema.users.clashing? (db table) (stored u) = none) :
    Dialogue.run (Database.strict time fresh) (create scope u) db =
      (.ok (), Function.update db table (db table ++ [stored u])) :=
  Database.run_insertion_free mem_users hfree

theorem run_create_taken {i : Index}
    (htaken : Schema.users.clashing? (db table) (stored u) = some i) :
    Dialogue.run (Database.strict time fresh) (create scope u) db =
      (.failed .userAlreadyExists, db) := by
  rw [← ofStorage_violation (List.mem_of_find?_eq_some htaken)]
  exact Database.run_insertion_taken mem_users htaken

theorem apart_create (h : Schema.users.Apart (db table)) : Schema.users.Apart
    ((Dialogue.run (Database.strict time fresh) (create scope u) db).2 table) := by
  cases hfound : Schema.users.clashing? (db table) (stored u) with
  | some i => rwa [run_create_taken hfound]
  | none =>
    rw [run_create_free hfound]
    change Schema.users.Apart (Function.update db table (db table ++ [stored u]) table)
    rw [Function.update_self]
    exact h.append hfound

/-! ## Whole phones and half phones -/

/-- The index of phones covers a user with both parts of a phone, and no other one. -/
theorem clash_phones {row : Values} : Schema.phones.clash (stored u) row = true ↔
    ∃ code number, u.countryCode = some code ∧ u.phoneNumber = some number ∧
      row "country_code" = .text code ∧ row "phone_number" = .text number := by
  have hcode : stored u "country_code" = .ofText? u.countryCode := (keeps_stored u).countryCode
  have hnumber : stored u "phone_number" = .ofText? u.phoneNumber := (keeps_stored u).phoneNumber
  have hcovers {x : Values} : Schema.phones.covers x = true ↔ x "phone_number" ≠ .null := by
    simp [Index.covers_iff, Schema.phones, Condition.Holds]
  have hcolumns : (∀ column ∈ Schema.phones.columns, (stored u column).same (row column) = true) ↔
      (stored u "country_code").same (row "country_code") = true ∧
        (stored u "phone_number").same (row "phone_number") = true := by
    simp [Schema.phones]
  rw [Index.clash_iff, hcovers, hcovers, hcolumns, hcode, hnumber, Param.same_ofText?,
    Param.same_ofText?]
  constructor
  · rintro ⟨-, ⟨code, hu, hrow⟩, number, hu', hrow'⟩
    exact ⟨code, number, hu, hu', hrow, hrow'⟩
  · rintro ⟨code, number, hu, hu', hrow, hrow'⟩
    refine ⟨?_, ⟨code, hu, hrow⟩, number, hu', hrow'⟩
    rw [hu', hrow']
    exact ⟨fun h => (by cases h), fun h => (by cases h)⟩

theorem first_cells (n : Nat) (users : List User) :
    first ⟨n, (users.map stored).map (Schema.users.cells columns)⟩ = .ok users.head? := by
  cases users with
  | nil => rfl
  | cons u rest =>
    simp only [first, List.map_cons, ofRow_cells (keeps_stored u), Except.map, List.head?_cons]

/-- A select of phones finds the first user who has both parts. -/
theorem run_findByPhone {users : List User} (hdb : db table = users.map stored) :
    Dialogue.run (Database.strict time fresh) (findByPhone scope code number) db =
      (.ok (users.find? fun u => u.countryCode == some code && u.phoneNumber == some number),
        db) := by
  have htext {s : Option String} {text : String} :
      Param.ofText? s = .text text ↔ s = some text := by
    cases s <;> simp [Param.ofText?]
  have hwanted (u : User) : meets [⟨"country_code", .param 1⟩, ⟨"phone_number", .param 2⟩]
      [.text code, .text number] (stored u) =
      (u.countryCode == some code && u.phoneNumber == some number) := by
    rw [Bool.eq_iff_iff, meets_texts, (keeps_stored u).countryCode, (keeps_stored u).phoneNumber,
      htext, htext]
    simp
  obtain ⟨n, hsent⟩ := Database.run_strict_select mem_users hdb hwanted
  refine Attempt.run_mapError IdentityError.ofStorage (o := .ok _) ?_
  refine (Attempt.run_bind hsent).trans ?_
  rw [first_cells, List.head?_filter]
  rfl

/-- A user is found by the phone whenever no two rows of the table clash, and as long as the user is
stored nobody else can be stored with this phone. -/
structure OwnsPhone (u : User) (code number : String) : Prop where
  found : ∀ (time : Int) (fresh : Uuid) (scope : Scope) (db : Database),
    Schema.users.Apart (db table) → stored u ∈ db table →
    Dialogue.run (Database.strict time fresh) (findByPhone scope code number) db =
      (.ok (some u), db)
  alone : ∀ (time : Int) (fresh : Uuid) (scope : Scope) (db : Database) (other : User),
    stored u ∈ db table → other.countryCode = some code → other.phoneNumber = some number →
    Dialogue.run (Database.strict time fresh) (create scope other) db =
      (.failed .userAlreadyExists, db)

/-- No select of phones finds the user, and the index of phones never clashes for the user. -/
structure LosesPhone (u : User) : Prop where
  unfound : ∀ (time : Int) (fresh : Uuid) (scope : Scope) (db : Database) (users : List User)
    (code number : String), db table = users.map stored →
    (Dialogue.run (Database.strict time fresh) (findByPhone scope code number) db).1 ≠ .ok (some u)
  uncovered : ∀ row, Schema.phones.clash (stored u) row = false

theorem onlyRow_of_apart (hcode : u.countryCode = some code) (hnumber : u.phoneNumber = some number)
    (hapart : Schema.users.Apart (db table)) (hmem : stored u ∈ db table) :
    OnlyRow (db table) (stored u)
      fun x => x "country_code" = .text code ∧ x "phone_number" = .text number := by
  obtain ⟨before, after, hrows⟩ := List.append_of_mem hmem
  refine ⟨before, after, hrows, ?_⟩
  rintro x hx ⟨hxcode, hxnumber⟩
  have hclash : Schema.phones.clash (stored u) x = true :=
    clash_phones.mpr ⟨code, number, hcode, hnumber, hxcode, hxnumber⟩
  rw [Table.Apart, hrows, List.pairwise_append, List.pairwise_cons] at hapart
  obtain ⟨-, ⟨hafter, -⟩, hbefore⟩ := hapart
  have hfree : Schema.phones.clash (stored u) x = false := by
    rcases List.mem_append.mp hx with hx | hx
    · rw [Index.clash_comm]
      exact hbefore x hx (stored u) List.mem_cons_self Schema.phones Schema.mem_phones
    · exact hafter x hx Schema.phones Schema.mem_phones
  exact Bool.noConfusion (hclash.symm.trans hfree)

theorem ownsPhone (hcode : u.countryCode = some code) (hnumber : u.phoneNumber = some number) :
    OwnsPhone u code number where
  found time fresh scope db hapart hmem := by
    have honly := onlyRow_of_apart hcode hnumber hapart hmem
    rw [← (readsBack u).byPhone time fresh scope db code number hcode hnumber honly]
    cases scope <;> rfl
  alone time fresh scope db other hmem hcode' hnumber' := by
    have hrow : stored u "country_code" = .text code ∧ stored u "phone_number" = .text number := by
      rw [(keeps_stored u).countryCode, (keeps_stored u).phoneNumber, hcode, hnumber]
      exact ⟨rfl, rfl⟩
    have hclash : Schema.phones.clash (stored other) (stored u) = true :=
      clash_phones.mpr ⟨code, number, hcode', hnumber', hrow⟩
    obtain ⟨i, -, htaken⟩ := Table.exists_clashing? Schema.mem_phones hmem hclash
    exact run_create_taken htaken

theorem losesPhone (hcode : u.countryCode = none) : LosesPhone u where
  unfound time fresh scope db users code number hdb := by
    rw [run_findByPhone hdb]
    intro hfound
    have hphone := List.find?_some (Outcome.ok.inj hfound)
    rw [hcode] at hphone
    cases hphone
  uncovered row := by
    refine Bool.eq_false_iff.mpr fun hclash => ?_
    obtain ⟨code, -, hsome, -⟩ := clash_phones.mp hclash
    rw [hcode] at hsome
    cases hsome

end Users

end Sql

open Sql.Users in
/-- The two parts of a phone are both there or both absent, unless an email comes with one of them.
The table stays free of clashes when the user is stored. A phone with both parts belongs to the
user there, and a number without a country code is lost. -/
theorem User.phone_of_register {r : RegisterRequest} {salt : Salt} {id : Uuid} {now : Int}
    {u : User} (h : register r salt id now = .ok u) :
    (u.countryCode.isSome = u.phoneNumber.isSome ↔ ¬r.HasHalfPhone) ∧
    (r.HasHalfPhone → u.email.isSome = true) ∧
    (∀ time fresh scope db, Sql.Schema.users.Apart (db table) → Sql.Schema.users.Apart
      ((Dialogue.run (Sql.Database.strict time fresh) (create scope u) db).2 table)) ∧
    ∀ number, u.phoneNumber = some number →
      (¬r.HasHalfPhone → ∃ code, u.countryCode = some code ∧ OwnsPhone u code number) ∧
      (r.HasHalfPhone → LosesPhone u) := by
  obtain ⟨hvalid, rfl⟩ := of_register h
  have haccepted := RegisterRequest.accepted_of_validate hvalid
  refine ⟨not_not.symm, haccepted.email_of_half, fun _ _ _ _ => apart_create,
    fun number hnumber => ⟨fun hwhole => ?_, fun hhalf => ?_⟩⟩
  · have hboth : (nonEmpty r.countryCode).isSome = (nonEmpty r.phoneNumber).isSome :=
      not_not.mp hwhole
    rw [show nonEmpty r.phoneNumber = some number from hnumber, Option.isSome_some,
      Option.isSome_iff_exists] at hboth
    obtain ⟨code, hcode⟩ := hboth
    exact ⟨code, hcode, ownsPhone hcode hnumber⟩
  · apply losesPhone
    unfold RegisterRequest.HasHalfPhone at hhalf
    rw [show nonEmpty r.phoneNumber = some number from hnumber, Option.isSome_some] at hhalf
    exact Option.not_isSome_iff_eq_none.mp hhalf

/-! ### Requests with a phone -/

def phoneRequest (email countryCode : Option String) : RegisterRequest :=
  ⟨"alice", "Passw0rd", email, countryCode, some "+14155552671"⟩

def phoneUser (email countryCode : Option String) : User :=
  ⟨⟨1⟩, email, countryCode, some "+14155552671", "alice",
    Password.hash "Passw0rd" (.replicate 16 0), 0, 0⟩

theorem register_wholePhone :
    User.register (phoneRequest none (some "US")) (.replicate 16 0) ⟨1⟩ 0 =
      .ok (phoneUser none (some "US")) := by
  have hpassword : Validation.password "Passw0rd" = .ok () := Service.Issuer.password_plain
  unfold User.register RegisterRequest.validate phoneRequest
  rw [hpassword]
  rfl

open Sql.Users in
theorem User.phone_of_register_whole :
    User.register (phoneRequest none (some "US")) (.replicate 16 0) ⟨1⟩ 0 =
      .ok (phoneUser none (some "US")) ∧
    ∃ code, (phoneUser none (some "US")).countryCode = some code ∧
      OwnsPhone (phoneUser none (some "US")) code "+14155552671" := by
  have hphone := (User.phone_of_register register_wholePhone).2.2.2 "+14155552671" rfl
  exact ⟨register_wholePhone, hphone.1 (not_not.mpr rfl)⟩

/-- Beside an email, a number without a country code is accepted and lost. -/
theorem User.exists_lost_phone :
    User.register (phoneRequest (some "a@b.cd") none) (.replicate 16 0) ⟨1⟩ 0 =
      .ok (phoneUser (some "a@b.cd") none) ∧
    (phoneUser (some "a@b.cd") none).countryCode = none ∧
    (phoneUser (some "a@b.cd") none).phoneNumber = some "+14155552671" ∧
    Sql.Users.LosesPhone (phoneUser (some "a@b.cd") none) := by
  have hpassword : Validation.password "Passw0rd" = .ok () := Service.Issuer.password_plain
  refine ⟨?_, rfl, rfl, Sql.Users.losesPhone rfl⟩
  unfold User.register RegisterRequest.validate phoneRequest
  rw [hpassword]
  rfl

end SignIn
