import SignIn.Proofs.Repositories
import SignIn.Proofs.Rows
import SignIn.Proofs.SchemaMeaning
import SignIn.Proofs.Signings

/-!
# Rows within the limits of the schema

The limits of the validators, some of them counted in bytes, are within the widths of the
columns, which are counted in characters. So no row that the service writes is refused
for what it holds.
-/
namespace SignIn

open Sql

/-! ## What is built fits -/

theorem Text.length_le_utf8ByteSize (s : String) : s.length ≤ s.utf8ByteSize := by
  have hlen (cs : List Char) : cs.length ≤ (String.ofList cs).utf8ByteSize := by
    induction cs with
    | nil => simp
    | cons c cs ih =>
      have hsize := c.utf8Size_pos
      simp only [List.length_cons, String.ofList_cons, String.utf8ByteSize_append,
        String.utf8ByteSize_singleton]
      omega
  simpa [String.length_toList] using hlen s.toList

namespace Validation

theorem length_of_email {s : String} (h : email s = .ok ()) : s.length ≤ 254 := by
  have hsize := of_require (of_bind h).1
  have := Text.length_le_utf8ByteSize s
  simp only [Bool.and_eq_true, decide_eq_true_eq] at hsize
  omega

theorem length_of_countryCode {s : String} (h : countryCode s = .ok ()) : s.length ≤ 2 := by
  have hsize := of_require h
  have := Text.length_le_utf8ByteSize s
  simp only [Bool.and_eq_true, beq_iff_eq] at hsize
  omega

theorem length_of_phoneNumber {s : String} (h : phoneNumber s = .ok ()) : s.length ≤ 15 := by
  have hsize := of_require h
  have := Text.length_le_utf8ByteSize s
  simp only [Bool.and_eq_true, decide_eq_true_eq] at hsize
  omega

theorem length_of_username {s : String} (h : username s = .ok ()) : s.length ≤ 30 := by
  have hsize := of_require (of_bind h).1
  simp only [Bool.and_eq_true, decide_eq_true_eq, String.length_toList] at hsize
  omega

end Validation

namespace RegisterRequest

theorem nonEmpty_eq_some {part : Option String} {s : String} (h : nonEmpty part = some s) :
    part = some s ∧ s ≠ "" := by
  simpa [nonEmpty, Option.filter_eq_some_iff] using h

/-- An optional part that is kept is not empty, and it has been checked. -/
theorem of_checkPart {part : Option String} {check : String → Except IdentityError Unit}
    {s : String} (h : checkPart part check = .ok ()) (hs : nonEmpty part = some s) :
    s ≠ "" ∧ check s = .ok () := by
  rw [checkPart, hs] at h
  exact ⟨(nonEmpty_eq_some hs).2, h⟩

end RegisterRequest

open RegisterRequest Validation in
theorem User.MadeFor.fits {u : User} {r : RegisterRequest} (h : u.MadeFor r) : u.Fits := by
  obtain ⟨salt, id, now, h⟩ := h
  obtain ⟨hvalid, rfl⟩ := User.of_register h
  have haccepted := accepted_of_validate hvalid
  constructor
  case email =>
    intro s hs
    have hpart := of_checkPart haccepted.email hs
    exact ⟨hpart.1, length_of_email hpart.2⟩
  case countryCode =>
    intro s hs
    have hpart := of_checkPart haccepted.countryCode hs
    exact ⟨hpart.1, length_of_countryCode hpart.2⟩
  case phoneNumber =>
    intro s hs
    have hpart := of_checkPart haccepted.phoneNumber hs
    exact ⟨hpart.1, length_of_phoneNumber hpart.2⟩
  case username => exact length_of_username haccepted.username
  case contact => simpa [hasContact] using haccepted.contact

theorem Hex.isLower_of_mem_encode {bytes : Bytes} {c : Char} (hc : c ∈ Hex.encode bytes) :
    Hex.IsLower c := by
  have hall : ∀ v < 16, Hex.IsLower (Hex.digit v) := by
    unfold Hex.IsLower
    decide
  simp only [Hex.encode, List.mem_flatMap, Hex.pair, List.mem_cons, List.not_mem_nil,
    or_false] at hc
  obtain ⟨b, -, rfl | rfl⟩ := hc
  · have := b.toNat_lt
    exact hall _ (by omega)
  · exact hall _ (by omega)

theorem RefreshToken.fits_of_make {id userId : Uuid} {now expiresAt : Int} {token : String}
    {t : RefreshToken} (h : RefreshToken.make id now userId token expiresAt = .ok t) : t.Fits := by
  obtain ⟨-, -, hlater, rfl⟩ := RefreshToken.make_eq_ok h
  refine ⟨by simp [hash, Sha256.hex], fun c hc => ?_, hlater⟩
  exact Hex.isLower_of_mem_encode (by simpa [hash, Sha256.hex] using hc)

namespace OutboxEvent

theorem mem_statusWords (s : OutboxStatus) : .word s.text ∈ Schema.statusWords := by
  cases s <;> simp [Schema.statusWords]

/-- Changes of the other columns do not matter. -/
theorem Fits.of_name {e e' : OutboxEvent} (h : e.Fits) (hname : e'.name = e.name) : e'.Fits :=
  ⟨hname ▸ h.name, mem_statusWords e'.status⟩

theorem fits_login (id : Uuid) (now : Int) (payload : Json) :
    (OutboxEvent.make id now EventName.login.text payload).Fits :=
  ⟨(by decide : EventName.login.text.length ≤ 64), mem_statusWords _⟩

end OutboxEvent

/-! ## The service -/

namespace Service

/-- Whatever a call stores is within its limits. -/
def Call.Fits : Call → Prop
  | .createUser _ user => user.Fits
  | .insertToken _ record => record.Fits
  | .insertEvent _ event => event.Fits
  | _ => True

theorem Call.fits_of_isPlain {c : Call} (h : c.IsPlain) : c.Fits := by
  cases c <;> trivial

theorem Asked.fits {q : Request} {hand : Hand} {c : Call} (h : Asked q hand c) : c.Fits := by
  cases h with
  | plain h => exact Call.fits_of_isPlain h
  | user _ hmade => exact hmade.fits
  | token _ hmake => exact RefreshToken.fits_of_make hmake
  | event => exact OutboxEvent.fits_login ..

/-- Whatever is requested and whatever the environment answers, what is stored is within its
limits. -/
theorem Issuer.asks_serve (issuer : Issuer) (q : Request) :
    (issuer.serve q).Asks Call.Fits fun _ => True := by
  rw [issuer.serve_eq]
  refine Attempt.Asks.bind (Attempt.Asks.mono (issuer.asks_sign q)
    (fun _ => Call.fits_of_isPlain) fun _ h => h) fun hand h => ?_
  exact Attempt.Asks.mono (issuer.asks_conclude h) (fun _ => Asked.fits) fun _ _ => trivial

end Service

/-! ## The repositories -/

namespace Sql

/-- Only lawful statements are sent. -/
def Call.IsLawful : Call → Prop
  | .query _ statement => statement.IsLawful
  | _ => True

/-- What a request brings along to be stored is within its limits. -/
def Request.Fits : Request → Prop
  | .createUser u => u.Fits
  | .insertToken record => record.Fits
  | .insertEvent event => event.Fits
  | _ => True

section Repositories

variable {ε : Type} {scope : Scope}

theorem asks_now : (now : Attempt Call Answer ε Int).Asks Call.IsLawful fun _ => True :=
  Attempt.asks_hear trivial

theorem asks_connection (scope : Scope) : (connection scope).Asks Call.IsLawful fun _ => True := by
  cases scope with
  | ambient => exact Attempt.asks_call trivial
  | transaction => exact Attempt.asks_pure trivial

theorem asks_query {statement : Statement} (h : statement.IsLawful) :
    (query scope statement).Asks Call.IsLawful fun _ => True :=
  Attempt.asks_call h

theorem asks_send {statement : Statement} (h : statement.IsLawful) :
    (send scope statement).Asks Call.IsLawful fun _ => True :=
  Attempt.Asks.bind (asks_connection scope) fun _ _ => asks_query h

theorem asks_find (conditions : List Equation) (params : List Param) :
    (Users.find scope (Users.selectStatement conditions params)).Asks Call.IsLawful
      fun _ => True := by
  refine Attempt.Asks.mapError ?_ _
  refine Attempt.Asks.bind (asks_send Statement.isLawful_select) fun result _ => ?_
  exact Attempt.asks_ofExcept fun _ _ => trivial

theorem asks_insert {t : RefreshToken} (h : t.Fits) :
    (RefreshTokens.insert scope t).Asks Call.IsLawful fun _ => True := by
  refine Attempt.Asks.mapError ?_ _
  exact Attempt.Asks.bind (asks_send (isLawful_insertToken h)) fun _ _ => Attempt.asks_pure trivial

theorem asks_create (userId : Uuid) (token : String) (expiresAt : Int) :
    (RefreshTokens.create scope userId token expiresAt).Asks Call.IsLawful fun _ => True := by
  refine Attempt.Asks.bind (Attempt.asks_hear trivial) fun id _ => ?_
  refine Attempt.Asks.bind asks_now fun at1 _ => ?_
  refine Attempt.Asks.bind (Attempt.asks_ofExcept fun record h => h) fun record h => ?_
  exact Attempt.Asks.bind (asks_insert (RefreshToken.fits_of_make h)) fun _ _ =>
    Attempt.asks_pure trivial

theorem asks_getByToken (token : String) :
    (RefreshTokens.getByToken scope token).Asks Call.IsLawful fun _ => True := by
  refine Attempt.Asks.bind (Attempt.Asks.mapError (asks_send Statement.isLawful_select) _)
    fun result _ => ?_
  cases result.rows with
  | nil => exact Attempt.asks_fail _
  | cons row rest => exact Attempt.asks_ofExcept fun _ _ => trivial

theorem asks_revokeWhere (column : String) (value : Param) :
    (RefreshTokens.revokeWhere scope column value).Asks Call.IsLawful fun _ => True := by
  refine Attempt.Asks.mapError ?_ _
  refine Attempt.Asks.bind (asks_connection scope) fun _ _ => ?_
  refine Attempt.Asks.bind asks_now fun at1 _ => ?_
  refine Attempt.Asks.bind (asks_query (isLawful_revoke column value at1)) fun _ _ => ?_
  exact Attempt.asks_pure trivial

/-- A request writes only what the schema admits, if what it brings along is within its limits. -/
theorem asks_perform {q : Request} (h : q.Fits) :
    (q.perform scope).Asks Call.IsLawful fun _ => True := by
  cases q with
  | createUser u =>
    refine Attempt.Asks.mapError ?_ _
    exact Attempt.Asks.bind (asks_send (isLawful_insertUser h)) fun _ _ =>
      Attempt.asks_pure trivial
  | userById id => exact asks_find _ _
  | userByEmail address => exact asks_find _ _
  | userByPhone countryCode phoneNumber => exact asks_find _ _
  | insertToken record => exact asks_insert h
  | createToken userId token expiresAt => exact asks_create userId token expiresAt
  | tokenRecord token => exact asks_getByToken token
  | revokeToken token =>
    exact Attempt.Asks.bind (asks_revokeWhere _ _) fun _ _ => Attempt.asks_pure trivial
  | revokeUserTokens userId => exact asks_revokeWhere _ _
  | insertEvent event =>
    refine Attempt.Asks.bind (Attempt.Asks.mapError (asks_connection scope) _) fun _ _ => ?_
    exact Attempt.Asks.bind (Attempt.Asks.mapError (asks_query (isLawful_insertEvent h)) _)
      fun _ _ => Attempt.asks_pure trivial

theorem asks_markSuccess (id : Uuid) :
    (Outbox.markSuccess id).Asks Call.IsLawful fun _ => True := by
  refine Attempt.Asks.bind asks_now fun at1 _ => ?_
  exact Attempt.Asks.bind (Attempt.Asks.mapError (asks_send (isLawful_success id at1)) _)
    fun _ _ => Attempt.asks_pure trivial

theorem asks_markFailed (id : Uuid) (error : String) :
    (Outbox.markFailed id error).Asks Call.IsLawful fun _ => True := by
  refine Attempt.Asks.bind asks_now fun at1 _ => ?_
  exact Attempt.Asks.bind (Attempt.Asks.mapError (asks_send (isLawful_failed id error at1)) _)
    fun _ _ => Attempt.asks_pure trivial

theorem asks_recordFailure (id : Uuid) (error : String) (maxAttempts : Int) :
    (Outbox.recordFailure id error maxAttempts).Asks Call.IsLawful fun _ => True := by
  refine Attempt.Asks.bind asks_now fun at1 _ => ?_
  refine Attempt.Asks.bind (Attempt.Asks.mapError
    (asks_send (isLawful_attempt id error maxAttempts at1)) _) fun result _ => ?_
  cases result.rows with
  | nil => exact Attempt.asks_fail _
  | cons row rest =>
    refine Attempt.Asks.bind (Attempt.asks_ofExcept fun _ _ => trivial) fun status _ => ?_
    exact Attempt.asks_ofExcept fun _ _ => trivial

end Repositories

end Sql

/-! ## The table of events -/

namespace Outbox.Table

theorem fits_updatePending {id : Uuid} {change : OutboxEvent → OutboxEvent} {t : Table}
    (hchange : ∀ e, (change e).name = e.name) (h : ∀ e ∈ t, e.Fits) :
    ∀ e ∈ updatePending id change t, e.Fits := by
  intro e he
  rcases mem_updatePending he with hold | ⟨e₀, hmem, -, -, rfl⟩
  · exact h e hold
  · exact (h e₀ hmem).of_name (hchange e₀)

theorem fits_recordFailure {t : Table} (h : ∀ e ∈ t, e.Fits) (now : Int) (id : Uuid)
    (error : String) (maxAttempts : Int) :
    ∀ e ∈ (t.recordFailure now id error maxAttempts).2, e.Fits := by
  unfold recordFailure
  split
  · exact h
  · exact fits_updatePending (fun _ => rfl) h

end Outbox.Table

/-! ## What the service writes -/

open Dialogue in
/-- For every text in a request, and whatever the stores answer: users and records that are built
are within the limits of their columns, and so is all that an operation stores. What is within the
limits is inserted as a row that the schema admits, and every update keeps its row so. -/
theorem written_rows_admitted :
    (∀ {r salt id now u}, User.register r salt id now = .ok u → u.Fits) ∧
    (∀ {id now userId token expiresAt record},
      RefreshToken.make id now userId token expiresAt = .ok record → record.Fits) ∧
    (∀ (issuer : Service.Issuer) (q : Service.Request),
      AsksOnly Service.Call.Fits (issuer.serve q)) ∧
    (∀ (scope : Scope) (q : Sql.Request), q.Fits → AsksOnly Call.IsLawful (q.perform scope)) ∧
    (∀ (id : Uuid) (error : String) (maxAttempts : Int),
      AsksOnly Call.IsLawful (Outbox.markSuccess id) ∧
      AsksOnly Call.IsLawful (Outbox.markFailed id error) ∧
      AsksOnly Call.IsLawful (Outbox.recordFailure id error maxAttempts)) ∧
    ∀ t : Outbox.Table, (∀ e ∈ t, e.Fits) → ∀ now id error maxAttempts,
      (∀ e ∈ (t.markSuccess now id).2, e.Fits) ∧ (∀ e ∈ (t.markFailed now id error).2, e.Fits) ∧
      ∀ e ∈ (t.recordFailure now id error maxAttempts).2, e.Fits := by
  refine ⟨fun h => User.MadeFor.fits ⟨_, _, _, h⟩, fun h => RefreshToken.fits_of_make h,
    fun issuer q => (issuer.asks_serve q).asksOnly, fun scope q h => (asks_perform h).asksOnly,
    fun id error maxAttempts => ⟨(asks_markSuccess id).asksOnly,
      (asks_markFailed id error).asksOnly, (asks_recordFailure id error maxAttempts).asksOnly⟩, ?_⟩
  intro t h now id error maxAttempts
  refine ⟨?_, ?_, ?_⟩
  · exact Outbox.Table.fits_updatePending (fun _ => rfl) h
  · exact Outbox.Table.fits_updatePending (fun _ => rfl) h
  · exact Outbox.Table.fits_recordFailure h now id error maxAttempts

/-- A server to which every statement is right. -/
def plainServer : (call : Call) → Unit → Answer call × Unit
  | .now, _ => (0, ())
  | .freshId, _ => (⟨0⟩, ())
  | .acquire, _ => (.ok (), ())
  | .query .., _ => (.ok {}, ())

open Service.Issuer in
/-- A user and a record, and the statement by which the user is stored. -/
theorem written_rows_admitted_plain :
    plainUser.Fits ∧ (plainRecord ⟨4⟩).Fits ∧ (Users.insertStatement plainUser).IsLawful := by
  have huser : plainUser.Fits := written_rows_admitted.1 register_plain
  have hmade : RefreshToken.make ⟨4⟩ 0 plainUser.id "token" 3600000 = .ok (plainRecord ⟨4⟩) := rfl
  refine ⟨huser, written_rows_admitted.2.1 hmade, ?_⟩
  have hsent : .query .ambient (Users.insertStatement plainUser) ∈ Dialogue.questions plainServer
      (Request.perform .ambient (.createUser plainUser)) () := .tail _ (.head _)
  exact written_rows_admitted.2.2.2.1 .ambient (.createUser plainUser) huser plainServer () _ hsent

end SignIn
