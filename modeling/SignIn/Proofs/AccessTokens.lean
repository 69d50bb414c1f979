import SignIn.Proofs.Sha256Rounds
import SignIn.Proofs.Signings

/-!
# Access tokens do not refresh

Access tokens and refresh tokens are made in one way and look alike. What tells them apart
is the store, in which there are digests of refresh tokens only. Tokens with different ids
have different texts, so no access token is found there.
-/
namespace SignIn.Service

/-! ## The digests in the store -/

/-- Every digest that is stored, for all to see or in the open transaction, is of a kind. -/
structure Store.Digests (P : String → Prop) (s : Store) : Prop where
  shared : ∀ record ∈ s.shared.tokens, P record.tokenHash
  copy : ∀ t, s.copy = some t → ∀ record ∈ t.tokens, P record.tokenHash

/-- A record that a call brings along has such a digest. -/
def Call.Brings (P : String → Prop) : Call → Prop
  | .insertToken _ record => P record.tokenHash
  | _ => True

section Digests

variable {P P' : String → Prop} {s : Store} {c : Call}

theorem Store.Digests.mono (h : s.Digests P) (hP : ∀ hash, P hash → P' hash) : s.Digests P' :=
  ⟨fun record hr => hP _ (h.shared record hr), fun t ht record hr => hP _ (h.copy t ht record hr)⟩

theorem Store.Digests.tables (h : s.Digests P) (scope : Scope) :
    ∀ record ∈ (s.tables scope).tokens, P record.tokenHash := by
  cases scope with
  | ambient => exact h.shared
  | transaction =>
    cases hcopy : s.copy with
    | none => simpa [Store.tables, hcopy] using h.shared
    | some t => simpa [Store.tables, hcopy] using h.copy t hcopy

theorem Store.Digests.setTables (h : s.Digests P) (scope : Scope) {t : Tables}
    (ht : ∀ record ∈ t.tokens, P record.tokenHash) : (s.setTables scope t).Digests P := by
  unfold Store.setTables
  split
  · refine ⟨h.shared, fun t' ht' => ?_⟩
    obtain rfl := Option.some.inj ht'
    exact ht
  · exact ⟨ht, h.copy⟩

theorem tokenHash_of_continues {records records' : List RefreshToken}
    (h : List.Forall₂ RefreshToken.Continues records records')
    (hP : ∀ record ∈ records, P record.tokenHash) : ∀ record ∈ records', P record.tokenHash := by
  induction h with
  | nil => simp
  | cons hfirst _ ih =>
    simp only [List.forall_mem_cons] at hP ⊢
    rw [hfirst.tokenHash]
    exact ⟨hP.1, ih hP.2⟩

theorem Store.Digests.act (h : s.Digests P) (hc : c.Brings P) (around : Store.Surroundings)
    (n : Nat) : (Store.act around n c s).2.Digests P := by
  cases c with
  | begin options =>
    refine ⟨h.shared, fun t ht => ?_⟩
    obtain rfl := Option.some.inj ht
    exact h.shared
  | commit => exact ⟨h.tables .transaction, nofun⟩
  | rollback | abandon => exact ⟨h.shared, nofun⟩
  | createUser scope user =>
    by_cases hconflict : (s.tables scope).users.any (Tables.conflict user) = true
    · simpa [Store.act, Tables.createUser, hconflict] using h
    · have hset : (s.setTables scope { s.tables scope with
          users := (s.tables scope).users ++ [user] }).Digests P :=
        h.setTables scope (h.tables scope)
      simpa [Store.act, Tables.createUser, hconflict] using hset
  | insertToken scope record =>
    refine h.setTables scope fun r hr => ?_
    simp only [Tables.insertToken, List.mem_append, List.mem_singleton] at hr
    rcases hr with hold | rfl
    · exact h.tables scope r hold
    · exact hc
  | revokeToken scope token =>
    exact h.setTables scope
      (tokenHash_of_continues (Tables.forall₂_revokeFirst ..) (h.tables scope))
  | revokeUserTokens scope userId =>
    exact h.setTables scope (tokenHash_of_continues (Tables.forall₂_revokeAll ..) (h.tables scope))
  | insertEvent scope event => exact h.setTables scope (h.tables scope)
  | _ => exact h

variable {faults : Prop} {m m' : Moment}

/-- Also a call that failed leaves only such digests. -/
theorem Responds.digests {answer : Answer c} (h : Responds faults c m answer m') (hc : c.Brings P)
    (hm : m.store.Digests P) : m'.store.Digests P := by
  cases h with
  | works around n _ hact =>
    have hdigests := hm.act hc around n
    rwa [hact] at hdigests
  | fails time _ _ _ hremains =>
    cases hremains with
    | nothing => exact hm
    | effect around n => exact hm.act hc around n
    | dropped => exact ⟨hm.shared, nofun⟩

/-- A piece of an operation that brings only such digests along leaves only such digests. -/
theorem digests_of_runs {α : Type} {Q : α → Prop} {a : Step α} {o : Outcome IdentityError α}
    (ha : a.Asks (Call.Brings P) Q) (hr : Dialogue.Runs (Responds faults) a m o m')
    (hm : m.store.Digests P) : m'.store.Digests P ∧ ∀ value, o = .ok value → Q value := by
  have step : ∀ (c : Call) (m : Moment) (answer : Answer c) (m' : Moment), c.Brings P →
      m.store.Digests P → Responds faults c m answer m' → m'.store.Digests P :=
    fun _ _ _ _ hc hm h => Responds.digests h hc hm
  exact ha.of_runs step hr hm

theorem Call.IsPlain.brings (h : c.IsPlain) : c.Brings P := by
  cases c <;> trivial

theorem Asked.brings {q : Request} {hand : Hand}
    (hP : ∀ t ∈ hand.refreshes, P (RefreshToken.hash t.text)) (h : Asked q hand c) :
    c.Brings P := by
  cases h with
  | plain h => exact h.brings
  | user => trivial
  | @token user access refresh id now expiresAt record hhand hmake =>
    obtain ⟨-, -, -, rfl⟩ := RefreshToken.make_eq_ok hmake
    subst hhand
    exact hP refresh (List.mem_singleton_self refresh)
  | event => trivial

end Digests

/-- The digest of one of the tokens. -/
def DigestOf (tickets : List Ticket) (hash : String) : Prop :=
  ∃ t ∈ tickets, RefreshToken.hash t.text = hash

/-! ## Histories with their tokens -/

/-- A moment, the tokens that were signed before it, and the access tokens that were returned. -/
structure Annals where
  moment : Moment := {}
  accesses : List Ticket := []
  refreshes : List Ticket := []
  returned : List String := []

namespace Annals

/-- The tokens of both kinds. -/
def issued (a : Annals) : List Ticket := a.accesses ++ a.refreshes

end Annals

namespace Issuer

variable (issuer : Issuer)

/-- The access tokens that a reply hands out, if there is a reply. -/
def returnedBy (q : Request) : Outcome IdentityError q.Reply → List String
  | .ok reply => q.handsOut reply
  | .failed _ | .panicked _ => []

/-- An operation is carried out, or time passes. -/
inductive Records (a : Annals) : Annals → Prop where
  | serves {q : Request} {hand : Hand} {o : Outcome IdentityError q.Reply} {m' : Moment} :
      issuer.Deals q a.moment hand o m' →
      Records a ⟨m', a.accesses ++ hand.accesses, a.refreshes ++ hand.refreshes,
        a.returned ++ returnedBy q o⟩
  | waits {time : Int} : a.moment.clock ≤ time →
      Records a { a with moment := { a.moment with clock := time } }

/-- Any operations, one after the other, with time between them. -/
abbrev Recounts : Annals → Annals → Prop := Relation.ReflTransGen issuer.Records

/-- Every history can be recounted with its tokens. -/
theorem exists_recounts {a : Annals} {m' : Moment} (h : issuer.Reaches a.moment m') :
    ∃ a', a'.moment = m' ∧ issuer.Recounts a a' := by
  induction h with
  | refl => exact ⟨a, rfl, .refl⟩
  | tail _ hnext ih =>
    obtain ⟨a₁, rfl, hrecounts⟩ := ih
    cases hnext with
    | serves q hcalls =>
      obtain ⟨hand, hdeals⟩ := calls_iff_deals.mp hcalls
      exact ⟨_, rfl, hrecounts.tail (.serves hdeals)⟩
    | waits htime => exact ⟨_, rfl, hrecounts.tail (.waits htime)⟩

/-- What holds of a history: its tokens have the ids that were drawn for them, access tokens that
were returned had been signed as such, and only digests of refresh tokens are stored. -/
structure Faithful (a : Annals) : Prop where
  genuine : ∀ t ∈ a.issued, issuer.Genuine t
  returned : ∀ token ∈ a.returned, ∃ t ∈ a.accesses, t.text = token
  stored : a.moment.store.Digests (DigestOf a.refreshes)

variable {issuer} {a a' : Annals}

theorem SignedFor.genuine {q : Request} {hand : Hand} (h : issuer.SignedFor q hand) :
    ∀ t ∈ hand.accesses ++ hand.refreshes, issuer.Genuine t := by
  cases h <;> simp_all [Hand.accesses, Hand.refreshes]

theorem asks_sign_brings {P : String → Prop} (q : Request) :
    (issuer.sign q).Asks (Call.Brings P) (issuer.SignedFor q) :=
  Attempt.Asks.mono (issuer.asks_sign q) (fun _ h => h.brings) fun _ h => h

/-- An operation that ends in its first part changes nothing that is recorded. -/
theorem Faithful.of_sign {q : Request} {o : Outcome IdentityError Hand} {m' : Moment}
    (ha : issuer.Faithful a) (h : Dialogue.Runs (Responds True) (issuer.sign q) a.moment o m') :
    issuer.Faithful { a with moment := m' } :=
  ⟨ha.genuine, ha.returned, (digests_of_runs (asks_sign_brings q) h ha.stored).1⟩

/-- What is stored by an operation goes with the tokens that it has in hand. -/
theorem Faithful.of_conclude {q : Request} {hand : Hand} {o : Outcome IdentityError q.Reply}
    {m' : Moment} (ha : issuer.Faithful a) (hsigned : issuer.SignedFor q hand)
    (h : Dialogue.Runs (Responds True) (issuer.conclude q hand) a.moment o m') :
    issuer.Faithful ⟨m', a.accesses ++ hand.accesses, a.refreshes ++ hand.refreshes,
      a.returned ++ returnedBy q o⟩ := by
  have hstored : a.moment.store.Digests (DigestOf (a.refreshes ++ hand.refreshes)) :=
    ha.stored.mono fun hash ⟨t, ht, hhash⟩ => ⟨t, List.mem_append_left _ ht, hhash⟩
  have hbrings : (issuer.conclude q hand).Asks
      (Call.Brings (DigestOf (a.refreshes ++ hand.refreshes)))
      fun reply => q.handsOut reply = hand.accesses.map Ticket.text :=
    Attempt.Asks.mono (issuer.asks_conclude hsigned)
      (fun _ => Asked.brings fun t ht => ⟨t, List.mem_append_right _ ht, rfl⟩) fun _ h => h
  obtain ⟨hdigests, hreply⟩ := digests_of_runs hbrings h hstored
  constructor
  case stored => exact hdigests
  case genuine =>
    intro t ht
    have hsort : t ∈ a.issued ∨ t ∈ hand.accesses ++ hand.refreshes := by
      simp only [Annals.issued, List.mem_append] at ht ⊢
      tauto
    rcases hsort with hold | hnew
    · exact ha.genuine t hold
    · exact hsigned.genuine t hnew
  case returned =>
    intro token htoken
    rcases List.mem_append.mp htoken with hold | hnew
    · obtain ⟨t, ht, htext⟩ := ha.returned token hold
      exact ⟨t, List.mem_append_left _ ht, htext⟩
    · cases o with
      | ok reply =>
        rw [returnedBy, hreply reply rfl] at hnew
        obtain ⟨t, ht, htext⟩ := List.mem_map.mp hnew
        exact ⟨t, List.mem_append_right _ ht, htext⟩
      | failed e => cases hnew
      | panicked p => cases hnew

/-- An operation is recorded with what it signs, stores and returns. -/
theorem Deals.faithful {q : Request} {hand : Hand} {o : Outcome IdentityError q.Reply} {m' : Moment}
    (h : issuer.Deals q a.moment hand o m') (ha : issuer.Faithful a) :
    issuer.Faithful ⟨m', a.accesses ++ hand.accesses, a.refreshes ++ hand.refreshes,
      a.returned ++ returnedBy q o⟩ := by
  cases h with
  | concludes hsign hconclude =>
    have hsigned := (digests_of_runs (asks_sign_brings q) hsign ha.stored).2 hand rfl
    exact (ha.of_sign hsign).of_conclude hsigned hconclude
  | fails hsign => simpa [Hand.accesses, Hand.refreshes, returnedBy] using ha.of_sign hsign
  | panics hsign => simpa [Hand.accesses, Hand.refreshes, returnedBy] using ha.of_sign hsign

theorem faithful_empty (start : Int) : issuer.Faithful { moment := { clock := start } } := by
  constructor
  · simp [Annals.issued]
  · simp
  · exact ⟨by simp, by simp⟩

theorem Recounts.faithful (h : issuer.Recounts a a') (ha : issuer.Faithful a) :
    issuer.Faithful a' := by
  induction h with
  | refl => exact ha
  | tail _ hrecords ih =>
    cases hrecords with
    | serves hdeals => exact hdeals.faithful ih
    | waits => exact ⟨ih.genuine, ih.returned, ih.stored⟩

/-! ## What becomes of an access token -/

/-- Tokens with different ids have different texts. -/
theorem Genuine.id_eq {key : SigningKey} (hmaker : issuer.maker = .ofKey key) {s t : Ticket}
    (hs : issuer.Genuine s) (ht : issuer.Genuine t) (htext : s.text = t.text) : s.id = t.id := by
  obtain ⟨now, userId, username, hs⟩ := hs
  obtain ⟨now', userId', username', ht⟩ := ht
  rw [hmaker] at hs ht
  have hissue := (Except.ok.inj hs).trans (htext.trans (Except.ok.inj ht).symm)
  exact SignedToken.id_of_issue_eq hissue

theorem Genuine.text_ne_empty {key : SigningKey} (hmaker : issuer.maker = .ofKey key) {t : Ticket}
    (ht : issuer.Genuine t) : t.text ≠ "" := by
  obtain ⟨now, userId, username, ht⟩ := ht
  rw [hmaker] at ht
  rw [← Except.ok.inj ht]
  exact SignedToken.issue_ne_empty _ _

/-- No two of the tokens have one digest, unless they have one text. -/
def NoCollision (tickets : List Ticket) : Prop :=
  ∀ s ∈ tickets, ∀ t ∈ tickets,
    RefreshToken.hash s.text = RefreshToken.hash t.text → s.text = t.text

/-- The digest of an access token is not in the store. -/
theorem Faithful.record?_eq_none {key : SigningKey} (hmaker : issuer.maker = .ofKey key)
    (ha : issuer.Faithful a) (hids : (a.issued.map Ticket.id).Nodup) (hhash : NoCollision a.issued)
    {t : Ticket} (ht : t ∈ a.accesses) : a.moment.store.shared.record? t.text = none := by
  rw [Tables.record?_eq_none_iff]
  intro record hrecord heq
  obtain ⟨t', ht', hstored⟩ := ha.stored.shared record hrecord
  have hmem : t ∈ a.issued := List.mem_append_left _ ht
  have hmem' : t' ∈ a.issued := List.mem_append_right _ ht'
  have htext : t'.text = t.text := hhash t' hmem' t hmem (hstored.trans heq)
  have hid : t'.id = t.id := (ha.genuine t' hmem').id_eq hmaker (ha.genuine t hmem) htext
  rw [Annals.issued, List.map_append, List.nodup_append] at hids
  exact hids.2.2 t.id (List.mem_map_of_mem ht) t'.id (List.mem_map_of_mem ht') hid.symm

end Issuer

/-- The end of an operation that has found no token and left the store as it was. The store may have
failed instead. -/
structure NotFound {α : Type} (faults : Prop) (m : Moment) (o : Outcome IdentityError α)
    (m' : Moment) : Prop where
  store : m'.store = m.store
  outcome : o = .failed .tokenNotFound ∨ faults ∧ ∃ e, o = .failed (.ofStorage e)

/-- An operation comes to an end, and whenever it does, it has found no token. -/
def FindsNone {α : Type} (faults : Prop) (a : Step α) (m : Moment) : Prop :=
  (∃ o m', Dialogue.Runs (Responds faults) a m o m') ∧
    ∀ o m', Dialogue.Runs (Responds faults) a m o m' → NotFound faults m o m'

theorem findsNone_of_secures {α : Type} {faults : Prop} {a : Step α} {m : Moment}
    (h : a.Secures (Responds faults) (Terms.alone Call Moment) (NotFound faults m) m) :
    FindsNone faults a m :=
  ⟨⟨_, _, runs_reply faults a m⟩, fun _ _ hr => h.of_runs hr⟩

theorem Tables.revokeFirst_of_forall {now : Int} {wanted : RefreshToken → Bool}
    {records : List RefreshToken} (h : ∀ record ∈ records, wanted record = false) :
    revokeFirst now wanted records = records := by
  induction records with
  | nil => rfl
  | cons record rest ih =>
    simp only [List.forall_mem_cons] at h
    simp [revokeFirst, h.1, ih h.2]

section Unknown

variable {issuer : Issuer} {faults : Prop} {m m' : Moment} {token : String}

theorem findsNone_refresh (hblank : token ≠ "") (hnone : m.store.shared.record? token = none) :
    FindsNone faults (issuer.refresh token) m := by
  apply findsNone_of_secures
  refine Attempt.Secures.mono (issuer.secures_refresh token) fun o m' ⟨hstill, hend⟩ => ?_
  refine ⟨hstill.store.symm, ?_⟩
  cases hend with
  | fault e hfaults => exact .inr ⟨hfaults, e, rfl⟩
  | blank hempty => exact (hblank hempty).elim
  | unknown => exact .inl rfl
  | refused _ hrecord => simp [hnone] at hrecord
  | orphan hrecord => simp [hnone] at hrecord
  | issues _ hrecord => simp [hnone] at hrecord

/-- Without a record of the token there is nothing to revoke. -/
theorem act_revokeToken (hnone : m.store.shared.record? token = none) (around : Store.Surroundings)
    (n : Nat) :
    Store.act around n (.revokeToken .ambient token) m.store = (.ok false, m.store) := by
  have hother : ∀ record ∈ m.store.shared.tokens, record.isFor token = false := by
    simpa [Tables.record?] using hnone
  have hany : m.store.shared.tokens.any (Tables.isLive (·.isFor token)) = false := by
    simp only [List.any_eq_false, Tables.isLive]
    intro record hrecord
    simp [hother record hrecord]
  simp [Store.act, Store.tables, Store.setTables, Tables.revokeToken, hany,
    Tables.revokeFirst_of_forall hother]

theorem Responds.of_revokeToken (hnone : m.store.shared.record? token = none)
    {answer : Answer (.revokeToken .ambient token)}
    (h : Responds faults (.revokeToken .ambient token) m answer m') :
    m'.store = m.store ∧ (answer = .ok false ∨ faults ∧ ∃ e, answer = .error (.ofStorage e)) := by
  cases h with
  | works around n _ hact =>
    rw [act_revokeToken hnone] at hact
    cases hact
    exact ⟨rfl, .inl rfl⟩
  | fails time hfaults _ hreports hremains =>
    refine ⟨?_, .inr ⟨hfaults, hreports⟩⟩
    cases hremains with
    | nothing => rfl
    | effect around n => rw [act_revokeToken hnone]
    | dropped hcommit => cases hcommit

theorem findsNone_revoke (hblank : token ≠ "") (hnone : m.store.shared.record? token = none) :
    FindsNone faults (revoke token) m := by
  apply findsNone_of_secures
  unfold revoke
  rw [if_neg hblank]
  refine (Attempt.secures_bind ..).mpr ((Attempt.secures_call ..).mpr ?_)
  rintro _ rfl
  refine ⟨trivial, fun answer m₁ h => ?_⟩
  obtain ⟨hstore, rfl | ⟨hfaults, e, rfl⟩⟩ := h.of_revokeToken hnone
  · -- Nothing was revoked, so the record is looked for once more.
    refine secures_looked (secures_tokenRecord token) (fun m₂ e hfaults hstill => ?_)
      fun m₂ hstill => ?_
    · exact ⟨hstill.store.symm.trans hstore, .inr ⟨hfaults, e, rfl⟩⟩
    · rw [Tables.tokenRecord_eq, hstore, hnone]
      exact ⟨hstill.store.symm.trans hstore, .inl rfl⟩
  · exact ⟨hstore, .inr ⟨hfaults, e, rfl⟩⟩

end Unknown

namespace Issuer

variable {issuer : Issuer} {key : SigningKey} {start : Int} {a : Annals}

/-- In every history from an empty store, with distinct ids of the tokens and no two of their texts
with one digest: an access token that was returned at any time can neither be used to refresh nor be
revoked. It is not found, and the store stays as it is. -/
theorem access_tokens_not_found (hmaker : issuer.maker = .ofKey key)
    (h : issuer.Recounts { moment := { clock := start } } a) (hids : (a.issued.map Ticket.id).Nodup)
    (hhash : NoCollision a.issued) {token : String} (htoken : token ∈ a.returned) (faults : Prop) :
    FindsNone faults (issuer.refresh token) a.moment ∧
      FindsNone faults (revoke token) a.moment := by
  have hfaithful : issuer.Faithful a := h.faithful (faithful_empty start)
  obtain ⟨t, ht, rfl⟩ := hfaithful.returned token htoken
  have hnone := hfaithful.record?_eq_none hmaker hids hhash ht
  have hblank := (hfaithful.genuine t (List.mem_append_left _ ht)).text_ne_empty hmaker
  exact ⟨findsNone_refresh hblank hnone, findsNone_revoke hblank hnone⟩

/-! ### A registration -/

def accessTicket : Ticket := ⟨⟨2⟩, keyedToken ⟨2⟩⟩

def refreshTicket : Ticket := ⟨⟨3⟩, keyedToken ⟨3⟩⟩

theorem deals_register : keyedIssuer.Deals (.register plainRequest) {}
    (.pair plainUser accessTicket refreshTicket) (.ok keyedResponse) booked := by
  have hsign : Dialogue.run Moment.reply (keyedIssuer.sign (.register plainRequest)) {} =
      (.ok (.pair plainUser accessTicket refreshTicket), ⟨{}, 0, [⟨1⟩, ⟨2⟩, ⟨3⟩]⟩) :=
    (Attempt.run_bind run_newUser_plain).trans rfl
  have hconclude : Dialogue.run Moment.reply (keyedIssuer.conclude (.register plainRequest)
      (.pair plainUser accessTicket refreshTicket)) ⟨{}, 0, [⟨1⟩, ⟨2⟩, ⟨3⟩]⟩ =
      (.ok keyedResponse, booked) :=
    (Attempt.run_bind run_expiry_plain).trans (Attempt.run_bind run_storing_plain)
  have hfirst := runs_reply True (keyedIssuer.sign (.register plainRequest)) {}
  have hsecond := runs_reply True (keyedIssuer.conclude (.register plainRequest)
    (.pair plainUser accessTicket refreshTicket)) ⟨{}, 0, [⟨1⟩, ⟨2⟩, ⟨3⟩]⟩
  rw [hsign] at hfirst
  rw [hconclude] at hsecond
  exact .concludes hfirst hsecond

def bookedAnnals : Annals := ⟨booked, [accessTicket], [refreshTicket], [keyedToken ⟨2⟩]⟩

theorem hash_keyedToken_ne :
    RefreshToken.hash (keyedToken ⟨2⟩) ≠ RefreshToken.hash (keyedToken ⟨3⟩) := by
  -- Evaluated as it is defined, the schedule takes several times as long.
  simp only [RefreshToken.hash, Sha256.hex, keyedToken, IssuedToken.make, SignedToken.issue,
    SignedToken.issueChars, SignedToken.signature, Hmac.sha256, Sha256.digest_eq_mixed]
  decide +kernel

theorem noCollision_booked : NoCollision bookedAnnals.issued := by
  intro s hs t ht hhash
  simp only [bookedAnnals, Annals.issued, List.cons_append, List.nil_append, List.mem_cons,
    List.not_mem_nil, or_false] at hs ht
  rcases hs with rfl | rfl <;> rcases ht with rfl | rfl
  · rfl
  · exact (hash_keyedToken_ne hhash).elim
  · exact (hash_keyedToken_ne hhash.symm).elim
  · rfl

/-- The access token of a registration. -/
theorem access_tokens_not_found_booked :
    (keyedIssuer.maker = .ofKey plainKey ∧ (bookedAnnals.issued.map Ticket.id).Nodup ∧
      NoCollision bookedAnnals.issued ∧ keyedToken ⟨2⟩ ∈ bookedAnnals.returned) ∧
    FindsNone False (keyedIssuer.refresh (keyedToken ⟨2⟩)) booked ∧
      FindsNone False (revoke (keyedToken ⟨2⟩)) booked := by
  have hrecords := Records.serves (a := { moment := { clock := 0 } }) deals_register
  have hids : (bookedAnnals.issued.map Ticket.id).Nodup := by decide
  have htoken : keyedToken ⟨2⟩ ∈ bookedAnnals.returned := List.mem_singleton_self _
  exact ⟨⟨rfl, hids, noCollision_booked, htoken⟩,
    access_tokens_not_found rfl (.single hrecords) hids noCollision_booked htoken False⟩

end Issuer

end SignIn.Service
