import SignIn.Proofs.Histories
import SignIn.Proofs.Questions
import SignIn.Proofs.TokenSoundness

/-!
# The tokens that are signed on the way

An operation that hands out tokens falls in two parts: the first ends when its tokens have
been signed, and the second stores what has to be stored. Between the two stand the tokens
and the ids that were drawn for them, also if the operation fails later on.
-/
namespace SignIn

namespace Attempt

variable {Ask : Type} {Answer : Ask → Type} {ε : Type}

instance : LawfulMonad (Attempt Ask Answer ε) :=
  LawfulMonad.mk' _
    (fun a => by
      change Dialogue.andThen a _ = a
      refine Eq.trans (congrArg _ (funext fun o => ?_)) (Dialogue.andThen_done a)
      cases o <;> rfl)
    (fun _ _ => rfl)
    (fun a f g => by
      refine (Dialogue.andThen_assoc a _ _).trans (congrArg _ (funext fun o => ?_))
      cases o <;> rfl)

end Attempt

namespace SignedToken

/-- Tokens with one text have one id. -/
theorem id_of_issue_eq {key : SigningKey} {c c' : Claims} (h : issue key c = issue key c') :
    c.id = c'.id := by
  have hchars : issueChars key c = issueChars key c' := String.ofList_injective h
  simp only [issueChars, List.append_assoc, List.cons_append] at hchars
  obtain ⟨-, htail⟩ := append_dot_inj (dot_notMem_encodePart _) (dot_notMem_encodePart _) hchars
  obtain ⟨hpayload, -⟩ := append_dot_inj (dot_notMem_encodePart _) (dot_notMem_encodePart _) htail
  have hdraft : Json.Draft.ofJson c.toJson = Json.Draft.ofJson c'.toJson := by
    apply Option.some.inj
    rw [← decodePart?_encodePart, ← decodePart?_encodePart, hpayload]
  have hfields := congrArg (fun d => Json.Draft.fields? Claims.members d) hdraft
  simp only [Json.Draft.fields?_ofJson, Claims.fields?_members, Option.map_some, Option.some.injEq,
    Claims.fields, List.map_cons, List.cons.injEq, Json.Draft.ofMember, Prod.mk.injEq] at hfields
  have hid := congrArg (fun d => Json.Draft.json? 1 d) hfields.1.2
  rw [Json.Draft.json?_ofJson rfl, Json.Draft.json?_ofJson rfl] at hid
  exact Uuid.text_injective (Json.str.inj (Option.some.inj hid))

end SignedToken

namespace Service

/-- A token, and the id that was drawn for it. -/
structure Ticket where
  id : Uuid
  text : String
  deriving DecidableEq, Repr

/-- What an operation has in hand when its tokens have been signed. -/
inductive Hand where
  | pair (user : User) (access refresh : Ticket)
  | single (access : Ticket)
  | nothing

namespace Hand

def accesses : Hand → List Ticket
  | pair _ access _ | single access => [access]
  | nothing => []

def refreshes : Hand → List Ticket
  | pair _ _ refresh => [refresh]
  | single _ | nothing => []

end Hand

namespace Issuer

variable (issuer : Issuer)

/-- A signed token for a user, together with its id. -/
def draw (user : User) : Step Ticket := do
  let id ← ask .freshId
  let now ← ask .now
  let text ← .ofExcept ((issuer.maker.issue id (now / 1000) user.id.text user.username
    issuer.accessTtl).mapError IdentityError.ofToken)
  return ⟨id, text⟩

def drawPair (user : User) : Step Hand := do
  let access ← issuer.draw user
  let refresh ← issuer.draw user
  return .pair user access refresh

/-- The user whom a refresh token is for. -/
def holder (token : String) : Step User := do
  if token = "" then .fail .tokenRequired
  else do
    let record ← tokenRecord .ambient token
    let now ← ask .now
    .ofExcept (record.validate now)
    match ← userById .ambient record.userId with
    | none => .fail .userNotFound
    | some user => pure user

/-- The first part of an operation. -/
def sign : Request → Step Hand
  | .register r => do issuer.drawPair (← newUser r)
  | .login r => do
    .ofExcept r.validate
    issuer.drawPair (← authenticate r)
  | .refresh token => do return .single (← issuer.draw (← holder token))
  | .revoke _ | .revokeAll _ | .verify _ => return .nothing

/-- The second part of an operation. -/
def conclude : (q : Request) → Hand → Step q.Reply
  | .register _, .pair user access refresh => do
    let expiresAt ← issuer.refreshExpiry
    inTransaction do
      createUser .transaction user
      let _ ← createToken .transaction user.id refresh.text expiresAt
      return ()
    return ⟨user, access.text, refresh.text⟩
  | .login _, .pair user access refresh => do
    let expiresAt ← issuer.refreshExpiry
    let event ← loginEvent user
    inTransaction do
      let _ ← createToken .transaction user.id refresh.text expiresAt
      insertEvent .transaction event
    return ⟨user, access.text, refresh.text⟩
  | .refresh _, .single access => return access.text
  | q, _ => issuer.serve q

theorem issue_eq_draw (user : User) : issuer.issue user = do return (← issuer.draw user).text := by
  simp only [draw, issue, bind_assoc, pure_bind, bind_pure]

theorem serve_eq (q : Request) : issuer.serve q = issuer.sign q >>= issuer.conclude q := by
  cases q with
  | register r =>
    simp only [serve, register, sign, issuePair, issue_eq_draw, drawPair, conclude, bind_assoc,
      pure_bind]
  | login r =>
    simp only [serve, login, sign, issuePair, issue_eq_draw, drawPair, conclude, bind_assoc,
      pure_bind]
  | refresh token =>
    simp only [serve, refresh, sign, issue_eq_draw, holder, conclude, bind_assoc, pure_bind]
    split
    · rfl
    · simp only [bind_assoc]
      refine bind_congr fun record => bind_congr fun now => ?_
      refine bind_congr fun _ => bind_congr fun found => ?_
      cases found with
      | none => rfl
      | some user => rfl
  | revoke token => rfl
  | revokeAll userId => rfl
  | verify token => rfl

/-! ## Runs with their tokens -/

/-- A run of an operation, with what was in hand when it came to its second part. -/
inductive Deals (q : Request) (m : Moment) :
    Hand → Outcome IdentityError q.Reply → Moment → Prop where
  | concludes {hand : Hand} {m₁ m' : Moment} {o : Outcome IdentityError q.Reply} :
      Dialogue.Runs (Responds True) (issuer.sign q) m (.ok hand) m₁ →
      Dialogue.Runs (Responds True) (issuer.conclude q hand) m₁ o m' → Deals q m hand o m'
  | fails {e : IdentityError} {m' : Moment} :
      Dialogue.Runs (Responds True) (issuer.sign q) m (.failed e) m' →
      Deals q m .nothing (.failed e) m'
  | panics {p : Panic} {m' : Moment} :
      Dialogue.Runs (Responds True) (issuer.sign q) m (.panicked p) m' →
      Deals q m .nothing (.panicked p) m'

variable {issuer} in
/-- Every run of an operation has tokens in this sense, and there are no other ones. -/
theorem calls_iff_deals {q : Request} {m m' : Moment} {o : Outcome IdentityError q.Reply} :
    issuer.Calls q m o m' ↔ ∃ hand, issuer.Deals q m hand o m' := by
  unfold Calls
  rw [serve_eq, Attempt.runs_bind]
  constructor
  · rintro (⟨hand, m₁, hsign, hconclude⟩ | ⟨e, hsign, rfl⟩ | ⟨p, hsign, rfl⟩)
    · exact ⟨hand, .concludes hsign hconclude⟩
    · exact ⟨.nothing, .fails hsign⟩
    · exact ⟨.nothing, .panics hsign⟩
  · rintro ⟨hand, hsign, hconclude⟩
    case concludes => exact .inl ⟨hand, _, hsign, hconclude⟩
    case fails hsign => exact .inr (.inl ⟨_, hsign, rfl⟩)
    case panics hsign => exact .inr (.inr ⟨_, hsign, rfl⟩)

/-- Was the token signed with the id that goes with it? -/
def Genuine (t : Ticket) : Prop :=
  ∃ now userId username,
    issuer.maker.issue t.id now userId username issuer.accessTtl = .ok t.text

/-- What an operation has in hand after its first part. -/
inductive SignedFor : Request → Hand → Prop where
  | register {r : RegisterRequest} {user : User} {access refresh : Ticket} :
      user.MadeFor r → issuer.Genuine access → issuer.Genuine refresh →
      SignedFor (.register r) (.pair user access refresh)
  | login {r : LoginRequest} {user : User} {access refresh : Ticket} :
      issuer.Genuine access → issuer.Genuine refresh →
      SignedFor (.login r) (.pair user access refresh)
  | refresh {token : String} {access : Ticket} : issuer.Genuine access →
      SignedFor (.refresh token) (.single access)
  | revoke {token : String} : SignedFor (.revoke token) .nothing
  | revokeAll {userId : Uuid} : SignedFor (.revokeAll userId) .nothing
  | verify {token : String} : SignedFor (.verify token) .nothing

end Issuer

/-- The access tokens that a reply hands out. -/
def Request.handsOut : (q : Request) → q.Reply → List String
  | .register _, response | .login _, response => [response.accessToken]
  | .refresh _, token => [token]
  | .revoke _, _ | .revokeAll _, _ | .verify _, _ => []

/-- Does a call bring along nothing that is to be stored? -/
def Call.IsPlain : Call → Prop
  | .createUser .. | .insertToken .. | .insertEvent .. => False
  | _ => True

/-- What an operation may ask for when its tokens have been signed: the user of a registration, a
record for the refresh token that it has in hand, and the notice of a login. -/
inductive Asked (q : Request) (hand : Hand) : Call → Prop where
  | plain {c : Call} : c.IsPlain → Asked q hand c
  | user {r : RegisterRequest} {user : User} : q = .register r → user.MadeFor r →
      Asked q hand (.createUser .transaction user)
  | token {user : User} {access refresh : Ticket} {id : Uuid} {now expiresAt : Int}
      {record : RefreshToken} : hand = .pair user access refresh →
      RefreshToken.make id now user.id refresh.text expiresAt = .ok record →
      Asked q hand (.insertToken .transaction record)
  | event {id : Uuid} {now : Int} {payload : Json} :
      Asked q hand (.insertEvent .transaction (.make id now EventName.login.text payload))

/-! ## Pieces that store nothing -/

section Pieces

variable {α : Type} {Q : α → Prop} {permitted : Call → Prop}

theorem asks_ask {c : Call} (h : c.IsPlain) : (ask c).Asks Call.IsPlain fun _ => True :=
  Attempt.asks_hear h

theorem asks_inWord (n : Int) (overflow : Panic) :
    (inWord n overflow).Asks Call.IsPlain fun _ => True := by
  unfold inWord
  split
  · exact Attempt.asks_pure trivial
  · exact Attempt.asks_ofOutcome fun _ _ => trivial

/-- The calls that surround a transaction are plain. -/
theorem asks_inTransaction {work : Step α} (hplain : ∀ c : Call, c.IsPlain → permitted c)
    (h : work.Asks permitted Q) : (inTransaction work).Asks permitted Q := by
  rintro _ rfl
  refine ⟨hplain _ trivial, fun answer _ _ => ?_⟩
  cases answer with
  | error e => exact fun _ ho => (by cases ho)
  | ok begun =>
    change Dialogue.Secures _ _ _ (Dialogue.andThen work (manager.finish IdentityError.ofStorage)) _
    refine (Dialogue.secures_andThen ..).mpr (Dialogue.Secures.mono h fun o s ho => ?_)
    cases o with
    | ok value =>
      rintro _ -
      refine ⟨hplain _ trivial, fun answer _ _ => ?_⟩
      cases answer with
      | error e => exact fun _ ho => (by cases ho)
      | ok committed => exact ho
    | failed e =>
      rintro _ -
      exact ⟨hplain _ trivial, fun _ _ _ _ ho => (by cases ho)⟩
    | panicked p =>
      rintro _ -
      exact ⟨hplain _ trivial, fun _ _ _ _ ho => (by cases ho)⟩

end Pieces

/-! ## The two parts -/

namespace Issuer

variable (issuer : Issuer)

theorem asks_refreshExpiry : issuer.refreshExpiry.Asks Call.IsPlain fun _ => True := by
  refine Attempt.Asks.bind (asks_ask trivial) fun now _ => ?_
  refine Attempt.Asks.bind (asks_inWord _ _) fun lifetime _ => ?_
  exact asks_inWord _ _

theorem asks_newUser (r : RegisterRequest) :
    (newUser r).Asks Call.IsPlain fun user => user.MadeFor r := by
  unfold newUser
  refine Attempt.Asks.bind (Attempt.asks_ofExcept fun _ _ => trivial) fun _ _ => ?_
  refine Attempt.Asks.bind (asks_ask trivial) fun salt _ => ?_
  refine Attempt.Asks.bind (asks_ask trivial) fun now _ => ?_
  refine Attempt.Asks.bind (asks_ask trivial) fun id _ => ?_
  exact Attempt.asks_ofExcept fun user h => ⟨salt, id, now, h⟩

theorem asks_findUser (i : Identifier) : (findUser i).Asks Call.IsPlain fun _ => True := by
  cases i with
  | email address => exact Attempt.asks_call trivial
  | phone country number => exact Attempt.asks_call trivial

theorem asks_authenticate (r : LoginRequest) :
    (authenticate r).Asks Call.IsPlain fun _ => True := by
  refine Attempt.Asks.bind (asks_findUser r.identifier) fun found _ => ?_
  cases found with
  | none => exact Attempt.asks_fail _
  | some user =>
    refine Attempt.Asks.bind (Attempt.asks_ofOutcome fun _ _ => trivial) fun fits _ => ?_
    cases fits with
    | true => exact Attempt.asks_pure trivial
    | false => exact Attempt.asks_fail _

theorem asks_holder (token : String) : (holder token).Asks Call.IsPlain fun _ => True := by
  unfold holder
  split
  · exact Attempt.asks_fail _
  · refine Attempt.Asks.bind (Attempt.asks_call trivial) fun record _ => ?_
    refine Attempt.Asks.bind (asks_ask trivial) fun now _ => ?_
    refine Attempt.Asks.bind (Attempt.asks_ofExcept fun _ _ => trivial) fun _ _ => ?_
    refine Attempt.Asks.bind (Attempt.asks_call trivial) fun found _ => ?_
    cases found with
    | none => exact Attempt.asks_fail _
    | some user => exact Attempt.asks_pure trivial

theorem asks_verifyAccess (token : String) :
    (issuer.verifyAccess token).Asks Call.IsPlain fun _ => True := by
  unfold verifyAccess
  split
  · exact Attempt.asks_fail _
  · refine Attempt.Asks.bind (asks_ask trivial) fun now _ => ?_
    exact Attempt.asks_ofExcept fun _ _ => trivial

theorem asks_revoke (token : String) :
    (Service.revoke token).Asks Call.IsPlain fun _ => True := by
  unfold Service.revoke
  split
  · exact Attempt.asks_fail _
  · refine Attempt.Asks.bind (Attempt.asks_call trivial) fun found _ => ?_
    cases found with
    | true => exact Attempt.asks_pure trivial
    | false =>
      exact Attempt.Asks.bind (Attempt.asks_call trivial) fun _ _ => Attempt.asks_pure trivial

theorem asks_draw (user : User) : (issuer.draw user).Asks Call.IsPlain issuer.Genuine := by
  refine Attempt.Asks.bind (asks_ask trivial) fun id _ => ?_
  refine Attempt.Asks.bind (asks_ask trivial) fun now _ => ?_
  refine Attempt.Asks.bind (Attempt.asks_ofExcept fun text h => h) fun text h => ?_
  refine Attempt.asks_pure ⟨now / 1000, user.id.text, user.username, ?_⟩
  cases hissue : issuer.maker.issue id (now / 1000) user.id.text user.username issuer.accessTtl with
  | ok issued =>
    rw [hissue] at h
    exact congrArg Except.ok (Except.ok.inj h)
  | error e =>
    rw [hissue] at h
    cases h

theorem asks_drawPair (user : User) : (issuer.drawPair user).Asks Call.IsPlain fun hand =>
    ∃ access refresh, hand = .pair user access refresh ∧ issuer.Genuine access ∧
      issuer.Genuine refresh := by
  refine Attempt.Asks.bind (issuer.asks_draw user) fun access haccess => ?_
  refine Attempt.Asks.bind (issuer.asks_draw user) fun refresh hrefresh => ?_
  exact Attempt.asks_pure ⟨access, refresh, rfl, haccess, hrefresh⟩

/-- Nothing is stored before the tokens have been signed. -/
theorem asks_sign (q : Request) : (issuer.sign q).Asks Call.IsPlain (issuer.SignedFor q) := by
  cases q with
  | register r =>
    refine Attempt.Asks.bind (asks_newUser r) fun user hmade => ?_
    refine Attempt.Asks.mono (issuer.asks_drawPair user) (fun _ h => h) ?_
    rintro _ ⟨access, refresh, rfl, haccess, hrefresh⟩
    exact .register hmade haccess hrefresh
  | login r =>
    refine Attempt.Asks.bind (Attempt.asks_ofExcept fun _ _ => trivial) fun _ _ => ?_
    refine Attempt.Asks.bind (asks_authenticate r) fun user _ => ?_
    refine Attempt.Asks.mono (issuer.asks_drawPair user) (fun _ h => h) ?_
    rintro _ ⟨access, refresh, rfl, haccess, hrefresh⟩
    exact .login haccess hrefresh
  | refresh token =>
    refine Attempt.Asks.bind (asks_holder token) fun user _ => ?_
    refine Attempt.Asks.bind (issuer.asks_draw user) fun access haccess => ?_
    exact Attempt.asks_pure (.refresh haccess)
  | revoke token => exact Attempt.asks_pure .revoke
  | revokeAll userId => exact Attempt.asks_pure .revokeAll
  | verify token => exact Attempt.asks_pure .verify

section Conclusion

variable {q : Request} {hand : Hand}

theorem asks_plainly {α : Type} {a : Step α} (h : a.Asks Call.IsPlain fun _ => True) :
    a.Asks (Asked q hand) fun _ => True :=
  Attempt.Asks.mono h (fun _ => .plain) fun _ h => h

theorem asks_createToken {user : User} {access refresh : Ticket}
    (hhand : hand = .pair user access refresh) (expiresAt : Int) :
    (createToken .transaction user.id refresh.text expiresAt).Asks (Asked q hand)
      fun _ => True := by
  refine Attempt.Asks.bind (asks_plainly (asks_ask trivial)) fun id _ => ?_
  refine Attempt.Asks.bind (asks_plainly (asks_ask trivial)) fun now _ => ?_
  refine Attempt.Asks.bind (Attempt.asks_ofExcept fun record h => h) fun record h => ?_
  refine Attempt.Asks.bind (Attempt.asks_call (.token hhand h)) fun _ _ => ?_
  exact Attempt.asks_pure trivial

theorem asks_loginEvent (user : User) : (loginEvent user).Asks (Asked q hand) fun event =>
    ∃ id now payload, event = .make id now EventName.login.text payload := by
  refine Attempt.Asks.bind (asks_plainly (asks_ask trivial)) fun loginAt _ => ?_
  refine Attempt.Asks.bind (asks_plainly (asks_ask trivial)) fun now _ => ?_
  refine Attempt.Asks.bind (asks_plainly (asks_ask trivial)) fun id _ => ?_
  exact Attempt.asks_pure ⟨id, now, _, rfl⟩

/-- The second part stores what goes with the tokens in hand, and hands out the access token among
them. -/
theorem asks_conclude (h : issuer.SignedFor q hand) : (issuer.conclude q hand).Asks (Asked q hand)
    fun reply => q.handsOut reply = hand.accesses.map Ticket.text := by
  cases h with
  | @register r user access refresh hmade =>
    refine Attempt.Asks.bind (asks_plainly issuer.asks_refreshExpiry) fun expiresAt _ => ?_
    refine Attempt.Asks.bind (asks_inTransaction (Q := fun _ => True) (fun _ => .plain) ?_)
      fun _ _ => Attempt.asks_pure rfl
    refine Attempt.Asks.bind (Attempt.asks_call (.user rfl hmade)) fun _ _ => ?_
    refine Attempt.Asks.bind (asks_createToken rfl expiresAt) fun _ _ => ?_
    exact Attempt.asks_pure trivial
  | @login r user access refresh =>
    refine Attempt.Asks.bind (asks_plainly issuer.asks_refreshExpiry) fun expiresAt _ => ?_
    refine Attempt.Asks.bind (asks_loginEvent user) fun event hevent => ?_
    refine Attempt.Asks.bind (asks_inTransaction (Q := fun _ => True) (fun _ => .plain) ?_)
      fun _ _ => Attempt.asks_pure rfl
    refine Attempt.Asks.bind (asks_createToken rfl expiresAt) fun _ _ => ?_
    obtain ⟨id, now, payload, rfl⟩ := hevent
    exact Attempt.asks_call .event
  | refresh => exact Attempt.asks_pure rfl
  | revoke =>
    exact Attempt.Asks.mono (asks_revoke _) (fun _ => .plain) fun _ _ => rfl
  | revokeAll =>
    exact Attempt.Asks.mono (Attempt.asks_call trivial) (fun _ h => .plain h) fun _ _ => rfl
  | verify =>
    exact Attempt.Asks.mono (issuer.asks_verifyAccess _) (fun _ => .plain) fun _ _ => rfl

end Conclusion

end Issuer

end Service

end SignIn
