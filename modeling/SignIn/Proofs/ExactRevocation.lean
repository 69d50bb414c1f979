import Mathlib.Data.List.Nodup
import SignIn.Proofs.DatabaseService

/-!
# Exact revocation

A revocation revokes the live records that it concerns, and touches nothing else. That the server
found none to revoke may mean that there is no such record or that it is revoked already, and a
second look tells which. Repeated, a revocation changes nothing, and of two revocations it does not
matter which one comes first.
-/
namespace SignIn

open Sql

namespace Sql

/-! ## A server without faults -/

section Faultless

variable {α ε : Type} {scope : Scope} {s s' : Server}

theorem runs_connection_bind {f : Unit → Step α} {o : Outcome StorageError α} :
    Dialogue.Runs (Server.Replies False) (connection scope >>= f : Step α) s o s' ↔
      Dialogue.Runs (Server.Replies False) (f ()) s o s' := by
  cases scope with
  | transaction => exact Iff.rfl
  | ambient =>
    constructor
    · rintro ⟨_, _, hacquired, hr⟩
      cases hacquired with
      | acquired => exact hr
      | refused _ hfaults => exact hfaults.elim
    · exact fun hr => ⟨.ok (), s, .acquired, hr⟩

theorem runs_now_bind {f : Int → Attempt Call Answer ε α} {o : Outcome ε α} :
    Dialogue.Runs (Server.Replies False) (now >>= f : Attempt Call Answer ε α) s o s' ↔
      ∃ time, Dialogue.Runs (Server.Replies False) (f time) s o s' := by
  constructor
  · rintro ⟨time, _, hnow, hr⟩
    cases hnow
    exact ⟨time, hr⟩
  · rintro ⟨time, hr⟩
    exact ⟨time, s, .now time, hr⟩

theorem runs_query {o : Outcome StorageError Result} {statement : Statement} {result : Result}
    {s₁ : Server} (h : s.execute scope statement = (.ok result, s₁)) :
    Dialogue.Runs (Server.Replies False) (query scope statement) s o s' ↔
      o = .ok result ∧ s' = s₁ := by
  constructor
  · rintro ⟨_, _, hdone, hr⟩
    cases hdone with
    | fails _ hfaults => exact hfaults.elim
    | done =>
      rw [h] at hr
      exact hr
  · rintro ⟨rfl, rfl⟩
    refine ⟨_, _, .done, ?_⟩
    rw [h]
    exact ⟨rfl, rfl⟩

/-- Outside of transactions a statement about a table is done on what all see. -/
theorem Server.execute_ambient {statement : Statement} {answer : Except StorageError Result}
    {db : Database} (htable : statement.command.table? ≠ none)
    (h : s.shared.answer statement = (answer, db)) :
    s.execute .ambient statement = (answer, { s with shared := db }) := by
  unfold execute
  split
  · rename_i hbegin
    exact absurd (by rw [hbegin]; rfl) htable
  · rename_i hcommit
    exact absurd (by rw [hcommit]; rfl) htable
  · rename_i hrollback
    exact absurd (by rw [hrollback]; rfl) htable
  · change ((s.shared.answer statement).1, { s with shared := (s.shared.answer statement).2 }) = _
    rw [h]

end Faultless

end Sql

namespace Sql.Server

/-- All see these records of refresh tokens. -/
def Holds (s : Server) (records : List RefreshToken) : Prop :=
  s.shared RefreshTokens.table = records.map RefreshTokens.stored

/-- The server with other records. -/
def keeping (s : Server) (records : List RefreshToken) : Server :=
  { s with shared :=
      Function.update s.shared RefreshTokens.table (records.map RefreshTokens.stored) }

/-- Which records are revoked. -/
def flags (s : Server) : List Param := (s.shared RefreshTokens.table).map (· "is_revoked")

variable {s : Server} {records : List RefreshToken}

theorem holds_keeping (s : Server) (records : List RefreshToken) :
    (s.keeping records).Holds records := by
  simp [Holds, keeping]

theorem keeping_keeping (s : Server) (records records' : List RefreshToken) :
    (s.keeping records).keeping records' = s.keeping records' := by
  simp [keeping]

theorem Holds.flags (h : s.Holds records) : s.flags = records.map (Param.bool ·.isRevoked) := by
  rw [Server.flags, h, List.map_map]
  exact List.map_congr_left fun t _ => (RefreshTokens.keeps_stored t).isRevoked

theorem Holds.keeping_self (h : s.Holds records) : s.keeping records = s := by
  rw [keeping, ← h, Function.update_eq_self]

end Sql.Server

namespace Service

variable {α β : Type} {s s' : Server} {records : List RefreshToken}

/-! ## Operations without faults -/

/-- Without faults the operation comes to an end, and each of its ends is of this kind. -/
def Yields (a : Step α) (s : Server) (post : Outcome IdentityError α → Server → Prop) : Prop :=
  (∃ o s', Dialogue.Runs (Backed False) a s o s') ∧
    ∀ o s', Dialogue.Runs (Backed False) a s o s' → post o s'

section Yields

variable {post post' : Outcome IdentityError α → Server → Prop}

theorem Yields.mono {a : Step α} (h : Yields a s post) (hpost : ∀ o s', post o s' → post' o s') :
    Yields a s post' :=
  ⟨h.1, fun o s' hr => hpost o s' (h.2 o s' hr)⟩

theorem yields_ofOutcome {o : Outcome IdentityError α} (h : post o s) :
    Yields (.ofOutcome o) s post := by
  refine ⟨⟨o, s, rfl, rfl⟩, ?_⟩
  rintro _ _ ⟨rfl, rfl⟩
  exact h

theorem Yields.bind {a : Step α} {f : α → Step β} {post : Outcome IdentityError β → Server → Prop}
    (h : Yields a s (Attempt.onValue (fun value s' => Yields (f value) s' post) post)) :
    Yields (a >>= f) s post := by
  obtain ⟨⟨o, s₁, hfirst⟩, hall⟩ := h
  constructor
  · have hnext := hall o s₁ hfirst
    cases o with
    | ok value =>
      obtain ⟨⟨o', s', hrest⟩, -⟩ := hnext
      exact ⟨o', s', Attempt.runs_bind.mpr (.inl ⟨value, s₁, hfirst, hrest⟩)⟩
    | failed e => exact ⟨.failed e, s₁, Attempt.runs_bind.mpr (.inr (.inl ⟨e, hfirst, rfl⟩))⟩
    | panicked p => exact ⟨.panicked p, s₁, Attempt.runs_bind.mpr (.inr (.inr ⟨p, hfirst, rfl⟩))⟩
  · intro o' s' hr
    rcases Attempt.runs_bind.mp hr with ⟨value, s₁, hfirst, hrest⟩ | ⟨e, hfirst, rfl⟩ |
      ⟨p, hfirst, rfl⟩
    · exact (hall (.ok value) s₁ hfirst).2 o' s' hrest
    · exact hall (.failed e) s' hfirst
    · exact hall (.panicked p) s' hfirst

/-- The call of a store whose answers are known. -/
theorem yields_call {c : Call} {f : Answer c → Except IdentityError α}
    {P : Answer c → Server → Prop}
    (hc : ∀ answer s', Backed False c s answer s' ↔ P answer s') (hex : ∃ answer s', P answer s')
    (hpost : ∀ answer s', P answer s' → post (.ofExcept (f answer)) s') :
    Yields (.call (.ask c fun answer => .done (f answer))) s post := by
  constructor
  · obtain ⟨answer, s', h⟩ := hex
    exact ⟨_, s', answer, s', (hc answer s').mpr h, rfl, rfl⟩
  · rintro _ _ ⟨answer, s', h, rfl, rfl⟩
    exact hpost answer _ ((hc answer _).mp h)

end Yields

/-! ## What the repository answers -/

section Repository

open RefreshTokens

variable {column : String} {value : Param} {concerned : RefreshToken → Bool}

theorem execute_revoke (hs : s.Holds records)
    (hlive : ∀ t, isLiveRow column value (stored t) = Tables.isLive concerned t) (time : Int) :
    s.execute .ambient (revokeStatement column value time) =
      (.ok ⟨records.countP (Tables.isLive concerned), []⟩,
        s.keeping (records.map (RefreshToken.revise concerned time))) := by
  have hcount : (records.map stored).countP (isLiveRow column value) =
      records.countP (Tables.isLive concerned) := by
    rw [List.countP_map]
    exact List.countP_congr fun t _ => by rw [Function.comp, hlive]
  have hanswer : s.shared.answer (revokeStatement column value time) = _ := answer_revoke
  rw [show s.shared table = records.map stored from hs, hcount, revokeRows_stored hlive] at hanswer
  exact Server.execute_ambient (Option.some_ne_none _) hanswer

/-- The time of a revocation is the only thing that is not known of it. -/
theorem runs_revokeWhere (hs : s.Holds records)
    (hlive : ∀ t, isLiveRow column value (stored t) = Tables.isLive concerned t)
    {o : Outcome IdentityError Nat} :
    Dialogue.Runs (Server.Replies False) (revokeWhere .ambient column value) s o s' ↔
      ∃ time, o = .ok (records.countP (Tables.isLive concerned)) ∧
        s' = s.keeping (records.map (RefreshToken.revise concerned time)) := by
  have hrevoke {o : Outcome StorageError Nat} : Dialogue.Runs (Server.Replies False) (do
      connection .ambient
      let at1 ← now
      let result ← query .ambient (revokeStatement column value at1)
      return result.affected : Sql.Step Nat) s o s' ↔
      ∃ time, o = .ok (records.countP (Tables.isLive concerned)) ∧
        s' = s.keeping (records.map (RefreshToken.revise concerned time)) := by
    rw [runs_connection_bind, runs_now_bind]
    exact exists_congr fun time => Attempt.runs_bind_ok fun _ _ =>
      runs_query (execute_revoke hs hlive time)
  rw [revokeWhere, Attempt.runs_mapError]
  constructor
  · rintro ⟨_, hr, rfl⟩
    obtain ⟨time, rfl, hs'⟩ := hrevoke.mp hr
    exact ⟨time, rfl, hs'⟩
  · rintro ⟨time, rfl, hs'⟩
    exact ⟨_, hrevoke.mpr ⟨time, rfl, hs'⟩, rfl⟩

theorem ofExcept_eq_ok {α : Type} {result : Except IdentityError α} {value : α} :
    Outcome.ofExcept result = .ok value ↔ result = .ok value := by
  cases result <;> simp [Outcome.ofExcept]

theorem ofExcept_eq_failed {α : Type} {result : Except IdentityError α} {e : IdentityError} :
    Outcome.ofExcept result = .failed e ↔ result = .error e := by
  cases result <;> simp [Outcome.ofExcept]

theorem backed_revokeUserTokens (hs : s.Holds records) {userId : Uuid}
    {answer : Except IdentityError Nat} :
    Backed False (.revokeUserTokens .ambient userId) s answer s' ↔
      ∃ time, answer = .ok (records.countP (Tables.isLive (·.userId == userId))) ∧
        s' = s.keeping (records.map (RefreshToken.revise (·.userId == userId) time)) := by
  refine (runs_revokeWhere hs (fun t => isLiveRow_owner)).trans (exists_congr fun time => ?_)
  exact and_congr_left fun _ => ofExcept_eq_ok

theorem backed_revokeToken (hs : s.Holds records) {token : String}
    {answer : Except IdentityError Bool} :
    Backed False (.revokeToken .ambient token) s answer s' ↔
      ∃ time, answer = .ok (decide (0 < records.countP (Tables.isLive (·.isFor token)))) ∧
        s' = s.keeping (records.map (RefreshToken.revise (·.isFor token) time)) := by
  have hwhere {o : Outcome IdentityError Nat} {s₁ : Server} :
      Dialogue.Runs (Server.Replies False)
        (revokeWhere .ambient "token_hash" (.text (RefreshToken.hash token))) s o s₁ ↔ _ :=
    runs_revokeWhere hs fun t => isLiveRow_digest
  refine (Attempt.runs_bind_of_ok fun o s₁ hr => ?_).trans ?_
  · obtain ⟨_, hcount, -⟩ := hwhere.mp hr
    exact ⟨_, hcount⟩
  constructor
  · rintro ⟨count, s₁, hr, hanswer, rfl⟩
    obtain ⟨time, hcount, rfl⟩ := hwhere.mp hr
    obtain rfl := Outcome.ok.inj hcount
    exact ⟨time, ofExcept_eq_ok.mp hanswer, rfl⟩
  · rintro ⟨time, rfl, rfl⟩
    exact ⟨_, _, hwhere.mpr ⟨time, rfl, rfl⟩, rfl, rfl⟩

theorem backed_tokenRecord (hs : s.Holds records) {token : String}
    {answer : Except IdentityError RefreshToken} :
    Backed False (.tokenRecord .ambient token) s answer s' ↔
      answer = ({ tokens := records } : Tables).tokenRecord token ∧ s' = s := by
  have hwanted (t : RefreshToken) : meets [⟨"token_hash", .param 1⟩]
      [.text (RefreshToken.hash token)] (stored t) = t.isFor token := by
    rw [Bool.eq_iff_iff, meets_text, (keeps_stored t).tokenHash, RefreshToken.isFor, beq_iff_eq,
      Param.text.injEq]
  obtain ⟨n, hanswer⟩ := Database.answer_select columns mem_refreshTokens hs hwanted
  have hexecute : s.execute .ambient (selectStatement (RefreshToken.hash token)) =
      (.ok ⟨n, ((records.filter (·.isFor token)).map stored).map
        (Schema.refreshTokens.cells columns)⟩, s) :=
    Server.execute_ambient (Option.some_ne_none _) hanswer
  have hsend (o : Outcome IdentityError Result) (s₁ : Server) : Dialogue.Runs (Server.Replies False)
      ((send .ambient (selectStatement (RefreshToken.hash token))).mapError IdentityError.ofStorage)
      s o s₁ ↔ o = .ok ⟨n, ((records.filter (·.isFor token)).map stored).map
        (Schema.refreshTokens.cells columns)⟩ ∧ s₁ = s := by
    rw [Attempt.runs_mapError, send]
    simp only [runs_connection_bind, runs_query hexecute]
    constructor
    · rintro ⟨_, ⟨rfl, hs₁⟩, rfl⟩
      exact ⟨rfl, hs₁⟩
    · rintro ⟨rfl, hs₁⟩
      exact ⟨_, ⟨rfl, hs₁⟩, rfl⟩
  refine (Attempt.runs_bind_ok hsend).trans ?_
  have hfind : records.find? (·.isFor token) = (records.filter (·.isFor token)).head? :=
    List.head?_filter.symm
  unfold Tables.tokenRecord
  rw [hfind]
  cases records.filter (·.isFor token) with
  | nil => exact and_congr_left fun _ => ofExcept_eq_failed
  | cons t rest =>
    simp only [List.map_cons, ofRow_cells (keeps_stored t)]
    exact and_congr_left fun _ => ofExcept_eq_ok

end Repository

/-! ## Revocations -/

/-- The operations that revoke refresh tokens. -/
inductive Withdrawal where
  | token (text : String)
  | user (id : Uuid)

namespace Withdrawal

abbrev Value : Withdrawal → Type
  | token _ => Unit
  | user _ => Nat

def perform : (w : Withdrawal) → Step w.Value
  | token text => revoke text
  | user id => revokeAll id

/-- No record is for the empty text. -/
def concerns : Withdrawal → RefreshToken → Bool
  | token text, t => text != "" && t.isFor text
  | user id, t => t.userId == id

def result (records : List RefreshToken) : (w : Withdrawal) → Outcome IdentityError w.Value
  | token text =>
    if text = "" then .failed .tokenRequired
    else if records.any (·.isFor text) then .ok () else .failed .tokenNotFound
  | user id => .ok (records.countP (Tables.isLive (·.userId == id)))

def after (w : Withdrawal) (now : Int) (records : List RefreshToken) : List RefreshToken :=
  records.map (RefreshToken.revise w.concerns now)

end Withdrawal

end Service

namespace RefreshToken

variable {concerned : RefreshToken → Bool} {now : Int} {t : RefreshToken}

theorem revise_of_not (h : concerned t = false) : t.revise concerned now = t := by
  simp [revise, Service.Tables.isLive, h]

theorem userId_revise : (t.revise concerned now).userId = t.userId := by
  unfold revise
  split <;> rfl

theorem isFor_revise {text : String} : (t.revise concerned now).isFor text = t.isFor text := by
  rw [isFor, isFor, tokenHash_revise]

theorem isRevoked_revise : (t.revise concerned now).isRevoked = (t.isRevoked || concerned t) := by
  unfold revise Service.Tables.isLive
  cases hc : concerned t <;> cases hr : t.isRevoked <;> simp [hr, revoke]

end RefreshToken

namespace Service

namespace Withdrawal

variable {s : Server} {records : List RefreshToken} {now now' : Int} {w : Withdrawal}

theorem concerns_token {text : String} (htext : text ≠ "") :
    concerns (.token text) = (·.isFor text) := by
  funext t
  simp [concerns, htext]

theorem concerns_revise {concerned : RefreshToken → Bool} {t : RefreshToken} :
    w.concerns (t.revise concerned now) = w.concerns t := by
  cases w with
  | token text => simp only [concerns, RefreshToken.isFor_revise]
  | user id => simp only [concerns, RefreshToken.userId_revise]

/-- A record that was revised is not live any more, if it is concerned. -/
theorem isLive_revise {t : RefreshToken} :
    Tables.isLive w.concerns (t.revise w.concerns now) = false := by
  rw [Tables.isLive, concerns_revise, RefreshToken.isRevoked_revise]
  cases w.concerns t <;> simp

theorem after_after : w.after now' (w.after now records) = w.after now records := by
  rw [after, after, List.map_map]
  refine List.map_congr_left fun t _ => ?_
  rw [Function.comp, RefreshToken.revise, isLive_revise]
  rfl

theorem isRevoked_of_mem_after {t : RefreshToken} (ht : t ∈ w.after now records)
    (hconcerned : w.concerns t = true) : t.isRevoked = true := by
  obtain ⟨r, -, rfl⟩ := List.mem_map.mp ht
  rw [concerns_revise] at hconcerned
  rw [RefreshToken.isRevoked_revise, hconcerned, Bool.or_true]

theorem countP_isLive_after : (w.after now records).countP (Tables.isLive w.concerns) = 0 := by
  refine List.countP_eq_zero.mpr fun t ht => ?_
  obtain ⟨r, -, rfl⟩ := List.mem_map.mp ht
  exact Bool.eq_false_iff.mp isLive_revise

/-- The records that are not concerned stay as they are. -/
theorem filter_after : (w.after now records).filter (fun t => !w.concerns t) =
    records.filter fun t => !w.concerns t := by
  have hsame : ∀ t ∈ records.filter (fun t => !w.concerns t), t.revise w.concerns now = t := by
    intro t ht
    have hother := (List.mem_filter.mp ht).2
    exact RefreshToken.revise_of_not (by simpa using hother)
  rw [after, List.filter_map]
  simp only [Function.comp_def, concerns_revise]
  rw [List.map_congr_left hsame, List.map_id']

theorem any_isFor_revise {concerned : RefreshToken → Bool} {text : String} :
    (records.map (RefreshToken.revise concerned now)).any (·.isFor text) =
      records.any (·.isFor text) := by
  rw [List.any_map]
  congr 1
  funext t
  exact RefreshToken.isFor_revise

/-- A lookup tells whether there is a record for a token. -/
theorem tokenRecord_cases (records : List RefreshToken) (text : String) :
    (∃ t, ({ tokens := records } : Tables).tokenRecord text = .ok t) ∧
        records.any (·.isFor text) = true ∨
      ({ tokens := records } : Tables).tokenRecord text = .error .tokenNotFound ∧
        records.any (·.isFor text) = false := by
  unfold Tables.tokenRecord
  cases hfound : records.find? (·.isFor text) with
  | some t =>
    have hfor := List.find?_some hfound
    have hany : records.any (·.isFor text) = true :=
      List.any_eq_true.mpr ⟨t, List.mem_of_find?_eq_some hfound, hfor⟩
    exact .inl ⟨⟨t, rfl⟩, hany⟩
  | none =>
    refine .inr ⟨rfl, List.any_eq_false.mpr ?_⟩
    exact List.find?_eq_none.mp hfound

theorem yields_token (hs : s.Holds records) {text : String} (htext : text ≠ "") :
    Yields (revoke text) s fun o s' =>
      o = (if records.any (·.isFor text) then .ok () else .failed .tokenNotFound) ∧
        ∃ time, s' = s.keeping (records.map (RefreshToken.revise (·.isFor text) time)) := by
  unfold revoke
  rw [if_neg htext]
  refine Yields.bind (yields_call (fun _ _ => backed_revokeToken hs) ⟨_, _, 0, rfl, rfl⟩ ?_)
  rintro _ _ ⟨time, rfl, rfl⟩
  by_cases hlive : 0 < records.countP (Tables.isLive (·.isFor text))
  · -- a live record was revoked
    have hany : records.any (·.isFor text) = true := by
      obtain ⟨t, ht, hlive⟩ := List.countP_pos_iff.mp hlive
      exact List.any_eq_true.mpr ⟨t, ht, (Bool.and_eq_true_iff.mp hlive).1⟩
    simp only [decide_eq_true hlive]
    exact yields_ofOutcome ⟨by rw [hany]; rfl, time, rfl⟩
  · -- the second look sees the records as they are now, and none of them was revised
    simp only [decide_eq_false hlive]
    refine Yields.bind (yields_call (fun _ _ => backed_tokenRecord (Server.holds_keeping ..))
      ⟨_, _, rfl, rfl⟩ ?_)
    rintro _ _ ⟨rfl, rfl⟩
    have hsame : (records.map (RefreshToken.revise (·.isFor text) time)).any (·.isFor text) =
        records.any (·.isFor text) := any_isFor_revise
    rcases tokenRecord_cases (records.map (RefreshToken.revise (·.isFor text) time)) text with
      ⟨⟨t, hfound⟩, hany⟩ | ⟨hfound, hany⟩
    · rw [hfound]
      exact yields_ofOutcome ⟨by rw [← hsame, hany]; rfl, time, rfl⟩
    · rw [hfound]
      exact ⟨by rw [← hsame, hany]; rfl, time, rfl⟩

theorem yields_perform (hs : s.Holds records) (w : Withdrawal) :
    Yields w.perform s fun o s' =>
      o = w.result records ∧ ∃ time, s' = s.keeping (w.after time records) := by
  cases w with
  | user id =>
    refine yields_call (fun _ _ => backed_revokeUserTokens hs) ⟨_, _, 0, rfl, rfl⟩ ?_
    rintro _ _ ⟨time, rfl, rfl⟩
    exact ⟨rfl, time, rfl⟩
  | token text =>
    by_cases htext : text = ""
    · subst htext
      have hafter : after (.token "") 0 records = records := by
        rw [after, List.map_congr_left fun t _ => RefreshToken.revise_of_not rfl]
        exact List.map_id ..
      exact yields_ofOutcome ⟨rfl, 0, by rw [hafter, hs.keeping_self]⟩
    · simp only [result, after, if_neg htext, concerns_token htext]
      exact yields_token hs htext

/-- A second time the result is the same, but for the count, and nothing changes. -/
theorem yields_again (w : Withdrawal) (time : Int) :
    Yields w.perform (s.keeping (w.after time records)) fun o s' =>
      o = w.result (w.after time records) ∧ s' = s.keeping (w.after time records) := by
  refine (yields_perform (s.holds_keeping _) w).mono ?_
  rintro _ _ ⟨rfl, time', rfl⟩
  exact ⟨rfl, by rw [after_after, Server.keeping_keeping]⟩

/-- The flags after two revocations do not depend on their order. -/
theorem flags_after (w w' : Withdrawal) (time time' : Int) :
    (s.keeping (w'.after time' (w.after time records))).flags =
      records.map fun t => .bool (t.isRevoked || (w.concerns t || w'.concerns t)) := by
  rw [(s.holds_keeping _).flags, after, after, List.map_map, List.map_map]
  refine List.map_congr_left fun t _ => ?_
  simp only [Function.comp, RefreshToken.isRevoked_revise, concerns_revise, Bool.or_assoc]

theorem yields_both (hs : s.Holds records) (w w' : Withdrawal) :
    Yields w.perform s fun _ s₁ => Yields w'.perform s₁ fun _ s₂ => s₂.flags =
      records.map fun t => .bool (t.isRevoked || (w.concerns t || w'.concerns t)) := by
  refine (yields_perform hs w).mono ?_
  rintro _ _ ⟨-, time, rfl⟩
  refine (yields_perform (s.holds_keeping _) w').mono ?_
  rintro _ _ ⟨-, time', rfl⟩
  rw [Server.keeping_keeping, flags_after]

end Withdrawal

/-- What the revocations do to a server that holds these records. -/
structure RevokesExactly (s : Server) (records : List RefreshToken) : Prop where
  empty : Yields (revoke "") s fun o s' => o = .failed .tokenRequired ∧ s' = s
  alone : ∀ text, records.countP (·.isFor text) ≤ 1
  token : ∀ text, text ≠ "" → Yields (revoke text) s fun o s' =>
    o = (if records.any (·.isFor text) then .ok () else .failed .tokenNotFound) ∧
    (∃ now, s' = s.keeping (records.map (RefreshToken.revise (·.isFor text) now))) ∧
    Yields (revoke text) s' fun o' s'' => o' = o ∧ s'' = s'
  user : ∀ id, Yields (revokeAll id) s fun o s' =>
    o = .ok (records.countP (Tables.isLive (·.userId == id))) ∧
    (∃ now records', s' = s.keeping records' ∧
      records' = records.map (RefreshToken.revise (·.userId == id) now) ∧
      (∀ t ∈ records', t.userId = id → t.isRevoked = true) ∧
      records'.filter (·.userId != id) = records.filter (·.userId != id)) ∧
    Yields (revokeAll id) s' fun o' s'' => o' = .ok 0 ∧ s'' = s'
  commute : ∀ w w' : Withdrawal,
    Yields w.perform s fun _ s₁ => Yields w'.perform s₁ fun _ s₂ =>
      Yields w'.perform s fun _ s₃ => Yields w.perform s₃ fun _ s₄ => s₂.flags = s₄.flags

theorem revokesExactly (hs : s.Holds records) (hnodup : (records.map (·.tokenHash)).Nodup) :
    RevokesExactly s records where
  empty := yields_ofOutcome ⟨rfl, rfl⟩
  alone text := by
    have hcount := List.nodup_iff_count_le_one.mp hnodup (RefreshToken.hash text)
    rwa [List.count_eq_countP, List.countP_map] at hcount
  token text htext := by
    have hafter (time : Int) : Withdrawal.after (.token text) time records =
        records.map (RefreshToken.revise (·.isFor text) time) := by
      rw [Withdrawal.after, Withdrawal.concerns_token htext]
    refine (Withdrawal.yields_token hs htext).mono ?_
    rintro _ _ ⟨rfl, time, rfl⟩
    refine ⟨rfl, ⟨time, rfl⟩, ?_⟩
    rw [← hafter time]
    refine (Withdrawal.yields_again (.token text) time).mono ?_
    rintro _ _ ⟨rfl, rfl⟩
    refine ⟨?_, rfl⟩
    rw [Withdrawal.result, if_neg htext, hafter, Withdrawal.any_isFor_revise]
  user id := by
    refine (Withdrawal.yields_perform hs (.user id)).mono ?_
    rintro _ _ ⟨rfl, time, rfl⟩
    refine ⟨rfl, ⟨time, _, rfl, rfl, fun t ht howner => ?_, ?_⟩, ?_⟩
    · exact Withdrawal.isRevoked_of_mem_after ht (beq_iff_eq.mpr howner)
    · exact Withdrawal.filter_after (w := .user id)
    · refine (Withdrawal.yields_again (.user id) time).mono ?_
      rintro _ _ ⟨rfl, rfl⟩
      exact ⟨congrArg Outcome.ok (Withdrawal.countP_isLive_after (w := .user id)), rfl⟩
  commute w w' := by
    refine (Withdrawal.yields_both hs w w').mono fun _ s₁ h => h.mono fun _ s₂ hflags => ?_
    refine (Withdrawal.yields_both hs w' w).mono fun _ s₃ h => h.mono fun _ s₄ hflags' => ?_
    rw [hflags, hflags']
    exact List.map_congr_left fun t _ => by rw [Bool.or_comm (w.concerns t)]

/-- In every server that was reached, however its statements failed on the way: a revocation does
what it is for and nothing else, a second one changes nothing, and two of them can change places. -/
theorem revocation_exact (h : Reachable s) :
    ∃ records, s.Holds records ∧ RevokesExactly s records := by
  obtain ⟨records, hs, hnodup⟩ := (tidy_of_reachable h).shared
  exact ⟨records, hs, revokesExactly hs hnodup⟩

/-! ### A server with one record -/

namespace Issuer

def bookedServer : Server where
  shared := RefreshTokens.holding
    (Function.update (fun _ => []) Users.table [Users.stored plainUser]) (plainRecord ⟨4⟩)

theorem runs_register_booked :
    Dialogue.Runs (Backed True) (plainIssuer.register plainRequest) {} (.ok plainResponse)
      bookedServer := by
  have hnew : Dialogue.Runs (Backed True) (newUser plainRequest) {} (.ok plainUser) {} := by
    unfold newUser
    rw [validate_plainRequest]
    refine ⟨.replicate 16 0, {}, rfl, 0, {}, rfl, ⟨1⟩, {}, rfl, ?_⟩
    change Dialogue.Runs _
      (Attempt.ofExcept (User.register plainRequest (.replicate 16 0) ⟨1⟩ 0) : Step User) _ _ _
    rw [register_plain]
    exact ⟨rfl, rfl⟩
  have hpair : Dialogue.Runs (Backed True) (plainIssuer.issuePair plainUser) {}
      (.ok ⟨"token", "token"⟩) {} :=
    ⟨⟨2⟩, {}, rfl, 0, {}, rfl, ⟨3⟩, {}, rfl, 0, {}, rfl, rfl, rfl⟩
  have hexpiry : Dialogue.Runs (Backed True) plainIssuer.refreshExpiry {} (.ok 3600000) {} :=
    ⟨0, {}, rfl, rfl, rfl⟩
  have hstored : Dialogue.Runs (Backed True) (inTransaction do
      createUser .transaction plainUser
      let _ ← createToken .transaction plainUser.id "token" 3600000
      return ()) {} (.ok ()) bookedServer := by
    refine ⟨.ok (), { own := some fun _ => [] },
      ⟨.ok (), _, .acquired, _, _, .done, _, _, .done, rfl, rfl⟩, ?_⟩
    refine ⟨.ok (), { own := some (Function.update (fun _ => []) Users.table
      [Users.stored plainUser]) }, ⟨_, _, .done, rfl, rfl⟩, ?_⟩
    refine ⟨⟨4⟩, _, rfl, 0, _, rfl, ?_⟩
    refine ⟨.ok (), { own := some bookedServer.shared }, ⟨_, _, .done, rfl, rfl⟩, ?_⟩
    exact ⟨.ok (), bookedServer, ⟨_, _, .done, rfl, rfl⟩, rfl, rfl⟩
  refine Attempt.runs_bind.mpr (.inl ⟨plainUser, {}, hnew, ?_⟩)
  refine Attempt.runs_bind.mpr (.inl ⟨⟨"token", "token"⟩, {}, hpair, ?_⟩)
  refine Attempt.runs_bind.mpr (.inl ⟨3600000, {}, hexpiry, ?_⟩)
  exact Attempt.runs_bind.mpr (.inl ⟨(), bookedServer, hstored, rfl, rfl⟩)

theorem reachable_booked : Reachable bookedServer :=
  .single ⟨plainIssuer, .register plainRequest, .ok plainResponse, runs_register_booked⟩

/-- A registration has stored one record, and whatever is revoked then is exact. -/
theorem revocation_exact_booked : Reachable bookedServer ∧ bookedServer.Holds [plainRecord ⟨4⟩] ∧
    ∃ records, bookedServer.Holds records ∧ RevokesExactly bookedServer records :=
  ⟨reachable_booked, rfl, revocation_exact reachable_booked⟩

end Issuer

end Service

end SignIn
