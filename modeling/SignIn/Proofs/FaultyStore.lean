import SignIn.Proofs.Terms
import SignIn.Service.Operations
import SignIn.Service.Store

/-!
# A store that may fail

Every call of the store may fail. Mostly a call that fails did nothing, but it may
have worked and lost its reply; only a commit that fails has published nothing. The
ids that were drawn and the times that were read are written down on the way.
-/
namespace SignIn.Service

/-- The answers that report a failure. Clocks and draws have none. -/
def Failed : (c : Call) → Answer c → Prop
  | .now, _ | .instant, _ | .freshId, _ | .freshSalt, _ | .abandon, _ => False
  | .begin _, r | .commit, r | .rollback, r => r.isOk = false
  | .createUser .., r | .insertToken .., r | .insertEvent .., r => r.isOk = false
  | .userById .., r | .userByEmail .., r | .userByPhone .., r => r.isOk = false
  | .tokenRecord .., r | .revokeToken .., r | .revokeUserTokens .., r => r.isOk = false

inductive Serves (c : Call) (s : Store) : Answer c → Store → Prop where
  | works (around : Store.Surroundings) (drawn : Nat) {answer : Answer c} {s' : Store} :
      Store.act around drawn c s = (answer, s') → Serves c s answer s'
  | fails {answer : Answer c} : Failed c answer → Serves c s answer s
  | drops {answer : Answer c} : Failed c answer → c = .commit → Serves c s answer s.rollback
  | unheard (around : Store.Surroundings) (drawn : Nat) {answer : Answer c} :
      Failed c answer → c ≠ .commit → Serves c s answer (Store.act around drawn c s).2

/-- What an operation is given by chance and by the clock on the wall. -/
inductive Given where
  | id (id : Uuid)
  | instant (t : Timestamp)

def given : (c : Call) → Answer c → List Given
  | .freshId, id => [.id id]
  | .instant, t => [.instant t]
  | _, _ => []

def ids (given : List Given) : List Uuid :=
  given.filterMap fun | .id id => some id | .instant _ => none

def instants (given : List Given) : List Timestamp :=
  given.filterMap fun | .id _ => none | .instant t => some t

@[simp] theorem ids_append (l l' : List Given) : ids (l ++ l') = ids l ++ ids l' :=
  List.filterMap_append

@[simp] theorem instants_append (l l' : List Given) :
    instants (l ++ l') = instants l ++ instants l' :=
  List.filterMap_append

/-- The store, and what was given so far. -/
abbrev Noted : Type := Store × List Given

abbrev noted : Conduct Call Answer Noted := Conduct.noting Serves given

abbrev alone : Terms Call Noted := Terms.alone Call Noted

/-- An operation secures a condition against everything that the store may do. -/
abbrev Assures {α : Type} (post : Outcome IdentityError α → Noted → Prop) (a : Step α) (s : Noted) :
    Prop :=
  a.Secures noted alone post s

/-- More ids may have been drawn, and the clock on the wall was not read. -/
structure Draws (s s' : Noted) : Prop where
  instants : instants s'.2 = instants s.2
  ids : ids s.2 ⊆ ids s'.2

/-- Nothing that others can see has changed. -/
structure Undisturbed (s s' : Noted) : Prop extends Draws s s' where
  shared : s'.1.shared = s.1.shared

/-- Nothing has changed, and nothing was written to an open transaction. -/
structure Silent (s s' : Noted) : Prop extends Draws s s' where
  store : s'.1 = s.1

theorem Draws.refl (s : Noted) : Draws s s := ⟨rfl, List.Subset.refl _⟩

theorem Draws.trans {a b c : Noted} (h : Draws a b) (h' : Draws b c) : Draws a c :=
  ⟨h'.instants.trans h.instants, List.Subset.trans h.ids h'.ids⟩

theorem Undisturbed.trans {a b c : Noted} (h : Undisturbed a b) (h' : Undisturbed b c) :
    Undisturbed a c :=
  ⟨h.toDraws.trans h'.toDraws, h'.shared.trans h.shared⟩

theorem Silent.trans {a b c : Noted} (h : Silent a b) (h' : Silent b c) : Silent a c :=
  ⟨h.toDraws.trans h'.toDraws, h'.store.trans h.store⟩

theorem Silent.undisturbed {s s' : Noted} (h : Silent s s') : Undisturbed s s' :=
  ⟨h.toDraws, by rw [h.store]⟩

instance : IsPreorder Noted Silent where
  refl s := ⟨Draws.refl s, rfl⟩
  trans _ _ _ := Silent.trans

/-! ## One call -/

/-- Reads, draws and the clock that counts milliseconds change no table. -/
def Reads : Call → Prop
  | .now | .freshId | .freshSalt => True
  | .userById .. | .userByEmail .. | .userByPhone .. | .tokenRecord .. => True
  | _ => False

/-- The calls that revoke tokens outside of a transaction. -/
def Revokes : Call → Prop
  | .revokeToken .ambient _ | .revokeUserTokens .ambient _ => True
  | _ => False

/-- The calls that write inside a transaction, and what they do to its copy when they work. -/
inductive Writes : Call → (Tables → Tables) → Prop where
  | user (user : User) :
      Writes (.createUser .transaction user) fun t => { t with users := t.users ++ [user] }
  | token (record : RefreshToken) : Writes (.insertToken .transaction record) (·.insertToken record)
  | event (event : OutboxEvent) : Writes (.insertEvent .transaction event) (·.insertEvent event)

/-- A store in which nothing goes wrong, and which draws a new id each time. -/
def replies (around : Store.Surroundings) (c : Call) (s : Noted) : Answer c × Noted :=
  let reply := Store.act around (ids s.2).length c s.1
  (reply.1, reply.2, s.2 ++ given c reply.1)

theorem runs_replies {α : Type} (d : Dialogue Call Answer α) (around : Store.Surroundings)
    (s : Noted) : d.Runs noted s (d.run (replies around) s).1 (d.run (replies around) s).2 :=
  Dialogue.runs_run _ (fun _ _ => ⟨.works around _ rfl, rfl⟩) d s

theorem Serves.store_of_reads {c : Call} {s s' : Store} {answer : Answer c} (hc : Reads c)
    (h : Serves c s answer s') : s' = s := by
  cases h with
  | works around drawn h =>
    cases c <;> first | exact hc.elim | exact (congrArg Prod.snd h).symm
  | fails => rfl
  | drops _ hcommit =>
    subst hcommit
    exact hc.elim
  | unheard around drawn =>
    cases c <;> first | exact hc.elim | rfl

theorem Serves.events_of_revokes {c : Call} {s s' : Store} {answer : Answer c} (hc : Revokes c)
    (h : Serves c s answer s') : s'.shared.events = s.shared.events := by
  have hact (around : Store.Surroundings) (drawn : Nat) :
      (Store.act around drawn c s).2.shared.events = s.shared.events := by
    cases c with
    | revokeToken scope token => cases scope <;> first | exact hc.elim | rfl
    | revokeUserTokens scope userId => cases scope <;> first | exact hc.elim | rfl
    | _ => exact hc.elim
  cases h with
  | works around drawn h =>
    have hev := hact around drawn
    rwa [h] at hev
  | fails => rfl
  | drops => rfl
  | unheard around drawn => exact hact around drawn

theorem Serves.shared_of_instant {s s' : Store} {answer : Answer .instant}
    (h : Serves .instant s answer s') : s'.shared = s.shared := by
  cases h with
  | works around drawn h =>
    cases h
    rfl
  | fails => rfl
  | drops _ hcommit => cases hcommit
  | unheard => rfl

/-- A transaction that was begun works on a copy of the shared tables. -/
theorem Serves.begin {options : TxOptions} {s s' : Store} {answer : Answer (.begin options)}
    (h : Serves (.begin options) s answer s') :
    s'.shared = s.shared ∧ (answer = .ok () → s'.copy = some s.shared) := by
  cases h with
  | works around drawn h =>
    cases h
    exact ⟨rfl, fun _ => rfl⟩
  | fails hf =>
    refine ⟨rfl, fun hok => ?_⟩
    rw [hok] at hf
    cases hf
  | drops _ hcommit => cases hcommit
  | unheard around drawn hf => exact ⟨rfl, fun _ => rfl⟩

/-- A commit publishes the copy, or fails and publishes nothing. -/
theorem Serves.commit {s s' : Store} {answer : Answer .commit}
    (h : Serves .commit s answer s') :
    (answer.isOk = false ∧ s'.shared = s.shared) ∨
      answer = .ok () ∧ s'.shared = s.copy.getD s.shared := by
  cases h with
  | works around drawn h =>
    cases h
    exact .inr ⟨rfl, rfl⟩
  | fails hf => exact .inl ⟨hf, rfl⟩
  | drops hf => exact .inl ⟨hf, rfl⟩
  | unheard around drawn hf hcommit => exact (hcommit rfl).elim

theorem Serves.rollback {s s' : Store} {answer : Answer .rollback}
    (h : Serves .rollback s answer s') : s'.shared = s.shared := by
  cases h with
  | works around drawn h =>
    cases h
    rfl
  | fails => rfl
  | drops _ hcommit => cases hcommit
  | unheard => rfl

theorem Writes.act {c : Call} {change : Tables → Tables} (hw : Writes c change) {s : Store}
    {t : Tables} (hs : s.copy = some t) (around : Store.Surroundings) (drawn : Nat) :
    (Store.act around drawn c s).2.shared = s.shared ∧
      (¬ Failed c (Store.act around drawn c s).1 →
        (Store.act around drawn c s).2.copy = some (change t)) := by
  cases hw with
  | user user =>
    by_cases hconflict : t.users.any (Tables.conflict user)
    · simp [Store.act, Store.tables, Tables.createUser, hs, hconflict, Failed, Except.isOk,
        Except.toBool]
    · simp [Store.act, Store.tables, Store.setTables, Tables.createUser, hs, hconflict]
  | token record => simp [Store.act, Store.tables, Store.setTables, hs]
  | event event => simp [Store.act, Store.tables, Store.setTables, hs]

/-- What is written inside a transaction goes to its copy. -/
theorem Serves.write {c : Call} {change : Tables → Tables} (hw : Writes c change) {s s' : Store}
    {answer : Answer c} {t : Tables} (hs : s.copy = some t) (h : Serves c s answer s') :
    s'.shared = s.shared ∧ (¬ Failed c answer → s'.copy = some (change t)) := by
  cases h with
  | works around drawn h =>
    have hact := hw.act hs around drawn
    rwa [h] at hact
  | fails hf => exact ⟨rfl, fun hn => (hn hf).elim⟩
  | drops _ hcommit =>
    subst hcommit
    cases hw
  | unheard around drawn hf => exact ⟨(hw.act hs around drawn).1, fun hn => (hn hf).elim⟩

/-- Only the clock on the wall is noted as such. -/
theorem draws_of_noted {c : Call} (hc : c ≠ .instant) {s s' : Noted} {answer : Answer c}
    (h : noted c s answer s') : Draws s s' := by
  have hnone : instants (given c answer) = [] := by
    cases c <;> first | exact (hc rfl).elim | rfl
  constructor
  · rw [h.2, instants_append, hnone, List.append_nil]
  · rw [h.2, ids_append]
    exact List.subset_append_left ..

theorem silent_of_reads {c : Call} (hc : Reads c) {s s' : Noted} {answer : Answer c}
    (h : noted c s answer s') : Silent s s' := by
  have hcall : c ≠ .instant := by
    rintro rfl
    exact hc
  exact ⟨draws_of_noted hcall h, h.1.store_of_reads hc⟩

end SignIn.Service
