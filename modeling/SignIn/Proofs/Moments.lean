import SignIn.Proofs.Accounts
import SignIn.Proofs.FaultyStore

/-!
# The service as time passes

The state of the service is the store together with the time and the ids that were drawn
so far. Clocks do not run backwards. A call of the store may fail with what the store
reports, and it may have worked all the same: also a commit whose reply was lost.
-/
namespace SignIn.Service

structure Moment where
  store : Store := {}
  clock : Int := 0
  drawn : List Uuid := []

/-- The answers that report a failure of the store. Clocks and draws have none. -/
def Reports : (c : Call) → Answer c → Prop
  | .now, _ | .instant, _ | .freshId, _ | .freshSalt, _ | .abandon, _ => False
  | .begin _, r | .commit, r | .rollback, r => r.isOk = false
  | .createUser .., r | .insertToken .., r => ∃ e, r = .error (.ofStorage e)
  | .userById .., r | .userByEmail .., r | .userByPhone .., r => ∃ e, r = .error (.ofStorage e)
  | .tokenRecord .., r | .revokeToken .., r => ∃ e, r = .error (.ofStorage e)
  | .revokeUserTokens .., r => ∃ e, r = .error (.ofStorage e)
  | .insertEvent .., r => r.isOk = false

/-- What a call that failed leaves behind: nothing new, all that it does when it works, or a
transaction that was dropped. -/
inductive Remains (c : Call) (s : Store) : Store → Prop where
  | nothing : Remains c s s
  | effect (around : Store.Surroundings) (n : Nat) : Remains c s (Store.act around n c s).2
  | dropped : c = .commit → Remains c s s.rollback

/-- What may be answered at a moment, with or without faults. -/
inductive Responds (faults : Prop) (c : Call) (m : Moment) : Answer c → Moment → Prop where
  | works (around : Store.Surroundings) (n : Nat) {answer : Answer c} {s : Store} :
      m.clock ≤ around.now.millis → Store.act around n c m.store = (answer, s) →
      Responds faults c m answer ⟨s, around.now.millis, m.drawn ++ ids (given c answer)⟩
  | fails (time : Int) {answer : Answer c} {s : Store} :
      faults → m.clock ≤ time → Reports c answer → Remains c m.store s →
      Responds faults c m answer ⟨s, time, m.drawn⟩

/-- A later moment, with a relation between the stores. -/
structure Moves (R : Store → Store → Prop) (m m' : Moment) : Prop where
  clock : m.clock ≤ m'.clock
  drawn : m.drawn ⊆ m'.drawn
  store : R m.store m'.store

instance {R : Store → Store → Prop} [IsPreorder Store R] : IsPreorder Moment (Moves R) where
  refl m := ⟨Int.le_refl _, List.Subset.refl _, refl_of R m.store⟩
  trans _ _ _ h h' :=
    ⟨Int.le_trans h.clock h'.clock, List.Subset.trans h.drawn h'.drawn, trans_of R h.store h'.store⟩

/-- Only time has passed. -/
abbrev Still : Moment → Moment → Prop := Moves Eq

/-- Nothing that others can see has changed. -/
abbrev Unseen : Moment → Moment → Prop := Moves fun s s' => s'.shared = s.shared

instance : IsPreorder Store fun s s' => s'.shared = s.shared where
  refl _ := rfl
  trans _ _ _ h h' := Eq.trans h' h

theorem Still.unseen {m m' : Moment} (h : Still m m') : Unseen m m' :=
  ⟨h.clock, h.drawn, by rw [h.store]⟩

/-! ## One call -/

section Call

variable {faults : Prop} {c : Call} {m m' : Moment} {answer : Answer c}

theorem Reports.failed (h : Reports c answer) : Failed c answer := by
  cases c with
  | createUser | insertToken | userById | userByEmail | userByPhone | tokenRecord | revokeToken
  | revokeUserTokens =>
    obtain ⟨e, rfl⟩ := h
    rfl
  | _ => exact h

/-- An answer reports a failure, or it is the one that the store gives when it works. -/
theorem Responds.reports_or_eq (h : Responds faults c m answer m') :
    (faults ∧ Reports c answer) ∨ ∃ around n, answer = (Store.act around n c m.store).1 := by
  cases h with
  | works around n _ hact => exact .inr ⟨around, n, by rw [hact]⟩
  | fails time hfaults _ hreports => exact .inl ⟨hfaults, hreports⟩

theorem Responds.onward (h : Responds faults c m answer m') :
    m.clock ≤ m'.clock ∧ m.drawn ⊆ m'.drawn := by
  cases h with
  | works around n hclock _ => exact ⟨hclock, List.subset_append_left ..⟩
  | fails time _ hclock => exact ⟨hclock, List.Subset.refl _⟩

/-- But for a commit, this is a store that may fail. -/
theorem Responds.serves (hc : c ≠ .commit) (h : Responds faults c m answer m') :
    Serves c m.store answer m'.store := by
  cases h with
  | works around n _ hact => exact .works around n hact
  | fails time _ _ hreports hremains =>
    cases hremains with
    | nothing => exact .fails hreports.failed
    | effect around n => exact .unheard around n hreports.failed hc
    | dropped hcommit => exact (hc hcommit).elim

theorem Responds.still (hc : Reads c) (h : Responds faults c m answer m') : Still m m' := by
  have hcall : c ≠ .commit := by
    rintro rfl
    exact hc
  exact ⟨h.onward.1, h.onward.2, ((h.serves hcall).store_of_reads hc).symm⟩

end Call

section Calls

variable {faults : Prop} {m m' : Moment}

theorem Responds.of_instant {t : Answer .instant} (h : Responds faults .instant m t m') :
    Still m m' := by
  cases h with
  | works around n hclock hact =>
    cases hact
    exact ⟨hclock, List.subset_append_left .., rfl⟩
  | fails _ _ _ hreports => exact hreports.elim

theorem Responds.of_now {t : Answer .now} (h : Responds faults .now m t m') : t = m'.clock := by
  cases h with
  | works around n _ hact =>
    cases hact
    rfl
  | fails _ _ _ hreports => exact hreports.elim

theorem Responds.of_freshId {id : Answer .freshId} (h : Responds faults .freshId m id m') :
    id ∈ m'.drawn := by
  cases h with
  | works around n _ hact =>
    cases hact
    exact List.mem_append_right _ (List.mem_singleton_self _)
  | fails _ _ _ hreports => exact hreports.elim

/-- What is left of a commit is the store before it, or the copy in its place. -/
theorem Responds.of_commit {answer : Answer .commit} (h : Responds faults .commit m answer m') :
    (m'.store.shared = m.store.shared ∨ m'.store.shared = m.store.copy.getD m.store.shared) ∧
      (answer = .ok () → m'.store.shared = m.store.copy.getD m.store.shared) ∧
      (answer.isOk = false → faults) := by
  cases h with
  | works around n _ hact =>
    cases hact
    exact ⟨.inr rfl, fun _ => rfl, fun ho => by cases ho⟩
  | fails time hfaults _ hreports hremains =>
    refine ⟨?_, fun ho => ?_, fun _ => hfaults⟩
    · cases hremains with
      | nothing => exact .inl rfl
      | effect around n => exact .inr rfl
      | dropped => exact .inl rfl
    · subst ho
      cases hreports

end Calls

/-! ### While time stands still -/

/-- What is given by a clock that stands still and by ids that are counted. -/
def Moment.around (m : Moment) : Store.Surroundings :=
  ⟨.ofMillis m.clock, fun n => ⟨BitVec.ofNat 128 (n + 1)⟩, fun _ => .replicate 16 0⟩

theorem Moment.millis_around (m : Moment) : m.around.now.millis = m.clock :=
  Timestamp.millis_ofMillis m.clock

/-- Nothing goes wrong, and no time passes. -/
def Moment.reply (c : Call) (m : Moment) : Answer c × Moment :=
  let reply := Store.act m.around m.drawn.length c m.store
  (reply.1, ⟨reply.2, m.around.now.millis, m.drawn ++ ids (given c reply.1)⟩)

theorem runs_reply {α : Type} (faults : Prop) (d : Dialogue Call Answer α) (m : Moment) :
    d.Runs (Responds faults) m (d.run Moment.reply m).1 (d.run Moment.reply m).2 :=
  Dialogue.runs_run _ (fun _ m => .works m.around _ (Int.le_of_eq m.millis_around.symm) rfl) d m

theorem clock_run_reply {α : Type} (d : Dialogue Call Answer α) (m : Moment) :
    (d.run Moment.reply m).2.clock = m.clock := by
  induction d generalizing m with
  | done value => rfl
  | ask c next ih => exact (ih _ _).trans m.millis_around

/-- While time stands still, work that has a value is published. -/
theorem run_inTransaction {α : Type} {work : Step α} {value : α} {m m' : Moment}
    (h : Dialogue.run Moment.reply work { m with store := m.store.begin } = (.ok value, m')) :
    Dialogue.run Moment.reply (inTransaction work) m =
      (.ok value, { m' with store := m'.store.commit }) := by
  have hbegin : (Moment.reply (.begin Entry.transaction.options) m).2 =
      { m with store := m.store.begin } := by
    simp [Moment.reply, Store.act, given, ids, m.millis_around]
  have hcommit : (Moment.reply .commit m').2 = { m' with store := m'.store.commit } := by
    simp [Moment.reply, Store.act, given, ids, m'.millis_around]
  change Dialogue.run Moment.reply (Dialogue.andThen work (manager.finish IdentityError.ofStorage))
    (Moment.reply (.begin Entry.transaction.options) m).2 = _
  rw [hbegin]
  refine (Dialogue.run_andThen Moment.reply work _ _).trans ?_
  rw [h]
  change (Outcome.ok value, (Moment.reply .commit m').2) = _
  rw [hcommit]

/-! ## Pieces of operations -/

/-- A piece of an operation keeps its promise, whatever is answered. -/
abbrev Pledges {α : Type} (faults : Prop) (R : Moment → Moment → Prop)
    (lapses : Attempt.Lapse IdentityError → Moment → Prop) (Q : α → Moment → Prop) (a : Step α)
    (m : Moment) : Prop :=
  a.Promises (Responds faults) R lapses Q m

/-- The end of a piece that only looked something up. The tables said it, or the store failed. -/
structure Looked {α : Type} (faults : Prop) (said : Outcome IdentityError α) (m : Moment)
    (o : Outcome IdentityError α) (m' : Moment) : Prop where
  still : Still m m'
  said : o = said ∨ faults ∧ ∃ e, o = .failed (.ofStorage e)

section Pieces

variable {α β : Type} {faults : Prop} {lapses : Attempt.Lapse IdentityError → Moment → Prop}
  {m : Moment}

theorem pledges_now : Pledges faults Still lapses (fun t m' => t = m'.clock) (ask .now) m :=
  Attempt.promises_hear fun _ _ h =>
    ⟨h.still (c := .now) trivial, h.of_now⟩

theorem pledges_instant : Pledges faults Still lapses (fun _ _ => True) (ask .instant) m :=
  Attempt.promises_hear fun _ _ h => ⟨h.of_instant, trivial⟩

theorem pledges_freshId :
    Pledges faults Still lapses (fun id m' => id ∈ m'.drawn) (ask .freshId) m :=
  Attempt.promises_hear fun _ _ h =>
    ⟨h.still (c := .freshId) trivial, h.of_freshId⟩

theorem pledges_freshSalt : Pledges faults Still lapses (fun _ _ => True) (ask .freshSalt) m :=
  Attempt.promises_hear fun _ _ h =>
    ⟨h.still (c := .freshSalt) trivial, trivial⟩

theorem secures_lookup {c : Call} (hc : Reads c) {f : Answer c → Except IdentityError α}
    {said : Outcome IdentityError α}
    (hact : ∀ around n, .ofExcept (f (Store.act around n c m.store).1) = said)
    (hreports : ∀ answer, Reports c answer → ∃ e, f answer = .error (.ofStorage e)) :
    (Attempt.call (.ask c fun answer => .done (f answer)) : Step α).Secures (Responds faults)
      (Terms.alone Call Moment) (Looked faults said m) m := by
  refine (Attempt.secures_call ..).mpr ((Dialogue.secures_ask ..).mpr ?_)
  rintro _ rfl
  refine ⟨trivial, fun answer m' h => ⟨h.still hc, ?_⟩⟩
  rcases h.reports_or_eq with ⟨hfaults, hfailed⟩ | ⟨around, n, rfl⟩
  · obtain ⟨e, he⟩ := hreports answer hfailed
    exact .inr ⟨hfaults, e, by rw [he]; rfl⟩
  · exact .inl (hact around n)

theorem secures_tokenRecord (token : String) :
    (tokenRecord .ambient token).Secures (Responds faults) (Terms.alone Call Moment)
      (Looked faults (.ofExcept (m.store.shared.tokenRecord token)) m) m :=
  secures_lookup (c := .tokenRecord .ambient token) trivial (fun _ _ => rfl) fun _ h => h

theorem secures_userById (id : Uuid) :
    (userById .ambient id).Secures (Responds faults) (Terms.alone Call Moment)
      (Looked faults (.ok (m.store.shared.userById id)) m) m :=
  secures_lookup (c := .userById .ambient id) trivial (fun _ _ => rfl) fun _ h => h

theorem secures_findUser (i : Identifier) :
    (Issuer.findUser i).Secures (Responds faults) (Terms.alone Call Moment)
      (Looked faults (.ok (m.store.shared.named i)) m) m := by
  cases i with
  | email address =>
    exact secures_lookup (c := .userByEmail .ambient address) trivial
      (fun _ _ => rfl) fun _ h => h
  | phone country number =>
    exact secures_lookup (c := .userByPhone .ambient country number) trivial
      (fun _ _ => rfl) fun _ h => h

theorem pledges_inWord {n : Int} {overflow : Panic}
    (hl : Decimal.Range.i64.contains n = false → lapses (.panic overflow) m) :
    Pledges faults Still lapses
      (fun n' m' => n' = n ∧ m' = m ∧ Decimal.Range.i64.contains n = true) (inWord n overflow) m := by
  unfold inWord
  split
  · rename_i hn
    exact Attempt.promises_pure ⟨rfl, rfl, hn⟩
  · rename_i hn
    exact Attempt.promises_panic (hl (by simpa using hn))

end Pieces

/-! ## Transactions -/

/-- A later moment, at which users are what they were, records continue, and what was in order
still is. -/
structure Advances (m m' : Moment) : Prop extends
    Moves (fun s s' => s.shared.Grows s'.shared) m m' where
  order : m.store.shared.InOrder m.drawn → m'.store.shared.InOrder m'.drawn

instance : IsPreorder Store fun s s' => s.shared.Grows s'.shared where
  refl s := .refl s.shared
  trans _ _ _ := Tables.Grows.trans

instance : IsPreorder Moment Advances where
  refl m := ⟨refl_of (Moves fun s s' => s.shared.Grows s'.shared) m, id⟩
  trans _ _ _ h h' :=
    ⟨trans_of (Moves fun s s' => s.shared.Grows s'.shared) h.toMoves h'.toMoves,
      fun ho => h'.order (h.order ho)⟩

theorem Unseen.advances {m m' : Moment} (h : Unseen m m') : Advances m m' := by
  refine ⟨⟨h.clock, h.drawn, ?_⟩, fun ho => ?_⟩
  · rw [h.store]
    exact .refl _
  · rw [h.store]
    exact ho.mono h.drawn

/-- Tables that may be published in place of those that are shared. -/
structure Publishable (m m' : Moment) (t : Tables) : Prop where
  grows : m.store.shared.Grows t
  order : m.store.shared.InOrder m.drawn → t.InOrder m'.drawn

section Transactions

variable {α : Type} {faults : Prop} {lapses : Attempt.Lapse IdentityError → Moment → Prop}
  {m m₁ m₂ : Moment}

/-- A commit that failed may have been carried out, so both states are accounted for. -/
theorem Responds.advances_of_commit {t : Tables} {answer : Answer .commit}
    (h : Responds faults .commit m₁ answer m₂) (h₁ : Unseen m m₁)
    (ht : m₁.store.copy = some t) (hpublish : Publishable m m₁ t) : Advances m m₂ := by
  obtain ⟨heither, -, -⟩ := h.of_commit
  rw [ht] at heither
  rcases heither with hsame | hnew
  · exact Unseen.advances (trans_of Unseen h₁ ⟨h.onward.1, h.onward.2, hsame⟩)
  · constructor
    · refine ⟨Int.le_trans h₁.clock h.onward.1, List.Subset.trans h₁.drawn h.onward.2, ?_⟩
      rw [hnew]
      exact hpublish.grows
    · intro hi
      rw [hnew]
      exact (hpublish.order hi).mono h.onward.2

theorem Responds.unseen_of_rollback {answer : Answer .rollback}
    (h : Responds faults .rollback m₁ answer m₂) (h₁ : Unseen m m₁) : Unseen m m₂ :=
  trans_of Unseen h₁ ⟨h.onward.1, h.onward.2, (h.serves Call.noConfusion).rollback⟩

/-- Lapses that may occur later if they may occur now, among them the failures of a store with
faults. -/
structure Tolerates (faults : Prop) (lapses : Attempt.Lapse IdentityError → Moment → Prop) :
    Prop where
  later : ∀ l m m', m.clock ≤ m'.clock → lapses l m → lapses l m'
  storage : faults → ∀ e m, lapses (.failure (.ofStorage e)) m
  outbox : faults → ∀ e m, lapses (.failure (.ofOutbox e)) m

/-- A transaction publishes the copy that it left behind, also when the reply to its commit was
lost, or else nothing. It adds failures of the store to the lapses of its work. -/
theorem pledges_inTransaction {work : Step α} {Q : α → Tables → Prop}
    (hl : Tolerates faults lapses)
    (hwork : ∀ m₁, Unseen m m₁ → m₁.store.copy = some m.store.shared →
      Pledges faults Unseen lapses
        (fun value m₂ => ∃ t, m₂.store.copy = some t ∧ Publishable m m₂ t ∧ Q value t) work m₁) :
    Pledges faults Advances lapses (fun value m' => Q value m'.store.shared)
      (inTransaction work) m := by
  refine (Dialogue.secures_andThen ..).mpr ?_
  rintro _ rfl
  refine ⟨trivial, fun answer m₁ h => ?_⟩
  obtain ⟨hshared, hcopy⟩ := (h.serves Call.noConfusion).begin
  have h₁ : Unseen m m₁ := ⟨h.onward.1, h.onward.2, hshared⟩
  cases answer with
  | error e =>
    refine Attempt.kept_failed h₁.advances ?_
    rcases h.reports_or_eq with ⟨hfaults, -⟩ | ⟨around, n, hact⟩
    · exact hl.storage hfaults e m₁
    · cases hact
  | ok u =>
    refine (Dialogue.secures_andThen ..).mpr
      (Attempt.Secures.mono (hwork m₁ h₁ (hcopy rfl)) fun o m₂ ho => ?_)
    have h₂ : Unseen m m₂ := trans_of Unseen h₁ ho.moves
    cases o with
    | ok value =>
      obtain ⟨t, ht, hpublish, hq⟩ := ho.value value rfl
      rintro _ rfl
      refine ⟨trivial, fun answer m₃ h => ?_⟩
      obtain ⟨-, hok, hfaults⟩ := h.of_commit
      rw [ht] at hok
      have h₃ : Advances m m₃ := h.advances_of_commit h₂ ht hpublish
      cases answer with
      | ok u =>
        refine Attempt.kept_ok h₃ ?_
        rw [hok rfl]
        exact hq
      | error e => exact Attempt.kept_failed h₃ (hl.storage (hfaults rfl) e m₃)
    | failed e =>
      -- The rollback takes its time, and may fail itself, but the failure of the work is what counts.
      rintro _ rfl
      refine ⟨trivial, fun answer m₃ h => ?_⟩
      exact Attempt.kept_failed (h.unseen_of_rollback h₂).advances
        (hl.later _ m₂ m₃ h.onward.1 (ho.failure e rfl))
    | panicked p =>
      rintro _ rfl
      refine ⟨trivial, fun answer m₃ h => ?_⟩
      exact Attempt.kept_panicked (h.unseen_of_rollback h₂).advances
        (hl.later _ m₂ m₃ h.onward.1 (ho.panic p rfl))

/-- A call that writes to the copy, up to what its caller makes of the answer. It worked when there
is a value. -/
theorem pledges_write {c : Call} {change : Tables → Tables} (hw : Writes c change)
    {f : Answer c → Except IdentityError Unit}
    (hf : ∀ answer, f answer = .ok () → ¬ Failed c answer) {t : Tables}
    (hcopy : m.store.copy = some t)
    (hfault : ∀ answer e m', faults → Reports c answer → f answer = .error e →
      lapses (.failure e) m')
    (hact : ∀ around n e m', f (Store.act around n c m.store).1 = .error e →
      lapses (.failure e) m') :
    Pledges faults Unseen lapses
      (fun _ m' => (∃ around n, f (Store.act around n c m.store).1 = .ok ()) ∧
        m'.store.copy = some (change t)) (.call (.ask c fun answer => .done (f answer))) m := by
  refine Attempt.promises_call fun answer m' h => ?_
  have hcommit : c ≠ .commit := by
    rintro rfl
    cases hw
  obtain ⟨hshared, hchange⟩ := (h.serves hcommit).write hw hcopy
  refine ⟨⟨h.onward.1, h.onward.2, hshared⟩, fun _ ho => ?_, fun e ho => ?_⟩
  · have hworked := hf answer ho
    rcases h.reports_or_eq with ⟨-, hreports⟩ | ⟨around, n, rfl⟩
    · exact (hworked hreports.failed).elim
    · exact ⟨⟨around, n, ho⟩, hchange hworked⟩
  · rcases h.reports_or_eq with ⟨hfaults, hreports⟩ | ⟨around, n, rfl⟩
    · exact hfault answer e m' hfaults hreports ho
    · exact hact around n e m' ho

end Transactions

end SignIn.Service
