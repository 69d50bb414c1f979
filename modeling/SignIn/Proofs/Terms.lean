import Mathlib.Order.Defs.Unbundled
import SignIn.Attempt

/-!
# Dialogues on given terms

`Dialogue.run` fixes what the environment does. Here only its conduct is known:
the answers that it may give and the states that it may be in afterwards. The
terms of a dialogue say what else may happen between two questions and which
questions are permitted. A dialogue that secures a condition asks only what is
permitted, whatever happens, and the condition holds when it has ended.
-/
namespace SignIn

/-- The answers that an environment may give, and the states they leave behind. -/
abbrev Conduct (Ask : Type) (Answer : Ask → Type) (σ : Type) : Type :=
  (question : Ask) → σ → Answer question → σ → Prop

/-- An environment that also writes down something about every answer. -/
def Conduct.noting {Ask : Type} {Answer : Ask → Type} {σ ν : Type} (conduct : Conduct Ask Answer σ)
    (note : (question : Ask) → Answer question → List ν) : Conduct Ask Answer (σ × List ν) :=
  fun question s answer s' => conduct question s.1 answer s'.1 ∧ s'.2 = s.2 ++ note question answer

structure Terms (Ask σ : Type) where
  drift : σ → σ → Prop
  permits : Ask → σ → Prop

/-- Nothing else happens, and everything may be asked. -/
def Terms.alone (Ask σ : Type) : Terms Ask σ := ⟨Eq, fun _ _ => True⟩

/-- What one question allows to conclude, with the condition taken as a parameter. -/
abbrev Terms.Put {Ask σ : Type} {Answer : Ask → Type} (conduct : Conduct Ask Answer σ)
    (terms : Terms Ask σ) (question : Ask) (s : σ) (next : Answer question → σ → Prop) : Prop :=
  ∀ s₁, terms.drift s s₁ → terms.permits question s₁ ∧
    ∀ answer s₂, conduct question s₁ answer s₂ → next answer s₂

namespace Dialogue

variable {Ask : Type} {Answer : Ask → Type} {α β σ : Type}
variable {conduct : Conduct Ask Answer σ} {terms : Terms Ask σ}

def Secures (conduct : Conduct Ask Answer σ) (terms : Terms Ask σ) (post : α → σ → Prop) :
    Dialogue Ask Answer α → σ → Prop
  | .done value, s => post value s
  | .ask question next, s =>
    ∀ s₁, terms.drift s s₁ → terms.permits question s₁ ∧
      ∀ answer s₂, conduct question s₁ answer s₂ → (next answer).Secures conduct terms post s₂

@[simp] theorem secures_done (post : α → σ → Prop) (value : α) (s : σ) :
    (Dialogue.done value : Dialogue Ask Answer α).Secures conduct terms post s ↔ post value s :=
  Iff.rfl

theorem secures_ask (post : α → σ → Prop) (question : Ask)
    (next : Answer question → Dialogue Ask Answer α) (s : σ) :
    (Dialogue.ask question next).Secures conduct terms post s ↔
      terms.Put conduct question s fun answer s₂ => (next answer).Secures conduct terms post s₂ :=
  Iff.rfl

@[simp] theorem secures_put (question : Ask) (post : Answer question → σ → Prop) (s : σ) :
    (Dialogue.put question : Dialogue Ask Answer (Answer question)).Secures conduct terms post s ↔
      terms.Put conduct question s post :=
  Iff.rfl

@[simp] theorem secures_andThen (d : Dialogue Ask Answer α) (f : α → Dialogue Ask Answer β)
    (post : β → σ → Prop) (s : σ) :
    (d.andThen f).Secures conduct terms post s ↔
      d.Secures conduct terms (fun value s' => (f value).Secures conduct terms post s') s := by
  induction d generalizing s with
  | done value => exact Iff.rfl
  | ask question next ih => simp only [ask_andThen, secures_ask, ih]

/-- A weaker condition is secured as well. -/
theorem Secures.mono {d : Dialogue Ask Answer α} {post post' : α → σ → Prop} {s : σ}
    (h : d.Secures conduct terms post s) (hp : ∀ value s', post value s' → post' value s') :
    d.Secures conduct terms post' s := by
  induction d generalizing s with
  | done value => exact hp value s h
  | ask question next ih =>
    intro s₁ hs₁
    obtain ⟨hq, hnext⟩ := h s₁ hs₁
    exact ⟨hq, fun answer s₂ ha => ih answer (hnext answer s₂ ha)⟩

/-- What is secured stays secured while other things happen. -/
theorem Secures.drift {d : Dialogue Ask Answer α} {post : α → σ → Prop} {s s' : σ}
    (trans : ∀ a b c, terms.drift a b → terms.drift b c → terms.drift a c)
    (stable : ∀ value a b, terms.drift a b → post value a → post value b)
    (h : d.Secures conduct terms post s) (hs : terms.drift s s') :
    d.Secures conduct terms post s' := by
  cases d with
  | done value => exact stable value s s' hs h
  | ask question next => exact fun s₁ hs₁ => h s₁ (trans s s' s₁ hs hs₁)

/-- An end that the environment allows a dialogue to come to, when nothing else happens. -/
def Runs (conduct : Conduct Ask Answer σ) : Dialogue Ask Answer α → σ → α → σ → Prop
  | .done value, s, value', s' => value' = value ∧ s' = s
  | .ask question next, s, value', s' =>
    ∃ answer s₁, conduct question s answer s₁ ∧ (next answer).Runs conduct s₁ value' s'

@[simp] theorem runs_done (value value' : α) (s s' : σ) :
    (Dialogue.done value : Dialogue Ask Answer α).Runs conduct s value' s' ↔
      value' = value ∧ s' = s :=
  Iff.rfl

theorem runs_ask (question : Ask) (next : Answer question → Dialogue Ask Answer α) (s : σ)
    (value : α) (s' : σ) :
    (Dialogue.ask question next).Runs conduct s value s' ↔
      ∃ answer s₁, conduct question s answer s₁ ∧ (next answer).Runs conduct s₁ value s' :=
  Iff.rfl

/-- An environment that is defined by a function has one run. -/
theorem runs_run (reply : (question : Ask) → σ → Answer question × σ)
    (hr : ∀ question s, conduct question s (reply question s).1 (reply question s).2)
    (d : Dialogue Ask Answer α) (s : σ) :
    d.Runs conduct s (d.run reply s).1 (d.run reply s).2 := by
  induction d generalizing s with
  | done value => exact ⟨rfl, rfl⟩
  | ask question next ih => exact ⟨_, _, hr question s, ih _ _⟩

/-- An environment that always has an answer lets every dialogue come to an end. -/
theorem exists_runs (h : ∀ question s, ∃ answer s', conduct question s answer s')
    (d : Dialogue Ask Answer α) (s : σ) : ∃ value s', d.Runs conduct s value s' := by
  induction d generalizing s with
  | done value => exact ⟨value, s, rfl, rfl⟩
  | ask question next ih =>
    obtain ⟨answer, s₁, hc⟩ := h question s
    obtain ⟨value, s', hr⟩ := ih answer s₁
    exact ⟨value, s', answer, s₁, hc, hr⟩

/-- What an environment writes down does not change its runs. -/
theorem Runs.noting {ν : Type} (note : (question : Ask) → Answer question → List ν)
    {d : Dialogue Ask Answer α} {s s' : σ} {value : α} (h : d.Runs conduct s value s')
    (notes : List ν) : ∃ notes', d.Runs (conduct.noting note) (s, notes) value (s', notes') := by
  induction d generalizing s notes with
  | done v =>
    obtain ⟨rfl, rfl⟩ := h
    exact ⟨notes, rfl, rfl⟩
  | ask question next ih =>
    obtain ⟨answer, s₁, hc, hr⟩ := h
    obtain ⟨notes', hr'⟩ := ih answer hr (notes ++ note question answer)
    exact ⟨notes', answer, _, ⟨hc, rfl⟩, hr'⟩

/-- What is forgotten of the states makes no difference to an environment that does not use it. -/
theorem Runs.map {τ : Type} {conduct' : Conduct Ask Answer τ} {f : σ → τ}
    (hf : ∀ question s answer s', conduct question s answer s' →
      conduct' question (f s) answer (f s'))
    {d : Dialogue Ask Answer α} {s s' : σ} {value : α} (h : d.Runs conduct s value s') :
    d.Runs conduct' (f s) value (f s') := by
  induction d generalizing s with
  | done v =>
    obtain ⟨rfl, rfl⟩ := h
    exact ⟨rfl, rfl⟩
  | ask question next ih =>
    obtain ⟨answer, s₁, hc, hr⟩ := h
    exact ⟨answer, f s₁, hf question s answer s₁ hc, ih answer hr⟩

theorem Runs.of_noting {ν : Type} {note : (question : Ask) → Answer question → List ν}
    {d : Dialogue Ask Answer α} {s s' : σ × List ν} {value : α}
    (h : d.Runs (conduct.noting note) s value s') : d.Runs conduct s.1 value s'.1 :=
  h.map fun _ _ _ _ hc => hc.1

/-- What every answer preserves is preserved by a run. -/
theorem Runs.preserves {inv : σ → Prop}
    (step : ∀ question s answer s', inv s → conduct question s answer s' → inv s')
    {d : Dialogue Ask Answer α} {s s' : σ} {value : α} (h : d.Runs conduct s value s')
    (hs : inv s) : inv s' := by
  induction d generalizing s with
  | done v =>
    obtain ⟨rfl, rfl⟩ := h
    exact hs
  | ask question next ih =>
    obtain ⟨answer, s₁, hc, hr⟩ := h
    exact ih answer hr (step question s answer s₁ hs hc)

theorem Runs.andThen {d : Dialogue Ask Answer α} {f : α → Dialogue Ask Answer β} {s s' s'' : σ}
    {value : α} {value' : β} (h : d.Runs conduct s value s')
    (hf : (f value).Runs conduct s' value' s'') : (d.andThen f).Runs conduct s value' s'' := by
  induction d generalizing s with
  | done v =>
    obtain ⟨rfl, rfl⟩ := h
    exact hf
  | ask question next ih =>
    obtain ⟨answer, s₁, hc, hr⟩ := h
    exact ⟨answer, s₁, hc, ih answer hr⟩

/-- A run of two parts is a run of the first and then one of the second. -/
theorem Runs.of_andThen {d : Dialogue Ask Answer α} {f : α → Dialogue Ask Answer β} {s s'' : σ}
    {value' : β} (h : (d.andThen f).Runs conduct s value' s'') :
    ∃ value s', d.Runs conduct s value s' ∧ (f value).Runs conduct s' value' s'' := by
  induction d generalizing s with
  | done value => exact ⟨value, s, ⟨rfl, rfl⟩, h⟩
  | ask question next ih =>
    obtain ⟨answer, s₁, hc, hr⟩ := h
    obtain ⟨value, s', hfirst, hsecond⟩ := ih answer hr
    exact ⟨value, s', ⟨answer, s₁, hc, hfirst⟩, hsecond⟩

/-- What is secured holds at the end of a run, and so does every invariant of the environment. -/
theorem Secures.of_runs {inv : σ → Prop} (refl : ∀ s, inv s → terms.drift s s)
    (step : ∀ question s answer s', inv s → terms.permits question s →
      conduct question s answer s' → inv s')
    {d : Dialogue Ask Answer α} {post : α → σ → Prop} {s s' : σ} {value : α} (hi : inv s)
    (h : d.Secures conduct terms post s) (hr : d.Runs conduct s value s') :
    inv s' ∧ post value s' := by
  induction d generalizing s with
  | done v =>
    obtain ⟨rfl, rfl⟩ := hr
    exact ⟨hi, h⟩
  | ask question next ih =>
    obtain ⟨answer, s₁, hc, hr⟩ := hr
    obtain ⟨hq, hnext⟩ := h s (refl s hi)
    exact ih answer (step question s answer s₁ hi hq hc) (hnext answer s₁ hc) hr

/-- With nothing else going on, a secured condition holds at the end of every run. -/
theorem Secures.of_runs_alone {d : Dialogue Ask Answer α} {post : α → σ → Prop} {s s' : σ}
    {value : α} (h : d.Secures conduct (Terms.alone Ask σ) post s)
    (hr : d.Runs conduct s value s') : post value s' := by
  have hend : True ∧ post value s' :=
    h.of_runs (fun _ _ => rfl) (fun _ _ _ _ _ _ _ => trivial) trivial hr
  exact hend.2

end Dialogue

namespace Attempt

variable {Ask : Type} {Answer : Ask → Type} {ε ε' α β σ : Type}
variable {conduct : Conduct Ask Answer σ} {terms : Terms Ask σ}

/-- An attempt secures a condition on its outcome. -/
def Secures (conduct : Conduct Ask Answer σ) (terms : Terms Ask σ) (post : Outcome ε α → σ → Prop)
    (a : Attempt Ask Answer ε α) (s : σ) : Prop :=
  Dialogue.Secures conduct terms post a s

/-- Ask of a value what is asked next, and of anything else what is asked of the whole. -/
def onValue (next : α → σ → Prop) (post : Outcome ε β → σ → Prop) : Outcome ε α → σ → Prop
  | .ok value, s => next value s
  | .failed e, s => post (.failed e) s
  | .panicked p, s => post (.panicked p) s

@[simp] theorem onValue_ok (next : α → σ → Prop) (post : Outcome ε β → σ → Prop) (value : α)
    (s : σ) : onValue next post (.ok value) s ↔ next value s := Iff.rfl

@[simp] theorem onValue_failed (next : α → σ → Prop) (post : Outcome ε β → σ → Prop) (e : ε)
    (s : σ) : onValue next post (.failed e) s ↔ post (.failed e) s := Iff.rfl

@[simp] theorem onValue_panicked (next : α → σ → Prop) (post : Outcome ε β → σ → Prop) (p : Panic)
    (s : σ) : onValue next post (.panicked p) s ↔ post (.panicked p) s := Iff.rfl

theorem Secures.mono {a : Attempt Ask Answer ε α} {post post' : Outcome ε α → σ → Prop} {s : σ}
    (h : a.Secures conduct terms post s) (hp : ∀ o s', post o s' → post' o s') :
    a.Secures conduct terms post' s :=
  Dialogue.Secures.mono h hp

@[simp] theorem secures_pure (value : α) (post : Outcome ε α → σ → Prop) (s : σ) :
    (pure value : Attempt Ask Answer ε α).Secures conduct terms post s ↔ post (.ok value) s :=
  Iff.rfl

@[simp] theorem secures_ofOutcome (o : Outcome ε α) (post : Outcome ε α → σ → Prop) (s : σ) :
    (ofOutcome o : Attempt Ask Answer ε α).Secures conduct terms post s ↔ post o s :=
  Iff.rfl

@[simp] theorem secures_ofExcept (r : Except ε α) (post : Outcome ε α → σ → Prop) (s : σ) :
    (ofExcept r : Attempt Ask Answer ε α).Secures conduct terms post s ↔ post (.ofExcept r) s :=
  Iff.rfl

@[simp] theorem secures_fail (e : ε) (post : Outcome ε α → σ → Prop) (s : σ) :
    (fail e : Attempt Ask Answer ε α).Secures conduct terms post s ↔ post (.failed e) s :=
  Iff.rfl

@[simp] theorem secures_bind (a : Attempt Ask Answer ε α) (f : α → Attempt Ask Answer ε β)
    (post : Outcome ε β → σ → Prop) (s : σ) :
    (a >>= f).Secures conduct terms post s ↔
      a.Secures conduct terms
        (onValue (fun value s' => (f value).Secures conduct terms post s') post) s := by
  refine (Dialogue.secures_andThen a _ post s).trans ⟨fun h => ?_, fun h => ?_⟩
  · exact Dialogue.Secures.mono h fun o s' ho => by cases o <;> exact ho
  · exact Dialogue.Secures.mono h fun o s' ho => by cases o <;> exact ho

@[simp] theorem secures_hear (d : Dialogue Ask Answer α) (post : Outcome ε α → σ → Prop) (s : σ) :
    (hear d : Attempt Ask Answer ε α).Secures conduct terms post s ↔
      d.Secures conduct terms (fun value s' => post (.ok value) s') s :=
  Dialogue.secures_andThen ..

@[simp] theorem secures_call (d : Dialogue Ask Answer (Except ε α)) (post : Outcome ε α → σ → Prop)
    (s : σ) :
    (call d : Attempt Ask Answer ε α).Secures conduct terms post s ↔
      d.Secures conduct terms (fun r s' => post (.ofExcept r) s') s :=
  Dialogue.secures_andThen ..

/-- A failure that is made a value counts as one. -/
theorem secures_result (a : Attempt Ask Answer ε α) (post : Outcome ε' (Except ε α) → σ → Prop)
    (s : σ) (h : a.Secures conduct terms
      (fun o s' => match o with
        | .ok value => post (.ok (.ok value)) s'
        | .failed e => post (.ok (.error e)) s'
        | .panicked p => post (.panicked p) s') s) :
    (a.result : Attempt Ask Answer ε' (Except ε α)).Secures conduct terms post s := by
  refine (Dialogue.secures_andThen a _ post s).mpr ?_
  exact Dialogue.Secures.mono h fun o s' ho => by cases o <;> exact ho

theorem Secures.of_runs {a : Attempt Ask Answer ε α} {post : Outcome ε α → σ → Prop} {s s' : σ}
    {o : Outcome ε α} (h : a.Secures conduct (Terms.alone Ask σ) post s)
    (hr : Dialogue.Runs conduct a s o s') : post o s' :=
  Dialogue.Secures.of_runs_alone h hr

/-- After a value, a run goes on with the rest. -/
theorem run_bind {reply : (question : Ask) → σ → Answer question × σ} {a : Attempt Ask Answer ε α}
    {f : α → Attempt Ask Answer ε β} {value : α} {s s' : σ}
    (h : Dialogue.run reply a s = (.ok value, s')) :
    Dialogue.run reply (a >>= f : Attempt Ask Answer ε β) s = Dialogue.run reply (f value) s' := by
  refine (Dialogue.run_andThen reply a _ s).trans ?_
  rw [h]

/-- A failure ends a run. -/
theorem run_bind_failed {reply : (question : Ask) → σ → Answer question × σ}
    {a : Attempt Ask Answer ε α} {f : α → Attempt Ask Answer ε β} {e : ε} {s s' : σ}
    (h : Dialogue.run reply a s = (.failed e, s')) :
    Dialogue.run reply (a >>= f : Attempt Ask Answer ε β) s = (.failed e, s') := by
  refine (Dialogue.run_andThen reply a _ s).trans ?_
  rw [h]
  rfl

theorem run_mapError {reply : (question : Ask) → σ → Answer question × σ}
    {a : Attempt Ask Answer ε α} {s s' : σ} {o : Outcome ε α} (f : ε → ε')
    (h : Dialogue.run reply a s = (o, s')) :
    Dialogue.run reply (a.mapError f) s = (o.mapError f, s') := by
  refine (Dialogue.run_andThen reply a _ s).trans ?_
  rw [h]
  rfl

/-- A run of two parts stops in the first one or goes on with its value. -/
theorem runs_bind {a : Attempt Ask Answer ε α} {f : α → Attempt Ask Answer ε β} {s s' : σ}
    {o : Outcome ε β} :
    Dialogue.Runs conduct (a >>= f : Attempt Ask Answer ε β) s o s' ↔
      (∃ value s₁, Dialogue.Runs conduct a s (.ok value) s₁ ∧
        Dialogue.Runs conduct (f value) s₁ o s') ∨
      (∃ e, Dialogue.Runs conduct a s (.failed e) s' ∧ o = .failed e) ∨
      ∃ p, Dialogue.Runs conduct a s (.panicked p) s' ∧ o = .panicked p := by
  constructor
  · intro h
    obtain ⟨o₁, s₁, hfirst, hrest⟩ := Dialogue.Runs.of_andThen h
    cases o₁ with
    | ok value => exact .inl ⟨value, s₁, hfirst, hrest⟩
    | failed e =>
      obtain ⟨rfl, rfl⟩ := hrest
      exact .inr (.inl ⟨e, hfirst, rfl⟩)
    | panicked p =>
      obtain ⟨rfl, rfl⟩ := hrest
      exact .inr (.inr ⟨p, hfirst, rfl⟩)
  · rintro (⟨value, s₁, hfirst, hrest⟩ | ⟨e, hfirst, rfl⟩ | ⟨p, hfirst, rfl⟩)
    · exact hfirst.andThen hrest
    · exact hfirst.andThen ⟨rfl, rfl⟩
    · exact hfirst.andThen ⟨rfl, rfl⟩

/-- Where the first part never ends without a value, a run goes on from one. -/
theorem runs_bind_of_ok {a : Attempt Ask Answer ε α} {f : α → Attempt Ask Answer ε β} {s s' : σ}
    {o : Outcome ε β} (h : ∀ o s₁, Dialogue.Runs conduct a s o s₁ → ∃ value, o = .ok value) :
    Dialogue.Runs conduct (a >>= f : Attempt Ask Answer ε β) s o s' ↔
      ∃ value s₁, Dialogue.Runs conduct a s (.ok value) s₁ ∧
        Dialogue.Runs conduct (f value) s₁ o s' := by
  rw [runs_bind]
  refine or_iff_left ?_
  rintro (⟨e, hfirst, -⟩ | ⟨p, hfirst, -⟩)
  · cases (h _ _ hfirst).choose_spec
  · cases (h _ _ hfirst).choose_spec

/-- Where the first part ends in one way, and with a value, a run goes on from there. -/
theorem runs_bind_ok {a : Attempt Ask Answer ε α} {f : α → Attempt Ask Answer ε β} {value : α}
    {s s₁ s' : σ} {o : Outcome ε β}
    (h : ∀ o s', Dialogue.Runs conduct a s o s' ↔ o = .ok value ∧ s' = s₁) :
    Dialogue.Runs conduct (a >>= f : Attempt Ask Answer ε β) s o s' ↔
      Dialogue.Runs conduct (f value) s₁ o s' := by
  rw [runs_bind_of_ok fun _ _ hfirst => ⟨value, ((h _ _).mp hfirst).1⟩]
  constructor
  · rintro ⟨value', s₂, hfirst, hrest⟩
    obtain ⟨hvalue, rfl⟩ := (h _ _).mp hfirst
    obtain rfl := Outcome.ok.inj hvalue
    exact hrest
  · exact fun hrest => ⟨value, s₁, (h _ _).mpr ⟨rfl, rfl⟩, hrest⟩

theorem runs_mapError {a : Attempt Ask Answer ε α} {f : ε → ε'} {s s' : σ} {o : Outcome ε' α} :
    Dialogue.Runs conduct (a.mapError f : Attempt Ask Answer ε' α) s o s' ↔
      ∃ o₁, Dialogue.Runs conduct a s o₁ s' ∧ o = o₁.mapError f := by
  constructor
  · intro h
    obtain ⟨o₁, s₁, hrun, rfl, rfl⟩ := Dialogue.Runs.of_andThen h
    exact ⟨o₁, hrun, rfl⟩
  · rintro ⟨o₁, hrun, rfl⟩
    exact hrun.andThen ⟨rfl, rfl⟩

/-- After one question a run goes on with the answer. -/
theorem runs_hear_bind {question : Ask} {f : Answer question → Attempt Ask Answer ε β} {s s' : σ}
    {o : Outcome ε β} :
    Dialogue.Runs conduct ((hear (Dialogue.put question) : Attempt Ask Answer ε (Answer question)) >>=
        f : Attempt Ask Answer ε β) s o s' ↔
      ∃ answer s₁, conduct question s answer s₁ ∧ Dialogue.Runs conduct (f answer) s₁ o s' :=
  Iff.rfl

/-- A run with a failure as its value is a run that fails. -/
theorem runs_result {a : Attempt Ask Answer ε α} {s s' : σ} {o : Outcome ε' (Except ε α)} :
    Dialogue.Runs conduct (a.result : Attempt Ask Answer ε' (Except ε α)) s o s' ↔
      (∃ r, o = .ok r ∧ Dialogue.Runs conduct a s (.ofExcept r) s') ∨
        ∃ p, o = .panicked p ∧ Dialogue.Runs conduct a s (.panicked p) s' := by
  constructor
  · intro h
    obtain ⟨o₁, s₁, hrun, hend⟩ := Dialogue.Runs.of_andThen h
    cases o₁ with
    | ok value =>
      obtain ⟨rfl, rfl⟩ := hend
      exact .inl ⟨.ok value, rfl, hrun⟩
    | failed e =>
      obtain ⟨rfl, rfl⟩ := hend
      exact .inl ⟨.error e, rfl, hrun⟩
    | panicked p =>
      obtain ⟨rfl, rfl⟩ := hend
      exact .inr ⟨p, rfl, hrun⟩
  · rintro (⟨value | e, rfl, hrun⟩ | ⟨p, rfl, hrun⟩)
    · exact hrun.andThen ⟨rfl, rfl⟩
    · exact hrun.andThen ⟨rfl, rfl⟩
    · exact hrun.andThen ⟨rfl, rfl⟩

/-! ## Attempts that move along a relation -/

/-- However it ends, an attempt that is alone moves along a relation. -/
def Respects (conduct : Conduct Ask Answer σ) (R : σ → σ → Prop) (a : Attempt Ask Answer ε α) :
    Prop :=
  ∀ s, a.Secures conduct (Terms.alone Ask σ) (fun _ s' => R s s') s

variable {R : σ → σ → Prop}

theorem respects_ofOutcome [IsPreorder σ R] (o : Outcome ε α) :
    (ofOutcome o : Attempt Ask Answer ε α).Respects conduct R :=
  fun s => refl_of R s

theorem respects_pure [IsPreorder σ R] (value : α) :
    (pure value : Attempt Ask Answer ε α).Respects conduct R :=
  fun s => refl_of R s

theorem respects_hear {question : Ask}
    (h : ∀ s answer s', conduct question s answer s' → R s s') :
    (hear (Dialogue.put question) : Attempt Ask Answer ε (Answer question)).Respects conduct R := by
  intro s
  refine (secures_hear ..).mpr ((Dialogue.secures_put ..).mpr ?_)
  rintro s₁ rfl
  exact ⟨trivial, fun answer s₂ hc => h _ answer s₂ hc⟩

theorem respects_call {question : Ask} {f : Answer question → Except ε α}
    (h : ∀ s answer s', conduct question s answer s' → R s s') :
    (call (.ask question fun answer => .done (f answer)) : Attempt Ask Answer ε α).Respects conduct
      R := by
  intro s
  refine (secures_call ..).mpr ((Dialogue.secures_ask ..).mpr ?_)
  rintro s₁ rfl
  exact ⟨trivial, fun answer s₂ hc => h _ answer s₂ hc⟩

/-- What comes after an attempt starts where the attempt may have led. -/
theorem Respects.secures_bind {a : Attempt Ask Answer ε α} {f : α → Attempt Ask Answer ε β}
    {post : Outcome ε β → σ → Prop} {s : σ} (ha : a.Respects conduct R)
    (hstop : ∀ (o : Outcome ε β) s', o.isOk = false → R s s' → post o s')
    (hgo : ∀ value s', R s s' → (f value).Secures conduct (Terms.alone Ask σ) post s') :
    (a >>= f).Secures conduct (Terms.alone Ask σ) post s := by
  refine (Attempt.secures_bind a f post s).mpr ((ha s).mono fun o s' hs => ?_)
  cases o with
  | ok value => exact hgo value s' hs
  | failed e => exact hstop (.failed e) s' rfl hs
  | panicked p => exact hstop (.panicked p) s' rfl hs

theorem Respects.bind [IsPreorder σ R] {a : Attempt Ask Answer ε α}
    {f : α → Attempt Ask Answer ε β} (ha : a.Respects conduct R)
    (hf : ∀ value, (f value).Respects conduct R) : (a >>= f).Respects conduct R := by
  intro s
  refine ha.secures_bind (fun _ _ _ hs => hs) fun value s' hs => ?_
  exact (hf value s').mono fun _ s'' hs' => trans_of R hs hs'

/-- A run of an attempt moves along the relation. -/
theorem Respects.of_runs {a : Attempt Ask Answer ε α} (ha : a.Respects conduct R) {s s' : σ}
    {o : Outcome ε α} (hr : Dialogue.Runs conduct a s o s') : R s s' :=
  (ha s).of_runs hr

/-! ## Values that keep a promise -/

/-- What there is in place of a value. -/
inductive Lapse (ε : Type) where
  | failure (e : ε)
  | panic (p : Panic)

/-- An end that moved along a relation, with a value as promised, or with a lapse that may occur. -/
structure Kept (R : σ → σ → Prop) (lapses : Lapse ε → σ → Prop) (Q : α → σ → Prop) (s : σ)
    (o : Outcome ε α) (s' : σ) : Prop where
  moves : R s s'
  value : ∀ value, o = .ok value → Q value s'
  failure : ∀ e, o = .failed e → lapses (.failure e) s'
  panic : ∀ p, o = .panicked p → lapses (.panic p) s'

/-- However it ends, an attempt that is alone keeps its promise. -/
def Promises (conduct : Conduct Ask Answer σ) (R : σ → σ → Prop) (lapses : Lapse ε → σ → Prop)
    (Q : α → σ → Prop) (a : Attempt Ask Answer ε α) (s : σ) : Prop :=
  a.Secures conduct (Terms.alone Ask σ) (Kept R lapses Q s) s

variable {lapses : Lapse ε → σ → Prop} {Q : α → σ → Prop} {s s' : σ}

theorem kept_ok {value : α} (hR : R s s') (h : Q value s') : Kept R lapses Q s (.ok value) s' := by
  refine ⟨hR, fun value' hvalue => ?_, nofun, nofun⟩
  obtain rfl := Outcome.ok.inj hvalue
  exact h

theorem kept_failed {e : ε} (hR : R s s') (h : lapses (.failure e) s') :
    Kept R lapses Q s (.failed e) s' := by
  refine ⟨hR, nofun, fun e' he => ?_, nofun⟩
  obtain rfl := Outcome.failed.inj he
  exact h

theorem kept_panicked {p : Panic} (hR : R s s') (h : lapses (.panic p) s') :
    Kept R lapses Q s (.panicked p) s' := by
  refine ⟨hR, nofun, nofun, fun p' hp => ?_⟩
  obtain rfl := Outcome.panicked.inj hp
  exact h

theorem Promises.mono {R' : σ → σ → Prop} {lapses' : Lapse ε → σ → Prop} {Q' : α → σ → Prop}
    {a : Attempt Ask Answer ε α} (ha : a.Promises conduct R lapses Q s)
    (hR : ∀ s', R s s' → R' s s') (hl : ∀ l s', R s s' → lapses l s' → lapses' l s')
    (hQ : ∀ value s', R s s' → Q value s' → Q' value s') :
    a.Promises conduct R' lapses' Q' s := by
  refine Secures.mono ha fun o s' h => ⟨hR s' h.moves, fun value ho => ?_, fun e ho => ?_,
    fun p ho => ?_⟩
  · exact hQ value s' h.moves (h.value value ho)
  · exact hl (.failure e) s' h.moves (h.failure e ho)
  · exact hl (.panic p) s' h.moves (h.panic p ho)

theorem promises_pure [IsPreorder σ R] {value : α} (h : Q value s) :
    (pure value : Attempt Ask Answer ε α).Promises conduct R lapses Q s :=
  kept_ok (refl_of R s) h

theorem promises_panic [IsPreorder σ R] {p : Panic} (h : lapses (.panic p) s) :
    (ofOutcome (.panicked p) : Attempt Ask Answer ε α).Promises conduct R lapses Q s :=
  kept_panicked (refl_of R s) h

theorem promises_ofExcept [IsPreorder σ R] {r : Except ε α}
    (hl : ∀ e, r = .error e → lapses (.failure e) s) :
    (ofExcept r : Attempt Ask Answer ε α).Promises conduct R lapses
      (fun value s' => s' = s ∧ r = .ok value) s := by
  cases r with
  | ok value => exact kept_ok (refl_of R s) ⟨rfl, rfl⟩
  | error e => exact kept_failed (refl_of R s) (hl e rfl)

theorem promises_hear {question : Ask} {Q : Answer question → σ → Prop}
    (h : ∀ answer s', conduct question s answer s' → R s s' ∧ Q answer s') :
    (hear (Dialogue.put question) : Attempt Ask Answer ε (Answer question)).Promises conduct R
      lapses Q s := by
  refine (secures_hear ..).mpr ((Dialogue.secures_put ..).mpr ?_)
  rintro _ rfl
  exact ⟨trivial, fun answer s' hc => kept_ok (h answer s' hc).1 (h answer s' hc).2⟩

theorem promises_call {question : Ask} {f : Answer question → Except ε α}
    (h : ∀ answer s', conduct question s answer s' →
      R s s' ∧ (∀ value, f answer = .ok value → Q value s') ∧
        ∀ e, f answer = .error e → lapses (.failure e) s') :
    (call (.ask question fun answer => .done (f answer)) : Attempt Ask Answer ε α).Promises conduct
      R lapses Q s := by
  refine (secures_call ..).mpr ((Dialogue.secures_ask ..).mpr ?_)
  rintro _ rfl
  refine ⟨trivial, fun answer s' hc => (Dialogue.secures_done ..).mpr ?_⟩
  obtain ⟨hR, hvalue, hlapse⟩ := h answer s' hc
  cases hf : f answer with
  | ok value => exact kept_ok hR (hvalue value hf)
  | error e => exact kept_failed hR (hlapse e hf)

/-- What comes after a value may count on what was promised of it. -/
theorem Promises.bind [IsPreorder σ R] {P : β → σ → Prop} {a : Attempt Ask Answer ε α}
    {f : α → Attempt Ask Answer ε β} (ha : a.Promises conduct R lapses Q s)
    (hf : ∀ value s', R s s' → Q value s' → (f value).Promises conduct R lapses P s') :
    (a >>= f).Promises conduct R lapses P s := by
  refine (Attempt.secures_bind a f _ s).mpr (Secures.mono ha fun o s' h => ?_)
  cases o with
  | ok value =>
    refine Secures.mono (hf value s' h.moves (h.value value rfl)) fun o' s'' h' => ?_
    exact ⟨trans_of R h.moves h'.moves, h'.value, h'.failure, h'.panic⟩
  | failed e => exact kept_failed h.moves (h.failure e rfl)
  | panicked p => exact kept_panicked h.moves (h.panic p rfl)

/-- Where no lapse may occur there is a value. -/
theorem Promises.certain {a : Attempt Ask Answer ε α}
    (ha : a.Promises conduct R (fun _ _ => False) Q s) :
    a.Secures conduct (Terms.alone Ask σ)
      (fun o s' => R s s' ∧ ∃ value, o = .ok value ∧ Q value s') s := by
  refine Secures.mono ha fun o s' h => ⟨h.moves, ?_⟩
  cases o with
  | ok value => exact ⟨value, rfl, h.value value rfl⟩
  | failed e => exact (h.failure e rfl).elim
  | panicked p => exact (h.panic p rfl).elim

theorem Promises.of_runs {a : Attempt Ask Answer ε α} (ha : a.Promises conduct R lapses Q s)
    {s' : σ} {o : Outcome ε α} (hr : Dialogue.Runs conduct a s o s') : Kept R lapses Q s o s' :=
  Secures.of_runs ha hr

end Attempt

end SignIn
