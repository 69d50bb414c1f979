import SignIn.Proofs.Terms

/-!
# What is asked at all

Some things can be said of a dialogue without knowing anything about its environment:
whatever is answered, only certain questions are asked. An attempt can be described so
part by part, with what is known of the values that it hands on.
-/
namespace SignIn

namespace Dialogue

variable {Ask : Type} {Answer : Ask → Type} {α : Type}

/-- Whatever the environment is, only what is permitted is asked of it. -/
def AsksOnly (permitted : Ask → Prop) (d : Dialogue Ask Answer α) : Prop :=
  ∀ {σ : Type} (reply : (question : Ask) → σ → Answer question × σ) (s : σ),
    ∀ question ∈ d.questions reply s, permitted question

theorem Secures.asksOnly {permitted : Ask → Prop} {post : α → Unit → Prop}
    {d : Dialogue Ask Answer α}
    (h : d.Secures (fun _ _ _ _ => True) ⟨Eq, fun question _ => permitted question⟩ post ()) :
    d.AsksOnly permitted := by
  intro σ reply s
  induction d generalizing s with
  | done value => simp [questions]
  | ask question next ih =>
    obtain ⟨hq, hnext⟩ := h () rfl
    intro q hmem
    simp only [questions, List.mem_cons] at hmem
    rcases hmem with rfl | hmem
    · exact hq
    · exact ih _ (hnext _ () trivial) _ q hmem

end Dialogue

namespace Attempt

variable {Ask : Type} {Answer : Ask → Type} {ε ε' α β : Type} {permitted : Ask → Prop}
variable {Q : α → Prop} {P : β → Prop}

/-- Whatever is answered, only what is permitted is asked, and a value is as described. -/
def Asks (permitted : Ask → Prop) (Q : α → Prop) (a : Attempt Ask Answer ε α) : Prop :=
  a.Secures (fun _ _ _ (_ : Unit) => True) ⟨Eq, fun question _ => permitted question⟩
    (fun o _ => ∀ value, o = .ok value → Q value) ()

theorem Asks.asksOnly {a : Attempt Ask Answer ε α} (ha : a.Asks permitted Q) :
    Dialogue.AsksOnly permitted a :=
  Dialogue.Secures.asksOnly ha

theorem Asks.mono {permitted' : Ask → Prop} {Q' : α → Prop} {a : Attempt Ask Answer ε α}
    (ha : a.Asks permitted Q) (hpermitted : ∀ question, permitted question → permitted' question)
    (hQ : ∀ value, Q value → Q' value) : a.Asks permitted' Q' := by
  unfold Asks Secures at *
  generalize () = u at ha
  induction a generalizing u with
  | done o => exact fun value ho => hQ value (ha value ho)
  | ask question next ih =>
    intro s hs
    obtain ⟨hq, hnext⟩ := ha s hs
    exact ⟨hpermitted question hq, fun answer s' h => ih answer s' (hnext answer s' h)⟩

/-- In every environment that keeps an invariant when it is asked what is permitted, a run keeps the
invariant. -/
theorem Asks.of_runs {σ : Type} {conduct : Conduct Ask Answer σ} {inv : σ → Prop}
    {a : Attempt Ask Answer ε α} (ha : a.Asks permitted Q)
    (step : ∀ question s answer s', permitted question → inv s → conduct question s answer s' →
      inv s')
    {s s' : σ} {o : Outcome ε α} (hr : Dialogue.Runs conduct a s o s') (hs : inv s) :
    inv s' ∧ ∀ value, o = .ok value → Q value := by
  unfold Asks Secures at ha
  induction a generalizing s with
  | done o' =>
    obtain ⟨rfl, rfl⟩ := hr
    exact ⟨hs, ha⟩
  | ask question next ih =>
    obtain ⟨answer, s₁, hc, hr⟩ := hr
    obtain ⟨hq, hnext⟩ := ha () rfl
    exact ih answer (hnext answer () trivial) hr (step question s answer s₁ hq hs hc)

theorem asks_ofOutcome {o : Outcome ε α} (h : ∀ value, o = .ok value → Q value) :
    (ofOutcome o : Attempt Ask Answer ε α).Asks permitted Q := h

theorem asks_pure {value : α} (h : Q value) :
    (pure value : Attempt Ask Answer ε α).Asks permitted Q := by
  apply asks_ofOutcome
  rintro _ ⟨⟩
  exact h

theorem asks_fail (e : ε) : (fail e : Attempt Ask Answer ε α).Asks permitted Q := by
  apply asks_ofOutcome
  rintro _ ⟨⟩

theorem asks_ofExcept {r : Except ε α} (h : ∀ value, r = .ok value → Q value) :
    (ofExcept r : Attempt Ask Answer ε α).Asks permitted Q := by
  apply asks_ofOutcome
  intro value ho
  cases r with
  | ok v =>
    obtain rfl := Outcome.ok.inj ho
    exact h v rfl
  | error e => cases ho

theorem asks_hear {question : Ask} (h : permitted question) :
    (hear (Dialogue.put question) : Attempt Ask Answer ε (Answer question)).Asks permitted
      fun _ => True := by
  refine (secures_hear ..).mpr ((Dialogue.secures_put ..).mpr ?_)
  rintro _ rfl
  exact ⟨h, fun _ _ _ _ _ => trivial⟩

theorem asks_call {question : Ask} {f : Answer question → Except ε α} (h : permitted question) :
    (call (.ask question fun answer => .done (f answer)) : Attempt Ask Answer ε α).Asks permitted
      fun _ => True := by
  refine (secures_call ..).mpr ((Dialogue.secures_ask ..).mpr ?_)
  rintro _ rfl
  exact ⟨h, fun _ _ _ _ _ => trivial⟩

/-- What comes after a value may count on what is known of it. -/
theorem Asks.bind {a : Attempt Ask Answer ε α} {f : α → Attempt Ask Answer ε β}
    (ha : a.Asks permitted Q) (hf : ∀ value, Q value → (f value).Asks permitted P) :
    (a >>= f).Asks permitted P := by
  refine (secures_bind ..).mpr (Secures.mono ha fun o s h => ?_)
  cases o with
  | ok value => exact hf value (h value rfl)
  | failed e => exact fun _ ho => (by cases ho)
  | panicked p => exact fun _ ho => (by cases ho)

theorem Asks.mapError {a : Attempt Ask Answer ε α} (ha : a.Asks permitted Q) (f : ε → ε') :
    (a.mapError f).Asks permitted Q := by
  refine (Dialogue.secures_andThen ..).mpr (Dialogue.Secures.mono ha fun o s h => ?_)
  intro value ho
  cases o with
  | ok v =>
    obtain rfl := Outcome.ok.inj ho
    exact h v rfl
  | failed e => cases ho
  | panicked p => cases ho

end Attempt

end SignIn
