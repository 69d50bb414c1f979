import Mathlib.Data.Set.Basic
import Mathlib.Logic.Function.Basic
import Mathlib.Logic.Relation
import Mathlib.Logic.Nontrivial.Basic
import SignIn.Proofs.Terms

/-!
# Workers that share an environment

Any number of workers hold dialogues with one environment. One question at a
time is answered, of whichever worker, and between two answers the environment
may change on its own. A worker that is never answered again has crashed. Where it
matters for whom a worker acts, it signs its questions.

Terms suit a plant if each worker, asking only what is permitted, leaves to the
others no more than the drift that they allow for. Then an invariant of the
single answers is an invariant of the plant, in whatever order they come.
-/
namespace SignIn

/-- The environment, what happens in it by itself, and what an idle worker may begin. -/
structure Plant (Ask : Type) (Answer : Ask → Type) (σ : Type) where
  conduct : Conduct Ask Answer σ
  outside : σ → σ → Prop
  programs : Set (Dialogue Ask Answer Unit)

/-- The environment, and for each worker what it has still to do. -/
structure Workers (ι Ask : Type) (Answer : Ask → Type) (σ : Type) where
  state : σ
  doing : ι → Dialogue Ask Answer Unit

namespace Dialogue

variable {Ask : Type} {Answer : Ask → Type} {α σ ν : Type}

/-- The same dialogue, with every question signed by the one who puts it. -/
def signed (who : ν) : Dialogue Ask Answer α → Dialogue (ν × Ask) (fun q => Answer q.2) α
  | .done value => .done value
  | .ask question next => .ask (who, question) fun answer => (next answer).signed who

/-- A signed dialogue keeps to the terms that its signature stands for. -/
theorem secures_signed {conduct : Conduct Ask Answer σ} {terms : Terms (ν × Ask) σ} (who : ν)
    (d : Dialogue Ask Answer α) (post : α → σ → Prop) (s : σ) :
    (d.signed who).Secures (fun q => conduct q.2) terms post s ↔
      d.Secures conduct ⟨terms.drift, fun question => terms.permits (who, question)⟩ post s := by
  induction d generalizing s with
  | done value => exact Iff.rfl
  | ask question next ih => simp only [signed, secures_ask, ih]

end Dialogue

namespace Workers

variable {ι Ask : Type} {Answer : Ask → Type} {σ : Type}
variable {plant : Plant Ask Answer σ} {terms : Terms Ask σ} {inv ready : σ → Prop}

def idle (s : σ) : Workers ι Ask Answer σ := ⟨s, fun _ => .done ()⟩

/-- The terms on which each worker acts fit those on which the others do. -/
structure Suits (ι : Type) (plant : Plant Ask Answer σ) (terms : Terms Ask σ)
    (inv ready : σ → Prop) : Prop where
  refl : ∀ s, inv s → terms.drift s s
  trans : ∀ a b c, terms.drift a b → terms.drift b c → terms.drift a c
  answer : ∀ question s reply s', inv s → terms.permits question s →
    plant.conduct question s reply s' → inv s' ∧ (Nontrivial ι → terms.drift s s')
  outside : ∀ s s', inv s → plant.outside s s' → inv s' ∧ terms.drift s s'
  stable : ∀ s s', ready s → terms.drift s s' → ready s'
  begins : ∀ d ∈ plant.programs, ∀ s, inv s → ready s →
    d.Secures plant.conduct terms (fun _ => ready) s

/-- The environment is in order, and every worker secures what it has still to do. -/
def Orderly (plant : Plant Ask Answer σ) (terms : Terms Ask σ) (inv ready : σ → Prop)
    (w : Workers ι Ask Answer σ) : Prop :=
  inv w.state ∧ ∀ i, (w.doing i).Secures plant.conduct terms (fun _ => ready) w.state

theorem Suits.secures_drift (h : Suits ι plant terms inv ready) {d : Dialogue Ask Answer Unit}
    {s s' : σ} (hd : d.Secures plant.conduct terms (fun _ => ready) s)
    (hs : terms.drift s s') : d.Secures plant.conduct terms (fun _ => ready) s' :=
  hd.drift h.trans (fun _ a b hab ha => h.stable a b ha hab) hs

variable [DecidableEq ι]

inductive Step (plant : Plant Ask Answer σ) :
    Workers ι Ask Answer σ → Workers ι Ask Answer σ → Prop where
  | answer (i : ι) {w : Workers ι Ask Answer σ} {question : Ask}
      {next : Answer question → Dialogue Ask Answer Unit} {reply : Answer question} {s : σ} :
      w.doing i = .ask question next → plant.conduct question w.state reply s →
      Step plant w ⟨s, Function.update w.doing i (next reply)⟩
  | begin (i : ι) {w : Workers ι Ask Answer σ} {d : Dialogue Ask Answer Unit} :
      w.doing i = .done () → d ∈ plant.programs →
      Step plant w ⟨w.state, Function.update w.doing i d⟩
  | outside {w : Workers ι Ask Answer σ} {s : σ} :
      plant.outside w.state s → Step plant w ⟨s, w.doing⟩

abbrev Reaches (plant : Plant Ask Answer σ) (w w' : Workers ι Ask Answer σ) : Prop :=
  Relation.ReflTransGen (Step plant) w w'

/-- One answer that a worker is given. -/
theorem Reaches.answer {w₀ : Workers ι Ask Answer σ} {s s' : σ}
    {doing : ι → Dialogue Ask Answer Unit} {i : ι} {question : Ask}
    {next : Answer question → Dialogue Ask Answer Unit}
    (h : Reaches plant w₀ ⟨s, Function.update doing i (.ask question next)⟩)
    (reply : Answer question) (hc : plant.conduct question s reply s') :
    Reaches plant w₀ ⟨s', Function.update doing i (next reply)⟩ := by
  have hstep : Step plant (⟨s, Function.update doing i (.ask question next)⟩ :
      Workers ι Ask Answer σ)
      ⟨s', Function.update (Function.update doing i (.ask question next)) i (next reply)⟩ :=
    .answer i (Function.update_self ..) hc
  rw [Function.update_idem] at hstep
  exact h.tail hstep

/-- What one worker does from its beginning to its end can happen without a break. -/
theorem reaches_of_runs {w₀ : Workers ι Ask Answer σ}
    {d : Dialogue Ask Answer Unit} {s s' : σ} {doing : ι → Dialogue Ask Answer Unit} (i : ι)
    (h : Reaches plant w₀ ⟨s, Function.update doing i d⟩)
    (hr : d.Runs plant.conduct s () s') :
    Reaches plant w₀ ⟨s', Function.update doing i (.done ())⟩ := by
  induction d generalizing s with
  | done value =>
    obtain ⟨-, rfl⟩ := hr
    exact h
  | ask question next ih =>
    obtain ⟨reply, s₁, hc, hr⟩ := hr
    exact ih reply (Reaches.answer h reply hc) hr

/-- A program that an idle worker begins and brings to its end. -/
theorem reaches_idle {w₀ : Workers ι Ask Answer σ}
    {d : Dialogue Ask Answer Unit} {s s' : σ} (i : ι) (h : Reaches plant w₀ (idle s))
    (hd : d ∈ plant.programs) (hr : d.Runs plant.conduct s () s') :
    Reaches plant w₀ (idle s') := by
  have hb : Step plant (idle s) (⟨s, Function.update (idle s).doing i d⟩ :
      Workers ι Ask Answer σ) := .begin i rfl hd
  have hend := reaches_of_runs i (h.tail hb) hr
  rwa [show Function.update (idle s : Workers ι Ask Answer σ).doing i (.done ()) =
    (idle s' : Workers ι Ask Answer σ).doing from Function.update_eq_self i _] at hend

/-- What becomes of the workers is the same for an environment that forgets a part of its state. -/
theorem Reaches.project {τ : Type} {plant' : Plant Ask Answer τ} {f : σ → τ}
    (hc : ∀ question s reply s', plant.conduct question s reply s' →
      plant'.conduct question (f s) reply (f s'))
    (ho : ∀ s s', plant.outside s s' → plant'.outside (f s) (f s'))
    (hp : plant.programs ⊆ plant'.programs) {w w' : Workers ι Ask Answer σ}
    (h : Reaches plant w w') :
    Reaches plant' ⟨f w.state, w.doing⟩ ⟨f w'.state, w'.doing⟩ := by
  induction h with
  | refl => exact .refl
  | tail _ hs ih =>
    refine ih.tail ?_
    cases hs with
    | answer i hq ha => exact .answer i hq (hc _ _ _ _ ha)
    | begin i hq hd => exact .begin i hq (hp hd)
    | outside hs => exact .outside (ho _ _ hs)

/-- One step of whichever worker, or of none. -/
theorem Suits.orderly_step (h : Suits ι plant terms inv ready) {w w' : Workers ι Ask Answer σ}
    (hw : Orderly plant terms inv ready w) (hs : Step plant w w') :
    Orderly plant terms inv ready w' := by
  obtain ⟨hi, hd⟩ := hw
  cases hs with
  | @answer i _ question next reply s hq hc =>
    have hask := hd i
    rw [hq] at hask
    obtain ⟨hp, hnext⟩ := hask w.state (h.refl _ hi)
    obtain ⟨hi', hdrift⟩ := h.answer question w.state reply s hi hp hc
    refine ⟨hi', fun j => ?_⟩
    by_cases hj : j = i
    · subst hj
      simp only [Function.update_self]
      exact hnext reply s hc
    · simp only [Function.update_of_ne hj]
      exact h.secures_drift (hd j) (hdrift ⟨j, i, hj⟩)
  | @begin i _ d hq hp =>
    have hready := hd i
    rw [hq, Dialogue.secures_done] at hready
    refine ⟨hi, fun j => ?_⟩
    by_cases hj : j = i
    · subst hj
      simp only [Function.update_self]
      exact h.begins d hp w.state hi hready
    · simp only [Function.update_of_ne hj]
      exact hd j
  | @outside _ s ho =>
    obtain ⟨hi', hdrift⟩ := h.outside w.state s hi ho
    exact ⟨hi', fun j => h.secures_drift (hd j) hdrift⟩

/-- Everything stays in order, whatever the order of the steps. -/
theorem Suits.orderly_of_reaches (h : Suits ι plant terms inv ready) {s : σ}
    {w : Workers ι Ask Answer σ} (hi : inv s) (hr : ready s) (hw : Reaches plant (idle s) w) :
    Orderly plant terms inv ready w := by
  induction hw with
  | refl => exact ⟨hi, fun _ => hr⟩
  | tail _ hs ih => exact h.orderly_step ih hs

/-- The invariant holds at every moment. -/
theorem Suits.inv_of_reaches (h : Suits ι plant terms inv ready) {s : σ}
    {w : Workers ι Ask Answer σ} (hi : inv s) (hr : ready s) (hw : Reaches plant (idle s) w) :
    inv w.state :=
  (h.orderly_of_reaches hi hr hw).1

/-- What a worker asks next is permitted. -/
theorem Suits.permits_of_reaches (h : Suits ι plant terms inv ready) {s : σ}
    {w : Workers ι Ask Answer σ} (hi : inv s) (hr : ready s) (hw : Reaches plant (idle s) w) {i : ι}
    {question : Ask} {next : Answer question → Dialogue Ask Answer Unit}
    (hq : w.doing i = .ask question next) : terms.permits question w.state := by
  obtain ⟨hinv, hd⟩ := h.orderly_of_reaches hi hr hw
  have hask := hd i
  rw [hq] at hask
  exact (hask w.state (h.refl _ hinv)).1

end Workers

end SignIn
