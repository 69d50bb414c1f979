/-!
# Dialogues

A program that needs a store, a queue, a clock or a source of random numbers is
written as a finite tree of questions. Each question is put to the environment,
and the rest of the program is a function of the answer. What the environment
does, and which of its calls fail, is decided only when the tree is run.
-/

namespace SignIn

/-- A program that is done, or asks a question and goes on with the answer. -/
inductive Dialogue (Ask : Type) (Answer : Ask → Type) (α : Type) : Type where
  | done (value : α) : Dialogue Ask Answer α
  | ask (question : Ask) (next : Answer question → Dialogue Ask Answer α) : Dialogue Ask Answer α

namespace Dialogue

variable {Ask : Type} {Answer : Ask → Type} {α β γ σ : Type}

/-- Ask one question and return its answer. -/
def put (question : Ask) : Dialogue Ask Answer (Answer question) :=
  .ask question .done

/-- Go on with the value of a dialogue. -/
def andThen : Dialogue Ask Answer α → (α → Dialogue Ask Answer β) → Dialogue Ask Answer β
  | .done value, f => f value
  | .ask question next, f => .ask question fun answer => (next answer).andThen f

instance : Monad (Dialogue Ask Answer) where
  pure := .done
  bind := .andThen

@[simp] theorem done_andThen (value : α) (f : α → Dialogue Ask Answer β) :
    (Dialogue.done value).andThen f = f value := rfl

@[simp] theorem ask_andThen (question : Ask) (next : Answer question → Dialogue Ask Answer α)
    (f : α → Dialogue Ask Answer β) :
    (Dialogue.ask question next).andThen f = .ask question fun answer => (next answer).andThen f :=
  rfl

@[simp] theorem andThen_done (d : Dialogue Ask Answer α) : d.andThen .done = d := by
  induction d with
  | done value => rfl
  | ask question next ih => simp [ih]

theorem andThen_assoc (d : Dialogue Ask Answer α) (f : α → Dialogue Ask Answer β)
    (g : β → Dialogue Ask Answer γ) :
    (d.andThen f).andThen g = d.andThen fun value => (f value).andThen g := by
  induction d with
  | done value => rfl
  | ask question next ih => simp [ih]

/-- Run a dialogue against an environment with state: every question is answered
at once, in order, and may change the state. -/
def run (reply : (question : Ask) → σ → Answer question × σ) : Dialogue Ask Answer α → σ → α × σ
  | .done value, s => (value, s)
  | .ask question next, s =>
    let answered := reply question s
    (next answered.1).run reply answered.2

@[simp] theorem run_done (reply : (question : Ask) → σ → Answer question × σ) (value : α) (s : σ) :
    (Dialogue.done value).run reply s = (value, s) := rfl

@[simp] theorem run_ask (reply : (question : Ask) → σ → Answer question × σ) (question : Ask)
    (next : Answer question → Dialogue Ask Answer α) (s : σ) :
    (Dialogue.ask question next).run reply s =
      (next (reply question s).1).run reply (reply question s).2 := rfl

theorem run_andThen (reply : (question : Ask) → σ → Answer question × σ)
    (d : Dialogue Ask Answer α) (f : α → Dialogue Ask Answer β) (s : σ) :
    (d.andThen f).run reply s = (f (d.run reply s).1).run reply (d.run reply s).2 := by
  induction d generalizing s with
  | done value => rfl
  | ask question next ih => simp [ih]

/-- The questions put in a run, in order. -/
def questions (reply : (question : Ask) → σ → Answer question × σ) :
    Dialogue Ask Answer α → σ → List Ask
  | .done _, _ => []
  | .ask question next, s =>
    let answered := reply question s
    question :: (next answered.1).questions reply answered.2

/-- Replace every question by a dialogue over another vocabulary that yields its answer. -/
def substitute {Ask' : Type} {Answer' : Ask' → Type}
    (meaning : (question : Ask) → Dialogue Ask' Answer' (Answer question)) :
    Dialogue Ask Answer α → Dialogue Ask' Answer' α
  | .done value => .done value
  | .ask question next =>
    (meaning question).andThen fun answer => (next answer).substitute meaning

end Dialogue

end SignIn
