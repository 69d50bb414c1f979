import SignIn.Proofs.Terms

/-!
# Transcripts

Of an environment that may answer as it likes nothing can be concluded. What is left
to say of a dialogue is what was said in it: the questions with their answers, as far
as they are noted, and the value in the end. The notes of a dialogue that has parts
are those of its parts. If every question is itself replaced by a dialogue, they are
the notes of these dialogues, in the order of the questions.
-/
namespace SignIn

namespace Dialogue

variable {Ask Ask' : Type} {Answer : Ask → Type} {Answer' : Ask' → Type} {α β ν : Type}

/-- Every answer is possible, and a note is taken of it. -/
def noted (note : (question : Ask) → Answer question → List ν) : Conduct Ask Answer (List ν) :=
  fun question past answer past' => past' = past ++ note question answer

/-- The dialogue can end with this value, and with these notes. -/
def Transcript (note : (question : Ask) → Answer question → List ν) (d : Dialogue Ask Answer α)
    (value : α) (notes : List ν) : Prop :=
  d.Runs (noted note) [] value notes

variable {note : (question : Ask) → Answer question → List ν}

/-- What was noted before makes no difference. -/
theorem runs_noted {d : Dialogue Ask Answer α} {value : α} {past past' : List ν} :
    d.Runs (noted note) past value past' ↔
      ∃ notes, d.Transcript note value notes ∧ past' = past ++ notes := by
  induction d generalizing past past' with
  | done v =>
    constructor
    · rintro ⟨rfl, rfl⟩
      exact ⟨[], ⟨rfl, rfl⟩, (List.append_nil _).symm⟩
    · rintro ⟨_, ⟨rfl, rfl⟩, rfl⟩
      exact ⟨rfl, List.append_nil _⟩
  | ask question next ih =>
    constructor
    · rintro ⟨answer, _, rfl, hr⟩
      obtain ⟨rest, hrest, rfl⟩ := (ih answer).mp hr
      refine ⟨note question answer ++ rest, ⟨answer, _, rfl, ?_⟩, List.append_assoc ..⟩
      exact (ih answer).mpr ⟨rest, hrest, rfl⟩
    · rintro ⟨notes, ⟨answer, _, rfl, hr⟩, rfl⟩
      obtain ⟨rest, hrest, rfl⟩ := (ih answer).mp hr
      refine ⟨answer, _, rfl, (ih answer).mpr ⟨rest, hrest, ?_⟩⟩
      simp

theorem transcript_done {v value : α} {notes : List ν} :
    (Dialogue.done v : Dialogue Ask Answer α).Transcript note value notes ↔
      value = v ∧ notes = [] :=
  Iff.rfl

theorem transcript_ask {question : Ask} {next : Answer question → Dialogue Ask Answer α}
    {value : α} {notes : List ν} :
    (Dialogue.ask question next).Transcript note value notes ↔
      ∃ answer rest, (next answer).Transcript note value rest ∧
        notes = note question answer ++ rest := by
  constructor
  · rintro ⟨answer, _, rfl, hr⟩
    obtain ⟨rest, hrest, rfl⟩ := runs_noted.mp hr
    exact ⟨answer, rest, hrest, rfl⟩
  · rintro ⟨answer, rest, hrest, rfl⟩
    exact ⟨answer, _, rfl, runs_noted.mpr ⟨rest, hrest, rfl⟩⟩

theorem transcript_andThen {d : Dialogue Ask Answer α} {f : α → Dialogue Ask Answer β} {value : β}
    {notes : List ν} :
    (d.andThen f).Transcript note value notes ↔
      ∃ v first rest, d.Transcript note v first ∧ (f v).Transcript note value rest ∧
        notes = first ++ rest := by
  constructor
  · intro h
    obtain ⟨v, first, hd, hf⟩ := Runs.of_andThen h
    obtain ⟨rest, hrest, rfl⟩ := runs_noted.mp hf
    exact ⟨v, first, rest, hd, hrest, rfl⟩
  · rintro ⟨v, first, rest, hd, hrest, rfl⟩
    exact Runs.andThen hd (runs_noted.mpr ⟨rest, hrest, rfl⟩)

/-- In any environment a run has a transcript. -/
theorem Runs.exists_transcript {σ : Type} {conduct : Conduct Ask Answer σ} {d : Dialogue Ask Answer α}
    {s s' : σ} {value : α} (h : d.Runs conduct s value s')
    (note : (question : Ask) → Answer question → List ν) :
    ∃ notes, d.Transcript note value notes := by
  obtain ⟨notes, hr⟩ := h.noting note []
  exact ⟨notes, hr.map (f := Prod.snd) fun _ _ _ _ hc => hc.2⟩

/-- Where all notes of a dialogue are of a kind, an invariant has to stand only what such notes are
taken of. -/
theorem Runs.preserves_noted {σ : Type} {conduct : Conduct Ask Answer σ} {inv : σ → Prop}
    {kind : ν → Prop} {d : Dialogue Ask Answer α} {s s' : σ} {value : α}
    (hkind : ∀ notes, d.Transcript note value notes → ∀ n ∈ notes, kind n)
    (step : ∀ question s answer s', (∀ n ∈ note question answer, kind n) → inv s →
      conduct question s answer s' → inv s')
    (h : d.Runs conduct s value s') (hs : inv s) : inv s' := by
  induction d generalizing s with
  | done v =>
    obtain ⟨rfl, rfl⟩ := h
    exact hs
  | ask question next ih =>
    obtain ⟨answer, s₁, hc, hr⟩ := h
    have hask {rest : List ν} (hrest : (next answer).Transcript note value rest) :
        ∀ n ∈ note question answer ++ rest, kind n :=
      hkind _ (transcript_ask.mpr ⟨answer, rest, hrest, rfl⟩)
    obtain ⟨rest, hrest⟩ := hr.exists_transcript note
    have hanswer : inv s₁ := step question s answer s₁
      (fun n hn => hask hrest n (List.mem_append_left _ hn)) hs hc
    exact ih answer (fun rest hrest n hn => hask hrest n (List.mem_append_right _ hn)) hr hanswer

/-- A note of every answer. -/
def exchange (question : Ask) (answer : Answer question) : List ((q : Ask) × Answer q) :=
  [⟨question, answer⟩]

theorem transcript_put {question : Ask} {answer : Answer question}
    {notes : List ((q : Ask) × Answer q)} :
    (put question).Transcript exchange answer notes ↔ notes = [⟨question, answer⟩] := by
  constructor
  · intro h
    obtain ⟨_, _, hdone, rfl⟩ := transcript_ask.mp h
    obtain ⟨rfl, rfl⟩ := transcript_done.mp hdone
    rfl
  · rintro rfl
    exact transcript_ask.mpr ⟨answer, [], ⟨rfl, rfl⟩, rfl⟩

theorem transcript_put_andThen {question : Ask} {f : Answer question → Dialogue Ask Answer α}
    {value : α} {notes : List ((q : Ask) × Answer q)} :
    ((put question).andThen f).Transcript exchange value notes ↔
      ∃ answer rest, (f answer).Transcript exchange value rest ∧
        notes = ⟨question, answer⟩ :: rest :=
  transcript_ask

end Dialogue

namespace Attempt

variable {Ask : Type} {Answer : Ask → Type} {ε ε' α β ν : Type}
variable {note : (question : Ask) → Answer question → List ν}

/-- What is heard has its notes in front of those of what is done with it. -/
theorem transcript_hear_bind {d : Dialogue Ask Answer α} {f : α → Attempt Ask Answer ε β}
    {o : Outcome ε β} {notes : List ν} :
    Dialogue.Transcript note (hear d >>= f : Attempt Ask Answer ε β) o notes ↔
      ∃ value first rest, d.Transcript note value first ∧
        Dialogue.Transcript note (f value) o rest ∧ notes = first ++ rest := by
  have hhear : (hear d >>= f : Attempt Ask Answer ε β) = Dialogue.andThen d f :=
    Dialogue.andThen_assoc d _ _
  rw [hhear]
  exact Dialogue.transcript_andThen

/-- However an attempt ends, its outcome and its notes are of this kind. -/
def Notes (note : (question : Ask) → Answer question → List ν) (a : Attempt Ask Answer ε α)
    (K : Outcome ε α → List ν → Prop) : Prop :=
  ∀ o notes, Dialogue.Transcript note a o notes → K o notes

theorem notes_ofOutcome {o : Outcome ε α} {K : Outcome ε α → List ν → Prop} (h : K o []) :
    (ofOutcome o : Attempt Ask Answer ε α).Notes note K := by
  rintro _ _ ⟨rfl, rfl⟩
  exact h

theorem notes_ofExcept {r : Except ε α} {K : Outcome ε α → List ν → Prop}
    (h : K (.ofExcept r) []) : (ofExcept r : Attempt Ask Answer ε α).Notes note K :=
  notes_ofOutcome h

theorem notes_call {question : Ask} {f : Answer question → Except ε α}
    {K : Outcome ε α → List ν → Prop}
    (h : ∀ answer, K (.ofExcept (f answer)) (note question answer)) :
    (call (.ask question fun answer => .done (f answer)) : Attempt Ask Answer ε α).Notes note
      K := by
  intro o notes hnotes
  obtain ⟨answer, rest, ⟨rfl, rfl⟩, rfl⟩ := Dialogue.transcript_ask.mp hnotes
  rw [List.append_nil]
  exact h answer

theorem Notes.mono {a : Attempt Ask Answer ε α} {K K' : Outcome ε α → List ν → Prop}
    (h : a.Notes note K) (hk : ∀ o notes, K o notes → K' o notes) : a.Notes note K' :=
  fun o notes hnotes => hk o notes (h o notes hnotes)

theorem Notes.mapError {a : Attempt Ask Answer ε α} {f : ε → ε'}
    {K : Outcome ε' α → List ν → Prop} (h : a.Notes note fun o notes => K (o.mapError f) notes) :
    (a.mapError f).Notes note K := by
  intro o notes hnotes
  obtain ⟨o₁, first, _, hfirst, ⟨rfl, rfl⟩, rfl⟩ := Dialogue.transcript_andThen.mp hnotes
  rw [List.append_nil]
  exact h o₁ first hfirst

/-- After the notes of a first part that has a value come those of the second. -/
theorem Notes.bind {a : Attempt Ask Answer ε α} {f : α → Attempt Ask Answer ε β}
    {K : Outcome ε α → List ν → Prop} {Whole : Outcome ε β → List ν → Prop} (ha : a.Notes note K)
    (hvalue : ∀ value first, K (.ok value) first →
      (f value).Notes note fun o rest => Whole o (first ++ rest))
    (hfailed : ∀ e first, K (.failed e) first → Whole (.failed e) first)
    (hpanicked : ∀ p first, K (.panicked p) first → Whole (.panicked p) first) :
    (a >>= f).Notes note Whole := by
  intro o notes hnotes
  obtain ⟨o₁, first, rest, hfirst, hrest, rfl⟩ := Dialogue.transcript_andThen.mp hnotes
  have hkind := ha o₁ first hfirst
  cases o₁ with
  | ok value => exact hvalue value first hkind o rest hrest
  | failed e =>
    obtain ⟨rfl, rfl⟩ := hrest
    rw [List.append_nil]
    exact hfailed e first hkind
  | panicked p =>
    obtain ⟨rfl, rfl⟩ := hrest
    rw [List.append_nil]
    exact hpanicked p first hkind

/-- Where only the notes matter, nothing is noted after a first part. -/
theorem Notes.bind_quiet {a : Attempt Ask Answer ε α} {f : α → Attempt Ask Answer ε β}
    {K : List ν → Prop} (ha : a.Notes note fun _ notes => K notes)
    (hf : ∀ value, (f value).Notes note fun _ rest => rest = []) :
    (a >>= f).Notes note fun _ notes => K notes := by
  refine Notes.bind ha (fun value first hk => ?_) (fun _ _ hk => hk) fun _ _ hk => hk
  refine (hf value).mono ?_
  rintro _ _ rfl
  rwa [List.append_nil]

/-- After the note of a first question come those of what is done with the answer. -/
theorem notes_ask_bind {question : Ask} {f : Answer question → Attempt Ask Answer ε α}
    {K : Outcome ε α → List ν → Prop}
    (hf : ∀ answer, (f answer).Notes note fun o rest => K o (note question answer ++ rest)) :
    ((hear (Dialogue.put question) : Attempt Ask Answer ε (Answer question)) >>= f).Notes note
      K := by
  intro o notes hnotes
  obtain ⟨answer, rest, hrest, rfl⟩ := Dialogue.transcript_ask.mp hnotes
  exact hf answer o rest hrest

/-- A first question of which no note is taken. -/
theorem notes_hear_bind {question : Ask} {f : Answer question → Attempt Ask Answer ε α}
    {K : Outcome ε α → List ν → Prop} (hnote : ∀ answer, note question answer = [])
    (hf : ∀ answer, (f answer).Notes note K) :
    ((hear (Dialogue.put question) : Attempt Ask Answer ε (Answer question)) >>= f).Notes note
      K := by
  refine notes_ask_bind fun answer => ?_
  simpa only [hnote, List.nil_append] using hf answer

end Attempt

end SignIn
