import SignIn.Proofs.JsonText
import SignIn.Proofs.Transcripts
import SignIn.TaskQueue.Broker

/-!
# Enqueuing keeps one identity

A task has one id and one queue wherever it is named: in the keys that the script touches, in the
arguments of the script, in the envelope that its consumer reads, and in what the sender gets back.
-/
namespace SignIn

/-! ## Envelopes -/

namespace Envelope

theorem isLegible_toJson {e : Envelope} {depth : Nat}
    (hpayload : e.task.payload.isLegible depth = true)
    (hretry : Decimal.Range.u32.contains e.maxRetry = true)
    (hnow : Decimal.Range.i64.contains e.enqueuedAt = true) :
    e.toJson.isLegible (depth + 1) = true := by
  have hmax : Json.inIntegerRange e.maxRetry = true := by
    rw [Decimal.Range.contains_iff] at hretry
    simp only [Decimal.Range.u32] at hretry
    simp only [Json.inIntegerRange, Bool.and_eq_true, decide_eq_true_eq]
    omega
  have htime := Json.inIntegerRange_of_i64 hnow
  have hzero : Json.inIntegerRange 0 = true := by decide
  simp [toJson, Json.isLegible, Json.membersAreLegible, hpayload, hmax, htime, hzero]

end Envelope

namespace Broker

open Dialogue

/-! ## What the broker is asked -/

/-- A question, and what the environment answered. -/
abbrev Exchange : Type := (call : Call) × Answer call

/-- The id of a task is given, or it is drawn. -/
inductive Named (options : TaskOptions) : String → List Exchange → Prop where
  | given {id : String} : options.taskId = some id → Named options id []
  | drawn (id : Uuid) : options.taskId = none → Named options id.text [⟨.freshId, id⟩]

/-- What is said about a script, and the reply in the end. It is run for a second time after the
server has learned it, and only then. -/
inductive Conversation (script : Run) : Reply → List Exchange → Prop where
  | known {reply : Reply} : (∀ trouble, reply = .error trouble → trouble.isUnknownScript = false) →
      Conversation script reply [⟨.run script, reply⟩]
  | learned {unknown : Trouble} {reply : Reply} : unknown.isUnknownScript = true →
      Conversation script reply
        [⟨.run script, .error unknown⟩, ⟨.load, .ok ()⟩, ⟨.run script, reply⟩]
  | unlearned {unknown trouble : Trouble} : unknown.isUnknownScript = true →
      Conversation script (.error trouble)
        [⟨.run script, .error unknown⟩, ⟨.load, .error trouble⟩]

theorem transcript_run_iff {script : Run} {reply : Reply} {asked : List Exchange} :
    (run script).Transcript exchange reply asked ↔ Conversation script reply asked := by
  unfold run
  constructor
  · intro h
    obtain ⟨answer, rest, hrest, rfl⟩ := transcript_put_andThen.mp h
    cases answer with
    | ok n =>
      obtain ⟨rfl, rfl⟩ := transcript_done.mp hrest
      exact .known nofun
    | error unknown =>
      simp only at hrest
      split at hrest
      · rename_i hunknown
        obtain ⟨loaded, rest, hloaded, rfl⟩ := transcript_put_andThen.mp hrest
        cases loaded with
        | ok loaded =>
          cases loaded
          obtain rfl := transcript_put.mp hloaded
          exact .learned hunknown
        | error trouble =>
          obtain ⟨rfl, rfl⟩ := transcript_done.mp hloaded
          exact .unlearned hunknown
      · rename_i hknown
        obtain ⟨rfl, rfl⟩ := transcript_done.mp hrest
        refine .known fun trouble htrouble => ?_
        cases htrouble
        exact Bool.eq_false_iff.mpr hknown
  · intro h
    cases h with
    | known hknown =>
      refine transcript_put_andThen.mpr ⟨reply, [], ?_, rfl⟩
      cases reply with
      | ok n => exact ⟨rfl, rfl⟩
      | error trouble =>
        simp only [hknown trouble rfl]
        exact ⟨rfl, rfl⟩
    | @learned unknown _ hunknown =>
      refine transcript_put_andThen.mpr ⟨.error unknown, _, ?_, rfl⟩
      simp only [hunknown, if_true]
      exact transcript_put_andThen.mpr ⟨.ok (), _, transcript_put.mpr rfl, rfl⟩
    | @unlearned unknown trouble hunknown =>
      refine transcript_put_andThen.mpr ⟨.error unknown, _, ?_, rfl⟩
      simp only [hunknown, if_true]
      exact transcript_put_andThen.mpr ⟨.error trouble, [], ⟨rfl, rfl⟩, rfl⟩

/-- What becomes of a task when the script has been run. -/
def outcome (id queue : String) (reply : Reply) : Outcome OutboxError TaskInfo :=
  .ofExcept ((verdict id reply).map fun _ => ⟨id, queue⟩)

/-- The part of enqueuing that follows when the id is settled. -/
theorem transcript_submit_iff (id queue : String) {script : Int → Run}
    {o : Outcome OutboxError TaskInfo} {notes : List Exchange} :
    Transcript exchange (do
        let now : Int ← Attempt.hear (put .now)
        let reply ← Attempt.hear (run (script now))
        Attempt.ofExcept (verdict id reply)
        return ⟨id, queue⟩ : Step TaskInfo) o notes ↔
      ∃ now reply asked, Conversation (script now) reply asked ∧
        notes = ⟨.now, now⟩ :: asked ∧ o = outcome id queue reply := by
  have hend (reply : Reply) : ((do
      Attempt.ofExcept (verdict id reply)
      return ⟨id, queue⟩) : Step TaskInfo) = .done (outcome id queue reply) := by
    unfold outcome
    cases verdict id reply <;> rfl
  simp only [hend]
  constructor
  · intro h
    obtain ⟨now, _, _, hnow, hscript, rfl⟩ := Attempt.transcript_hear_bind.mp h
    obtain ⟨reply, asked, _, hasked, hdone, rfl⟩ := Attempt.transcript_hear_bind.mp hscript
    obtain ⟨rfl, rfl⟩ := transcript_done.mp hdone
    obtain rfl := transcript_put.mp hnow
    exact ⟨now, reply, asked, transcript_run_iff.mp hasked, by simp, rfl⟩
  · rintro ⟨now, reply, asked, hasked, rfl, rfl⟩
    refine Attempt.transcript_hear_bind.mpr ⟨now, _, asked, transcript_put.mpr rfl, ?_, rfl⟩
    exact Attempt.transcript_hear_bind.mpr ⟨reply, asked, [], transcript_run_iff.mpr hasked,
      ⟨rfl, rfl⟩, (List.append_nil _).symm⟩

variable {b : Broker} {task : Task} {options : TaskOptions}

/-- The envelope of a task under its id. -/
def envelope (b : Broker) (task : Task) (options : TaskOptions) (id : String) (now : Int) :
    Envelope :=
  ⟨id, task, options.queue.getD b.defaultQueue, options.maxRetry, now⟩

/-- Every run of enqueuing: the id is settled, the time is asked for, and the script is run. -/
theorem transcript_enqueue_iff {o : Outcome OutboxError TaskInfo} {notes : List Exchange} :
    Transcript exchange (b.enqueue task options) o notes ↔
      ∃ id naming now reply asked, Named options id naming ∧
        Conversation (b.script (envelope b task options id now)) reply asked ∧
        notes = naming ++ ⟨.now, now⟩ :: asked ∧
        o = outcome id (options.queue.getD b.defaultQueue) reply := by
  obtain ⟨taskId, maxRetry, queue⟩ := options
  cases taskId with
  | some id =>
    refine Iff.trans (transcript_submit_iff id _) ⟨?_, ?_⟩
    · rintro ⟨now, reply, asked, hasked, rfl, rfl⟩
      exact ⟨id, [], now, reply, asked, .given rfl, hasked, rfl, rfl⟩
    · rintro ⟨_, _, now, reply, asked, hnamed, hasked, rfl, rfl⟩
      cases hnamed with
      | given h =>
        cases h
        exact ⟨now, reply, asked, hasked, rfl, rfl⟩
      | drawn _ h => cases h
  | none =>
    refine Iff.trans Attempt.transcript_hear_bind ⟨?_, ?_⟩
    · rintro ⟨fresh, _, _, hfresh, hrest, rfl⟩
      obtain rfl := transcript_put.mp hfresh
      obtain ⟨now, reply, asked, hasked, rfl, rfl⟩ :=
        (transcript_submit_iff fresh.text _).mp hrest
      exact ⟨_, _, now, reply, asked, .drawn fresh rfl, hasked, rfl, rfl⟩
    · rintro ⟨_, _, now, reply, asked, hnamed, hasked, rfl, rfl⟩
      cases hnamed with
      | given h => cases h
      | drawn fresh _ =>
        refine ⟨fresh, _, _, transcript_put.mpr rfl, ?_, rfl⟩
        exact (transcript_submit_iff fresh.text _).mpr ⟨now, reply, asked, hasked, rfl, rfl⟩

/-! ## The keys -/

theorem taskKey_injective {space id id' : String} (h : taskKey space id = taskKey space id') :
    id = id' := by
  unfold taskKey at h
  exact (String.append_right_inj _).mp h

/-- Behind the space of names, keys of tasks and of queues go on with different letters. -/
theorem taskKey_ne_queueKey (space id queue : String) :
    taskKey space id ≠ queueKey space queue := by
  intro h
  have hchars := congrArg String.toList h
  simp only [taskKey, queueKey, String.toList_append, List.append_assoc,
    List.append_cancel_left_eq] at hchars
  exact absurd (List.cons.inj (List.cons.inj hchars).2).1 (by decide)

/-! ## One identity -/

/-- A run of the script that speaks of one task in one queue: in its keys, in its arguments, and in
the envelope. No other value can be read from the envelope, and the reader that stops at a number
of levels reads it too, unless the payload is as deep. -/
structure Carries (b : Broker) (task : Task) (options : TaskOptions) (id queue : String) (now : Int)
    (script : Run) : Prop where
  keys : script.keys = [b.space ++ ":task:" ++ id, b.space ++ ":queue:" ++ queue]
  args : ∃ text j, script.args = [queue, Decimal.text (max 1 (b.claimTtl / 1000) : Nat), text] ∧
    j = .obj [("id", .str id), ("type", .str task.name), ("payload", task.payload),
      ("queue", .str queue), ("max_retry", .int options.maxRetry), ("retried", .int 0),
      ("enqueued_at", .int now)] ∧
    (∀ j', Json.Denotes text j' ↔ j' = j) ∧
    (task.payload.isLegible 126 = true → Json.parse? text = some j)

theorem carries_script (hpayload : ∃ depth, task.payload.isLegible depth = true)
    (hretry : Decimal.Range.u32.contains options.maxRetry = true) (id : String) {now : Int}
    (hnow : Decimal.Range.i64.contains now = true) :
    Carries b task options id (options.queue.getD b.defaultQueue) now
      (b.script (b.envelope task options id now)) := by
  let e := b.envelope task options id now
  obtain ⟨depth, hdepth⟩ := hpayload
  have hlegible : e.toJson.isLegible (depth + 1) = true :=
    Envelope.isLegible_toJson hdepth hretry hnow
  have hdenotes : Json.Denotes e.text e.toJson := Json.denotes_text hlegible
  refine ⟨rfl, e.text, e.toJson, rfl, rfl, fun j' => ?_, fun hshallow => ?_⟩
  · exact ⟨fun h => h.unique hdenotes, fun h => h ▸ hdenotes⟩
  · exact Json.parse?_text (Envelope.isLegible_toJson hshallow hretry hnow)

theorem outcome_of_reply (id queue : String) (reply : Reply) :
    (reply = .ok 1 ∧ outcome id queue reply = .ok ⟨id, queue⟩) ∨
    (reply = .ok 0 ∧ outcome id queue reply = .failed (.taskIdConflict id)) ∨
    (((∃ n, reply = .ok n ∧ n ≠ 0 ∧ n ≠ 1) ∨ ∃ trouble, reply = .error trouble) ∧
      ∃ reason, outcome id queue reply = .failed (.enqueueFailed reason)) := by
  unfold outcome verdict
  split
  · exact .inl ⟨rfl, rfl⟩
  · exact .inr (.inl ⟨rfl, rfl⟩)
  · rename_i n hone hzero
    exact .inr (.inr ⟨.inl ⟨n, rfl, hzero, hone⟩, _, rfl⟩)
  · rename_i trouble
    exact .inr (.inr ⟨.inr ⟨trouble, rfl⟩, _, rfl⟩)

/-- Whatever the environment answers, a task has one id and one queue in all that the broker is
asked, and in the outcome. It is accepted on the reply one, its id is taken on the reply zero, and
every other reply is a failure. The keys of two tasks, or of a task and a queue, are never equal.
Of the payload only the numbers have to be in range, at whatever level they stand. -/
theorem enqueue_keeps_identity (hpayload : ∃ depth, task.payload.isLegible depth = true)
    (hretry : Decimal.Range.u32.contains options.maxRetry = true)
    {o : Outcome OutboxError TaskInfo} {notes : List Exchange}
    (h : Transcript exchange (b.enqueue task options) o notes)
    (hclock : ∀ now : Int, ⟨.now, now⟩ ∈ notes → Decimal.Range.i64.contains now = true) :
    (∃ id queue naming now script reply asked,
      Named options id naming ∧ queue = options.queue.getD b.defaultQueue ∧
      notes = naming ++ ⟨.now, now⟩ :: asked ∧ Conversation script reply asked ∧
      Carries b task options id queue now script ∧
      (o = .ok ⟨id, queue⟩ ↔ reply = .ok 1) ∧
      (o = .failed (.taskIdConflict id) ↔ reply = .ok 0) ∧
      ((∃ reason, o = .failed (.enqueueFailed reason)) ↔
        (∃ n, reply = .ok n ∧ n ≠ 0 ∧ n ≠ 1) ∨ ∃ trouble, reply = .error trouble)) ∧
    (∀ id id', b.space ++ ":task:" ++ id = b.space ++ ":task:" ++ id' → id = id') ∧
    ∀ id queue, b.space ++ ":task:" ++ id ≠ b.space ++ ":queue:" ++ queue := by
  refine ⟨?_, fun _ _ => taskKey_injective, taskKey_ne_queueKey b.space⟩
  obtain ⟨id, naming, now, reply, asked, hnamed, hasked, rfl, rfl⟩ := transcript_enqueue_iff.mp h
  have hcarries := carries_script (b := b) hpayload hretry id (hclock now (by simp))
  refine ⟨id, _, naming, now, _, reply, asked, hnamed, rfl, rfl, hasked, hcarries, ?_⟩
  rcases outcome_of_reply id (options.queue.getD b.defaultQueue) reply with
    ⟨rfl, ho⟩ | ⟨rfl, ho⟩ | ⟨hreply, reason, ho⟩
  · simp [ho]
  · simp [ho]
  · have hone : reply ≠ .ok 1 := by
      rintro rfl
      simp at hreply
    have hzero : reply ≠ .ok 0 := by
      rintro rfl
      simp at hreply
    simp [ho, hone, hzero, hreply]

/-- A broker whose claims would last for less than a second. -/
def hastyBroker : Broker := ⟨"identity", "default", 999⟩

/-- A name with a quote in it, and levels below the payload. -/
def quotedTask : Task :=
  ⟨"log\"in", .obj [("a", .arr [.int (-1), .str "\n雪", .obj []]), ("b", .null)]⟩

/-- An id that looks like a part of the key of a queue. -/
def quotedOptions : TaskOptions := { taskId := some "é:queue:", maxRetry := 0 }

def quotedRun : Run :=
  hastyBroker.script (hastyBroker.envelope quotedTask quotedOptions "é:queue:" 7)

/-- The server has forgotten the script, learns it, and accepts the task. -/
def quotedNotes : List Exchange :=
  [⟨.now, (7 : Int)⟩, ⟨.run quotedRun, .error (.refused "NOSCRIPT No matching script.")⟩,
    ⟨.load, .ok ()⟩, ⟨.run quotedRun, .ok 1⟩]

theorem enqueue_keeps_identity_quoted :
    (∃ depth, quotedTask.payload.isLegible depth = true) ∧
    Decimal.Range.u32.contains quotedOptions.maxRetry = true ∧
    Transcript exchange (hastyBroker.enqueue quotedTask quotedOptions)
      (.ok ⟨"é:queue:", "default"⟩) quotedNotes ∧
    (∀ now : Int, ⟨.now, now⟩ ∈ quotedNotes → Decimal.Range.i64.contains now = true) ∧
    ∃ naming now script asked, Named quotedOptions "é:queue:" naming ∧
      quotedNotes = naming ++ ⟨.now, now⟩ :: asked ∧ Conversation script (.ok 1) asked ∧
      Carries hastyBroker quotedTask quotedOptions "é:queue:" "default" now script := by
  have hpayload : ∃ depth, quotedTask.payload.isLegible depth = true := ⟨3, by decide⟩
  have hretry : Decimal.Range.u32.contains quotedOptions.maxRetry = true := by decide
  have hrun : Transcript exchange (hastyBroker.enqueue quotedTask quotedOptions)
      (.ok ⟨"é:queue:", "default"⟩) quotedNotes :=
    transcript_enqueue_iff.mpr
      ⟨_, [], 7, .ok 1, _, .given rfl, .learned (by decide), rfl, rfl⟩
  have hclock : ∀ now : Int, ⟨.now, now⟩ ∈ quotedNotes →
      Decimal.Range.i64.contains now = true := by
    intro now hnow
    have hseven : now = 7 := by simpa [quotedNotes] using hnow
    rw [hseven]
    decide
  refine ⟨hpayload, hretry, hrun, hclock, ?_⟩
  obtain ⟨⟨id, queue, naming, now, script, reply, asked, hnamed, rfl, hnotes, hasked, hcarries,
    haccepted, -⟩, -⟩ := enqueue_keeps_identity hpayload hretry hrun hclock
  obtain rfl : id = "é:queue:" := by
    cases hnamed with
    | given h => exact (Option.some.inj h).symm
    | drawn _ h => cases h
  obtain rfl := haccepted.mp rfl
  exact ⟨naming, now, script, asked, hnamed, hnotes, hasked, hcarries⟩

end Broker

end SignIn
