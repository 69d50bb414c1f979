import SignIn.Proofs.Backlog
import SignIn.Proofs.Courses
import SignIn.Proofs.GivenUp

/-!
# What keeps an event from its delivery

An event is not delivered if the builder cannot make a task of it, or if the queue
reports an error other than a conflict. An error of the queue is judged: its row is
given up at once if no retry can help, and otherwise the attempt is counted. An error
of the builder is not judged. Whatever it is, the row is given up at once.
-/
namespace SignIn

/-- What is left of a pending row after a failed attempt that was not its last. -/
def OutboxEvent.retried (error : OutboxError) (now : Int) (row : OutboxEvent) : OutboxEvent :=
  { row with attempts := row.attempts + 1, lastError := some error.message, updatedAt := now }

namespace Outbox

/-- What the queue has replied. -/
def heard : (c : Call) → Answer c → List (Except OutboxError TaskInfo)
  | .enqueue .., reply => [reply]
  | _, _ => []

/-- The error that keeps an event from its delivery, of the builder or of the queue. A queue that
has the task already reports a conflict, and nothing is in the way. -/
def Processor.hindrance? (p : Processor) (e : OutboxEvent)
    (replies : List (Except OutboxError TaskInfo)) : Option OutboxError :=
  match p.builder e, replies with
  | .error error, _ => some error
  | .ok _, [.error error] => if hasTask (.error error) then none else some error
  | .ok _, _ => none

variable {p : Processor} {e row : OutboxEvent}

theorem hasTask_of_isFatal {error : OutboxError} (h : error.isFatal = true) :
    hasTask (.error error) = false := by
  cases error <;> first | rfl | cases h

theorem hindrance?_of_rejected {error : OutboxError} (h : p.builder e = .error error)
    (replies : List (Except OutboxError TaskInfo)) : p.hindrance? e replies = some error := by
  simp only [Processor.hindrance?, h]

theorem hindrance?_of_replied {make : Int → Task} {reply : Except OutboxError TaskInfo}
    (h : p.builder e = .ok make) (hreply : hasTask reply = false) {error : OutboxError}
    (herror : reply = .error error) : p.hindrance? e [reply] = some error := by
  subst herror
  simp only [Processor.hindrance?, h, hreply, Bool.false_eq_true, if_false]

theorem hindrance?_of_hasTask {make : Int → Task} {reply : Except OutboxError TaskInfo}
    (h : p.builder e = .ok make) (hreply : hasTask reply = true) :
    p.hindrance? e [reply] = none := by
  cases reply with
  | ok info => simp only [Processor.hindrance?, h]
  | error error => simp only [Processor.hindrance?, h, hreply, if_true]

/-! ## Rows that are given up -/

namespace Site

variable {queue : QueueConduct} {w w' : Site}

/-- A pending row that a call gives up was marked as failed, or its last attempt was counted. -/
theorem givesUp_of_conduct {c : Call} {answer : Answer c} (hu : UniqueIds w)
    (hc : conduct queue c w answer w') (hrow : row ∈ w.table) (hp : row.status = .pending)
    {row' : OutboxEvent} (hrow' : row' ∈ w'.table) (hid : row'.id = row.id)
    (hfailed : row'.status = .failed) :
    (∃ reason, c = .markFailed row.id reason) ∨
      ∃ reason maxAttempts, c = .recordFailure row.id reason maxAttempts ∧
        maxAttempts ≤ row.attempts + 1 := by
  have hne : w'.table ≠ w.table := by
    intro heq
    rw [heq] at hrow'
    rw [Table.eq_of_id_eq hu hrow' hrow hid, hp] at hfailed
    cases hfailed
  obtain ⟨changed, hchanged, -, change, hwrites, hreplaces⟩ := replaces_of_conduct hu hc hne
  rcases (hreplaces row').mp hrow' with rfl | ⟨hold, -⟩
  · obtain rfl : changed = row := by
      refine Table.eq_of_id_eq hu hchanged hrow (Eq.trans ?_ hid)
      exact (hwrites.sameEvent changed).id
    cases hwrites with
    | success _ now => cases hfailed
    | failure _ reason now => exact .inl ⟨reason, rfl⟩
    | attempt _ reason maxAttempts now =>
      refine .inr ⟨reason, maxAttempts, rfl, ?_⟩
      by_contra hmore
      simp [Table.attempted, Table.settled, Table.statusAfter, hmore] at hfailed
  · rw [Table.eq_of_id_eq hu hold hrow hid, hp] at hfailed
    cases hfailed

end Site

/-! ## The judgement -/

section Notes

variable {σ : Type} {conduct : Conduct Call Answer σ}
variable {s s' : σ × List (Except OutboxError TaskInfo)} {o : Outcome OutboxError EventOutcome}

theorem Counting.of_noting_heard (h : Counting (conduct.noting heard) s s') :
    Counting conduct s.1 s'.1 ∧ s'.2 = s.2 := by
  rcases h with rfl | ⟨counter, answer, hc, hnotes⟩
  · exact ⟨.inl rfl, rfl⟩
  · exact ⟨.inr ⟨counter, answer, hc⟩, hnotes.trans (List.append_nil _)⟩

/-- After the reply of the queue there is nothing more to hear from it. -/
theorem Closing.of_noting_heard {reply : Except OutboxError TaskInfo}
    (h : Closing (conduct.noting heard) p e reply s o s') :
    Closing conduct p e reply s.1 o s'.1 ∧ s'.2 = s.2 := by
  cases h with
  | delivered htask hc hcounting =>
    obtain ⟨hcount, hnotes⟩ := hcounting.of_noting_heard
    exact ⟨.delivered htask hc.1 hcount, hnotes.trans (hc.2.trans (List.append_nil _))⟩
  | refused hreply hfatal hc hcounting =>
    obtain ⟨hcount, hnotes⟩ := hcounting.of_noting_heard
    exact ⟨.refused hreply hfatal hc.1 hcount, hnotes.trans (hc.2.trans (List.append_nil _))⟩
  | attempted hreply htask hfatal hword hc hcounting =>
    obtain ⟨hcount, hnotes⟩ := hcounting.of_noting_heard
    exact ⟨.attempted hreply htask hfatal hword hc.1 hcount,
      hnotes.trans (hc.2.trans (List.append_nil _))⟩
  | overflow hreply htask hfatal hword => exact ⟨.overflow hreply htask hfatal hword, rfl⟩

/-- Without notes before, the replies are those of the one event: none if the builder has turned it
down, and else one. -/
theorem course_heard (h : Dialogue.Runs (conduct.noting heard) (p.processEvent e) s o s')
    (hs : s.2 = []) :
    (∃ error answer s₁, p.builder e = .error error ∧
        conduct (.markFailed e.id error.message) s.1 answer s₁ ∧ Counting conduct s₁ s'.1 ∧
        o = .ofExcept (answer.map fun _ => .failed)) ∨
      ∃ make now reply s₁ s₂, p.builder e = .ok make ∧ conduct .now s.1 now s₁ ∧
        conduct (.enqueue (make now) (p.options e)) s₁ reply s₂ ∧
        Closing conduct p e reply s₂ o s'.1 ∧ s'.2 = [reply] := by
  cases course_of_runs h with
  | rejected hbuilder hc hcounting =>
    exact .inl ⟨_, _, _, hbuilder, hc.1, hcounting.of_noting_heard.1, rfl⟩
  | enqueued hbuilder hnow henqueue hclosing =>
    obtain ⟨hclosing, hnotes⟩ := hclosing.of_noting_heard
    refine .inr ⟨_, _, _, _, _, hbuilder, hnow.1, henqueue.1, hclosing, ?_⟩
    rw [hnotes, henqueue.2, hnow.2, hs]
    rfl

end Notes

/-- What kept the event whose row was given up. -/
theorem hindered_of_givenUp {queue : Site.QueueConduct} {w w' : Site}
    {replies : List (Except OutboxError TaskInfo)} {o : Outcome OutboxError EventOutcome}
    (hw : w.UniqueIds)
    (hr : Dialogue.Runs ((Site.conduct queue).noting heard) (p.processEvent e) (w, []) o
      (w', replies))
    (hrow : row ∈ w.table) (hp : row.status = .pending) {row' : OutboxEvent}
    (hrow' : row' ∈ w'.table) (hid : row'.id = row.id) (hfailed : row'.status = .failed) :
    row.id = e.id ∧ ∃ error, p.hindrance? e replies = some error ∧
      (p.builder e = .error error ∨ error.isFatal = true ∨
        p.config.maxAttempts ≤ row.attempts + 1) := by
  rcases course_heard hr rfl with ⟨error, answer, w₁, hbuilder, hc, hcounting, -⟩ |
    ⟨make, now, reply, w₁, w₂, hbuilder, hnow, ⟨-, henqueue⟩, hclosing, hreplies⟩
  · obtain rfl := hcounting.eq fun _ _ hc => hc
    refine ⟨?_, error, hindrance?_of_rejected hbuilder _, .inl hbuilder⟩
    obtain ⟨reason, hcall⟩ | ⟨reason, maxAttempts, hcall, -⟩ :=
      Site.givesUp_of_conduct hw hc hrow hp hrow' hid hfailed
    · exact (Call.markFailed.inj hcall).1.symm
    · cases hcall
  · have htable : w₂.table = w.table := henqueue.trans (congrArg Site.table hnow)
    have hw₂ : w₂.UniqueIds := by rwa [Site.UniqueIds, htable]
    have hrow₂ : row ∈ w₂.table := by rwa [htable]
    obtain rfl : replies = [reply] := hreplies
    cases hclosing with
    | delivered htask hc hcounting =>
      obtain rfl := hcounting.eq fun _ _ hc => hc
      obtain ⟨reason, hcall⟩ | ⟨reason, maxAttempts, hcall, -⟩ :=
        Site.givesUp_of_conduct hw₂ hc hrow₂ hp hrow' hid hfailed
      · cases hcall
      · cases hcall
    | refused hreply hfatal hc hcounting =>
      obtain rfl := hcounting.eq fun _ _ hc => hc
      have htask : hasTask reply = false := by rw [hreply, hasTask_of_isFatal hfatal]
      refine ⟨?_, _, hindrance?_of_replied hbuilder htask hreply, .inr (.inl hfatal)⟩
      obtain ⟨reason, hcall⟩ | ⟨reason, maxAttempts, hcall, -⟩ :=
        Site.givesUp_of_conduct hw₂ hc hrow₂ hp hrow' hid hfailed
      · exact (Call.markFailed.inj hcall).1.symm
      · cases hcall
    | attempted hreply htask hfatal hword hc hcounting =>
      obtain rfl := hcounting.eq fun _ _ hc => hc
      obtain ⟨reason, hcall⟩ | ⟨reason, maxAttempts, hcall, hlast⟩ :=
        Site.givesUp_of_conduct hw₂ hc hrow₂ hp hrow' hid hfailed
      · cases hcall
      · obtain ⟨hid', -, rfl⟩ := Call.recordFailure.inj hcall
        exact ⟨hid'.symm, _, hindrance?_of_replied hbuilder htask hreply, .inr (.inr hlast)⟩
    | overflow hreply htask hfatal hword =>
      rw [htable] at hrow'
      rw [Table.eq_of_id_eq hw hrow' hrow hid, hp] at hfailed
      cases hfailed

/-- The row after a call of a table without faults that found it pending. -/
theorem replaces_of_updatePending {t : Table} {change : OutboxEvent → OutboxEvent}
    (ht : (t.map (·.id)).Nodup) (hrow : row ∈ t) (hid : row.id = e.id)
    (hp : row.status = .pending) :
    Table.Replaces row (change row) t (Table.updatePending e.id change t) := by
  rw [← hid]
  exact Table.replaces_updatePending change ht hrow hp

theorem attempted_of_lt {error : OutboxError} {maxAttempts : Int} (now : Int)
    (hp : row.status = .pending) (h : row.attempts + 1 < maxAttempts) :
    Table.attempted maxAttempts error.message now row = row.retried error now := by
  have hmore : ¬maxAttempts ≤ row.attempts + 1 := by omega
  simp only [Table.attempted, Table.settled, Table.statusAfter, if_neg hmore, OutboxEvent.retried,
    ← hp]

theorem attempted_of_le {error : OutboxError} {maxAttempts : Int} (now : Int)
    (h : maxAttempts ≤ row.attempts + 1) :
    Table.attempted maxAttempts error.message now row =
      { row.retried error now with status := .failed } := by
  simp only [Table.attempted, Table.settled, Table.statusAfter, if_pos h, OutboxEvent.retried]

/-- How a hindrance is judged, and what becomes of the pending row: an error of the builder is its
end, and an error of the queue is its end only if no retry can help or if none is left. -/
structure Judged (p : Processor) (e row : OutboxEvent) (error : OutboxError) (t : Table)
    (o : Outcome OutboxError EventOutcome) (t' : Table) : Prop where
  hopeless : p.builder e = .error error ∨ error.isFatal = true →
    o = .ok .failed ∧
      ∃ now, Table.Replaces row (Table.settled .failed (some error.message) now row) t t'
  retried : p.builder e ≠ .error error → error.isFatal = false →
    Decimal.Range.i32.contains (e.attempts + 1) = true →
    row.attempts + 1 < p.config.maxAttempts →
    o = .ok .retrying ∧ ∃ now, Table.Replaces row (row.retried error now) t t'
  exhausted : p.builder e ≠ .error error → error.isFatal = false →
    Decimal.Range.i32.contains (e.attempts + 1) = true →
    p.config.maxAttempts ≤ row.attempts + 1 →
    o = .ok .failed ∧
      ∃ now, Table.Replaces row { row.retried error now with status := .failed } t t'
  overflow : p.builder e ≠ .error error → error.isFatal = false →
    Decimal.Range.i32.contains (e.attempts + 1) = false → o = .panicked .addOverflow ∧ t' = t

/-- A table without faults lets every hindrance be judged. -/
theorem judged_of_runs {t t' : Table} {replies : List (Except OutboxError TaskInfo)}
    {o : Outcome OutboxError EventOutcome} {error : OutboxError} (ht : (t.map (·.id)).Nodup)
    (hrow : row ∈ t) (hid : row.id = e.id) (hp : row.status = .pending)
    (hr : Dialogue.Runs (faultless.noting heard) (p.processEvent e) (t, []) o (t', replies))
    (herror : p.hindrance? e replies = some error) : Judged p e row error t o t' := by
  have hfound : t.pendingRow? e.id = some row := hid ▸ Table.pendingRow?_of_mem ht hrow hp
  rcases course_heard hr rfl with ⟨error', answer, t₁, hbuilder, ⟨now, rfl, rfl⟩, hcounting, rfl⟩ |
    ⟨make, now, reply, t₁, t₂, hbuilder, hnow, henqueue, hclosing, hreplies⟩
  · obtain rfl := hcounting.eq fun _ _ hc => hc
    obtain rfl : error' = error := by
      simpa [hindrance?_of_rejected hbuilder] using herror
    constructor
    case hopeless => exact fun _ => ⟨rfl, now, replaces_of_updatePending ht hrow hid hp⟩
    all_goals simp [hbuilder]
  · obtain rfl : t = t₁ := hnow.symm
    obtain rfl : t = t₂ := henqueue.symm
    obtain rfl : replies = [reply] := hreplies
    have hbuilt : p.builder e ≠ .error error := by rw [hbuilder]; nofun
    have hsame : ∀ {error'}, reply = .error error' → hasTask reply = false → error = error' := by
      intro error' hreply htask
      simpa [hindrance?_of_replied hbuilder htask hreply] using herror.symm
    cases hclosing with
    | delivered htask hc hcounting =>
      rw [hindrance?_of_hasTask hbuilder htask] at herror
      cases herror
    | refused hreply hfatal hc hcounting =>
      obtain rfl := hcounting.eq fun _ _ hc => hc
      obtain rfl := hsame hreply (by rw [hreply, hasTask_of_isFatal hfatal])
      obtain ⟨now, rfl, rfl⟩ := hc
      constructor
      case hopeless => exact fun _ => ⟨rfl, now, replaces_of_updatePending ht hrow hid hp⟩
      all_goals simp [hfatal]
    | attempted hreply htask hfatal hword hc hcounting =>
      obtain rfl := hcounting.eq fun _ _ hc => hc
      obtain rfl := hsame hreply htask
      obtain ⟨now, rfl, rfl⟩ := hc
      have hcall : t.recordFailure now e.id error.message p.config.maxAttempts =
          (.ok (Table.statusAfter p.config.maxAttempts row),
            Table.updatePending e.id
              (Table.attempted p.config.maxAttempts error.message now) t) := by
        simp only [Table.recordFailure, hfound]
      have hreplaces : Table.Replaces row
          (Table.attempted p.config.maxAttempts error.message now row) t _ :=
        replaces_of_updatePending ht hrow hid hp
      rw [hcall]
      constructor
      case hopeless => simp [hbuilt, hfatal]
      case retried =>
        intro _ _ _ hmore
        have hstatus : Table.statusAfter p.config.maxAttempts row = .pending := if_neg (by omega)
        rw [hstatus]
        rw [attempted_of_lt now hp hmore] at hreplaces
        exact ⟨rfl, now, hreplaces⟩
      case exhausted =>
        intro _ _ _ hlast
        have hstatus : Table.statusAfter p.config.maxAttempts row = .failed := if_pos hlast
        rw [hstatus]
        rw [attempted_of_le now hlast] at hreplaces
        exact ⟨rfl, now, hreplaces⟩
      case overflow => simp [hword]
    | overflow hreply htask hfatal hword =>
      obtain rfl := hsame hreply htask
      constructor
      case hopeless => simp [hbuilt, hfatal]
      case overflow => exact fun _ _ _ => ⟨rfl, rfl⟩
      all_goals simp [hword]

/-- A row that the handling of an event gives up had its last attempt, or the error was fatal, or it
was an error of the builder. Any other error is counted, unless the number of the attempt does not
fit into its word. -/
theorem hindered_rows (p : Processor) (e : OutboxEvent) :
    (∀ (queue : Site.QueueConduct) (w w' : Site) (replies : List (Except OutboxError TaskInfo))
        (o : Outcome OutboxError EventOutcome), w.UniqueIds →
      Dialogue.Runs ((Site.conduct queue).noting heard) (p.processEvent e) (w, []) o (w', replies) →
      ∀ row ∈ w.table, row.status = .pending →
        ∀ row' ∈ w'.table, row'.id = row.id → row'.status = .failed →
          row.id = e.id ∧ ∃ error, p.hindrance? e replies = some error ∧
            (p.builder e = .error error ∨ error.isFatal = true ∨
              p.config.maxAttempts ≤ row.attempts + 1)) ∧
    ∀ (t : Table), (t.map (·.id)).Nodup → ∀ row ∈ t, row.id = e.id → row.status = .pending →
      (∃ o s', Dialogue.Runs (faultless.noting heard) (p.processEvent e) (t, []) o s') ∧
      ∀ o t' replies error,
        Dialogue.Runs (faultless.noting heard) (p.processEvent e) (t, []) o (t', replies) →
        p.hindrance? e replies = some error → Judged p e row error t o t' := by
  constructor
  · intro queue w w' replies o hw hr row hrow hp row' hrow' hid hfailed
    exact hindered_of_givenUp hw hr hrow hp hrow' hid hfailed
  · intro t ht row hrow hid hp
    constructor
    · obtain ⟨o, t', hr⟩ := Dialogue.exists_runs exists_faultless (p.processEvent e) t
      obtain ⟨replies, hr⟩ := hr.noting heard []
      exact ⟨o, (t', replies), hr⟩
    · intro o t' replies error hr herror
      exact judged_of_runs ht hrow hid hp hr herror

/-! ### A queue that is down, and a builder that cannot build for now -/

def queueDown : OutboxError := .enqueueFailed "queue is down"

/-- So many attempts, and a builder that does its work. -/
def steady (maxAttempts : Int) : Processor :=
  ⟨{ eventName := "login", maxAttempts }, Site.plainBuilder, false⟩

/-- While the queue is down, an attempt is counted, and the row is given up with its last one. -/
theorem hindered_rows_queueDown :
    (∃ t', Dialogue.Runs (faultless.noting heard) ((steady 5).processEvent (Site.plainRow .pending))
        ([Site.plainRow .pending], []) (.ok .retrying) (t', [.error queueDown]) ∧
      ∃ now, Table.Replaces (Site.plainRow .pending) ((Site.plainRow .pending).retried queueDown now)
        [Site.plainRow .pending] t') ∧
    ∃ w', Dialogue.Runs ((Site.conduct Site.Truthful).noting heard)
        ((steady 1).processEvent (Site.plainRow .pending)) (⟨[Site.plainRow .pending], []⟩, [])
        (.ok .failed) (w', [.error queueDown]) ∧
      ∃ error, (steady 1).hindrance? (Site.plainRow .pending) [.error queueDown] = some error ∧
        ((steady 1).builder (Site.plainRow .pending) = .error error ∨ error.isFatal = true ∨
          (1 : Int) ≤ 0 + 1) := by
  have hunique : (([Site.plainRow .pending] : Table).map (·.id)).Nodup := by decide
  constructor
  · have hrun : Dialogue.Runs (faultless.noting heard)
        ((steady 5).processEvent (Site.plainRow .pending)) ([Site.plainRow .pending], [])
        (.ok .retrying) (_, [.error queueDown]) :=
      ⟨(0 : Int), (_, []), ⟨rfl, rfl⟩, .error queueDown, (_, [.error queueDown]), ⟨rfl, rfl⟩,
        .ok .pending, (_, [.error queueDown]), ⟨⟨0, rfl, rfl⟩, rfl⟩, rfl, rfl⟩
    obtain ⟨-, hjudged⟩ := ((hindered_rows (steady 5) (Site.plainRow .pending)).2
      [Site.plainRow .pending] hunique (Site.plainRow .pending) (List.mem_singleton_self _) rfl rfl)
    exact ⟨_, hrun, ((hjudged _ _ _ _ hrun rfl).retried nofun rfl rfl (by decide)).2⟩
  · have hrun : Dialogue.Runs ((Site.conduct Site.Truthful).noting heard)
        ((steady 1).processEvent (Site.plainRow .pending)) (⟨[Site.plainRow .pending], []⟩, [])
        (.ok .failed) (⟨[Site.givenUpRow], []⟩, [.error queueDown]) :=
      ⟨(0 : Int), (_, []), ⟨rfl, rfl⟩, .error queueDown, (_, [.error queueDown]),
        ⟨⟨.inl rfl, rfl⟩, rfl⟩, .ok .failed, (⟨[Site.givenUpRow], []⟩, [.error queueDown]),
        ⟨⟨.inr ⟨.ok (.ok .failed), rfl, .works 0⟩, rfl⟩, rfl⟩, rfl, rfl⟩
    have hgivenUp := (hindered_rows (steady 1) (Site.plainRow .pending)).1 Site.Truthful
      ⟨[Site.plainRow .pending], []⟩ ⟨[Site.givenUpRow], []⟩ _ _ hunique hrun _
      (List.mem_singleton_self _) rfl _ (List.mem_singleton_self _) rfl rfl
    exact ⟨_, hrun, hgivenUp.2⟩

/-- A builder that has to look something up, and cannot do so for now. -/
def stranded : Processor :=
  ⟨{ eventName := "login" }, fun _ => .error (.other "directory is down"), false⟩

/-- A row can be given up at its first attempt, for an error that may pass. -/
theorem exists_givenUp_at_once :
    (OutboxError.other "directory is down").isFatal = false ∧
    (Site.plainRow .pending).attempts + 1 < stranded.config.maxAttempts ∧
    stranded.hindrance? (Site.plainRow .pending) [] = some (.other "directory is down") ∧
    ∃ t', Dialogue.Runs (faultless.noting heard) (stranded.processEvent (Site.plainRow .pending))
        ([Site.plainRow .pending], []) (.ok .failed) (t', []) ∧
      ∃ row' ∈ t', row'.id = (Site.plainRow .pending).id ∧ row'.status = .failed := by
  refine ⟨rfl, by decide, rfl, _, ⟨.ok true, (_, []), ⟨⟨0, rfl, rfl⟩, rfl⟩, rfl, rfl⟩, ?_⟩
  exact ⟨_, List.mem_singleton_self _, rfl, rfl⟩

end Outbox

end SignIn
