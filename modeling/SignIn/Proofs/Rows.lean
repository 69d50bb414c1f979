import Mathlib.Data.List.Forall2
import Mathlib.Data.List.Nodup
import SignIn.Outbox.Table

/-!
# Rows under updates

Every update of the table looks for one pending row and changes what has become of
it, never what was recorded. So a table keeps its rows.
-/
namespace SignIn

/-- The same event, whatever has become of it. -/
structure OutboxEvent.SameEvent (a b : OutboxEvent) : Prop where
  id : a.id = b.id
  name : a.name = b.name
  payload : a.payload = b.payload
  createdAt : a.createdAt = b.createdAt

namespace OutboxEvent.SameEvent

theorem refl (a : OutboxEvent) : a.SameEvent a := ⟨rfl, rfl, rfl, rfl⟩

theorem symm {a b : OutboxEvent} (h : a.SameEvent b) : b.SameEvent a :=
  ⟨h.id.symm, h.name.symm, h.payload.symm, h.createdAt.symm⟩

theorem trans {a b c : OutboxEvent} (h : a.SameEvent b) (h' : b.SameEvent c) : a.SameEvent c :=
  ⟨h.id.trans h'.id, h.name.trans h'.name, h.payload.trans h'.payload,
    h.createdAt.trans h'.createdAt⟩

end OutboxEvent.SameEvent

/-- A new item with a mark of its own keeps the marks apart. -/
theorem nodup_map_append_singleton {α β : Type} {f : α → β} {l : List α} {a : α}
    (hn : (l.map f).Nodup) (ha : ∀ x ∈ l, f x ≠ f a) : ((l ++ [a]).map f).Nodup := by
  rw [List.map_append, List.nodup_append]
  refine ⟨hn, by simp, ?_⟩
  intro b hb c hc
  obtain ⟨x, hx, rfl⟩ := List.mem_map.mp hb
  rw [List.map_singleton, List.mem_singleton] at hc
  rw [hc]
  exact ha x hx

namespace Outbox.Table

theorem isPendingId_iff {id : Uuid} {e : OutboxEvent} :
    isPendingId id e = true ↔ e.id = id ∧ e.status = .pending := by
  simp [isPendingId]

theorem isPendingOf_iff {name : String} {e : OutboxEvent} :
    isPendingOf name e = true ↔ e.name = name ∧ e.status = .pending := by
  simp [isPendingOf]

/-- A row of the new table is a row of the old one, or the pending row with its change. -/
theorem mem_updatePending {id : Uuid} {change : OutboxEvent → OutboxEvent} {t : Table}
    {e' : OutboxEvent} (h : e' ∈ updatePending id change t) :
    e' ∈ t ∨ ∃ e ∈ t, e.id = id ∧ e.status = .pending ∧ e' = change e := by
  induction t with
  | nil => exact .inl h
  | cons e rest ih =>
    simp only [updatePending] at h
    split at h
    · rename_i hp
      obtain ⟨hid, hst⟩ := isPendingId_iff.mp hp
      rcases List.mem_cons.mp h with rfl | hmem
      · exact .inr ⟨e, by simp, hid, hst, rfl⟩
      · exact .inl (List.mem_cons_of_mem e hmem)
    · rcases List.mem_cons.mp h with rfl | hmem
      · exact .inl (by simp)
      · rcases ih hmem with hold | ⟨e₀, hmem₀, hrest⟩
        · exact .inl (List.mem_cons_of_mem e hold)
        · exact .inr ⟨e₀, List.mem_cons_of_mem e hmem₀, hrest⟩

/-- An update relates the rows one by one, if it does so to the pending row. -/
theorem forall₂_updatePending {R : OutboxEvent → OutboxEvent → Prop} (refl : ∀ e, R e e)
    {id : Uuid} {change : OutboxEvent → OutboxEvent}
    (hc : ∀ e, e.id = id → e.status = .pending → R e (change e)) (t : Table) :
    List.Forall₂ R t (updatePending id change t) := by
  induction t with
  | nil => exact .nil
  | cons e rest ih =>
    simp only [updatePending]
    split
    · rename_i hp
      obtain ⟨hid, hst⟩ := isPendingId_iff.mp hp
      exact .cons (hc e hid hst) (List.forall₂_same.mpr fun x _ => refl x)
    · exact .cons (refl e) ih

/-- With unique ids, an update that settles leaves no pending row with its id. -/
theorem not_pending_of_mem_updatePending {id : Uuid} {change : OutboxEvent → OutboxEvent}
    (hst : ∀ e, (change e).status ≠ .pending) {t : Table}
    (hn : (t.map (·.id)).Nodup) {e : OutboxEvent} (he : e ∈ updatePending id change t)
    (hei : e.id = id) : e.status ≠ .pending := by
  induction t with
  | nil => simp [updatePending] at he
  | cons e₀ rest ih =>
    obtain ⟨hnot, hrest⟩ := List.nodup_cons.mp hn
    simp only [updatePending] at he
    split at he
    · rename_i hp
      obtain ⟨hid₀, -⟩ := isPendingId_iff.mp hp
      rcases List.mem_cons.mp he with rfl | hmem
      · exact hst e₀
      · have hsame : e₀.id = e.id := hid₀.trans hei.symm
        exact (hnot (List.mem_map.mpr ⟨e, hmem, hsame.symm⟩)).elim
    · rename_i hp
      rcases List.mem_cons.mp he with rfl | hmem
      · exact fun hst₀ => hp (isPendingId_iff.mpr ⟨hei, hst₀⟩)
      · exact ih hrest hmem

/-- An update changes nothing if there is no pending row to change. -/
theorem updatePending_of_forall {id : Uuid} {change : OutboxEvent → OutboxEvent} {t : Table}
    (h : ∀ e ∈ t, isPendingId id e = false) : updatePending id change t = t := by
  induction t with
  | nil => rfl
  | cons e rest ih =>
    have he : ¬isPendingId id e = true := by simp [h e List.mem_cons_self]
    rw [updatePending, if_neg he, ih fun x hx => h x (List.mem_cons_of_mem e hx)]

/-- One row takes the place of another one, and the rows of other ids stay. -/
def Replaces (row row' : OutboxEvent) (t t' : Table) : Prop :=
  ∀ e, e ∈ t' ↔ e = row' ∨ (e ∈ t ∧ e.id ≠ row.id)

/-- With unique ids, an update replaces the pending row. -/
theorem replaces_updatePending (change : OutboxEvent → OutboxEvent) {t : Table}
    (hn : (t.map (·.id)).Nodup) {row : OutboxEvent} (hrow : row ∈ t) (hp : row.status = .pending) :
    Replaces row (change row) t (updatePending row.id change t) := by
  intro e
  induction t with
  | nil => simp at hrow
  | cons e₀ rest ih =>
    obtain ⟨hnot, hrest⟩ := List.nodup_cons.mp hn
    have hne : ∀ x ∈ rest, x.id ≠ e₀.id := fun x hx hid =>
      hnot (List.mem_map.mpr ⟨x, hx, hid⟩)
    rw [updatePending]
    rcases List.mem_cons.mp hrow with rfl | hmem
    · rw [if_pos (isPendingId_iff.mpr ⟨rfl, hp⟩)]
      simp only [List.mem_cons]
      constructor
      · rintro (rfl | he)
        · exact .inl rfl
        · exact .inr ⟨.inr he, hne e he⟩
      · rintro (rfl | ⟨rfl | he, hid⟩)
        · exact .inl rfl
        · exact (hid rfl).elim
        · exact .inr he
    · have hid₀ : e₀.id ≠ row.id := (hne row hmem).symm
      rw [if_neg fun h => hid₀ (isPendingId_iff.mp h).1]
      simp only [List.mem_cons, ih hrest hmem]
      constructor
      · rintro (rfl | hchanged | ⟨he, hid⟩)
        · exact .inr ⟨.inl rfl, hid₀⟩
        · exact .inl hchanged
        · exact .inr ⟨.inr he, hid⟩
      · rintro (hchanged | ⟨rfl | he, hid⟩)
        · exact .inr (.inl hchanged)
        · exact .inl rfl
        · exact .inr (.inr ⟨he, hid⟩)

/-! ## Tables that keep their rows -/

/-- Row by row, the second table holds the same events as the first. -/
abbrev Keeps (t t' : Table) : Prop := List.Forall₂ OutboxEvent.SameEvent t t'

theorem Keeps.refl (t : Table) : Keeps t t := List.forall₂_same.mpr fun e _ => .refl e

theorem Keeps.map_id {t t' : Table} (h : Keeps t t') : t'.map (·.id) = t.map (·.id) := by
  induction h with
  | nil => rfl
  | cons hxy _ ih => simp only [List.map_cons, ih, hxy.id]

theorem Keeps.exists_of_mem {t t' : Table} (h : Keeps t t') {e : OutboxEvent} (he : e ∈ t) :
    ∃ e' ∈ t', e.SameEvent e' := by
  induction h with
  | nil => simp at he
  | cons hxy _ ih =>
    rcases List.mem_cons.mp he with rfl | hmem
    · exact ⟨_, List.mem_cons_self, hxy⟩
    · obtain ⟨e', hmem', hsame⟩ := ih hmem
      exact ⟨e', List.mem_cons_of_mem _ hmem', hsame⟩

/-- Rows with unique ids are told apart by them. -/
theorem eq_of_id_eq {t : Table} (hn : (t.map (·.id)).Nodup) {a b : OutboxEvent} (ha : a ∈ t)
    (hb : b ∈ t) (h : a.id = b.id) : a = b :=
  List.inj_on_of_nodup_map hn ha hb h

/-- With unique ids, the pending row that an update finds is the one with the id. -/
theorem pendingRow?_of_mem {t : Table} (hn : (t.map (·.id)).Nodup) {row : OutboxEvent}
    (hrow : row ∈ t) (hp : row.status = .pending) : t.pendingRow? row.id = some row := by
  have hsome : (t.pendingRow? row.id).isSome :=
    List.find?_isSome.mpr ⟨row, hrow, isPendingId_iff.mpr ⟨rfl, hp⟩⟩
  obtain ⟨found, hfound⟩ := Option.isSome_iff_exists.mp hsome
  have hid : found.id = row.id := (isPendingId_iff.mp (List.find?_some hfound)).1
  rw [hfound, eq_of_id_eq hn (List.mem_of_find?_eq_some hfound) hrow hid]

/-- A batch is made of pending rows of its name. -/
theorem mem_of_mem_findPending {t : Table} {name : String} {limit : Nat} {e : OutboxEvent}
    (h : e ∈ t.findPending name limit) : e ∈ t ∧ e.name = name ∧ e.status = .pending := by
  have hmem := List.mem_of_mem_take h
  rw [List.mem_mergeSort, List.mem_filter] at hmem
  simpa [isPendingOf] using hmem

theorem nodup_findPending {t : Table} (hn : (t.map (·.id)).Nodup) (name : String) (limit : Nat) :
    ((t.findPending name limit).map (·.id)).Nodup := by
  have hfilter : ((t.filter (isPendingOf name)).map (·.id)).Nodup :=
    hn.sublist (List.filter_sublist.map _)
  have hperm := (List.mergeSort_perm (t.filter (isPendingOf name)) notAfter).map (·.id)
  have hsorted := hperm.nodup_iff.mpr hfilter
  exact hsorted.sublist ((List.take_sublist ..).map _)

end Outbox.Table

end SignIn
