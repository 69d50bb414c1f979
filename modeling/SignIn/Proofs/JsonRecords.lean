import SignIn.Proofs.JsonText
import SignIn.Proofs.KeptData

/-!
# Records and their members

A record finds its members in whatever order they stand. A reader of arbitrary data only puts the
members of a record in another order, so it keeps every record. A kind of record survives if each
of its values is read from what is written for it, directly, as it is kept, and from its text.
-/
namespace SignIn

namespace Json

variable {fields members : Fields} {name : String} {value : Json}

/-! ## Members in any order -/

theorem get?_eq_some_iff (hnodup : (fields.map (·.1)).Nodup) :
    fields.get? name = some value ↔ (name, value) ∈ fields := by
  constructor
  · intro h
    obtain ⟨⟨name', value'⟩, hfind, rfl⟩ := Option.map_eq_some_iff.mp h
    obtain rfl : name' = name := by simpa using List.find?_some hfind
    exact List.mem_of_find?_eq_some hfind
  · intro hmem
    have hsome : (fields.find? (·.1 == name)).isSome :=
      List.find?_isSome.mpr ⟨_, hmem, beq_self_eq_true name⟩
    obtain ⟨m, hm⟩ := Option.isSome_iff_exists.mp hsome
    have hname : m.1 = name := by simpa using List.find?_some hm
    obtain rfl : m = (name, value) :=
      List.inj_on_of_nodup_map hnodup (List.mem_of_find?_eq_some hm) hmem hname
    rw [Fields.get?, hm]
    rfl

theorem get?_of_perm (h : fields.Perm members) (hnodup : (members.map (·.1)).Nodup)
    (name : String) : fields.get? name = members.get? name := by
  have hnodup' : (fields.map (·.1)).Nodup := (h.map _).nodup_iff.mpr hnodup
  ext value
  rw [get?_eq_some_iff hnodup', get?_eq_some_iff hnodup, h.mem_iff]

theorem required_of_perm {α : Type} (h : fields.Perm members) (hnodup : (members.map (·.1)).Nodup)
    (name : String) (read : Json → Option α) :
    fields.required name read = members.required name read :=
  congrArg (· >>= read) (get?_of_perm h hnodup name)

theorem optional_of_perm {α : Type} (h : fields.Perm members) (hnodup : (members.map (·.1)).Nodup)
    (name : String) (read : Json → Option α) :
    fields.optional name read = members.optional name read := by
  unfold Fields.optional
  rw [get?_of_perm h hnodup]

theorem fields?_of_perm (names : List String) (h : fields.Perm members)
    (hnames : ∀ m ∈ members, m.1 ∈ names) (hnodup : (members.map (·.1)).Nodup) :
    (Json.obj fields).fields? names = some fields :=
  fields?_obj (fun m hm => hnames m (h.mem_iff.mp hm)) ((h.map _).nodup_iff.mpr hnodup)

/-! ## What is read -/

theorem contains_of_integer {range : Decimal.Range} {j : Json} {n : Int}
    (h : integer range j = some n) : range.contains n = true := by
  unfold integer at h
  split at h
  · split at h
    · next hrange =>
      obtain rfl := Option.some.inj h
      exact hrange
    · cases h
  · cases h

theorem exists_of_required {α : Type} {read : Json → Option α} {a : α}
    (h : fields.required name read = some a) : ∃ j, read j = some a := by
  obtain ⟨j, -, hj⟩ := Option.bind_eq_some_iff.mp h
  exact ⟨j, hj⟩

theorem contains_of_required {range : Decimal.Range} {n : Int}
    (h : fields.required name (integer range) = some n) : range.contains n = true := by
  obtain ⟨j, hj⟩ := exists_of_required h
  exact contains_of_integer hj

/-! ## Texts that may be absent -/

theorem optional_ofOption {text? : Option String}
    (h : fields.get? name = some (.ofOption .str text?)) :
    fields.optional name str? = some text? := by
  unfold Fields.optional
  rw [h]
  cases text? <;> rfl

@[simp] theorem normalWith_ofOption (real : Real → Real) (text? : Option String) :
    (ofOption .str text?).normalWith real = ofOption .str text? := by
  cases text? <;> rfl

@[simp] theorem isLegible_ofOption (depth : Nat) (text? : Option String) :
    (ofOption .str text?).isLegible depth = true := by
  cases text? <;> rfl

/-! ## Legible records -/

theorem inIntegerRange_of_i32 {n : Int} (h : Decimal.Range.i32.contains n = true) :
    inIntegerRange n = true := by
  obtain ⟨hleast, hgreatest⟩ := Decimal.Range.contains_iff.mp h
  have hwider : Decimal.Range.i64.contains n = true :=
    Decimal.Range.contains_iff.mpr ⟨le_trans (by decide) hleast, hgreatest.trans (by decide)⟩
  exact inIntegerRange_of_i64 hwider

theorem membersAreLegible_iff {depth : Nat} :
    membersAreLegible depth members = true ↔ ∀ m ∈ members, isLegible depth m.2 = true := by
  induction members with
  | nil => exact ⟨fun _ m hm => absurd hm List.not_mem_nil, fun _ => rfl⟩
  | cons m members ih => rw [membersAreLegible, Bool.and_eq_true, ih, List.forall_mem_cons]

/-! ## Kinds of records -/

end Json

/-- How a kind of record is written and read. It fits if its numbers and times fit their words. What
becomes of arbitrary data in it is told by `keep`, and it is legible if such data can be read in a
text: it is not nested too deep, and its numbers are not too large. -/
structure Wire (α : Type) where
  toJson : α → Json
  ofJson? : Json → Option α
  Fits : α → Prop
  keep : (Json.Real → Json.Real) → α → α := fun _ a => a
  Legible : α → Prop := fun _ => True

namespace Wire

open Json

variable {α : Type} {w : Wire α}

/-- Write a record as a text and read that. -/
def reread (w : Wire α) (real : Json.Real → Json.Real) (a : α) : Option α :=
  parse? (w.toJson a).text >>= fun j => w.ofJson? (j.normalWith real)

/-- Nothing is lost in JSON but what a reader of arbitrary data does to real numbers. -/
structure Survives (w : Wire α) : Prop where
  written : ∀ a, w.Fits a → w.ofJson? (w.toJson a) = some a
  kept : ∀ real a, w.Fits a → w.ofJson? ((w.toJson a).normalWith real) = some (w.keep real a)
  /-- What has been kept once is written as it was kept. -/
  settled : ∀ real, (∀ token, real (real token) = real token) → ∀ a,
    (w.toJson (w.keep real a)).normalWith real = (w.toJson a).normalWith real
  text : ∀ real a, w.Fits a → w.Legible a → w.reread real a = some (w.keep real a)
  /-- Whatever is read is written and read again. -/
  accepted : ∀ j a, w.ofJson? j = some a → w.Fits a ∧ w.ofJson? (w.toJson a) = some a

/-- A record that is read from its members in any order, whatever becomes of arbitrary data in it,
survives. -/
theorem Survives.of_members (members : α → Fields) (htoJson : ∀ a, w.toJson a = .obj (members a))
    (hnodup : ∀ a, ((members a).map (·.1)).Nodup)
    (hreads : ∀ a fields, w.Fits a → fields.Perm (members a) → w.ofJson? (.obj fields) = some a)
    (hkeep : ∀ real a, normalMembers real (members a) = members (w.keep real a))
    (hkeeps : ∀ real a, w.Fits a → w.Fits (w.keep real a))
    (hlegible : ∀ a, w.Fits a → w.Legible a →
      ∀ m ∈ members a, isLegible (Draft.greatestDepth - 1) m.2 = true)
    (hfits : ∀ j a, w.ofJson? j = some a → w.Fits a) : w.Survives := by
  have hwritten : ∀ a, w.Fits a → w.ofJson? (w.toJson a) = some a := by
    intro a ha
    rw [htoJson]
    exact hreads a _ ha (.refl _)
  have hkept : ∀ real a, w.Fits a →
      w.ofJson? ((w.toJson a).normalWith real) = some (w.keep real a) := by
    intro real a ha
    rw [htoJson, normalWith, hkeep]
    exact hreads _ _ (hkeeps real a ha) (sortMembers_perm (hnodup _))
  refine ⟨hwritten, hkept, fun real hreal a => ?_, fun real a ha hdata => ?_,
    fun j a h => ⟨hfits j a h, hwritten a (hfits j a h)⟩⟩
  · rw [htoJson, htoJson, ← hkeep, normalWith, normalWith, normalMembers_normalMembers hreal]
  · have htext : (w.toJson a).isLegible Draft.greatestDepth = true := by
      rw [htoJson, isLegible, membersAreLegible_iff.mpr (hlegible a ha hdata)]
      rfl
    rw [reread, parse?_text htext]
    exact hkept real a ha

end Wire

end SignIn
