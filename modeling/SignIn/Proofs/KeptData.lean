import Mathlib.Data.List.Nodup
import Mathlib.Data.String.Basic
import SignIn.Json.Record

/-!
# Data as it is kept

A reader of arbitrary data sorts the members of every object by name and may rewrite its real
numbers. Members with distinct names are only put in order by this. What has been kept once is kept
as it is from then on, if real numbers that were rewritten stay as they are.
-/
namespace SignIn.Json

variable {fields members sorted : Fields} {name : String} {value : Json} {real : Real → Real}

/-! ## Members in the order of their names -/

theorem insertMember_perm (h : name ∉ sorted.map (·.1)) :
    (insertMember name value sorted).Perm ((name, value) :: sorted) := by
  induction sorted with
  | nil => exact .refl _
  | cons m sorted ih =>
    obtain ⟨name', value'⟩ := m
    rw [List.map_cons, List.mem_cons, not_or] at h
    unfold insertMember
    rw [if_neg h.1]
    split
    · exact .refl _
    · exact ((ih h.2).cons _).trans (.swap _ _ _)

theorem foldl_insertMember_perm (h : ((members ++ sorted).map (·.1)).Nodup) :
    (members.foldl (fun sorted m => insertMember m.1 m.2 sorted) sorted).Perm
      (members ++ sorted) := by
  induction members generalizing sorted with
  | nil => exact .refl _
  | cons m members ih =>
    rw [List.cons_append] at h ⊢
    have hm : m.1 ∉ (members ++ sorted).map (·.1) := (List.nodup_cons.mp h).1
    rw [List.map_append, List.mem_append, not_or] at hm
    have hinsert : (insertMember m.1 m.2 sorted).Perm (m :: sorted) := insertMember_perm hm.2
    have hmoved : (members ++ insertMember m.1 m.2 sorted).Perm (m :: (members ++ sorted)) :=
      (hinsert.append_left members).trans List.perm_middle
    exact (ih ((hmoved.map _).nodup_iff.mpr h)).trans hmoved

theorem sortMembers_perm (h : (members.map (·.1)).Nodup) : (sortMembers members).Perm members := by
  have hfold : (sortMembers members).Perm (members ++ []) :=
    foldl_insertMember_perm (by simpa using h)
  rwa [List.append_nil] at hfold

/-- Names in strict order, so none stands twice. -/
def Fields.Ordered (fields : Fields) : Prop := fields.Pairwise fun m m' => m.1 < m'.1

theorem Fields.Ordered.nodup (h : fields.Ordered) : (fields.map (·.1)).Nodup :=
  List.pairwise_map.mpr (h.imp fun hlt => ne_of_lt hlt)

theorem mem_of_mem_insertMember {m : String × Json} (h : m ∈ insertMember name value sorted) :
    m = (name, value) ∨ m ∈ sorted := by
  induction sorted with
  | nil => exact .inl (List.mem_singleton.mp h)
  | cons m' sorted ih =>
    unfold insertMember at h
    split at h
    · exact List.mem_cons.mp h
    split at h
    · exact (List.mem_cons.mp h).imp_right (List.mem_cons_of_mem _)
    · rcases List.mem_cons.mp h with rfl | hm
      · exact .inr List.mem_cons_self
      · exact (ih hm).imp_right (List.mem_cons_of_mem _)

theorem Fields.Ordered.insertMember (h : Fields.Ordered sorted) :
    Fields.Ordered (insertMember name value sorted) := by
  induction sorted with
  | nil => exact List.pairwise_singleton _ _
  | cons m sorted ih =>
    obtain ⟨name', value'⟩ := m
    obtain ⟨hbelow, hrest⟩ := List.pairwise_cons.mp h
    unfold Json.insertMember
    split
    · next hlt =>
      refine List.pairwise_cons.mpr ⟨fun m hm => ?_, h⟩
      rcases List.mem_cons.mp hm with rfl | hm
      · exact hlt
      · exact lt_trans hlt (hbelow m hm)
    next hnlt =>
    split
    · next heq =>
      subst heq
      exact List.pairwise_cons.mpr ⟨hbelow, hrest⟩
    · next hne =>
      refine List.pairwise_cons.mpr ⟨fun m hm => ?_, ih hrest⟩
      rcases mem_of_mem_insertMember hm with rfl | hm
      · exact lt_of_le_of_ne (not_lt.mp hnlt) (Ne.symm hne)
      · exact hbelow m hm

theorem ordered_sortMembers (members : Fields) : Fields.Ordered (sortMembers members) := by
  have hfold : ∀ {sorted : Fields}, sorted.Ordered →
      Fields.Ordered (members.foldl (fun sorted m => insertMember m.1 m.2 sorted) sorted) := by
    induction members with
    | nil => exact fun h => h
    | cons m members ih => exact fun h => ih h.insertMember
  exact hfold List.Pairwise.nil

theorem sortMembers_of_ordered (h : members.Ordered) : sortMembers members = members := by
  refine (sortMembers_perm h.nodup).eq_of_pairwise (fun m m' _ _ hlt hgt => ?_)
    (ordered_sortMembers members) h
  exact absurd hgt (lt_asymm hlt)

/-! ## Whole values -/

theorem normalMembers_insertMember (real : Real → Real) (sorted : Fields) :
    normalMembers real (insertMember name value sorted) =
      insertMember name (value.normalWith real) (normalMembers real sorted) := by
  induction sorted with
  | nil => rfl
  | cons m sorted ih =>
    obtain ⟨name', value'⟩ := m
    simp only [insertMember, normalMembers]
    split
    · rfl
    split
    · rfl
    · rw [normalMembers, ih]

theorem normalMembers_sortMembers (real : Real → Real) (members : Fields) :
    normalMembers real (sortMembers members) = sortMembers (normalMembers real members) := by
  have hfold : ∀ sorted : Fields,
      normalMembers real (members.foldl (fun sorted m => insertMember m.1 m.2 sorted) sorted) =
        (normalMembers real members).foldl (fun sorted m => insertMember m.1 m.2 sorted)
          (normalMembers real sorted) := by
    induction members with
    | nil => exact fun sorted => rfl
    | cons m members ih =>
      intro sorted
      rw [List.foldl_cons, ih, normalMembers_insertMember]
      rfl
  exact hfold []

mutual

/-- What has been kept stays as it is. -/
theorem normalWith_normalWith (h : ∀ token, real (real token) = real token) :
    ∀ j : Json, (j.normalWith real).normalWith real = j.normalWith real
  | .null => rfl
  | .bool _ => rfl
  | .int _ => rfl
  | .str _ => rfl
  | .real token => congrArg Json.real (h token)
  | .arr items => congrArg Json.arr (normalItems_normalItems h items)
  | .obj members => by
    have hordered := ordered_sortMembers (normalMembers real members)
    rw [normalWith, normalWith, normalMembers_sortMembers, normalMembers_normalMembers h members,
      sortMembers_of_ordered hordered]

theorem normalItems_normalItems (h : ∀ token, real (real token) = real token) :
    ∀ items : List Json, normalItems real (normalItems real items) = normalItems real items
  | [] => rfl
  | item :: items => by
    rw [normalItems, normalItems, normalWith_normalWith h item, normalItems_normalItems h items]

theorem normalMembers_normalMembers (h : ∀ token, real (real token) = real token) :
    ∀ members : Fields,
      normalMembers real (normalMembers real members) = normalMembers real members
  | [] => rfl
  | (name, value) :: members => by
    rw [normalMembers, normalMembers, normalWith_normalWith h value,
      normalMembers_normalMembers h members]

end

end SignIn.Json
