import SignIn.Proofs.LoginPayload
import SignIn.Proofs.TimesRead
import SignIn.Proofs.WireRecords

/-!
# Notices and login events on the wire

The notice of a login and the event that is made of it survive, leap seconds included. A notice has
a reader of its own, that goes from member to member and says what is wrong.
-/
namespace SignIn

open Json

/-! ## Events -/

namespace EventHeader

variable {h : EventHeader}

def members (h : EventHeader) : Fields :=
  [("eventID", .str h.eventId), ("eventName", .str h.eventName),
    ("publishedAt", .int h.publishedAt)]

theorem ofJson?_toJson (hpublished : Decimal.Range.i64.contains h.publishedAt = true) :
    ofJson? h.toJson = some h := by
  have hfields : h.toJson.fields? ["eventID", "eventName", "publishedAt"] = some h.members :=
    fields?_obj (by simp) (by simp)
  have hread : int64? (.int h.publishedAt) = some h.publishedAt := if_pos hpublished
  rw [ofJson?, hfields]
  simp [Fields.required, Fields.get?, members, str?, hread]

theorem fits_of_ofJson? {j : Json} (hj : ofJson? j = some h) :
    Decimal.Range.i64.contains h.publishedAt = true := by
  simp only [ofJson?, Option.bind_eq_bind, Option.bind_eq_some_iff] at hj
  obtain ⟨f, -, id, -, name, -, published, hpublished, hj⟩ := hj
  obtain rfl := Option.some.inj hj
  exact contains_of_required hpublished

/-- The names stand in their order. -/
theorem normalWith_toJson (real : Json.Real → Json.Real) (h : EventHeader) :
    h.toJson.normalWith real = h.toJson := by
  have horder : ¬ "eventName" < "eventID" ∧ ¬ "publishedAt" < "eventID" ∧
      ¬ "publishedAt" < "eventName" := by decide
  simp [toJson, normalWith, normalMembers, sortMembers, insertMember, horder]

theorem isLegible_toJson (hpublished : Decimal.Range.i64.contains h.publishedAt = true) :
    h.toJson.isLegible (Draft.greatestDepth - 1) = true := by
  simp [toJson, isLegible, membersAreLegible, Draft.greatestDepth, inIntegerRange_of_i64 hpublished]

end EventHeader

namespace LoginEvent

structure TimesFit (e : LoginEvent) : Prop where
  publishedAt : Decimal.Range.i64.contains e.header.publishedAt = true
  loginAt : Rfc3339.IsTold e.loginAt

def members (e : LoginEvent) : Fields :=
  [("eventMetadata", e.header.toJson), ("userId", .str e.userId), ("email", .str e.email),
    ("username", .str e.username), ("loginAt", .str (Rfc3339.text e.loginAt))]

variable {e : LoginEvent}

theorem nodup_members (e : LoginEvent) : (e.members.map (·.1)).Nodup := by
  simp [members]

theorem ofJson?_of_perm (he : e.TimesFit) {fields : Fields} (h : fields.Perm e.members) :
    ofJson? (.obj fields) = some e := by
  have hfields := fields?_of_perm ["eventMetadata", "userId", "email", "username",
    "loginAt"] h (by simp [members]) e.nodup_members
  have hheader : EventHeader.ofJson? e.header.toJson = some e.header :=
    EventHeader.ofJson?_toJson he.publishedAt
  have htime : time? (.str (Rfc3339.text e.loginAt)) = some e.loginAt := by
    rw [time?, Rfc3339.ofText_text_of_isTold he.loginAt]
    rfl
  rw [ofJson?, hfields]
  simp only [Option.bind_eq_bind, Option.bind_some, required_of_perm h e.nodup_members]
  simp [Fields.required, Fields.get?, members, str?, hheader, htime]

theorem isTold_of_time? {j : Json} {t : Timestamp} (h : time? j = some t) : Rfc3339.IsTold t := by
  unfold time? at h
  split at h
  · exact Rfc3339.isTold_of_ofText (toOption_eq_some_iff.mp h)
  · cases h

theorem fits_of_ofJson? {j : Json} (h : ofJson? j = some e) : e.TimesFit := by
  simp only [ofJson?, Option.bind_eq_bind, Option.bind_eq_some_iff] at h
  obtain ⟨f, -, header, hheader, user, -, email, -, name, -, login, hlogin, h⟩ := h
  obtain rfl := Option.some.inj h
  obtain ⟨j₁, hheader⟩ := exists_of_required hheader
  obtain ⟨j₂, hlogin⟩ := exists_of_required hlogin
  exact ⟨EventHeader.fits_of_ofJson? hheader, isTold_of_time? hlogin⟩

def wire : Wire LoginEvent where
  toJson := toJson
  ofJson? := ofJson?
  Fits := TimesFit

theorem survives : wire.Survives := by
  refine .of_members members (fun e => rfl) nodup_members
    (fun e fields he h => ofJson?_of_perm he h)
    (fun real e => ?_) (fun real e he => he) (fun e he _ => ?_) fun j e => fits_of_ofJson?
  · simp [members, normalMembers, normalWith, EventHeader.normalWith_toJson, wire]
  · have he : e.TimesFit := he
    simp [members, isLegible, EventHeader.isLegible_toJson he.publishedAt]

end LoginEvent

/-! ## Notices -/

namespace LoginNotice

theorem isTold_of_readTime {j : Json} {t : Timestamp} (h : readTime j = .ok t) :
    Rfc3339.IsTold t := by
  unfold readTime at h
  split at h
  · exact Rfc3339.isTold_of_ofText (mapError_eq_ok_iff.mp h)
  · cases h

/-- Every time that has been read is one that can be told. -/
def Draft.Told (d : Draft) : Prop := ∀ t, d.loginAt = some t → Rfc3339.IsTold t

theorem Draft.Told.put {d d' : Draft} {m : String × Json} (hd : d.Told) (h : d.put m = .ok d') :
    d'.Told := by
  unfold Draft.put at h
  split at h
  · obtain ⟨s, -, rfl⟩ := map_eq_ok_iff.mp h
    exact hd
  · obtain ⟨s, -, rfl⟩ := map_eq_ok_iff.mp h
    exact hd
  · obtain ⟨s, -, rfl⟩ := map_eq_ok_iff.mp h
    exact hd
  · obtain ⟨t, ht, rfl⟩ := map_eq_ok_iff.mp h
    rintro t' ht'
    obtain rfl := Option.some.inj ht'
    exact isTold_of_readTime ht
  · obtain rfl := Except.ok.inj h
    exact hd

theorem Draft.Told.foldlM {d d' : Draft} {fields : Fields} (hd : d.Told)
    (h : fields.foldlM Draft.put d = .ok d') : d'.Told := by
  induction fields generalizing d with
  | nil =>
    obtain rfl := Except.ok.inj h
    exact hd
  | cons m fields ih =>
    rw [List.foldlM_cons] at h
    obtain ⟨d₁, hput, h⟩ := bind_eq_ok_iff.mp h
    exact ih (hd.put hput) h

theorem Draft.Told.finish {d : Draft} {n : LoginNotice} {absent : String → String} (hd : d.Told)
    (h : d.finish absent = .ok n) : Rfc3339.IsTold n.loginAt := by
  obtain ⟨userId, -, h⟩ := bind_eq_ok_iff.mp h
  obtain ⟨username, -, h⟩ := bind_eq_ok_iff.mp h
  obtain ⟨loginAt, hlogin, h⟩ := bind_eq_ok_iff.mp h
  obtain rfl := Except.ok.inj h
  unfold require at hlogin
  split at hlogin
  · next t ht =>
    obtain rfl := Except.ok.inj hlogin
    exact hd _ ht
  · cases hlogin

theorem told_empty : (Draft.Told {}) := nofun

theorem fits_of_read {j : Json} {n : LoginNotice} (h : read j = .ok n) :
    Rfc3339.IsTold n.loginAt := by
  unfold read at h
  split at h
  · obtain ⟨d, hd, h⟩ := bind_eq_ok_iff.mp h
    exact (told_empty.foldlM hd).finish h
  · obtain ⟨d, hd, h⟩ := bind_eq_ok_iff.mp h
    obtain ⟨n', hn, h⟩ := bind_eq_ok_iff.mp h
    split at h
    · obtain rfl := Except.ok.inj h
      exact (told_empty.foldlM hd).finish hn
    · cases h
  · cases h

def wire : Wire LoginNotice where
  toJson := toJson
  ofJson? := ofJson?
  Fits n := Rfc3339.IsTold n.loginAt

theorem survives : wire.Survives := by
  refine .of_members members (fun n => rfl) nodup_members
    (fun n fields hn h => toOption_eq_some_iff.mpr (read_of_perm hn h))
    (fun real n => normalMembers_members real n) (fun real n hn => hn) (fun n _ _ => ?_)
    fun j n h => fits_of_read (toOption_eq_some_iff.mp h)
  cases hemail : n.email <;> simp [members, isLegible, hemail]

end LoginNotice

/-! ## All records -/

/-- Every event of the outbox, task, token payload, refresh token, request and notice of a login is
read from what is written for it, and is kept when its members are sorted or it is written as a
text, except that a text may change real numbers in arbitrary data; and whatever is read as one is
written and read again. What is written of a user says nothing of the hash of the password, and
with a hash beside it, in whatever order, gives back all the rest. -/
theorem records_survive :
    (OutboxEvent.wire.Survives ∧ Task.wire.Survives ∧ Claims.wire.Survives ∧
      RefreshToken.wire.Survives ∧ RegisterRequest.wire.Survives ∧ LoginRequest.wire.Survives ∧
      LoginNotice.wire.Survives ∧ LoginEvent.wire.Survives) ∧
    ∀ u : User, (∀ hash, { u with passwordHash := hash }.toJson = u.toJson) ∧
      User.ofJson? u.toJson = none ∧
      ∀ ms, u.toJson = .obj ms → u.TimesFit → ∀ hash fields,
        fields.Perm (("password_hash", .str hash) :: ms) →
        User.ofJson? (.obj fields) = some { u with passwordHash := hash } := by
  refine ⟨⟨OutboxEvent.survives, Task.survives, Claims.survives, RefreshToken.survives,
    RegisterRequest.survives, LoginRequest.survives, LoginNotice.survives, LoginEvent.survives⟩,
    fun u => ⟨u.toJson_passwordHash, u.ofJson?_toJson, ?_⟩⟩
  rintro ms hms hu hash fields h
  obtain rfl := Json.obj.inj hms
  exact User.ofJson?_of_perm hu h

/-- An event with the least and the greatest numbers and a payload that is not in order. -/
def OutboxEvent.utmost : OutboxEvent where
  id := Uuid.nil
  name := "login"
  payload := .obj [("z", .arr [.null, .int 18446744073709551615]), ("a", .str "\n")]
  status := .failed
  attempts := -2147483648
  lastError := some ""
  createdAt := -9223372036854775808
  updatedAt := 9223372036854775807

/-- A login in the last nanosecond before 1970. -/
def LoginNotice.early : LoginNotice := ⟨"42", none, "alice", ⟨-1, 999999999⟩⟩

def User.bare (hash : String) : User := ⟨Uuid.nil, none, none, none, "alice", hash, -1, 0⟩

theorem records_survive_utmost :
    OutboxEvent.wire.reread Real.shortest .utmost = some { OutboxEvent.utmost with
      payload := .obj [("a", .str "\n"), ("z", .arr [.null, .int 18446744073709551615])] } ∧
    LoginNotice.wire.reread Real.shortest .early = some .early ∧
    User.ofJson? (.obj ((User.bare "").publicMembers ++ (User.bare "").stamps ++
      [("password_hash", .str "$")])) = some (User.bare "$") := by
  obtain ⟨⟨hevents, -, -, -, -, -, hnotices, -⟩, husers⟩ := records_survive
  refine ⟨?_, ?_, ?_⟩
  · have hfits : OutboxEvent.utmost.NumbersFit := ⟨by decide, by decide, by decide⟩
    have hdata : OutboxEvent.utmost.payload.isLegible (Draft.greatestDepth - 1) = true := by
      decide
    have horder : "a" < "z" := by decide
    have hsorted : OutboxEvent.utmost.payload.normalWith Real.shortest =
        .obj [("a", .str "\n"), ("z", .arr [.null, .int 18446744073709551615])] := by
      simp [OutboxEvent.utmost, normalWith, normalItems, normalMembers, sortMembers, insertMember,
        horder]
    rw [← hsorted]
    exact hevents.text Real.shortest .utmost hfits hdata
  · have htold : Rfc3339.IsTold LoginNotice.early.loginAt := ⟨by decide +kernel, .inl (by decide)⟩
    exact hnotices.text Real.shortest .early htold trivial
  · have hfits : (User.bare "").TimesFit := ⟨by decide, by decide⟩
    obtain ⟨-, -, hread⟩ := husers (User.bare "")
    exact hread _ rfl hfits "$" _ List.perm_append_comm

/-! ## What a text changes -/

theorem Task.reread_real {name : String} {token : Json.Real} (h : token.value?.isSome = true) :
    Task.wire.reread Real.shortest ⟨name, .real token⟩ = some ⟨name, .real token.shortest⟩ :=
  Task.survives.text Real.shortest ⟨name, .real token⟩ trivial h

/-- So many lists around an empty one. -/
def Json.nested : Nat → Json
  | 0 => .arr []
  | depth + 1 => .arr [nested depth]

/-- Dividing 2 by the nearest number to 1e30 gives 1.9999999999999998e-30, and from the digits of
that comes 2e-30 again: a task with such a number becomes another one each time. And one that is
nested too deep is not read. -/
theorem exists_task_changed :
    let token : Json.Real := ⟨['2', 'e', '-', '3', '0'], by decide +kernel⟩
    let task : Task := ⟨"report", .real token⟩
    let task' : Task := ⟨"report", .real token.shortest⟩
    token.shortest.chars = "1.9999999999999998e-30".toList ∧
      Task.wire.reread Real.shortest task = some task' ∧
      Task.wire.reread Real.shortest task' = some task ∧ task' ≠ task ∧
      Task.wire.reread Real.shortest ⟨"report", .nested 126⟩ = none := by
  intro token task task'
  have hback : token.shortest.shortest = token := by decide +kernel
  have hchanged : token.shortest ≠ token := by decide +kernel
  refine ⟨by decide +kernel, Task.reread_real (by decide +kernel), ?_, fun h => ?_,
    by decide +kernel⟩
  · rw [Task.reread_real (by decide +kernel), hback]
  · exact hchanged (Json.real.inj (congrArg Task.payload h))

end SignIn
