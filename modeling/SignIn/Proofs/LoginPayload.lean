import SignIn.LoginNotice
import SignIn.Proofs.JsonRecords
import SignIn.Proofs.Rfc3339Text
import SignIn.Proofs.UuidText

/-!
# The notice of a login becomes its task

A notice that a login has stored is read back as it was, so that it always yields a
task, and the task speaks of the same login.
-/
namespace SignIn.LoginNotice

open Json (Fields)

/-! ## Its members in any order -/

theorem readTime_text {t : Timestamp} (htold : Rfc3339.IsTold t) :
    readTime (.str (Rfc3339.text t)) = .ok t := by
  change (Rfc3339.ofText (Rfc3339.text t)).mapError Rfc3339.Problem.message = .ok t
  rw [Rfc3339.ofText_text_of_isTold htold]
  rfl

def members (n : LoginNotice) : Fields :=
  [("userID", .str n.userId)] ++ (n.email.map fun email => ("email", Json.str email)).toList ++
    [("username", .str n.username), ("loginAt", .str (Rfc3339.text n.loginAt))]

theorem nodup_members (n : LoginNotice) : (n.members.map (·.1)).Nodup := by
  unfold members
  cases n.email <;> simp

theorem email_mem_names {n : LoginNotice} :
    "email" ∈ n.members.map (·.1) ↔ n.email.isSome = true := by
  unfold members
  cases n.email <;> simp

/-- The draft into which members of these names have been read. -/
def Draft.holding (d : Draft) (n : LoginNotice) (names : List String) : Draft where
  userId := if "userID" ∈ names then some n.userId else d.userId
  email := if "email" ∈ names then some n.email else d.email
  username := if "username" ∈ names then some n.username else d.username
  loginAt := if "loginAt" ∈ names then some n.loginAt else d.loginAt

theorem Draft.holding_cons (d : Draft) (n : LoginNotice) (name : String) (names : List String) :
    (d.holding n [name]).holding n names = d.holding n (name :: names) := by
  simp only [holding, List.mem_cons, List.not_mem_nil, or_false, Draft.mk.injEq]
  refine ⟨?_, ?_, ?_, ?_⟩ <;> split_ifs <;> simp_all

variable {n : LoginNotice}

theorem put_of_mem (htold : Rfc3339.IsTold n.loginAt) {m : String × Json} (hm : m ∈ n.members)
    (d : Draft) : d.put m = .ok (d.holding n [m.1]) := by
  have htime : readTime (.str (Rfc3339.text n.loginAt)) = .ok n.loginAt := readTime_text htold
  unfold members at hm
  simp only [List.mem_append, List.mem_cons, List.not_mem_nil, or_false, Option.mem_toList,
    Option.map_eq_some_iff] at hm
  rcases hm with (rfl | ⟨email, hemail, rfl⟩) | rfl | rfl
  · simp [Draft.put, Draft.holding, readText, Except.map]
  · simp [Draft.put, Draft.holding, hemail, readOptionalText, readText, Except.map]
  · simp [Draft.put, Draft.holding, readText, Except.map]
  · simp [Draft.put, Draft.holding, htime, Except.map]

theorem foldlM_put (htold : Rfc3339.IsTold n.loginAt) {fields : Fields}
    (h : ∀ m ∈ fields, m ∈ n.members) (d : Draft) :
    fields.foldlM Draft.put d = .ok (d.holding n (fields.map (·.1))) := by
  induction fields generalizing d with
  | nil => rfl
  | cons m fields ih =>
    rw [List.forall_mem_cons] at h
    rw [List.foldlM_cons, put_of_mem htold h.1, ok_bind, ih h.2, Draft.holding_cons]
    rfl

/-- A notice is read from its members, in whatever order they stand. -/
theorem read_of_perm (htold : Rfc3339.IsTold n.loginAt) {fields : Fields}
    (h : fields.Perm n.members) : read (.obj fields) = .ok n := by
  have hnames : ∀ name, name ∈ fields.map (·.1) ↔ name ∈ n.members.map (·.1) :=
    fun _ => (h.map _).mem_iff
  have hemail : "email" ∈ fields.map (·.1) ↔ n.email.isSome = true :=
    (hnames _).trans email_mem_names
  have huser : "userID" ∈ fields.map (·.1) := (hnames _).mpr (by simp [members])
  have hname : "username" ∈ fields.map (·.1) := (hnames _).mpr (by simp [members])
  have hlogin : "loginAt" ∈ fields.map (·.1) := (hnames _).mpr (by simp [members])
  rw [read, foldlM_put htold (fun m hm => h.mem_iff.mp hm), ok_bind]
  unfold Draft.holding
  rw [if_pos huser, if_pos hname, if_pos hlogin]
  obtain ⟨userId, email, username, loginAt⟩ := n
  cases email with
  | none =>
    rw [if_neg fun hmem => Bool.false_ne_true (hemail.mp hmem)]
    rfl
  | some email =>
    rw [if_pos (hemail.mpr rfl)]
    rfl

theorem normalMembers_members (real : Json.Real → Json.Real) (n : LoginNotice) :
    Json.normalMembers real n.members = n.members := by
  unfold members
  cases n.email <;> rfl

/-- A stored notice is sorted by the names of its members, and reads back all the same. -/
theorem read_toJson_normal (n : LoginNotice) (htold : Rfc3339.IsTold n.loginAt) :
    read n.toJson.normal = .ok n := by
  change read (.obj (Json.sortMembers (Json.normalMembers _ n.members))) = .ok n
  rw [normalMembers_members]
  exact read_of_perm htold (Json.sortMembers_perm n.nodup_members)

/-! ## Its task -/

/-- What the task of a row tells of a login. -/
def loginEvent (e : OutboxEvent) (user : User) (loginAt : Timestamp) (now : Int) : LoginEvent :=
  ⟨⟨e.id.text, EventName.login.text, now⟩, user.id.text, user.email.getD "", user.username, loginAt⟩

/-- A row that a login has stored yields its task. -/
theorem task_of_login {e : OutboxEvent} {user : User} {loginAt : Timestamp}
    (hpayload : e.payload = (ofUser user loginAt).toJson.normal) (hclock : loginAt.IsClock)
    (hyears : Rfc3339.inYears loginAt.date = true) :
    task e = .ok fun now =>
      ⟨EventName.login.text, (loginEvent e user loginAt now).toJson.normal⟩ := by
  have hread : read e.payload = .ok (ofUser user loginAt) := by
    rw [hpayload]
    exact read_toJson_normal _ (Rfc3339.isTold_of_isClock hclock hyears)
  have hnamed : (ofUser user loginAt).userId ≠ "" := Uuid.text_ne_empty user.id
  unfold task ofEvent
  rw [hread]
  simp only [if_neg hnamed]
  rfl

end SignIn.LoginNotice
