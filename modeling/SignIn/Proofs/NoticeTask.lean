import SignIn.Proofs.WireNotices

/-!
# What the sender of notifications reads

The payload of a task is read by another program, as a login event. It reads every payload that is
written for a stored notice, with nothing lost, so that no login is stuck in the outbox.
-/
namespace SignIn

/-- A login event reads back as it was written. -/
theorem LoginEvent.ofJson?_normal {e : LoginEvent}
    (hpublished : Decimal.Range.i64.contains e.header.publishedAt = true)
    (hclock : e.loginAt.IsClock) (hyears : Rfc3339.inYears e.loginAt.date = true) :
    ofJson? e.toJson.normal = some e :=
  survives.kept _ e ⟨hpublished, Rfc3339.isTold_of_isClock hclock hyears⟩

namespace LoginNotice

/-- A task tells of a login: it has the right name, and its payload reads as an event of the row,
the user, and the time. -/
structure TellsOf (id : Uuid) (user : User) (loginAt : Timestamp) (task : Task)
    (event : LoginEvent) : Prop where
  name : task.name = "login"
  reads : LoginEvent.ofJson? task.payload = some event
  eventId : event.header.eventId = id.text
  eventName : event.header.eventName = "login"
  userId : event.userId = user.id.text
  email : event.email = user.email.getD ""
  username : event.username = user.username
  loginAt : event.loginAt = loginAt

/-- For every user, with or without an email, every time that a clock can show, and whenever the
event was made and the task is built: the notice of a login yields a task, and its payload reads as
a login event of this row and this user at this very time. -/
theorem login_is_told (id : Uuid) (createdAt : Int) (user : User) {loginAt : Timestamp}
    (hclock : loginAt.IsClock) (hyears : Rfc3339.inYears loginAt.date = true) {publishedAt : Int}
    (hpublished : Decimal.Range.i64.contains publishedAt = true) :
    ∃ build event, task (.make id createdAt EventName.login.text
        (ofUser user loginAt).toJson.normal) = .ok build ∧
      TellsOf id user loginAt (build publishedAt) event := by
  let e := OutboxEvent.make id createdAt EventName.login.text (ofUser user loginAt).toJson.normal
  have htask : task e = .ok fun now =>
      ⟨EventName.login.text, (loginEvent e user loginAt now).toJson.normal⟩ :=
    task_of_login rfl hclock hyears
  have hreads : LoginEvent.ofJson? (loginEvent e user loginAt publishedAt).toJson.normal =
      some (loginEvent e user loginAt publishedAt) :=
    LoginEvent.ofJson?_normal hpublished hclock hyears
  exact ⟨_, _, htask, rfl, hreads, rfl, rfl, rfl, rfl, rfl, rfl⟩

/-- Somebody without an email, with an odd name, in the last nanosecond of 1969. -/
theorem login_is_told_before_epoch :
    Timestamp.IsClock ⟨-1, 999999999⟩ ∧
    Rfc3339.inYears (Timestamp.date ⟨-1, 999999999⟩) = true ∧
    Decimal.Range.i64.contains 1735689600000 = true ∧
    ∃ build event, task (.make ⟨7⟩ 0 EventName.login.text
        (ofUser ⟨⟨1⟩, none, some "49", some "30123", "\"\\\né雪", "", 0, 0⟩
          ⟨-1, 999999999⟩).toJson.normal) = .ok build ∧
      (build 1735689600000).name = "login" ∧
      LoginEvent.ofJson? (build 1735689600000).payload = some event ∧ event.email = "" ∧
      event.loginAt = ⟨-1, 999999999⟩ := by
  have hclock : Timestamp.IsClock ⟨-1, 999999999⟩ := by decide
  have hyears : Rfc3339.inYears (Timestamp.date ⟨-1, 999999999⟩) = true := by decide
  have hpublished : Decimal.Range.i64.contains 1735689600000 = true := by decide
  obtain ⟨build, event, htask, htells⟩ := login_is_told ⟨7⟩ 0
    ⟨⟨1⟩, none, some "49", some "30123", "\"\\\né雪", "", 0, 0⟩ hclock hyears hpublished
  exact ⟨hclock, hyears, hpublished, build, event, htask, htells.name, htells.reads, htells.email,
    htells.loginAt⟩

end LoginNotice

end SignIn
