/-
# What registration and change of password report

The helpers of the database return codes that the handlers leave out. A
registration that the table refuses, for an empty name or an empty password,
is answered with the ids nobody wrote; a new password that is no string is
bound as NULL and refused by the column, and the change is answered with a
success; a body without a new password has no answer, since its item is read
all the same.

A registration reports the truth if and only if the user exists or both texts
are there, and a change of password if and only if the old password is wrong
or the new one is a string (`reports_truthful_iff`).

Key definitions: `ChangeBody`, `RegisterTruthful`, `ChangeTruthful`.
Key theorems: `register_truthful_iff`, `change_truthful_iff`, `reports_truthful_iff`.
-/
import WtslCore.User.Answers
import WtslCore.User.Table

namespace WtslCore

/-- A body with the fields that a change of password looks up first; the new
password can be anything, or be missing. -/
structure ChangeBody where
  root : Json
  user : CStr
  oldPwd : CStr
  user_eq : root.getObjectItem "username".toList = some (.string user)
  old_eq : root.getObjectItem "oldpassword".toList = some (.string oldPwd)

/-- The new password of the body. -/
def ChangeBody.newPwd (b : ChangeBody) : Option Json := b.root.getObjectItem "newpassword".toList

/-- **A registration reports the truth**: it is answered with the id of the row
it inserted, with its name and its password, or with an error, and then the
table is as it was. -/
def RegisterTruthful (st : UserState) (c : Credentials) (env : UserEnv) : Prop :=
  ∃ st' resp, wtslCoreUserRegister st (some c.root) env = some (st', resp) ∧
    ((∃ r : Row, resp = .registerOk c.user (some (r.id, r.gid)) ∧ r.username = c.user ∧
        r.password = c.pwd ∧ st'.db.rows = st.db.rows ++ [r]) ∨
      ∃ code, resp = .err code ∧ st'.db = st.db)

/-- **A change of password reports the truth**: it is answered with a success
when the old password was right and the row's password is the new one, or with
an error, and then the table is as it was. -/
def ChangeTruthful (st : UserState) (b : ChangeBody) (env : UserEnv) : Prop :=
  ∃ st' resp, wtslCoreUserChangePwd st (some b.root) env = some (st', resp) ∧
    ((resp = .changeOk b.user ∧ dbCheckPassword st.db b.user b.oldPwd = true ∧
        ∃ pwd r, b.newPwd = some (.string pwd) ∧ dbFind st'.db b.user = some r ∧ r.password = pwd) ∨
      ∃ code, resp = .err code ∧ st'.db = st.db)

section

variable {st : UserState} {env : UserEnv}

/-- **The condition of a registration is exact.** -/
theorem register_truthful_iff (c : Credentials) :
    RegisterTruthful st c env ↔
      (dbUserExists st.db c.user = true ∨ c.user ≠ [] ∧ c.pwd ≠ []) := by
  unfold RegisterTruthful
  rw [register_body]
  by_cases hex : dbUserExists st.db c.user = true
  · rw [if_pos hex]
    exact iff_of_true ⟨_, _, rfl, .inr ⟨_, rfl, rfl⟩⟩ (.inl hex)
  have hno : dbUserExists st.db c.user = false := (Bool.not_eq_true _).mp hex
  rw [if_neg hex, dbGetRegisterResp_register 1000 c.pwd hno]
  by_cases hempty : c.user = [] ∨ c.pwd = []
  · -- the ids of the answer were not written
    rw [if_pos hempty]
    refine iff_of_false ?_ ?_
    · rintro ⟨st', resp, heq, ⟨r, hresp, -⟩ | ⟨code, hresp, -⟩⟩
      · rw [hresp] at heq
        exact nomatch heq
      · rw [hresp] at heq
        exact nomatch heq
    · rintro (h | ⟨hu, hp⟩)
      · exact hex h
      · exact hempty.elim hu hp
  · rw [if_neg hempty]
    refine iff_of_true ⟨_, _, rfl, .inl ⟨⟨st.db.nextId, c.user, c.pwd, 1000, none, 1699999999⟩, rfl,
      rfl, rfl, ?_⟩⟩ (.inr (not_or.mp hempty))
    unfold dbRegister
    rw [if_neg hempty]

/-- What a change of password does with a body. -/
theorem change_body (b : ChangeBody) :
    wtslCoreUserChangePwd st (some b.root) env =
      if dbCheckPassword st.db b.user b.oldPwd = true then
        b.newPwd.map fun j =>
          ({ st with db := dbChangePassword st.db b.user j.valuestring }, .changeOk b.user)
      else some (st, .err .param) := by
  simp only [wtslCoreUserChangePwd, assigned, b.user_eq, b.old_eq, Json.valuestring, ChangeBody.newPwd]
  cases dbCheckPassword st.db b.user b.oldPwd with
  | false => rfl
  | true =>
    cases b.root.getObjectItem "newpassword".toList with
    | none => rfl
    | some j => rfl

/-- The row after an update of its password. -/
theorem dbFind_changePassword {t : UserTable} {user oldPwd : CStr} (pwd : CStr)
    (hok : dbCheckPassword t user oldPwd = true) :
    ∃ r, dbFind (dbChangePassword t user (some pwd)) user = some r ∧ r.password = pwd := by
  unfold dbCheckPassword at hok
  cases hfind : dbFind t user with
  | none =>
    rw [hfind] at hok
    exact nomatch hok
  | some r =>
    have hupdate := dbFind_update (f := fun r => { r with password := pwd }) (fun _ => rfl) hfind
    exact ⟨_, hupdate, rfl⟩

/-- **The condition of a change of password is exact.** -/
theorem change_truthful_iff (b : ChangeBody) :
    ChangeTruthful st b env ↔
      (dbCheckPassword st.db b.user b.oldPwd = false ∨ ∃ pwd, b.newPwd = some (.string pwd)) := by
  unfold ChangeTruthful
  rw [change_body]
  cases hok : dbCheckPassword st.db b.user b.oldPwd with
  | false =>
    rw [if_neg Bool.false_ne_true]
    exact iff_of_true ⟨_, _, rfl, .inr ⟨_, rfl, rfl⟩⟩ (.inl rfl)
  | true =>
    rw [if_pos rfl]
    constructor
    · rintro ⟨st', resp, heq, ⟨-, -, pwd, r, hnew, -⟩ | ⟨code, hresp, -⟩⟩
      · exact .inr ⟨pwd, hnew⟩
      · obtain ⟨j, -, hj⟩ := Option.map_eq_some_iff.mp heq
        rw [hresp] at hj
        exact nomatch hj
    · rintro (h | ⟨pwd, hnew⟩)
      · exact nomatch h
      · rw [hnew]
        obtain ⟨r, hfind, hpwd⟩ := dbFind_changePassword pwd hok
        exact ⟨_, _, rfl, .inl ⟨rfl, rfl, pwd, r, rfl, hfind, hpwd⟩⟩

end

/-- **Registration and change of password report the truth** exactly under
their conditions, on every table and for every body. -/
theorem reports_truthful_iff (st : UserState) (env : UserEnv) :
    (∀ c : Credentials, RegisterTruthful st c env ↔
      (dbUserExists st.db c.user = true ∨ c.user ≠ [] ∧ c.pwd ≠ [])) ∧
    ∀ b : ChangeBody, ChangeTruthful st b env ↔
      (dbCheckPassword st.db b.user b.oldPwd = false ∨ ∃ pwd, b.newPwd = some (.string pwd)) :=
  ⟨register_truthful_iff, change_truthful_iff⟩

/-- A registration without a password. -/
def emptyRegistration : Credentials :=
  ⟨.object [("username".toList, .string "bob".toList), ("password".toList, .string [])],
    "bob".toList, [], rfl, rfl⟩

/-- A change of the administrator's password to a truth value. -/
def boolChange : ChangeBody :=
  ⟨.object [("username".toList, .string "admin".toList), ("oldpassword".toList, .string "123456".toList),
      ("newpassword".toList, .bool true)],
    "admin".toList, "123456".toList, rfl, rfl⟩

/-- A registration without a password is answered with ids that nobody wrote,
and a change to a password that is no string with a success; the table stays
as it was. -/
theorem reports_untrue :
    (¬ RegisterTruthful .start emptyRegistration ⟨.wild, .wild, 0, []⟩ ∧
      wtslCoreUserRegister .start (some emptyRegistration.root) ⟨.wild, .wild, 0, []⟩ =
        some (.start, .registerOk "bob".toList none)) ∧
    ¬ ChangeTruthful .start boolChange ⟨.wild, .wild, 0, []⟩ ∧
      wtslCoreUserChangePwd .start (some boolChange.root) ⟨.wild, .wild, 0, []⟩ =
        some (.start, .changeOk "admin".toList) := by
  refine ⟨⟨?_, rfl⟩, ?_, rfl⟩
  · rw [register_truthful_iff]
    decide
  · rw [change_truthful_iff]
    rintro (h | ⟨pwd, h⟩)
    · exact absurd h (by decide)
    · exact nomatch h

end WtslCore
