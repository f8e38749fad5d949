/-
# The user table

The table `user` of the database with the statements the user manager runs on
it. A `SELECT ... WHERE username=?` reads the first row with the name
(`dbFind`), an `UPDATE` writes every row with it (`UserTable.update`), an
`INSERT` appends a row with the next value of the `AUTOINCREMENT` key. The
column `password` is `NOT NULL`: an update that would store NULL is refused.

Key definitions: `Row`, `UserTable`, `dbRegister`, `dbCheckPassword`,
`dbUpdateUserToken`, `dbGetUserCtx`, `dbChangePassword`, `initDb`.
Key theorems: `dbFind_update`, `dbFind_mem`.
-/
import WtslCore.User.Context

namespace WtslCore

/-- A row of the table `user`, in the columns the user manager reads. -/
structure Row where
  id : ℤ
  username : CStr
  password : CStr
  gid : ℤ
  token : Option CStr
  expire : ℤ
  deriving DecidableEq, Repr

/-- The table, and the next value of its key. -/
structure UserTable where
  rows : List Row
  nextId : ℤ
  deriving DecidableEq, Repr

/-- The row a `SELECT ... WHERE username=?` returns first. -/
def dbFind (t : UserTable) (user : CStr) : Option Row := t.rows.find? fun r => r.username == user

/-- An `UPDATE user SET ... WHERE username=?`. -/
def UserTable.update (t : UserTable) (user : CStr) (f : Row → Row) : UserTable :=
  { t with rows := t.rows.map fun r => if r.username = user then f r else r }

/-- `db_user_exists`. -/
def dbUserExists (t : UserTable) (user : CStr) : Bool := (dbFind t user).isSome

/-- `db_register`: the return code and the table after it. -/
def dbRegister (t : UserTable) (user : CStr) (gid : ℤ) (pwd : CStr) : ℤ × UserTable :=
  if user = [] ∨ pwd = [] then (-1, t)
  else (0, ⟨t.rows ++ [⟨t.nextId, user, pwd, gid, none, 1699999999⟩], t.nextId + 1⟩)

/-- `db_get_register_resp`: `id` and `gid`, or nothing written (the return
code is 0 either way). -/
def dbGetRegisterResp (t : UserTable) (user : CStr) : Option (ℤ × ℤ) :=
  (dbFind t user).map fun r => (r.id, r.gid)

/-- `db_check_password`. -/
def dbCheckPassword (t : UserTable) (user pwd : CStr) : Bool :=
  match dbFind t user with
  | none => false
  | some r => pwd == r.password

/-- `db_update_user_token`. -/
def dbUpdateUserToken (t : UserTable) (user token : CStr) : UserTable :=
  t.update user fun r => { r with token := some token }

/-- `db_get_user_ctx`: the ids and the expiry of the user's row; without a row
the context stays. -/
def dbGetUserCtx (t : UserTable) (user : CStr) (ctx : UserContext) : UserContext :=
  match dbFind t user with
  | none => ctx
  | some r => { ctx with userId := r.id, groupId := r.gid, expire := r.expire }

/-- `db_change_password`; a NULL password is refused by the column. -/
def dbChangePassword (t : UserTable) (user : CStr) (newPwd : Option CStr) : UserTable :=
  match newPwd with
  | none => t
  | some p => t.update user fun r => { r with password := p }

/-- The table `init_db` leaves on a new database: the default administrator. -/
def initDb : UserTable := (dbRegister ⟨[], 1⟩ "admin".toList 0 "123456".toList).2

/-! ### Reading after writing -/

theorem dbFind_mem {t : UserTable} {user : CStr} {r : Row} (h : dbFind t user = some r) :
    r ∈ t.rows ∧ r.username = user := by
  unfold dbFind at h
  exact ⟨List.mem_of_find?_eq_some h, by simpa using List.find?_some h⟩

/-- An update that keeps the names is read back from the row it wrote. -/
theorem dbFind_update {t : UserTable} {user : CStr} {f : Row → Row}
    (hf : ∀ r, (f r).username = r.username) {r : Row} (h : dbFind t user = some r) :
    dbFind (t.update user f) user = some (f r) := by
  unfold dbFind UserTable.update at *
  simp only
  rw [List.find?_map]
  have hcomp : ((fun r => r.username == user) ∘ fun r => if r.username = user then f r else r) =
      fun r : Row => r.username == user := by
    funext r
    by_cases hr : r.username = user <;> simp [hr, hf]
  rw [hcomp, h]
  have hu : r.username = user := by simpa using List.find?_some h
  simp [hu]

end WtslCore
