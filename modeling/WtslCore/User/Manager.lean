/-
# The user manager: login, registration, change of password

The handlers behind `/user/*`. Each parses the body, takes its fields with
`cJSON_GetObjectItem` and talks to the user table. A local pointer whose
field is absent keeps what the stack held (`assigned`), so the request's
environment (`UserEnv`) carries that garbage, besides the clock and the salt
of a new token. A step through an address with nothing behind it, or past the
end of `generate_token`'s buffer, has no defined outcome (`none`).

Only a login writes the context, and only when the user exists and the
password matches (`login_cases`); registration and change of password leave
it alone (`register_cases`, `changePwd_cases`, `run_cases`).

Key definitions: `UserState`, `UserEnv`, `loginRow`, `wtslCoreUserLogin`,
`wtslCoreUserRegister`, `wtslCoreUserChangePwd`, `UserRoute.run`.
Key theorems: `login_cases`, `register_cases`, `changePwd_cases`, `run_cases`.
-/
import WtslCore.Json
import WtslCore.User.Db

namespace WtslCore

/-- The content of a pointer variable: NULL, a string, or an address with
nothing behind it. -/
inductive CPtr
  | null
  | str (s : CStr)
  | wild
  deriving DecidableEq, Repr

/-- `RetErrorCode`. -/
inductive RetErrorCode
  | ok
  | param
  | noMemory
  | userIsNotExisted
  | userIsExisted
  | other
  deriving DecidableEq, Repr

/-- What a handler answers; of `registerOk` the ids are `none` where the code
prints variables nothing was written to. -/
inductive UserResp
  | err (code : RetErrorCode)
  | loginOk (token : CStr) (expire uid gid : ℤ)
  | registerOk (username : CStr) (ids : Option (ℤ × ℤ))
  | changeOk (username : CStr)
  deriving DecidableEq, Repr

/-- The user manager: the database and its static `g_user_ctx`. -/
structure UserState where
  db : UserTable
  ctx : UserContext
  deriving DecidableEq, Repr

/-- What a request meets besides its body: the garbage in the locals `user`
and `pwd`, the clock and the salt. -/
structure UserEnv where
  user : CPtr
  pwd : CPtr
  ts : ℕ
  salt : CStr
  deriving DecidableEq, Repr

/-- A local pointer after `if (item != NULL) p = item->valuestring;`. -/
def assigned (item : Option Json) (garbage : CPtr) : CPtr :=
  match item with
  | none => garbage
  | some j => match j.valuestring with
    | none => .null
    | some s => .str s

/-- `MAX_TOKEN`, also the size of `tokenstr`. -/
def maxToken : ℕ := 128

section

variable (md5 : CStr → CStr)

/-- `generate_token`; `none` if the text does not fit into `tokenstr`. -/
def generateToken (user : CStr) (env : UserEnv) : Option CStr :=
  let tokenstr := user ++ '_' :: (Nat.toDigits 10 env.ts ++ '_' :: env.salt)
  if tokenstr.length < maxToken then some ((md5 tokenstr).take (maxToken - 1)) else none

/-- `wtsl_core_user_login`. -/
def wtslCoreUserLogin (st : UserState) (args : Option Json) (env : UserEnv) :
    Option (UserState × UserResp) :=
  match args with
  | none => some (st, .err .param)
  | some root =>
    match assigned (root.getObjectItem "username".toList) env.user,
        assigned (root.getObjectItem "password".toList) env.pwd with
    | .null, _ => some (st, .err .param)
    | _, .null => some (st, .err .param)
    | .str user, .str pwd =>
      if !dbUserExists st.db user then some (st, .err .userIsNotExisted)
      else if !dbCheckPassword st.db user pwd then some (st, .err .param)
      else (generateToken md5 user env).map fun token =>
        let ctx := dbGetUserCtx st.db user { st.ctx with token := token }
        let db := dbUpdateUserToken st.db user ctx.token
        let ctx := { ctx with permission := loginPermission ctx.groupId }
        (⟨db, ctx⟩, .loginOk ctx.token ctx.expire ctx.userId ctx.groupId)
    | _, _ => none

end

/-- `wtsl_core_user_register`. -/
def wtslCoreUserRegister (st : UserState) (args : Option Json) (env : UserEnv) :
    Option (UserState × UserResp) :=
  match args with
  | none => some (st, .err .param)
  | some root =>
    match assigned (root.getObjectItem "username".toList) env.user,
        assigned (root.getObjectItem "password".toList) env.pwd with
    | .null, _ => some (st, .err .param)
    | _, .null => some (st, .err .param)
    | .str user, .str pwd =>
      if dbUserExists st.db user then some (st, .err .userIsExisted)
      else
        let db := (dbRegister st.db user 1000 pwd).2
        some ({ st with db := db }, .registerOk user (dbGetRegisterResp db user))
    | _, _ => none

/-- `wtsl_core_user_change_pwd`. The old password decides whether the new one
is read: a body without `oldpassword` keeps the garbage for both. -/
def wtslCoreUserChangePwd (st : UserState) (args : Option Json) (env : UserEnv) :
    Option (UserState × UserResp) :=
  match args with
  | none => some (st, .err .param)
  | some root =>
    match assigned (root.getObjectItem "username".toList) env.user,
        assigned (root.getObjectItem "oldpassword".toList) env.pwd with
    | .null, _ => some (st, .err .param)
    | _, .null => some (st, .err .param)
    | .str user, .str pwd =>
      if !dbCheckPassword st.db user pwd then some (st, .err .param)
      else match root.getObjectItem "oldpassword".toList, root.getObjectItem "newpassword".toList with
        | some _, none => none
        | some _, some j =>
          some ({ st with db := dbChangePassword st.db user j.valuestring }, .changeOk user)
        | none, _ => some ({ st with db := dbChangePassword st.db user (some pwd) }, .changeOk user)
    | _, _ => none

/-- The handlers of `g_route_table`. -/
inductive UserRoute
  | login
  | register
  | setInfo
  | getInfo
  | delete
  | changePwd
  deriving DecidableEq, Repr

/-- `g_route_table`. -/
def gRouteTable : List (CStr × UserRoute) :=
  [("/user/login".toList, .login), ("/user/register".toList, .register),
    ("/user/update_userinfo".toList, .setInfo), ("/user/get_userinfo".toList, .getInfo),
    ("/user/delete_user".toList, .delete), ("/user/change_pwd".toList, .changePwd)]

/-- The handler of a route; no answer is NULL. -/
def UserRoute.run (md5 : CStr → CStr) (r : UserRoute) (st : UserState) (args : Option Json)
    (env : UserEnv) : Option (UserState × Option UserResp) :=
  match r with
  | .login => (wtslCoreUserLogin md5 st args env).map fun p => (p.1, some p.2)
  | .register => (wtslCoreUserRegister st args env).map fun p => (p.1, some p.2)
  | .changePwd => (wtslCoreUserChangePwd st args env).map fun p => (p.1, some p.2)
  | .setInfo | .getInfo | .delete => some (st, none)

/-- `db_get_token` into the zeroed `db_token`; `none` if the column is NULL. -/
def dbGetToken (t : UserTable) (user : CStr) : Option CStr :=
  match dbFind t user with
  | none => some []
  | some r => r.token.map (·.take 127)

/-- `check_token_is_valid`: 0 for the user's token. No function calls it. -/
def checkTokenIsValid (t : UserTable) (user token : CStr) : Option Bool :=
  (dbGetToken t user).map fun dbToken => dbToken == token

/-! ### What each handler can do -/

/-- The row a login with this body succeeds for: the user's row, if the
password is its password. -/
def loginRow (db : UserTable) (args : Option Json) (env : UserEnv) : Option Row :=
  match args with
  | none => none
  | some root =>
    match assigned (root.getObjectItem "username".toList) env.user,
        assigned (root.getObjectItem "password".toList) env.pwd with
    | .str user, .str pwd => (dbFind db user).filter fun r => pwd == r.password
    | _, _ => none

/-- The context a login leaves for a row. -/
def rowContext (r : Row) (token : CStr) : UserContext :=
  ⟨r.id, r.gid, r.expire, token, loginPermission r.gid⟩

/-- A login changes nothing, or it is one for `loginRow`: the row's token is
the new one and the context is the row's. -/
theorem login_cases {md5 : CStr → CStr} {st st' : UserState} {args : Option Json} {env : UserEnv}
    {resp : UserResp} (h : wtslCoreUserLogin md5 st args env = some (st', resp)) :
    (loginRow st.db args env = none ∧ st' = st) ∨
      ∃ r token, loginRow st.db args env = some r ∧ dbFind st.db r.username = some r ∧
        st'.db = dbUpdateUserToken st.db r.username token ∧ st'.ctx = rowContext r token := by
  unfold wtslCoreUserLogin at h
  unfold loginRow
  cases args with
  | none => left; simp_all
  | some root =>
    simp only at h ⊢
    generalize assigned (root.getObjectItem "username".toList) env.user = pu at h ⊢
    generalize assigned (root.getObjectItem "password".toList) env.pwd = pp at h ⊢
    match pu, pp with
    | .null, _ => left; simp_all
    | .str _, .null | .wild, .null => left; simp_all
    | .wild, .str _ | .wild, .wild | .str _, .wild => simp at h
    | .str user, .str pwd =>
      simp only at h ⊢
      cases hf : dbFind st.db user with
      | none => left; simp_all [dbUserExists]
      | some r =>
        have hu : r.username = user := (dbFind_mem hf).2
        by_cases hp : pwd = r.password
        · right
          simp only [dbUserExists, dbCheckPassword, hf, hp, Option.isSome_some, Bool.not_true,
            Bool.false_eq_true, ↓reduceIte, beq_self_eq_true, Option.map_eq_some_iff,
            Prod.mk.injEq] at h
          obtain ⟨token, -, rfl, -⟩ := h
          refine ⟨r, token, ?_, hu ▸ hf, ?_, ?_⟩
          · simp [Option.filter, hp]
          · simp [dbGetUserCtx, hf, hu]
          · simp [dbGetUserCtx, hf, rowContext]
        · left
          simp_all [dbUserExists, dbCheckPassword, Option.filter]

/-- A registration changes nothing, or it adds a row for a new name. -/
theorem register_cases {st st' : UserState} {args : Option Json} {env : UserEnv} {resp : UserResp}
    (h : wtslCoreUserRegister st args env = some (st', resp)) :
    st' = st ∨ ∃ user pwd, dbUserExists st.db user = false ∧
      st' = { st with db := (dbRegister st.db user 1000 pwd).2 } := by
  unfold wtslCoreUserRegister at h
  split at h
  · left; simp_all
  · split at h
    · left; simp_all
    · left; simp_all
    · rename_i user pwd _ _
      split at h
      · left; simp_all
      · rename_i hex
        right
        simp only [Option.some.injEq, Prod.mk.injEq] at h
        exact ⟨user, pwd, by simpa using hex, h.1.symm⟩
    · simp at h

/-- A change of password changes nothing, or it writes the password of the
user whose old password was given. -/
theorem changePwd_cases {st st' : UserState} {args : Option Json} {env : UserEnv} {resp : UserResp}
    (h : wtslCoreUserChangePwd st args env = some (st', resp)) :
    st' = st ∨ ∃ user pwd newPwd, dbCheckPassword st.db user pwd = true ∧
      st' = { st with db := dbChangePassword st.db user newPwd } := by
  unfold wtslCoreUserChangePwd at h
  split at h
  · left; simp_all
  · split at h
    · left; simp_all
    · left; simp_all
    · rename_i user pwd _ _
      split at h
      · left; simp_all
      · rename_i hpw
        have hpw : dbCheckPassword st.db user pwd = true := by simpa using hpw
        right
        split at h
        · simp at h
        · simp only [Option.some.injEq, Prod.mk.injEq] at h
          exact ⟨user, pwd, _, hpw, h.1.symm⟩
        · simp only [Option.some.injEq, Prod.mk.injEq] at h
          exact ⟨user, pwd, _, hpw, h.1.symm⟩
    · simp at h

/-- Every row of `t` is still in `t'`, with its token and its group. -/
def KeepsRows (t t' : UserTable) : Prop :=
  ∀ r ∈ t.rows, ∃ r' ∈ t'.rows, r'.token = r.token ∧ r'.gid = r.gid

theorem KeepsRows.refl (t : UserTable) : KeepsRows t t := fun r hr => ⟨r, hr, rfl, rfl⟩

theorem keepsRows_register (t : UserTable) (user : CStr) (gid : ℤ) (pwd : CStr) :
    KeepsRows t (dbRegister t user gid pwd).2 := by
  intro r hr
  refine ⟨r, ?_, rfl, rfl⟩
  unfold dbRegister
  split
  · exact hr
  · exact List.mem_append_left _ hr

theorem keepsRows_changePassword (t : UserTable) (user : CStr) (newPwd : Option CStr) :
    KeepsRows t (dbChangePassword t user newPwd) := by
  cases newPwd with
  | none => exact KeepsRows.refl t
  | some p =>
    intro r hr
    refine ⟨_, List.mem_map.mpr ⟨r, hr, rfl⟩, ?_, ?_⟩ <;> split <;> rfl

/-- What a request to `/user/*` can do: a login for `loginRow`, or a change
that keeps the context and every row's token and group. -/
theorem run_cases {md5 : CStr → CStr} {route : UserRoute} {st st' : UserState} {args : Option Json}
    {env : UserEnv} {resp : Option UserResp} (h : route.run md5 st args env = some (st', resp)) :
    (route = .login ∧ ∃ r token, loginRow st.db args env = some r ∧
        dbFind st.db r.username = some r ∧ st'.db = dbUpdateUserToken st.db r.username token ∧
        st'.ctx = rowContext r token) ∨
      ((route = .login → loginRow st.db args env = none) ∧ st'.ctx = st.ctx ∧
        KeepsRows st.db st'.db) := by
  cases route with
  | login =>
    simp only [UserRoute.run, Option.map_eq_some_iff] at h
    obtain ⟨⟨st₁, r₁⟩, h, he⟩ := h
    obtain ⟨rfl, -⟩ := Prod.mk.inj he
    rcases login_cases h with ⟨hn, rfl⟩ | hs
    · exact Or.inr ⟨fun _ => hn, rfl, KeepsRows.refl _⟩
    · exact Or.inl ⟨rfl, hs⟩
  | register =>
    simp only [UserRoute.run, Option.map_eq_some_iff] at h
    obtain ⟨⟨st₁, r₁⟩, h, he⟩ := h
    obtain ⟨rfl, -⟩ := Prod.mk.inj he
    right
    rcases register_cases h with rfl | ⟨user, pwd, -, rfl⟩
    · exact ⟨by simp, rfl, KeepsRows.refl _⟩
    · exact ⟨by simp, rfl, keepsRows_register _ _ _ _⟩
  | changePwd =>
    simp only [UserRoute.run, Option.map_eq_some_iff] at h
    obtain ⟨⟨st₁, r₁⟩, h, he⟩ := h
    obtain ⟨rfl, -⟩ := Prod.mk.inj he
    right
    rcases changePwd_cases h with rfl | ⟨user, pwd, newPwd, -, rfl⟩
    · exact ⟨by simp, rfl, KeepsRows.refl _⟩
    · exact ⟨by simp, rfl, keepsRows_changePassword _ _ _⟩
  | setInfo | getInfo | delete =>
    simp only [UserRoute.run, Option.some.injEq, Prod.mk.injEq] at h
    obtain ⟨rfl, -⟩ := h
    exact Or.inr ⟨by simp, rfl, KeepsRows.refl _⟩

end WtslCore
