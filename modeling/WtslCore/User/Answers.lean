/-
# What the user manager answers

A handler of the user manager answers with a JSON text: an error, whose message
is under `errmsg`, or what the request came to. The status of the request is
found by looking for `errmsg` in that text, and a name or a token can have it
too.

A handler refuses a request by such an error or by NULL. What it does not look
at is whether the table refuses its statement, an `INSERT` of an empty name or
password and an `UPDATE` to a password that is NULL; other statements are
taken to succeed.

Key definitions: `UserCall`, `userAnswer`, `UserRoute.operation`, `UserOk`.
Key theorems: `register_refused_iff`, `userOperation_tells_iff`.
-/
import WtslCore.Node.Calls
import WtslCore.User.Manager

namespace WtslCore

open Noted

/-! ### The answers -/

/-- The value of a `RetErrorCode`. -/
def RetErrorCode.value : RetErrorCode → ℤ
  | .ok => 0
  | .param => 1
  | .noMemory => 2
  | .userIsNotExisted => 3
  | .userIsExisted => 4
  | .other => 5

/-- `api_err_msg`. -/
def RetErrorCode.apiErrMsg : RetErrorCode → String
  | .ok => "success"
  | .param => "param error"
  | .noMemory => "no memory"
  | .userIsNotExisted => "user is not existed"
  | .userIsExisted => "user is existed"
  | .other => "unknown error"

/-- The tree of `wtsl_core_get_err_resp`. -/
def errResp (code : RetErrorCode) : Item :=
  .object [("errcode", .number code.value), ("errmsg", .string code.apiErrMsg.toList)]

/-- The tree of a login. -/
def loginResp (token : CStr) (expire uid gid : ℤ) : Item :=
  .object [("token", .string token), ("expires", .number expire), ("uid", .number uid),
    ("gid", .number gid)]

/-- The tree of a registration. -/
def registerResp (username : CStr) (ids : ℤ × ℤ) : Item :=
  .object [("code", .number RetErrorCode.ok.value), ("username", .string username),
    ("uid", .number ids.1), ("gid", .number ids.2)]

/-- The tree of a change of password. -/
def changePwdResp (username : CStr) : Item :=
  .object [("username", .string username), ("msg", .string "change password success".toList)]

/-- What a request to the user manager meets. -/
structure UserCall where
  md5 : CStr → CStr
  state : UserState
  env : UserEnv
  /-- `db_uid` and `db_gid` of `wtsl_core_user_register` at its start. -/
  ids : ℤ × ℤ

/-- The new password is NULL: it is given, but not as a string. -/
def newPwdRefused (args : Option Json) : Bool :=
  match args with
  | none => false
  | some root => (root.getObjectItem "oldpassword".toList).isSome &&
      ((root.getObjectItem "newpassword".toList).bind Json.valuestring).isNone

section

variable (env : OpEnv) (data : List Char) (u : UserCall)

/-- The answer of a handler is printed; it has met an error if it refuses the
request, or if the table refuses the statement. -/
def userAnswer (args : Option Json) : UserResp → Op Ptr
  | .err code => do
    note .refused
    env.answer (errResp code)
  | .loginOk token expire uid gid => env.answer (loginResp token expire uid gid)
  | .registerOk username (some ids) => env.answer (registerResp username ids)
  | .registerOk username none => do
    note .table
    env.answer (registerResp username u.ids)
  | .changeOk username =>
    if newPwdRefused args then do
      note .table
      env.answer (changePwdResp username)
    else env.answer (changePwdResp username)

/-- The handler of a route. -/
def UserRoute.operation (route : UserRoute) : Op Ptr := do
  let args := env.parse (cstr data)
  let p ← ofOption (route.run u.md5 u.state args u.env)
  match p.2 with
  | none => reject .refused
  | some resp => userAnswer env u args resp

/-! ### The conditions -/

/-- The name and the password of a body, if both are strings. -/
def givenUser (args : Option Json) (pwdField : String) (env : UserEnv) : Option (CStr × CStr) :=
  match args with
  | none => none
  | some root =>
    match assigned (root.getObjectItem "username".toList) env.user,
        assigned (root.getObjectItem pwdField.toList) env.pwd with
    | .str user, .str pwd => some (user, pwd)
    | _, _ => none

/-- There is memory to print the item, and then it is as said. -/
def OpEnv.IfPrinted (item : Item) (p : Prop) : Prop := env.print item ≠ none → p

/-- A registration that the table refuses is a success unless the name has
`errmsg` in it, and the other way round. -/
def RegisterOk (c : CStr × CStr) : Prop :=
  if c.1 = [] ∨ c.2 = [] then env.IfPrinted (registerResp c.1 u.ids) (mentionsErrmsg c.1 = true)
  else env.IfPrinted (registerResp c.1 (u.state.db.nextId, 1000)) (mentionsErrmsg c.1 = false)

/-- The condition on a handler. -/
def UserOk (args : Option Json) : UserRoute → Prop
  | .login => ∀ row ∈ loginRow u.state.db args u.env, ∀ token ∈ generateToken u.md5 row.username u.env,
      env.IfPrinted (loginResp token row.expire row.id row.gid) (mentionsErrmsg token = false)
  | .register => ∀ c ∈ givenUser args "password" u.env,
      dbUserExists u.state.db c.1 = false → RegisterOk env u c
  | .changePwd => ∀ c ∈ givenUser args "oldpassword" u.env,
      dbCheckPassword u.state.db c.1 c.2 = true → ∀ root ∈ args,
        (root.getObjectItem "oldpassword".toList = none ∨
          root.getObjectItem "newpassword".toList ≠ none) →
          env.IfPrinted (changePwdResp c.1)
            (mentionsErrmsg c.1 = false ↔ newPwdRefused args = false)
  | .setInfo | .getInfo | .delete => True

end

variable {env : OpEnv} {data : List Char} {u : UserCall} {args : Option Json} {st : UserState}
  {uenv : UserEnv} {md5 : CStr → CStr}

/-! ### The answer of a handler -/

theorem errResp_mentions (code : RetErrorCode) : (errResp code).mentions = true := by
  cases code <;> rfl

theorem loginResp_mentions (token : CStr) (expire uid gid : ℤ) :
    (loginResp token expire uid gid).mentions = mentionsErrmsg token := by
  have h : (loginResp token expire uid gid).mentions = ((false || mentionsErrmsg token) || false) := rfl
  rw [h, Bool.or_false, Bool.false_or]

theorem registerResp_mentions (username : CStr) (ids : ℤ × ℤ) :
    (registerResp username ids).mentions = mentionsErrmsg username := by
  have h : (registerResp username ids).mentions = ((false || mentionsErrmsg username) || false) := rfl
  rw [h, Bool.or_false, Bool.false_or]

theorem changePwdResp_mentions (username : CStr) :
    (changePwdResp username).mentions = mentionsErrmsg username := by
  have h : (changePwdResp username).mentions = ((false || mentionsErrmsg username) || false) := rfl
  rw [h, Bool.or_false, Bool.false_or]

/-- An answer that is printed without an error. -/
theorem ends_told (hprint : PrintsTexts env.print) {item : Item} :
    Ends PostRight [] (env.answer item) ↔ env.IfPrinted item (item.mentions = false) := by
  rw [ends_answer hprint]
  simp [OpEnv.IfPrinted]

/-- An answer that is printed after an error. -/
theorem ends_noted (hprint : PrintsTexts env.print) {e : OpError} {item : Item} :
    Ends PostRight [] (note e >>= fun _ => env.answer item) ↔
      env.IfPrinted item (item.mentions = true) := by
  rw [ends_note, ends_answer hprint]
  simp [OpEnv.IfPrinted]

theorem ends_refusal (hprint : PrintsTexts env.print) (code : RetErrorCode) :
    Ends PostRight [] (userAnswer env u args (.err code)) := by
  refine (ends_noted hprint).mpr fun _ => ?_
  rw [errResp_mentions]

/-- A change of password is told as a success unless the name has `errmsg` in it. -/
theorem ends_changeOk (hprint : PrintsTexts env.print) {username : CStr} :
    Ends PostRight [] (userAnswer env u args (.changeOk username)) ↔
      env.IfPrinted (changePwdResp username)
        (mentionsErrmsg username = false ↔ newPwdRefused args = false) := by
  unfold userAnswer
  split_ifs with h
  · rw [ends_noted hprint, changePwdResp_mentions]
    simp [h]
  · rw [ends_told hprint, changePwdResp_mentions]
    simp [h]

/-- What is claimed of a handler is claimed of its answer. -/
theorem ends_operation {route : UserRoute} : (route.operation env data u).Tells ↔
    ∀ p ∈ route.run u.md5 u.state (env.parse (cstr data)) u.env, ∀ resp ∈ p.2,
      Ends PostRight [] (userAnswer env u (env.parse (cstr data)) resp) := by
  show Ends PostRight [] (ofOption _ >>= _) ↔ _
  rw [ends_ofOption]
  refine forall_congr' fun p => forall_congr' fun _ => ?_
  cases p.2 with
  | none => simp [ends_reject]
  | some resp => simp

/-! ### The handlers -/

/-- What a registration is answered with: the ids of its row, if there is one. -/
theorem dbGetRegisterResp_register {t : UserTable} {user : CStr} (gid : ℤ) (pwd : CStr)
    (h : dbUserExists t user = false) :
    dbGetRegisterResp (dbRegister t user gid pwd).2 user =
      if user = [] ∨ pwd = [] then none else some (t.nextId, gid) := by
  have hnone : dbFind t user = none := by simpa [dbUserExists] using h
  unfold dbRegister
  split_ifs with hempty
  · simp [dbGetRegisterResp, hnone]
  · have hfind : dbFind ⟨t.rows ++ [⟨t.nextId, user, pwd, gid, none, 1699999999⟩], t.nextId + 1⟩ user =
        some ⟨t.nextId, user, pwd, gid, none, 1699999999⟩ := by
      unfold dbFind at hnone ⊢
      rw [List.find?_append, hnone]
      simp
    simp [dbGetRegisterResp, hfind]

/-- **A registration is answered without ids exactly if the table refused it.** -/
theorem register_refused_iff {t : UserTable} {user : CStr} (gid : ℤ) (pwd : CStr)
    (h : dbUserExists t user = false) :
    dbGetRegisterResp (dbRegister t user gid pwd).2 user = none ↔ (dbRegister t user gid pwd).1 ≠ 0 := by
  rw [dbGetRegisterResp_register gid pwd h]
  unfold dbRegister
  split_ifs
  · simp
  · simp

/-- A request that is refused is told as an error. -/
theorem tells_refused (hprint : PrintsTexts env.print) (code : RetErrorCode) :
    ∀ p ∈ some (st, UserResp.err code), Ends PostRight [] (userAnswer env u args p.2) := by
  rintro p ⟨⟩
  exact ends_refusal hprint code

/-- A request without an outcome. -/
theorem tells_undefined {q : UserState × UserResp → Prop} :
    ∀ p ∈ (none : Option (UserState × UserResp)), q p :=
  fun _ h => nomatch h

/-- **A handler refuses a body without a name or a password**, or has no outcome
for it; with both it goes on with `k`. -/
theorem tells_given (hprint : PrintsTexts env.print) {field : String}
    {k : Json → CStr → CStr → Option (UserState × UserResp)} {q : Option Json → Prop}
    (hnone : ∀ args, givenUser args field u.env = none → q args)
    (hsome : ∀ root user pwd, givenUser (some root) field u.env = some (user, pwd) →
      ((∀ p ∈ k root user pwd, Ends PostRight [] (userAnswer env u (some root) p.2)) ↔ q (some root))) :
    (∀ p ∈ (match args with
      | none => some (st, .err .param)
      | some root =>
        match assigned (root.getObjectItem "username".toList) u.env.user,
            assigned (root.getObjectItem field.toList) u.env.pwd with
        | .null, _ => some (st, .err .param)
        | _, .null => some (st, .err .param)
        | .str user, .str pwd => k root user pwd
        | _, _ => none : Option (UserState × UserResp)),
      Ends PostRight [] (userAnswer env u args p.2)) ↔ q args := by
  cases args with
  | none => exact iff_of_true (tells_refused hprint .param) (hnone none rfl)
  | some root =>
    have hnone := hnone (some root)
    have hsome := hsome root
    unfold givenUser at hnone hsome
    dsimp only at hnone hsome ⊢
    generalize assigned (root.getObjectItem "username".toList) u.env.user = pu at hnone hsome
    generalize assigned (root.getObjectItem field.toList) u.env.pwd = pp at hnone hsome
    match pu, pp with
    | .null, _ => exact iff_of_true (tells_refused hprint .param) (hnone rfl)
    | .str _, .null | .wild, .null => exact iff_of_true (tells_refused hprint .param) (hnone rfl)
    | .wild, .str _ | .wild, .wild | .str _, .wild => exact iff_of_true tells_undefined (hnone rfl)
    | .str user, .str pwd => exact hsome user pwd rfl

theorem loginRow_eq (db : UserTable) (args : Option Json) (uenv : UserEnv) :
    loginRow db args uenv = (givenUser args "password" uenv).bind fun c =>
      (dbFind db c.1).filter fun r => c.2 == r.password := by
  unfold loginRow givenUser
  cases args with
  | none => rfl
  | some root =>
    dsimp only
    generalize assigned (root.getObjectItem "username".toList) uenv.user = pu
    generalize assigned (root.getObjectItem "password".toList) uenv.pwd = pp
    cases pu <;> cases pp <;> rfl

theorem tells_login (hprint : PrintsTexts env.print) :
    (∀ p ∈ wtslCoreUserLogin u.md5 u.state args u.env, Ends PostRight [] (userAnswer env u args p.2)) ↔
      UserOk env u args .login := by
  unfold wtslCoreUserLogin
  refine tells_given hprint (q := fun args => UserOk env u args .login) ?_ ?_
  · intro args hgiven row hrow
    rw [loginRow_eq, hgiven] at hrow
    exact nomatch hrow
  · intro root user pwd hgiven
    unfold UserOk
    rw [loginRow_eq, hgiven, Option.bind_some]
    rcases Option.eq_none_or_eq_some (dbFind u.state.db user) with hrow | ⟨row, hrow⟩
    · rw [if_pos (by simp [dbUserExists, hrow])]
      exact iff_of_true (tells_refused hprint _) (by simp [hrow])
    · obtain rfl : row.username = user := (dbFind_mem hrow).2
      rw [if_neg (by simp [dbUserExists, hrow])]
      by_cases hpwd : pwd = row.password
      · have hlogin : (some row).filter (fun r => pwd == r.password) = some row := by
          simp [Option.filter, hpwd]
        rw [if_neg (by simp [dbCheckPassword, hrow, hpwd])]
        simp only [dbGetUserCtx, hrow, hlogin, Option.mem_def, Option.some.injEq, forall_eq',
          Option.map_eq_some_iff, forall_exists_index, and_imp, forall_apply_eq_imp_iff₂]
        refine forall_congr' fun token => forall_congr' fun _ => ?_
        refine (ends_told hprint).trans ?_
        rw [loginResp_mentions]
      · rw [if_pos (by simp [dbCheckPassword, hrow, hpwd])]
        exact iff_of_true (tells_refused hprint _) (by simp [hrow, hpwd])

theorem tells_register (hprint : PrintsTexts env.print) :
    (∀ p ∈ wtslCoreUserRegister u.state args u.env, Ends PostRight [] (userAnswer env u args p.2)) ↔
      UserOk env u args .register := by
  unfold wtslCoreUserRegister
  refine tells_given hprint (q := fun args => UserOk env u args .register) ?_ ?_
  · intro args hgiven c hc
    exact nomatch hgiven.symm.trans hc
  · intro root user pwd hgiven
    unfold UserOk
    simp only [hgiven, Option.mem_def, Option.some.injEq, forall_eq']
    cases hex : dbUserExists u.state.db user with
    | true =>
      rw [if_pos rfl]
      exact iff_of_true (tells_refused hprint _) nofun
    | false =>
      rw [if_neg Bool.false_ne_true, dbGetRegisterResp_register 1000 pwd hex]
      simp only [Option.some.injEq, forall_eq', forall_prop_of_true]
      unfold RegisterOk
      split_ifs with hempty
      · refine (ends_noted hprint).trans ?_
        rw [registerResp_mentions]
      · refine (ends_told hprint).trans ?_
        rw [registerResp_mentions]

theorem tells_changePwd (hprint : PrintsTexts env.print) :
    (∀ p ∈ wtslCoreUserChangePwd u.state args u.env, Ends PostRight [] (userAnswer env u args p.2)) ↔
      UserOk env u args .changePwd := by
  unfold wtslCoreUserChangePwd
  refine tells_given hprint (q := fun args => UserOk env u args .changePwd) ?_ ?_
  · intro args hgiven c hc
    exact nomatch hgiven.symm.trans hc
  · intro root user pwd hgiven
    unfold UserOk
    simp only [hgiven, Option.mem_def, Option.some.injEq, forall_eq']
    cases hcheck : dbCheckPassword u.state.db user pwd with
    | false =>
      rw [if_pos (by rfl)]
      exact iff_of_true (tells_refused hprint _) nofun
    | true =>
      rw [if_neg (by simp), forall_prop_of_true rfl]
      cases hold : root.getObjectItem "oldpassword".toList with
      | none =>
        rw [forall_prop_of_true (.inl rfl), ← ends_changeOk (u := u) hprint]
        simp only [Option.some.injEq, forall_eq']
      | some old =>
        cases hnew : root.getObjectItem "newpassword".toList with
        | none => exact iff_of_true tells_undefined (by simp)
        | some new =>
          rw [forall_prop_of_true (.inr (Option.some_ne_none new)), ← ends_changeOk (u := u) hprint]
          simp only [Option.some.injEq, forall_eq']

/-- The answer of a handler that has one. -/
theorem forall_answer {o : Option (UserState × UserResp)} {q : UserResp → Prop} :
    (∀ p ∈ o.map fun p => (p.1, some p.2), ∀ resp ∈ p.2, q resp) ↔ ∀ p ∈ o, q p.2 := by
  cases o with
  | none => simp
  | some p => simp

/-- **The status of a request to the user manager is right exactly under the
condition of its handler.** -/
theorem userOperation_tells_iff (env : OpEnv) (data : List Char) (u : UserCall) (route : UserRoute)
    (hprint : PrintsTexts env.print) :
    (route.operation env data u).Tells ↔ UserOk env u (env.parse (cstr data)) route := by
  rw [ends_operation]
  cases route with
  | login => exact forall_answer.trans (tells_login hprint)
  | register => exact forall_answer.trans (tells_register hprint)
  | changePwd => exact forall_answer.trans (tells_changePwd hprint)
  | setInfo | getInfo | delete =>
    refine iff_of_true ?_ trivial
    rintro p ⟨⟩
    exact nofun

end WtslCore
