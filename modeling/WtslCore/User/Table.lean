/-
# The user table over whole runs

Registration, login and change of password with string fields, one after the
other from the table with the default administrator. The table has no
constraint on its names: that they stay distinct, and with them that an update
writes one row, rests on the look-up before every insertion. A request keeps
every row, its name and its group, and its password but for the change of the
one it names (`UserStep`).

Whether a password is empty is checked when a row is inserted, and not when a
password is changed: the rows of registered users keep a password in exactly
the runs in which no registered user changes to the empty one
(`userTable_iff`).

Key definitions: `Credentials`, `PwdChange`, `UserRequest`, `userStep`,
`passwordAfter`, `UserStep`, `TableOk`, `PasswordsSet`, `KeepsPassword`.
Key theorems: `userStep_cases`, `TableOk.step`, `userTable_iff`.
-/
import Mathlib.Data.List.Nodup
import WtslCore.Lib.Run
import WtslCore.User.Manager

namespace WtslCore

open Runs

/-- A body with the fields of a login or a registration. -/
structure Credentials where
  root : Json
  user : CStr
  pwd : CStr
  user_eq : root.getObjectItem "username".toList = some (.string user)
  pwd_eq : root.getObjectItem "password".toList = some (.string pwd)

/-- A body with the fields of a change of password. -/
structure PwdChange where
  root : Json
  user : CStr
  oldPwd : CStr
  newPwd : CStr
  user_eq : root.getObjectItem "username".toList = some (.string user)
  old_eq : root.getObjectItem "oldpassword".toList = some (.string oldPwd)
  new_eq : root.getObjectItem "newpassword".toList = some (.string newPwd)

/-- A request with well-typed fields, and what it meets. -/
inductive UserRequest
  | login (c : Credentials) (env : UserEnv)
  | register (c : Credentials) (env : UserEnv)
  | changePwd (p : PwdChange) (env : UserEnv)

/-- One request; a token that outgrows its buffer ends the run. -/
def userStep (md5 : CStr → CStr) (s : UserState) : UserRequest → Option UserState
  | .login c env => (wtslCoreUserLogin md5 s (some c.root) env).map Prod.fst
  | .register c env => (wtslCoreUserRegister s (some c.root) env).map Prod.fst
  | .changePwd p env => (wtslCoreUserChangePwd s (some p.root) env).map Prod.fst

/-- The table with the default administrator, and nobody logged in. -/
def UserState.start : UserState := ⟨initDb, .zero⟩

/-- The id of the default administrator; every other row was registered. -/
def adminId : ℤ := 1

/-- The password of a row after a request: the new one for the user that is
named with its old one. -/
def passwordAfter (q : UserRequest) (r : Row) : CStr :=
  match q with
  | .changePwd p _ => if r.username = p.user ∧ r.password = p.oldPwd then p.newPwd else r.password
  | .login _ _ | .register _ _ => r.password

/-- What a request does to the table and to the permission. -/
structure UserStep (s : UserState) (q : UserRequest) (s' : UserState) : Prop where
  names : (s'.db.rows.map Row.username).Nodup
  ids : (s'.db.rows.map Row.id).Nodup
  registered : ∀ r ∈ s'.db.rows, r.id ≠ adminId → r.gid = 1000 ∧ r.username ≠ []
  /-- A row is created by a registration, with its name and its password. -/
  created : ∀ r ∈ s'.db.rows, r.id ∉ s.db.rows.map Row.id → ∃ c env, q = .register c env ∧
    r.username = c.user ∧ r.password = c.pwd ∧ r.gid = 1000 ∧ r.username ≠ [] ∧ r.password ≠ []
  /-- Every row stays, with its name and group and the password it is to have. -/
  kept : ∀ r ∈ s.db.rows, ∃ r' ∈ s'.db.rows, r'.id = r.id ∧ r'.username = r.username ∧
    r'.gid = r.gid ∧ r'.password = passwordAfter q r
  /-- A permission is granted by a login with a row's current password; more
  than reading only to a row of group 0. -/
  granted : s'.ctx = s.ctx ∨ ∃ c env, q = .login c env ∧ ∃ r ∈ s.db.rows, r.username = c.user ∧
    r.password = c.pwd ∧ s'.ctx.userId = r.id ∧
      (s'.ctx.permission = .none ∨ s'.ctx.permission = .read ∨ r.gid = 0)

/-- No registered user has an empty password. -/
def PasswordsSet (s : UserState) : Prop := ∀ r ∈ s.db.rows, r.id ≠ adminId → r.password ≠ []

/-- The condition on a request: no registered user changes to the empty password. -/
def KeepsPassword (s : UserState) : UserRequest → Prop
  | .changePwd p _ => p.newPwd = [] →
    ∀ r ∈ s.db.rows, r.username = p.user → r.password = p.oldPwd → r.id = adminId
  | .login _ _ | .register _ _ => True

/-- Names and ids are distinct, ids below the next one, registered rows have
their group and a name. -/
structure TableOk (t : UserTable) : Prop where
  names : (t.rows.map Row.username).Nodup
  ids : (t.rows.map Row.id).Nodup
  id_lt : ∀ r ∈ t.rows, r.id < t.nextId
  admin_lt : adminId < t.nextId
  registered : ∀ r ∈ t.rows, r.id ≠ adminId → r.gid = 1000 ∧ r.username ≠ []

variable {md5 : CStr → CStr} {s s' : UserState} {q : UserRequest}

/-! ### What the handlers do with such a body -/

/-- A login changes nothing, or its name and password are those of a row. -/
theorem login_typed (c : Credentials) (env : UserEnv)
    (h : userStep md5 s (.login c env) = some s') :
    s' = s ∨ ∃ r token, dbFind s.db c.user = some r ∧ r.password = c.pwd ∧
      s' = ⟨dbUpdateUserToken s.db c.user token, rowContext r token⟩ := by
  obtain ⟨⟨st, resp⟩, hl, rfl⟩ := Option.map_eq_some_iff.mp h
  rcases login_cases hl with ⟨-, rfl⟩ | ⟨r, token, hrow, hfind, hdb, hctx⟩
  · exact .inl rfl
  · right
    simp only [loginRow, assigned, c.user_eq, c.pwd_eq, Json.valuestring, Option.filter_eq_some_iff,
      beq_iff_eq] at hrow
    obtain ⟨hf, hp⟩ := hrow
    have hname : r.username = c.user := (dbFind_mem hf).2
    refine ⟨r, token, hf, hp.symm, ?_⟩
    obtain ⟨db, ctx⟩ := st
    rw [hname] at hdb
    exact congrArg₂ UserState.mk hdb hctx

/-- A registration with both fields. -/
theorem register_body (st : UserState) (c : Credentials) (env : UserEnv) :
    wtslCoreUserRegister st (some c.root) env =
      some (if dbUserExists st.db c.user = true then (st, .err .userIsExisted)
        else ({ st with db := (dbRegister st.db c.user 1000 c.pwd).2 },
          .registerOk c.user (dbGetRegisterResp (dbRegister st.db c.user 1000 c.pwd).2 c.user))) := by
  simp only [wtslCoreUserRegister, assigned, c.user_eq, c.pwd_eq, Json.valuestring]
  split_ifs <;> rfl

theorem register_typed (c : Credentials) (env : UserEnv) :
    userStep md5 s (.register c env) =
      some (if dbUserExists s.db c.user = true then s
        else { s with db := (dbRegister s.db c.user 1000 c.pwd).2 }) := by
  rw [userStep, register_body]
  split_ifs <;> rfl

theorem changePwd_typed (p : PwdChange) (env : UserEnv) :
    userStep md5 s (.changePwd p env) =
      some (if dbCheckPassword s.db p.user p.oldPwd = true then
        { s with db := dbChangePassword s.db p.user (some p.newPwd) } else s) := by
  simp only [userStep, wtslCoreUserChangePwd, assigned, p.user_eq, p.old_eq, p.new_eq,
    Json.valuestring]
  cases dbCheckPassword s.db p.user p.oldPwd <;> rfl

/-! ### What a change of the table keeps -/

variable {t : UserTable}

/-- With distinct names, the look-up finds the row with the name. -/
theorem dbFind_of_mem (h : TableOk t) {r : Row} (hr : r ∈ t.rows) : dbFind t r.username = some r := by
  cases hf : dbFind t r.username with
  | none =>
    have := List.find?_eq_none.mp hf r hr
    simp at this
  | some r' =>
    obtain ⟨hmem, hname⟩ := dbFind_mem hf
    rw [List.inj_on_of_nodup_map h.names hmem hr hname]

/-- A rewriting of rows that keeps ids, names and groups. -/
structure KeepsKeys (f : Row → Row) : Prop where
  id_eq : ∀ r, (f r).id = r.id
  username_eq : ∀ r, (f r).username = r.username
  gid_eq : ∀ r, (f r).gid = r.gid

theorem TableOk.map {f : Row → Row} (h : TableOk t) (hf : KeepsKeys f) :
    TableOk { t with rows := t.rows.map f } where
  names := by
    rw [List.map_map, show Row.username ∘ f = Row.username from funext hf.username_eq]
    exact h.names
  ids := by
    rw [List.map_map, show Row.id ∘ f = Row.id from funext hf.id_eq]
    exact h.ids
  id_lt := by
    intro r hr
    obtain ⟨r₀, hr₀, rfl⟩ := List.mem_map.mp hr
    rw [hf.id_eq]
    exact h.id_lt r₀ hr₀
  admin_lt := h.admin_lt
  registered := by
    intro r hr hid
    obtain ⟨r₀, hr₀, rfl⟩ := List.mem_map.mp hr
    rw [hf.id_eq] at hid
    rw [hf.gid_eq, hf.username_eq]
    exact h.registered r₀ hr₀ hid

theorem nodup_map_snoc {α β : Type*} {g : α → β} {xs : List α} {a : α} (h : (xs.map g).Nodup)
    (hne : ∀ x ∈ xs, g x ≠ g a) : ((xs ++ [a]).map g).Nodup := by
  rw [List.map_append, List.map_singleton, List.nodup_append]
  refine ⟨h, List.nodup_singleton _, fun b hb c hc => ?_⟩
  obtain ⟨x, hx, rfl⟩ := List.mem_map.mp hb
  rw [List.mem_singleton.mp hc]
  exact hne x hx

/-- An insertion after the look-up of its name. -/
theorem TableOk.register {user pwd : CStr} (h : TableOk t) (hex : dbUserExists t user = false)
    (hne : ¬ (user = [] ∨ pwd = [])) : TableOk (dbRegister t user 1000 pwd).2 := by
  have hnew : ∀ r ∈ t.rows, r.username ≠ user := by
    rintro r hr rfl
    rw [dbUserExists, dbFind_of_mem h hr] at hex
    exact Bool.noConfusion hex
  unfold dbRegister
  rw [if_neg hne]
  refine ⟨nodup_map_snoc h.names hnew, nodup_map_snoc h.ids fun r hr => Int.ne_of_lt (h.id_lt r hr),
    ?_, ?_, ?_⟩
  · intro r hr
    show r.id < t.nextId + 1
    rcases List.mem_append.mp hr with hr | hr
    · have := h.id_lt r hr
      omega
    · rw [List.mem_singleton.mp hr]
      show t.nextId < t.nextId + 1
      omega
  · have := h.admin_lt
    show adminId < t.nextId + 1
    omega
  · intro r hr hid
    rcases List.mem_append.mp hr with hr | hr
    · exact h.registered r hr hid
    · rw [List.mem_singleton.mp hr]
      exact ⟨rfl, fun hu => hne (.inl hu)⟩

/-! ### Every request -/

/-- A request rewrites rows, or appends the row of a registration. -/
theorem userStep_cases (h : TableOk s.db) (hs : userStep md5 s q = some s') :
    (∃ f, KeepsKeys f ∧ s'.db = { s.db with rows := s.db.rows.map f } ∧
      (∀ r ∈ s.db.rows, (f r).password = passwordAfter q r) ∧
      (s'.ctx = s.ctx ∨ ∃ c env r token, q = .login c env ∧ dbFind s.db c.user = some r ∧
        r.password = c.pwd ∧ s'.ctx = rowContext r token)) ∨
    (∃ c env, q = .register c env ∧ dbUserExists s.db c.user = false ∧ ¬ (c.user = [] ∨ c.pwd = []) ∧
      s' = { s with db := (dbRegister s.db c.user 1000 c.pwd).2 }) := by
  have hid : KeepsKeys (fun r : Row => r) := ⟨fun _ => rfl, fun _ => rfl, fun _ => rfl⟩
  have hsame : s.db = { s.db with rows := s.db.rows.map fun r => r } := by rw [List.map_id']
  cases q with
  | login c env =>
    left
    rcases login_typed c env hs with rfl | ⟨r, token, hf, hp, rfl⟩
    · exact ⟨_, hid, hsame, fun _ _ => rfl, .inl rfl⟩
    · refine ⟨fun r => if r.username = c.user then { r with token := some token } else r,
        ⟨?_, ?_, ?_⟩, rfl, ?_, .inr ⟨c, env, r, token, rfl, hf, hp, rfl⟩⟩
      · intro r
        split_ifs <;> rfl
      · intro r
        split_ifs <;> rfl
      · intro r
        split_ifs <;> rfl
      · intro r _
        dsimp only [passwordAfter]
        split_ifs <;> rfl
  | register c env =>
    rw [register_typed, Option.some.injEq] at hs
    by_cases hex : dbUserExists s.db c.user = true
    · rw [if_pos hex] at hs
      subst hs
      exact .inl ⟨_, hid, hsame, fun _ _ => rfl, .inl rfl⟩
    · rw [if_neg hex] at hs
      by_cases hne : c.user = [] ∨ c.pwd = []
      · have hdb : (dbRegister s.db c.user 1000 c.pwd).2 = s.db := by
          unfold dbRegister
          rw [if_pos hne]
        rw [hdb] at hs
        subst hs
        exact .inl ⟨_, hid, hsame, fun _ _ => rfl, .inl rfl⟩
      · exact .inr ⟨c, env, rfl, (Bool.not_eq_true _).mp hex, hne, hs.symm⟩
  | changePwd p env =>
    left
    rw [changePwd_typed, Option.some.injEq] at hs
    by_cases hok : dbCheckPassword s.db p.user p.oldPwd = true
    · rw [if_pos hok] at hs
      subst hs
      refine ⟨fun r => if r.username = p.user then { r with password := p.newPwd } else r,
        ⟨?_, ?_, ?_⟩, rfl, ?_, .inl rfl⟩
      · intro r
        split_ifs <;> rfl
      · intro r
        split_ifs <;> rfl
      · intro r
        split_ifs <;> rfl
      · intro r hr
        dsimp only [passwordAfter]
        by_cases hu : r.username = p.user
        · have hpwd : r.password = p.oldPwd := by
            rw [dbCheckPassword, ← hu, dbFind_of_mem h hr] at hok
            exact (beq_iff_eq.mp hok).symm
          rw [if_pos hu, if_pos ⟨hu, hpwd⟩]
        · rw [if_neg hu, if_neg fun hc => hu hc.1]
    · rw [if_neg hok] at hs
      subst hs
      refine ⟨_, hid, hsame, fun r hr => ?_, .inl rfl⟩
      dsimp only [passwordAfter]
      rw [if_neg]
      rintro ⟨hu, hpwd⟩
      refine hok ?_
      rw [dbCheckPassword, ← hu, dbFind_of_mem h hr]
      exact beq_iff_eq.mpr hpwd.symm

theorem TableOk.step (h : TableOk s.db) (hs : userStep md5 s q = some s') : TableOk s'.db := by
  rcases userStep_cases h hs with ⟨f, hf, hdb, -, -⟩ | ⟨c, env, -, hex, hne, rfl⟩
  · rw [hdb]
    exact h.map hf
  · exact h.register hex hne

/-- **Every request keeps to the table's rules.** -/
theorem userStep_ok (h : TableOk s.db) (hs : userStep md5 s q = some s') : UserStep s q s' := by
  have h' := h.step hs
  rcases userStep_cases h hs with ⟨f, hf, hdb, hpwd, hctx⟩ | ⟨c, env, rfl, hex, hne, rfl⟩
  · refine ⟨h'.names, h'.ids, h'.registered, ?_, ?_, ?_⟩
    · intro r hr hnew
      rw [hdb] at hr
      obtain ⟨r₀, hr₀, rfl⟩ := List.mem_map.mp hr
      rw [hf.id_eq] at hnew
      exact absurd (List.mem_map_of_mem hr₀) hnew
    · intro r hr
      refine ⟨f r, ?_, hf.id_eq r, hf.username_eq r, hf.gid_eq r, hpwd r hr⟩
      rw [hdb]
      exact List.mem_map_of_mem hr
    · rcases hctx with hctx | ⟨c, env, r, token, rfl, hfind, hp, hctx⟩
      · exact .inl hctx
      · obtain ⟨hmem, hname⟩ := dbFind_mem hfind
        refine .inr ⟨c, env, rfl, r, hmem, hname, hp, ?_, ?_⟩
        · rw [hctx]
          rfl
        · rw [hctx]
          show loginPermission r.gid = .none ∨ loginPermission r.gid = .read ∨ r.gid = 0
          unfold loginPermission
          split_ifs with hg
          · exact .inr (.inr hg)
          · exact .inr (.inl rfl)
  · have hrows : (dbRegister s.db c.user 1000 c.pwd).2.rows =
        s.db.rows ++ [⟨s.db.nextId, c.user, c.pwd, 1000, none, 1699999999⟩] := by
      unfold dbRegister
      rw [if_neg hne]
    refine ⟨h'.names, h'.ids, h'.registered, ?_, ?_, .inl rfl⟩
    · intro r hr hnew
      rw [hrows] at hr
      rcases List.mem_append.mp hr with hr | hr
      · exact absurd (List.mem_map_of_mem hr) hnew
      · rw [List.mem_singleton.mp hr]
        exact ⟨c, env, rfl, rfl, rfl, rfl, fun hu => hne (.inl hu), fun hp => hne (.inr hp)⟩
    · intro r hr
      exact ⟨r, by rw [hrows]; exact List.mem_append_left _ hr, rfl, rfl, rfl, rfl⟩

/-- Of the registered users' passwords, a request keeps all set exactly under
the condition. -/
theorem passwordsSet_iff (h : TableOk s.db) (hp : PasswordsSet s) (hs : userStep md5 s q = some s') :
    PasswordsSet s' ↔ KeepsPassword s q := by
  rcases userStep_cases h hs with ⟨f, hf, hdb, hpwd, -⟩ | ⟨c, env, rfl, hex, hne, rfl⟩
  · have hafter : PasswordsSet s' ↔ ∀ r ∈ s.db.rows, r.id ≠ adminId → passwordAfter q r ≠ [] := by
      unfold PasswordsSet
      rw [hdb]
      simp only [List.forall_mem_map, hf.id_eq]
      exact forall₂_congr fun r hr => by rw [hpwd r hr]
    rw [hafter]
    cases q with
    | login c env | register c env => exact iff_of_true hp trivial
    | changePwd p env =>
      dsimp only [passwordAfter, KeepsPassword]
      constructor
      · intro hall hnew r hr hu ho
        by_contra hid
        have := hall r hr hid
        rw [if_pos ⟨hu, ho⟩] at this
        exact this hnew
      · intro hk r hr hid
        split_ifs with hc
        · exact fun hnew => hid (hk hnew r hr hc.1 hc.2)
        · exact hp r hr hid
  · refine iff_of_true ?_ trivial
    intro r hr hid
    have hr : r ∈ (dbRegister s.db c.user 1000 c.pwd).2.rows := hr
    unfold dbRegister at hr
    rw [if_neg hne] at hr
    rcases List.mem_append.mp hr with hr | hr
    · exact hp r hr hid
    · rw [List.mem_singleton.mp hr]
      exact fun hempty => hne (.inr hempty)

theorem tableOk_start : TableOk UserState.start.db where
  names := by decide
  ids := by decide
  id_lt := by decide
  admin_lt := by decide
  registered := by decide

theorem passwordsSet_start : PasswordsSet UserState.start := by
  unfold PasswordsSet
  decide

/-- The table in every run from the default administrator. Every request keeps
to its rules; the registered users have a password in all states exactly if
none of them changes to the empty one. -/
theorem userTable_iff (md5 : CStr → CStr) (reqs : List UserRequest) (s : UserState) :
    (Run (userStep md5) (fun s q => ∀ s', userStep md5 s q = some s' → UserStep s q s') .start reqs s ↔
      Run (userStep md5) (fun _ _ => True) .start reqs s) ∧
    (Run (userStep md5)
        (fun s q => ∀ s', userStep md5 s q = some s' → UserStep s q s' ∧ PasswordsSet s')
        .start reqs s ↔
      Run (userStep md5) KeepsPassword .start reqs s) := by
  constructor
  · refine Run.meets_iff (K := fun s => TableOk s.db) tableOk_start (fun s q h => ?_)
      fun s q s' h _ hs => h.step hs
    exact iff_of_true (fun s' hs => userStep_ok h hs) trivial
  · refine Run.meets_iff (K := fun s => TableOk s.db ∧ PasswordsSet s)
      ⟨tableOk_start, passwordsSet_start⟩ (fun s q h => ?_) fun s q s' h hok hs => ?_
    · cases hs : userStep md5 s q with
      | none =>
        -- only a login can end the run, and it changes no password
        refine iff_of_true (fun s' h' => nomatch h') ?_
        cases q with
        | login c env | register c env => trivial
        | changePwd p env =>
          rw [changePwd_typed] at hs
          exact nomatch hs
      | some s' =>
        rw [← passwordsSet_iff h.1 h.2 hs]
        constructor
        · intro hall
          exact (hall s' rfl).2
        · rintro hset s'' ⟨⟩
          exact ⟨userStep_ok h.1 hs, hset⟩
    · exact ⟨h.1.step hs, (passwordsSet_iff h.1 h.2 hs).mpr hok⟩

/-- The fields of a registration. -/
def bobCredentials : Credentials :=
  ⟨.object [("username".toList, .string "bob".toList), ("password".toList, .string "x".toList)],
    "bob".toList, "x".toList, rfl, rfl⟩

/-- A change to the empty password. -/
def bobEmptyPwd : PwdChange :=
  ⟨.object [("username".toList, .string "bob".toList), ("oldpassword".toList, .string "x".toList),
      ("newpassword".toList, .string [])],
    "bob".toList, "x".toList, [], rfl, rfl, rfl⟩

/-- A registered user changes to the empty password. -/
theorem registered_password_empty : ∃ s,
    exec (userStep id) .start [.register bobCredentials ⟨.wild, .wild, 0, []⟩,
        .changePwd bobEmptyPwd ⟨.wild, .wild, 0, []⟩] = some s ∧
      (∃ r ∈ s.db.rows, r.id = 2 ∧ r.username = "bob".toList ∧ r.gid = 1000 ∧ r.password = []) ∧
      ¬ PasswordsSet s := by
  have hex : ∃ s, exec (userStep id) .start [.register bobCredentials ⟨.wild, .wild, 0, []⟩,
      .changePwd bobEmptyPwd ⟨.wild, .wild, 0, []⟩] = some s ∧
        (⟨2, "bob".toList, [], 1000, none, 1699999999⟩ : Row) ∈ s.db.rows := ⟨_, rfl, by decide⟩
  obtain ⟨s, hs, hr⟩ := hex
  exact ⟨s, hs, ⟨_, hr, rfl, rfl, rfl, rfl⟩, fun h => h _ hr (by decide) rfl⟩

end WtslCore
