/-
# What the handlers take from a body

A handler that takes a string from a body needs the field to be there and to
be a string; a number likewise. cJSON gives NULL for a field that is absent
and a NULL `valuestring` for an item that is no string, and hardly any
handler looks. Here the ways to go wrong are faults (`BodyFault`): an absent
item read, a NULL string used, the number of an item that is none, and a
local read that nothing was written to.

Of the user manager and of the tc requests only the accesses are written down
here, in the order of the source; their outcomes are those of `User.Manager`
and `Slb.QosCore`, and where the accesses are right the outcomes do not depend
on what the locals held (`login_garbage`).

Key definitions: `BodyFault`, `credentials`, `doTimeSync`, `autoJoinNet`,
`tnodeJoinNet`, `tcFieldAccess`, `BodyHandler`, `TypedAccess`.
Key theorem: `typedAccess_iff`.
-/
import WtslCore.Lib.Faults
import WtslCore.User.Manager
import WtslCore.Node.Radio
import WtslCore.Slb.CmdLength

namespace WtslCore

/-- What can go wrong: a misused field or local, or a text too long for its buffer. -/
inductive BodyFault
  | missing
  | nullString
  | noNumber
  | unassigned
  | overflow
  deriving DecidableEq, Repr

/-- `item->valuestring`, used as a string. -/
def useString : Option Json → Except BodyFault CStr
  | none => .error .missing
  | some j => match j.valuestring with
    | none => .error .nullString
    | some s => .ok s

/-- `item->valueint`, used as a number. -/
def useNumber : Option Json → Except BodyFault ℤ
  | none => .error .missing
  | some (.number n) => .ok n.valueint
  | some _ => .error .noNumber

/-- A local after `if (item != NULL) p = item->valuestring;` is read: NULL or a string. -/
def readLocal : Option Json → Except BodyFault (Option CStr)
  | none => .error .unassigned
  | some j => .ok j.valuestring

/-- A field that is used only if it is there. -/
def useIfThere {α : Type} (use : Option Json → Except BodyFault α) :
    Option Json → Except BodyFault Unit
  | none => .ok ()
  | some j => do
    let _ ← use (some j)
    .ok ()

/-! ### The user manager -/

/-- `if (user == NULL || pwd == NULL)`: both strings, or `none`. -/
def credentials (cjuser cjpwd : Option Json) : Except BodyFault (Option (CStr × CStr)) := do
  match ← readLocal cjuser with
  | none => .ok none
  | some user => match ← readLocal cjpwd with
    | none => .ok none
    | some pwd => .ok (some (user, pwd))

/-- `wtsl_core_user_login`. -/
def loginAccess (root : Json) : Except BodyFault Unit := do
  let _ ← credentials (root.getObjectItem "username".toList) (root.getObjectItem "password".toList)
  .ok ()

/-- `wtsl_core_user_register`: `db_uid` and `db_gid` are written only if there
is a row for the user after `db_register`. -/
def registerAccess (db : UserTable) (root : Json) : Except BodyFault Unit := do
  match ← credentials (root.getObjectItem "username".toList) (root.getObjectItem "password".toList) with
  | none => .ok ()
  | some (user, pwd) =>
    if dbUserExists db user then .ok ()
    else match dbGetRegisterResp (dbRegister db user 1000 pwd).2 user with
      | none => .error .unassigned
      | some _ => .ok ()

/-- `wtsl_core_user_change_pwd`: `cjoldpwd` is not NULL where the new password
is read. -/
def changePwdAccess (db : UserTable) (root : Json) : Except BodyFault Unit := do
  match ← credentials (root.getObjectItem "username".toList)
      (root.getObjectItem "oldpassword".toList) with
  | none => .ok ()
  | some (user, pwd) =>
    if !dbCheckPassword db user pwd then .ok ()
    else do
      let _ ← useString (root.getObjectItem "newpassword".toList)
      .ok ()

/-! ### The callbacks of a node -/

/-- What the callbacks meet: whether a text is a valid time, what `system`
returns, what the getters print, and the junk of `config_set`. -/
structure BodyEnv where
  validTime : CStr → Bool
  system : CStr → ℤ
  getChannel : Option (List Char)
  getBw : Option (List Char)
  getTfcBw : Option (List Char)
  junk : ℕ → ℕ → Junk

/-- `date -s "..."`, in 32 bytes. -/
def dateCommand (timestr : CStr) : Except BodyFault CStr :=
  let cmd := "date -s \x22".toList ++ (timestr ++ ['\x22'])
  if cmd.length < 32 then .ok cmd else .error .overflow

/-- `wtsl_core_do_time_sync`: the command, and the response. -/
def doTimeSync (env : BodyEnv) (root : Json) : Except BodyFault (Option CStr × Option CStr) := do
  let timestr ← useString (root.getObjectItem "time".toList)
  if env.validTime timestr then
    let cmd ← dateCommand timestr
    .ok (some cmd, some "set time success".toList)
  else .ok (none, none)

/-- `check_user_has_permission`. -/
def checkUserHasPermission (_username _tokenstr _timestr : CStr) : ℤ := -1

/-- `wtsl_core_do_reboot`: the command, and the response. -/
def doReboot (env : BodyEnv) (root : Json) : Except BodyFault (Option CStr × Option CStr) := do
  let username ← useString (root.getObjectItem "username".toList)
  let timestr ← useString (root.getObjectItem "time".toList)
  let tokenstr ← useString (root.getObjectItem "token".toList)
  if !env.validTime timestr then .ok (none, none)
  else if checkUserHasPermission username tokenstr timestr = 0 then .ok (some "reboot".toList, none)
  else .ok (none, none)

/-- `wtsl_core_auto_join_net`. -/
def autoJoinNet (env : BodyEnv) (st : LocalNode) (root : Json) :
    Except BodyFault (LocalNode × Option CStr) := do
  let ajFlag ← useNumber (root.getObjectItem "aj_flag".toList)
  let flag := Int32.ofInt ajFlag
  .ok (⟨{ st.params with autoJoinNetFlag := flag },
    (configSetInt (env.junk 0) "AUTO_JOIN_NET".toList flag st.file).2⟩, some "success".toList)

/-- `wtsl_core_parse_json_tnode_join_net`: the node, and 0 or -1. -/
def tnodeJoinNet (env : BodyEnv) (st : LocalNode) (root : Json) :
    Except BodyFault (LocalNode × ℤ) := do
  let idx ← useString (root.getObjectItem "index".toList)
  let ret := if env.system (iwprivCfg "start_join" (Int32.ofInt (atoi idx))) ≠ 0 then -1 else 0
  let tmpChannel := slbGet env.getChannel
  let params :=
    { st.params with
      channel := if tmpChannel ≠ 0 then tmpChannel else st.params.channel
      bw := slbGet env.getBw
      tfcBw := slbGet env.getTfcBw }
  let pairs := intPairs [("CHANNEL", params.channel), ("BW", params.bw), ("TFC_BW", params.tfcBw)]
  .ok (⟨params, configSetAll env.junk pairs st.file⟩, ret)

/-! ### The tc requests -/

/-- A string of the request with a default. -/
def useStringOr (dflt : String) : Option Json → Except BodyFault CStr
  | none => .ok dflt.toList
  | some j => useString (some j)

/-- `tc_handle_request`: the fields that are appended as they are, and the
number `prio`. -/
def tcFieldAccess (action objType : CStr) (params : Json) : Except BodyFault Unit := do
  (tcFields action objType).forM fun f =>
    useIfThere useString (params.getObjectItemCaseSensitive f.2.toList)
  if isDelete action ∨ objType ≠ "filter".toList then .ok ()
  else useIfThere useNumber (params.getObjectItemCaseSensitive "prio".toList)

/-- `wtsl_core_qos_set_rules`. -/
def qosAccess (root : Json) : Except BodyFault Unit := do
  let action ← useStringOr "show" (root.getObjectItem "action".toList)
  let objType ← useStringOr "qdisc" (root.getObjectItem "type".toList)
  tcFieldAccess action objType root

/-! ### The handlers of the claim, and what is asked of them -/

/-- The user manager and the local node. -/
structure BodyState where
  user : UserState
  node : LocalNode

/-- The handlers that take fields from a body. -/
inductive BodyHandler
  | login
  | register
  | changePwd
  | timeSync
  | reboot
  | autoJoin
  | joinNet
  | qosRules
  deriving DecidableEq

/-- The field is there and is a string. -/
def IsText (o : Option Json) : Prop := ∃ j ∈ o, j.valuestring.isSome = true

/-- The field is there and is a number. -/
def IsNumber (o : Option Json) : Prop := ∃ n, o = some (.number n)

def BodyHandler.access (h : BodyHandler) (env : BodyEnv) (st : BodyState) (root : Json) :
    Except BodyFault Unit :=
  match h with
  | .login => loginAccess root
  | .register => registerAccess st.user.db root
  | .changePwd => changePwdAccess st.user.db root
  | .timeSync => (doTimeSync env root).map fun _ => ()
  | .reboot => (doReboot env root).map fun _ => ()
  | .autoJoin => (autoJoinNet env st.node root).map fun _ => ()
  | .joinNet => (tnodeJoinNet env st.node root).map fun _ => ()
  | .qosRules => qosAccess root

/-- The fields a tc request uses are strings, and `prio` a number, where they are there. -/
def TcWellTyped (action objType : CStr) (params : Json) : Prop :=
  (∀ f ∈ tcFields action objType,
    TextOrMissing (params.getObjectItemCaseSensitive f.2.toList)) ∧
  (¬ (isDelete action ∨ objType ≠ "filter".toList) →
    ∀ j ∈ params.getObjectItemCaseSensitive "prio".toList, IsNumber (some j))

/-- The body has the fields the handler needs, with their types. -/
def BodyHandler.Needs (h : BodyHandler) (root : Json) : Prop :=
  let field (name : String) := root.getObjectItem name.toList
  match h with
  | .login | .register => IsText (field "username") ∧ IsText (field "password")
  | .changePwd => IsText (field "username") ∧ IsText (field "oldpassword") ∧ IsText (field "newpassword")
  | .timeSync => IsText (field "time")
  | .reboot => IsText (field "username") ∧ IsText (field "time") ∧ IsText (field "token")
  | .autoJoin => IsNumber (field "aj_flag")
  | .joinNet => IsText (field "index")
  | .qosRules => ∃ action ∈ stringOr (field "action") "show", ∃ objType ∈ stringOr (field "type") "qdisc",
      TcWellTyped action objType root

/-- The handler returns an error and changes nothing. A tc request has no such outcome. -/
def BodyHandler.Rejects (h : BodyHandler) (env : BodyEnv) (st : BodyState) (root : Json) : Prop :=
  match h with
  | .login => ∀ md5 uenv, wtslCoreUserLogin md5 st.user (some root) uenv = some (st.user, .err .param)
  | .register => ∀ uenv, wtslCoreUserRegister st.user (some root) uenv = some (st.user, .err .param)
  | .changePwd => ∀ uenv, wtslCoreUserChangePwd st.user (some root) uenv = some (st.user, .err .param)
  | .timeSync => doTimeSync env root = .ok (none, none)
  | .reboot => doReboot env root = .ok (none, none)
  | .autoJoin => autoJoinNet env st.node root = .ok (st.node, none)
  | .joinNet => tnodeJoinNet env st.node root = .ok (st.node, -1)
  | .qosRules => False

/-- No field and no local is misused, and a body without the fields the
handler needs is answered with an error. -/
def TypedAccess (h : BodyHandler) (env : BodyEnv) (st : BodyState) (root : Json) : Prop :=
  FaultsIn (· = .overflow) (h.access env st root) ∧ (¬ h.Needs root → h.Rejects env st root)

/-- The user name is there; and if it is a string, so is the password; and if
both are strings, `q` holds of them. -/
def CredentialsOk (cjuser cjpwd : Option Json) (q : CStr → CStr → Prop) : Prop :=
  ∃ j ∈ cjuser, ∀ user ∈ j.valuestring, ∃ k ∈ cjpwd, ∀ pwd ∈ k.valuestring, q user pwd

/-- The condition: the user manager may find a field of another type, but none
missing, and may not refuse an empty name or password; a change of password
needs the new one only if the old one is right; the others need their fields. -/
def BodyHandler.Ok (h : BodyHandler) (st : BodyState) (root : Json) : Prop :=
  let field (name : String) := root.getObjectItem name.toList
  match h with
  | .login => CredentialsOk (field "username") (field "password") fun _ _ => True
  | .register => CredentialsOk (field "username") (field "password") fun user pwd =>
      dbUserExists st.user.db user = true ∨ (user ≠ [] ∧ pwd ≠ [])
  | .changePwd => CredentialsOk (field "username") (field "oldpassword") fun user pwd =>
      dbCheckPassword st.user.db user pwd = true → IsText (field "newpassword")
  | h => h.Needs root

variable {env : BodyEnv} {st : BodyState} {root : Json} {o : Option Json}

/-! ### The accesses -/

theorem useString_typed : FaultsIn (· = .overflow) (useString o) ↔ IsText o := by
  unfold useString IsText
  cases o with
  | none => simp
  | some j => cases hj : j.valuestring <;> simp [hj]

theorem useNumber_typed : FaultsIn (· = .overflow) (useNumber o) ↔ IsNumber o := by
  unfold useNumber IsNumber
  match o with
  | none => simp
  | some (.number n) => simp
  | some .null | some (.bool _) | some (.string _) | some (.array _) | some (.object _) => simp

/-- What follows the credentials is as typed as it is for the strings that are there. -/
theorem credentials_bind {cjuser cjpwd : Option Json}
    {f : Option (CStr × CStr) → Except BodyFault Unit} (hf : f none = .ok ()) :
    FaultsIn (· = .overflow) (credentials cjuser cjpwd >>= f) ↔
      CredentialsOk cjuser cjpwd fun user pwd =>
        FaultsIn (· = .overflow) (f (some (user, pwd))) := by
  unfold credentials CredentialsOk
  cases cjuser with
  | none => simp [readLocal, Bind.bind, Except.bind]
  | some j =>
    cases hj : j.valuestring with
    | none => simp [readLocal, Bind.bind, Except.bind, hj, hf]
    | some user =>
      cases cjpwd with
      | none => simp [readLocal, Bind.bind, Except.bind, hj]
      | some k => cases hk : k.valuestring <;> simp [readLocal, Bind.bind, Except.bind, hj, hk, hf]

/-- `db_uid` and `db_gid` are written if neither the name nor the password is empty. -/
theorem register_ids {db : UserTable} {user pwd : CStr} (h : dbUserExists db user = false) :
    (dbGetRegisterResp (dbRegister db user 1000 pwd).2 user).isSome = true ↔
      user ≠ [] ∧ pwd ≠ [] := by
  have hnone : db.rows.find? (fun r => r.username == user) = none := by
    simpa [dbUserExists, dbFind] using h
  unfold dbGetRegisterResp dbRegister dbFind
  by_cases hempty : user = [] ∨ pwd = []
  · have hnot : ¬ (user ≠ [] ∧ pwd ≠ []) := fun hne => hempty.elim hne.1 hne.2
    simp only [if_pos hempty, hnone, Option.map_none, Option.isSome_none, Bool.false_eq_true, hnot]
  · have hne : user ≠ [] ∧ pwd ≠ [] := not_or.mp hempty
    simp [List.find?_append, hnone, hne]

theorem loginAccess_typed (st : BodyState) : FaultsIn (· = .overflow) (loginAccess root) ↔
    BodyHandler.login.Ok st root := by
  unfold loginAccess
  rw [credentials_bind rfl]
  simp only [faultsIn_ok]
  rfl

theorem registerAccess_typed (st : BodyState) : FaultsIn (· = .overflow) (registerAccess st.user.db root) ↔
    BodyHandler.register.Ok st root := by
  unfold registerAccess
  rw [credentials_bind rfl]
  have hrest : ∀ user pwd, FaultsIn (· = BodyFault.overflow)
      (if dbUserExists st.user.db user = true then (.ok () : Except BodyFault Unit)
        else match dbGetRegisterResp (dbRegister st.user.db user 1000 pwd).2 user with
          | none => .error .unassigned
          | some _ => .ok ()) ↔
      (dbUserExists st.user.db user = true ∨ (user ≠ [] ∧ pwd ≠ [])) := by
    intro user pwd
    cases hex : dbUserExists st.user.db user with
    | true => simp
    | false =>
      rw [← register_ids hex, if_neg Bool.false_ne_true]
      cases dbGetRegisterResp (dbRegister st.user.db user 1000 pwd).2 user <;> simp
  simp only [hrest]
  rfl

theorem changePwdAccess_typed (st : BodyState) : FaultsIn (· = .overflow) (changePwdAccess st.user.db root) ↔
    BodyHandler.changePwd.Ok st root := by
  unfold changePwdAccess
  rw [credentials_bind rfl]
  have hrest : ∀ user pwd, FaultsIn (· = BodyFault.overflow)
      (if (!dbCheckPassword st.user.db user pwd) = true then (.ok () : Except BodyFault Unit)
        else do
          let _ ← useString (root.getObjectItem "newpassword".toList)
          .ok ()) ↔
      (dbCheckPassword st.user.db user pwd = true →
        IsText (root.getObjectItem "newpassword".toList)) := by
    intro user pwd
    cases dbCheckPassword st.user.db user pwd with
    | false => simp
    | true =>
      rw [if_neg (by decide), faultsIn_bind, useString_typed]
      simp
  simp only [hrest]
  rfl

/-- What follows a string is as typed as it is for every string. -/
theorem useString_bind {α : Type} {f : CStr → Except BodyFault α} {q : Prop}
    (hf : ∀ s, FaultsIn (· = .overflow) (f s) ↔ q) :
    FaultsIn (· = .overflow) (useString o >>= f) ↔ IsText o ∧ q := by
  rw [faultsIn_bind, useString_typed]
  refine and_congr_right fun htext => ?_
  obtain ⟨j, rfl, hj⟩ := htext
  obtain ⟨s, hs⟩ := Option.isSome_iff_exists.mp hj
  have huse : useString (some j) = .ok s := by simp [useString, hs]
  constructor
  · intro h
    exact (hf s).mp (h s huse)
  · intro h s' _
    exact (hf s').mpr h

/-- `date` is too long for its buffer, or it is not. -/
theorem dateCommand_typed (timestr : CStr) : FaultsIn (· = .overflow) (dateCommand timestr) := by
  unfold dateCommand
  dsimp only
  split_ifs
  · exact faultsIn_ok _
  · exact faultsIn_error.mpr rfl

theorem doTimeSync_typed : FaultsIn (· = .overflow) (doTimeSync env root) ↔
    BodyHandler.timeSync.Needs root := by
  unfold doTimeSync
  rw [useString_bind (q := True), and_true]
  · rfl
  · intro timestr
    refine iff_true_intro ?_
    split_ifs
    · exact faultsIn_bind.mpr ⟨dateCommand_typed timestr, fun _ _ => faultsIn_ok _⟩
    · exact faultsIn_ok _

theorem doReboot_typed : FaultsIn (· = .overflow) (doReboot env root) ↔
    BodyHandler.reboot.Needs root := by
  unfold doReboot
  refine useString_bind fun username => useString_bind fun timestr => ?_
  rw [useString_bind (q := True), and_true]
  intro tokenstr
  refine iff_true_intro ?_
  split_ifs
  · exact faultsIn_ok _
  · exact faultsIn_ok _
  · exact faultsIn_ok _

theorem autoJoinNet_typed : FaultsIn (· = .overflow) (autoJoinNet env st.node root) ↔
    BodyHandler.autoJoin.Needs root := by
  unfold autoJoinNet
  rw [faultsIn_bind, useNumber_typed]
  exact and_iff_left fun _ _ => faultsIn_ok _

theorem tnodeJoinNet_typed : FaultsIn (· = .overflow) (tnodeJoinNet env st.node root) ↔
    BodyHandler.joinNet.Needs root := by
  unfold tnodeJoinNet
  rw [useString_bind (q := True), and_true]
  · rfl
  · exact fun _ => iff_true_intro (faultsIn_ok _)

/-! ### The accesses of a tc request -/

theorem useIfThere_typed {α : Type} {use : Option Json → Except BodyFault α} {q : Option Json → Prop}
    (h : ∀ o, FaultsIn (· = .overflow) (use o) ↔ q o) :
    FaultsIn (· = .overflow) (useIfThere use o) ↔ ∀ j ∈ o, q (some j) := by
  cases o with
  | none => simp [useIfThere]
  | some j =>
    unfold useIfThere
    rw [faultsIn_bind, h]
    simp

theorem isText_some {j : Json} : IsText (some j) ↔ j.valuestring.isSome = true := by simp [IsText]

theorem useIfThere_text : FaultsIn (· = .overflow) (useIfThere useString o) ↔ TextOrMissing o := by
  rw [useIfThere_typed fun _ => useString_typed]
  simp only [isText_some]
  rfl

theorem useIfThere_ok (h : TextOrMissing o) : useIfThere useString o = .ok () := by
  cases o with
  | none => rfl
  | some j =>
    obtain ⟨s, hs⟩ := Option.isSome_iff_exists.mp (h j rfl)
    simp [useIfThere, useString, hs, Bind.bind, Except.bind]

theorem tcFieldAccess_typed (action objType : CStr) (params : Json) :
    FaultsIn (· = .overflow) (tcFieldAccess action objType params) ↔
      TcWellTyped action objType params := by
  unfold tcFieldAccess TcWellTyped
  rw [faultsIn_bind, faultsIn_forM (fun _ => useIfThere_ok) (fun _ => useIfThere_text.mp)]
  refine and_congr_right fun hfields => ?_
  rw [forM_ok (fun _ => useIfThere_ok) hfields]
  have hprio : FaultsIn (· = BodyFault.overflow)
      (if isDelete action = true ∨ objType ≠ "filter".toList then .ok ()
        else useIfThere useNumber (params.getObjectItemCaseSensitive "prio".toList)) ↔
      (¬ (isDelete action = true ∨ objType ≠ "filter".toList) →
        ∀ j ∈ params.getObjectItemCaseSensitive "prio".toList, IsNumber (some j)) := by
    split_ifs with hno
    · exact iff_of_true (faultsIn_ok _) fun h => absurd hno h
    · rw [useIfThere_typed fun _ => useNumber_typed]
      exact ⟨fun h _ => h, fun h => h hno⟩
  rw [← hprio]
  exact ⟨fun h => h () rfl, fun h _ _ => h⟩

/-- What follows a string with a default. -/
theorem useStringOr_bind {dflt : String} {f : CStr → Except BodyFault Unit} :
    FaultsIn (· = .overflow) (useStringOr dflt o >>= f) ↔
      ∃ s ∈ stringOr o dflt, FaultsIn (· = .overflow) (f s) := by
  cases o with
  | none => simp [useStringOr, stringOr, Bind.bind, Except.bind]
  | some j =>
    cases hj : j.valuestring <;>
      simp [useStringOr, stringOr, useString, hj, Bind.bind, Except.bind]

theorem qosAccess_typed : FaultsIn (· = .overflow) (qosAccess root) ↔
    BodyHandler.qosRules.Needs root := by
  unfold qosAccess
  simp only [useStringOr_bind, tcFieldAccess_typed]
  rfl

/-! ### The accesses and the outcomes -/

/-- Where the accesses of the credentials are right, the locals hold what the
body says, as far as they are looked at. -/
theorem credentials_garbage {cjuser cjpwd : Option Json} {q : CStr → CStr → Prop}
    (h : CredentialsOk cjuser cjpwd q) (g g' k k' : CPtr) :
    (assigned cjuser g = .null ∧ assigned cjuser g' = .null) ∨
      (assigned cjuser g = assigned cjuser g' ∧ assigned cjpwd k = assigned cjpwd k') := by
  obtain ⟨j, rfl, hj⟩ := h
  cases hs : j.valuestring with
  | none => simp [assigned, hs]
  | some user =>
    obtain ⟨p, rfl, _⟩ := hj user hs
    exact .inr ⟨rfl, rfl⟩

/-- A login whose accesses are right does not depend on what the locals held. -/
theorem login_garbage (h : FaultsIn (· = .overflow) (loginAccess root)) (md5 : CStr → CStr)
    (s : UserState) (uenv : UserEnv) (g k : CPtr) :
    wtslCoreUserLogin md5 s (some root) { uenv with user := g, pwd := k } =
      wtslCoreUserLogin md5 s (some root) uenv := by
  unfold wtslCoreUserLogin
  dsimp only
  obtain ⟨h1, h2⟩ | ⟨h1, h2⟩ := credentials_garbage
    ((loginAccess_typed ⟨s, freshNode⟩).mp h) g uenv.user k uenv.pwd
  · rw [h1, h2]
  · rw [h1, h2]
    rfl

theorem register_garbage {s : UserState} (h : FaultsIn (· = .overflow) (registerAccess s.db root))
    (uenv : UserEnv) (g k : CPtr) :
    wtslCoreUserRegister s (some root) { uenv with user := g, pwd := k } =
      wtslCoreUserRegister s (some root) uenv := by
  unfold wtslCoreUserRegister
  dsimp only
  obtain ⟨h1, h2⟩ | ⟨h1, h2⟩ := credentials_garbage
    ((registerAccess_typed ⟨s, freshNode⟩).mp h) g uenv.user k uenv.pwd
  · rw [h1, h2]
  · rw [h1, h2]

theorem changePwd_garbage {s : UserState} (h : FaultsIn (· = .overflow) (changePwdAccess s.db root))
    (uenv : UserEnv) (g k : CPtr) :
    wtslCoreUserChangePwd s (some root) { uenv with user := g, pwd := k } =
      wtslCoreUserChangePwd s (some root) uenv := by
  unfold wtslCoreUserChangePwd
  dsimp only
  obtain ⟨h1, h2⟩ | ⟨h1, h2⟩ := credentials_garbage
    ((changePwdAccess_typed ⟨s, freshNode⟩).mp h) g uenv.user k uenv.pwd
  · rw [h1, h2]
  · rw [h1, h2]

/-- A field of a tc request that is no string leaves the command undefined. -/
theorem tcCommandOn_nullString (dflt action objType : CStr) {params : Json} {f : String × String}
    (hf : f ∈ tcFields action objType)
    (h : ¬ TextOrMissing (params.getObjectItemCaseSensitive f.2.toList)) :
    ¬ CommandFits (tcCommandOn dflt action objType params) := by
  rw [tcCommandOn_fits_iff]
  exact fun hfits => h (hfits.1 f hf)

/-- Credentials that are there, but not both strings, are NULL where they are compared. -/
theorem credentials_null {cjuser cjpwd : Option Json} {q : CStr → CStr → Prop}
    (h : CredentialsOk cjuser cjpwd q) (hneeds : ¬ (IsText cjuser ∧ IsText cjpwd)) (g k : CPtr) :
    assigned cjuser g = .null ∨
      ∃ user, assigned cjuser g = .str user ∧ assigned cjpwd k = .null := by
  obtain ⟨j, rfl, hj⟩ := h
  cases hs : j.valuestring with
  | none => simp [assigned, hs]
  | some user =>
    obtain ⟨p, rfl, _⟩ := hj user hs
    have huser : IsText (some j) := isText_some.mpr (by rw [hs]; rfl)
    have hpwd : p.valuestring = none := by
      rw [← Option.not_isSome_iff_eq_none]
      exact fun hp => hneeds ⟨huser, isText_some.mpr hp⟩
    exact .inr ⟨user, by simp [assigned, hs], by simp [assigned, hpwd]⟩

theorem login_rejects (h : BodyHandler.login.Ok st root) (hneeds : ¬ BodyHandler.login.Needs root) :
    BodyHandler.login.Rejects env st root := by
  intro md5 uenv
  unfold wtslCoreUserLogin
  dsimp only
  obtain h1 | ⟨user, h1, h2⟩ := credentials_null h hneeds uenv.user uenv.pwd
  · rw [h1]
  · rw [h1, h2]

theorem register_rejects (h : BodyHandler.register.Ok st root)
    (hneeds : ¬ BodyHandler.register.Needs root) : BodyHandler.register.Rejects env st root := by
  intro uenv
  unfold wtslCoreUserRegister
  dsimp only
  obtain h1 | ⟨user, h1, h2⟩ := credentials_null h hneeds uenv.user uenv.pwd
  · rw [h1]
  · rw [h1, h2]

/-- A change of password is also refused for a wrong old one. -/
theorem changePwd_rejects (h : BodyHandler.changePwd.Ok st root)
    (hneeds : ¬ BodyHandler.changePwd.Needs root) : BodyHandler.changePwd.Rejects env st root := by
  intro uenv
  unfold wtslCoreUserChangePwd
  dsimp only
  by_cases hboth : IsText (root.getObjectItem "username".toList) ∧
      IsText (root.getObjectItem "oldpassword".toList)
  · obtain ⟨j, hj, hok⟩ := h
    obtain ⟨j', hj', hjs⟩ := hboth.1
    obtain ⟨k', hk', hks⟩ := hboth.2
    obtain rfl := Option.some.inj (hj.symm.trans hj')
    obtain ⟨user, huser⟩ := Option.isSome_iff_exists.mp hjs
    obtain ⟨pwd, hpwd⟩ := Option.isSome_iff_exists.mp hks
    obtain ⟨k, hk, hnew⟩ := hok user huser
    obtain rfl := Option.some.inj (hk.symm.trans hk')
    have hwrong : dbCheckPassword st.user.db user pwd = false := by
      rw [← Bool.not_eq_true]
      exact fun hright => hneeds ⟨hboth.1, hboth.2, hnew pwd hpwd hright⟩
    have h1 : assigned (root.getObjectItem "username".toList) uenv.user = .str user := by
      rw [Option.mem_def.mp hj', assigned, huser]
    have h2 : assigned (root.getObjectItem "oldpassword".toList) uenv.pwd = .str pwd := by
      rw [Option.mem_def.mp hk', assigned, hpwd]
    rw [h1, h2]
    dsimp only
    rw [hwrong]
    rfl
  · obtain h1 | ⟨user, h1, h2⟩ := credentials_null h hboth uenv.user uenv.pwd
    · rw [h1]
    · rw [h1, h2]

/-- **A handler takes what it needs from a body, or answers with an error**,
if and only if the condition holds. -/
theorem typedAccess_iff (h : BodyHandler) (env : BodyEnv) (st : BodyState) (root : Json) :
    TypedAccess h env st root ↔ h.Ok st root := by
  unfold TypedAccess BodyHandler.access
  cases h with
  | login =>
    rw [loginAccess_typed st]
    exact and_iff_left_of_imp fun hok => login_rejects hok
  | register =>
    rw [registerAccess_typed]
    exact and_iff_left_of_imp fun hok => register_rejects hok
  | changePwd =>
    rw [changePwdAccess_typed]
    exact and_iff_left_of_imp fun hok => changePwd_rejects hok
  | timeSync =>
    rw [faultsIn_map, doTimeSync_typed]
    exact and_iff_left_of_imp fun hok hno => absurd hok hno
  | reboot =>
    rw [faultsIn_map, doReboot_typed]
    exact and_iff_left_of_imp fun hok hno => absurd hok hno
  | autoJoin =>
    rw [faultsIn_map, autoJoinNet_typed]
    exact and_iff_left_of_imp fun hok hno => absurd hok hno
  | joinNet =>
    rw [faultsIn_map, tnodeJoinNet_typed]
    exact and_iff_left_of_imp fun hok hno => absurd hok hno
  | qosRules =>
    rw [qosAccess_typed]
    exact and_iff_left_of_imp fun hok hno => absurd hok hno

/-- A device with the default administrator. -/
def freshBodyState : BodyState := ⟨⟨initDb, .zero⟩, freshNode⟩

/-- No time is valid, and no command fails or prints anything. -/
def quietEnv : BodyEnv := ⟨fun _ => false, fun _ => 0, some [], some [], some [], fun _ _ => ⟨[], []⟩⟩

/-- The administrator's old password, and no new one. -/
def changeWithoutNew : Json :=
  .object [("username".toList, .string "admin".toList), ("oldpassword".toList, .string "123456".toList)]

/-- `{}` compares an unassigned pointer at a login, and dereferences NULL at a
reboot; a new password that is missing is read, too; a flag that is a string
counts as 0, and one that is missing is read. -/
theorem typedAccess_misused :
    ¬ TypedAccess .login quietEnv freshBodyState (.object []) ∧
    loginAccess (.object []) = .error .unassigned ∧
    doReboot quietEnv (.object []) = .error .missing ∧
    changePwdAccess initDb changeWithoutNew = .error .missing ∧
    autoJoinNet quietEnv freshNode (.object [("aj_flag".toList, .string "1".toList)]) = .error .noNumber ∧
    qosAccess (.object [("parent".toList, .null)]) = .error .nullString := by
  have hlogin : loginAccess (.object []) = .error .unassigned := rfl
  refine ⟨fun h => ?_, hlogin, rfl, ?_, rfl, rfl⟩
  · exact absurd (h.1 _ hlogin) nofun
  · rfl

end WtslCore
