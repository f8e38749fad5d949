/-
# Who may run an operation

A request should run an operation's callback only if the `Authorization` value
it carries is the token of a user whose group has the permission
(`Authorized`). The server asks for some value and then checks the HTTP
module's copy of the last context, whoever logged in; `check_token_is_valid`
is never called.

So the value is right by accident of the session: in every reachable state, a
value is safe for all requests exactly if the copy has no permission at all or
the value is a stored token of a user with at least the session's rights
(`SessionOf`, `callback_authorized_iff`).

Key definitions: `Authorized`, `SessionOf`.
Key theorems: `authHdr_of_call`, `callback_authorized_iff`.
-/
import WtslCore.Http.Server

namespace WtslCore

open Runs

/-- The value is a stored token, and a login gives that user's group every
permission the operation requires. -/
def Authorized (s : ServerState) (auth : CStr) (func : NodeFunc) : Prop :=
  ∃ row ∈ s.user.db.rows, row.token = some auth ∧
    (loginPermission row.gid).mask &&& func.required.mask = func.required.mask

/-- No session, or the value is a stored token of an administrator or of a user
as good as the session's. -/
def SessionOf (s : ServerState) (auth : CStr) : Prop :=
  s.httpCtx.permission = .none ∨ ∃ row ∈ s.user.db.rows, row.token = some auth ∧
    (row.gid = 0 ∨ s.httpCtx.groupId ≠ 0)

variable {md5 : CStr → CStr} {s : ServerState} {r : Request} {func : NodeFunc} {node : Node}
  {auth : CStr}

/-! ### The header -/

/-- A node operation is only reached with an `Authorization` value. -/
theorem authHdr_of_call (h : r.route s.nodes = .call func node) : ∃ auth, r.authHdr = some auth := by
  cases ha : r.authHdr with
  | some auth => exact ⟨auth, rfl⟩
  | none =>
    unfold Request.route requestHandler at h
    rw [ha] at h
    cases hm : r.method with
    | get | options | other => simp [hm] at h
    | post =>
      simp only [hm] at h
      split at h
      · simp at h
      · split at h
        · simp at h
        · split at h
          · simp at h
          · rename_i hno
            have hno : noAuthUrls.contains (r.url.drop 7) = true := by simpa using hno
            unfold wtcoreapiParseHttpPostCmd at h
            rw [not_nodesUrl_of_noAuth hno] at h
            simp only [Bool.false_eq_true, ↓reduceIte] at h
            split at h <;> simp [wtslCorePostUsersFunctions] at h

/-! ### The session -/

/-- What a permission from a login covers, a login of an administrator or of a
user of the same kind covers as well. -/
theorem mask_of_session (hc : ContextOk s.httpCtx) (hp : checkPermissionUser s.httpCtx func.required = true)
    {row : Row} (hg : row.gid = 0 ∨ s.httpCtx.groupId ≠ 0) :
    (loginPermission row.gid).mask &&& func.required.mask = func.required.mask := by
  by_cases h0 : row.gid = 0
  · simp only [loginPermission, h0, ↓reduceIte]
    exact admin_mask_covers _
  · have hctx : s.httpCtx.groupId ≠ 0 := hg.resolve_left h0
    rcases hc with hnone | hlogin
    · rw [checkPermissionUser_none hnone func.required_ne_none] at hp
      simp at hp
    · unfold checkPermissionUser at hp
      rw [hlogin] at hp
      simpa [loginPermission, h0, hctx] using hp

theorem authorized_of_session (hc : ContextOk s.httpCtx) (hs : SessionOf s auth)
    (hrun : callbackRuns s r func node) : Authorized s auth func := by
  have hp := (interfaceWrapper_callback.mp hrun.2).1
  rcases hs with hnone | ⟨row, hrow, htok, hg⟩
  · rw [checkPermissionUser_none hnone func.required_ne_none] at hp
    simp at hp
  · exact ⟨row, hrow, htok, mask_of_session hc hp hg⟩

/-! ### Two requests that tell sessions apart -/

theorem route_basicinfo (nodes : Option (List Node)) (auth : CStr) :
    requestHandler nodes .get "/api/v1/nodes/0/basicinfo".toList (some auth) true =
      match findNode nodes 0 with
      | none => .error
      | some node => .call .getNodeBasicinfo node := rfl

theorem route_reboot (nodes : Option (List Node)) (auth : CStr) :
    requestHandler nodes .post "/api/v1/nodes/0/reboot".toList (some auth) true =
      match findNode nodes 0 with
      | none => .error
      | some node => .call .doReboot node := rfl

/-- In an administrator's session `POST .../reboot` runs the callback with any
value, in another session `GET .../basicinfo` does. -/
theorem session_of_authorized (hc : ContextOk s.httpCtx)
    (hn : findNode s.nodes 0 = some node) (hloc : checkIsRemoteNode s.splink node = false)
    (h : ∀ r func node, r.authHdr = some auth → callbackRuns s r func node → Authorized s auth func) :
    SessionOf s auth := by
  rcases hc with hnone | hlogin
  · exact Or.inl hnone
  right
  by_cases hg : s.httpCtx.groupId = 0
  · have hadmin : s.httpCtx.permission = .admin := by simpa [loginPermission, hg] using hlogin
    obtain ⟨row, hrow, htok, hmask⟩ := h
      ⟨.post, "/api/v1/nodes/0/reboot".toList, some auth, true, none, ⟨.null, .null, 0, []⟩⟩
      .doReboot node rfl ⟨by rw [Request.route, route_reboot, hn],
        interfaceWrapper_callback.mpr ⟨by simp [checkPermissionUser, hadmin, admin_mask_covers], hloc⟩⟩
    refine ⟨row, hrow, htok, Or.inl ?_⟩
    by_contra hne
    simp [loginPermission, hne, NodeFunc.required, PermissionLevel.mask] at hmask
  · have hread : s.httpCtx.permission = .read := by simpa [loginPermission, hg] using hlogin
    obtain ⟨row, hrow, htok, -⟩ := h
      ⟨.get, "/api/v1/nodes/0/basicinfo".toList, some auth, true, none, ⟨.null, .null, 0, []⟩⟩
      .getNodeBasicinfo node rfl ⟨by rw [Request.route, route_basicinfo, hn],
        interfaceWrapper_callback.mpr ⟨by simp [checkPermissionUser, hread, NodeFunc.required], hloc⟩⟩
    exact ⟨row, hrow, htok, Or.inr hg⟩

/-- In every reachable state: a callback only runs for a request with a value,
a value of the session is only let through to what its user may do, and any
other value is let through to more, as soon as the local node is listed. -/
theorem callback_authorized_iff {db : UserTable} {nodes : Option (List Node)} {g : SplinkInfo}
    {es : List ServerEvent}
    (hrun : Run (serverStep md5) (fun _ _ => True) (.start db nodes g) es s) :
    (∀ r func node, callbackRuns s r func node → ∃ auth, r.authHdr = some auth) ∧
      ∀ auth, (SessionOf s auth → ∀ r func node, r.authHdr = some auth →
          callbackRuns s r func node → Authorized s auth func) ∧
        ((∃ node, findNode s.nodes 0 = some node ∧ checkIsRemoteNode s.splink node = false) →
          (∀ r func node, r.authHdr = some auth → callbackRuns s r func node → Authorized s auth func) →
          SessionOf s auth) := by
  have hc := (contextsOk_run hrun).2
  refine ⟨fun r func node h => authHdr_of_call h.1, fun auth => ⟨?_, ?_⟩⟩
  · intro hs r func node _ hcall
    exact authorized_of_session hc hs hcall
  · rintro ⟨node, hn, hloc⟩ h
    exact session_of_authorized hc hn hloc h

/-- A reboot by a client. -/
def rebootRequest (auth : CStr) : Request :=
  ⟨.post, "/api/v1/nodes/0/reboot".toList, some auth, true, none, ⟨.null, .null, 0, []⟩⟩

/-- The administrator's token is good for a reboot. -/
theorem callback_authorized_admin :
    Authorized afterLogins "5088c170c6a2aaf1a9da742786081d6d".toList .doReboot :=
  ((callback_authorized_iff run_logins).2 _).1
    (Or.inr ⟨_, List.mem_singleton_self _, rfl, Or.inl rfl⟩) (rebootRequest _) .doReboot
    (NodeState.alone.list.head (by decide)) rfl ⟨by decide, by decide⟩

/-- So is any other value: a request with `Authorization: x` reboots the device. -/
theorem callback_unauthorized :
    Run (serverStep loginMd5) (fun _ _ => True)
        (.start initDb (some NodeState.alone.list) NodeState.alone.splink)
        [.request firstLogin, .request secondLogin] afterLogins ∧
      (∃ node, callbackRuns afterLogins (rebootRequest "x".toList) .doReboot node) ∧
      ¬ Authorized afterLogins "x".toList .doReboot := by
  refine ⟨run_logins, ⟨NodeState.alone.list.head (by decide), by decide, by decide⟩, ?_⟩
  rintro ⟨row, hrow, htok, -⟩
  obtain rfl := List.mem_singleton.mp hrow
  exact absurd htok (by decide)

end WtslCore
