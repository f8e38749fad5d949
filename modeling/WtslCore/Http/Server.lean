/-
# The HTTP server

The state behind the requests: the user manager, the HTTP module's own copy of
the user context (`g_user_ctx` of `wtsl_core_http_restful_api.c`), the list of
nodes and the local device. A request is routed; an operation on a node is
checked against the copy, and every request that reaches the user manager
first takes a new copy and then runs its handler. Whatever else the device
does to its nodes is the event `device`.

Both contexts start empty and then only ever hold what a login left
(`contextsOk_run`); the copy is the manager's context as it was before the
last request to the user manager (`httpStep_cases`).

Key definitions: `ServerState`, `Request`, `httpStep`, `serverStep`,
`callbackRuns`, `Request.loginOf`.
Key theorems: `httpStep_cases`, `contextsOk_run`, `sessionStored_run`.
-/
import WtslCore.Http.Routing
import WtslCore.Lib.Run

namespace WtslCore

open Runs

/-- The server between two requests. -/
structure ServerState where
  user : UserState
  /-- The HTTP module's static `g_user_ctx`. -/
  httpCtx : UserContext
  nodes : Option (List Node)
  splink : SplinkInfo

/-- The server after start-up, before any request. -/
def ServerState.start (db : UserTable) (nodes : Option (List Node)) (splink : SplinkInfo) :
    ServerState :=
  ⟨⟨db, .zero⟩, .zero, nodes, splink⟩

/-- A request with its body as `cJSON_Parse` reads it. -/
structure Request where
  method : Method
  url : CStr
  authHdr : Option CStr
  isComplete : Bool
  body : Option Json
  env : UserEnv

/-- Where the request goes. -/
def Request.route (r : Request) (nodes : Option (List Node)) : Routed :=
  requestHandler nodes r.method r.url r.authHdr r.isComplete

/-- The effect of a request on the contexts and the user table. -/
def httpStep (md5 : CStr → CStr) (s : ServerState) (r : Request) : Option ServerState :=
  match r.route s.nodes with
  | .fault => none
  | .error | .stale | .noRoute | .call _ _ => some s
  | .user route =>
    -- `g_user_ctx = wtsl_core_user_get_context()` comes before the handler
    let s := { s with httpCtx := s.user.ctx }
    match route with
    | none => some s
    | some route => (route.run md5 s.user r.body r.env).map fun p => { s with user := p.1 }

/-- What happens to the server. -/
inductive ServerEvent
  | request (r : Request)
  /-- The device changes its nodes or its own description. -/
  | device (nodes : Option (List Node)) (splink : SplinkInfo)

/-- One event. -/
def serverStep (md5 : CStr → CStr) (s : ServerState) : ServerEvent → Option ServerState
  | .request r => httpStep md5 s r
  | .device nodes splink => some { s with nodes := nodes, splink := splink }

/-- The request makes `interface_wrapper` run the real callback of `func`. -/
def callbackRuns (s : ServerState) (r : Request) (func : NodeFunc) (node : Node) : Prop :=
  r.route s.nodes = .call func node ∧ interfaceWrapper s.splink node func s.httpCtx = .callback

/-- The row of the user the request logs in, if it is a login that succeeds. -/
def Request.loginOf (r : Request) (s : ServerState) : Option Row :=
  match r.route s.nodes with
  | .user (some .login) => loginRow s.user.db r.body r.env
  | _ => none

/-- A login under `POST`, with the clock and the salt it meets. -/
def Request.login (user pwd : CStr) (ts : ℕ) (salt : CStr) : Request :=
  ⟨.post, "/api/v1/user/login".toList, none, true,
    some (.object [("username".toList, .string user), ("password".toList, .string pwd)]),
    ⟨.null, .null, ts, salt⟩⟩

variable {md5 : CStr → CStr} {s s' : ServerState} {r : Request}

/-! ### What a request can do -/

/-- A request to the user manager copies the context and then runs a login or
leaves the context alone; any other request changes nothing. -/
theorem httpStep_cases (h : httpStep md5 s r = some s') :
    (s' = s ∧ r.loginOf s = none ∧ ∀ route, r.route s.nodes ≠ .user route) ∨
      ((∃ route, r.route s.nodes = .user route) ∧ s'.httpCtx = s.user.ctx ∧ s'.nodes = s.nodes ∧
        s'.splink = s.splink ∧
        ((r.loginOf s = none ∧ s'.user.ctx = s.user.ctx ∧ KeepsRows s.user.db s'.user.db) ∨
          ∃ row token, r.loginOf s = some row ∧ dbFind s.user.db row.username = some row ∧
            s'.user.db = dbUpdateUserToken s.user.db row.username token ∧
            s'.user.ctx = rowContext row token)) := by
  unfold httpStep at h
  cases hr : r.route s.nodes with
  | fault => simp [hr] at h
  | error | stale | noRoute | call func node =>
    left
    simp only [hr, Option.some.injEq] at h
    exact ⟨h.symm, by simp [Request.loginOf, hr], by simp⟩
  | user route =>
    right
    simp only [hr] at h
    refine ⟨⟨route, rfl⟩, ?_⟩
    cases route with
    | none =>
      obtain rfl := Option.some.inj h
      exact ⟨rfl, rfl, rfl, Or.inl ⟨by simp [Request.loginOf, hr], rfl, KeepsRows.refl _⟩⟩
    | some route =>
      obtain ⟨⟨u, resp⟩, hrun, rfl⟩ := Option.map_eq_some_iff.mp h
      refine ⟨rfl, rfl, rfl, ?_⟩
      rcases run_cases hrun with ⟨rfl, row, token, hrow, hfind, hdb, hctx⟩ | ⟨hno, hctx, hkeep⟩
      · exact Or.inr ⟨row, token, by simpa [Request.loginOf, hr] using hrow, hfind, hdb, hctx⟩
      · refine Or.inl ⟨?_, hctx, hkeep⟩
        unfold Request.loginOf
        rw [hr]
        split
        · rename_i heq
          rw [Routed.user.injEq, Option.some.injEq] at heq
          exact hno heq
        · rfl

/-- A permission that comes from a login, or none. -/
def ContextOk (ctx : UserContext) : Prop :=
  ctx.permission = .none ∨ ctx.permission = loginPermission ctx.groupId

/-- Every step keeps both contexts to what logins leave. -/
theorem contextsOk_step {e : ServerEvent} (hc : ContextOk s.user.ctx ∧ ContextOk s.httpCtx)
    (h : serverStep md5 s e = some s') : ContextOk s'.user.ctx ∧ ContextOk s'.httpCtx := by
  cases e with
  | device nodes splink =>
    obtain rfl := Option.some.inj h
    exact hc
  | request r =>
    rcases httpStep_cases h with ⟨rfl, -, -⟩ | ⟨-, hcopy, -, -, ⟨-, hctx, -⟩ | ⟨row, token, -, -, -, hctx⟩⟩
    · exact hc
    · rw [hcopy, hctx]
      exact ⟨hc.1, hc.1⟩
    · rw [hcopy, hctx]
      exact ⟨Or.inr rfl, hc.1⟩

theorem contextsOk_run {ok : ServerState → ServerEvent → Prop} {db : UserTable}
    {nodes : Option (List Node)} {g : SplinkInfo} {es : List ServerEvent}
    (hrun : Run (serverStep md5) ok (.start db nodes g) es s) :
    ContextOk s.user.ctx ∧ ContextOk s.httpCtx :=
  hrun.invariant (I := fun s => ContextOk s.user.ctx ∧ ContextOk s.httpCtx)
    ⟨Or.inl rfl, Or.inl rfl⟩ fun _ _ _ hc _ hs => contextsOk_step hc hs

/-- The token of the manager's context is stored for a user of its group. -/
def SessionStored (u : UserState) : Prop :=
  u.ctx.permission = .none ∨ ∃ row ∈ u.db.rows, row.token = some u.ctx.token ∧ row.gid = u.ctx.groupId

theorem sessionStored_step {e : ServerEvent} (hS : SessionStored s.user)
    (h : serverStep md5 s e = some s') : SessionStored s'.user := by
  cases e with
  | device nodes splink =>
    obtain rfl := Option.some.inj h
    exact hS
  | request r =>
    rcases httpStep_cases h with
      ⟨rfl, -, -⟩ | ⟨-, -, -, -, ⟨-, hctx, hkeep⟩ | ⟨row, token, -, hfind, hdb, hctx⟩⟩
    · exact hS
    · unfold SessionStored at hS ⊢
      rw [hctx]
      rcases hS with hnone | ⟨row, hmem, htok, hgid⟩
      · exact Or.inl hnone
      · obtain ⟨row', hmem', htok', hgid'⟩ := hkeep row hmem
        exact Or.inr ⟨row', hmem', htok'.trans htok, hgid'.trans hgid⟩
    · right
      rw [hctx, hdb]
      refine ⟨{ row with token := some token }, ?_, rfl, rfl⟩
      have hup := dbFind_update (f := fun r => { r with token := some token }) (fun _ => rfl) hfind
      exact (dbFind_mem hup).1

/-- The last login's token stays stored until the next login: comparing a
request's token with the table would accept it. -/
theorem sessionStored_run {ok : ServerState → ServerEvent → Prop} {db : UserTable}
    {nodes : Option (List Node)} {g : SplinkInfo} {es : List ServerEvent}
    (hrun : Run (serverStep md5) ok (.start db nodes g) es s) : SessionStored s.user :=
  hrun.invariant (I := fun s => SessionStored s.user) (Or.inl rfl)
    fun _ _ _ hS _ hs => sessionStored_step hS hs

/-! ### Two logins of the administrator -/

/-- The first login of the administrator. -/
def firstLogin : Request :=
  .login "admin".toList "123456".toList 1700000000 "Qw3rTy8uIo2pAs5d".toList

/-- The second one, a minute later. -/
def secondLogin : Request :=
  .login "admin".toList "123456".toList 1700000060 "Zx9cVb4nMm1lKj7h".toList

/-- MD5 on the texts of the two tokens. -/
def loginMd5 (text : CStr) : CStr :=
  if text = "admin_1700000000_Qw3rTy8uIo2pAs5d".toList then "1b88f268f2d99dc4c56c2da2303a2d5e".toList
  else if text = "admin_1700000060_Zx9cVb4nMm1lKj7h".toList then
    "5088c170c6a2aaf1a9da742786081d6d".toList
  else []

/-- The server after both logins: the table and the manager's context have the
second token, the copy has the first one. -/
def afterLogins : ServerState where
  user :=
    { db := ⟨[⟨1, "admin".toList, "123456".toList, 0, some "5088c170c6a2aaf1a9da742786081d6d".toList,
        1699999999⟩], 2⟩
      ctx := ⟨1, 0, 1699999999, "5088c170c6a2aaf1a9da742786081d6d".toList, .admin⟩ }
  httpCtx := ⟨1, 0, 1699999999, "1b88f268f2d99dc4c56c2da2303a2d5e".toList, .admin⟩
  nodes := some NodeState.alone.list
  splink := NodeState.alone.splink

theorem run_logins : Run (serverStep loginMd5) (fun _ _ => True)
    (.start initDb (some NodeState.alone.list) NodeState.alone.splink)
    [.request firstLogin, .request secondLogin] afterLogins :=
  .of_exec rfl

end WtslCore
