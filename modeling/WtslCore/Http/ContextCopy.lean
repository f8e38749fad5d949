/-
# The copy of the context is one request old

`interface_wrapper` checks the HTTP module's copy of the user context. A
request to the user manager takes the copy before its handler runs, so after
any sequence of such requests the copy has what was granted before the last
one that was accepted. It agrees with the last login's grant exactly unless
that last accepted request is a login that succeeds with another permission
(`permission_agrees_iff`).

Key definitions: `granted`, `Request.accepted`, `LastChanges`.
Key theorems: `contexts_run`, `permission_agrees_iff`.
-/
import WtslCore.Http.Server

namespace WtslCore

open Runs

/-- The permission a request grants: of the user's group after a login that
succeeds, else what was granted before. -/
def Request.grant (r : Request) (s : ServerState) (p : PermissionLevel) : PermissionLevel :=
  match r.loginOf s with
  | some row => loginPermission row.gid
  | none => p

/-- The permission granted by the last successful login of a sequence of
requests from `s` on, `p` if there is none. -/
def granted (md5 : CStr → CStr) (s : ServerState) (p : PermissionLevel) :
    List Request → PermissionLevel
  | [] => p
  | r :: rs =>
    match httpStep md5 s r with
    | none => r.grant s p
    | some s' => granted md5 s' (r.grant s p) rs

/-- The request reaches the user manager. -/
def Request.accepted (r : Request) (nodes : Option (List Node)) : Prop :=
  ∃ route, r.route nodes = .user route

/-- The last request of the sequence that is accepted is a login that succeeds
with another permission than the one granted before it. -/
def LastChanges (md5 : CStr → CStr) (s₀ : ServerState) (rs : List Request) : Prop :=
  ∃ rs₁ r rs₂ s row, rs = rs₁ ++ r :: rs₂ ∧ exec (httpStep md5) s₀ rs₁ = some s ∧
    r.loginOf s = some row ∧ loginPermission row.gid ≠ granted md5 s₀ .none rs₁ ∧
    ∀ r' ∈ rs₂, ¬ r'.accepted s₀.nodes

variable {md5 : CStr → CStr} {s s' s₀ : ServerState} {r : Request} {rs : List Request}

theorem granted_snoc : ∀ {rs : List Request} {s₀ : ServerState} {p : PermissionLevel},
    exec (httpStep md5) s₀ rs = some s →
    granted md5 s₀ p (rs ++ [r]) = r.grant s (granted md5 s₀ p rs)
  | [], s₀, p, h => by
    obtain rfl : s₀ = s := Option.some.inj h
    simp only [List.nil_append, granted]
    split <;> rfl
  | r' :: rs, s₀, p, h => by
    obtain ⟨s₁, h1, h2⟩ := Option.bind_eq_some_iff.mp h
    simp only [List.cons_append, granted, h1]
    exact granted_snoc h2

/-- A login is an accepted request. -/
theorem accepted_of_loginOf {row : Row} (h : r.loginOf s = some row) : r.accepted s.nodes := by
  unfold Request.loginOf at h
  split at h
  · rename_i hr
    exact ⟨_, hr⟩
  · simp at h

/-- The last element of a list with a distinguished one is that one or comes
after it. -/
theorem snoc_eq_append_cons {α : Type*} {xs xs₁ xs₂ : List α} {x y : α}
    (h : xs ++ [x] = xs₁ ++ y :: xs₂) :
    (xs₂ = [] ∧ xs = xs₁ ∧ x = y) ∨ ∃ xs₃, xs₂ = xs₃ ++ [x] ∧ xs = xs₁ ++ y :: xs₃ := by
  rcases List.eq_nil_or_concat xs₂ with rfl | ⟨xs₃, z, rfl⟩
  · obtain ⟨h1, h2⟩ := List.append_inj' h rfl
    exact Or.inl ⟨rfl, h1, by simpa using h2⟩
  · rw [List.concat_eq_append, ← List.cons_append, ← List.append_assoc] at h
    obtain ⟨h1, h2⟩ := List.append_inj' h rfl
    obtain rfl : x = z := by simpa using h2
    exact Or.inr ⟨xs₃, List.concat_eq_append, h1⟩

/-! ### One more request -/

/-- A refused request leaves the last accepted one the last. -/
theorem lastChanges_snoc_refused (hr : ¬ r.accepted s₀.nodes)
    (hnodes : ∀ rs s, exec (httpStep md5) s₀ rs = some s → s.nodes = s₀.nodes) :
    LastChanges md5 s₀ (rs ++ [r]) ↔ LastChanges md5 s₀ rs := by
  constructor
  · rintro ⟨rs₁, r', rs₂, s, row, heq, hexec, hlogin, hne, hlast⟩
    rcases snoc_eq_append_cons heq with ⟨-, -, rfl⟩ | ⟨rs₃, rfl, rfl⟩
    · exact absurd (hnodes _ _ hexec ▸ accepted_of_loginOf hlogin) hr
    · exact ⟨rs₁, r', rs₃, s, row, rfl, hexec, hlogin, hne,
        fun r₃ h => hlast r₃ (List.mem_append_left _ h)⟩
  · rintro ⟨rs₁, r', rs₂, s, row, rfl, hexec, hlogin, hne, hlast⟩
    refine ⟨rs₁, r', rs₂ ++ [r], s, row, by simp, hexec, hlogin, hne, fun r₃ h => ?_⟩
    rcases List.mem_append.mp h with h | h
    · exact hlast r₃ h
    · exact List.mem_singleton.mp h ▸ hr

/-- After an accepted request only that one counts. -/
theorem lastChanges_snoc_accepted (hr : r.accepted s₀.nodes)
    (hexec : exec (httpStep md5) s₀ rs = some s) :
    LastChanges md5 s₀ (rs ++ [r]) ↔
      ∃ row, r.loginOf s = some row ∧ loginPermission row.gid ≠ granted md5 s₀ .none rs := by
  constructor
  · rintro ⟨rs₁, r', rs₂, s₁, row, heq, hexec₁, hlogin, hne, hlast⟩
    rcases snoc_eq_append_cons heq with ⟨-, rfl, rfl⟩ | ⟨rs₃, rfl, rfl⟩
    · obtain rfl : s₁ = s := Option.some.inj (hexec₁.symm.trans hexec)
      exact ⟨row, hlogin, hne⟩
    · exact absurd hr (hlast r (List.mem_append_right _ (List.mem_singleton_self _)))
  · rintro ⟨row, hlogin, hne⟩
    exact ⟨rs, r, [], s, row, rfl, hexec, hlogin, hne, by simp⟩

/-! ### The contexts along a sequence -/

/-- No request changes the list of nodes. -/
theorem nodes_httpStep (h : httpStep md5 s r = some s') : s'.nodes = s.nodes := by
  rcases httpStep_cases h with ⟨rfl, -, -⟩ | ⟨-, -, hn, -⟩
  · rfl
  · exact hn

theorem nodes_exec : ∀ {rs : List Request} {s₀ : ServerState},
    exec (httpStep md5) s₀ rs = some s → s.nodes = s₀.nodes
  | [], s₀, h => by rw [Option.some.inj h]
  | r :: rs, s₀, h => by
    obtain ⟨s₁, h1, h2⟩ := Option.bind_eq_some_iff.mp h
    rw [nodes_exec h2, nodes_httpStep h1]

/-- The manager's context has the last grant; the copy has it unless the last
accepted request changed it. -/
theorem contexts_run {ok : ServerState → Request → Prop} {db : UserTable}
    {nodes : Option (List Node)} {g : SplinkInfo}
    (hrun : Run (httpStep md5) ok (.start db nodes g) rs s) :
    s.user.ctx.permission = granted md5 (.start db nodes g) .none rs ∧
      (s.httpCtx.permission = granted md5 (.start db nodes g) .none rs ↔
        ¬ LastChanges md5 (.start db nodes g) rs) := by
  induction hrun with
  | nil =>
    refine ⟨rfl, iff_of_true rfl ?_⟩
    rintro ⟨rs₁, r, rs₂, s, row, heq, -⟩
    simp at heq
  | @snoc rs s s' r hrun _ hs ih =>
    have hexec := hrun.exec_eq
    have hn : s.nodes = (ServerState.start db nodes g).nodes := nodes_exec hexec
    obtain ⟨ihm, ihc⟩ := ih
    rw [granted_snoc hexec]
    rcases httpStep_cases hs with ⟨rfl, hno, hnot⟩ | ⟨⟨route, hroute⟩, hcopy, -, -, hlogin⟩
    · have hr : ¬ r.accepted (ServerState.start db nodes g).nodes := by
        rw [← hn]
        rintro ⟨route, hroute⟩
        exact hnot route hroute
      rw [lastChanges_snoc_refused hr fun _ _ h => nodes_exec h, Request.grant, hno]
      exact ⟨ihm, ihc⟩
    · have hr : r.accepted (ServerState.start db nodes g).nodes := hn ▸ ⟨route, hroute⟩
      rw [lastChanges_snoc_accepted hr hexec, hcopy, ihm, Request.grant]
      rcases hlogin with ⟨hno, hctx, -⟩ | ⟨row, token, hrow, -, -, hctx⟩
      · rw [hctx, hno]
        exact ⟨ihm, iff_of_true rfl (by simp)⟩
      · rw [hctx, hrow]
        refine ⟨rfl, ?_⟩
        simp only [Option.some.injEq, exists_eq_left', not_not]
        exact eq_comm

/-- After any sequence of requests, the permission the wrapper checks is the
one the last successful login granted, unless the last accepted request is a
login that succeeds and grants another one than the sequence before it. -/
theorem permission_agrees_iff {db : UserTable} {nodes : Option (List Node)} {g : SplinkInfo}
    (h : exec (httpStep md5) (.start db nodes g) rs = some s) :
    s.httpCtx.permission = granted md5 (.start db nodes g) .none rs ↔
      ¬ LastChanges md5 (.start db nodes g) rs :=
  (contexts_run (Run.of_exec h)).2

/-- A second login of the administrator brings the copy up to date. -/
theorem permission_agrees_second_login :
    ¬ LastChanges loginMd5 (.start initDb (some NodeState.alone.list) NodeState.alone.splink)
      [firstLogin, secondLogin] :=
  (permission_agrees_iff (s := afterLogins) rfl).mp rfl

/-- The first login grants everything and the wrapper still sees no permission. -/
theorem permission_stale_first_login :
    ∃ s, exec (httpStep loginMd5)
        (.start initDb (some NodeState.alone.list) NodeState.alone.splink) [firstLogin] = some s ∧
      s.httpCtx.permission = .none ∧
      granted loginMd5 (.start initDb (some NodeState.alone.list) NodeState.alone.splink) .none
        [firstLogin] = .admin :=
  ⟨_, rfl, rfl, rfl⟩

end WtslCore
