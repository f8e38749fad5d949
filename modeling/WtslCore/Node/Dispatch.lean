/-
# Which node is the local one

An operation addressed to a node id runs its callback here if the node with
that id has the local MAC up to case (`check_is_remote_node`). The id 0 is the
local node's, so the dispatch is right when the nodes with the local MAC are
those with the id 0 (`DispatchOk`).

The service compares MACs byte by byte, the dispatcher up to case, and a
report is written to the node at its sender's address. A heartbeat keeps the
dispatch right exactly if the node it writes, found or new, is local before
and after (`LocalHeartbeat`); a refresh always does, because it finds the node
0 at the head of the list. Run by run: the dispatch stays right as long as
every heartbeat meets the condition, and no longer (`dispatch_local_iff`).

Key definitions: `DispatchOk`, `LocalHeartbeat`, `isLocalMac`.
Key theorems: `localIds_heartbeat_iff`, `localIds_refresh`,
`dispatch_local_iff`.
-/
import WtslCore.Node.Service

namespace WtslCore

open Runs

/-- The MAC is the local one up to case. -/
def isLocalMac (g : SplinkInfo) (m : CharArray 18) : Bool := strcasecmpEq (cstr m.val) g.macStr

/-- Node 0 is there and classified as local, and an operation permitted to the
caller runs the callback exactly on the node with the id 0. -/
def DispatchOk (s : NodeState) : Prop :=
  (∃ n, findWtslNodeById s.list 0 = some n ∧ checkIsRemoteNode s.splink n = false) ∧
    ∀ id n func ctx, findWtslNodeById s.list id = some n →
      checkPermissionUser ctx func.required = true →
      (interfaceWrapper s.splink n func ctx = .callback ↔ id = 0)

/-- The node a heartbeat writes is local before and after, or neither: a new
node has another MAC than the local one, a known MAC is written to node 0 if
it is the local one and to no other node then. -/
def LocalHeartbeat (s : NodeState) (h : Heartbeat) : Prop :=
  if ∃ n ∈ s.list, n.mac = h.mac then
    ∀ n, s.list.find? (fun n => n.addr == h.addr) = some n →
      (isLocalMac s.splink h.mac = true ↔ n.id = 0)
  else isLocalMac s.splink h.mac = false

/-- The condition on a step: heartbeats are as `LocalHeartbeat` says. -/
def LocalStep (s : NodeState) : NodeEvent → Prop
  | .heartbeat h => LocalHeartbeat s h
  | .refresh _ => True

/-- Exactly the nodes with the id 0 have the local MAC. -/
def LocalIds (s : NodeState) : Prop :=
  ∀ n ∈ s.list, (isLocalMac s.splink n.mac = true ↔ n.id = 0)

variable {s : NodeState} {h : Heartbeat}

theorem checkIsRemoteNode_isLocalMac (g : SplinkInfo) (n : Node) :
    checkIsRemoteNode g n = false ↔ isLocalMac g n.mac = true := by
  simp [checkIsRemoteNode, isLocalMac]

/-- On a numbered, non-empty list the dispatch is right when the ids are. -/
theorem dispatchOk_iff (hd : Dense s.list) (hne : s.list ≠ []) : DispatchOk s ↔ LocalIds s := by
  constructor
  · rintro ⟨-, h⟩ n hn
    obtain ⟨i, hi⟩ := List.mem_iff_getElem?.mp hn
    have hid := hd.id_eq hi
    -- the administrator passes every check
    have := h i n .getNodeBasicinfo ⟨0, 0, 0, [], .admin⟩ (by rw [findWtslNodeById_dense hd, hi])
      (by simp [checkPermissionUser, admin_mask_covers])
    rw [interfaceWrapper_callback, checkIsRemoteNode_isLocalMac] at this
    simpa [checkPermissionUser, admin_mask_covers, hid] using this
  · intro h
    constructor
    · obtain ⟨n, l, hl⟩ := List.exists_cons_of_ne_nil hne
      have h0 : s.list[0]? = some n := by rw [hl]; rfl
      refine ⟨n, ?_, ?_⟩
      · rw [show (0 : ℤ) = ((0 : ℕ) : ℤ) from rfl, findWtslNodeById_dense hd, h0]
      · rw [checkIsRemoteNode_isLocalMac, h n (List.mem_of_getElem? h0)]
        exact hd.id_eq h0
    · intro id n func ctx hf hp
      have hid : (n.id : ℤ) = id := by
        have := List.find?_some hf
        simpa using this
      rw [interfaceWrapper_callback, checkIsRemoteNode_isLocalMac, h n (List.mem_of_find?_eq_some hf)]
      simp only [hp, true_and, ← hid]
      omega

/-! ### One step -/

/-- A heartbeat keeps the ids right exactly under its condition. -/
theorem localIds_heartbeat_iff (hd : Dense s.list) (hne : s.list ≠ []) (hI : LocalIds s) :
    LocalIds (s.step (.heartbeat h)) ↔ LocalHeartbeat s h := by
  unfold LocalHeartbeat
  split
  · rename_i hex
    obtain ⟨n, hn, hm⟩ := hex
    have hl : (s.step (.heartbeat h)).list =
        updateFirst (fun n => n.addr == h.addr) (Node.report h) s.list :=
      parseDataHeartbeat_known hd hn hm
    constructor
    · intro hI' x hx
      have hmem : x.report h ∈ (s.step (.heartbeat h)).list := by
        rw [hl]
        exact mem_updateFirst_self hx
      exact hI' _ hmem
    · intro hx x hmem
      rw [hl] at hmem
      rcases mem_updateFirst hmem with hmem | ⟨y, hy, rfl⟩
      · exact hI x hmem
      · exact hx y hy
  · rename_i hex
    have hl : (s.step (.heartbeat h)).list = s.list ++ [h.newNode s.list.length] :=
      parseDataHeartbeat_new hd fun n hn hm => hex ⟨n, hn, hm⟩
    have hlen : 0 < s.list.length := List.length_pos_iff.mpr hne
    have hnew : (isLocalMac s.splink (h.newNode s.list.length).mac = true ↔
        (h.newNode s.list.length).id = 0) ↔ isLocalMac s.splink h.mac = false := by
      have h1 : (h.newNode s.list.length).mac = h.mac := rfl
      have h2 : (h.newNode s.list.length).id ≠ 0 := by simp only [Heartbeat.newNode]; omega
      rw [h1, iff_false_right h2, Bool.not_eq_true]
    rw [← hnew]
    constructor
    · intro hI'
      exact hI' _ (by rw [hl]; exact List.mem_append_right _ (List.mem_singleton_self _))
    · intro hx x hmem
      rw [hl, List.mem_append, List.mem_singleton] at hmem
      rcases hmem with hmem | rfl
      · exact hI x hmem
      · exact hx

/-- A refresh writes the local MAC to node 0, which is at the head. -/
theorem localIds_refresh (hd : Dense s.list) (hI : LocalIds s) (p : Probe) :
    LocalIds (s.step (.refresh p)) := by
  have hloc : ∀ m, isLocalMac (wtslCoreGetSplinkInfo s.splink p) m = isLocalMac s.splink m :=
    fun m => rfl
  intro n hn
  simp only [NodeState.step] at hn ⊢
  rw [hloc]
  rcases mem_updateFirst hn with hn | ⟨x, hx, rfl⟩
  · exact hI n hn
  · have h0 : x.id = 0 := by
      obtain ⟨y, l, hl⟩ := List.exists_cons_of_ne_nil (List.ne_nil_of_mem (List.mem_of_find?_eq_some hx))
      have hy0 : y.id = 0 := hd.id_eq (i := 0) (by rw [hl]; rfl)
      have hy : isLocalMac s.splink y.mac = true := (hI y (by rw [hl]; exact List.mem_cons_self)).mpr hy0
      have hpre : macHasPrefix (cstr (wtslCoreGetSplinkInfo s.splink p).basicInfo.mac.val) y = true :=
        macHasPrefix_of_eq hy
      rw [hl, List.find?_cons, hpre] at hx
      rw [← Option.some.inj hx]
      exact hy0
    simp [Node.mac, isLocalMac, SplinkInfo.macStr, h0]

/-! ### Runs -/

/-- The start: node 0 has the local MAC. -/
theorem localIds_start (g : SplinkInfo) (c : ConnInfo) (a : Bool) (addr : SockAddrIn) (t : ℕ) :
    LocalIds (NodeState.start g c a addr t) := by
  intro n hn
  obtain rfl := List.mem_singleton.mp hn
  simp [NodeState.start, Node.mac, isLocalMac, SplinkInfo.macStr]

/-- A step from a right dispatch to a right dispatch is one under the condition. -/
theorem dispatchOk_step_iff {s s' : NodeState} {e : NodeEvent} (hd : Dense s.list)
    (hne : s.list ≠ []) (hI : DispatchOk s) (hs : nodeStep s e = some s') :
    DispatchOk s' ↔ LocalStep s e := by
  obtain rfl : s.step e = s' := Option.some.inj hs
  have hI := (dispatchOk_iff hd hne).mp hI
  rw [dispatchOk_iff (dense_step hd e) (ne_nil_step hne hd e)]
  cases e with
  | heartbeat h => exact localIds_heartbeat_iff hd hne hI
  | refresh p => exact iff_of_true (localIds_refresh hd hI p) trivial

/-- Local and remote nodes are told apart in every state of a run exactly when
every heartbeat of the run meets the condition. -/
theorem dispatch_local_iff (g : SplinkInfo) (c : ConnInfo) (a : Bool) (addr : SockAddrIn) (t : ℕ) :
    DispatchOk (NodeState.start g c a addr t) ∧ ∀ es s,
      (Run nodeStep LocalStep (NodeState.start g c a addr t) es s → DispatchOk s) ∧
      (Run nodeStep (fun s e => ∀ s', nodeStep s e = some s' → DispatchOk s')
          (NodeState.start g c a addr t) es s ↔
        Run nodeStep LocalStep (NodeState.start g c a addr t) es s) := by
  have hK : ∀ s e s', Dense s.list ∧ s.list ≠ [] → nodeStep s e = some s' →
      Dense s'.list ∧ s'.list ≠ [] := by
    rintro s e s' ⟨hd, hne⟩ hs
    obtain rfl : s.step e = s' := Option.some.inj hs
    exact ⟨dense_step hd e, ne_nil_step hne hd e⟩
  have hstart : Dense (NodeState.start g c a addr t).list ∧
      (NodeState.start g c a addr t).list ≠ [] := ⟨dense_start g c a addr t, by simp [NodeState.start]⟩
  have h0 : DispatchOk (NodeState.start g c a addr t) :=
    (dispatchOk_iff hstart.1 hstart.2).mpr (localIds_start g c a addr t)
  refine ⟨h0, fun es s => ⟨fun hrun => ?_, ?_⟩⟩
  · have := hrun.invariant (I := fun s => (Dense s.list ∧ s.list ≠ []) ∧ DispatchOk s) ⟨hstart, h0⟩
      fun s e s' hI hok hs =>
        ⟨hK s e s' hI.1 hs, (dispatchOk_step_iff hI.1.1 hI.1.2 hI.2 hs).mpr hok⟩
    exact this.2
  · exact Run.stays_iff hstart h0 hK fun s e s' hk hj hs => dispatchOk_step_iff hk.1 hk.2 hj hs

/-- A peer with the local MAC in capitals is a new node to the service and the
local one to the dispatcher: operations on node 1 run the callback here. -/
theorem dispatch_local_peer :
    let peer := Heartbeat.blank "0A:00:00:00:00:01".toList ⟨0x0a000002, 9000⟩ 10
    let s := NodeState.alone.step (.heartbeat peer)
    Run nodeStep (fun _ _ => True) NodeState.alone [.heartbeat peer] s ∧
      (findWtslNodeById s.list 1).map (interfaceWrapper s.splink · .doReboot ⟨1, 0, 0, [], .admin⟩) =
        some .callback ∧
      ¬ DispatchOk s := by
  intro peer s
  have hcall : (findWtslNodeById s.list 1).map
      (interfaceWrapper s.splink · .doReboot ⟨1, 0, 0, [], .admin⟩) = some .callback := by decide
  refine ⟨.single trivial rfl, hcall, fun hok => ?_⟩
  obtain ⟨n, hn, hc⟩ := Option.map_eq_some_iff.mp hcall
  have := (hok.2 1 n .doReboot ⟨1, 0, 0, [], .admin⟩ hn (by decide)).mp hc
  omega

end WtslCore
