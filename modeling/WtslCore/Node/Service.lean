/-
# The heartbeat service

`parse_data_heartbeat` adds a node for a MAC it does not know and otherwise
hands the report to `update_heartbeat`, which looks for the sender's address.
The state watcher refreshes the basic info of the local device and copies it
to the first node with its MAC. Both loops of the service ask for the ids
0, 1, … in turn; on a dense list they walk the list
(`isNodeNotExist_dense`, `updateHeartbeat_dense`).

Key definitions: `Heartbeat`, `isNodeNotExist`, `updateHeartbeat`,
`parseDataHeartbeat`, `NodeState`, `NodeEvent`, `NodeState.step`,
`NodeState.start`.
Key theorems: `parseDataHeartbeat_new`, `parseDataHeartbeat_known`,
`dense_step`.
-/
import WtslCore.Lib.Run
import WtslCore.Node.Manager

namespace WtslCore

/-- A heartbeat datagram as it is handled: the info it carries, its sender and
the time it is received. -/
structure Heartbeat where
  info : NodeInfo
  addr : SockAddrIn
  time : ℕ
  deriving DecidableEq

/-- The MAC a heartbeat reports. -/
def Heartbeat.mac (h : Heartbeat) : CharArray 18 := h.info.basicInfo.mac

/-- `is_node_not_exist`, as the truth of its result. -/
def isNodeNotExist (l : List Node) (info : NodeInfo) : Bool :=
  (List.range l.length).all fun i =>
    match findWtslNodeById l i with
    | none => true
    | some n => n.mac != info.basicInfo.mac

/-- What `update_heartbeat` writes to the node it finds. -/
def Node.report (h : Heartbeat) (n : Node) : Node :=
  { n with lastHeartbeat := h.time, active := true, info := h.info }

/-- `update_heartbeat`. -/
def updateHeartbeat (l : List Node) (h : Heartbeat) : List Node :=
  let matching (i : ℕ) : Bool :=
    match findWtslNodeById l i with
    | none => false
    | some n => n.addr == h.addr
  match (List.range l.length).find? matching with
  | none => l
  | some i => updateFirst (fun n => (n.id : ℤ) == i) (Node.report h) l

/-- The node `parse_data_heartbeat` adds. -/
def Heartbeat.newNode (h : Heartbeat) (nodeCount : ℕ) : Node :=
  ⟨nodeCount, true, h.addr, h.time, h.info⟩

/-- `parse_data_heartbeat`. -/
def parseDataHeartbeat (l : List Node) (h : Heartbeat) : List Node :=
  if isNodeNotExist l h.info then l ++ [h.newNode l.length] else updateHeartbeat l h

/-- What the watcher reads from the device: state and number of users if the
driver prints them, the channel (0 if unknown), the version text and the rssi
of a terminal. -/
structure Probe where
  users : Option (ℤ × ℤ)
  channel : ℤ
  version : CharArray 32
  rssi : ℤ

/-- `wtsl_core_get_splink_info`. -/
def wtslCoreGetSplinkInfo (g : SplinkInfo) (p : Probe) : SplinkInfo :=
  let linkState := (p.users.map Prod.fst).getD g.linkState
  { g with
    linkState := linkState
    userNum := (p.users.map Prod.snd).getD g.userNum
    basicInfo :=
      { g.basicInfo with
        channel := if p.channel ≠ 0 then p.channel else g.basicInfo.channel
        version := p.version
        rssi := if g.nodeType = .tnode ∧ linkState = 1 then p.rssi else g.basicInfo.rssi } }

/-- The node list and the description of the local device. -/
structure NodeState where
  list : List Node
  splink : SplinkInfo

/-- `update_wtsl_node_basicinfo` with basic info of the local device. -/
def NodeState.publish (s : NodeState) (b : BasicInfo) : NodeState :=
  { s with list := updateWtslNodeBasicinfo s.list b }

/-- What happens to the list: a heartbeat arrives, the watcher wakes up. -/
inductive NodeEvent
  | heartbeat (h : Heartbeat)
  | refresh (p : Probe)

/-- One event; the loop body of `wtsl_core_splink_state_watcher` for a
refresh. -/
def NodeState.step (s : NodeState) : NodeEvent → NodeState
  | .heartbeat h => { s with list := parseDataHeartbeat s.list h }
  | .refresh p =>
    let splink := wtslCoreGetSplinkInfo s.splink p
    ⟨updateWtslNodeBasicinfo s.list splink.basicInfo, splink⟩

/-- `NodeState.step` as the step of a run; it is defined on every event. -/
def nodeStep (s : NodeState) (e : NodeEvent) : Option NodeState := some (s.step e)

/-- The state `wtsl_core_splink_node_service` leaves: the local node alone,
with what the allocation held in the fields not written. -/
def NodeState.start (g : SplinkInfo) (connInfo : ConnInfo) (active : Bool) (addr : SockAddrIn)
    (lastHeartbeat : ℕ) : NodeState :=
  ⟨[⟨0, active, addr, lastHeartbeat, ⟨g.basicInfo, connInfo⟩⟩], g⟩

/-- A device with its address, alone in its list. -/
def NodeState.alone : NodeState :=
  .start (.blank "0a:00:00:00:00:01".toList (by decide)) ⟨0, 0, 0⟩ false ⟨0x0a000001, 9000⟩ 0

/-- A heartbeat that reports a MAC and nothing else. -/
def Heartbeat.blank (mac : CStr) (addr : SockAddrIn) (time : ℕ) : Heartbeat :=
  ⟨⟨.blank mac, ⟨0, 0, 0⟩⟩, addr, time⟩

variable {l : List Node} {h : Heartbeat}

/-! ### The two loops on a dense list -/

theorem isNodeNotExist_dense (hd : Dense l) :
    isNodeNotExist l h.info = true ↔ ∀ n ∈ l, n.mac ≠ h.mac := by
  unfold isNodeNotExist
  rw [List.all_eq_true]
  constructor
  · intro hall n hn
    obtain ⟨i, hi⟩ := List.mem_iff_getElem?.mp hn
    have hlt : i < l.length := (List.getElem?_eq_some_iff.mp hi).1
    have := hall i (List.mem_range.mpr hlt)
    rw [findWtslNodeById_dense hd, hi] at this
    simpa [Heartbeat.mac] using this
  · intro hne i hi
    rw [findWtslNodeById_dense hd]
    cases hl : l[i]? with
    | none => rfl
    | some n => simpa [Heartbeat.mac] using hne n (List.mem_of_getElem? hl)

theorem updateHeartbeat_dense (hd : Dense l) :
    updateHeartbeat l h = updateFirst (fun n => n.addr == h.addr) (Node.report h) l := by
  have hlook : ∀ i : ℕ, (match findWtslNodeById l i with
      | none => false
      | some n => n.addr == h.addr) = (l[i]?.map fun n => n.addr == h.addr).getD false := by
    intro i
    rw [findWtslNodeById_dense hd]
    cases l[i]? <;> rfl
  unfold updateHeartbeat
  simp only [hlook]
  split
  · rename_i hf
    rw [updateFirst_of_none]
    rw [List.find?_eq_none] at hf ⊢
    intro n hn
    obtain ⟨i, hi⟩ := List.mem_iff_getElem?.mp hn
    have hlt : i < l.length := (List.getElem?_eq_some_iff.mp hi).1
    simpa [hi] using hf i (List.mem_range.mpr hlt)
  · rename_i i hf
    rw [List.find?_range_eq_some] at hf
    obtain ⟨hp, hlt, hb⟩ := hf
    rw [List.mem_range] at hlt
    have hi : l[i]? = some l[i] := List.getElem?_eq_getElem hlt
    -- both updates hit the node at place `i`
    rw [updateFirst_eq_set (p := fun n => n.addr == h.addr) hi (by simpa [hi] using hp) ?_,
      updateFirst_eq_set hi (by simp [hd.id_eq hi]) ?_]
    · intro j hj n hn
      have := hd.id_eq hn
      simp
      omega
    · intro j hj n hn
      simpa [hn] using hb j hj

/-- A new MAC adds a node at the end. -/
theorem parseDataHeartbeat_new (hd : Dense l) (hn : ∀ n ∈ l, n.mac ≠ h.mac) :
    parseDataHeartbeat l h = l ++ [h.newNode l.length] := by
  unfold parseDataHeartbeat
  rw [if_pos ((isNodeNotExist_dense hd).mpr hn)]

/-- A known MAC updates the first node at the sender's address. -/
theorem parseDataHeartbeat_known (hd : Dense l) {n : Node} (hn : n ∈ l) (hm : n.mac = h.mac) :
    parseDataHeartbeat l h = updateFirst (fun n => n.addr == h.addr) (Node.report h) l := by
  unfold parseDataHeartbeat
  rw [if_neg (fun hc => (isNodeNotExist_dense hd).mp hc n hn hm), updateHeartbeat_dense hd]

/-! ### What every event keeps -/

/-- Neither branch of a heartbeat breaks the numbering. -/
theorem dense_parseDataHeartbeat (hd : Dense l) : Dense (parseDataHeartbeat l h) := by
  by_cases hex : ∃ n ∈ l, n.mac = h.mac
  · obtain ⟨n, hn, hm⟩ := hex
    rw [parseDataHeartbeat_known hd hn hm]
    exact hd.of_map_eq (map_updateFirst _ fun _ _ => rfl)
  · rw [parseDataHeartbeat_new hd fun n hn hm => hex ⟨n, hn, hm⟩]
    exact hd.snoc rfl

theorem dense_step {s : NodeState} (hd : Dense s.list) (e : NodeEvent) : Dense (s.step e).list := by
  cases e with
  | heartbeat h => exact dense_parseDataHeartbeat hd
  | refresh p => exact hd.of_map_eq (map_updateFirst _ fun _ _ => rfl)

/-- The watcher reads the local MAC nowhere. -/
@[simp] theorem mac_wtslCoreGetSplinkInfo (g : SplinkInfo) (p : Probe) :
    (wtslCoreGetSplinkInfo g p).basicInfo.mac = g.basicInfo.mac := rfl

/-- No event empties the list. -/
theorem ne_nil_step {s : NodeState} (hne : s.list ≠ []) (hd : Dense s.list) (e : NodeEvent) :
    (s.step e).list ≠ [] := by
  have hpos : 0 < s.list.length := List.length_pos_iff.mpr hne
  refine List.length_pos_iff.mp ?_
  cases e with
  | heartbeat h =>
    simp only [NodeState.step]
    by_cases hex : ∃ n ∈ s.list, n.mac = h.mac
    · obtain ⟨n, hn, hm⟩ := hex
      rw [parseDataHeartbeat_known hd hn hm, length_updateFirst]
      exact hpos
    · rw [parseDataHeartbeat_new hd fun n hn hm => hex ⟨n, hn, hm⟩]
      simp
  | refresh p =>
    simp only [NodeState.step, updateWtslNodeBasicinfo, length_updateFirst]
    exact hpos

theorem dense_start (g : SplinkInfo) (c : ConnInfo) (a : Bool) (addr : SockAddrIn) (t : ℕ) :
    Dense (NodeState.start g c a addr t).list := rfl

/-- The watcher finds a local node at the head of the list. -/
theorem updateWtslNodeBasicinfo_head {n : Node} {b : BasicInfo} (hm : n.mac = b.mac) :
    updateWtslNodeBasicinfo (n :: l) b = { n with info := { n.info with basicInfo := b } } :: l := by
  have : macHasPrefix (cstr b.mac.val) n = true :=
    macHasPrefix_of_eq (hm ▸ strcasecmpEq_self _)
  simp [updateWtslNodeBasicinfo, updateFirst, this]

end WtslCore
