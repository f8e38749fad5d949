/-
# The node list

The linked list of nodes with its look-ups by id and by MAC. `WTSLNodeInfo`
is copied as a whole; it is modelled in the fields the service and the answers
read one by one. What a heartbeat carries besides (the count of domains, and
all that stands behind `name`: the domain name, the management address and its
port, the fields of automatic joining, the bridges and the ports of the
transport) is a matter of the image (`Node.Image`) and of what an answer meets
(`Node.Responses`). `mac` is the array of 18 bytes, which need not hold a
terminator when it came off the network; then a string read from it goes on in
the fields behind it, as the record is packed. A socket address is compared as
a whole with `memcmp`, here the address and the port.

The service numbers a new node with the length of the list, so the ids are
the positions (`Dense`) and the look-up by id is indexing
(`findWtslNodeById_dense`).

Key definitions: `Node`, `BasicInfo.macText`, `findWtslNodeById`,
`findWtslNodeByMac`, `updateWtslNodeBasicinfo`, `Dense`.
-/
import Mathlib.Data.List.Range
import WtslCore.Lib.CStr
import WtslCore.Lib.FirstMatch

namespace WtslCore

/-- `WTSLNodeBasicInfo`. -/
structure BasicInfo where
  bw : ℤ
  tfcBw : ℤ
  channel : ℤ
  type : ℤ
  rssi : ℤ
  ip : CharArray 16
  mac : CharArray 18
  version : CharArray 32
  name : CharArray 128
  deriving DecidableEq

/-- A zero-filled record with a MAC. -/
def BasicInfo.blank (mac : CStr) : BasicInfo :=
  ⟨0, 0, 0, 0, 0, .ofStr 16 [], .ofStr 18 mac, .ofStr 32 [], .ofStr 128 []⟩

/-- The string that starts at `name`, with what stands behind the array. -/
def BasicInfo.nameText (b : BasicInfo) (behind : CStr) : CStr := cstr (b.name.val ++ behind)

/-- The string that starts at `version`. -/
def BasicInfo.versionText (b : BasicInfo) (behind : CStr) : CStr :=
  cstr (b.version.val ++ (b.name.val ++ behind))

/-- The string that starts at `mac`. -/
def BasicInfo.macText (b : BasicInfo) (behind : CStr) : CStr :=
  cstr (b.mac.val ++ (b.version.val ++ (b.name.val ++ behind)))

/-- The string that starts at `ip`. -/
def BasicInfo.ipText (b : BasicInfo) (behind : CStr) : CStr :=
  cstr (b.ip.val ++ (b.mac.val ++ (b.version.val ++ (b.name.val ++ behind))))

/-- `WTSLNodeConnInfo`. -/
structure ConnInfo where
  status : ℤ
  rtt : ℤ
  lastSyncTime : ℤ
  deriving DecidableEq

/-- `WTSLNodeInfo`. -/
structure NodeInfo where
  basicInfo : BasicInfo
  connInfo : ConnInfo
  deriving DecidableEq

/-- `struct sockaddr_in` of an IPv4 socket. -/
structure SockAddrIn where
  sinAddr : UInt32
  sinPort : UInt16
  deriving DecidableEq

/-- `WTSLNode`. -/
structure Node where
  id : ℕ
  active : Bool
  addr : SockAddrIn
  lastHeartbeat : ℕ
  info : NodeInfo
  deriving DecidableEq

/-- The key the service compares: all 18 bytes. -/
def Node.mac (n : Node) : CharArray 18 := n.info.basicInfo.mac

/-- `find_wtsl_node_by_id`. -/
def findWtslNodeById (l : List Node) (id : ℤ) : Option Node := l.find? fun n => (n.id : ℤ) == id

/-- The test of `find_wtsl_node_by_mac`: the MAC starts with `mac` up to case.
No MAC that is looked for is longer than the fields up to `name`. -/
def macHasPrefix (mac : CStr) (n : Node) : Bool :=
  strncasecmpEq mac.length (n.info.basicInfo.macText []) mac

/-- `find_wtsl_node_by_mac`. -/
def findWtslNodeByMac (l : List Node) (mac : CStr) : Option Node := l.find? (macHasPrefix mac)

/-- `update_wtsl_node_basicinfo`: the list after it. -/
def updateWtslNodeBasicinfo (l : List Node) (basicInfo : BasicInfo) : List Node :=
  updateFirst (macHasPrefix (cstr basicInfo.mac.val))
    (fun n => { n with info := { n.info with basicInfo := basicInfo } }) l

/-- A terminated array is read to its terminator, another one to its end at least. -/
theorem cstr_prefix_append (a t : List Char) : ∃ u, cstr (a ++ t) = cstr a ++ u ∧ (nul ∈ a → u = []) := by
  by_cases h : nul ∈ a
  · obtain ⟨p, q, rfl, hp⟩ := List.eq_append_cons_of_mem h
    refine ⟨[], ?_, fun _ => rfl⟩
    rw [List.append_assoc, List.cons_append, cstr_append_nul hp, cstr_append_nul hp, List.append_nil]
  · refine ⟨cstr t, ?_, fun hmem => absurd hmem h⟩
    have hall : ∀ c ∈ a, (c != nul) = true := fun c hc => by
      simpa using fun heq : c = nul => h (heq ▸ hc)
    rw [cstr_of_noNul h, cstr, List.takeWhile_append_of_pos hall]
    rfl

/-- A node whose MAC equals the one looked for, up to case, is found by it. -/
theorem macHasPrefix_of_eq {mac : CStr} {n : Node} (h : strcasecmpEq (cstr n.mac.val) mac = true) :
    macHasPrefix mac n = true := by
  obtain ⟨u, hu, -⟩ := cstr_prefix_append n.mac.val
    (n.info.basicInfo.version.val ++ (n.info.basicInfo.name.val ++ []))
  have htext : n.info.basicInfo.macText [] = cstr n.mac.val ++ u := hu
  rw [strcasecmpEq_iff] at h
  have hlen : (cstr n.mac.val).length = mac.length := by simpa using congrArg List.length h
  rw [macHasPrefix, htext, strncasecmpEq, List.take_left' hlen, List.take_length, strcasecmpEq_iff, h]

/-- The ids are the positions. -/
def Dense (l : List Node) : Prop := l.map Node.id = List.range l.length

theorem Dense.id_eq {l : List Node} (h : Dense l) {i : ℕ} {n : Node} (hn : l[i]? = some n) :
    n.id = i := by
  obtain ⟨hi, rfl⟩ := List.getElem?_eq_some_iff.mp hn
  simpa [hi] using congrArg (fun xs => xs[i]?) h

theorem Dense.snoc {l : List Node} (h : Dense l) {n : Node} (hn : n.id = l.length) :
    Dense (l ++ [n]) := by
  unfold Dense at *
  simp [List.range_succ, h, hn]

/-- A list with the same ids is as dense. -/
theorem Dense.of_map_eq {l l' : List Node} (h : Dense l) (hm : l'.map Node.id = l.map Node.id) :
    Dense l' := by
  have hlen : l'.length = l.length := by simpa using congrArg List.length hm
  unfold Dense at *
  rw [hm, h, hlen]

theorem Dense.nodup {l : List Node} (h : Dense l) : (l.map Node.id).Nodup := by
  rw [show l.map Node.id = List.range l.length from h]
  exact List.nodup_range

/-- Two nodes with one id are one node. -/
theorem Dense.eq_of_id {l : List Node} (h : Dense l) {n m : Node} (hn : n ∈ l) (hm : m ∈ l)
    (he : n.id = m.id) : n = m :=
  List.inj_on_of_nodup_map h.nodup hn hm he

/-- With dense ids the look-up by id is indexing. -/
theorem findWtslNodeById_dense {l : List Node} (h : Dense l) (i : ℕ) :
    findWtslNodeById l i = l[i]? := by
  cases hi : l[i]? with
  | none =>
    unfold findWtslNodeById
    rw [List.find?_eq_none]
    intro n hn
    obtain ⟨j, hj⟩ := List.mem_iff_getElem?.mp hn
    have hlt : j < l.length := (List.getElem?_eq_some_iff.mp hj).1
    have hge : l.length ≤ i := List.getElem?_eq_none_iff.mp hi
    have hid := h.id_eq hj
    simp
    omega
  | some n =>
    have hmem : n ∈ l := List.mem_of_getElem? hi
    have hsome : (findWtslNodeById l i).isSome := by
      unfold findWtslNodeById
      rw [List.find?_isSome]
      exact ⟨n, hmem, by simp [h.id_eq hi]⟩
    obtain ⟨m, hm⟩ := Option.isSome_iff_exists.mp hsome
    have hid : m.id = i := by
      have := List.find?_some hm
      simp only [beq_iff_eq] at this
      omega
    rw [hm, h.eq_of_id (List.mem_of_find?_eq_some hm) hmem (hid.trans (h.id_eq hi).symm)]

end WtslCore
