/-
# A device and its description

The description of a device, `global_node_info`, is written by the watcher and
by the handlers that set something. Three kinds of threads copy it: the heartbeat thread
into a request, the receive thread into an answer, and who has written it into
the node list. Neither the answer nor a handler takes the mutex, so the
description can change while it is copied: each byte of a copy is what stood
there at some moment since the thread began (`Torn`).

A round of the watcher is a write and a copy into the list
(`step_refresh`), and both keep the list the registry of the device
(`tracks_take`).

Key definitions: `Memory`, `Torn`, `Description`, `Copier`, `Device`,
`DeviceEvent`.
Key theorems: `Torn.mac`, `Torn.info`, `tracks_take`.
-/
import WtslCore.Node.Image
import WtslCore.Node.Registry

namespace WtslCore

/-! ### Copies -/

/-- A `WTSLNodeInfo` as it lies in memory. -/
structure Memory where
  bytes : List UInt8
  length_bytes : bytes.length = nodeInfoSize
  deriving DecidableEq

/-- What it says. -/
def Memory.info (m : Memory) : NodeInfo := nodeInfoAt (recvBuf m.bytes) 0

/-- A copy whose bytes are read while the memory is what was seen, now this and
now that. -/
def Torn (seen : List Memory) (c : Memory) : Prop :=
  ∀ k < nodeInfoSize, ∃ m ∈ seen, recvBuf c.bytes k = recvBuf m.bytes k

instance (seen : List Memory) (c : Memory) : Decidable (Torn seen c) :=
  inferInstanceAs (Decidable (∀ k < nodeInfoSize, _))

theorem torn_self (m : Memory) : Torn [m] m := fun _ _ => ⟨m, List.mem_singleton_self m, rfl⟩

section

variable {seen : List Memory} {c : Memory}

/-- **What stays is copied whole**, here the MAC. -/
theorem Torn.mac (h : Torn seen c) {mac : CharArray 18} (hmac : ∀ m ∈ seen, m.info.basicInfo.mac = mac) :
    c.info.basicInfo.mac = mac := by
  refine Subtype.ext (List.ext_getElem? fun i => ?_)
  by_cases hi : i < 18
  · obtain ⟨m, hm, hbyte⟩ := h (0 + 40 + i) (by unfold nodeInfoSize; omega)
    rw [← hmac m hm]
    simp only [Memory.info, nodeInfoAt, charsAt, List.getElem?_map, List.getElem?_range hi,
      Option.map_some, hbyte]
  · have hlen := Nat.not_lt.mp hi
    rw [List.getElem?_eq_none (c.info.basicInfo.mac.property.trans_le hlen),
      List.getElem?_eq_none (mac.property.trans_le hlen)]

/-- Where nothing changes, the copy says the same. -/
theorem Torn.info (h : Torn seen c) {m₀ : Memory} (hsame : ∀ m ∈ seen, m = m₀) : c.info = m₀.info := by
  refine nodeInfoAt_congr fun i _ hi => ?_
  obtain ⟨m, hm, hbyte⟩ := h i (by omega)
  rw [hbyte, hsame m hm]

end

/-! ### Devices -/

/-- `global_node_info`, and how its description lies in memory. -/
structure Description where
  splink : SplinkInfo
  memory : Memory
  shows : memory.info.basicInfo = splink.basicInfo

/-- The threads that copy the description; the watcher and the handlers copy
it into the list. -/
inductive Copier
  | request
  | answer
  | publish (thread : ℕ)
  deriving DecidableEq

/-- A device: its list, its description, what each thread that copies has seen
since it began, whether the heartbeat thread has found a terminal in its round,
and the sender the receive thread has to answer. -/
structure Device where
  list : List Node
  now : Description
  copies : Copier → Option (List Memory)
  asks : Bool
  asked : Option SockAddrIn

/-- The list with the description. -/
def Device.node (d : Device) : NodeState := ⟨d.list, d.now.splink⟩

/-- A thread has copied this. -/
def Device.Copies (d : Device) (k : Copier) (c : Memory) : Prop := ∃ seen ∈ d.copies k, Torn seen c

instance (d : Device) (k : Copier) (c : Memory) : Decidable (d.Copies k c) :=
  inferInstanceAs (Decidable (∃ seen ∈ d.copies k, Torn seen c))

/-- `NODE_TYPE_SLB_G`, as the type in a description. -/
def gatewayType : ℤ := 0

/-- When a thread goes to copy: a terminal asks its gateway, and who was asked
answers. -/
def Device.Ready (d : Device) : Copier → Prop
  | .request => d.asks = true
  | .answer => d.asked ≠ none
  | .publish _ => True

instance (d : Device) : DecidablePred d.Ready
  | .request => inferInstanceAs (Decidable (d.asks = true))
  | .answer => inferInstanceAs (Decidable (d.asked ≠ none))
  | .publish _ => inferInstanceAs (Decidable True)

/-- A thread begins to copy. -/
def Device.begin (d : Device) (k : Copier) : Device :=
  { d with copies := Function.update d.copies k (some [d.now.memory]) }

/-- A thread is done. -/
def Device.finish (d : Device) (k : Copier) : Device :=
  { d with copies := Function.update d.copies k none }

/-- The description is written; who copies sees it. -/
def Device.write (d : Device) (n : Description) : Device :=
  { d with now := n, copies := fun k => (d.copies k).map (n.memory :: ·) }

/-- What happens to the list and the description. -/
inductive DeviceEvent
  | heartbeat (h : Heartbeat)
  | write (g : SplinkInfo)
  | publish (b : BasicInfo)

def NodeState.take (s : NodeState) : DeviceEvent → NodeState
  | .heartbeat h => s.step (.heartbeat h)
  | .write g => { s with splink := g }
  | .publish b => s.publish b

def Registry.take (r : Registry) : DeviceEvent → Registry
  | .heartbeat h => r.step (.heartbeat h)
  | .write g => { r with splink := g }
  | .publish b => r.publish b

/-- A round of the watcher is a write and a copy into the list. -/
theorem step_refresh (s : NodeState) (p : Probe) :
    s.step (.refresh p) =
      (s.take (.write (wtslCoreGetSplinkInfo s.splink p))).take
        (.publish (wtslCoreGetSplinkInfo s.splink p).basicInfo) := rfl

/-- What an event needs: an addressed heartbeat, or the local MAC. -/
def DeviceEvent.Own (s : NodeState) : DeviceEvent → Prop
  | .heartbeat h => Addressed s.list h
  | .write g => g.basicInfo.mac = s.splink.basicInfo.mac
  | .publish b => b.mac = s.splink.basicInfo.mac

/-- **One event** of a device is one of its registry. -/
theorem tracks_take {s : NodeState} {r : Registry} (ht : Tracks s r) {e : DeviceEvent} (he : e.Own s) :
    Tracks (s.take e) (r.take e) := by
  cases e with
  | heartbeat h => exact tracks_heartbeat ht he
  | write g => exact tracks_write ht he
  | publish b => exact tracks_publish ht he

end WtslCore
