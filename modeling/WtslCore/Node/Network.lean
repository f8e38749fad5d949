/-
# The nodes of a network

Every device runs the node service: its watcher and its handlers write its
description, a terminal sends heartbeat requests to its gateway, and who
receives a request answers with its own description. Between the devices
datagrams are lost, delayed, overtaken and doubled: what was sent can be
delivered at any later time, and any number of times.

With addresses and MACs of its own for each device every heartbeat is addressed
(`Addressed`), so each list is the registry of what was delivered to it
(`network_registry`): each device is listed once, under its MAC, with its
address. What is listed of a device was copied by one of its threads, byte by
byte, from what its description was while the thread was at it
(`network_provenance`). Where nothing is written any more and the old datagrams
and copies are gone, who hears from a device knows it as it is
(`network_converges`).

Key definitions: `Packet`, `Network`, `NetAct`, `netStep`, `netEvents`,
`NetTracks`, `CopiedWhile`.
Key theorems: `netStep_spec`, `NetOrigin.step`, `network_registry`,
`network_provenance`, `network_converges`.
-/
import WtslCore.Node.Device

namespace WtslCore

open Runs

/-! ### Devices and datagrams -/

/-- A datagram on its way. -/
structure Packet where
  src : SockAddrIn
  dst : SockAddrIn
  data : List UInt8
  deriving DecidableEq

/-- The devices, and everything that was ever sent. -/
structure Network (ι : Type*) where
  devices : ι → Device
  sent : List Packet

/-- What a thread brings to a heartbeat: the padding of the header, its clock,
and its copy of `global_node_info`, the description in front. -/
structure Outgoing (lay : HeaderLayout) where
  pad : ℕ → UInt8
  now : BitVec (8 * lay.timeSize)
  copy : Memory
  rest : List UInt8
  length_rest : nodeInfoSize + rest.length = lay.splinkInfoSize

def Outgoing.image {lay : HeaderLayout} (o : Outgoing lay) : List UInt8 := o.copy.bytes ++ o.rest

/-- What happens: the heartbeat thread begins a round, a thread begins to copy, a
description is written, a copy goes into the list, to the gateway, or to who
asked, and a datagram is delivered at a time. -/
inductive NetAct (lay : HeaderLayout) (ι : Type*)
  | round (i : ι)
  | begin (i : ι) (k : Copier)
  | write (i : ι) (n : Description)
  | publish (i : ι) (thread : ℕ) (c : Memory)
  | request (i : ι) (gateway : SockAddrIn) (o : Outgoing lay)
  | answer (i : ι) (o : Outgoing lay)
  | deliver (i : ι) (pkt : Packet) (time : ℕ)

section

variable {lay : HeaderLayout} {ι : Type*} [DecidableEq ι]

/-- The datagrams of `send_heartbeat_req` and `send_heartbeat_rsp`. -/
def sendHeartbeat (src dst : SockAddrIn) (type : BitVec 32) (o : Outgoing lay) : List Packet :=
  (sendDataToAddr lay o.pad o.now type o.image).sent.map fun d => ⟨src, dst, d⟩

/-- The heartbeat a datagram is received as. -/
def receivedAs (lay : HeaderLayout) (pkt : Packet) (time : ℕ) : Heartbeat :=
  heartbeatAt lay.toLayout (recvBuf (recvFrom pkt.data).val) pkt.src time

def Network.setDevice (s : Network ι) (i : ι) (d : Device) : Network ι :=
  { s with devices := Function.update s.devices i d }

def Network.send (s : Network ι) (pkts : List Packet) : Network ι := { s with sent := s.sent ++ pkts }

/-- One step, for devices with these addresses. The receive thread handles one
datagram after the other. -/
def netStep (lay : HeaderLayout) (addr : ι → SockAddrIn) (s : Network ι) :
    NetAct lay ι → Option (Network ι)
  | .round i =>
    let d := s.devices i
    some (s.setDevice i { d with asks := decide (d.now.splink.basicInfo.type ≠ gatewayType) })
  | .begin i k =>
    let d := s.devices i
    if d.copies k = none ∧ d.Ready k then some (s.setDevice i (d.begin k)) else none
  | .write i n =>
    let d := s.devices i
    if n.splink.basicInfo.mac = d.now.splink.basicInfo.mac then some (s.setDevice i (d.write n))
    else none
  | .publish i thread c =>
    let d := s.devices i
    if d.Copies (.publish thread) c then
      some (s.setDevice i
        { d.finish (.publish thread) with list := updateWtslNodeBasicinfo d.list c.info.basicInfo })
    else none
  | .request i gateway o =>
    let d := s.devices i
    if d.Copies .request o.copy then
      some ((s.setDevice i { d.finish .request with asks := false }).send
        (sendHeartbeat (addr i) gateway msgHeartbeatReq o))
    else none
  | .answer i o =>
    let d := s.devices i
    d.asked.bind fun dst =>
      if d.Copies .answer o.copy then
        some ((s.setDevice i { d.finish .answer with asked := none }).send
          (sendHeartbeat (addr i) dst msgHeartbeatRsp o))
      else none
  | .deliver i pkt time =>
    let d := s.devices i
    if pkt ∈ s.sent ∧ pkt.dst = addr i ∧ d.asked = none then
      let buf := recvBuf (recvFrom pkt.data).val
      some (s.setDevice i { d with
        list := parseData lay.toLayout d.list pkt.src time buf
        asked := if msgType buf = .heartbeatReq then some pkt.src else none })
    else none

/-- What a step is for a device. -/
def netEvents (i : ι) : NetAct lay ι → List DeviceEvent
  | .write k n => if k = i then [.write n.splink] else []
  | .publish k _ c => if k = i then [.publish c.info.basicInfo] else []
  | .deliver k pkt time => if k = i then [.heartbeat (receivedAs lay pkt time)] else []
  | .round _ => []
  | .begin _ _ => []
  | .request _ _ _ => []
  | .answer _ _ => []

/-- The thread that begins to copy, or is done. -/
def NetAct.thread : NetAct lay ι → Option (ι × Copier)
  | .begin i k => some (i, k)
  | .publish i thread _ => some (i, .publish thread)
  | .request i _ _ => some (i, .request)
  | .answer i _ => some (i, .answer)
  | .round _ => none
  | .write _ _ => none
  | .deliver _ _ _ => none

/-- A device as `wtsl_core_splink_node_service` leaves it. -/
def Device.start (n : Description) (connInfo : ConnInfo) (active : Bool) (addr : SockAddrIn) (t : ℕ) :
    Device where
  list := (NodeState.start n.splink connInfo active addr t).list
  now := n
  copies _ := none
  asks := false
  asked := none

/-- The devices at their start, each with its own address at its node. -/
def Network.start (n : ι → Description) (connInfo : ι → ConnInfo) (active : ι → Bool)
    (addr : ι → SockAddrIn) (t : ι → ℕ) : Network ι :=
  ⟨fun i => .start (n i) (connInfo i) (active i) (addr i) (t i), []⟩

/-! ### One step -/

theorem Outgoing.length_image (o : Outgoing lay) : o.image.length = lay.splinkInfoSize := by
  rw [Outgoing.image, List.length_append, o.copy.length_bytes, o.length_rest]

/-- The description in what is sent is the copy. -/
theorem Outgoing.info_image (o : Outgoing lay) : nodeInfoAt (recvBuf o.image) 0 = o.copy.info := by
  refine nodeInfoAt_congr fun i _ hi => ?_
  unfold Outgoing.image recvBuf
  rw [List.getD_eq_getElem?_getD, List.getD_eq_getElem?_getD,
    List.getElem?_append_left (by rw [o.copy.length_bytes]; omega)]

theorem sendHeartbeat_eq (src dst : SockAddrIn) (type : BitVec 32) (o : Outgoing lay) :
    sendHeartbeat src dst type o = [⟨src, dst, heartbeatBytes lay o.pad o.now type o.image⟩] := by
  unfold sendHeartbeat
  rw [(sendDataToAddr_fits o.length_image).1]
  rfl

/-- A datagram a device sent, with its copy of the description. -/
structure SentBy (lay : HeaderLayout) (pkt : Packet) (src : SockAddrIn) (c : Memory) : Prop where
  src : pkt.src = src
  data : ∃ (type : BitVec 32) (o : Outgoing lay), (type = msgHeartbeatReq ∨ type = msgHeartbeatRsp) ∧
    pkt.data = heartbeatBytes lay o.pad o.now type o.image ∧ o.copy = c

/-- What a device sent is received as its copy, and handled as such. -/
theorem SentBy.received {pkt : Packet} {src : SockAddrIn} {c : Memory} (h : SentBy lay pkt src c)
    (time : ℕ) : (receivedAs lay pkt time).info = c.info ∧ (receivedAs lay pkt time).addr = src ∧
      ∀ l, parseData lay.toLayout l pkt.src time (recvBuf (recvFrom pkt.data).val) =
        parseDataHeartbeat l (receivedAs lay pkt time) := by
  obtain ⟨type, o, htype, hdata, rfl⟩ := h.data
  have hfits := (@sendDataToAddr_fits lay o.pad o.now type _ o.length_image).2
  have hrecv : (recvFrom pkt.data).val = heartbeatBytes lay o.pad o.now type o.image := by
    rw [hdata, recvFrom_of_lt hfits]
  have hreceived : receivedAs lay pkt time = ⟨o.copy.info, pkt.src, time⟩ := by
    unfold receivedAs heartbeatAt
    rw [hrecv, nodeInfoAt_heartbeatBytes, o.info_image]
  rw [hreceived, hrecv]
  refine ⟨rfl, h.src, fun l => ?_⟩
  rw [parseData_heartbeatBytes htype, o.info_image]

theorem sentBy_sendHeartbeat {src dst : SockAddrIn} {type : BitVec 32} {o : Outgoing lay} {pkt : Packet}
    (htype : type = msgHeartbeatReq ∨ type = msgHeartbeatRsp)
    (h : pkt ∈ sendHeartbeat src dst type o) : SentBy lay pkt src o.copy := by
  rw [sendHeartbeat_eq] at h
  obtain rfl := List.mem_singleton.mp h
  exact ⟨rfl, type, o, htype, rfl, rfl⟩

/-- The device that takes a step. -/
def NetAct.device : NetAct lay ι → ι
  | .round i => i
  | .begin i _ => i
  | .write i _ => i
  | .publish i _ _ => i
  | .request i _ _ => i
  | .answer i _ => i
  | .deliver i _ _ => i

/-- What a step is for a device: it takes its events, keeps its MAC, and what
a thread of it has seen begins with what is there, goes on with what is
written, and ends with a step of the thread. -/
structure DeviceStep (a : NetAct lay ι) (i : ι) (d d' : Device) : Prop where
  node : d'.node = (netEvents i a).foldl NodeState.take d.node
  now : (∀ n, a ≠ .write i n) → d'.now = d.now
  written : ∀ n, a = .write i n → d'.now = n ∧ n.splink.basicInfo.mac = d.now.splink.basicInfo.mac
  seen : ∀ k, ∀ seen ∈ d'.copies k, (a = .begin i k ∧ seen = [d'.now.memory]) ∨
    (a.thread ≠ some (i, k) ∧ ∃ old ∈ d.copies k, ∀ m ∈ seen, m ∈ old ∨ m = d'.now.memory)
  published : ∀ b, .publish b ∈ netEvents i a → ∃ k c, d.Copies k c ∧ c.info.basicInfo = b

/-- All that a step does: each device takes its own, what is sent was copied by
a thread of the device, and what is delivered was sent. -/
structure NetStepSpec (lay : HeaderLayout) (addr : ι → SockAddrIn) (s : Network ι) (a : NetAct lay ι)
    (s' : Network ι) : Prop where
  device : ∀ i, DeviceStep a i (s.devices i) (s'.devices i)
  sent : ∀ pkt ∈ s'.sent, pkt ∈ s.sent ∨ ∃ j k c, (s.devices j).Copies k c ∧ SentBy lay pkt (addr j) c
  delivered : ∀ i pkt time, a = .deliver i pkt time → pkt ∈ s.sent

variable {addr : ι → SockAddrIn} {s s' : Network ι} {a : NetAct lay ι} {i : ι}

omit [DecidableEq ι] in
theorem NetAct.eq_device_of_thread {k : Copier} (h : a.thread = some (i, k)) : a.device = i := by
  cases a with
  | round j => exact nomatch h
  | write j n => exact nomatch h
  | deliver j pkt time => exact nomatch h
  | begin j k' => exact congrArg Prod.fst (Option.some.inj h)
  | publish j thread c => exact congrArg Prod.fst (Option.some.inj h)
  | request j gateway o => exact congrArg Prod.fst (Option.some.inj h)
  | answer j o => exact congrArg Prod.fst (Option.some.inj h)

/-- The others have no part in it. -/
theorem netEvents_of_ne (h : a.device ≠ i) : netEvents i a = [] := by
  cases a with
  | write j n => exact if_neg h
  | publish j thread c => exact if_neg h
  | deliver j pkt time => exact if_neg h
  | round j => rfl
  | begin j k => rfl
  | request j gateway o => rfl
  | answer j o => rfl

theorem deviceStep_of_ne (h : a.device ≠ i) (d : Device) : DeviceStep a i d d where
  node := by rw [netEvents_of_ne h]; rfl
  now _ := rfl
  written n ha := absurd (ha ▸ rfl) h
  seen k seen hseen :=
    .inr ⟨fun ha => h (NetAct.eq_device_of_thread ha), seen, hseen, fun _ hm => .inl hm⟩
  published b hb := by
    rw [netEvents_of_ne h] at hb
    exact absurd hb List.not_mem_nil

/-- A thread that is done has no copy any more, the others go on. -/
theorem mem_copies_finish {d : Device} {k k' : Copier} {seen : List Memory}
    (h : seen ∈ (d.finish k).copies k') : k ≠ k' ∧ seen ∈ d.copies k' := by
  unfold Device.finish at h
  dsimp only at h
  by_cases hk : k' = k
  · subst hk
    rw [Function.update_self] at h
    exact absurd h (Option.not_mem_none _)
  · rw [Function.update_of_ne hk] at h
    exact ⟨Ne.symm hk, h⟩

theorem deviceStep_begin (d : Device) (i : ι) (k : Copier) :
    DeviceStep (.begin i k : NetAct lay ι) i d (d.begin k) where
  node := rfl
  now _ := rfl
  written _ ha := nomatch ha
  seen k' seen hseen := by
    unfold Device.begin at hseen
    dsimp only at hseen
    by_cases hk : k' = k
    · subst hk
      rw [Function.update_self] at hseen
      exact .inl ⟨rfl, (Option.mem_some.mp hseen).symm⟩
    · rw [Function.update_of_ne hk] at hseen
      exact .inr ⟨fun ha => hk (congrArg Prod.snd (Option.some.inj ha)).symm, seen, hseen,
        fun _ hm => .inl hm⟩
  published _ hb := absurd hb List.not_mem_nil

theorem deviceStep_write {d : Device} {n : Description}
    (hmac : n.splink.basicInfo.mac = d.now.splink.basicInfo.mac) (i : ι) :
    DeviceStep (.write i n : NetAct lay ι) i d (d.write n) where
  node := by rw [show netEvents i (.write i n : NetAct lay ι) = [.write n.splink] from if_pos rfl]; rfl
  now hne := absurd rfl (hne n)
  written n' ha := by
    obtain ⟨-, rfl⟩ := NetAct.write.inj ha
    exact ⟨rfl, hmac⟩
  seen k seen hseen := by
    obtain ⟨old, hold, rfl⟩ := Option.map_eq_some_iff.mp hseen
    exact .inr ⟨nofun, old, hold, fun m hm => (List.mem_cons.mp hm).symm⟩
  published b hb := by
    rw [show netEvents i (.write i n : NetAct lay ι) = [.write n.splink] from if_pos rfl] at hb
    exact nomatch List.mem_singleton.mp hb

/-- A thread is done with its copy, and the list is that of the event. -/
theorem deviceStep_finish {d d' : Device} {k : Copier} {c : Memory} (hcopy : d.Copies k c)
    (hthread : a.thread = some (i, k)) (hnow : d'.now = d.now)
    (hcopies : d'.copies = (d.finish k).copies)
    (hnode : d'.node = (netEvents i a).foldl NodeState.take d.node)
    (hpublished : ∀ b, .publish b ∈ netEvents i a → c.info.basicInfo = b) : DeviceStep a i d d' where
  node := hnode
  now _ := hnow
  written n ha := by
    subst ha
    exact nomatch hthread
  seen k' seen hseen := by
    rw [hcopies] at hseen
    obtain ⟨hk, hold⟩ := mem_copies_finish hseen
    refine .inr ⟨fun ha => hk ?_, seen, hold, fun _ hm => .inl hm⟩
    exact congrArg Prod.snd (Option.some.inj (hthread.symm.trans ha))
  published b hb := ⟨k, c, hcopy, hpublished b hb⟩

/-- **One step.** -/
theorem netStep_spec (hsent : ∀ pkt ∈ s.sent, ∃ src c, SentBy lay pkt src c)
    (hs : netStep lay addr s a = some s') : NetStepSpec lay addr s a s' := by
  -- a step sets the device that takes it
  have hset : ∀ (i : ι) {d' : Device} {pkts : List Packet}, a.device = i →
      s' = (s.setDevice i d').send pkts → DeviceStep a i (s.devices i) d' →
      (∀ pkt ∈ pkts, ∃ k c, (s.devices i).Copies k c ∧ SentBy lay pkt (addr i) c) →
      (∀ i pkt time, a = .deliver i pkt time → pkt ∈ s.sent) → NetStepSpec lay addr s a s' := by
    rintro i d' pkts hi rfl hdevice hpkts hdelivered
    refine ⟨fun j => ?_, fun pkt hpkt => ?_, hdelivered⟩
    · by_cases hj : j = i
      · subst hj
        simp only [Network.send, Network.setDevice, Function.update_self]
        exact hdevice
      · simp only [Network.send, Network.setDevice, Function.update_of_ne hj]
        exact deviceStep_of_ne (hi.trans_ne (Ne.symm hj)) _
    · rcases List.mem_append.mp hpkt with hold | hnew
      · exact .inl hold
      · exact .inr ⟨i, hpkts pkt hnew⟩
  have hnone : ∀ i d', s.setDevice i d' = (s.setDevice i d').send [] := fun i d' => by
    unfold Network.send
    rw [List.append_nil]
  cases a with
  | round i =>
    obtain rfl := Option.some.inj hs
    refine hset i rfl (hnone i _) ⟨rfl, fun _ => rfl, fun _ h => (nomatch h), fun k seen hseen => ?_,
      fun _ hb => absurd hb List.not_mem_nil⟩ nofun nofun
    exact .inr ⟨nofun, seen, hseen, fun _ hm => .inl hm⟩
  | begin i k =>
    obtain ⟨-, hs⟩ := Option.ite_none_right_eq_some.mp hs
    obtain rfl := Option.some.inj hs
    exact hset i rfl (hnone i _) (deviceStep_begin _ i k) nofun nofun
  | write i n =>
    obtain ⟨hmac, hs⟩ := Option.ite_none_right_eq_some.mp hs
    obtain rfl := Option.some.inj hs
    exact hset i rfl (hnone i _) (deviceStep_write hmac i) nofun nofun
  | publish i thread c =>
    obtain ⟨hcopy, hs⟩ := Option.ite_none_right_eq_some.mp hs
    obtain rfl := Option.some.inj hs
    have hevents : netEvents i (.publish i thread c : NetAct lay ι) = [.publish c.info.basicInfo] :=
      if_pos rfl
    refine hset i rfl (hnone i _) (deviceStep_finish hcopy rfl rfl rfl ?_ fun b hb => ?_) nofun nofun
    · rw [hevents]
      rfl
    · rw [hevents] at hb
      exact (DeviceEvent.publish.inj (List.mem_singleton.mp hb)).symm
  | request i gateway o =>
    obtain ⟨hcopy, hs⟩ := Option.ite_none_right_eq_some.mp hs
    obtain rfl := Option.some.inj hs
    exact hset i rfl rfl (deviceStep_finish hcopy rfl rfl rfl rfl nofun)
      (fun pkt hpkt => ⟨_, _, hcopy, sentBy_sendHeartbeat (.inl rfl) hpkt⟩) nofun
  | answer i o =>
    obtain ⟨dst, -, hs⟩ := Option.bind_eq_some_iff.mp hs
    obtain ⟨hcopy, hs⟩ := Option.ite_none_right_eq_some.mp hs
    obtain rfl := Option.some.inj hs
    exact hset i rfl rfl (deviceStep_finish hcopy rfl rfl rfl rfl nofun)
      (fun pkt hpkt => ⟨_, _, hcopy, sentBy_sendHeartbeat (.inr rfl) hpkt⟩) nofun
  | deliver i pkt time =>
    obtain ⟨⟨hin, -, -⟩, hs⟩ := Option.ite_none_right_eq_some.mp hs
    obtain rfl := Option.some.inj hs
    obtain ⟨src, c, hby⟩ := hsent pkt hin
    obtain ⟨-, -, hparse⟩ := hby.received time
    have hevents : netEvents i (.deliver i pkt time : NetAct lay ι) =
        [.heartbeat (receivedAs lay pkt time)] := if_pos rfl
    refine hset i rfl (hnone i _) ⟨?_, fun _ => rfl, fun _ h => (nomatch h), fun k seen hseen => ?_,
      fun b hb => ?_⟩ nofun ?_
    · rw [hevents, List.foldl_cons, List.foldl_nil, hparse]
      rfl
    · exact .inr ⟨nofun, seen, hseen, fun _ hm => .inl hm⟩
    · rw [hevents] at hb
      exact nomatch List.mem_singleton.mp hb
    · intro _ _ _ h
      obtain ⟨-, rfl, -⟩ := NetAct.deliver.inj h
      exact hin

end

/-! ### The registries -/

section

variable {lay : HeaderLayout} {ι : Type*} {addr : ι → SockAddrIn} {mac : ι → CharArray 18}

/-- What was sent and what is reported is of devices, under their MACs and with
their addresses, and its basic info satisfies `P`. -/
structure NetOrigin (lay : HeaderLayout) (addr : ι → SockAddrIn) (mac : ι → CharArray 18)
    (P : ι → BasicInfo → Prop) (s : Network ι) (regs : ι → Registry) : Prop where
  sent : ∀ pkt ∈ s.sent, ∃ j c, SentBy lay pkt (addr j) c ∧ P j c.info.basicInfo
  known : ∀ i m h, (regs i).reports m = some h →
    ∃ j, m = mac j ∧ h.addr = addr j ∧ P j h.info.basicInfo

/-- Each list is the registry of its device, and what a device has, copies,
sends or reports of another is under the MAC. -/
structure NetTracks (lay : HeaderLayout) (addr : ι → SockAddrIn) (mac : ι → CharArray 18)
    (s : Network ι) (regs : ι → Registry) : Prop where
  tracks : ∀ i, Tracks (s.devices i).node (regs i)
  macs : ∀ i, (s.devices i).now.splink.basicInfo.mac = mac i
  seen : ∀ i k, ∀ seen ∈ (s.devices i).copies k, ∀ m ∈ seen, m.info.basicInfo.mac = mac i
  origin : NetOrigin lay addr mac (fun j b => b.mac = mac j) s regs

/-- What a list has is in its registry. -/
theorem Represents.reports {s : NodeState} {r : Registry} (h : Represents s r) {n : Node}
    (hn : n ∈ s.list) : r.reports n.mac = some n.latest := by
  have hmem : n.latest ∈ (nodesOf s.list n.mac).map Node.latest :=
    List.mem_map_of_mem (List.mem_filter.mpr ⟨hn, decide_eq_true rfl⟩)
  rw [h.2 n.mac] at hmem
  exact Option.mem_toList.mp hmem

/-- What a registry has is in the list. -/
theorem Represents.listed {s : NodeState} {r : Registry} (h : Represents s r) {m : CharArray 18}
    {x : Heartbeat} (hx : r.reports m = some x) : ∃ n ∈ s.list, n.mac = m ∧ n.latest = x := by
  have hmem : x ∈ (nodesOf s.list m).map Node.latest := by
    rw [h.2 m, hx]
    exact List.mem_singleton_self x
  obtain ⟨n, hn, hlatest⟩ := List.mem_map.mp hmem
  obtain ⟨hin, hmac⟩ := List.mem_filter.mp hn
  exact ⟨n, hin, of_decide_eq_true hmac, hlatest⟩

/-- **A heartbeat of a device is addressed**, wherever it arrives. -/
theorem addressed_netTracks {s : Network ι} {regs : ι → Registry} (h : NetTracks lay addr mac s regs)
    (hmac : Function.Injective mac) (haddr : Function.Injective addr) (i : ι) {j : ι} {x : Heartbeat}
    (hxmac : x.mac = mac j) (hxaddr : x.addr = addr j) : Addressed (s.devices i).list x := by
  have hrep := (h.tracks i).represents
  have hnode : ∀ n ∈ (s.devices i).list, ∃ k, n.mac = mac k ∧ n.addr = addr k := by
    intro n hn
    obtain ⟨k, hk, haddrk, -⟩ := h.origin.known i n.mac n.latest (hrep.reports hn)
    exact ⟨k, hk, haddrk⟩
  intro n hn hm
  obtain ⟨k, hk, haddrk⟩ := hnode n hn
  obtain rfl : k = j := hmac (hk.symm.trans (hm.trans hxmac))
  cases hfind : (s.devices i).list.find? fun n => n.addr == x.addr with
  | none =>
    have hno := List.find?_eq_none.mp hfind n hn
    exact absurd (beq_iff_eq.mpr (haddrk.trans hxaddr.symm)) hno
  | some n' =>
    have hn' := List.mem_of_find?_eq_some hfind
    have hfound := List.find?_some hfind
    have haddr' : n'.addr = x.addr := beq_iff_eq.mp hfound
    obtain ⟨k', hk', haddrk'⟩ := hnode n' hn'
    obtain rfl : k' = k := haddr (haddrk'.symm.trans (haddr'.trans hxaddr))
    -- one node for each MAC
    exact congrArg some (List.inj_on_of_nodup_map hrep.nodup hn' hn (hk'.trans hk.symm))

/-- What a thread copies has the MAC. -/
theorem NetTracks.copied {s : Network ι} {regs : ι → Registry} (h : NetTracks lay addr mac s regs)
    {i : ι} {k : Copier} {c : Memory} (hcopy : (s.devices i).Copies k c) : c.info.basicInfo.mac = mac i := by
  obtain ⟨seen, hseen, htorn⟩ := hcopy
  exact htorn.mac (h.seen i k seen hseen)

variable [DecidableEq ι] {s s' : Network ι} {a : NetAct lay ι} {regs : ι → Registry}

/-- A device takes nothing, or one event. -/
theorem netEvents_cases (i : ι) (a : NetAct lay ι) :
    netEvents i a = [] ∨ (∃ n, a = .write i n ∧ netEvents i a = [.write n.splink]) ∨
      (∃ b, netEvents i a = [.publish b]) ∨
      ∃ pkt time, a = .deliver i pkt time ∧ netEvents i a = [.heartbeat (receivedAs lay pkt time)] := by
  by_cases hi : a.device = i
  · cases a with
    | round j => exact .inl rfl
    | begin j k => exact .inl rfl
    | request j gateway o => exact .inl rfl
    | answer j o => exact .inl rfl
    | write j n =>
      obtain rfl : j = i := hi
      exact .inr (.inl ⟨n, rfl, if_pos rfl⟩)
    | publish j thread c => exact .inr (.inr (.inl ⟨c.info.basicInfo, if_pos hi⟩))
    | deliver j pkt time =>
      obtain rfl : j = i := hi
      exact .inr (.inr (.inr ⟨pkt, time, rfl, if_pos rfl⟩))
  · exact .inl (netEvents_of_ne hi)

/-- What is delivered is the report of a device. -/
theorem NetStepSpec.heard {P : ι → BasicInfo → Prop} (hspec : NetStepSpec lay addr s a s')
    (hsent : ∀ pkt ∈ s.sent, ∃ j c, SentBy lay pkt (addr j) c ∧ P j c.info.basicInfo) {i : ι}
    {pkt : Packet} {time : ℕ} (ha : a = .deliver i pkt time) :
    ∃ j, pkt.src = addr j ∧ (receivedAs lay pkt time).addr = addr j ∧
      P j (receivedAs lay pkt time).info.basicInfo := by
  obtain ⟨j, c, hby, hP⟩ := hsent pkt (hspec.delivered i pkt time ha)
  obtain ⟨hinfo, hsrc, -⟩ := hby.received time
  exact ⟨j, hby.src, hsrc, hinfo.symm ▸ hP⟩

/-- **One step**: what holds of what was sent and reported, and of what the
threads copy, holds of what is sent and reported. -/
theorem NetOrigin.step {P Q : ι → BasicInfo → Prop} (h : NetOrigin lay addr mac P s regs)
    (hmac : Function.Injective mac) (hspec : NetStepSpec lay addr s a s')
    (hlocal : ∀ i, (regs i).splink.basicInfo.mac = mac i) (hPmac : ∀ j b, P j b → b.mac = mac j)
    (hcopy : ∀ j k c, (s.devices j).Copies k c → Q j c.info.basicInfo) (hPQ : ∀ j b, P j b → Q j b) :
    NetOrigin lay addr mac Q s' fun i => (netEvents i a).foldl Registry.take (regs i) := by
  refine ⟨fun pkt hpkt => ?_, fun i => ?_⟩
  · rcases hspec.sent pkt hpkt with hold | ⟨j, k, c, hc, hby⟩
    · obtain ⟨j, c, hby, hP⟩ := h.sent pkt hold
      exact ⟨j, c, hby, hPQ j _ hP⟩
    · exact ⟨j, c, hby, hcopy j k c hc⟩
  · have hold : ∀ m x, (regs i).reports m = some x →
        ∃ j, m = mac j ∧ x.addr = addr j ∧ Q j x.info.basicInfo := by
      intro m x hm
      obtain ⟨j, hj, hsrc, hP⟩ := h.known i m x hm
      exact ⟨j, hj, hsrc, hPQ j _ hP⟩
    rcases netEvents_cases i a with hnone | ⟨n, -, hwrite⟩ | ⟨b, hpublish⟩ | ⟨pkt, time, ha, hbeat⟩
    · rw [hnone]
      exact hold
    · rw [hwrite]
      exact hold
    · obtain ⟨k, c, hc, rfl⟩ := (hspec.device i).published b (hpublish ▸ List.mem_singleton_self _)
      rw [hpublish]
      intro m x hm
      simp only [List.foldl_cons, List.foldl_nil, Registry.take, Registry.publish] at hm
      split_ifs at hm with hown
      · obtain ⟨y, hy, rfl⟩ := Option.map_eq_some_iff.mp hm
        obtain ⟨j, hj, hsrc, -⟩ := hold m y hy
        obtain rfl : i = j := hmac ((hlocal i).symm.trans (hown.symm.trans hj))
        exact ⟨i, hj, hsrc, hcopy i k c hc⟩
      · exact hold m x hm
    · obtain ⟨j, -, hsrc, hP⟩ := hspec.heard h.sent ha
      rw [hbeat]
      intro m x hm
      simp only [List.foldl_cons, List.foldl_nil, Registry.take, Registry.step] at hm
      split_ifs at hm with hm'
      · obtain rfl := Option.some.inj hm
        exact ⟨j, hm'.trans (hPmac j _ hP), hsrc, hPQ j _ hP⟩
      · exact hold m x hm

/-- Each event is of the device, or an addressed heartbeat. -/
theorem NetTracks.own (h : NetTracks lay addr mac s regs) (hmac : Function.Injective mac)
    (haddr : Function.Injective addr) (hspec : NetStepSpec lay addr s a s') (i : ι) :
    ∀ e ∈ netEvents i a, e.Own (s.devices i).node := by
  intro e he
  rcases netEvents_cases i a with hnone | ⟨n, ha, hwrite⟩ | ⟨b, hpublish⟩ | ⟨pkt, time, ha, hbeat⟩
  · rw [hnone] at he
    exact absurd he List.not_mem_nil
  · rw [hwrite] at he
    obtain rfl := List.mem_singleton.mp he
    exact ((hspec.device i).written n ha).2
  · obtain ⟨k, c, hc, rfl⟩ := (hspec.device i).published b (hpublish ▸ List.mem_singleton_self _)
    rw [hpublish] at he
    obtain rfl := List.mem_singleton.mp he
    exact (h.copied hc).trans (h.macs i).symm
  · rw [hbeat] at he
    obtain rfl := List.mem_singleton.mp he
    obtain ⟨j, -, hsrc, hj⟩ := hspec.heard (P := fun j b => b.mac = mac j) h.origin.sent ha
    exact addressed_netTracks h hmac haddr i hj hsrc

/-- **One step** of the network is one of the registries. -/
theorem netTracks_step (h : NetTracks lay addr mac s regs) (hmac : Function.Injective mac)
    (haddr : Function.Injective addr) (hspec : NetStepSpec lay addr s a s') :
    NetTracks lay addr mac s' fun i => (netEvents i a).foldl Registry.take (regs i) := by
  have hmacs : ∀ i, (s'.devices i).now.splink.basicInfo.mac = mac i := by
    intro i
    by_cases hwrite : ∃ n, a = .write i n
    · obtain ⟨n, ha⟩ := hwrite
      obtain ⟨hnow, hn⟩ := (hspec.device i).written n ha
      rw [hnow, hn]
      exact h.macs i
    · rw [(hspec.device i).now fun n ha => hwrite ⟨n, ha⟩]
      exact h.macs i
  have hnow : ∀ i, (s'.devices i).now.memory.info.basicInfo.mac = mac i := fun i =>
    (congrArg BasicInfo.mac (s'.devices i).now.shows).trans (hmacs i)
  refine ⟨fun i => ?_, hmacs, fun i k seen hseen m hm => ?_,
    h.origin.step hmac hspec (fun i => (h.tracks i).represents.1 ▸ h.macs i) (fun _ _ hb => hb)
      (fun _ _ _ hc => h.copied hc) fun _ _ hb => hb⟩
  · have hown := h.own hmac haddr hspec i
    rw [(hspec.device i).node]
    rcases netEvents_cases i a with he | ⟨_, -, he⟩ | ⟨_, he⟩ | ⟨_, _, -, he⟩
    · rw [he]
      exact h.tracks i
    all_goals
      rw [he] at hown ⊢
      exact tracks_take (h.tracks i) (hown _ (List.mem_singleton_self _))
  · rcases (hspec.device i).seen k seen hseen with ⟨-, rfl⟩ | ⟨-, old, hold, hin⟩
    · rw [List.mem_singleton.mp hm]
      exact hnow i
    · rcases hin m hm with hm | rfl
      · exact h.seen i k old hold m hm
      · exact hnow i

theorem netTracks_spec (h : NetTracks lay addr mac s regs) (hs : netStep lay addr s a = some s') :
    NetStepSpec lay addr s a s' :=
  netStep_spec (fun pkt hpkt => (h.origin.sent pkt hpkt).imp' addr fun _ ⟨c, hby, _⟩ => ⟨c, hby⟩) hs

end

/-! ### Runs -/

section

variable {lay : HeaderLayout} {ι : Type*} [DecidableEq ι] {g : ι → Description}
  {connInfo : ι → ConnInfo} {active : ι → Bool} {addr : ι → SockAddrIn} {t : ι → ℕ} {as : List (NetAct lay ι)} {s : Network ι}

/-- What a device was told and what it made of its own node, as its registry. -/
def registryOf (g : ι → Description) (connInfo : ι → ConnInfo) (addr : ι → SockAddrIn) (t : ι → ℕ)
    (as : List (NetAct lay ι)) (i : ι) : Registry :=
  (as.flatMap (netEvents i)).foldl Registry.take (.start (g i).splink (connInfo i) (addr i) (t i))

theorem registryOf_snoc (as : List (NetAct lay ι)) (a : NetAct lay ι) (i : ι) :
    registryOf g connInfo addr t (as ++ [a]) i =
      (netEvents i a).foldl Registry.take (registryOf g connInfo addr t as i) := by
  unfold registryOf
  rw [List.flatMap_append, List.flatMap_singleton, List.foldl_append]

/-- A device starts with itself. -/
theorem registryOf_nil {i : ι} {m : CharArray 18} {h : Heartbeat}
    (hm : (registryOf g connInfo addr t ([] : List (NetAct lay ι)) i).reports m = some h) :
    m = (g i).splink.basicInfo.mac ∧ h.addr = addr i ∧ h.info.basicInfo = (g i).splink.basicInfo := by
  unfold registryOf Registry.start at hm
  simp only [List.flatMap_nil, List.foldl_nil] at hm
  split_ifs at hm with hlocal
  obtain rfl := Option.some.inj hm
  exact ⟨hlocal, rfl, rfl⟩

/-- At the start each device knows itself, and nothing was sent. -/
theorem netOrigin_start {P : ι → BasicInfo → Prop} (hP : ∀ i, P i (g i).splink.basicInfo) :
    NetOrigin lay addr (fun i => (g i).splink.basicInfo.mac) P (Network.start g connInfo active addr t)
      (registryOf g connInfo addr t ([] : List (NetAct lay ι))) where
  sent pkt hpkt := absurd hpkt List.not_mem_nil
  known i m h hm := by
    obtain ⟨hlocal, hsrc, hinfo⟩ := registryOf_nil hm
    exact ⟨i, hlocal, hsrc, hinfo ▸ hP i⟩

theorem netTracks_start : NetTracks lay addr (fun i => (g i).splink.basicInfo.mac)
    (Network.start g connInfo active addr t)
    (registryOf g connInfo addr t ([] : List (NetAct lay ι))) where
  tracks i := tracks_start (g i).splink (connInfo i) (active i) (addr i) (t i)
  macs _ := rfl
  seen _ _ seen hseen := absurd hseen (Option.not_mem_none seen)
  origin := netOrigin_start fun _ => rfl

/-- Every run. -/
theorem netTracks_run (hmac : Function.Injective fun i => (g i).splink.basicInfo.mac)
    (haddr : Function.Injective addr)
    (h : exec (netStep lay addr) (Network.start g connInfo active addr t) as = some s) :
    NetTracks lay addr (fun i => (g i).splink.basicInfo.mac) s (registryOf g connInfo addr t as) := by
  have hrun := Run.of_exec h
  clear h
  induction hrun with
  | nil => exact netTracks_start
  | snoc _ _ hs ih =>
    have hstep := netTracks_step ih hmac haddr (netTracks_spec ih hs)
    rw [← funext fun i => registryOf_snoc _ _ i] at hstep
    exact hstep

/-- **Each list is the registry of what was delivered to its device**, in any
order and however often, and of what the device wrote of itself; it lists each
MAC once. -/
theorem network_registry (hmac : Function.Injective fun i => (g i).splink.basicInfo.mac)
    (haddr : Function.Injective addr)
    (h : exec (netStep lay addr) (Network.start g connInfo active addr t) as = some s) (i : ι) :
    Represents (s.devices i).node (registryOf g connInfo addr t as i) ∧
      ((s.devices i).list.map Node.mac).Nodup := by
  have hrep := ((netTracks_run hmac haddr h).tracks i).represents
  exact ⟨hrep, hrep.nodup⟩

/-! ### What is listed of a device -/

/-- A thread of a device begins behind `before` and takes no other step in
`rest`; each byte of the copy is what the description of the device has there
at some moment of these steps. -/
structure CopiedWhile (lay : HeaderLayout) (addr : ι → SockAddrIn) (s₀ : Network ι)
    (before : List (NetAct lay ι)) (j : ι) (k : Copier) (rest : List (NetAct lay ι)) (c : Memory) :
    Prop where
  alone : ∀ a ∈ rest, a.thread ≠ some (j, k)
  bytes : ∀ p < nodeInfoSize, ∃ mid s, mid <+: rest ∧
    exec (netStep lay addr) s₀ (before ++ .begin j k :: mid) = some s ∧
      recvBuf c.bytes p = recvBuf (s.devices j).now.memory.bytes p

/-- The basic info was copied in a run from the description of a device, or is
what it started with. -/
def Described (lay : HeaderLayout) (addr : ι → SockAddrIn) (s₀ : Network ι) (as : List (NetAct lay ι))
    (j : ι) (b : BasicInfo) : Prop :=
  b = (s₀.devices j).now.splink.basicInfo ∨
    ∃ before k rest c, before ++ .begin j k :: rest <+: as ∧
      CopiedWhile lay addr s₀ before j k rest c ∧ c.info.basicInfo = b

/-- What a thread has seen since it began: what was there at moments of the run. -/
structure SeenSince (lay : HeaderLayout) (addr : ι → SockAddrIn) (s₀ : Network ι)
    (before : List (NetAct lay ι)) (j : ι) (k : Copier) (rest : List (NetAct lay ι))
    (seen : List Memory) : Prop where
  alone : ∀ a ∈ rest, a.thread ≠ some (j, k)
  moments : ∀ m ∈ seen, ∃ mid s, mid <+: rest ∧
    exec (netStep lay addr) s₀ (before ++ .begin j k :: mid) = some s ∧ (s.devices j).now.memory = m

theorem SeenSince.copied {s₀ : Network ι} {before rest : List (NetAct lay ι)} {j : ι} {k : Copier}
    {seen : List Memory} {c : Memory} (h : SeenSince lay addr s₀ before j k rest seen)
    (hc : Torn seen c) : CopiedWhile lay addr s₀ before j k rest c where
  alone := h.alone
  bytes p hp := by
    obtain ⟨m, hm, hbyte⟩ := hc p hp
    obtain ⟨mid, s, hmid, hs, rfl⟩ := h.moments m hm
    exact ⟨mid, s, hmid, hs, hbyte⟩

/-- What threads have seen, what was sent and what is reported was a device's own. -/
structure NetDescribed (lay : HeaderLayout) (addr : ι → SockAddrIn) (s₀ : Network ι)
    (as : List (NetAct lay ι)) (s : Network ι) (regs : ι → Registry) (mac : ι → CharArray 18) :
    Prop where
  seen : ∀ i k, ∀ seen ∈ (s.devices i).copies k, ∃ before rest,
    as = before ++ .begin i k :: rest ∧ SeenSince lay addr s₀ before i k rest seen
  origin : NetOrigin lay addr mac (fun j b => Described lay addr s₀ as j b ∧ b.mac = mac j) s regs

theorem Described.snoc {s₀ : Network ι} {j : ι} {b : BasicInfo} (h : Described lay addr s₀ as j b)
    (a : NetAct lay ι) : Described lay addr s₀ (as ++ [a]) j b := by
  rcases h with hstart | ⟨before, k, rest, c, hpre, hcopied, hb⟩
  · exact .inl hstart
  · exact .inr ⟨before, k, rest, c, hpre.trans (List.prefix_append as [a]), hcopied, hb⟩

/-- One step. A thread that goes on sees what is there after it. -/
theorem netDescribed_seen {s₀ s' : Network ι} {a : NetAct lay ι} {regs : ι → Registry}
    {mac : ι → CharArray 18} (h : NetDescribed lay addr s₀ as s regs mac)
    (hexec : exec (netStep lay addr) s₀ (as ++ [a]) = some s') (hspec : NetStepSpec lay addr s a s')
    {i : ι} {k : Copier} {seen : List Memory} (hseen : seen ∈ (s'.devices i).copies k) :
    ∃ before rest, as ++ [a] = before ++ .begin i k :: rest ∧
      SeenSince lay addr s₀ before i k rest seen := by
  rcases (hspec.device i).seen k seen hseen with ⟨rfl, rfl⟩ | ⟨hthread, old, hold, hin⟩
  · refine ⟨as, [], rfl, fun b hb => absurd hb List.not_mem_nil, fun m hm =>
      ⟨[], s', List.prefix_rfl, hexec, ?_⟩⟩
    exact (List.mem_singleton.mp hm).symm
  · obtain ⟨before, rest, rfl, hsince⟩ := h.seen i k old hold
    rw [List.append_assoc, List.cons_append] at hexec ⊢
    refine ⟨before, rest ++ [a], rfl, fun b hb => ?_, fun m hm => ?_⟩
    · rcases List.mem_append.mp hb with hb | hb
      · exact hsince.alone b hb
      · exact List.mem_singleton.mp hb ▸ hthread
    · rcases hin m hm with hm | rfl
      · obtain ⟨mid, s₁, hmid, hs₁, rfl⟩ := hsince.moments m hm
        exact ⟨mid, s₁, hmid.trans (List.prefix_append rest [a]), hs₁, rfl⟩
      · exact ⟨rest ++ [a], s', List.prefix_rfl, hexec, rfl⟩

/-- Every run. -/
theorem netDescribed_run (hmac : Function.Injective fun i => (g i).splink.basicInfo.mac)
    (haddr : Function.Injective addr)
    (h : exec (netStep lay addr) (Network.start g connInfo active addr t) as = some s) :
    NetDescribed lay addr (Network.start g connInfo active addr t) as s
      (registryOf g connInfo addr t as) fun i => (g i).splink.basicInfo.mac := by
  have hrun := Run.of_exec h
  clear h
  induction hrun with
  | nil => exact ⟨fun i k seen hseen => absurd hseen (Option.not_mem_none seen),
      netOrigin_start fun i => ⟨.inl rfl, rfl⟩⟩
  | @snoc as s s' a hr _ hs ih =>
    have htracks := netTracks_run hmac haddr hr.exec_eq
    have hspec := netTracks_spec htracks hs
    have hexec := (hr.snoc trivial hs).exec_eq
    refine ⟨fun i k seen hseen => netDescribed_seen ih hexec hspec hseen, ?_⟩
    have hcopy : ∀ j k c, (s.devices j).Copies k c →
        Described lay addr (Network.start g connInfo active addr t) as j c.info.basicInfo := by
      rintro j k c ⟨seen, hseen, htorn⟩
      obtain ⟨before, rest, rfl, hsince⟩ := ih.seen j k seen hseen
      exact .inr ⟨before, k, rest, c, List.prefix_rfl, hsince.copied htorn, rfl⟩
    have hstep := ih.origin.step (Q := fun j b =>
        Described lay addr (Network.start g connInfo active addr t) (as ++ [a]) j b ∧
          b.mac = (g j).splink.basicInfo.mac) hmac hspec
      (fun i => (htracks.tracks i).represents.1 ▸ htracks.macs i) (fun _ _ hb => hb.2)
      (fun j k c hc => ⟨(hcopy j k c hc).snoc a, htracks.copied hc⟩) fun _ _ hb => ⟨hb.1.snoc a, hb.2⟩
    rw [← funext fun i => registryOf_snoc _ _ i] at hstep
    exact hstep

/-- The description stays while nothing is written. -/
theorem now_exec (hmac : Function.Injective fun i => (g i).splink.basicInfo.mac)
    (haddr : Function.Injective addr) {before during : List (NetAct lay ι)} {s₁ : Network ι}
    (h : exec (netStep lay addr) (Network.start g connInfo active addr t) before = some s₁)
    (hrest : exec (netStep lay addr) s₁ during = some s) {j : ι} (hno : ∀ n, .write j n ∉ during) :
    (s.devices j).now = (s₁.devices j).now := by
  have hrun := Run.of_exec hrest
  clear hrest
  induction hrun with
  | nil => rfl
  | @snoc as s s' a hr _ hs ih =>
    have hexec : exec (netStep lay addr) (Network.start g connInfo active addr t) (before ++ as) =
        some s := by
      rw [exec_append, h]
      exact hr.exec_eq
    have hspec := netTracks_spec (netTracks_run hmac haddr hexec) hs
    have hsame := (hspec.device j).now fun n ha =>
      hno n (List.mem_append_right _ (List.mem_singleton.mpr ha.symm))
    exact hsame.trans (ih fun n hn => hno n (List.mem_append_left _ hn))

/-- **A copy is whole where nothing was written**: it is the description the
thread found when it began. -/
theorem CopiedWhile.whole (hmac : Function.Injective fun i => (g i).splink.basicInfo.mac)
    (haddr : Function.Injective addr) {before rest : List (NetAct lay ι)} {j : ι} {k : Copier}
    {c : Memory}
    (h : CopiedWhile lay addr (Network.start g connInfo active addr t) before j k rest c)
    (hno : ∀ n, .write j n ∉ rest) :
    ∃ s, exec (netStep lay addr) (Network.start g connInfo active addr t) before = some s ∧
      c.info.basicInfo = (s.devices j).now.splink.basicInfo := by
  have hsame : ∀ mid, mid <+: rest → ∀ s', exec (netStep lay addr)
      (Network.start g connInfo active addr t) (before ++ .begin j k :: mid) = some s' →
      ∃ s, exec (netStep lay addr) (Network.start g connInfo active addr t) before = some s ∧
        (s'.devices j).now = (s.devices j).now := by
    intro mid hmid s' hs'
    rw [exec_append] at hs'
    obtain ⟨s, hs, hduring⟩ := Option.bind_eq_some_iff.mp hs'
    refine ⟨s, hs, now_exec hmac haddr hs hduring fun n hn => ?_⟩
    rcases List.mem_cons.mp hn with hn | hn
    · exact nomatch hn
    · exact hno n (hmid.subset hn)
  obtain ⟨mid, s', hmid, hs', -⟩ := h.bytes 0 (by decide)
  obtain ⟨s, hs, -⟩ := hsame mid hmid s' hs'
  refine ⟨s, hs, ?_⟩
  have htorn : Torn [(s.devices j).now.memory] c := by
    intro p hp
    obtain ⟨mid, s', hmid, hs', hbyte⟩ := h.bytes p hp
    obtain ⟨s₁, hs₁, hnow⟩ := hsame mid hmid s' hs'
    obtain rfl : s = s₁ := Option.some.inj (hs.symm.trans hs₁)
    exact ⟨_, List.mem_singleton_self _, hnow ▸ hbyte⟩
  rw [htorn.info fun m hm => List.mem_singleton.mp hm]
  exact (s.devices j).now.shows

/-- **What is listed of a device is what it was**: every node of every list is
a device, under its MAC and with its address. Its basic info is what the device
started with, or was copied by a thread of the device: each byte is what the
description had there at some moment while the thread copied, and where nothing
was written meanwhile, it is the description at that moment. -/
theorem network_provenance (hmac : Function.Injective fun i => (g i).splink.basicInfo.mac)
    (haddr : Function.Injective addr)
    (h : exec (netStep lay addr) (Network.start g connInfo active addr t) as = some s) (i : ι) :
    ∀ n ∈ (s.devices i).list, ∃ j, n.mac = (g j).splink.basicInfo.mac ∧ n.addr = addr j ∧
      (n.info.basicInfo = (g j).splink.basicInfo ∨
        ∃ before k rest c, before ++ .begin j k :: rest <+: as ∧ n.info.basicInfo = c.info.basicInfo ∧
          CopiedWhile lay addr (Network.start g connInfo active addr t) before j k rest c ∧
          ((∀ m, .write j m ∉ rest) → ∃ s',
            exec (netStep lay addr) (Network.start g connInfo active addr t) before = some s' ∧
              n.info.basicInfo = (s'.devices j).now.splink.basicInfo)) := by
  intro n hn
  have hrep := ((netTracks_run hmac haddr h).tracks i).represents
  obtain ⟨j, hj, hsrc, hb, -⟩ :=
    (netDescribed_run hmac haddr h).origin.known i n.mac n.latest (hrep.reports hn)
  refine ⟨j, hj, hsrc, ?_⟩
  rcases hb with hstart | ⟨before, k, rest, c, hpre, hcopied, hb⟩
  · exact .inl hstart
  · refine .inr ⟨before, k, rest, c, hpre, hb.symm, hcopied, fun hno => ?_⟩
    obtain ⟨s', hs', hwhole⟩ := hcopied.whole hmac haddr hno
    exact ⟨s', hs', hb.symm.trans hwhole⟩

/-! ### Where nothing is written any more -/

/-- The network without the datagrams and the copies on their way. -/
def Network.flushed (s : Network ι) : Network ι where
  devices i := { s.devices i with copies := fun _ => none }
  sent := []

/-- No description is written. -/
def NetAct.Quiet : NetAct lay ι → Prop
  | .write _ _ => False
  | .round _ => True
  | .begin _ _ => True
  | .publish _ _ _ => True
  | .request _ _ _ => True
  | .answer _ _ => True
  | .deliver _ _ _ => True

/-- In a quiet network: the devices are as they were, what is copied and what is
on its way says so, and who was reached knows it. -/
structure NetQuiet (lay : HeaderLayout) (addr : ι → SockAddrIn) (mac : ι → CharArray 18)
    (s₁ : Network ι) (bs : List (NetAct lay ι)) (s : Network ι) (regs : ι → Registry) : Prop where
  tracks : NetTracks lay addr mac s regs
  same : ∀ i, (s.devices i).now = (s₁.devices i).now
  seen : ∀ i k, ∀ seen ∈ (s.devices i).copies k, ∀ m ∈ seen, m = (s₁.devices i).now.memory
  sent : ∀ pkt ∈ s.sent, ∃ j c, SentBy lay pkt (addr j) c ∧
    c.info.basicInfo = (s₁.devices j).now.splink.basicInfo
  reached : ∀ i pkt time, .deliver i pkt time ∈ bs → ∀ j, pkt.src = addr j → ∃ x,
    (regs i).reports (mac j) = some x ∧ x.info.basicInfo = (s₁.devices j).now.splink.basicInfo

section

variable {mac : ι → CharArray 18} {s₁ s' : Network ι} {bs : List (NetAct lay ι)} {a : NetAct lay ι}
  {regs : ι → Registry}

omit [DecidableEq ι] in
/-- What is copied in a quiet network is the description. -/
theorem NetQuiet.copied (h : NetQuiet lay addr mac s₁ bs s regs) {i : ι} {k : Copier} {c : Memory}
    (hcopy : (s.devices i).Copies k c) : c.info.basicInfo = (s₁.devices i).now.splink.basicInfo := by
  obtain ⟨seen, hseen, htorn⟩ := hcopy
  rw [htorn.info (h.seen i k seen hseen)]
  exact (s₁.devices i).now.shows

/-- What is delivered in a quiet network is a device as it is. -/
theorem NetQuiet.heard (h : NetQuiet lay addr mac s₁ bs s regs) (hspec : NetStepSpec lay addr s a s')
    {i : ι} {pkt : Packet} {time : ℕ} (ha : a = .deliver i pkt time) :
    ∃ j, pkt.src = addr j ∧ (receivedAs lay pkt time).mac = mac j ∧
      (receivedAs lay pkt time).info.basicInfo = (s₁.devices j).now.splink.basicInfo := by
  obtain ⟨j, hsrc, -, hinfo⟩ := hspec.heard
    (P := fun j b => b = (s₁.devices j).now.splink.basicInfo) h.sent ha
  have hmacj : (s₁.devices j).now.splink.basicInfo.mac = mac j := by
    rw [← h.same j]
    exact h.tracks.macs j
  exact ⟨j, hsrc, (congrArg BasicInfo.mac hinfo).trans hmacj, hinfo⟩

/-- A report of a device as it is stays one. -/
theorem NetQuiet.keep (h : NetQuiet lay addr mac s₁ bs s regs) (hmac : Function.Injective mac)
    (hspec : NetStepSpec lay addr s a s') {i j : ι} {x : Heartbeat}
    (hreport : (regs i).reports (mac j) = some x)
    (hinfo : x.info.basicInfo = (s₁.devices j).now.splink.basicInfo) :
    ∃ x, ((netEvents i a).foldl Registry.take (regs i)).reports (mac j) = some x ∧
      x.info.basicInfo = (s₁.devices j).now.splink.basicInfo := by
  rcases netEvents_cases i a with hnone | ⟨n, -, hwrite⟩ | ⟨b, hpublish⟩ | ⟨pkt, time, ha, hbeat⟩
  · rw [hnone]
    exact ⟨x, hreport, hinfo⟩
  · rw [hwrite]
    exact ⟨x, hreport, hinfo⟩
  · obtain ⟨k, c, hc, rfl⟩ := (hspec.device i).published b (hpublish ▸ List.mem_singleton_self _)
    have hlocal : (regs i).splink.basicInfo.mac = mac i :=
      (h.tracks.tracks i).represents.1 ▸ h.tracks.macs i
    rw [hpublish]
    simp only [List.foldl_cons, List.foldl_nil, Registry.take, Registry.publish, hlocal]
    by_cases hij : mac j = mac i
    · obtain rfl : j = i := hmac hij
      rw [if_pos rfl, hreport]
      exact ⟨_, rfl, h.copied hc⟩
    · rw [if_neg hij]
      exact ⟨x, hreport, hinfo⟩
  · obtain ⟨k, -, hkmac, hk⟩ := h.heard hspec ha
    rw [hbeat]
    simp only [List.foldl_cons, List.foldl_nil, Registry.take, Registry.step]
    by_cases hjk : mac j = (receivedAs lay pkt time).mac
    · obtain rfl : j = k := hmac (hjk.trans hkmac)
      exact ⟨_, if_pos hjk, hk⟩
    · exact ⟨x, (if_neg hjk).trans hreport, hinfo⟩

/-- **One step** in a quiet network. -/
theorem netQuiet_step (hmac : Function.Injective mac) (haddr : Function.Injective addr)
    (h : NetQuiet lay addr mac s₁ bs s regs) (ha : a.Quiet) (hs : netStep lay addr s a = some s') :
    NetQuiet lay addr mac s₁ (bs ++ [a]) s' fun i => (netEvents i a).foldl Registry.take (regs i) := by
  have hspec := netTracks_spec h.tracks hs
  have hsame : ∀ i, (s'.devices i).now = (s₁.devices i).now := fun i =>
    ((hspec.device i).now fun n hn => by subst hn; exact ha).trans (h.same i)
  refine ⟨netTracks_step h.tracks hmac haddr hspec, hsame, fun i k seen hseen m hm => ?_,
    fun pkt hpkt => ?_, fun i pkt time hin j hj => ?_⟩
  · rcases (hspec.device i).seen k seen hseen with ⟨-, rfl⟩ | ⟨-, old, hold, hin⟩
    · rw [List.mem_singleton.mp hm, hsame i]
    · rcases hin m hm with hm | rfl
      · exact h.seen i k old hold m hm
      · rw [hsame i]
  · rcases hspec.sent pkt hpkt with hold | ⟨j, k, c, hc, hby⟩
    · exact h.sent pkt hold
    · exact ⟨j, c, hby, h.copied hc⟩
  · rcases List.mem_append.mp hin with hold | hnew
    · obtain ⟨x, hreport, hinfo⟩ := h.reached i pkt time hold j hj
      exact h.keep hmac hspec hreport hinfo
    · obtain rfl := (List.mem_singleton.mp hnew).symm
      obtain ⟨k, hk, hkmac, hinfo⟩ := h.heard hspec rfl
      obtain rfl : k = j := haddr (hk.symm.trans hj)
      have hevents : netEvents i (.deliver i pkt time) = [.heartbeat (receivedAs lay pkt time)] :=
        if_pos rfl
      rw [hevents, List.foldl_cons, List.foldl_nil]
      exact ⟨_, if_pos hkmac.symm, hinfo⟩

end

/-- **The lists converge**: once nothing is written any more and the older
datagrams and copies are gone, a device that was reached by another one lists
it as it is, and goes on to, whatever is delivered to it then. -/
theorem network_converges (hmac : Function.Injective fun i => (g i).splink.basicInfo.mac)
    (haddr : Function.Injective addr) {bs : List (NetAct lay ι)} {s₁ s₂ : Network ι}
    (h : exec (netStep lay addr) (Network.start g connInfo active addr t) as = some s₁)
    (hrest : exec (netStep lay addr) s₁.flushed bs = some s₂) (hquiet : ∀ a ∈ bs, a.Quiet)
    {i j : ι} {pkt : Packet} {time : ℕ} (hpkt : .deliver i pkt time ∈ bs) (hsrc : pkt.src = addr j) :
    ∃ n ∈ (s₂.devices i).list, n.mac = (g j).splink.basicInfo.mac ∧ n.addr = addr j ∧
      n.info.basicInfo = (s₂.devices j).now.splink.basicInfo := by
  have htracks := netTracks_run hmac haddr h
  have hrun := Run.of_exec hrest
  clear hrest
  obtain ⟨regs, hinv⟩ :
      ∃ regs, NetQuiet lay addr (fun i => (g i).splink.basicInfo.mac) s₁ bs s₂ regs := by
    clear hpkt
    induction hrun with
    | nil =>
      have hflushed : NetTracks lay addr (fun i => (g i).splink.basicInfo.mac) s₁.flushed
          (registryOf g connInfo addr t as) :=
        ⟨htracks.tracks, htracks.macs, fun _ _ seen hseen => absurd hseen (Option.not_mem_none seen),
          fun pkt hpkt => absurd hpkt List.not_mem_nil, htracks.origin.known⟩
      exact ⟨_, hflushed, fun _ => rfl, fun _ _ seen hseen => absurd hseen (Option.not_mem_none seen),
        fun pkt hpkt => absurd hpkt List.not_mem_nil, fun _ _ _ hin => absurd hin List.not_mem_nil⟩
    | snoc _ _ hs ih =>
      obtain ⟨regs, hinv⟩ := ih fun b hb => hquiet b (List.mem_append_left _ hb)
      exact ⟨_, netQuiet_step hmac haddr hinv
        (hquiet _ (List.mem_append_right _ (List.mem_singleton_self _))) hs⟩
  obtain ⟨x, hreport, hinfo⟩ := hinv.reached i pkt time hpkt j hsrc
  have hrep := (hinv.tracks.tracks i).represents
  obtain ⟨n, hn, hnmac, rfl⟩ := hrep.listed hreport
  obtain ⟨k, hk, haddrk, -⟩ := hinv.tracks.origin.known i _ _ hreport
  obtain rfl : j = k := hmac hk
  exact ⟨n, hn, hnmac, haddrk, hinfo.trans (congrArg (fun d => d.splink.basicInfo) (hinv.same j)).symm⟩

end

/-! ### A terminal and its gateway -/

/-- The MACs of the gateway and of the terminal. -/
def pairMac (i : Bool) : CStr :=
  if i then "0a:00:00:00:00:02".toList else "0a:00:00:00:00:01".toList

/-- The terminal has another type than the gateway. -/
def pairBasic (i : Bool) : BasicInfo := { BasicInfo.blank (pairMac i) with type := if i then 1 else 0 }

theorem pairBasic_terminated (i : Bool) : nul ∈ (pairBasic i).mac.val := by
  cases i <;> decide

theorem representable_pairBasic (i : Bool) : NodeInfo.Representable ⟨pairBasic i, ⟨0, 0, 0⟩⟩ := by
  have hmac : ∀ c ∈ pairMac i, c.toNat < 256 := by
    cases i <;> decide
  have htype : IsInt (pairBasic i).type := by
    unfold IsInt
    cases i <;> decide
  exact { representable_blankInfo hmac with type := htype }

def pairMemory (i : Bool) : Memory :=
  ⟨nodeInfoBytes ⟨pairBasic i, ⟨0, 0, 0⟩⟩ zeroFields, length_nodeInfoBytes _ zeroFields⟩

theorem info_pairMemory (i : Bool) : (pairMemory i).info.basicInfo = pairBasic i := by
  have hread := nodeInfoAt_nodeInfoBytes (representable_pairBasic i) zeroFields []
  rw [List.append_nil] at hread
  exact congrArg NodeInfo.basicInfo hread

def pairDescription (i : Bool) : Description :=
  ⟨⟨.tnode, 0, 0, pairBasic i, pairBasic_terminated i⟩, pairMemory i, info_pairMemory i⟩

def pairAddr (i : Bool) : SockAddrIn := ⟨if i then 0x0a000002 else 0x0a000001, 8081⟩

theorem pairMac_injective : Function.Injective fun i => (pairDescription i).splink.basicInfo.mac := by
  intro i j
  revert i j
  decide

theorem pairAddr_injective : Function.Injective pairAddr := by
  intro i j
  revert i j
  decide

/-- What the terminal brings to its request. -/
def pairOutgoing : Outgoing headerLayout64 :=
  ⟨fun _ => 0, 0, pairMemory true, zeroRest, length_zeroRest⟩

/-- The network of the two. -/
def pairStart : Network Bool :=
  .start pairDescription (fun _ => ⟨0, 0, 0⟩) (fun _ => false) pairAddr fun _ => 0

/-- The request of the terminal. -/
def pairRequest : Packet :=
  ⟨pairAddr true, pairAddr false,
    heartbeatBytes headerLayout64 pairOutgoing.pad pairOutgoing.now msgHeartbeatReq pairOutgoing.image⟩

/-- The terminal asks and the gateway hears it. -/
def pairRun : List (NetAct headerLayout64 Bool) :=
  [.round true, .begin true .request, .request true (pairAddr false) pairOutgoing,
    .deliver false pairRequest 5]

theorem exec_pairRun : ∃ s, exec (netStep headerLayout64 pairAddr) pairStart pairRun = some s := by
  obtain ⟨s₀, hs₀⟩ : ∃ s₀, s₀ = pairStart.setDevice true { pairStart.devices true with asks := true } :=
    ⟨_, rfl⟩
  have hround : netStep headerLayout64 pairAddr pairStart (.round true) = some s₀ := by
    rw [hs₀]
    rfl
  have hready : (s₀.devices true).copies .request = none ∧ (s₀.devices true).Ready .request := by
    rw [hs₀]
    exact ⟨rfl, rfl⟩
  obtain ⟨s₁, hs₁⟩ : ∃ s₁, s₁ = s₀.setDevice true ((s₀.devices true).begin .request) := ⟨_, rfl⟩
  have hbegun : netStep headerLayout64 pairAddr s₀ (.begin true .request) = some s₁ := by
    unfold netStep
    dsimp only
    rw [if_pos hready, hs₁]
  have hcopy : (s₁.devices true).Copies .request pairOutgoing.copy := by
    rw [hs₁, hs₀]
    exact ⟨_, rfl, torn_self (pairMemory true)⟩
  have hidle : (s₁.devices false).asked = none := by
    rw [hs₁, hs₀]
    rfl
  obtain ⟨s₂, hs₂⟩ : ∃ s₂, s₂ = (s₁.setDevice true
      { (s₁.devices true).finish .request with asks := false }).send [pairRequest] := ⟨_, rfl⟩
  have hsends : sendHeartbeat (pairAddr true) (pairAddr false) msgHeartbeatReq pairOutgoing =
      [pairRequest] := sendHeartbeat_eq _ _ _ _
  have hasked : netStep headerLayout64 pairAddr s₁ (.request true (pairAddr false) pairOutgoing) =
      some s₂ := by
    unfold netStep
    dsimp only
    rw [if_pos hcopy, hsends, hs₂]
  have hheard : pairRequest ∈ s₂.sent ∧ pairRequest.dst = pairAddr false ∧
      (s₂.devices false).asked = none := by
    rw [hs₂]
    exact ⟨List.mem_append_right _ (List.mem_singleton_self _), rfl, hidle⟩
  unfold pairRun
  rw [exec, hround, Option.bind_some, exec, hbegun, Option.bind_some, exec, hasked, Option.bind_some,
    exec, netStep]
  dsimp only
  rw [if_pos hheard]
  exact ⟨_, rfl⟩

theorem network_registry_pair :
    ∃ s, exec (netStep headerLayout64 pairAddr) pairStart pairRun = some s ∧
      Represents (s.devices false).node
        (registryOf pairDescription (fun _ => ⟨0, 0, 0⟩) pairAddr (fun _ => 0) pairRun false) := by
  obtain ⟨s, hs⟩ := exec_pairRun
  exact ⟨s, hs, (network_registry pairMac_injective pairAddr_injective hs false).1⟩

theorem network_provenance_pair :
    ∃ s, exec (netStep headerLayout64 pairAddr) pairStart pairRun = some s ∧
      ∀ n ∈ (s.devices false).list, ∃ j, n.mac = (pairDescription j).splink.basicInfo.mac ∧
        n.addr = pairAddr j := by
  obtain ⟨s, hs⟩ := exec_pairRun
  refine ⟨s, hs, fun n hn => ?_⟩
  obtain ⟨j, hmac, haddr, -⟩ := network_provenance pairMac_injective pairAddr_injective hs false n hn
  exact ⟨j, hmac, haddr⟩

theorem network_converges_pair :
    ∃ s, exec (netStep headerLayout64 pairAddr) pairStart pairRun = some s ∧
      ∃ n ∈ (s.devices false).list, n.mac = (pairDescription true).splink.basicInfo.mac ∧
        n.addr = pairAddr true ∧ n.info.basicInfo = (s.devices true).now.splink.basicInfo := by
  obtain ⟨s, hs⟩ := exec_pairRun
  have hquiet : ∀ a ∈ pairRun, a.Quiet := by
    unfold pairRun
    simp only [List.forall_mem_cons, NetAct.Quiet, true_and]
    exact fun a ha => absurd ha List.not_mem_nil
  have hstart : exec (netStep headerLayout64 pairAddr) pairStart [] = some pairStart := rfl
  exact ⟨s, hs, network_converges pairMac_injective pairAddr_injective hstart hs hquiet
    (List.mem_cons_of_mem _ (List.mem_cons_of_mem _ (List.mem_cons_of_mem _ (List.mem_singleton_self _))))
    rfl⟩

end WtslCore
