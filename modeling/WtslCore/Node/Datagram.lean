/-
# The datagrams of the node service

`recv_thread` receives up to 2047 bytes into a zero-filled buffer and hands
them to `parse_data` with their number. The type of the header decides what is
done; for a heartbeat and for its response the bytes behind the header and the
gap byte are read as the description of a node. Neither the tag nor the number
of bytes is looked at: bytes that were not received are zeros of the buffer,
and an empty datagram is a heartbeat request (its type is 0) of a node without
a MAC.

A datagram that is not well formed leaves the list alone, and has nothing
outside the received bytes read, exactly if its type is no heartbeat, or if its
description was received as a whole and writing it changes nothing
(`parseData_guarded_iff`). What is read of a datagram is described by its
offsets (`parseData_congr`).

Key definitions: `Layout`, `recvBuf`, `nodeInfoAt`, `parseData`, `Datagram`,
`WellFormed`, `Guarded`, `ReportSettled`.
Key theorems: `parseData_congr`, `updateHeartbeat_eq_self_iff`,
`parseDataHeartbeat_eq_self_iff`, `parseData_guarded_iff`.
-/
import WtslCore.Node.Removal

namespace WtslCore

/-- `BUF_SIZE`. -/
def bufSize : ℕ := 2048

/-- `sizeof(WTSLNodeInfo)`: the basic info is packed. -/
def nodeInfoSize : ℕ := 728

/-- The sizes of `NodeDataHeader` and `SPLINK_INFO`, which depend on the
device. The header starts with the tag and the type, the description with the
node info, and a heartbeat fits the buffer. -/
structure Layout where
  headerSize : ℕ
  splinkInfoSize : ℕ
  header_ok : 12 ≤ headerSize
  info_ok : nodeInfoSize ≤ splinkInfoSize
  fits : headerSize + 1 + splinkInfoSize < bufSize

/-- A device with 64-bit `time_t` and pointers. -/
def layout64 : Layout := ⟨32, 848, by decide, by decide, by decide⟩

/-- The buffer after `recvfrom`, by the index of its bytes. -/
def recvBuf (data : List UInt8) : ℕ → UInt8 := fun i => data.getD i 0

/-- The word at an offset. -/
def wordAt (buf : ℕ → UInt8) (off : ℕ) : ℕ :=
  (buf off).toNat + 256 * ((buf (off + 1)).toNat +
    256 * ((buf (off + 2)).toNat + 256 * (buf (off + 3)).toNat))

/-- The `int` at an offset. -/
def intAt (buf : ℕ → UInt8) (off : ℕ) : ℤ :=
  if wordAt buf off < 2147483648 then wordAt buf off else wordAt buf off - 4294967296

/-- The array of characters at an offset. -/
def charsAt (buf : ℕ → UInt8) (off n : ℕ) : CharArray n :=
  ⟨(List.range n).map fun i => Char.ofNat (buf (off + i)).toNat, by simp⟩

/-- `pinfo->node_info`, for the `SPLINK_INFO` at an offset. -/
def nodeInfoAt (buf : ℕ → UInt8) (off : ℕ) : NodeInfo where
  basicInfo :=
    { bw := intAt buf off
      tfcBw := intAt buf (off + 4)
      channel := intAt buf (off + 8)
      type := intAt buf (off + 12)
      rssi := intAt buf (off + 16)
      ip := charsAt buf (off + 24) 16
      mac := charsAt buf (off + 40) 18
      version := charsAt buf (off + 58) 32
      name := charsAt buf (off + 90) 128 }
  connInfo := ⟨intAt buf (off + 716), intAt buf (off + 720), intAt buf (off + 724)⟩

/-- `MsgType`; every other value is unknown. -/
inductive MsgType
  | heartbeatReq
  | heartbeatRsp
  | command
  | response
  | unknown
  deriving DecidableEq, Repr

/-- `header.type`. -/
def msgType (buf : ℕ → UInt8) : MsgType :=
  match wordAt buf 8 with
  | 0 => .heartbeatReq
  | 1 => .heartbeatRsp
  | 2 => .command
  | 3 => .response
  | _ => .unknown

/-- A type with which the datagram is read as a description. -/
def MsgType.isHeartbeat : MsgType → Bool
  | .heartbeatReq | .heartbeatRsp => true
  | .command | .response | .unknown => false

/-- Where the description starts: behind the header and the gap byte. -/
def Layout.infoOffset (lay : Layout) : ℕ := lay.headerSize + 1

/-- The heartbeat a buffer is read as. -/
def heartbeatAt (lay : Layout) (buf : ℕ → UInt8) (addr : SockAddrIn) (time : ℕ) : Heartbeat :=
  ⟨nodeInfoAt buf lay.infoOffset, addr, time⟩

/-- `parse_data`, as far as it concerns the node list; a request is answered
with the description of the local device as well. -/
def parseData (lay : Layout) (l : List Node) (addr : SockAddrIn) (time : ℕ) (buf : ℕ → UInt8) :
    List Node :=
  match msgType buf with
  | .heartbeatReq => parseDataHeartbeat l (heartbeatAt lay buf addr time)
  | .heartbeatRsp => parseDataHeartbeat l (heartbeatAt lay buf addr time)
  | .command | .response | .unknown => l

/-- A datagram, as long as `recvfrom` takes it. -/
abbrev Datagram := { data : List UInt8 // data.length < bufSize }

/-- The tag of the service. -/
def tag : List UInt8 := "WTSL".toList.map fun c => UInt8.ofNat c.toNat

/-- The datagram starts with the tag, and has room for the header, the gap
byte and a whole description. -/
def WellFormed (lay : Layout) (d : Datagram) : Prop :=
  tag <+: d.val ∧ lay.infoOffset + lay.splinkInfoSize ≤ d.val.length

/-- The byte is read as part of a node's description. -/
def Interpreted (lay : Layout) (d : Datagram) (i : ℕ) : Prop :=
  (msgType (recvBuf d.val)).isHeartbeat = true ∧ lay.infoOffset ≤ i ∧
    i < lay.infoOffset + nodeInfoSize

/-- A datagram that is not well formed leaves the list as it is, and what is
read as a node's description was received. -/
def Guarded (lay : Layout) (l : List Node) (addr : SockAddrIn) (time : ℕ) (d : Datagram) : Prop :=
  ¬ WellFormed lay d → parseData lay l addr time (recvBuf d.val) = l ∧
    ∀ i, Interpreted lay d i → i < d.val.length

/-- A heartbeat that changes nothing: its MAC is listed, and the node at the
sender's address, if there is one, is as the heartbeat would write it. -/
def ReportSettled (l : List Node) (h : Heartbeat) : Prop :=
  (∃ n ∈ visited l, n.mac = h.mac) ∧
    ∀ n ∈ (visited l).find? (fun n => n.addr == h.addr), n.report h = n

/-- The condition on a datagram: it is well formed, or no heartbeat, or its
description was received and changes nothing. -/
def DatagramOk (lay : Layout) (l : List Node) (addr : SockAddrIn) (time : ℕ) (d : Datagram) : Prop :=
  WellFormed lay d ∨ (msgType (recvBuf d.val)).isHeartbeat = false ∨
    (lay.infoOffset + nodeInfoSize ≤ d.val.length ∧
      ReportSettled l (heartbeatAt lay (recvBuf d.val) addr time))

variable {lay : Layout} {l : List Node} {h : Heartbeat} {addr : SockAddrIn} {time : ℕ}
  {buf buf' : ℕ → UInt8}

/-! ### What is read -/

theorem wordAt_congr {off : ℕ} (hb : ∀ i, off ≤ i → i < off + 4 → buf i = buf' i) :
    wordAt buf off = wordAt buf' off := by
  rw [wordAt, wordAt, hb off le_rfl (by omega), hb (off + 1) (by omega) (by omega),
    hb (off + 2) (by omega) (by omega), hb (off + 3) (by omega) (by omega)]

theorem intAt_congr {off : ℕ} (hb : ∀ i, off ≤ i → i < off + 4 → buf i = buf' i) :
    intAt buf off = intAt buf' off := by
  rw [intAt, intAt, wordAt_congr hb]

theorem charsAt_congr {off n : ℕ} (hb : ∀ i, off ≤ i → i < off + n → buf i = buf' i) :
    charsAt buf off n = charsAt buf' off n := by
  refine Subtype.ext (List.map_congr_left fun i hi => ?_)
  rw [hb (off + i) (by omega) (by have := List.mem_range.mp hi; omega)]

/-- A description is the bytes of its node info. -/
theorem nodeInfoAt_congr {off : ℕ}
    (hb : ∀ i, off ≤ i → i < off + nodeInfoSize → buf i = buf' i) :
    nodeInfoAt buf off = nodeInfoAt buf' off := by
  have hsub : ∀ k m, k + m ≤ nodeInfoSize → ∀ i, off + k ≤ i → i < off + k + m → buf i = buf' i :=
    fun k m hkm i h1 h2 => hb i (by omega) (by omega)
  unfold nodeInfoAt
  rw [intAt_congr fun i h1 h2 => hb i h1 (h2.trans_le (Nat.add_le_add_left (by decide) off)),
    intAt_congr (hsub 4 4 (by decide)),
    intAt_congr (hsub 8 4 (by decide)), intAt_congr (hsub 12 4 (by decide)),
    intAt_congr (hsub 16 4 (by decide)), charsAt_congr (hsub 24 16 (by decide)),
    charsAt_congr (hsub 40 18 (by decide)), charsAt_congr (hsub 58 32 (by decide)),
    charsAt_congr (hsub 90 128 (by decide)), intAt_congr (hsub 716 4 (by decide)),
    intAt_congr (hsub 720 4 (by decide)), intAt_congr (hsub 724 4 (by decide))]

/-- **What `parse_data` depends on**: the type of the header and, for a
heartbeat, the bytes of the description. -/
theorem parseData_congr (htype : ∀ i, 8 ≤ i → i < 12 → buf i = buf' i)
    (hinfo : (msgType buf).isHeartbeat = true →
      ∀ i, lay.infoOffset ≤ i → i < lay.infoOffset + nodeInfoSize → buf i = buf' i) :
    parseData lay l addr time buf = parseData lay l addr time buf' := by
  have ht : msgType buf = msgType buf' := by
    rw [msgType, msgType, wordAt_congr htype]
  unfold parseData
  rw [← ht]
  cases hm : msgType buf with
  | heartbeatReq | heartbeatRsp =>
    have hbuf := hinfo (by rw [hm]; rfl)
    simp only [heartbeatAt, nodeInfoAt_congr hbuf]
  | command | response | unknown => rfl

/-! ### Heartbeats that change nothing -/

/-- Looking among what a list of indices leads to is looking along the indices. -/
theorem find?_filterMap_any {α β : Type*} (g : α → Option β) (p : β → Bool) : ∀ xs : List α,
    (xs.filterMap g).find? p = (xs.find? fun x => (g x).any p).bind g
  | [] => rfl
  | x :: xs => by
    rw [List.filterMap_cons, List.find?_cons]
    cases hg : g x with
    | none => simp [find?_filterMap_any g p xs]
    | some b =>
      cases hp : p b with
      | true => simp [hp, hg]
      | false => simp [hp, find?_filterMap_any g p xs]

theorem isNodeNotExist_eq_false_iff : isNodeNotExist l h.info = false ↔
    ∃ n ∈ visited l, n.mac = h.mac := by
  unfold isNodeNotExist visited
  rw [List.all_eq_false]
  simp only [List.mem_filterMap]
  constructor
  · rintro ⟨i, hi, hm⟩
    cases hf : findWtslNodeById l i with
    | none => simp [hf] at hm
    | some n => exact ⟨n, ⟨i, hi, hf⟩, by simpa [hf, Heartbeat.mac] using hm⟩
  · rintro ⟨n, ⟨i, hi, hf⟩, hm⟩
    exact ⟨i, hi, by rw [hf]; simpa [Heartbeat.mac] using hm⟩

/-- An update leaves a list as it is if it leaves the first match as it is. -/
theorem updateFirst_eq_self_iff {p : Node → Bool} {f : Node → Node} :
    updateFirst p f l = l ↔ ∀ n ∈ l.find? p, f n = n := by
  cases hf : l.find? p with
  | none => simp [updateFirst_of_none hf]
  | some n =>
    obtain ⟨l₁, l₂, hl, -, hu⟩ := updateFirst_of_some (f := f) hf
    rw [hu, hl]
    simp

/-- The place of an update, looked for among the nodes that are visited. -/
theorem updateHeartbeat_find? :
    ((List.range l.length).find? fun i : ℕ => (findWtslNodeById l i).any fun n => n.addr == h.addr).bind
      (fun i : ℕ => findWtslNodeById l i) = (visited l).find? fun n => n.addr == h.addr :=
  (find?_filterMap_any _ _ _).symm

theorem any_eq_match (o : Option Node) (addr : SockAddrIn) :
    (o.any fun n => n.addr == addr) =
      match o with
      | none => false
      | some n => n.addr == addr := by
  cases o with
  | none => rfl
  | some n => rfl

theorem updateHeartbeat_eq : updateHeartbeat l h =
    match (List.range l.length).find? fun i : ℕ =>
      (findWtslNodeById l i).any fun n => n.addr == h.addr with
    | none => l
    | some i => updateFirst (fun n => (n.id : ℤ) == i) (Node.report h) l := by
  have hany := funext fun i : ℕ => any_eq_match (findWtslNodeById l i) h.addr
  rw [hany]
  rfl

/-- An update keeps the list exactly if the node it meets at the sender's
address is as it would write it. -/
theorem updateHeartbeat_eq_self_iff : updateHeartbeat l h = l ↔
    ∀ n ∈ (visited l).find? (fun n => n.addr == h.addr), n.report h = n := by
  rw [updateHeartbeat_eq, ← updateHeartbeat_find?]
  split
  · rename_i hfind
    rw [hfind]
    simp
  · rename_i i hfind
    rw [hfind, Option.bind_some]
    exact updateFirst_eq_self_iff

/-- A heartbeat leaves the list as it is exactly if it is settled. -/
theorem parseDataHeartbeat_eq_self_iff : parseDataHeartbeat l h = l ↔ ReportSettled l h := by
  unfold parseDataHeartbeat ReportSettled
  rw [← isNodeNotExist_eq_false_iff, ← updateHeartbeat_eq_self_iff]
  cases hn : isNodeNotExist l h.info with
  | true => simp
  | false => simp

/-- For every node list, a datagram is guarded against if and only if it meets
the condition. -/
theorem parseData_guarded_iff (lay : Layout) (l : List Node) (addr : SockAddrIn) (time : ℕ)
    (d : Datagram) : Guarded lay l addr time d ↔ DatagramOk lay l addr time d := by
  unfold Guarded DatagramOk
  by_cases hw : WellFormed lay d
  · exact iff_of_true (fun hn => absurd hw hn) (.inl hw)
  · simp only [hw, not_false_eq_true, true_imp_iff, false_or]
    cases hb : (msgType (recvBuf d.val)).isHeartbeat with
    | false =>
      refine iff_of_true ⟨?_, fun i hi => ?_⟩ (.inl rfl)
      · unfold parseData
        cases hm : msgType (recvBuf d.val) <;> rw [hm] at hb <;> first | rfl | exact nomatch hb
      · rw [Interpreted, hb] at hi
        exact nomatch hi.1
    | true =>
      have hparse : parseData lay l addr time (recvBuf d.val) =
          parseDataHeartbeat l (heartbeatAt lay (recvBuf d.val) addr time) := by
        unfold parseData
        cases hm : msgType (recvBuf d.val) <;> rw [hm] at hb <;> first | rfl | exact nomatch hb
      have hrange : (∀ i, Interpreted lay d i → i < d.val.length) ↔
          lay.infoOffset + nodeInfoSize ≤ d.val.length := by
        constructor
        · intro hall
          have hpos : 0 < nodeInfoSize := by decide
          have := hall (lay.infoOffset + nodeInfoSize - 1) ⟨hb, by omega, by omega⟩
          omega
        · rintro hle i ⟨-, -, hi⟩
          omega
      rw [hparse, parseDataHeartbeat_eq_self_iff, hrange]
      simp only [Bool.true_eq_false, false_or]
      exact and_comm

/-- An empty datagram. -/
def emptyDatagram : Datagram := ⟨[], by decide⟩

/-- An empty datagram adds a node without a MAC, read from behind the received bytes. -/
theorem empty_datagram_adds :
    (parseData layout64 NodeState.alone.list ⟨0x0a000009, 9000⟩ 10 (recvBuf emptyDatagram.val)).map
        (fun n => cstr n.mac.val) = ["0a:00:00:00:00:01".toList, []] ∧
      Interpreted layout64 emptyDatagram 33 ∧
      ¬ Guarded layout64 NodeState.alone.list ⟨0x0a000009, 9000⟩ 10 emptyDatagram := by
  have hparse : (parseData layout64 NodeState.alone.list ⟨0x0a000009, 9000⟩ 10
      (recvBuf emptyDatagram.val)).map (fun n => cstr n.mac.val) =
        ["0a:00:00:00:00:01".toList, []] := by decide
  refine ⟨hparse, ⟨by decide, by decide, by decide⟩, fun hg => ?_⟩
  have hlist := (hg fun hw => absurd hw.2 (by decide)).1
  rw [hlist] at hparse
  exact absurd hparse (by decide)

end WtslCore
