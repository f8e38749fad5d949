/-
# A heartbeat on the wire

`send_data_to_addr` puts a header, a gap byte and a raw copy of
`global_node_info` into a datagram; the receiver reads the copy where it lies.
The description of a node in memory (`nodeInfoBytes`) is read back field by
field (`nodeInfoAt_nodeInfoBytes`), so a heartbeat is handled as the
description it was made of (`parseData_sendDataToAddr`).

Key definitions: `intBytes`, `charBytes`, `nodeInfoBytes`,
`NodeInfo.Representable`, `heartbeatBytes`.
Key theorems: `nodeInfoAt_nodeInfoBytes`, `parseData_heartbeatBytes`,
`parseData_sendDataToAddr`.
-/
import WtslCore.Node.Framing

namespace WtslCore

/-! ### Fields in memory -/

/-- An `int`. -/
def intBytes (v : ℤ) : List UInt8 := leBytes 4 (v % 4294967296).toNat

/-- An array of characters. -/
def charBytes {n : ℕ} (a : CharArray n) : List UInt8 := a.val.map fun c => UInt8.ofNat c.toNat

@[simp] theorem length_intBytes (v : ℤ) : (intBytes v).length = 4 := length_leBytes 4 _

@[simp] theorem length_charBytes {n : ℕ} (a : CharArray n) : (charBytes a).length = n := by
  rw [charBytes, List.length_map]
  exact a.property

section

variable {pre bs : List UInt8} {off : ℕ}

theorem recvBuf_append (pre bs : List UInt8) (i : ℕ) :
    recvBuf (pre ++ bs) (pre.length + i) = recvBuf bs i := by
  unfold recvBuf
  rw [List.getD_eq_getElem?_getD, List.getElem?_append_right (Nat.le_add_right _ _),
    Nat.add_sub_cancel_left, ← List.getD_eq_getElem?_getD]

theorem recvBuf_skip (h : pre.length ≤ off) (i : ℕ) :
    recvBuf (pre ++ bs) (off + i) = recvBuf bs (off - pre.length + i) := by
  have hoff : off + i = pre.length + (off - pre.length + i) := by omega
  rw [hoff, recvBuf_append]

/-- A field behind other bytes. -/
theorem wordAt_skip (h : pre.length ≤ off) :
    wordAt (recvBuf (pre ++ bs)) off = wordAt (recvBuf bs) (off - pre.length) := by
  have h0 := @recvBuf_skip pre bs off h 0
  rw [Nat.add_zero, Nat.add_zero] at h0
  unfold wordAt
  rw [h0, recvBuf_skip h, recvBuf_skip h, recvBuf_skip h]

theorem intAt_skip (h : pre.length ≤ off) :
    intAt (recvBuf (pre ++ bs)) off = intAt (recvBuf bs) (off - pre.length) := by
  unfold intAt
  rw [wordAt_skip h]

theorem charsAt_skip {n : ℕ} (h : pre.length ≤ off) :
    charsAt (recvBuf (pre ++ bs)) off n = charsAt (recvBuf bs) (off - pre.length) n := by
  refine Subtype.ext (List.map_congr_left fun i _ => ?_)
  rw [recvBuf_skip h]

theorem wordAt_leBytes (n : ℕ) (bs : List UInt8) :
    wordAt (recvBuf (leBytes 4 n ++ bs)) 0 = n % 4294967296 := by
  have hvalue := leValue_leBytes 4 n
  have hword : wordAt (recvBuf (leBytes 4 n ++ bs)) 0 = leValue (leBytes 4 n) := rfl
  rw [hword, hvalue]
  rfl

/-- **An `int` is read back.** -/
theorem intAt_intBytes {v : ℤ} (hv : -2147483648 ≤ v ∧ v < 2147483648) (bs : List UInt8) :
    intAt (recvBuf (intBytes v ++ bs)) 0 = v := by
  unfold intAt intBytes
  rw [wordAt_leBytes]
  split_ifs with hlow <;> omega

/-- **An array is read back.** -/
theorem charsAt_charBytes {n : ℕ} {a : CharArray n} (ha : ∀ c ∈ a.val, c.toNat < 256)
    (bs : List UInt8) : charsAt (recvBuf (charBytes a ++ bs)) 0 n = a := by
  obtain ⟨cs, hcs⟩ := a
  refine Subtype.ext (List.ext_getElem? fun i => ?_)
  simp only [charsAt, List.getElem?_map, Nat.zero_add]
  by_cases hi : i < n
  · rw [List.getElem?_range hi, Option.map_some]
    obtain ⟨c, hc⟩ : ∃ c, cs[i]? = some c := ⟨_, List.getElem?_eq_getElem (hcs.symm ▸ hi)⟩
    have hlt : c.toNat < 256 := ha c (List.mem_of_getElem? hc)
    have hroom : i < (charBytes ⟨cs, hcs⟩).length := by
      rw [length_charBytes]
      exact hi
    have hread : recvBuf (charBytes ⟨cs, hcs⟩ ++ bs) i = UInt8.ofNat c.toNat := by
      rw [recvBuf, List.getD_eq_getElem?_getD, List.getElem?_append_left hroom, charBytes,
        List.getElem?_map, hc]
      rfl
    rw [hread, UInt8.toNat_ofNat', Nat.mod_eq_of_lt hlt, Char.ofNat_toNat, hc]
  · rw [List.getElem?_eq_none (by rw [List.length_range]; exact Nat.not_lt.mp hi),
      List.getElem?_eq_none (hcs.symm ▸ Nat.not_lt.mp hi)]
    rfl

end

/-! ### The description of a node -/

/-- The bytes between `rssi` and `ip`, and those behind `name`: fields the
service copies and does not look at. -/
structure OtherFields where
  domainCnt : List UInt8
  behindName : List UInt8
  length_domainCnt : domainCnt.length = 4
  length_behindName : behindName.length = 498

/-- `WTSLNodeInfo` in memory. -/
def nodeInfoBytes (info : NodeInfo) (o : OtherFields) : List UInt8 :=
  let b := info.basicInfo
  intBytes b.bw ++ (intBytes b.tfcBw ++ (intBytes b.channel ++ (intBytes b.type ++ (intBytes b.rssi ++
    (o.domainCnt ++ (charBytes b.ip ++ (charBytes b.mac ++ (charBytes b.version ++ (charBytes b.name ++
      (o.behindName ++ (intBytes info.connInfo.status ++ (intBytes info.connInfo.rtt ++
        intBytes info.connInfo.lastSyncTime))))))))))))

/-- A value an `int` holds. -/
def IsInt (v : ℤ) : Prop := -2147483648 ≤ v ∧ v < 2147483648

/-- An array of `char`. -/
def IsBytes {n : ℕ} (a : CharArray n) : Prop := ∀ c ∈ a.val, c.toNat < 256

/-- The fields are what the types of the source hold. -/
structure NodeInfo.Representable (info : NodeInfo) : Prop where
  bw : IsInt info.basicInfo.bw
  tfcBw : IsInt info.basicInfo.tfcBw
  channel : IsInt info.basicInfo.channel
  type : IsInt info.basicInfo.type
  rssi : IsInt info.basicInfo.rssi
  ip : IsBytes info.basicInfo.ip
  mac : IsBytes info.basicInfo.mac
  version : IsBytes info.basicInfo.version
  name : IsBytes info.basicInfo.name
  status : IsInt info.connInfo.status
  rtt : IsInt info.connInfo.rtt
  lastSyncTime : IsInt info.connInfo.lastSyncTime

theorem length_nodeInfoBytes (info : NodeInfo) (o : OtherFields) :
    (nodeInfoBytes info o).length = nodeInfoSize := by
  simp only [nodeInfoBytes, List.length_append, length_intBytes, length_charBytes, o.length_domainCnt,
    o.length_behindName]
  rfl

/-- **A description is read back**, whatever follows it. -/
theorem nodeInfoAt_nodeInfoBytes {info : NodeInfo} (h : info.Representable) (o : OtherFields)
    (bs : List UInt8) : nodeInfoAt (recvBuf (nodeInfoBytes info o ++ bs)) 0 = info := by
  obtain ⟨⟨bw, tfcBw, channel, type, rssi, ip, mac, version, name⟩, ⟨status, rtt, lastSyncTime⟩⟩ := info
  obtain ⟨hbw, htfcBw, hchannel, htype, hrssi, hip, hmac, hversion, hname, hstatus, hrtt, hsync⟩ := h
  simp only [nodeInfoAt, nodeInfoBytes, List.append_assoc, Nat.zero_add]
  simp (disch := simp [o.length_domainCnt, o.length_behindName]) only [intAt_skip, charsAt_skip,
    length_intBytes, length_charBytes, o.length_domainCnt, o.length_behindName, Nat.reduceSub,
    intAt_intBytes hbw, intAt_intBytes htfcBw, intAt_intBytes hchannel, intAt_intBytes htype,
    intAt_intBytes hrssi, charsAt_charBytes hip, charsAt_charBytes hmac, charsAt_charBytes hversion,
    charsAt_charBytes hname, intAt_intBytes hstatus, intAt_intBytes hrtt, intAt_intBytes hsync]

/-! ### A datagram -/

section

variable {lay : HeaderLayout} {pad : ℕ → UInt8} {now : BitVec (8 * lay.timeSize)} {type : BitVec 32}
  {data : List UInt8}

/-- What is sent of data of the right size: the header, the gap byte and the
data. -/
def heartbeatBytes (lay : HeaderLayout) (pad : ℕ → UInt8) (now : BitVec (8 * lay.timeSize))
    (type : BitVec 32) (data : List UInt8) : List UInt8 :=
  (dataHeader lay type now).bytes pad ++ ([0] ++ data)

theorem length_heartbeatBytes : (heartbeatBytes lay pad now type data).length =
    lay.infoOffset + data.length := by
  simp only [heartbeatBytes, List.length_append, NodeDataHeader.length_bytes, List.length_singleton,
    Layout.infoOffset]
  omega

/-- Data of the right size is sent, and fits the buffer of the receiver. -/
theorem sendDataToAddr_fits (hdata : data.length = lay.splinkInfoSize) :
    sendDataToAddr lay pad now type data = ⟨0, [heartbeatBytes lay pad now type data]⟩ ∧
      (heartbeatBytes lay pad now type data).length < bufSize := by
  have hfits := lay.fits
  have hroom : lay.headerSize + 1 + data.length < sendBufSize := by
    rw [hdata]
    exact hfits
  refine ⟨sendDataToAddr_of_lt pad now type hroom, ?_⟩
  rw [length_heartbeatBytes]
  exact hroom

theorem wellFormed_heartbeatBytes (hdata : data.length = lay.splinkInfoSize)
    (hfits : (heartbeatBytes lay pad now type data).length < bufSize) :
    WellFormed lay.toLayout ⟨heartbeatBytes lay pad now type data, hfits⟩ := by
  constructor
  · simp only [heartbeatBytes, NodeDataHeader.bytes, dataHeader, List.append_assoc]
    exact List.prefix_append tag _
  · dsimp only
    rw [length_heartbeatBytes, hdata]

/-- The type of what is sent. -/
theorem wordAt_heartbeatBytes : wordAt (recvBuf (heartbeatBytes lay pad now type data)) 8 =
    type.toNat := by
  have htag : (dataHeader lay type now).tag.length ≤ 8 := (dataHeader lay type now).tag_length.le
  have hword : type.toNat < 4294967296 := type.isLt
  simp only [heartbeatBytes, NodeDataHeader.bytes, List.append_assoc]
  rw [wordAt_skip htag, (dataHeader lay type now).tag_length]
  exact (wordAt_leBytes _ _).trans (Nat.mod_eq_of_lt hword)

/-- The description in what is sent is the data. -/
theorem nodeInfoAt_heartbeatBytes :
    nodeInfoAt (recvBuf (heartbeatBytes lay pad now type data)) lay.infoOffset =
      nodeInfoAt (recvBuf data) 0 := by
  obtain ⟨pre, hpre⟩ : ∃ pre, (dataHeader lay type now).bytes pad ++ [0] = pre := ⟨_, rfl⟩
  have hbytes : heartbeatBytes lay pad now type data = pre ++ data := by
    rw [← hpre, List.append_assoc]
    rfl
  have hlen : pre.length = lay.infoOffset := by
    rw [← hpre, List.length_append, NodeDataHeader.length_bytes]
    rfl
  have hint : ∀ off, intAt (recvBuf (pre ++ data)) (lay.infoOffset + off) =
      intAt (recvBuf data) off := by
    intro off
    rw [intAt_skip (by omega), hlen, Nat.add_sub_cancel_left]
  have hchars : ∀ off n, charsAt (recvBuf (pre ++ data)) (lay.infoOffset + off) n =
      charsAt (recvBuf data) off n := by
    intro off n
    rw [charsAt_skip (by omega), hlen, Nat.add_sub_cancel_left]
  have hfirst := hint 0
  rw [Nat.add_zero] at hfirst
  rw [hbytes]
  simp only [nodeInfoAt, hfirst, hint, hchars, Nat.zero_add]

/-- `MSG_HEARTBEAT_REQ` and `MSG_HEARTBEAT_RSP`. -/
def msgHeartbeatReq : BitVec 32 := 0
def msgHeartbeatRsp : BitVec 32 := 1

theorem msgType_heartbeatReq :
    msgType (recvBuf (heartbeatBytes lay pad now msgHeartbeatReq data)) = .heartbeatReq := by
  unfold msgType
  rw [wordAt_heartbeatBytes]
  rfl

theorem msgType_heartbeatRsp :
    msgType (recvBuf (heartbeatBytes lay pad now msgHeartbeatRsp data)) = .heartbeatRsp := by
  unfold msgType
  rw [wordAt_heartbeatBytes]
  rfl

/-- What is sent as a heartbeat is handled as the description in the data. -/
theorem parseData_heartbeatBytes (htype : type = msgHeartbeatReq ∨ type = msgHeartbeatRsp)
    (l : List Node) (addr : SockAddrIn) (t : ℕ) :
    parseData lay.toLayout l addr t (recvBuf (heartbeatBytes lay pad now type data)) =
      parseDataHeartbeat l ⟨nodeInfoAt (recvBuf data) 0, addr, t⟩ := by
  have hinfo := @nodeInfoAt_heartbeatBytes lay pad now type data
  unfold parseData heartbeatAt
  rcases htype with rfl | rfl
  · rw [msgType_heartbeatReq, hinfo]
  · rw [msgType_heartbeatRsp, hinfo]

/-- **A heartbeat is handled as the description it was made of**: a request or
a response with a representable description is sent, is well formed, and
changes the node list as the description does. -/
theorem parseData_sendDataToAddr (lay : HeaderLayout) (pad : ℕ → UInt8)
    (now : BitVec (8 * lay.timeSize)) {type : BitVec 32}
    (htype : type = msgHeartbeatReq ∨ type = msgHeartbeatRsp) {info : NodeInfo}
    (hinfo : info.Representable) (o : OtherFields) {rest : List UInt8}
    (hrest : nodeInfoSize + rest.length = lay.splinkInfoSize) :
    ∃ d : Datagram, sendDataToAddr lay pad now type (nodeInfoBytes info o ++ rest) = ⟨0, [d.val]⟩ ∧
      WellFormed lay.toLayout d ∧ ∀ l addr t, parseData lay.toLayout l addr t (recvBuf d.val) =
        parseDataHeartbeat l ⟨info, addr, t⟩ := by
  have hdata : (nodeInfoBytes info o ++ rest).length = lay.splinkInfoSize := by
    rw [List.length_append, length_nodeInfoBytes, hrest]
  obtain ⟨hsent, hfits⟩ := @sendDataToAddr_fits lay pad now type _ hdata
  refine ⟨⟨_, hfits⟩, hsent, wellFormed_heartbeatBytes hdata hfits, fun l addr t => ?_⟩
  rw [parseData_heartbeatBytes htype, nodeInfoAt_nodeInfoBytes hinfo]

end

theorem isBytes_ofStr {n : ℕ} {s : CStr} (hs : ∀ c ∈ s, c.toNat < 256) :
    IsBytes (CharArray.ofStr n s) := by
  intro c hc
  rcases List.mem_append.mp hc with hc | hc
  · exact hs c (List.mem_of_mem_take hc)
  · rw [(List.mem_replicate.mp hc).2]
    decide

theorem isInt_zero : IsInt 0 := by unfold IsInt; decide

/-- Zeros in the other fields. -/
def zeroFields : OtherFields :=
  ⟨List.replicate 4 0, List.replicate 498 0, List.length_replicate, List.length_replicate⟩

/-- The description of a device with a MAC and nothing else. -/
def blankInfo (mac : CStr) : NodeInfo := ⟨.blank mac, ⟨0, 0, 0⟩⟩

theorem representable_blankInfo {mac : CStr} (h : ∀ c ∈ mac, c.toNat < 256) :
    (blankInfo mac).Representable :=
  ⟨isInt_zero, isInt_zero, isInt_zero, isInt_zero, isInt_zero, isBytes_ofStr nofun, isBytes_ofStr h,
    isBytes_ofStr nofun, isBytes_ofStr nofun, isInt_zero, isInt_zero, isInt_zero⟩

/-- The rest of a description on a 64-bit device. -/
def zeroRest : List UInt8 := List.replicate 120 0

theorem length_zeroRest : nodeInfoSize + zeroRest.length = headerLayout64.splinkInfoSize := by
  rw [zeroRest, List.length_replicate]
  rfl

theorem parseData_sendDataToAddr_blank :
    ∃ d : Datagram, sendDataToAddr headerLayout64 (fun _ => 0) 0 msgHeartbeatReq
        (nodeInfoBytes (blankInfo "0a:00:00:00:00:01".toList) zeroFields ++ zeroRest) = ⟨0, [d.val]⟩ ∧
      WellFormed headerLayout64.toLayout d ∧
      ∀ l addr t, parseData headerLayout64.toLayout l addr t (recvBuf d.val) =
        parseDataHeartbeat l ⟨blankInfo "0a:00:00:00:00:01".toList, addr, t⟩ :=
  parseData_sendDataToAddr headerLayout64 (fun _ => 0) 0 (.inl rfl)
    (representable_blankInfo (by decide)) zeroFields length_zeroRest

end WtslCore
