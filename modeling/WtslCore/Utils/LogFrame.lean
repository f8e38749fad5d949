/-
# The frame of a log upload

`build_log_upload_frame` writes a payload between a header of ten fields and a
trailer. Addresses are bit fields put together by shifts, numbers are raw
copies of their low bytes: two of the sequence number, four of an address and
of the type, and three of the length, which has four bytes or more in memory.
Nothing looks at the length before it is cut to three bytes. A receiver reads
the fields in their order and takes as many bytes of payload as the frame says
(`decodeFrame`).

A frame is read back if and only if its length fits the field
(`logFrame_faithful_iff`); a longer one is built with a wrong length instead of
being rejected, and from 26 bytes below the end of the address space on it is
written past its memory.

Key definitions: `Address32`, `Payload`, `buildLogUploadFrame`, `LogFrame`,
`decodeFrame`, `FrameFaithful`.
Key theorems: `ofWord_addressToLittleEndian`, `decodeFrame_bytes`,
`logFrame_faithful_iff`.
-/
import Mathlib.Data.Nat.Bitwise
import WtslCore.Lib.LittleEndian

namespace WtslCore

/-- `FRAME_HEADER`, `FRAME_FOOTER` and `EXTENDED_IDENTIFIER`. -/
def frameHeader : ℕ := 0x5A5A
def frameFooter : ℕ := 0x0D0A
def extendedIdentifier : ℕ := 0

/-- `address_32bit_t`. -/
structure Address32 where
  reserved : Fin 4
  subnetId : Fin 16384
  tNodeId : UInt8
  deviceId : UInt8
  deriving DecidableEq

/-- What `build_log_upload_frame` is given to send: bytes, as many as a
`size_t` counts, and not none. -/
structure Payload where
  data : List UInt8
  nonempty : 0 < data.length
  fits : data.length < 4294967296

/-- `calculate_checksum`. -/
def calculateChecksum (data : List UInt8) : ℕ := (data.foldl (fun checksum b => checksum ^^^ b) 0).toNat

/-- `address_to_little_endian`. -/
def addressToLittleEndian (addr : Address32) : ℕ :=
  (addr.deviceId.toNat &&& 0xFF) ||| ((addr.tNodeId.toNat &&& 0xFF) <<< 8) |||
    ((addr.subnetId.val &&& 0x3FFF) <<< 16) ||| ((addr.reserved.val &&& 0x03) <<< 30)

/-- What becomes of a frame. -/
inductive FrameResult
  /-- `-1`. -/
  | rejected
  /-- `0`, with `frame_data` and `frame_length`. -/
  | built (frame : List UInt8) (frameLength : ℕ)
  /-- More was written than was allocated. -/
  | overrun
  deriving DecidableEq

section

variable (source dest : Address32) (frameSeq : UInt16) (data : List UInt8) (dataType : UInt32)
  (dataIdentifier : UInt8)

/-- What is written before the checksum. -/
def frameBody : List UInt8 :=
  leBytes 2 frameHeader ++ leBytes 2 frameSeq.toNat ++ leBytes 4 (addressToLittleEndian source) ++
    leBytes 4 (addressToLittleEndian dest) ++ leBytes 4 dataType.toNat ++ leBytes 3 data.length ++
    [dataIdentifier] ++ data ++ leBytes 2 extendedIdentifier

/-- All that is written. -/
def frameBytes : List UInt8 :=
  let body := frameBody source dest frameSeq data dataType dataIdentifier
  body ++ leBytes 2 (calculateChecksum body) ++ leBytes 2 frameFooter

/-- `build_log_upload_frame`, and the counter after it; `malloc` tells whether
there is memory, and `data` is not NULL. -/
def buildLogUploadFrame (malloc : Bool) : FrameResult × UInt16 :=
  if data.length = 0 then (.rejected, frameSeq)
  else
    let frameLength := (2 + 2 + 4 + 4 + 4 + 4 + data.length + 2 + 2 + 2) % 4294967296
    if malloc = false then (.rejected, frameSeq)
    else
      let bytes := frameBytes source dest frameSeq data dataType dataIdentifier
      (if frameLength < bytes.length then .overrun else .built bytes frameLength, frameSeq + 1)

end

/-! ### The layout -/

/-- What a frame says. -/
structure LogFrame where
  seq : ℕ
  source : Address32
  dest : Address32
  dataType : ℕ
  dataLength : ℕ
  dataIdentifier : ℕ
  payload : List UInt8
  deriving DecidableEq

/-- The address in a word: 2 bits reserved, 14 of the subnet, 8 of the T node
and 8 of the device. -/
def Address32.ofWord (w : ℕ) : Address32 :=
  ⟨Fin.ofNat 4 (w / 1073741824), Fin.ofNat 16384 (w / 65536), UInt8.ofNat (w / 256), UInt8.ofNat w⟩

/-- The fields in front of the payload, as numbers. -/
structure FrameHead where
  header : ℕ
  seq : ℕ
  source : ℕ
  dest : ℕ
  dataType : ℕ
  dataLength : ℕ
  dataIdentifier : ℕ

/-- The fields in front, and what follows them. -/
def takeHead (bs : List UInt8) : Option (FrameHead × List UInt8) :=
  (takeField 2 bs).bind fun (header, bs) => (takeField 2 bs).bind fun (seq, bs) =>
  (takeField 4 bs).bind fun (source, bs) => (takeField 4 bs).bind fun (dest, bs) =>
  (takeField 4 bs).bind fun (dataType, bs) => (takeField 3 bs).bind fun (dataLength, bs) =>
  (takeField 1 bs).map fun (dataIdentifier, bs) =>
    (⟨header, seq, source, dest, dataType, dataLength, dataIdentifier⟩, bs)

/-- The frame read by its layout: the fields in front, as many bytes as the
length says, then the extension, the checksum of all before it, and the
footer. -/
def decodeFrame (bs : List UInt8) : Option LogFrame :=
  (takeHead bs).bind fun (head, rest) =>
  (takeField 2 (rest.drop head.dataLength)).bind fun (_, trailer) =>
  (takeField 2 trailer).bind fun (checksum, bs') => (takeField 2 bs').bind fun (footer, bs'') =>
    if head.header = frameHeader ∧ head.dataLength ≤ rest.length ∧
        checksum = calculateChecksum (bs.take (bs.length - trailer.length)) ∧
        footer = frameFooter ∧ bs'' = []
    then some ⟨head.seq, .ofWord head.source, .ofWord head.dest, head.dataType, head.dataLength,
      head.dataIdentifier, rest.take head.dataLength⟩
    else none

/-! ### Fields -/

theorem or_shiftLeft {n b : ℕ} (a : ℕ) (hb : b < 2 ^ n) : b ||| a <<< n = b + 2 ^ n * a := by
  rw [Nat.lor_comm, ← Nat.shiftLeft_add_eq_or_of_lt hb, Nat.shiftLeft_eq, Nat.mul_comm, Nat.add_comm]

/-- The fields of an address have 8, 8, 14 and 2 bits. -/
theorem Address32.fields_lt (addr : Address32) : addr.deviceId.toNat < 2 ^ 8 ∧
    addr.tNodeId.toNat < 2 ^ 8 ∧ addr.subnetId.val < 2 ^ 14 ∧ addr.reserved.val < 2 ^ 2 :=
  ⟨addr.deviceId.toNat_lt, addr.tNodeId.toNat_lt, addr.subnetId.isLt, addr.reserved.isLt⟩

/-- The word of an address as a sum: the fields do not overlap. -/
theorem addressToLittleEndian_eq (addr : Address32) :
    addressToLittleEndian addr = addr.deviceId.toNat + 256 * addr.tNodeId.toNat +
      65536 * addr.subnetId.val + 1073741824 * addr.reserved.val := by
  obtain ⟨hd, ht, hs, hr⟩ := addr.fields_lt
  unfold addressToLittleEndian
  rw [show 0xFF = 2 ^ 8 - 1 from rfl, show 0x3FFF = 2 ^ 14 - 1 from rfl,
    show 0x03 = 2 ^ 2 - 1 from rfl]
  simp only [Nat.and_two_pow_sub_one_eq_mod]
  rw [Nat.mod_eq_of_lt hd, Nat.mod_eq_of_lt ht, Nat.mod_eq_of_lt hs, Nat.mod_eq_of_lt hr,
    or_shiftLeft (n := 8) _ hd, or_shiftLeft (n := 16) _ (by omega), or_shiftLeft (n := 30) _ (by omega)]
  rfl

theorem addressToLittleEndian_lt (addr : Address32) : addressToLittleEndian addr < 256 ^ 4 := by
  obtain ⟨hd, ht, hs, hr⟩ := addr.fields_lt
  rw [addressToLittleEndian_eq]
  omega

/-- **The bit fields of an address are read back.** -/
theorem ofWord_addressToLittleEndian (addr : Address32) :
    Address32.ofWord (addressToLittleEndian addr) = addr := by
  obtain ⟨hd, ht, hs, hr⟩ := addr.fields_lt
  rw [addressToLittleEndian_eq]
  rcases addr with ⟨r, s, t, d⟩
  unfold Address32.ofWord
  congr 1
  · refine Fin.ext ?_
    rw [Fin.val_ofNat]
    dsimp only at *
    omega
  · refine Fin.ext ?_
    rw [Fin.val_ofNat]
    dsimp only at *
    omega
  · refine UInt8.toNat_inj.mp ?_
    rw [UInt8.toNat_ofNat']
    dsimp only at *
    omega
  · refine UInt8.toNat_inj.mp ?_
    rw [UInt8.toNat_ofNat']
    dsimp only at *
    omega

theorem calculateChecksum_lt (data : List UInt8) : calculateChecksum data < 256 ^ 2 :=
  Nat.lt_trans (UInt8.toNat_lt _) (by omega)

section

variable {source dest : Address32} {frameSeq : UInt16} {data : List UInt8} {dataType : UInt32}
  {dataIdentifier : UInt8}

theorem length_frameBytes :
    (frameBytes source dest frameSeq data dataType dataIdentifier).length = 26 + data.length := by
  simp only [frameBytes, frameBody, List.length_append, length_leBytes, List.length_singleton]
  omega

variable (source dest frameSeq data dataType dataIdentifier) in
/-- The fields in front are read back; of the length, its low three bytes. -/
theorem takeHead_frameBody (rest : List UInt8) :
    takeHead (frameBody source dest frameSeq data dataType dataIdentifier ++ rest) =
      some (⟨frameHeader, frameSeq.toNat, addressToLittleEndian source, addressToLittleEndian dest,
        dataType.toNat, data.length % 16777216, dataIdentifier.toNat⟩,
        data ++ (leBytes 2 extendedIdentifier ++ rest)) := by
  have hfields : frameBody source dest frameSeq data dataType dataIdentifier ++ rest =
      leBytes 2 frameHeader ++ (leBytes 2 frameSeq.toNat ++
        (leBytes 4 (addressToLittleEndian source) ++ (leBytes 4 (addressToLittleEndian dest) ++
          (leBytes 4 dataType.toNat ++ (leBytes 3 data.length ++
            (leBytes 1 dataIdentifier.toNat ++ (data ++ (leBytes 2 extendedIdentifier ++ rest)))))))) := by
    simp only [frameBody, leBytes_one, List.append_assoc]
  have hsource := Nat.mod_eq_of_lt (addressToLittleEndian_lt source)
  have hdest := Nat.mod_eq_of_lt (addressToLittleEndian_lt dest)
  have hseq : frameSeq.toNat % 256 ^ 2 = frameSeq.toNat := Nat.mod_eq_of_lt frameSeq.toNat_lt
  have htype : dataType.toNat % 256 ^ 4 = dataType.toNat := Nat.mod_eq_of_lt dataType.toNat_lt
  have hid : dataIdentifier.toNat % 256 ^ 1 = dataIdentifier.toNat :=
    Nat.mod_eq_of_lt dataIdentifier.toNat_lt
  rw [hfields]
  unfold takeHead
  simp only [takeField_append, Option.bind_some, Option.map_some, hsource, hdest, hseq, htype, hid]
  rfl

/-- **A frame whose length fits is read back.** -/
theorem decodeFrame_bytes (hlen : data.length < 16777216) :
    decodeFrame (frameBytes source dest frameSeq data dataType dataIdentifier) =
      some ⟨frameSeq.toNat, source, dest, dataType.toNat, data.length, dataIdentifier.toNat, data⟩ := by
  -- the checksum is taken of all that is in front of it
  obtain ⟨body, hbody⟩ : ∃ body, frameBody source dest frameSeq data dataType dataIdentifier = body :=
    ⟨_, rfl⟩
  have hbytes : frameBytes source dest frameSeq data dataType dataIdentifier =
      body ++ (leBytes 2 (calculateChecksum body) ++ leBytes 2 frameFooter) := by
    rw [frameBytes, hbody, List.append_assoc]
  have hfront : (body ++ (leBytes 2 (calculateChecksum body) ++ leBytes 2 frameFooter)).take
      ((body ++ (leBytes 2 (calculateChecksum body) ++ leBytes 2 frameFooter)).length -
        (leBytes 2 (calculateChecksum body) ++ leBytes 2 frameFooter).length) = body := by
    rw [List.length_append, Nat.add_sub_cancel, List.take_left]
  have hhead := takeHead_frameBody source dest frameSeq data dataType dataIdentifier
    (leBytes 2 (calculateChecksum body) ++ leBytes 2 frameFooter)
  rw [hbody] at hhead
  have hfooter : takeField 2 (leBytes 2 frameFooter) = some (frameFooter, []) := by
    have hfield := takeField_append 2 frameFooter []
    rwa [List.append_nil] at hfield
  have hck : calculateChecksum body % 256 ^ 2 = calculateChecksum body :=
    Nat.mod_eq_of_lt (calculateChecksum_lt body)
  rw [hbytes, decodeFrame, hhead, Option.bind_some]
  dsimp only
  rw [Nat.mod_eq_of_lt hlen, List.drop_left, takeField_append, Option.bind_some]
  dsimp only
  rw [takeField_append, Option.bind_some, hck]
  dsimp only
  rw [hfooter, Option.bind_some, hfront, List.take_left]
  dsimp only
  rw [if_pos, ofWord_addressToLittleEndian, ofWord_addressToLittleEndian]
  exact ⟨rfl, List.length_append ▸ Nat.le_add_right _ _, rfl, rfl, rfl⟩

end

/-! ### The condition -/

/-- **A frame is faithful**: decoding it gives the payload, its length and the
fields, and its length is what was written; only what the length field cannot
express, or a lack of memory, is rejected. -/
def FrameFaithful (source dest : Address32) (frameSeq : UInt16) (payload : Payload)
    (dataType : UInt32) (dataIdentifier : UInt8) (malloc : Bool) : Prop :=
  match (buildLogUploadFrame source dest frameSeq payload.data dataType dataIdentifier malloc).1 with
  | .rejected => malloc = false ∨ 2 ^ 24 ≤ payload.data.length
  | .overrun => False
  | .built frame frameLength =>
    payload.data.length < 2 ^ 24 ∧ frameLength = frame.length ∧
      decodeFrame frame = some ⟨frameSeq.toNat, source, dest, dataType.toNat, payload.data.length,
        dataIdentifier.toNat, payload.data⟩

/-- Nothing is rejected for its length. -/
theorem buildLogUploadFrame_eq (source dest : Address32) (frameSeq : UInt16) (payload : Payload)
    (dataType : UInt32) (dataIdentifier : UInt8) :
    (buildLogUploadFrame source dest frameSeq payload.data dataType dataIdentifier true).1 =
      if payload.data.length < 4294967270 then
        .built (frameBytes source dest frameSeq payload.data dataType dataIdentifier)
          (26 + payload.data.length)
      else .overrun := by
  have hpos := payload.nonempty
  have hfits := payload.fits
  unfold buildLogUploadFrame
  rw [if_neg (by omega), if_neg Bool.noConfusion]
  dsimp only
  rw [length_frameBytes]
  split_ifs with h1 h2 h2
  · omega
  · rfl
  · congr 1
    omega
  · omega

/-- A frame whose length does not fit is not faithful: it is built all the same. -/
theorem not_faithful_of_long (source dest : Address32) (frameSeq : UInt16) {payload : Payload}
    (dataType : UInt32) (dataIdentifier : UInt8) (hlong : 2 ^ 24 ≤ payload.data.length) :
    ¬ FrameFaithful source dest frameSeq payload dataType dataIdentifier true := by
  unfold FrameFaithful
  rw [buildLogUploadFrame_eq]
  split_ifs with hroom
  · exact fun h => Nat.not_lt.mpr hlong h.1
  · exact id

/-- **A frame is faithful if and only if its length fits** the three bytes, or
there is no memory for it. -/
theorem logFrame_faithful_iff (source dest : Address32) (frameSeq : UInt16) (payload : Payload)
    (dataType : UInt32) (dataIdentifier : UInt8) (malloc : Bool) :
    FrameFaithful source dest frameSeq payload dataType dataIdentifier malloc ↔
      (malloc = true → payload.data.length < 2 ^ 24) := by
  cases malloc with
  | false =>
    have hrej : (buildLogUploadFrame source dest frameSeq payload.data dataType dataIdentifier
        false).1 = .rejected := by
      unfold buildLogUploadFrame
      rw [if_neg (Nat.ne_of_gt payload.nonempty)]
      rfl
    unfold FrameFaithful
    rw [hrej]
    exact iff_of_true (.inl rfl) nofun
  | true =>
    by_cases hlen : payload.data.length < 2 ^ 24
    · have hroom : payload.data.length < 4294967270 := by omega
      refine iff_of_true ?_ fun _ => hlen
      unfold FrameFaithful
      rw [buildLogUploadFrame_eq, if_pos hroom]
      exact ⟨hlen, length_frameBytes.symm, decodeFrame_bytes hlen⟩
    · exact iff_of_false
        (not_faithful_of_long source dest frameSeq dataType dataIdentifier (Nat.le_of_not_lt hlen))
        fun h => hlen (h rfl)

/-- What the frame says of the length. -/
theorem dataLength_built (source dest : Address32) (frameSeq : UInt16) (payload : Payload)
    (dataType : UInt32) (dataIdentifier : UInt8) (hroom : payload.data.length < 4294967270) :
    ∃ frame head rest,
      (buildLogUploadFrame source dest frameSeq payload.data dataType dataIdentifier true).1 =
        .built frame (26 + payload.data.length) ∧
      takeHead frame = some (head, rest) ∧ head.dataLength = payload.data.length % 16777216 := by
  have hhead := takeHead_frameBody source dest frameSeq payload.data dataType dataIdentifier
    (leBytes 2 (calculateChecksum (frameBody source dest frameSeq payload.data dataType
      dataIdentifier)) ++ leBytes 2 frameFooter)
  rw [← List.append_assoc] at hhead
  refine ⟨frameBytes source dest frameSeq payload.data dataType dataIdentifier, _, _, ?_, hhead, rfl⟩
  rw [buildLogUploadFrame_eq, if_pos hroom]

/-- 16 MiB of zeros. -/
def longPayload : Payload :=
  ⟨List.replicate 16777216 0, by rw [List.length_replicate]; omega,
    by rw [List.length_replicate]; omega⟩

theorem length_longPayload : longPayload.data.length = 16777216 := List.length_replicate

/-- A log of 16 MiB is framed, and the frame says that its length is 0. -/
theorem logFrame_truncated :
    ¬ FrameFaithful ⟨0, 1, 1, 1⟩ ⟨0, 2, 1, 1⟩ 1 longPayload 0x87000000 0x02 true ∧
    ∃ frame length head rest, (buildLogUploadFrame ⟨0, 1, 1, 1⟩ ⟨0, 2, 1, 1⟩ 1 longPayload.data
        0x87000000 0x02 true).1 = .built frame length ∧
      takeHead frame = some (head, rest) ∧ head.dataLength = 0 := by
  have hlen := length_longPayload
  have hroom : longPayload.data.length < 4294967270 := by omega
  refine ⟨not_faithful_of_long _ _ _ _ _ (Nat.le_of_eq hlen.symm), ?_⟩
  obtain ⟨frame, head, rest, hbuilt, hhead, hsays⟩ :=
    dataLength_built ⟨0, 1, 1, 1⟩ ⟨0, 2, 1, 1⟩ 1 longPayload 0x87000000 0x02 hroom
  rw [hlen] at hsays
  exact ⟨frame, _, head, rest, hbuilt, hhead, hsays⟩

end WtslCore
