/-
# The packages of an OTA transfer

Every package that is sent should say of itself what was read: the number of
bytes `fread` got, and the number of the chunk they are from. The number is a
global that the operator's `send_ota` takes over from the last request of an
earlier transfer, the length is the one that was asked for (200 for the first
package) however much was read, and the offset is a product of 32 bits, so a
large number reads from the front of the file. A package is right exactly
where none of this happens (`packageRight_iff`), and a run of the sender sends
right packages only exactly if it happens nowhere (`otaPackages_right_iff`).

Key definitions: `transferStep`, `packageSent`, `Consistent`, `PackageRight`,
`TransferEvent.PackageOk`.
Key theorems: `packageRight_iff`, `otaPackages_right_iff`.
-/
import Mathlib.Data.List.Basic
import WtslCore.Sle.OtaReassembly

namespace WtslCore

/-! ### What is read and what is sent -/

/-- The offset for a `long` of 64 or of 32 bits. -/
def seekOffset (long64 : Bool) (num : UInt32) : Option ℕ :=
  if long64 then offset64 num else packageOffset num

/-- A `fread` into the send buffer: of which file, from where, and what it got. -/
structure FileRead where
  content : List UInt8
  offset : ℕ
  bytes : List UInt8
  deriving DecidableEq

/-- The operator's commands, with the file if it can be opened and whether
there is memory for its first package, and the requests of the peer. -/
inductive TransferEvent
  | prepare (fileSize : UInt32)
  | sendOta (file : Option (List UInt8)) (memory : Bool)
  | startOta
  | request (data : List UInt8) (send : Option UInt32)

def transferStep (long64 : Bool) (st : OtaSender) : TransferEvent → Option OtaSender
  | .prepare fileSize => otaStep st (.prepare fileSize)
  | .sendOta file _ => otaStep st (.sendOta file)
  | .startOta => otaStep st .startOta
  | .request data send => (recvOtaAckAt (seekOffset long64) send st data).toOption.map Prod.fst

/-- The read `recv_ota_ack` takes a package from. -/
def requestRead (long64 : Bool) (st : OtaSender) (data : List UInt8) : Option FileRead :=
  (readWord data 4).bind fun num =>
    st.fp.bind fun content =>
      (seekOffset long64 num).bind fun off =>
        (readWord data 8).map fun len => ⟨content, off, packageBytes content off len⟩

/-- The GOING message an event hands over to be sent, and the read behind it. -/
def packageSent (long64 : Bool) (st : OtaSender) : TransferEvent → Option (SleOtaSendData × FileRead)
  | .sendOta (some content) memory =>
    if memory = true ∧ content ≠ [] then
      some ((sendOtaPackage st (some content)).sendData,
        ⟨content, 0, content.take sendOtaFileMaxLen⟩)
    else none
  | .request data send =>
    match recvOtaAckAt (seekOffset long64) send st data with
    | .ok (st', .report _, _) => (requestRead long64 st data).map fun read => (st'.sendData, read)
    | _ => none
  | _ => none

/-! ### What is to be sent -/

/-- A package says what was read and carries it. -/
structure Consistent (package : SleOtaSendData) (read : FileRead) : Prop where
  len : package.dataLen.toNat = read.bytes.length
  num : read.offset = 200 * package.sendNum.toNat
  data : package.data.take package.dataLen.toNat =
    (read.content.drop (200 * package.sendNum.toNat)).take package.dataLen.toNat

/-- The request is for a chunk the open file does not reach. The number of
all packages is no such request: it reports that the transfer is complete. -/
def BeyondEnd (st : OtaSender) (data : List UInt8) : Prop :=
  ∃ num ∈ readWord data 4, num ≠ st.totalCnt ∧
    ∃ content ∈ st.fp, content.length ≤ 200 * num.toNat

/-- What an event sends is consistent, and a request beyond the end is rejected. -/
def PackageRight (long64 : Bool) (st : OtaSender) (e : TransferEvent) : Prop :=
  (∀ package read, packageSent long64 st e = some (package, read) → Consistent package read) ∧
    ∀ data send, e = .request data send → BeyondEnd st data →
      ∃ st', recvOtaAckAt (seekOffset long64) send st data = .ok (st', .fail, none)

/-- A request has a number and a length of at most 200. -/
def TransferEvent.InRange : TransferEvent → Prop
  | .request data _ => ∃ num len, readWord data 4 = some num ∧ readWord data 8 = some len ∧
      len.toNat ≤ sendOtaFileMaxLen
  | _ => True

/-- The condition. The first package needs the number 0 to be recorded and a
file of 200 bytes. A request whose product lies inside the file needs the
number itself to lie there, and, where its package can be sent, the same
offset and as many bytes as it asks for. -/
def TransferEvent.PackageOk (long64 : Bool) (st : OtaSender) : TransferEvent → Prop
  | .sendOta (some content) memory =>
    memory = true → content ≠ [] → st.sendCntRecord = 0 ∧ sendOtaFileMaxLen ≤ content.length
  | .request data send =>
    ∀ num len content off, readWord data 4 = some num → readWord data 8 = some len →
      st.fp = some content → seekOffset long64 num = some off →
      num ≠ st.totalCnt → len ≠ 0 → off < content.length →
      200 * num.toNat < content.length ∧
        (send ≠ none → 200 * num.toNat = off ∧ off + len.toNat ≤ content.length)
  | _ => True

/-! ### The first package -/

section

variable {long64 : Bool} {st : OtaSender} {data content : List UInt8} {num len : UInt32} {off : ℕ}
  {send : Option UInt32}

theorem take_fill (d : SleOtaSendData) (num len : UInt32) (bytes : List UInt8) :
    (d.fill num len bytes).data.take bytes.length = bytes := List.take_left

theorem packageBytes_eq_nil : packageBytes content off len = [] ↔ len = 0 ∨ content.length ≤ off := by
  unfold packageBytes
  rw [List.take_eq_nil_iff, List.drop_eq_nil_iff, ← UInt32.toNat_inj]
  rfl

theorem length_packageBytes :
    (packageBytes content off len).length = min len.toNat (content.length - off) := by
  simp [packageBytes]

/-- A package of what is read is consistent if it is from the chunk of the
number and as long as was asked for. -/
theorem consistent_fill_iff (d : SleOtaSendData) :
    Consistent (d.fill num len (packageBytes content off len))
        ⟨content, off, packageBytes content off len⟩ ↔
      off = 200 * num.toNat ∧ len.toNat = (packageBytes content off len).length := by
  constructor
  · intro h
    exact ⟨h.num, h.len⟩
  · rintro ⟨hoff, hlen⟩
    refine ⟨hlen, hoff, ?_⟩
    change (d.fill num len _).data.take len.toNat = (content.drop (200 * num.toNat)).take len.toNat
    rw [← hoff]
    calc (d.fill num len (packageBytes content off len)).data.take len.toNat
        = (d.fill num len (packageBytes content off len)).data.take
            (packageBytes content off len).length := by rw [← hlen]
      _ = packageBytes content off len := take_fill d num len _

/-- Where a package is sent it is the one that has to be consistent. -/
theorem sent_consistent_iff {e : TransferEvent} {package : SleOtaSendData} {read : FileRead}
    (hsent : packageSent long64 st e = some (package, read)) :
    (∀ p r, packageSent long64 st e = some (p, r) → Consistent p r) ↔ Consistent package read := by
  constructor
  · intro h
    exact h _ _ hsent
  · intro h p r hp
    obtain ⟨rfl, rfl⟩ := Prod.mk.inj (Option.some.inj (hsent.symm.trans hp))
    exact h

theorem sent_none_consistent {e : TransferEvent} (hnone : packageSent long64 st e = none) :
    ∀ p r, packageSent long64 st e = some (p, r) → Consistent p r := by
  intro p r hp
  rw [hnone] at hp
  cases hp

theorem sendOta_right_iff (long64 : Bool) (st : OtaSender) (content : List UInt8) (memory : Bool) :
    PackageRight long64 st (.sendOta (some content) memory) ↔
      TransferEvent.PackageOk long64 st (.sendOta (some content) memory) := by
  change (_ ∧ _) ↔ (memory = true → content ≠ [] →
    st.sendCntRecord = 0 ∧ sendOtaFileMaxLen ≤ content.length)
  rw [and_iff_left (fun _ _ h => nomatch h)]
  by_cases hsent : memory = true ∧ content ≠ []
  · have hbytes : content.take sendOtaFileMaxLen ≠ [] := by
      simpa [List.take_eq_nil_iff, sendOtaFileMaxLen] using hsent.2
    have hdata : (sendOtaPackage st (some content)).sendData =
        st.sendData.fill st.sendCntRecord 200 (content.take sendOtaFileMaxLen) := by
      simp [sendOtaPackage, hbytes]
    have hsome : packageSent long64 st (.sendOta (some content) memory) =
        some (_, ⟨content, 0, content.take sendOtaFileMaxLen⟩) := if_pos hsent
    have hzero : st.sendCntRecord = 0 ↔ 0 = 200 * st.sendCntRecord.toNat := by
      rw [← UInt32.toNat_inj]
      change st.sendCntRecord.toNat = 0 ↔ _
      omega
    have hlong : sendOtaFileMaxLen ≤ content.length ↔
        (200 : UInt32).toNat = (content.take sendOtaFileMaxLen).length := by
      rw [List.length_take]
      change 200 ≤ _ ↔ 200 = min 200 _
      omega
    have hread : content.take sendOtaFileMaxLen = packageBytes content 0 200 := rfl
    rw [sent_consistent_iff hsome, hdata, hlong, hread, consistent_fill_iff, ← hzero]
    constructor
    · intro h _ _
      exact h
    · intro h
      exact h hsent.1 hsent.2
  · have hnone : packageSent long64 st (.sendOta (some content) memory) = none := if_neg hsent
    exact iff_of_true (sent_none_consistent hnone) fun hmem hne => absurd ⟨hmem, hne⟩ hsent

/-! ### Requests -/

/-- What is returned once the package is read. -/
def OtaReply.ofSend : Option UInt32 → OtaReply
  | none => .success
  | some ret => .report ret

/-- **What a request in range does** whose number is not the last: nothing
without an open file, fail where it reads nothing, and send what it reads. -/
theorem packageRequest_cases (long64 : Bool) (st : OtaSender) (send : Option UInt32)
    (hnum : readWord data 4 = some num) (hlen : readWord data 8 = some len)
    (hle : len.toNat ≤ sendOtaFileMaxLen) (hne : num ≠ st.totalCnt) :
    (st.fp = none ∧ recvOtaAckAt (seekOffset long64) send st data = .error .notOpen) ∨
    (∃ content, st.fp = some content ∧
      (seekOffset long64 num = none ∨ ∃ off, seekOffset long64 num = some off ∧
        packageBytes content off len = []) ∧
      recvOtaAckAt (seekOffset long64) send st data = .ok ({ st with sendCntRecord := num }, .fail, none)) ∨
    ∃ content off, st.fp = some content ∧ seekOffset long64 num = some off ∧
      packageBytes content off len ≠ [] ∧
      recvOtaAckAt (seekOffset long64) send st data =
        .ok ({ st with sendCntRecord := num
                       sendData := st.sendData.fill num len (packageBytes content off len) },
          OtaReply.ofSend send,
          delivered send (st.sendData.fill num len (packageBytes content off len))) := by
  cases hfp : st.fp with
  | none => exact .inl ⟨rfl, by simp [recvOtaAckAt, hnum, hne, hfp]⟩
  | some content =>
    refine .inr ?_
    cases hoff : seekOffset long64 num with
    | none => exact .inl ⟨content, rfl, .inl rfl, by simp [recvOtaAckAt, hnum, hne, hfp, hoff]⟩
    | some off =>
      have hfits : ¬ sendOtaFileMaxLen < (packageBytes content off len).length := by
        rw [length_packageBytes]
        omega
      by_cases hempty : packageBytes content off len = []
      · refine .inl ⟨content, rfl, .inr ⟨off, rfl, hempty⟩, ?_⟩
        simp [recvOtaAckAt, hnum, hne, hfp, hoff, hlen, hempty, sendOtaFileMaxLen]
      · refine .inr ⟨content, off, rfl, rfl, hempty, ?_⟩
        cases send <;> simp [recvOtaAckAt, hnum, hne, hfp, hoff, hlen, hempty, hfits, OtaReply.ofSend]

/-- What a request sends, if there is memory for it. -/
theorem request_sent (hnum : readWord data 4 = some num) (hlen : readWord data 8 = some len)
    (hfp : st.fp = some content) (hoff : seekOffset long64 num = some off) {st' : OtaSender}
    {ret : UInt32} {package : Option SleOtaSendData}
    (h : recvOtaAckAt (seekOffset long64) send st data = .ok (st', .report ret, package)) :
    packageSent long64 st (.request data send) =
      some (st'.sendData, ⟨content, off, packageBytes content off len⟩) := by
  simp [packageSent, requestRead, h, hnum, hlen, hfp, hoff]

theorem request_unsent {st' : OtaSender} {reply : OtaReply} {package : Option SleOtaSendData}
    (h : recvOtaAckAt (seekOffset long64) send st data = .ok (st', reply, package))
    (hreply : ∀ ret, reply ≠ .report ret) : packageSent long64 st (.request data send) = none := by
  cases reply with
  | report ret => exact absurd rfl (hreply ret)
  | success => simp [packageSent, h]
  | fail => simp [packageSent, h]

theorem packageBytes_ne_nil : packageBytes content off len ≠ [] ↔ len ≠ 0 ∧ off < content.length := by
  rw [Ne, packageBytes_eq_nil, not_or, Nat.not_le]

/-- As much is read as is asked for if the file has it. -/
theorem length_packageBytes_eq (hoff : off < content.length) :
    len.toNat = (packageBytes content off len).length ↔ off + len.toNat ≤ content.length := by
  rw [length_packageBytes]
  omega

theorem beyondEnd_iff (hnum : readWord data 4 = some num) :
    BeyondEnd st data ↔
      num ≠ st.totalCnt ∧ ∃ content, st.fp = some content ∧ content.length ≤ 200 * num.toNat := by
  simp [BeyondEnd, hnum]

theorem packageRight_request : PackageRight long64 st (.request data send) ↔
    (∀ p r, packageSent long64 st (.request data send) = some (p, r) → Consistent p r) ∧
      (BeyondEnd st data →
        ∃ st', recvOtaAckAt (seekOffset long64) send st data = .ok (st', .fail, none)) := by
  refine and_congr_right fun _ => ⟨fun h => h data send rfl, ?_⟩
  rintro h _ _ ⟨⟩
  exact h

/-- The condition of a request that has something to read. -/
theorem packageOk_reads (hnum : readWord data 4 = some num) (hlen : readWord data 8 = some len)
    (hfp : st.fp = some content) (hoff : seekOffset long64 num = some off)
    (hdone : num ≠ st.totalCnt) (hlen0 : len ≠ 0) (hinside : off < content.length) :
    TransferEvent.PackageOk long64 st (.request data send) ↔
      200 * num.toNat < content.length ∧
        (send ≠ none → 200 * num.toNat = off ∧ off + len.toNat ≤ content.length) := by
  constructor
  · intro h
    exact h num len content off hnum hlen hfp hoff hdone hlen0 hinside
  · intro h num' len' content' off' hnum' hlen' hfp' hoff' _ _ _
    obtain rfl := Option.some.inj (hnum.symm.trans hnum')
    obtain rfl := Option.some.inj (hlen.symm.trans hlen')
    obtain rfl := Option.some.inj (hfp.symm.trans hfp')
    obtain rfl := Option.some.inj (hoff.symm.trans hoff')
    exact h

/-- A request that is served must not have been beyond the end. -/
theorem rejected_iff (hnum : readWord data 4 = some num) (hfp : st.fp = some content)
    (hdone : num ≠ st.totalCnt) {st' : OtaSender} {package : Option SleOtaSendData}
    (hreply : recvOtaAckAt (seekOffset long64) send st data = .ok (st', .ofSend send, package)) :
    (BeyondEnd st data → ∃ st', recvOtaAckAt (seekOffset long64) send st data = .ok (st', .fail, none)) ↔
      200 * num.toNat < content.length := by
  rw [beyondEnd_iff hnum]
  constructor
  · intro h
    by_contra hbehind
    obtain ⟨st'', hfail⟩ := h ⟨hdone, content, hfp, Nat.le_of_not_lt hbehind⟩
    rw [hreply] at hfail
    cases send <;> cases hfail
  · rintro h ⟨_, content', hcontent, hbehind⟩
    obtain rfl := Option.some.inj (hfp.symm.trans hcontent)
    exact absurd h (Nat.not_lt.mpr hbehind)

theorem request_right_iff (long64 : Bool) (st : OtaSender) (send : Option UInt32)
    (hrange : (TransferEvent.request data send).InRange) :
    PackageRight long64 st (.request data send) ↔
      TransferEvent.PackageOk long64 st (.request data send) := by
  obtain ⟨num, len, hnum, hlen, hle⟩ := hrange
  by_cases hdone : num = st.totalCnt
  · have hreply : recvOtaAckAt (seekOffset long64) send st data =
        .ok ({ st with sendCntRecord := num }, .success, none) := by
      simp [recvOtaAckAt, hnum, hdone]
    have hnone := request_unsent hreply (fun _ h => nomatch h)
    rw [packageRight_request, beyondEnd_iff hnum]
    refine iff_of_true ⟨sent_none_consistent hnone, fun h => absurd hdone h.1⟩ ?_
    intro num' _ _ _ hnum' _ _ _ hne
    exact absurd (Option.some.inj (hnum'.symm.trans hnum) ▸ hdone) hne
  · obtain ⟨hfp, hreply⟩ | ⟨content, hfp, hwhy, hreply⟩ | ⟨content, off, hfp, hoff, hne, hreply⟩ :=
      packageRequest_cases long64 st send hnum hlen hle hdone
    · have hnone : packageSent long64 st (.request data send) = none := by simp [packageSent, hreply]
      rw [packageRight_request]
      refine iff_of_true ⟨sent_none_consistent hnone, ?_⟩ ?_
      · rintro ⟨_, _, _, content, hcontent, _⟩
        rw [Option.mem_def, hfp] at hcontent
        cases hcontent
      · intro _ _ content _ _ _ hcontent
        rw [hfp] at hcontent
        cases hcontent
    · have hnone := request_unsent hreply (fun _ h => nomatch h)
      rw [packageRight_request]
      refine iff_of_true ⟨sent_none_consistent hnone, fun _ => ⟨_, hreply⟩⟩ ?_
      intro num' len' content' off' hnum' hlen' hcontent hoff' _ hlen0 hinside
      obtain rfl := Option.some.inj (hnum.symm.trans hnum')
      obtain rfl := Option.some.inj (hlen.symm.trans hlen')
      obtain rfl := Option.some.inj (hfp.symm.trans hcontent)
      obtain hnone | ⟨off, hoff, hempty⟩ := hwhy
      · rw [hnone] at hoff'
        cases hoff'
      · obtain rfl := Option.some.inj (hoff.symm.trans hoff')
        exact absurd hempty (packageBytes_ne_nil.mpr ⟨hlen0, hinside⟩)
    · obtain ⟨hlen0, hinside⟩ := packageBytes_ne_nil.mp hne
      rw [packageRight_request, rejected_iff hnum hfp hdone hreply,
        packageOk_reads hnum hlen hfp hoff hdone hlen0 hinside, and_comm]
      refine and_congr_right fun _ => ?_
      cases send with
      | none =>
        have hnone := request_unsent hreply (fun _ h => nomatch h)
        exact iff_of_true (sent_none_consistent hnone) fun h => absurd rfl h
      | some ret =>
        have hsent := request_sent hnum hlen hfp hoff hreply
        rw [sent_consistent_iff hsent, consistent_fill_iff st.sendData,
          length_packageBytes_eq hinside, eq_comm]
        simp

/-- **The condition is exact**, in every state of the sender. -/
theorem packageRight_iff (long64 : Bool) (st : OtaSender) {e : TransferEvent} (hrange : e.InRange) :
    PackageRight long64 st e ↔ e.PackageOk long64 st := by
  cases e with
  | prepare fileSize => exact iff_of_true ⟨sent_none_consistent rfl, fun _ _ h => nomatch h⟩ trivial
  | startOta => exact iff_of_true ⟨sent_none_consistent rfl, fun _ _ h => nomatch h⟩ trivial
  | sendOta file memory =>
    cases file with
    | none => exact iff_of_true ⟨sent_none_consistent rfl, fun _ _ h => nomatch h⟩ trivial
    | some content => exact sendOta_right_iff long64 st content memory
  | request data send => exact request_right_iff long64 st send hrange

end

/-! ### Runs -/

/-- **The packages of a process are right**, in all its transfers, if and only
if every first package is sent under the number 0 with a file of 200 bytes,
and every package asked for lies in the file where its number says, with all
the bytes asked for. -/
theorem otaPackages_right_iff (long64 : Bool) (es : List TransferEvent) (st : OtaSender) :
    Runs.Run (transferStep long64) (fun st e => e.InRange ∧ PackageRight long64 st e)
        OtaSender.start es st ↔
      Runs.Run (transferStep long64) (fun st e => e.InRange ∧ e.PackageOk long64 st)
        OtaSender.start es st := by
  refine Runs.Run.meets_iff (K := fun _ => True) trivial (fun st e _ => ?_) fun _ _ _ _ _ _ => trivial
  exact and_congr_right fun hrange => packageRight_iff long64 st hrange

set_option maxRecDepth 4000 in
/-- The second package of 201 bytes is sent with a length of 200 over one byte
read, and the first one of the next transfer under the number the last
transfer ended with. -/
theorem otaPackages_wrong : ∃ st st',
    Runs.exec (transferStep true) OtaSender.start
      [.prepare 201, .sendOta (some (List.replicate 201 7)) true] = some st ∧
    (TransferEvent.request (packageRequest 1 200) (some 0)).InRange ∧
    (packageSent true st (.request (packageRequest 1 200) (some 0))).map
      (fun p => (p.1.dataLen, p.2.bytes)) = some (200, [7]) ∧
    ¬ PackageRight true st (.request (packageRequest 1 200) (some 0)) ∧
    Runs.exec (transferStep true) st
      [.request (packageRequest 2 200) (some 0), .startOta, .prepare 400] = some st' ∧
    (packageSent true st' (.sendOta (some (List.replicate 400 7)) true)).map
      (fun p => (p.1.sendNum, p.2.offset)) = some (2, 0) ∧
    ¬ PackageRight true st' (.sendOta (some (List.replicate 400 7)) true) := by
  have hrange : (TransferEvent.request (packageRequest 1 200) (some 0)).InRange :=
    ⟨1, 200, rfl, rfl, Nat.le_refl 200⟩
  refine ⟨_, _, rfl, hrange, rfl, ?_, rfl, rfl, ?_⟩
  · rw [packageRight_iff true _ hrange]
    intro h
    have hshort := (h 1 200 _ 200 rfl rfl rfl rfl (by decide) (by decide) (by decide)).2 (by simp)
    exact absurd hshort.2 (by decide)
  · rw [sendOta_right_iff]
    intro h
    exact absurd (h rfl (List.cons_ne_nil _ _)).1 (by decide)

end WtslCore
