/-
# An OTA file put together by its receiver

The sender announces the size of the file, sends its first package with the
file's opening and then one package for every request. A receiver that writes
the data of each package where its number says, and keeps as many bytes as
were announced, has the file as soon as every package number was asked for
once and its package arrived, in any order and with any other requests between
(`ota_reassembly`).

A package carries the whole buffer, so behind a short read it carries what an
earlier one left there, and the first package is sent under the number of the
last request of an earlier transfer. Neither survives: the rest of the last
package lies behind the announced size, and the first one is written over.

`fseek` takes offsets of 64 bits here; `recvOtaAck` is the same function for a
`long` of 32 bits (`recvOtaAck_eq`).

Key definitions: `recvOtaAckAt`, `OtaFile`, `OtaRequest`, `otaTransfer`, `reassemble`.
Key theorems: `ack_serving`, `foldl_putPackage`, `ota_reassembly`.
-/
import Mathlib.Data.List.Basic
import WtslCore.Sle.OtaSender

namespace WtslCore

/-! ### The sender -/

/-- What reaches the peer of a report: it does if sending it succeeds. -/
def delivered {α : Type*} (send : Option UInt32) (message : α) : Option α :=
  if send = some 0 then some message else none

/-- `recv_ota_ack` for the offset that is handed to `fseek`, with the package
that reaches the peer. -/
def recvOtaAckAt (offset : UInt32 → Option ℕ) (send : Option UInt32) (st : OtaSender)
    (data : List UInt8) : Except OtaFault (OtaSender × OtaReply × Option SleOtaSendData) :=
  match readWord data 4 with
  | none => .error .outside
  | some num =>
    let st := { st with sendCntRecord := num }
    if num = st.totalCnt then .ok (st, .success, none)
    else match st.fp with
      | none => .error .notOpen
      | some content => match offset num with
        | none => .ok (st, .fail, none)
        | some off => match readWord data 8 with
          | none => .error .outside
          | some len =>
            let bytes := packageBytes content off len
            if sendOtaFileMaxLen < bytes.length then .error .overflow
            else if bytes = [] then .ok (st, .fail, none)
            else
              let package := st.sendData.fill num len bytes
              .ok ({ st with sendData := package },
                match send with
                | none => .success
                | some ret => .report ret, delivered send package)

/-- `recv_ota_ack` with 32-bit offsets is this one. -/
theorem recvOtaAck_eq (send : Option UInt32) (st : OtaSender) (data : List UInt8) :
    recvOtaAck send st data =
      (recvOtaAckAt packageOffset send st data).map fun r => (r.1, r.2.1) := by
  unfold recvOtaAck recvOtaAckAt
  cases readWord data 4 with
  | none => rfl
  | some num =>
    dsimp only
    split_ifs with hdone
    · rfl
    · cases st.fp with
      | none => rfl
      | some content =>
        dsimp only
        cases packageOffset num with
        | none => rfl
        | some off =>
          dsimp only
          cases readWord data 8 with
          | none => rfl
          | some len =>
            dsimp only
            split_ifs <;> rfl

/-- The offset of a package, in the arithmetic of 32 bits. -/
def offset64 (num : UInt32) : Option ℕ := some (num * 200).toNat

/-- A file of 1 to 2³² - 1 bytes. -/
structure OtaFile where
  content : List UInt8
  nonempty : 0 < content.length
  fits : content.length < 4294967296

/-- `get_ota_file_size`. -/
def OtaFile.size (file : OtaFile) : UInt32 := UInt32.ofNat file.content.length

theorem OtaFile.toNat_size (file : OtaFile) : file.size.toNat = file.content.length :=
  UInt32.toNat_ofNat_of_lt' file.fits

/-- The sender's globals: the send buffer is an array of 200 bytes. -/
abbrev SenderGlobals := { st : OtaSender // st.sendData.data.length = sendOtaFileMaxLen }

/-- A request with `req_data_len = 200`, and what sending its package returns. -/
structure OtaRequest where
  data : List UInt8
  num : UInt32
  reads_num : readWord data 4 = some num
  reads_len : readWord data 8 = some 200
  send : Option UInt32

/-- The requests of a transfer: the packages that reach the peer. -/
def otaRequests (st : OtaSender) : List OtaRequest →
    Except OtaFault (OtaSender × List SleOtaSendData)
  | [] => .ok (st, [])
  | r :: rs =>
    (recvOtaAckAt offset64 r.send st r.data).bind fun (st', _, package) =>
      (otaRequests st' rs).map fun (st'', packages) => (st'', package.toList ++ packages)

/-- A transfer: the START message announces the size, the first package goes
out with the opening of the file, the others answer the requests. -/
def otaTransfer (st : OtaSender) (file : OtaFile) (firstSend : Option UInt32)
    (requests : List OtaRequest) : Except OtaFault (OtaSender × UInt32 × List SleOtaSendData) :=
  let st₁ := sendOtaPackage (sendOtaPrepareCmd st file.size) (some file.content)
  (otaRequests st₁ requests).map fun (st', packages) =>
    (st', file.size, (delivered firstSend st₁.sendData).toList ++ packages)

/-! ### The receiver -/

/-- The data of a package is written at `200 * send_num`. -/
def putPackage (memory : ℕ → UInt8) (package : SleOtaSendData) : ℕ → UInt8 := fun j =>
  if 200 * package.sendNum.toNat ≤ j then
    (package.data[j - 200 * package.sendNum.toNat]?).getD (memory j)
  else memory j

/-- The announced bytes, after all packages. -/
def reassemble (memory : ℕ → UInt8) (fileSize : UInt32) (packages : List SleOtaSendData) :
    List UInt8 :=
  (List.range fileSize.toNat).map (packages.foldl putPackage memory)

/-- A package of the file: where it lies inside the file it is the file. -/
structure Fits (file : OtaFile) (package : SleOtaSendData) : Prop where
  length : package.data.length = 200
  eq : ∀ i < 200, 200 * package.sendNum.toNat + i < file.content.length →
    package.data[i]? = file.content[200 * package.sendNum.toNat + i]?

section

variable {file : OtaFile} {packages : List SleOtaSendData}

theorem putPackage_fits {memory : ℕ → UInt8} {package : SleOtaSendData} (h : Fits file package) {j : ℕ}
    (hj : j < file.content.length) :
    putPackage memory package j =
      if j / 200 = package.sendNum.toNat then file.content[j] else memory j := by
  have hlen := h.length
  unfold putPackage
  by_cases hle : 200 * package.sendNum.toNat ≤ j
  · obtain ⟨i, rfl⟩ := Nat.exists_eq_add_of_le hle
    rw [if_pos hle, Nat.add_sub_cancel_left]
    by_cases hi : i < 200
    · rw [h.eq i hi hj, List.getElem?_eq_getElem hj, Option.getD_some, if_pos (by omega)]
    · rw [List.getElem?_eq_none (by omega), Option.getD_none, if_neg (by omega)]
  · rw [if_neg hle, if_neg (by omega)]

/-- **The last write of a byte decides**, and every write of it is right. -/
theorem foldl_putPackage (hfits : ∀ p ∈ packages, Fits file p) {memory : ℕ → UInt8} {j : ℕ}
    (hj : j < file.content.length)
    (h : memory j = file.content[j] ∨ ∃ p ∈ packages, p.sendNum.toNat = j / 200) :
    packages.foldl putPackage memory j = file.content[j] := by
  induction packages generalizing memory with
  | nil =>
    rcases h with h | ⟨p, hp, -⟩
    · exact h
    · exact absurd hp List.not_mem_nil
  | cons p ps ih =>
    have hp : putPackage memory p j = if j / 200 = p.sendNum.toNat then file.content[j] else memory j :=
      putPackage_fits (hfits p List.mem_cons_self) hj
    refine ih (fun q hq => hfits q (List.mem_cons_of_mem p hq)) ?_
    by_cases hnum : j / 200 = p.sendNum.toNat
    · rw [if_pos hnum] at hp
      exact .inl hp
    · rw [if_neg hnum] at hp
      rcases h with h | ⟨q, hq, hqn⟩
      · exact .inl (hp.trans h)
      · rcases List.mem_cons.mp hq with rfl | hq
        · exact absurd hqn.symm hnum
        · exact .inr ⟨q, hq, hqn⟩

/-- The receiver has the file once a package of each number came. -/
theorem reassemble_eq (hfits : ∀ p ∈ packages, Fits file p) (memory : ℕ → UInt8)
    (hcover : ∀ n, 200 * n < file.content.length → ∃ p ∈ packages, p.sendNum.toNat = n) :
    reassemble memory file.size packages = file.content := by
  unfold reassemble
  rw [file.toNat_size]
  refine List.ext_getElem ?_ fun j h1 h2 => ?_
  · rw [List.length_map, List.length_range]
  · rw [List.getElem_map, List.getElem_range]
    exact foldl_putPackage hfits h2 (.inr (hcover (j / 200) (by omega)))

end

/-! ### A request -/

/-- The sender during the transfer of a file. -/
structure Serving (file : OtaFile) (st : OtaSender) : Prop where
  fp : st.fp = some file.content
  totalCnt : st.totalCnt.toNat = (file.content.length + 199) / 200
  buffer : st.sendData.data.length = 200

section

variable {file : OtaFile} {st : OtaSender}

/-- A package number below the count is inside 32 bits as an offset too. -/
theorem offset_of_lt {num : UInt32} (hnum : 200 * num.toNat < file.content.length) :
    (num * 200).toNat = 200 * num.toNat := by
  have hfits := file.fits
  rw [UInt32.toNat_mul]
  rw [show (200 : UInt32).toNat = 200 from rfl]
  omega

/-- The package of a number: the buffer with what a read at its offset got. -/
def packageOf (file : OtaFile) (st : OtaSender) (num : UInt32) : SleOtaSendData :=
  st.sendData.fill num 200 (packageBytes file.content (num * 200).toNat 200)

theorem fits_packageOf (hbuf : st.sendData.data.length = 200) (num : UInt32) :
    Fits file (packageOf file st num) := by
  have hlen : (packageBytes file.content (num * 200).toNat 200).length ≤ 200 := List.length_take_le ..
  constructor
  · rw [packageOf, SleOtaSendData.fill, List.length_append, List.length_drop, hbuf]
    omega
  · intro i hi hlt
    replace hlt : 200 * num.toNat + i < file.content.length := hlt
    have hi' : i < (200 : UInt32).toNat := hi
    have hoff : (num * 200).toNat = 200 * num.toNat := offset_of_lt (Nat.lt_of_le_of_lt (Nat.le_add_right _ i) hlt)
    have hget : (packageBytes file.content (num * 200).toNat 200)[i]? =
        file.content[200 * num.toNat + i]? := by
      rw [packageBytes, List.getElem?_take_of_lt hi', List.getElem?_drop, hoff]
    have hread : i < (packageBytes file.content (num * 200).toNat 200).length := by
      by_contra hge
      rw [List.getElem?_eq_none (Nat.le_of_not_lt hge), List.getElem?_eq_getElem hlt] at hget
      exact nomatch hget
    rw [packageOf, SleOtaSendData.fill, List.getElem?_append_left hread]
    exact hget

/-- The request with the number of the packages is answered by nothing. -/
theorem ack_done (offset : UInt32 → Option ℕ) (r : OtaRequest) (hnum : r.num = st.totalCnt) :
    recvOtaAckAt offset r.send st r.data =
      .ok ({ st with sendCntRecord := r.num }, .success, none) := by
  unfold recvOtaAckAt
  rw [r.reads_num]
  exact if_pos hnum

/-- **A request is served**: the package of its number, if there is one. -/
theorem ack_serving (h : Serving file st) (r : OtaRequest) :
    ∃ st' reply package, recvOtaAckAt offset64 r.send st r.data = .ok (st', reply, package) ∧
      Serving file st' ∧ (∀ p ∈ package, Fits file p) ∧
      (200 * r.num.toNat < file.content.length → r.send = some 0 →
        ∃ p ∈ package, p.sendNum.toNat = r.num.toNat) := by
  have hkept : Serving file { st with sendCntRecord := r.num } := ⟨h.fp, h.totalCnt, h.buffer⟩
  by_cases hdone : r.num = st.totalCnt
  · refine ⟨_, _, _, ack_done offset64 r hdone, hkept, fun p hp => (nomatch hp), fun hlt _ => ?_⟩
    have htotal := h.totalCnt
    rw [← hdone] at htotal
    omega
  have hlen : ¬ sendOtaFileMaxLen < (packageBytes file.content (r.num * 200).toNat 200).length :=
    Nat.not_lt.mpr (List.length_take_le ..)
  have hack : recvOtaAckAt offset64 r.send st r.data =
      if packageBytes file.content (r.num * 200).toNat 200 = [] then
        .ok ({ st with sendCntRecord := r.num }, .fail, none)
      else
        .ok ({ st with sendCntRecord := r.num, sendData := packageOf file st r.num },
          match r.send with
          | none => .success
          | some ret => .report ret,
          delivered r.send (packageOf file st r.num)) := by
    unfold recvOtaAckAt
    rw [r.reads_num]
    dsimp only
    rw [if_neg hdone, h.fp, r.reads_len]
    dsimp only [offset64]
    rw [if_neg hlen]
    rfl
  have hfill : Fits file (packageOf file st r.num) := fits_packageOf h.buffer r.num
  rw [hack]
  split_ifs with hempty
  · refine ⟨_, _, _, rfl, hkept, fun p hp => (nomatch hp), fun hlt _ => ?_⟩
    -- a package inside the file is not empty
    have hzero := hfill.eq 0 (by omega) hlt
    rw [packageBytes, offset_of_lt hlt, List.take_eq_nil_iff, List.drop_eq_nil_iff] at hempty
    rcases hempty with h200 | hle
    · exact absurd h200 (by decide)
    · omega
  · refine ⟨_, _, _, rfl, ⟨h.fp, h.totalCnt, hfill.length⟩, fun p hp => ?_, fun _ hsend => ?_⟩
    · rw [delivered] at hp
      split_ifs at hp
      · obtain rfl := Option.mem_some.mp hp
        exact hfill
      · exact nomatch hp
    · exact ⟨_, by rw [delivered, if_pos hsend]; rfl, rfl⟩

/-- **All requests are served.** -/
theorem requests_serving (requests : List OtaRequest) (h : Serving file st) :
    ∃ st' packages, otaRequests st requests = .ok (st', packages) ∧ Serving file st' ∧
      (∀ p ∈ packages, Fits file p) ∧
      ∀ r ∈ requests, 200 * r.num.toNat < file.content.length → r.send = some 0 →
        ∃ p ∈ packages, p.sendNum.toNat = r.num.toNat := by
  induction requests generalizing st with
  | nil => exact ⟨st, [], rfl, h, fun p hp => absurd hp List.not_mem_nil, fun r hr => absurd hr List.not_mem_nil⟩
  | cons r rs ih =>
    obtain ⟨st₁, reply, package, hack, h₁, hfit, hsent⟩ := ack_serving h r
    obtain ⟨st₂, packages, hrest, h₂, hfits, hall⟩ := ih h₁
    refine ⟨st₂, package.toList ++ packages, ?_, h₂, fun p hp => ?_, fun q hq hlt hsend => ?_⟩
    · rw [otaRequests, hack]
      dsimp only [Except.bind]
      rw [hrest]
      rfl
    · rcases List.mem_append.mp hp with hp | hp
      · exact hfit p (Option.mem_toList.mp hp)
      · exact hfits p hp
    · rcases List.mem_cons.mp hq with rfl | hq
      · obtain ⟨p, hp, hnum⟩ := hsent hlt hsend
        exact ⟨p, List.mem_append_left _ (Option.mem_toList.mpr hp), hnum⟩
      · obtain ⟨p, hp, hnum⟩ := hall q hq hlt hsend
        exact ⟨p, List.mem_append_right _ hp, hnum⟩

end

/-! ### A transfer -/

/-- The number of packages that `send_ota_prepare_cmd` computes. -/
theorem totalCnt_prepare (st : OtaSender) (file : OtaFile) :
    (sendOtaPrepareCmd st file.size).totalCnt.toNat = (file.content.length + 199) / 200 := by
  have hfits := file.fits
  have hmod : (file.size % 200).toNat = file.content.length % 200 := by
    rw [UInt32.toNat_mod, file.toNat_size]
    rfl
  have hdiv : (file.size / 200).toNat = file.content.length / 200 := by
    rw [UInt32.toNat_div, file.toNat_size]
    rfl
  unfold sendOtaPrepareCmd
  dsimp only
  split_ifs with hrest
  · have hne : file.content.length % 200 ≠ 0 := by
      intro h0
      exact hrest (UInt32.toNat_inj.mp (hmod.trans h0))
    rw [UInt32.toNat_add, hdiv, show (1 : UInt32).toNat = 1 from rfl]
    omega
  · have hz : file.content.length % 200 = 0 := by
      rw [← hmod, not_not.mp hrest]
      rfl
    rw [hdiv]
    omega

/-- The transfer begins with the file open and its packages counted. -/
theorem serving_start (st : SenderGlobals) (file : OtaFile) :
    Serving file (sendOtaPackage (sendOtaPrepareCmd st.1 file.size) (some file.content)) := by
  have hne : file.content.take sendOtaFileMaxLen ≠ [] := by
    intro hnil
    rcases List.take_eq_nil_iff.mp hnil with h200 | hnil
    · exact absurd h200 (by decide)
    · exact absurd (congrArg List.length hnil) (Nat.ne_of_gt file.nonempty)
  have hbuf := st.2
  unfold sendOtaPackage
  dsimp only
  rw [if_neg hne]
  refine ⟨rfl, totalCnt_prepare st.1 file, ?_⟩
  have htake : (file.content.take sendOtaFileMaxLen).length ≤ 200 := List.length_take_le ..
  dsimp only [SleOtaSendData.fill, sendOtaPrepareCmd]
  rw [List.length_append, List.length_drop, hbuf]
  unfold sendOtaFileMaxLen at *
  omega

/-- **The receiver gets the file.** For every file of 1 to 2³² - 1 bytes and
all requests for 200 bytes such that every package number is asked for and its
package arrives, in any order and with any repetitions, the transfer has no
fault and the receiver puts the file together; a request with the number of
the packages is answered by nothing. -/
theorem ota_reassembly (st : SenderGlobals) (file : OtaFile) (firstSend : Option UInt32)
    (requests : List OtaRequest) (memory : ℕ → UInt8)
    (hcover : ∀ n < (sendOtaPrepareCmd st.1 file.size).totalCnt.toNat,
      ∃ r ∈ requests, r.num.toNat = n ∧ r.send = some 0) :
    ∃ st' packages, otaTransfer st.1 file firstSend requests = .ok (st', file.size, packages) ∧
      reassemble memory file.size packages = file.content ∧
      st'.totalCnt.toNat = (file.content.length + 199) / 200 ∧
      ∀ r : OtaRequest, r.num = st'.totalCnt → recvOtaAckAt offset64 r.send st' r.data =
        .ok ({ st' with sendCntRecord := r.num }, .success, none) := by
  obtain ⟨st', packages, hreq, hserving, hfits, hall⟩ :=
    requests_serving requests (serving_start st file)
  rw [totalCnt_prepare] at hcover
  have hcover' : ∀ n, 200 * n < file.content.length → ∃ p ∈ packages, p.sendNum.toNat = n := by
    intro n hn
    obtain ⟨r, hr, hnum, hsend⟩ := hcover n (by omega)
    rw [← hnum]
    exact hall r hr (by omega) hsend
  obtain ⟨first, hfirst⟩ : ∃ first, first = (delivered firstSend (sendOtaPackage
    (sendOtaPrepareCmd st.1 file.size) (some file.content)).sendData).toList := ⟨_, rfl⟩
  refine ⟨st', first ++ packages, ?_, ?_, hserving.totalCnt, fun r hr => ack_done offset64 r hr⟩
  · unfold otaTransfer
    dsimp only
    rw [hreq, ← hfirst]
    rfl
  · -- whatever the first package wrote is written over
    unfold reassemble
    rw [List.foldl_append]
    exact reassemble_eq hfits _ hcover'

/-- A file of 201 bytes. -/
def smallFile : OtaFile :=
  ⟨List.replicate 201 7, by rw [List.length_replicate]; omega, by rw [List.length_replicate]; omega⟩

theorem length_smallFile : smallFile.content.length = 201 := List.length_replicate

/-- A request for a package. -/
def smallRequest (num : UInt8) (h : readWord (packageRequest num 200) 4 = some num.toUInt32) :
    OtaRequest :=
  ⟨packageRequest num 200, num.toUInt32, h, rfl, some 0⟩

theorem ota_reassembly_small : ∃ st' packages,
    otaTransfer OtaSender.start smallFile (some 0) [smallRequest 1 rfl, smallRequest 0 rfl] =
      .ok (st', smallFile.size, packages) ∧
    reassemble (fun _ => 0) smallFile.size packages = smallFile.content := by
  have hcover : ∀ n < (sendOtaPrepareCmd OtaSender.start smallFile.size).totalCnt.toNat,
      ∃ r ∈ [smallRequest 1 rfl, smallRequest 0 rfl], r.num.toNat = n ∧ r.send = some 0 := by
    intro n hn
    rw [totalCnt_prepare, length_smallFile] at hn
    rcases Nat.eq_zero_or_pos n with rfl | hpos
    · exact ⟨_, List.mem_cons_of_mem _ List.mem_cons_self, rfl, rfl⟩
    · obtain rfl : n = 1 := by omega
      exact ⟨_, List.mem_cons_self, rfl, rfl⟩
  obtain ⟨st', packages, htransfer, hfile, -⟩ :=
    ota_reassembly ⟨OtaSender.start, rfl⟩ smallFile (some 0) _ (fun _ => 0) hcover
  exact ⟨st', packages, htransfer, hfile⟩

end WtslCore
