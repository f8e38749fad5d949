/-
# The sender of an OTA file over SLE

The operator's commands announce the file, open it and send its first
package, and end the transfer; in between the peer asks for packages by
writing to a characteristic, and `recv_ota_ack` answers. It takes the number
of the package and its length from the message without a look at how long the
message is, at the file, or at the room in its buffer: a message can be read
beyond its end, the file used while it is not open, and the buffer overrun
(`OtaFault`). And it records the number before anything else, so a request
that fails leaves its number behind.

Key definitions: `OtaSender`, `recvOtaAck`, `otaStep`, `Servable`, `AckSafe`,
`AckOk`.
Key theorems: `recvOtaAck_servable`, `ackSafe_iff`, `recvOtaAck_safe_iff`.
-/
import Mathlib.Data.Nat.Notation
import WtslCore.Lib.Run

namespace WtslCore

/-- `SEND_OTA_FILE_MAX_LEN`. -/
def sendOtaFileMaxLen : ℕ := 200

/-- `sle_ota_send_data_t`. -/
structure SleOtaSendData where
  sendNum : UInt32
  dataLen : UInt32
  data : List UInt8
  deriving DecidableEq

/-- The globals of the sender; an open file is its content. -/
structure OtaSender where
  totalCnt : UInt32
  sendCntRecord : UInt32
  fp : Option (List UInt8)
  sendData : SleOtaSendData
  deriving DecidableEq

/-- Zeroed, as the program starts. -/
def OtaSender.start : OtaSender := ⟨0, 0, none, ⟨0, 0, List.replicate sendOtaFileMaxLen 0⟩⟩

/-- What a request can go wrong in. -/
inductive OtaFault
  | outside
  | notOpen
  | overflow
  deriving DecidableEq, Repr

/-- What is returned: success, `ERRCODE_SLE_FAIL`, or what sending the report returned. -/
inductive OtaReply
  | success
  | fail
  | report (ret : UInt32)
  deriving DecidableEq, Repr

/-- The little-endian word at byte `i`, if it is inside the bytes. -/
def readWord (data : List UInt8) (i : ℕ) : Option UInt32 :=
  match data.drop i with
  | b0 :: b1 :: b2 :: b3 :: _ =>
    some (UInt32.ofNat (b0.toNat + 256 * (b1.toNat + 256 * (b2.toNat + 256 * b3.toNat))))
  | _ => none

/-- The offset `fseek` is called with, for a `long` of 32 bits; a negative one fails. -/
def packageOffset (num : UInt32) : Option ℕ :=
  if (num * 200).toNat < 2147483648 then some (num * 200).toNat else none

/-- What `fread` into the send buffer gets of an open file. -/
def packageBytes (content : List UInt8) (off : ℕ) (len : UInt32) : List UInt8 :=
  (content.drop off).take len.toNat

/-- A package in the send buffer, over what was in it. -/
def SleOtaSendData.fill (d : SleOtaSendData) (num len : UInt32) (bytes : List UInt8) :
    SleOtaSendData :=
  ⟨num, len, bytes ++ d.data.drop bytes.length⟩

/-- `recv_ota_ack` for the received bytes. The message struct is an opcode, the
number and the length. `send` is what the report returns, `none` if there is
no memory for it. -/
def recvOtaAck (send : Option UInt32) (st : OtaSender) (data : List UInt8) :
    Except OtaFault (OtaSender × OtaReply) :=
  match readWord data 4 with
  | none => .error .outside
  | some num =>
    let st := { st with sendCntRecord := num }
    if num = st.totalCnt then .ok (st, .success)
    else match st.fp with
      | none => .error .notOpen
      | some content => match packageOffset num with
        | none => .ok (st, .fail)
        | some off => match readWord data 8 with
          | none => .error .outside
          | some len =>
            let bytes := packageBytes content off len
            if sendOtaFileMaxLen < bytes.length then .error .overflow
            else if bytes = [] then .ok (st, .fail)
            else
              .ok ({ st with sendData := st.sendData.fill num len bytes },
                match send with
                | none => .success
                | some ret => .report ret)

/-! ### The phases of a transfer -/

/-- What happens to the sender: the operator's commands `ota_prepare` (with
the size of the file), `send_ota` (with the file, if it can be opened) and
`start_ota`, and a write of the peer. -/
inductive OtaEvent
  | prepare (fileSize : UInt32)
  | sendOta (file : Option (List UInt8))
  | startOta
  | ack (data : List UInt8) (send : Option UInt32)

/-- `send_ota_prepare_cmd`. -/
def sendOtaPrepareCmd (st : OtaSender) (fileSize : UInt32) : OtaSender :=
  { st with totalCnt := if fileSize % 200 ≠ 0 then fileSize / 200 + 1 else fileSize / 200 }

/-- `send_ota_package`. -/
def sendOtaPackage (st : OtaSender) (file : Option (List UInt8)) : OtaSender :=
  match file with
  | none => { st with fp := none }
  | some content =>
    let bytes := content.take sendOtaFileMaxLen
    if bytes = [] then { st with fp := some content }
    else { st with fp := some content, sendData := st.sendData.fill st.sendCntRecord 200 bytes }

/-- One event. `send_ota_start_cmd` without an open file is `fclose(NULL)`,
which has no outcome, like a request that goes wrong. -/
def otaStep (st : OtaSender) : OtaEvent → Option OtaSender
  | .prepare fileSize => some (sendOtaPrepareCmd st fileSize)
  | .sendOta file => some (sendOtaPackage st file)
  | .startOta => st.fp.map fun _ => { st with fp := none }
  | .ack data send => (recvOtaAck send st data).toOption.map Prod.fst

/-! ### Requests that can be served -/

/-- The package a request asks for: inside the bytes received, of an open
file, and within the send buffer. -/
def requestedPackage (st : OtaSender) (data : List UInt8) : Option (List UInt8) :=
  (readWord data 4).bind fun num =>
    st.fp.bind fun content =>
      (packageOffset num).bind fun off =>
        (readWord data 8).bind fun len =>
          if packageBytes content off len ≠ [] ∧
            (packageBytes content off len).length ≤ sendOtaFileMaxLen
          then some (packageBytes content off len) else none

/-- The request reports the end of the file, or asks for a package there is. -/
def Servable (st : OtaSender) (data : List UInt8) : Prop :=
  readWord data 4 = some st.totalCnt ∨ (requestedPackage st data).isSome = true

instance (st : OtaSender) (data : List UInt8) : Decidable (Servable st data) :=
  inferInstanceAs (Decidable (_ ∨ _))

/-- A request is answered without a fault, and one that cannot be served with
an error, leaving the sender as it was. -/
def AckSafe (send : Option UInt32) (st : OtaSender) (data : List UInt8) : Prop :=
  ∃ st' reply, recvOtaAck send st data = .ok (st', reply) ∧
    (¬ Servable st data → reply = .fail ∧ st' = st)

/-- An open file does not have the package the request asks for. -/
def PackageMissing (st : OtaSender) (data : List UInt8) (num : UInt32) : Prop :=
  ∃ content ∈ st.fp, packageOffset num = none ∨
    ∃ off ∈ packageOffset num, ∃ len ∈ readWord data 8, packageBytes content off len = []

/-- The condition: the request can be served, or it repeats the number
recorded last, for a package the open file does not have. -/
def AckOk (st : OtaSender) (data : List UInt8) : Prop :=
  Servable st data ∨
    readWord data 4 = some st.sendCntRecord ∧ PackageMissing st data st.sendCntRecord

variable {send : Option UInt32} {st st' : OtaSender} {data : List UInt8} {num : UInt32}

theorem requestedPackage_isSome (hnum : readWord data 4 = some num) :
    (requestedPackage st data).isSome = true ↔
      ∃ content ∈ st.fp, ∃ off ∈ packageOffset num, ∃ len ∈ readWord data 8,
        packageBytes content off len ≠ [] ∧
          (packageBytes content off len).length ≤ sendOtaFileMaxLen := by
  unfold requestedPackage
  rw [hnum, Option.bind_some, Option.isSome_iff_exists]
  simp only [Option.bind_eq_some_iff, Option.mem_def]
  constructor
  · rintro ⟨bytes, content, hfp, off, hoff, len, hlen, hite⟩
    split_ifs at hite with hok
    exact ⟨content, hfp, off, hoff, len, hlen, hok⟩
  · rintro ⟨content, hfp, off, hoff, len, hlen, hok⟩
    exact ⟨_, content, hfp, off, hoff, len, hlen, if_pos hok⟩

theorem servable_isSome (hnum : readWord data 4 = some num) (hdone : num ≠ st.totalCnt) :
    Servable st data ↔ (requestedPackage st data).isSome = true := by
  refine or_iff_right fun h => hdone ?_
  exact Option.some.inj (hnum.symm.trans h)

/-- **What a request that does not report the end can do**: be served, name a
package the open file does not have, or go wrong. -/
theorem recvOtaAck_cases (send : Option UInt32) (hnum : readWord data 4 = some num)
    (hdone : num ≠ st.totalCnt) :
    (Servable st data ∧ ∃ st' reply, recvOtaAck send st data = .ok (st', reply)) ∨
    (¬ Servable st data ∧ PackageMissing st data num ∧
      recvOtaAck send st data = .ok ({ st with sendCntRecord := num }, .fail)) ∨
    (¬ Servable st data ∧ ¬ PackageMissing st data num ∧
      ∃ fault, recvOtaAck send st data = .error fault) := by
  rw [servable_isSome hnum hdone, requestedPackage_isSome hnum]
  unfold PackageMissing recvOtaAck
  rw [hnum]
  dsimp only
  rw [if_neg hdone]
  cases hfp : st.fp with
  | none => exact .inr (.inr ⟨by simp, by simp, _, rfl⟩)
  | some content =>
    dsimp only
    cases hoff : packageOffset num with
    | none => exact .inr (.inl ⟨by simp, ⟨content, rfl, .inl rfl⟩, rfl⟩)
    | some off =>
      dsimp only
      cases hlen : readWord data 8 with
      | none => exact .inr (.inr ⟨by simp, by simp, _, rfl⟩)
      | some len =>
        dsimp only
        by_cases hbig : sendOtaFileMaxLen < (packageBytes content off len).length
        · have hne : packageBytes content off len ≠ [] :=
            List.ne_nil_of_length_pos (Nat.zero_lt_of_lt hbig)
          rw [if_pos hbig]
          exact .inr (.inr ⟨by simpa [hne] using hbig, by simpa using hne, _, rfl⟩)
        · rw [if_neg hbig]
          by_cases hempty : packageBytes content off len = []
          · rw [if_pos hempty]
            exact .inr (.inl ⟨by simp [hempty], ⟨content, rfl, .inr ⟨off, rfl, len, rfl, hempty⟩⟩, rfl⟩)
          · rw [if_neg hempty]
            exact .inl ⟨⟨content, rfl, off, rfl, len, rfl, hempty, Nat.le_of_not_lt hbig⟩, _, _, rfl⟩

theorem recvOtaAck_done (send : Option UInt32) (hnum : readWord data 4 = some st.totalCnt) :
    recvOtaAck send st data = .ok ({ st with sendCntRecord := st.totalCnt }, .success) := by
  unfold recvOtaAck
  rw [hnum]
  exact if_pos rfl

/-- A request that can be served does not go wrong. -/
theorem recvOtaAck_servable (send : Option UInt32) (h : Servable st data) :
    ∃ st' reply, recvOtaAck send st data = .ok (st', reply) := by
  by_cases hdone : readWord data 4 = some st.totalCnt
  · exact ⟨_, _, recvOtaAck_done send hdone⟩
  · cases hnum : readWord data 4 with
    | none => simp [Servable, requestedPackage, hnum] at h
    | some num =>
      have hne : num ≠ st.totalCnt := fun heq => hdone (heq ▸ hnum)
      obtain ⟨_, hok⟩ | ⟨hnot, _⟩ | ⟨hnot, _⟩ := recvOtaAck_cases send hnum hne
      · exact hok
      · exact absurd h hnot
      · exact absurd h hnot

theorem sendCntRecord_update : { st with sendCntRecord := num } = st ↔ num = st.sendCntRecord := by
  constructor
  · intro h
    exact congrArg OtaSender.sendCntRecord h
  · rintro rfl
    rfl

/-- **The condition is exact**, in every state of the sender. -/
theorem ackSafe_iff (send : Option UInt32) (st : OtaSender) (data : List UInt8) :
    AckSafe send st data ↔ AckOk st data := by
  by_cases hserv : Servable st data
  · obtain ⟨st', reply, hok⟩ := recvOtaAck_servable send hserv
    exact iff_of_true ⟨st', reply, hok, fun hnot => absurd hserv hnot⟩ (.inl hserv)
  · unfold AckOk
    rw [or_iff_right hserv]
    cases hnum : readWord data 4 with
    | none =>
      have hfault : recvOtaAck send st data = .error .outside := by simp [recvOtaAck, hnum]
      simp [AckSafe, hfault]
    | some num =>
      have hne : num ≠ st.totalCnt := fun heq => hserv (.inl (heq ▸ hnum))
      obtain ⟨hyes, _⟩ | ⟨_, hmiss, hfail⟩ | ⟨_, hmiss, fault, hfault⟩ :=
        recvOtaAck_cases send hnum hne
      · exact absurd hyes hserv
      · -- the number is recorded first, so the state is kept only if it was that number
        have hsafe : AckSafe send st data ↔ { st with sendCntRecord := num } = st := by
          simp [AckSafe, hfail, hserv]
        rw [hsafe, sendCntRecord_update]
        constructor
        · rintro rfl
          exact ⟨rfl, hmiss⟩
        · rintro ⟨heq, _⟩
          exact Option.some.inj heq
      · have hunsafe : ¬ AckSafe send st data := by simp [AckSafe, hfault]
        refine iff_of_false hunsafe ?_
        rintro ⟨heq, hmiss'⟩
        exact hmiss (Option.some.inj heq ▸ hmiss')

/-! ### Whole transfers -/

/-- What should become of the sender: a request that cannot be served is as
if it had not arrived. -/
def OtaEvent.ideal (st : OtaSender) (e : OtaEvent) : OtaSender :=
  match e with
  | .ack data _ => if Servable st data then (otaStep st e).getD st else st
  | _ => (otaStep st e).getD st

/-- The condition for an event: only requests have one. -/
def OtaEvent.Ok (st : OtaSender) : OtaEvent → Prop
  | .ack data _ => AckOk st data
  | _ => True

theorem otaStep_ideal {e : OtaEvent} (hok : e.Ok st) (hstep : otaStep st e = some st') :
    st' = OtaEvent.ideal st e := by
  cases e with
  | prepare fileSize => simp [OtaEvent.ideal, hstep]
  | sendOta file => simp [OtaEvent.ideal, hstep]
  | startOta => simp [OtaEvent.ideal, hstep]
  | ack data send =>
    by_cases hserv : Servable st data
    · simp [OtaEvent.ideal, hserv, hstep]
    · obtain ⟨st'', reply, hack, hkept⟩ := (ackSafe_iff send st data).mpr hok
      have hst : some st'' = some st' := by
        rw [← hstep, otaStep, hack]
        rfl
      rw [OtaEvent.ideal, if_neg hserv, ← Option.some.inj hst]
      exact (hkept hserv).2

/-- **Requests are safe** if and only if they can be served or repeat the
recorded number of a package the open file does not have; and a transfer in
which all are is the one without the requests that cannot be served. -/
theorem recvOtaAck_safe_iff (send : Option UInt32) (st : OtaSender) (data : List UInt8) :
    (AckSafe send st data ↔ AckOk st data) ∧
      ∀ es : List OtaEvent, Runs.Run otaStep (fun st e => e.Ok st) OtaSender.start es st →
        st = es.foldl OtaEvent.ideal OtaSender.start := by
  refine ⟨ackSafe_iff send st data, fun es hrun => ?_⟩
  refine hrun.refines (R := Eq) rfl fun s e s' t heq hok hstep => ?_
  subst heq
  exact otaStep_ideal hok hstep

/-- The twelve bytes that ask for package `num` with a length of `len`, both below 256. -/
def packageRequest (num len : UInt8) : List UInt8 := [1, 0, 0, 0, num, 0, 0, 0, len, 0, 0, 0]

set_option maxRecDepth 2000 in
/-- An empty write is read beyond its end, the first request comes before a
file is open, a file of 201 bytes overruns the buffer, and a package
the file does not have leaves its number behind. -/
theorem recvOtaAck_unsafe :
    ¬ AckSafe (some 0) OtaSender.start [] ∧
    recvOtaAck (some 0) OtaSender.start [] = .error .outside ∧
    recvOtaAck (some 0) OtaSender.start (packageRequest 1 200) = .error .notOpen ∧
    ∃ st, Runs.exec otaStep OtaSender.start
        [.prepare 201, .sendOta (some (List.replicate 201 7))] = some st ∧
      recvOtaAck (some 0) st (packageRequest 0 201) = .error .overflow ∧
      recvOtaAck (some 0) st (packageRequest 3 200) = .ok ({ st with sendCntRecord := 3 }, .fail) := by
  refine ⟨?_, rfl, rfl, _, rfl, rfl, rfl⟩
  rw [ackSafe_iff]
  rintro (h | ⟨h, _⟩)
  · revert h
    decide
  · revert h
    decide

end WtslCore
