/-
# The upload of the log

`tcp_upload_logs` reads the log file and tries to upload it: it connects,
sends a frame with the name and the size of the file, waits for the server to
confirm it, sends the file and waits again. An attempt that fails at any point
is followed by the next one, as long as there are any left.

`wait_for_ack` looks at what one `recv` returns, as a C string. So the text
that confirms is found if and only if it is in the first piece that arrives,
before its first zero byte (`waitForAck_recognises_iff`), although the server
may have sent it in two pieces or behind other bytes. And an attempt that is
not confirmed goes to the next one without closing its socket: the upload
releases what it acquires if and only if no attempt waits in vain
(`tcpUploadLogs_releases_iff`). Its result is right in any case
(`tcpUploadLogs_zero_iff`).

Key definitions: `AckPiece`, `waitForAck`, `Attempt`, `uploadAttempt`,
`tcpUploadLogs`, `Recognises`, `UploadReleases`.
Key theorems: `waitForAck_recognises_iff`, `settle_uploadAttempt`,
`settle_uploadLoop`, `tcpUploadLogs_zero_iff`, `tcpUploadLogs_releases_iff`.
-/
import Mathlib.Data.Nat.Find
import WtslCore.Lib.CStr
import WtslCore.Lib.Ledger

namespace WtslCore

open Ledger

/-! ### The acknowledgement -/

/-- `ACK_INFO_VERIFY` and `ACK_FILEDATA_VERIFY`. -/
def ackInfoVerify : CStr := "wt_info_ACK".toList
def ackFiledataVerify : CStr := "wt_filedata_ACK".toList

/-- What one `recv` into a buffer of 1024 bytes returns: any bytes, at least
one and at most 1023. -/
structure AckPiece where
  bytes : List Char
  nonempty : bytes ≠ []
  fits : bytes.length ≤ 1023

/-- How a wait ends: `select` fails or times out, `recv` returns no byte, or
some. -/
inductive Reply
  | selectError
  | timeout
  | recvFailed
  | received (piece : AckPiece)

/-- `wait_for_ack`. -/
def waitForAck (verify : CStr) : Reply → ℤ
  | .selectError => -1
  | .timeout => -1
  | .recvFailed => -1
  | .received piece => if (strstr verify (cstr piece.bytes)).isSome then 0 else -1

/-- The pieces in which the answer of the server arrives within the time. -/
def firstReply : List AckPiece → Reply
  | [] => .timeout
  | piece :: _ => .received piece

/-- All that arrives. -/
def answer (pieces : List AckPiece) : List Char := (pieces.map AckPiece.bytes).flatten

/-- **A text is recognised** in the answer, however that is cut into pieces. -/
def Recognises (verify : CStr) (pieces : List AckPiece) : Prop :=
  (verify <:+: answer pieces → waitForAck verify (firstReply pieces) = 0) ∧
    (¬ verify <:+: answer pieces → waitForAck verify (firstReply pieces) = -1)

theorem waitForAck_received (verify : CStr) (piece : AckPiece) :
    (waitForAck verify (.received piece) = 0 ↔ verify <:+: cstr piece.bytes) ∧
      (waitForAck verify (.received piece) = -1 ↔ ¬ verify <:+: cstr piece.bytes) := by
  rw [waitForAck, ← strstr_isSome_iff]
  split_ifs with h
  · exact ⟨iff_of_true rfl h, iff_of_false (by decide) (not_not.mpr h)⟩
  · exact ⟨iff_of_false (by decide) h, iff_of_true rfl h⟩

/-- What is found in the first piece is in the answer. -/
theorem infix_answer_of_first {verify : CStr} {piece : AckPiece} {pieces : List AckPiece}
    (h : verify <:+: cstr piece.bytes) : verify <:+: answer (piece :: pieces) := by
  have hcut : cstr piece.bytes <+: piece.bytes := List.takeWhile_prefix _
  have hpiece : piece.bytes <+: answer (piece :: pieces) := ⟨answer pieces, rfl⟩
  exact h.trans (hcut.trans hpiece).isInfix

/-- **The text is recognised if and only if the first piece has it** in front
of its first zero byte, or the answer does not have it at all. -/
theorem waitForAck_recognises_iff (verify : CStr) (pieces : List AckPiece) :
    Recognises verify pieces ↔
      (verify <:+: answer pieces → ∃ piece ∈ pieces.head?, verify <:+: cstr piece.bytes) := by
  unfold Recognises
  cases pieces with
  | nil =>
    have hlate : waitForAck verify (firstReply []) = -1 := rfl
    rw [hlate]
    constructor
    · intro h hin
      exact absurd (h.1 hin) (by decide)
    · intro h
      refine ⟨fun hin => ?_, fun _ => rfl⟩
      obtain ⟨piece, hpiece, -⟩ := h hin
      exact absurd hpiece (Option.not_mem_none piece)
  | cons piece pieces =>
    obtain ⟨hzero, hminus⟩ := waitForAck_received verify piece
    rw [show firstReply (piece :: pieces) = .received piece from rfl, hzero, hminus]
    constructor
    · intro h hin
      exact ⟨piece, rfl, h.1 hin⟩
    · intro h
      refine ⟨fun hin => ?_, fun hout hfirst => hout (infix_answer_of_first hfirst)⟩
      obtain ⟨piece', hpiece', hfirst⟩ := h hin
      cases Option.some.inj hpiece'
      exact hfirst

/-- Bytes as they are received. -/
def AckPiece.ofText (s : String) (nonempty : s.toList ≠ []) (fits : s.toList.length ≤ 1023) :
    AckPiece :=
  ⟨s.toList, nonempty, fits⟩

/-- The text in two segments, and the text behind a zero byte. -/
theorem waitForAck_misses :
    ¬ Recognises ackInfoVerify
        [.ofText "wt_info" (by decide) (by decide), .ofText "_ACK" (by decide) (by decide)] ∧
      ¬ Recognises ackFiledataVerify [.ofText "\x00wt_filedata_ACK" (by decide) (by decide)] := by
  refine ⟨fun h => ?_, fun h => ?_⟩
  · exact absurd (h.1 ⟨[], [], rfl⟩) (by decide)
  · exact absurd (h.1 ⟨[nul], [], rfl⟩) (by decide)

/-! ### The upload -/

/-- What is acquired on the way; a socket and the frames belong to an attempt. -/
inductive Resource
  | logFile
  | fileData
  | socket (attempt : ℕ)
  | infoFrame (attempt : ℕ)
  | dataFrame (attempt : ℕ)
  deriving DecidableEq, Repr

/-- What becomes of `read_log_file_content`. -/
structure LogRead where
  opened : Bool
  fileLength : ℕ
  malloc : Bool
  bytesRead : ℕ

/-- `read_log_file_content`, and whether it returns 0. -/
def readLogFileContent (log : LogRead) : List (Event Resource) × Bool :=
  if log.opened = false then ([], false)
  else if log.fileLength = 0 then ([.acquire .logFile, .release .logFile], false)
  else if log.malloc = false then ([.acquire .logFile, .release .logFile], false)
  else if log.bytesRead ≠ log.fileLength then
    ([.acquire .logFile, .acquire .fileData, .release .logFile, .release .fileData], false)
  else ([.acquire .logFile, .acquire .fileData, .release .logFile], true)

/-- What becomes of `create_tcp_connection`. -/
inductive Connection
  | noSocket
  | badAddress
  | refused
  | connected
  deriving DecidableEq, Repr

/-- `create_tcp_connection`, and whether it returns a descriptor. -/
def createTcpConnection (n : ℕ) : Connection → List (Event Resource) × Bool
  | .noSocket => ([], false)
  | .badAddress => ([.acquire (.socket n), .release (.socket n)], false)
  | .refused => ([.acquire (.socket n), .release (.socket n)], false)
  | .connected => ([.acquire (.socket n)], true)

/-- The outcomes of an attempt. -/
structure Attempt where
  connection : Connection
  infoBuilt : Bool
  infoSent : Bool
  infoReply : Reply
  dataBuilt : Bool
  dataSent : Bool
  dataReply : Reply

/-- One round of the loop, and whether `upload_result` is 0 after it. -/
def uploadAttempt (n : ℕ) (a : Attempt) : List (Event Resource) × Bool :=
  let (opened, connected) := createTcpConnection n a.connection
  if connected = false then (opened, false)
  else if a.infoBuilt = false then (opened ++ [.release (.socket n)], false)
  else
    let infoFrame := opened ++ [.acquire (.infoFrame n)]
    if a.infoSent = false then
      (infoFrame ++ [.release (.infoFrame n), .release (.socket n)], false)
    else
      let infoDone := infoFrame ++ [.release (.infoFrame n)]
      -- `continue` without `close(sockfd)`
      if waitForAck ackInfoVerify a.infoReply ≠ 0 then (infoDone, false)
      else if a.dataBuilt = false then (infoDone ++ [.release (.socket n)], false)
      else
        let dataFrame := infoDone ++ [.acquire (.dataFrame n)]
        if a.dataSent = false then
          (dataFrame ++ [.release (.dataFrame n), .release (.socket n)], false)
        else
          let dataDone := dataFrame ++ [.release (.dataFrame n)]
          if waitForAck ackFiledataVerify a.dataReply ≠ 0 then (dataDone, false)
          else (dataDone ++ [.release (.socket n)], true)

/-- The loop, with as many attempts left: what it does and `upload_result`. -/
def uploadLoop (attempts : ℕ → Attempt) : ℕ → ℕ → List (Event Resource) × ℤ
  | 0, _ => ([], -1)
  | left + 1, retryCount =>
    let (events, done) := uploadAttempt retryCount (attempts retryCount)
    if done then (events, 0)
    else
      let (events', result) := uploadLoop attempts left (retryCount + 1)
      (events ++ events', result)

/-- `tcp_upload_logs`. -/
def tcpUploadLogs (uploadRetryCount : ℕ) (log : LogRead) (attempts : ℕ → Attempt) :
    List (Event Resource) × ℤ :=
  let (reading, ok) := readLogFileContent log
  if ok = false then (reading, -1)
  else
    let (events, result) := uploadLoop attempts uploadRetryCount 0
    (reading ++ events ++ [.release .fileData], result)

/-! ### One attempt -/

namespace Attempt

/-- The first frame is sent. -/
def InfoSent (a : Attempt) : Prop :=
  a.connection = .connected ∧ a.infoBuilt = true ∧ a.infoSent = true

/-- It is confirmed, and the file is sent. -/
def DataSent (a : Attempt) : Prop :=
  a.InfoSent ∧ waitForAck ackInfoVerify a.infoReply = 0 ∧ a.dataBuilt = true ∧ a.dataSent = true

/-- Both are confirmed. -/
def Acknowledged (a : Attempt) : Prop :=
  a.DataSent ∧ waitForAck ackFiledataVerify a.dataReply = 0

/-- What was sent is not confirmed. -/
def WaitsInVain (a : Attempt) : Prop :=
  (a.InfoSent ∧ waitForAck ackInfoVerify a.infoReply ≠ 0) ∨
    (a.DataSent ∧ waitForAck ackFiledataVerify a.dataReply ≠ 0)

instance : DecidablePred InfoSent := fun _ => inferInstanceAs (Decidable (_ ∧ _))
instance : DecidablePred DataSent := fun _ => inferInstanceAs (Decidable (_ ∧ _))
instance : DecidablePred Acknowledged := fun _ => inferInstanceAs (Decidable (_ ∧ _))
instance : DecidablePred WaitsInVain := fun _ => inferInstanceAs (Decidable (_ ∨ _))

end Attempt

/-- What an attempt leaves open. -/
def leftOpen (n : ℕ) (a : Attempt) : List Resource := if a.WaitsInVain then [.socket n] else []

theorem leftOpen_eq_nil {n : ℕ} {a : Attempt} : leftOpen n a = [] ↔ ¬ a.WaitsInVain := by
  unfold leftOpen
  by_cases h : a.WaitsInVain
  · rw [if_pos h]
    exact iff_of_false (List.cons_ne_nil _ _) (not_not.mpr h)
  · rw [if_neg h]
    exact iff_of_true rfl h

theorem not_waitsInVain {a : Attempt} (h : a.Acknowledged) : ¬ a.WaitsInVain := by
  rintro (⟨-, hinfo⟩ | ⟨-, hdata⟩)
  · exact hinfo h.1.2.1
  · exact hdata h.2

/-- **What an attempt leaves and whether it succeeds**, exit by exit. -/
theorem settle_uploadAttempt (n : ℕ) (a : Attempt) (held : List Resource) :
    settle held (uploadAttempt n a).1 = some (leftOpen n a ++ held) ∧
      ((uploadAttempt n a).2 = true ↔ a.Acknowledged) := by
  obtain ⟨connection, infoBuilt, infoSent, infoReply, dataBuilt, dataSent, dataReply⟩ := a
  unfold uploadAttempt leftOpen Attempt.Acknowledged Attempt.WaitsInVain Attempt.DataSent
    Attempt.InfoSent
  cases connection with
  | noSocket => simp [createTcpConnection, settle]
  | badAddress => simp [createTcpConnection, settle]
  | refused => simp [createTcpConnection, settle]
  | connected =>
    cases infoBuilt
    · simp [createTcpConnection, settle]
    cases infoSent
    · simp [createTcpConnection, settle]
    by_cases hinfo : waitForAck ackInfoVerify infoReply = 0
    · cases dataBuilt
      · simp [createTcpConnection, settle, hinfo]
      cases dataSent
      · simp [createTcpConnection, settle, hinfo]
      by_cases hdata : waitForAck ackFiledataVerify dataReply = 0
      · simp [createTcpConnection, settle, hinfo, hdata]
      · simp [createTcpConnection, settle, hinfo, hdata]
    · simp [createTcpConnection, settle, hinfo]

/-- What an attempt acquires is its own. -/
theorem acquired_uploadAttempt (n : ℕ) (a : Attempt) :
    (acquired (uploadAttempt n a).1).Sublist [.socket n, .infoFrame n, .dataFrame n] := by
  obtain ⟨connection, infoBuilt, infoSent, infoReply, dataBuilt, dataSent, dataReply⟩ := a
  unfold uploadAttempt
  cases connection with
  | noSocket => exact List.nil_sublist _
  | badAddress => exact (List.nil_sublist _).cons_cons _
  | refused => exact (List.nil_sublist _).cons_cons _
  | connected =>
    have hopen : acquired (createTcpConnection n .connected).1 = [.socket n] := rfl
    dsimp only
    split_ifs <;> simp [acquired_append, hopen, acquired]

/-! ### The loop -/

section

variable (attempts : ℕ → Attempt)

/-- What the attempts leave open, the latest first. -/
def leftOpenBy : ℕ → ℕ → List Resource
  | 0, _ => []
  | left + 1, n =>
    if (attempts n).Acknowledged then []
    else leftOpenBy left (n + 1) ++ leftOpen n (attempts n)

/-- **What the loop leaves and its result.** -/
theorem settle_uploadLoop : ∀ (left n : ℕ) (held : List Resource),
    settle held (uploadLoop attempts left n).1 = some (leftOpenBy attempts left n ++ held) ∧
      ((uploadLoop attempts left n).2 = 0 ↔ ∃ i < left, (attempts (n + i)).Acknowledged)
  | 0, _, _ => ⟨rfl, iff_of_false (Int.neg_ne_zero.mpr Int.one_ne_zero)
      fun ⟨i, hi, _⟩ => Nat.not_lt_zero i hi⟩
  | left + 1, n, held => by
    obtain ⟨hsettle, hdone⟩ := settle_uploadAttempt n (attempts n) held
    unfold uploadLoop leftOpenBy
    by_cases hack : (attempts n).Acknowledged
    · have hclosed : leftOpen n (attempts n) = [] := leftOpen_eq_nil.mpr (not_waitsInVain hack)
      simp only [hdone.mpr hack, if_true, if_pos hack]
      rw [hsettle, hclosed]
      exact ⟨rfl, iff_of_true trivial ⟨0, Nat.succ_pos left, hack⟩⟩
    · have hfailed : (uploadAttempt n (attempts n)).2 = false := by
        cases hres : (uploadAttempt n (attempts n)).2 with
        | false => rfl
        | true => exact absurd (hdone.mp hres) hack
      obtain ⟨ihs, ihd⟩ := settle_uploadLoop left (n + 1) (leftOpen n (attempts n) ++ held)
      simp only [hfailed, Bool.false_eq_true, if_false, if_neg hack]
      constructor
      · rw [settle_append, hsettle, Option.bind_some, ihs, List.append_assoc]
      · rw [ihd]
        constructor
        · rintro ⟨i, hi, hsome⟩
          refine ⟨i + 1, Nat.succ_lt_succ hi, ?_⟩
          rwa [Nat.add_comm i 1, ← Nat.add_assoc]
        · rintro ⟨i, hi, hsome⟩
          cases i with
          | zero => exact absurd hsome hack
          | succ i =>
            refine ⟨i, Nat.lt_of_succ_lt_succ hi, ?_⟩
            rwa [Nat.add_comm i 1, ← Nat.add_assoc] at hsome

/-- Nothing is left open if and only if no attempt that is made waits in vain. -/
theorem leftOpenBy_eq_nil_iff : ∀ left n : ℕ, leftOpenBy attempts left n = [] ↔
    ∀ i < left, (∀ j < i, ¬ (attempts (n + j)).Acknowledged) → ¬ (attempts (n + i)).WaitsInVain
  | 0, _ => iff_of_true rfl fun i hi => absurd hi (Nat.not_lt_zero i)
  | left + 1, n => by
    have hshift : ∀ i, n + 1 + i = n + (i + 1) := fun i => by omega
    unfold leftOpenBy
    split_ifs with hack
    · refine iff_of_true rfl fun i _ hbefore => ?_
      cases i with
      | zero => exact not_waitsInVain hack
      | succ i => exact absurd hack (hbefore 0 (Nat.succ_pos i))
    · rw [List.append_eq_nil_iff, leftOpenBy_eq_nil_iff left (n + 1), leftOpen_eq_nil]
      simp only [hshift]
      constructor
      · rintro ⟨hrest, hfirst⟩ i hi hbefore
        cases i with
        | zero => exact hfirst
        | succ i =>
          exact hrest i (Nat.lt_of_succ_lt_succ hi) fun j hj => hbefore (j + 1) (Nat.succ_lt_succ hj)
      · intro h
        refine ⟨fun i hi hbefore => h (i + 1) (Nat.succ_lt_succ hi) fun j hj => ?_,
          h 0 (Nat.succ_pos left) fun j hj => absurd hj (Nat.not_lt_zero j)⟩
        cases j with
        | zero => exact hack
        | succ j => exact hbefore j (Nat.lt_of_succ_lt_succ hj)

/-- What the attempts acquire, each its own. -/
theorem acquired_uploadLoop : ∀ left n : ℕ, (acquired (uploadLoop attempts left n).1).Sublist
    ((List.range' n left).flatMap fun k => [.socket k, .infoFrame k, .dataFrame k])
  | 0, _ => List.Sublist.refl _
  | left + 1, n => by
    have hfirst := acquired_uploadAttempt n (attempts n)
    unfold uploadLoop
    rw [List.range'_succ, List.flatMap_cons]
    dsimp only
    split_ifs
    · exact hfirst.trans (List.sublist_append_left _ _)
    · rw [acquired_append]
      exact hfirst.append (acquired_uploadLoop left (n + 1))

/-- Only the file is not an attempt's. -/
theorem fileData_notMem_leftOpenBy : ∀ left n : ℕ, .fileData ∉ leftOpenBy attempts left n
  | 0, _ => List.not_mem_nil
  | left + 1, n => by
    have ih := fileData_notMem_leftOpenBy left (n + 1)
    unfold leftOpenBy leftOpen
    split_ifs <;> simp [ih]

end

/-! ### The whole upload -/

/-- The file is there and read as a whole. -/
def LogRead.Readable (log : LogRead) : Prop :=
  log.opened = true ∧ log.fileLength ≠ 0 ∧ log.malloc = true ∧ log.bytesRead = log.fileLength

theorem settle_readLogFileContent (log : LogRead) :
    (log.Readable → settle [] (readLogFileContent log).1 = some [.fileData] ∧
      (readLogFileContent log).2 = true) ∧
    (¬ log.Readable → settle [] (readLogFileContent log).1 = some [] ∧
      (readLogFileContent log).2 = false) := by
  obtain ⟨opened, fileLength, malloc, bytesRead⟩ := log
  unfold readLogFileContent LogRead.Readable
  cases opened
  · simp [settle]
  by_cases hlen : fileLength = 0
  · simp [hlen, settle]
  cases malloc
  · simp [hlen, settle]
  by_cases hread : bytesRead = fileLength
  · simp [hlen, hread, settle]
  · simp [hlen, hread, settle]

theorem acquired_readLogFileContent (log : LogRead) :
    (acquired (readLogFileContent log).1).Sublist [.logFile, .fileData] := by
  unfold readLogFileContent
  split_ifs <;> simp [acquired]

section

variable (uploadRetryCount : ℕ) (log : LogRead) (attempts : ℕ → Attempt)

/-- An attempt is made: the file was read, and no attempt before it succeeded. -/
def AttemptMade (k : ℕ) : Prop :=
  log.Readable ∧ k < uploadRetryCount ∧ ∀ j < k, ¬ (attempts j).Acknowledged

/-- **The upload releases what it acquires**, and succeeds if and only if some
attempt is confirmed twice. -/
def UploadReleases : Prop :=
  ReleasedOnce (tcpUploadLogs uploadRetryCount log attempts).1 ∧
    ((tcpUploadLogs uploadRetryCount log attempts).2 = 0 ↔
      ∃ k, AttemptMade uploadRetryCount log attempts k ∧ (attempts k).Acknowledged)

variable {uploadRetryCount log attempts}

theorem tcpUploadLogs_readable (h : log.Readable) :
    settle [] (tcpUploadLogs uploadRetryCount log attempts).1 =
        some (leftOpenBy attempts uploadRetryCount 0) ∧
      (tcpUploadLogs uploadRetryCount log attempts).2 = (uploadLoop attempts uploadRetryCount 0).2 := by
  have hread := (settle_readLogFileContent log).1 h
  have hloop := (settle_uploadLoop attempts uploadRetryCount 0 [.fileData]).1
  have hfile : .fileData ∈ leftOpenBy attempts uploadRetryCount 0 ++ [.fileData] :=
    List.mem_append_right _ List.mem_cons_self
  unfold tcpUploadLogs
  simp only [hread.2, Bool.true_eq_false, if_false]
  rw [settle_append, settle_append, hread.1, Option.bind_some, hloop, Option.bind_some, settle,
    if_pos hfile, List.erase_append_right _ (fileData_notMem_leftOpenBy attempts uploadRetryCount 0),
    List.erase_cons_head, List.append_nil]
  exact ⟨rfl, trivial⟩

theorem tcpUploadLogs_unreadable (h : ¬ log.Readable) :
    settle [] (tcpUploadLogs uploadRetryCount log attempts).1 = some [] ∧
      (tcpUploadLogs uploadRetryCount log attempts).2 = -1 := by
  have hread := (settle_readLogFileContent log).2 h
  unfold tcpUploadLogs
  simp only [hread.2, if_true]
  exact ⟨hread.1, trivial⟩

/-- Nothing is acquired twice. -/
theorem nodup_acquired :
    (acquired (tcpUploadLogs uploadRetryCount log attempts).1).Nodup := by
  have hread := acquired_readLogFileContent log
  have hloop := acquired_uploadLoop attempts uploadRetryCount 0
  have hown : ((List.range' 0 uploadRetryCount).flatMap fun k =>
      [Resource.socket k, .infoFrame k, .dataFrame k]).Nodup := by
    refine List.nodup_flatMap.mpr ⟨fun k _ => by simp, ?_⟩
    refine (List.nodup_range' ..).imp fun {j k} hjk => ?_
    simp [Function.onFun, List.Disjoint, hjk]
  have hall : ([Resource.logFile, .fileData] ++ (List.range' 0 uploadRetryCount).flatMap
      fun k => [Resource.socket k, .infoFrame k, .dataFrame k]).Nodup := by
    refine List.nodup_append.mpr ⟨by decide, hown, fun a ha b hb => ?_⟩
    obtain ⟨k, -, hk⟩ := List.mem_flatMap.mp hb
    simp only [List.mem_cons, List.not_mem_nil, or_false] at ha hk
    rcases ha with rfl | rfl <;> rcases hk with rfl | rfl | rfl <;> simp
  unfold tcpUploadLogs
  dsimp only
  split_ifs
  · exact (hread.trans (List.sublist_append_left _ _)).nodup hall
  · rw [acquired_append, acquired_append]
    show (_ ++ _ ++ []).Nodup
    rw [List.append_nil]
    exact (hread.append hloop).nodup hall

/-- The first of the confirmed attempts is made. -/
theorem exists_made_iff (h : log.Readable) :
    (∃ k, AttemptMade uploadRetryCount log attempts k ∧ (attempts k).Acknowledged) ↔
      ∃ k < uploadRetryCount, (attempts k).Acknowledged := by
  constructor
  · rintro ⟨k, hmade, hack⟩
    exact ⟨k, hmade.2.1, hack⟩
  · intro hex
    have hfirst := Nat.find_spec hex
    have hleast : ∀ j < Nat.find hex, ¬ (attempts j).Acknowledged := fun j hj hack =>
      Nat.find_min hex hj ⟨Nat.lt_trans hj hfirst.1, hack⟩
    exact ⟨Nat.find hex, ⟨h, hfirst.1, hleast⟩, hfirst.2⟩

/-- The result is right in any case. -/
theorem tcpUploadLogs_zero_iff : (tcpUploadLogs uploadRetryCount log attempts).2 = 0 ↔
    ∃ k, AttemptMade uploadRetryCount log attempts k ∧ (attempts k).Acknowledged := by
  by_cases h : log.Readable
  · rw [(tcpUploadLogs_readable h).2, (settle_uploadLoop attempts uploadRetryCount 0 []).2,
      exists_made_iff h]
    simp only [Nat.zero_add]
  · rw [(tcpUploadLogs_unreadable h).2]
    exact iff_of_false (Int.neg_ne_zero.mpr Int.one_ne_zero) fun ⟨_, hmade, _⟩ => h hmade.1

/-- **The upload releases what it acquires if and only if no attempt that is
made waits in vain** for one of the two confirmations. -/
theorem tcpUploadLogs_releases_iff (uploadRetryCount : ℕ) (log : LogRead) (attempts : ℕ → Attempt) :
    UploadReleases uploadRetryCount log attempts ↔
      ∀ k, AttemptMade uploadRetryCount log attempts k → ¬ (attempts k).WaitsInVain := by
  have hsettled : settle [] (tcpUploadLogs uploadRetryCount log attempts).1 = some [] ↔
      ∀ k, AttemptMade uploadRetryCount log attempts k → ¬ (attempts k).WaitsInVain := by
    by_cases h : log.Readable
    · rw [(tcpUploadLogs_readable h).1, Option.some.injEq,
        leftOpenBy_eq_nil_iff attempts uploadRetryCount 0]
      simp only [Nat.zero_add]
      exact ⟨fun hall k hmade => hall k hmade.2.1 hmade.2.2,
        fun hall k hk hbefore => hall k ⟨h, hk, hbefore⟩⟩
    · exact iff_of_true (tcpUploadLogs_unreadable h).1 fun k hmade => absurd hmade.1 h
  rw [← hsettled]
  exact ⟨fun h => h.1.settled, fun h => ⟨.of_settle h nodup_acquired, tcpUploadLogs_zero_iff⟩⟩

end

/-- The server takes the name of the file and does not confirm it in time. -/
def unconfirmed : Attempt := ⟨.connected, true, true, .timeout, true, true, .timeout⟩

/-- One attempt that is not confirmed: its socket stays open. -/
theorem tcpUploadLogs_leaks : ¬ UploadReleases 1 ⟨true, 5, true, 5⟩ fun _ => unconfirmed := by
  intro h
  have hsettled := h.1.settled
  exact absurd hsettled (by decide)

end WtslCore
