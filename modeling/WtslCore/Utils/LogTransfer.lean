/-
# What the log server receives

Each attempt of `tcp_upload_logs` sends two frames on a connection of its own:
one with the name and the size of the file, and, when that is confirmed, one
with the file. `send_frame_data` calls `send` until all is taken or a call
takes nothing, so what is on the connection is the two frames or a front of
them (`sendFrameData_spec`, `wire_cases`). The server reads frame by frame
(`takeFrame`): wherever the connection breaks it has whole frames, with
consecutive numbers, and never a file that is cut short
(`tcpTransfer_received`); the upload reports success only behind a connection
on which the server has the name, the size and the bytes of the file
(`tcpTransfer_delivers_iff`).

Key definitions: `sendFrameData`, `FileInfo`, `prepareFileInfo`, `takeFrame`,
`Link`, `linkAttempt`, `tcpTransfer`, `storedFile`.
Key theorems: `sendFrameData_spec`, `logFraming`, `linkAttempt_outcome`,
`tcpTransfer_result`, `tcpTransfer_received`, `tcpTransfer_delivers_iff`.
-/
import WtslCore.Lib.Framed
import WtslCore.Utils.LogFrame
import WtslCore.Utils.LogUpload

namespace WtslCore

/-! ### Sending a frame -/

/-- `send_frame_data`: the bytes `send` takes and the result. The call `k`
takes `send k` bytes of those that are left, or all of them if they are fewer;
each call takes one at least, so as many calls as there are bytes suffice. -/
def sendFrameData (send : ℕ → ℤ) : ℕ → ℕ → List UInt8 → List UInt8 × ℤ
  | 0, _, _ => ([], 0)
  | calls + 1, k, frameData =>
    if frameData = [] then ([], 0)
    else
      let bytesSent := min (send k) frameData.length
      if bytesSent ≤ 0 then ([], -1)
      else
        let (taken, ret) := sendFrameData send calls (k + 1) (frameData.drop bytesSent.toNat)
        (frameData.take bytesSent.toNat ++ taken, ret)

/-- **A frame is sent as a whole, or a front of it and the call says so.** -/
theorem sendFrameData_spec (send : ℕ → ℤ) : ∀ {calls : ℕ} (k : ℕ) {frameData : List UInt8},
    frameData.length ≤ calls →
    ((sendFrameData send calls k frameData).2 = 0 ∧
        (sendFrameData send calls k frameData).1 = frameData) ∨
      ((sendFrameData send calls k frameData).2 = -1 ∧ ∃ rest, rest ≠ [] ∧
        frameData = (sendFrameData send calls k frameData).1 ++ rest)
  | 0, _, frameData, hcalls =>
    .inl ⟨rfl, (List.length_eq_zero_iff.mp (Nat.le_zero.mp hcalls)).symm⟩
  | calls + 1, k, frameData, hcalls => by
    unfold sendFrameData
    by_cases hnil : frameData = []
    · rw [if_pos hnil]
      exact .inl ⟨rfl, hnil.symm⟩
    rw [if_neg hnil]
    dsimp only
    by_cases hnone : min (send k) (frameData.length : ℤ) ≤ 0
    · rw [if_pos hnone]
      exact .inr ⟨rfl, frameData, hnil, rfl⟩
    rw [if_neg hnone]
    have hrest : (frameData.drop (min (send k) (frameData.length : ℤ)).toNat).length ≤ calls := by
      rw [List.length_drop]
      omega
    rcases sendFrameData_spec send (k + 1) hrest with ⟨hret, htaken⟩ | ⟨hret, rest, hne, htaken⟩
    · refine .inl ⟨hret, ?_⟩
      rw [htaken, List.take_append_drop]
    · refine .inr ⟨hret, rest, hne, ?_⟩
      rw [List.append_assoc, ← htaken, List.take_append_drop]

/-- All of a frame, with the calls it takes. -/
def sendFrame (send : ℕ → ℤ) (frameData : List UInt8) : List UInt8 × ℤ :=
  sendFrameData send frameData.length 0 frameData

theorem sendFrame_spec (send : ℕ → ℤ) (frameData : List UInt8) :
    ((sendFrame send frameData).2 = 0 ∧ (sendFrame send frameData).1 = frameData) ∨
      ((sendFrame send frameData).2 ≠ 0 ∧ ∃ rest, rest ≠ [] ∧
        frameData = (sendFrame send frameData).1 ++ rest) := by
  rcases sendFrameData_spec send 0 (Nat.le_refl frameData.length) with h | ⟨hret, h⟩
  · exact .inl h
  · refine .inr ⟨?_, h⟩
    unfold sendFrame
    rw [hret]
    decide

/-! ### The first frame -/

/-- `file_info_t`. -/
structure FileInfo where
  filename : List UInt8
  fileSize : ℕ
  isDir : Bool
  filename_length : filename.length = 256

/-- What is behind the last slash, or all if there is none. -/
def lastSegment (path : List UInt8) : List UInt8 :=
  (path.reverse.takeWhile fun b => b != 47).reverse

/-- `prepare_file_info`: `snprintf` cuts the name at 255 bytes. -/
def prepareFileInfo (logFilePath : List UInt8) (fileSize : ℕ) : FileInfo :=
  let name := (lastSegment logFilePath).take 255
  ⟨name ++ List.replicate (256 - name.length) 0, fileSize, false, by
    have hname : name.length ≤ 255 := List.length_take_le _ _
    rw [List.length_append, List.length_replicate]
    omega⟩

/-- The bytes of a `file_info_t` of a device with a `size_t` of 32 bits. -/
def FileInfo.bytes (info : FileInfo) : List UInt8 :=
  info.filename ++ (leBytes 4 info.fileSize ++ [if info.isDir then 1 else 0, 0, 0, 0])

/-- The name and the size a server reads in it. -/
def readFileInfo (bs : List UInt8) : List UInt8 × ℕ :=
  ((bs.take 256).takeWhile fun b => b != 0, leValue ((bs.drop 256).take 4))

theorem FileInfo.length_bytes (info : FileInfo) : info.bytes.length = 264 := by
  simp only [FileInfo.bytes, List.length_append, info.filename_length, length_leBytes,
    List.length_cons, List.length_nil]

/-- **The name and the size are read back.** -/
theorem readFileInfo_bytes {logFilePath : List UInt8} {fileSize : ℕ} (hpath : 0 ∉ logFilePath)
    (hsize : fileSize < 4294967296) :
    readFileInfo (prepareFileInfo logFilePath fileSize).bytes =
      ((lastSegment logFilePath).take 255, fileSize) := by
  obtain ⟨name, hname⟩ : ∃ name, (lastSegment logFilePath).take 255 = name := ⟨_, rfl⟩
  have hlen : name.length ≤ 255 := hname ▸ List.length_take_le _ _
  have hin : ∀ b ∈ name, (b != 0) = true := by
    intro b hb
    rw [← hname] at hb
    have hseg : b ∈ logFilePath := by
      have := List.mem_of_mem_take hb
      rw [lastSegment, List.mem_reverse] at this
      exact List.mem_reverse.mp ((List.takeWhile_sublist _).subset this)
    simpa using fun h : b = 0 => hpath (h ▸ hseg)
  have hpad : ∃ k, List.replicate (256 - name.length) (0 : UInt8) = 0 :: List.replicate k 0 :=
    ⟨255 - name.length, by rw [← List.replicate_succ]; congr 1; omega⟩
  obtain ⟨k, hk⟩ := hpad
  have hfield : (prepareFileInfo logFilePath fileSize).filename = name ++ 0 :: List.replicate k 0 := by
    unfold prepareFileInfo
    dsimp only
    rw [hname, hk]
  have hwidth := (prepareFileInfo logFilePath fileSize).filename_length
  unfold readFileInfo FileInfo.bytes
  rw [List.take_left' hwidth, List.drop_left' hwidth, List.take_left' (length_leBytes 4 _),
    leValue_leBytes, hfield, List.takeWhile_append_of_pos hin, List.takeWhile_cons_of_neg (by simp),
    List.append_nil]
  exact Prod.ext hname.symm (Nat.mod_eq_of_lt hsize)

/-! ### Frames off a connection -/

/-- A frame as it is built. -/
structure SentFrame where
  seq : UInt16
  source : Address32
  dest : Address32
  dataType : UInt32
  dataIdentifier : UInt8
  payload : List UInt8

/-- Its bytes. -/
def SentFrame.bytes (f : SentFrame) : List UInt8 :=
  frameBytes f.source f.dest f.seq f.payload f.dataType f.dataIdentifier

/-- What it says. -/
def SentFrame.says (f : SentFrame) : LogFrame :=
  ⟨f.seq.toNat, f.source, f.dest, f.dataType.toNat, f.payload.length, f.dataIdentifier.toNat,
    f.payload⟩

/-- Its length fits its field. -/
def SentFrame.Fits (f : SentFrame) : Prop := f.payload.length < 16777216

/-- One frame off the front: the fields in front say how long it is. -/
def takeFrame (bs : List UInt8) : Option (LogFrame × List UInt8) :=
  (takeHead bs).bind fun (head, _) =>
    if 26 + head.dataLength ≤ bs.length then
      (decodeFrame (bs.take (26 + head.dataLength))).map fun frame =>
        (frame, bs.drop (26 + head.dataLength))
    else none

/-- A field is found in front of more as well. -/
theorem takeField_of_append {k n : ℕ} {bs rest : List UInt8} (more : List UInt8)
    (h : takeField k bs = some (n, rest)) : takeField k (bs ++ more) = some (n, rest ++ more) := by
  unfold takeField at h ⊢
  split_ifs at h with hk
  have hpair := Prod.mk.inj (Option.some.inj h)
  have hk' : k ≤ (bs ++ more).length := by
    rw [List.length_append]
    omega
  rw [if_pos hk', List.take_append_of_le_length hk, List.drop_append_of_le_length hk, hpair.1, hpair.2]

theorem takeHead_of_append {bs rest : List UInt8} {head : FrameHead} (more : List UInt8)
    (h : takeHead bs = some (head, rest)) : takeHead (bs ++ more) = some (head, rest ++ more) := by
  unfold takeHead at h ⊢
  simp only [Option.bind_eq_some_iff, Option.map_eq_some_iff, Prod.exists] at h
  obtain ⟨n1, b1, h1, n2, b2, h2, n3, b3, h3, n4, b4, h4, n5, b5, h5, n6, b6, h6, n7, b7, h7, hend⟩ := h
  obtain ⟨rfl, rfl⟩ := Prod.mk.inj hend
  simp only [takeField_of_append more h1, takeField_of_append more h2, takeField_of_append more h3,
    takeField_of_append more h4, takeField_of_append more h5, takeField_of_append more h6,
    takeField_of_append more h7, Option.bind_some, Option.map_some]

theorem SentFrame.length_bytes (f : SentFrame) : f.bytes.length = 26 + f.payload.length :=
  length_frameBytes

/-- The fields in front of a frame that fits give its length. -/
theorem SentFrame.takeHead_bytes {f : SentFrame} (hfits : f.Fits) (rest : List UInt8) :
    ∃ head after, takeHead (f.bytes ++ rest) = some (head, after) ∧
      head.dataLength = f.payload.length := by
  have hhead := takeHead_frameBody f.source f.dest f.seq f.payload f.dataType f.dataIdentifier
    (leBytes 2 (calculateChecksum (frameBody f.source f.dest f.seq f.payload f.dataType
      f.dataIdentifier)) ++ leBytes 2 frameFooter ++ rest)
  rw [← List.append_assoc, ← List.append_assoc] at hhead
  exact ⟨_, _, hhead, Nat.mod_eq_of_lt hfits⟩

/-- **The frames of an upload are told apart on a connection.** -/
theorem logFraming : Framing takeFrame SentFrame.bytes SentFrame.says SentFrame.Fits where
  nothing := rfl
  nonempty := fun {f} _ hnil => by
    have hlen := f.length_bytes
    rw [hnil] at hlen
    exact absurd hlen (by rw [List.length_nil]; omega)
  whole := fun {f} rest hfits => by
    obtain ⟨head, after, hhead, hlen⟩ := f.takeHead_bytes hfits rest
    have hsize := f.length_bytes
    have hroom : 26 + f.payload.length ≤ (f.bytes ++ rest).length := by
      rw [List.length_append, hsize]
      exact Nat.le_add_right _ _
    unfold takeFrame
    rw [hhead, Option.bind_some]
    dsimp only
    rw [hlen, if_pos hroom, List.take_left' hsize, List.drop_left' hsize]
    unfold SentFrame.bytes
    rw [decodeFrame_bytes hfits]
    rfl
  part := fun {f front rest} hfits hcut hne => by
    unfold takeFrame
    cases hfront : takeHead front with
    | none => rfl
    | some found =>
      obtain ⟨head, after⟩ := found
      -- a front that has the fields has those of the frame
      obtain ⟨head', after', hhead, hlen⟩ := f.takeHead_bytes hfits []
      rw [List.append_nil, hcut, takeHead_of_append rest hfront] at hhead
      obtain ⟨rfl, -⟩ := Prod.mk.inj (Option.some.inj hhead)
      have hsize := f.length_bytes
      have hpos := List.length_pos_iff.mpr hne
      rw [hcut, List.length_append] at hsize
      rw [Option.bind_some]
      dsimp only
      rw [hlen, if_neg (by omega)]

/-! ### The attempts -/

/-- `DATA_INFO_LOG_UPLAOD`, `DATA_TYPE_LOG_UPLOAD`, `DATA_IDENTIFIER_STRUCT` and
`DATA_IDENTIFIER_FILE`. -/
def dataInfoLogUpload : UInt32 := 0x82000000
def dataTypeLogUpload : UInt32 := 0x87000000
def dataIdentifierStruct : UInt8 := 0x03
def dataIdentifierFile : UInt8 := 0x02

/-- The frame, if one was built within its memory. -/
def FrameResult.frame? : FrameResult → Option (List UInt8)
  | .rejected => none
  | .built frame _ => some frame
  | .overrun => none

/-- What happens on the way in an attempt. -/
structure Link where
  connection : Connection
  infoMalloc : Bool
  infoSend : ℕ → ℤ
  infoReply : Reply
  dataMalloc : Bool
  dataSend : ℕ → ℤ
  dataReply : Reply

/-- What an attempt puts on its connection, whether it is confirmed, and the
frame counter after it. -/
structure Transfer where
  wire : List UInt8
  acknowledged : Bool
  seq : UInt16

/-- The log file as `read_log_file_content` finds it. -/
structure LogFile where
  opened : Bool
  content : List UInt8
  malloc : Bool
  bytesRead : ℕ

/-- What matters of it for the reading. -/
def LogFile.read (file : LogFile) : LogRead :=
  ⟨file.opened, file.content.length, file.malloc, file.bytesRead⟩

section

variable (source dest : Address32) (fileInfo : FileInfo) (fileData : List UInt8)

/-- `build_file_info_frame`. -/
def buildFileInfoFrame (seq : UInt16) (malloc : Bool) : FrameResult × UInt16 :=
  buildLogUploadFrame source dest seq fileInfo.bytes dataInfoLogUpload dataIdentifierStruct malloc

/-- `build_log_data_frame`. -/
def buildLogDataFrame (seq : UInt16) (malloc : Bool) : FrameResult × UInt16 :=
  buildLogUploadFrame source dest seq fileData dataTypeLogUpload dataIdentifierFile malloc

/-- One round of the loop of `tcp_upload_logs`, with the bytes it sends. -/
def linkAttempt (seq : UInt16) (l : Link) : Transfer :=
  if (createTcpConnection 0 l.connection).2 = false then ⟨[], false, seq⟩
  else
    let info := buildFileInfoFrame source dest fileInfo seq l.infoMalloc
    info.1.frame?.elim ⟨[], false, info.2⟩ fun infoFrameData =>
      let infoSent := sendFrame l.infoSend infoFrameData
      if infoSent.2 ≠ 0 then ⟨infoSent.1, false, info.2⟩
      else if waitForAck ackInfoVerify l.infoReply ≠ 0 then ⟨infoSent.1, false, info.2⟩
      else
        let data := buildLogDataFrame source dest fileData info.2 l.dataMalloc
        data.1.frame?.elim ⟨infoSent.1, false, data.2⟩ fun dataFrameData =>
          let dataSent := sendFrame l.dataSend dataFrameData
          if dataSent.2 ≠ 0 then ⟨infoSent.1 ++ dataSent.1, false, data.2⟩
          else ⟨infoSent.1 ++ dataSent.1, waitForAck ackFiledataVerify l.dataReply = 0, data.2⟩

/-- The loop, with as many attempts left: the transfers and `upload_result`. -/
def transferLoop (links : ℕ → Link) : ℕ → ℕ → UInt16 → List Transfer × ℤ
  | 0, _, _ => ([], -1)
  | left + 1, retryCount, seq =>
    let t := linkAttempt source dest fileInfo fileData seq (links retryCount)
    if t.acknowledged then ([t], 0)
    else
      let (ts, result) := transferLoop links left (retryCount + 1) t.seq
      (t :: ts, result)

/-- The outcomes of `uploadAttempt` that belong to what happens on the way. -/
def Link.attempt (seq : UInt16) (l : Link) : Attempt where
  connection := l.connection
  infoBuilt := (buildFileInfoFrame source dest fileInfo seq l.infoMalloc).1.frame?.isSome
  infoSent := (buildFileInfoFrame source dest fileInfo seq l.infoMalloc).1.frame?.any
    fun frame => (sendFrame l.infoSend frame).2 == 0
  infoReply := l.infoReply
  dataBuilt := (buildLogDataFrame source dest fileData
    (buildFileInfoFrame source dest fileInfo seq l.infoMalloc).2 l.dataMalloc).1.frame?.isSome
  dataSent := (buildLogDataFrame source dest fileData
    (buildFileInfoFrame source dest fileInfo seq l.infoMalloc).2 l.dataMalloc).1.frame?.any
    fun frame => (sendFrame l.dataSend frame).2 == 0
  dataReply := l.dataReply

end

/-- `tcp_upload_logs` with `log_file_path`, the file there and the counter. -/
def tcpTransfer (source dest : Address32) (uploadRetryCount : ℕ) (logFilePath : List UInt8)
    (file : LogFile) (links : ℕ → Link) (seq : UInt16) : List Transfer × ℤ :=
  if (readLogFileContent file.read).2 = false then ([], -1)
  else
    transferLoop source dest (prepareFileInfo logFilePath file.content.length) file.content links
      uploadRetryCount 0 seq

/-- What a server stores of the frames of a connection: a file, with its name,
when the second frame has as many bytes as the first one says. -/
def storedFile : List LogFrame → Option (List UInt8 × List UInt8)
  | [info, data] =>
    if info.dataType = dataInfoLogUpload.toNat ∧ data.dataType = dataTypeLogUpload.toNat ∧
        (readFileInfo info.payload).2 = data.payload.length
    then some ((readFileInfo info.payload).1, data.payload)
    else none
  | _ => none

/-- The frames that are read off what was received of a connection. -/
def framesOf (received : List UInt8) : List LogFrame := (readAll takeFrame received.length received).1

/-! ### What an attempt sends -/

section

variable {source dest : Address32} {fileInfo : FileInfo} {fileData : List UInt8} {seq : UInt16}

/-- The two frames of an attempt that starts with a counter. -/
def attemptFrames (source dest : Address32) (fileInfo : FileInfo) (fileData : List UInt8)
    (seq : UInt16) : List SentFrame :=
  [⟨seq, source, dest, dataInfoLogUpload, dataIdentifierStruct, fileInfo.bytes⟩,
    ⟨seq + 1, source, dest, dataTypeLogUpload, dataIdentifierFile, fileData⟩]

theorem fits_attemptFrames (hfits : fileData.length < 16777216) :
    ∀ f ∈ attemptFrames source dest fileInfo fileData seq, f.Fits := by
  intro f hf
  rcases List.mem_cons.mp hf with rfl | hf
  · unfold SentFrame.Fits
    dsimp only
    rw [FileInfo.length_bytes]
    decide
  · rw [List.mem_singleton.mp hf]
    exact hfits

/-- A frame that is built is the whole one, and it is counted. -/
theorem frame?_buildLogUploadFrame {data frame : List UInt8} {dataType : UInt32}
    {dataIdentifier : UInt8} {malloc : Bool}
    (h : (buildLogUploadFrame source dest seq data dataType dataIdentifier malloc).1.frame? =
      some frame) :
    frame = frameBytes source dest seq data dataType dataIdentifier ∧
      (buildLogUploadFrame source dest seq data dataType dataIdentifier malloc).2 = seq + 1 := by
  unfold buildLogUploadFrame at h ⊢
  split_ifs at h ⊢ with hnil hmalloc
  · exact nomatch h
  · exact nomatch h
  · dsimp only at h
    split_ifs at h with hroom
    · exact nomatch h
    · exact ⟨(Option.some.inj h).symm, rfl⟩

theorem createTcpConnection_eq_false (c : Connection) :
    (createTcpConnection 0 c).2 = false ↔ c ≠ .connected := by
  cases c <;> decide

/-- **The outcome is that of `uploadAttempt`.** -/
theorem linkAttempt_outcome (n : ℕ) (l : Link) :
    (linkAttempt source dest fileInfo fileData seq l).acknowledged =
      (uploadAttempt n (l.attempt source dest fileInfo fileData seq)).2 := by
  rw [Bool.eq_iff_iff, (settle_uploadAttempt n _ []).2]
  unfold linkAttempt Attempt.Acknowledged Attempt.DataSent Attempt.InfoSent Link.attempt
  dsimp only
  by_cases hconn : l.connection = .connected
  · rw [if_neg fun h => (createTcpConnection_eq_false _).mp h hconn]
    cases (buildFileInfoFrame source dest fileInfo seq l.infoMalloc).1.frame? with
    | none => simp
    | some infoFrame =>
      by_cases hinfo : (sendFrame l.infoSend infoFrame).2 = 0
      · by_cases hack : waitForAck ackInfoVerify l.infoReply = 0
        · cases (buildLogDataFrame source dest fileData
            (buildFileInfoFrame source dest fileInfo seq l.infoMalloc).2 l.dataMalloc).1.frame? with
          | none => simp [hinfo, hack]
          | some dataFrame =>
            by_cases hdata : (sendFrame l.dataSend dataFrame).2 = 0
            · simp [hinfo, hack, hdata, hconn]
            · simp [hinfo, hack, hdata]
        · simp [hinfo, hack]
      · simp [hinfo]
  · rw [if_pos ((createTcpConnection_eq_false _).mpr hconn)]
    simp [hconn]

/-- **What is on the connection**: a part of the first frame if that was not
sent, the first one and a part of the other if that was not sent, or both. -/
theorem wire_cases (l : Link) {info data : List UInt8}
    (hinfo : frameBytes source dest seq fileInfo.bytes dataInfoLogUpload dataIdentifierStruct = info)
    (hdata : frameBytes source dest (seq + 1) fileData dataTypeLogUpload dataIdentifierFile = data) :
    (¬ (l.attempt source dest fileInfo fileData seq).InfoSent ∧ ∃ rest, rest ≠ [] ∧
        info = (linkAttempt source dest fileInfo fileData seq l).wire ++ rest) ∨
      ((l.attempt source dest fileInfo fileData seq).InfoSent ∧
        ¬ (l.attempt source dest fileInfo fileData seq).DataSent ∧ ∃ part rest, rest ≠ [] ∧
          data = part ++ rest ∧
            (linkAttempt source dest fileInfo fileData seq l).wire = info ++ part) ∨
      ((l.attempt source dest fileInfo fileData seq).DataSent ∧
        (linkAttempt source dest fileInfo fileData seq l).wire = info ++ data) := by
  have hinfoNe : info ≠ [] := by
    rintro rfl
    exact absurd (congrArg List.length hinfo) (by rw [length_frameBytes]; simp)
  have hdataNe : data ≠ [] := by
    rintro rfl
    exact absurd (congrArg List.length hdata) (by rw [length_frameBytes]; simp)
  unfold linkAttempt Attempt.DataSent Attempt.InfoSent Link.attempt
  dsimp only
  by_cases hconn : l.connection = .connected
  · rw [if_neg fun h => (createTcpConnection_eq_false _).mp h hconn]
    cases hbuilt : (buildFileInfoFrame source dest fileInfo seq l.infoMalloc).1.frame? with
    | none => exact .inl ⟨by simp, info, hinfoNe, rfl⟩
    | some infoFrame =>
      obtain ⟨hwhole, hseq⟩ := frame?_buildLogUploadFrame hbuilt
      rw [hinfo] at hwhole
      subst hwhole
      rw [Option.elim_some, show (buildFileInfoFrame source dest fileInfo seq l.infoMalloc).2 = seq + 1
        from hseq]
      rcases sendFrame_spec l.infoSend infoFrame with ⟨hret, hsent⟩ | ⟨hret, left, hleft, hsent⟩
      · rw [if_neg (not_not.mpr hret), hsent]
        refine .inr ?_
        by_cases hack : waitForAck ackInfoVerify l.infoReply = 0
        · rw [if_neg (not_not.mpr hack)]
          cases hbuilt' : (buildLogDataFrame source dest fileData (seq + 1) l.dataMalloc).1.frame? with
          | none =>
            exact .inl ⟨by simp [hconn, hret], by simp, [], data, hdataNe, rfl, (List.append_nil _).symm⟩
          | some dataFrame =>
            obtain ⟨hwhole', -⟩ := frame?_buildLogUploadFrame hbuilt'
            rw [hdata] at hwhole'
            subst hwhole'
            rw [Option.elim_some]
            rcases sendFrame_spec l.dataSend dataFrame with ⟨hret', hsent'⟩ | ⟨hret', left, hleft, hsent'⟩
            · rw [if_neg (not_not.mpr hret'), hsent']
              exact .inr ⟨by simp [hconn, hret, hack, hret'], rfl⟩
            · rw [if_pos hret']
              exact .inl ⟨by simp [hconn, hret], by simp [hret'], _, left, hleft, hsent', rfl⟩
        · rw [if_pos hack]
          exact .inl ⟨by simp [hconn, hret], by simp [hack], [], data, hdataNe, rfl,
            (List.append_nil _).symm⟩
      · rw [if_pos hret]
        exact .inl ⟨by simp [hret], left, hleft, hsent⟩
  · rw [if_pos ((createTcpConnection_eq_false _).mpr hconn)]
    exact .inl ⟨by simp [hconn], info, hinfoNe, rfl⟩

/-- How many of its frames an attempt sends as a whole. -/
def Attempt.framesSent (a : Attempt) : ℕ := if a.DataSent then 2 else if a.InfoSent then 1 else 0

theorem flatMap_attemptFrames : (attemptFrames source dest fileInfo fileData seq).flatMap SentFrame.bytes =
    frameBytes source dest seq fileInfo.bytes dataInfoLogUpload dataIdentifierStruct ++
      frameBytes source dest (seq + 1) fileData dataTypeLogUpload dataIdentifierFile := by
  simp only [attemptFrames, List.flatMap_cons, List.flatMap_nil, List.append_nil, SentFrame.bytes]

/-- The bytes of an attempt are the two frames or a front of them. -/
theorem wire_front (l : Link) : (linkAttempt source dest fileInfo fileData seq l).wire <+:
    (attemptFrames source dest fileInfo fileData seq).flatMap SentFrame.bytes := by
  rw [flatMap_attemptFrames]
  rcases @wire_cases source dest fileInfo fileData seq l _ _ rfl rfl with
    ⟨-, rest, -, hinfo⟩ | ⟨-, -, part, rest, -, hdata, hwire⟩ | ⟨-, hwire⟩
  · rw [hinfo, List.append_assoc]
    exact List.prefix_append _ _
  · rw [hwire, hdata, ← List.append_assoc]
    exact List.prefix_append _ _
  · exact hwire ▸ List.prefix_refl _

/-- **The frames that were sent are on the connection as a whole, and no other.** -/
theorem wholeFrames_wire (l : Link) : wholeFrames SentFrame.bytes
    (attemptFrames source dest fileInfo fileData seq)
      (linkAttempt source dest fileInfo fileData seq l).wire.length =
    (l.attempt source dest fileInfo fileData seq).framesSent := by
  obtain ⟨info, hinfo⟩ : ∃ info, frameBytes source dest seq fileInfo.bytes dataInfoLogUpload
    dataIdentifierStruct = info := ⟨_, rfl⟩
  obtain ⟨data, hdata⟩ : ∃ data, frameBytes source dest (seq + 1) fileData dataTypeLogUpload
    dataIdentifierFile = data := ⟨_, rfl⟩
  have hcount : ∀ n, wholeFrames SentFrame.bytes (attemptFrames source dest fileInfo fileData seq) n =
      if info.length ≤ n then if data.length ≤ n - info.length then 2 else 1 else 0 := by
    intro n
    unfold attemptFrames
    rw [wholeFrames, wholeFrames, wholeFrames, SentFrame.bytes, SentFrame.bytes, hinfo, hdata]
    split_ifs <;> rfl
  rw [hcount]
  unfold Attempt.framesSent
  rcases wire_cases l hinfo hdata with
    ⟨hno, rest, hrest, hcut⟩ | ⟨hsent, hno, part, rest, hrest, hcut, hwire⟩ | ⟨hsent, hwire⟩
  · have hlen := congrArg List.length hcut
    have hpos := List.length_pos_iff.mpr hrest
    rw [List.length_append] at hlen
    rw [if_neg (by omega), if_neg fun h : Attempt.DataSent _ => hno h.1, if_neg hno]
  · have hlen := congrArg List.length hcut
    have hpos := List.length_pos_iff.mpr hrest
    rw [List.length_append] at hlen
    rw [hwire, List.length_append, if_pos (by omega), if_neg (by omega), if_neg hno, if_pos hsent]
  · rw [hwire, List.length_append, if_pos (by omega), if_pos (by omega), if_pos hsent]

/-- All of both frames is sent if the attempt is confirmed. -/
theorem wire_acknowledged {l : Link}
    (hack : (linkAttempt source dest fileInfo fileData seq l).acknowledged = true) :
    (linkAttempt source dest fileInfo fileData seq l).wire =
      (attemptFrames source dest fileInfo fileData seq).flatMap SentFrame.bytes := by
  rw [@linkAttempt_outcome source dest fileInfo fileData seq 0 l, (settle_uploadAttempt 0 _ []).2] at hack
  rw [flatMap_attemptFrames]
  rcases @wire_cases source dest fileInfo fileData seq l _ _ rfl rfl with
    ⟨hno, -⟩ | ⟨-, hno, -⟩ | ⟨-, hwire⟩
  · exact absurd hack.1.1 hno
  · exact absurd hack.1 hno
  · exact hwire

/-! ### What a server has -/

/-- What can be read of a connection: the frames that came in whole. -/
theorem framesOf_linkAttempt (hfits : fileData.length < 16777216) (l : Link) {received : List UInt8}
    (hwire : received <+: (linkAttempt source dest fileInfo fileData seq l).wire) :
    framesOf received = ((attemptFrames source dest fileInfo fileData seq).take
      (wholeFrames SentFrame.bytes (attemptFrames source dest fileInfo fileData seq)
        received.length)).map SentFrame.says := by
  obtain ⟨rest, hrest⟩ := hwire.trans (wire_front l)
  obtain ⟨left, hread, -⟩ := logFraming.readAll_part (fits_attemptFrames hfits) hrest
    (Nat.le_refl received.length)
  exact congrArg Prod.fst hread

/-- Both frames are the file, fewer are none. -/
theorem storedFile_attemptFrames {logFilePath content : List UInt8} (hpath : 0 ∉ logFilePath)
    (hfits : content.length < 16777216) (n : ℕ) :
    storedFile (((attemptFrames source dest (prepareFileInfo logFilePath content.length) content
        seq).take n).map SentFrame.says) =
      if 2 ≤ n then some ((lastSegment logFilePath).take 255, content) else none := by
  have hsize : content.length < 4294967296 := by omega
  have hinfo := readFileInfo_bytes hpath hsize
  rcases n with _ | _ | n
  · rfl
  · rfl
  · rw [if_pos (Nat.le_add_left 2 n)]
    have htake : (attemptFrames source dest (prepareFileInfo logFilePath content.length) content
        seq).take (n + 2) = attemptFrames source dest
          (prepareFileInfo logFilePath content.length) content seq := List.take_of_length_le
      (Nat.le_add_left 2 n)
    rw [htake]
    simp only [attemptFrames, List.map_cons, List.map_nil, SentFrame.says, storedFile, hinfo,
      true_and, if_true]

theorem leValue_lt : ∀ bs : List UInt8, leValue bs < 256 ^ bs.length
  | [] => Nat.one_pos
  | b :: bs => by
    have hb := b.toNat_lt
    have ih := leValue_lt bs
    rw [leValue, List.length_cons, Nat.pow_succ]
    omega

theorem takeField_lt {k n : ℕ} {bs rest : List UInt8} (h : takeField k bs = some (n, rest)) :
    n < 256 ^ k := by
  unfold takeField at h
  split_ifs at h with hk
  have hlt := leValue_lt (bs.take k)
  rw [List.length_take, Nat.min_eq_left hk] at hlt
  exact (Prod.mk.inj (Option.some.inj h)).1 ▸ hlt

/-- A frame that is read has no more bytes than its length can say. -/
theorem payload_lt_of_takeFrame {bs rest : List UInt8} {f : LogFrame}
    (h : takeFrame bs = some (f, rest)) : f.payload.length < 16777216 := by
  unfold takeFrame at h
  obtain ⟨⟨head, after⟩, -, h⟩ := Option.bind_eq_some_iff.mp h
  dsimp only at h
  split_ifs at h with hroom
  obtain ⟨frame, hframe, hf⟩ := Option.map_eq_some_iff.mp h
  obtain ⟨rfl, -⟩ := Prod.mk.inj hf
  unfold decodeFrame at hframe
  obtain ⟨⟨head', after'⟩, hhead, hframe⟩ := Option.bind_eq_some_iff.mp hframe
  obtain ⟨_, -, hframe⟩ := Option.bind_eq_some_iff.mp hframe
  obtain ⟨_, -, hframe⟩ := Option.bind_eq_some_iff.mp hframe
  obtain ⟨_, -, hframe⟩ := Option.bind_eq_some_iff.mp hframe
  have hlen : head'.dataLength < 16777216 := by
    unfold takeHead at hhead
    simp only [Option.bind_eq_some_iff, Option.map_eq_some_iff, Prod.exists] at hhead
    obtain ⟨_, _, -, _, _, -, _, _, -, _, _, -, _, _, -, n6, _, h6, _, _, -, hend⟩ := hhead
    obtain ⟨rfl, -⟩ := Prod.mk.inj hend
    exact takeField_lt h6
  dsimp only at hframe
  split_ifs at hframe with hok
  rw [← Option.some.inj hframe]
  exact (List.length_take_le _ _).trans_lt hlen

/-- What is stored of any received bytes is shorter than 16 MiB. -/
theorem stored_lt {received name content : List UInt8}
    (h : storedFile (framesOf received) = some (name, content)) : content.length < 16777216 := by
  have hall : ∀ f ∈ (readAll takeFrame received.length received).1, f.payload.length < 16777216 :=
    forall_mem_readAll (fun hread => payload_lt_of_takeFrame hread) _ _
  unfold framesOf at h
  generalize (readAll takeFrame received.length received).1 = frames at h hall
  rcases frames with _ | ⟨info, _ | ⟨data, _ | ⟨more, frames⟩⟩⟩
  · exact nomatch h
  · exact nomatch h
  · unfold storedFile at h
    dsimp only at h
    split_ifs at h
    rw [← (Prod.mk.inj (Option.some.inj h)).2]
    exact hall data (List.mem_cons_of_mem _ List.mem_cons_self)
  · exact nomatch h

end

/-! ### The upload -/

section

variable {source dest : Address32} {uploadRetryCount : ℕ} {logFilePath : List UInt8} {file : LogFile}
  {links : ℕ → Link} {seq : UInt16}

/-- The counter in front of each attempt. -/
def seqBefore (source dest : Address32) (fileInfo : FileInfo) (fileData : List UInt8)
    (links : ℕ → Link) (seq : UInt16) : ℕ → UInt16
  | 0 => seq
  | k + 1 => (linkAttempt source dest fileInfo fileData
      (seqBefore source dest fileInfo fileData links seq k) (links k)).seq

/-- Each transfer is the round with its number, with the counter in front of it. -/
theorem transferLoop_attempts {fileInfo : FileInfo} {fileData : List UInt8} :
    ∀ left k : ℕ, ∀ i, ∀ t ∈ (transferLoop source dest fileInfo fileData links left k
      (seqBefore source dest fileInfo fileData links seq k)).1[i]?,
        t = linkAttempt source dest fileInfo fileData
          (seqBefore source dest fileInfo fileData links seq (k + i)) (links (k + i))
  | 0, _, _, _, ht => nomatch ht
  | left + 1, k, i, t, ht => by
    unfold transferLoop at ht
    dsimp only at ht
    split_ifs at ht with hack
    · cases i with
      | zero => exact (Option.some.inj ht).symm
      | succ i => exact nomatch ht
    · cases i with
      | zero => exact (Option.some.inj ht).symm
      | succ i =>
        rw [show k + (i + 1) = k + 1 + i by omega]
        exact transferLoop_attempts left (k + 1) i t ht

/-- The loop ends with 0 behind an attempt that is confirmed. -/
theorem transferLoop_zero {fileInfo : FileInfo} {fileData : List UInt8} :
    ∀ (left k : ℕ) (seq : UInt16), (transferLoop source dest fileInfo fileData links left k seq).2 = 0 →
      ∃ t ∈ (transferLoop source dest fileInfo fileData links left k seq).1, t.acknowledged = true
  | 0, _, _, h => absurd h (by rw [transferLoop]; decide)
  | left + 1, k, seq, h => by
    unfold transferLoop at h ⊢
    dsimp only at h ⊢
    split_ifs at h ⊢ with hack
    · exact ⟨_, List.mem_singleton_self _, hack⟩
    · obtain ⟨t, ht, htack⟩ := transferLoop_zero left (k + 1) _ h
      exact ⟨t, List.mem_cons_of_mem _ ht, htack⟩

/-- The attempts as `uploadAttempt` sees them. -/
def attemptsOf (source dest : Address32) (fileInfo : FileInfo) (fileData : List UInt8)
    (links : ℕ → Link) (seq : UInt16) (k : ℕ) : Attempt :=
  (links k).attempt source dest fileInfo fileData (seqBefore source dest fileInfo fileData links seq k)

theorem transferLoop_result {fileInfo : FileInfo} {fileData : List UInt8} : ∀ left k : ℕ,
    (transferLoop source dest fileInfo fileData links left k
        (seqBefore source dest fileInfo fileData links seq k)).2 =
      (uploadLoop (attemptsOf source dest fileInfo fileData links seq) left k).2
  | 0, _ => rfl
  | left + 1, k => by
    have hack := @linkAttempt_outcome source dest fileInfo fileData
      (seqBefore source dest fileInfo fileData links seq k) k (links k)
    unfold transferLoop uploadLoop
    dsimp only
    rw [hack]
    cases hdone : (uploadAttempt k (attemptsOf source dest fileInfo fileData links seq k)).2 with
    | true => rw [if_pos (by exact hdone), if_pos (by rfl)]
    | false =>
      rw [if_neg (by exact Bool.eq_false_iff.mp hdone), if_neg (by exact Bool.false_ne_true)]
      exact transferLoop_result left (k + 1)

/-- **The result is that of `tcpUploadLogs`.** -/
theorem tcpTransfer_result (source dest : Address32) (uploadRetryCount : ℕ)
    (logFilePath : List UInt8) (file : LogFile) (links : ℕ → Link) (seq : UInt16) :
    (tcpTransfer source dest uploadRetryCount logFilePath file links seq).2 =
      (tcpUploadLogs uploadRetryCount file.read (attemptsOf source dest
        (prepareFileInfo logFilePath file.content.length) file.content links seq)).2 := by
  have hloop := @transferLoop_result source dest links seq
    (prepareFileInfo logFilePath file.content.length) file.content uploadRetryCount 0
  unfold tcpTransfer tcpUploadLogs
  dsimp only
  split_ifs with hread
  · rfl
  · exact hloop

/-- A transfer of the upload is the round with its number. -/
theorem tcpTransfer_attempts : ∀ i, ∀ t ∈ (tcpTransfer source dest uploadRetryCount logFilePath file
    links seq).1[i]?, t = linkAttempt source dest (prepareFileInfo logFilePath file.content.length)
      file.content (seqBefore source dest (prepareFileInfo logFilePath file.content.length) file.content
        links seq i) (links i) := by
  intro i t ht
  unfold tcpTransfer at ht
  split_ifs at ht
  · exact nomatch ht
  · have h := @transferLoop_attempts source dest links seq
      (prepareFileInfo logFilePath file.content.length) file.content uploadRetryCount 0 i t ht
    rwa [Nat.zero_add] at h

theorem mem_tcpTransfer {t : Transfer}
    (ht : t ∈ (tcpTransfer source dest uploadRetryCount logFilePath file links seq).1) :
    ∃ seq' l, t = linkAttempt source dest (prepareFileInfo logFilePath file.content.length)
      file.content seq' l := by
  obtain ⟨i, hi⟩ := List.mem_iff_getElem?.mp ht
  exact ⟨_, _, tcpTransfer_attempts i t hi⟩

/-- Nothing else is stored of a connection. -/
theorem tcpTransfer_stores_only (hpath : 0 ∉ logFilePath)
    (hfits : file.content.length < 16777216) {stored : List UInt8 × List UInt8} :
    ∀ t ∈ (tcpTransfer source dest uploadRetryCount logFilePath file links seq).1,
      storedFile (framesOf t.wire) = some stored →
        stored = ((lastSegment logFilePath).take 255, file.content) := by
  intro t ht hstored
  obtain ⟨seq', l, rfl⟩ := mem_tcpTransfer ht
  rw [framesOf_linkAttempt hfits l (List.prefix_refl _), storedFile_attemptFrames hpath hfits] at hstored
  split_ifs at hstored
  exact (Option.some.inj hstored).symm

/-- Behind a success there is a connection on which the file was delivered. -/
theorem tcpTransfer_stores (hpath : 0 ∉ logFilePath) (hfits : file.content.length < 16777216)
    (hdone : (tcpTransfer source dest uploadRetryCount logFilePath file links seq).2 = 0) :
    ∃ t ∈ (tcpTransfer source dest uploadRetryCount logFilePath file links seq).1,
      t.acknowledged = true ∧
        storedFile (framesOf t.wire) = some ((lastSegment logFilePath).take 255, file.content) := by
  obtain ⟨t, ht, hack⟩ : ∃ t ∈ (tcpTransfer source dest uploadRetryCount logFilePath file links seq).1,
      t.acknowledged = true := by
    unfold tcpTransfer at hdone ⊢
    split_ifs at hdone ⊢ with hread
    · exact absurd hdone (by decide)
    · exact transferLoop_zero _ _ _ hdone
  refine ⟨t, ht, hack, ?_⟩
  obtain ⟨seq', l, rfl⟩ := mem_tcpTransfer ht
  -- all that was sent is both frames
  rw [framesOf_linkAttempt hfits l (List.prefix_refl _), wire_acknowledged hack, wholeFrames_all,
    storedFile_attemptFrames hpath hfits]
  rfl

/-- **Wherever a connection breaks**, the server reads the frames of the attempt
that came in whole, with consecutive numbers: as many as were sent if nothing
is lost. What it stores is the file with its name if both came in, or nothing. -/
theorem tcpTransfer_received (source dest : Address32) (uploadRetryCount : ℕ)
    {logFilePath : List UInt8} {file : LogFile} (links : ℕ → Link) (seq : UInt16)
    (hpath : 0 ∉ logFilePath) (hfits : file.content.length < 16777216) :
    ∀ k, ∀ t ∈ (tcpTransfer source dest uploadRetryCount logFilePath file links seq).1[k]?,
      ∃ frames, frames = attemptFrames source dest (prepareFileInfo logFilePath file.content.length)
          file.content (seqBefore source dest (prepareFileInfo logFilePath file.content.length)
            file.content links seq k) ∧
        wholeFrames SentFrame.bytes frames t.wire.length = (attemptsOf source dest
          (prepareFileInfo logFilePath file.content.length) file.content links seq k).framesSent ∧
        ∀ received, received <+: t.wire →
          framesOf received = (frames.take (wholeFrames SentFrame.bytes frames received.length)).map
              SentFrame.says ∧
            storedFile (framesOf received) =
              if 2 ≤ wholeFrames SentFrame.bytes frames received.length then
                some ((lastSegment logFilePath).take 255, file.content)
              else none := by
  intro k t ht
  obtain rfl := tcpTransfer_attempts k t ht
  refine ⟨_, rfl, wholeFrames_wire _, fun received hreceived => ?_⟩
  have hframes := framesOf_linkAttempt hfits _ hreceived
  exact ⟨hframes, hframes ▸ storedFile_attemptFrames hpath hfits _⟩

/-- **An upload that reports success has delivered the file**: on the connection
that was confirmed the server has its name, its size and its bytes, if and only
if it is shorter than 16 MiB. -/
theorem tcpTransfer_delivers_iff (source dest : Address32) (uploadRetryCount : ℕ)
    {logFilePath : List UInt8} {file : LogFile} (links : ℕ → Link) (seq : UInt16)
    (hpath : 0 ∉ logFilePath)
    (hdone : (tcpTransfer source dest uploadRetryCount logFilePath file links seq).2 = 0) :
    (∃ t ∈ (tcpTransfer source dest uploadRetryCount logFilePath file links seq).1,
        t.acknowledged = true ∧
        storedFile (framesOf t.wire) = some ((lastSegment logFilePath).take 255, file.content)) ↔
      file.content.length < 16777216 := by
  constructor
  · rintro ⟨t, -, -, hstored⟩
    exact stored_lt hstored
  · intro hfits
    exact tcpTransfer_stores hpath hfits hdone

end

/-- A server that takes 100 bytes at a time and confirms both frames. -/
def promptLink : Link :=
  ⟨.connected, true, fun _ => 100, .received (.ofText "wt_info_ACK" (by decide) (by decide)), true,
    fun _ => 100, .received (.ofText "wt_filedata_ACK" (by decide) (by decide))⟩

/-- A log of five bytes. -/
def helloLog : LogFile := ⟨true, [104, 101, 108, 108, 111], true, 5⟩

/-- The path `/log/a.log`. -/
def helloPath : List UInt8 := [47, 108, 111, 103, 47, 97, 46, 108, 111, 103]

theorem helloPath_noNul : 0 ∉ helloPath := by decide

/-- A log of five bytes: both frames are sent; with its last byte lost, the
server has the first one and no file. -/
theorem tcpTransfer_received_hello :
    ∃ t ∈ (tcpTransfer ⟨0, 101, 16, 16⟩ ⟨0, 102, 16, 16⟩ 1 helloPath helloLog
        (fun _ => promptLink) 1).1[0]?,
      storedFile (framesOf t.wire) = some ((lastSegment helloPath).take 255, helloLog.content) ∧
        (framesOf (t.wire.take 320)).length = 1 ∧ storedFile (framesOf (t.wire.take 320)) = none := by
  have hwire : ((tcpTransfer ⟨0, 101, 16, 16⟩ ⟨0, 102, 16, 16⟩ 1 helloPath helloLog
      (fun _ => promptLink) 1).1[0]?.map fun t => t.wire.length) = some 321 := by decide +kernel
  obtain ⟨t, ht, hlen⟩ := Option.map_eq_some_iff.mp hwire
  obtain ⟨frames, hframes, hsent, hreceived⟩ := tcpTransfer_received ⟨0, 101, 16, 16⟩
    ⟨0, 102, 16, 16⟩ 1 (fun _ => promptLink) 1 helloPath_noNul
    (by decide : helloLog.content.length < 16777216) 0 t ht
  have hlen' : (t.wire.take 320).length = 320 := by rw [List.length_take, hlen]; rfl
  have hcut : wholeFrames SentFrame.bytes frames 320 = 1 := by rw [hframes]; decide +kernel
  have hall : wholeFrames SentFrame.bytes frames t.wire.length = 2 := hsent.trans (by decide +kernel)
  obtain ⟨-, hstored⟩ := hreceived t.wire (List.prefix_refl _)
  obtain ⟨hread, hnone⟩ := hreceived (t.wire.take 320) (List.take_prefix 320 _)
  rw [hall, if_pos (Nat.le_refl 2)] at hstored
  rw [hlen', hcut] at hread
  rw [hlen', hcut, if_neg (by decide)] at hnone
  refine ⟨t, ht, hstored, ?_, hnone⟩
  rw [hread, hframes]
  rfl

/-- The upload of it reports success, and the server has it. -/
theorem tcpTransfer_delivers_hello :
    ∃ t ∈ (tcpTransfer ⟨0, 101, 16, 16⟩ ⟨0, 102, 16, 16⟩ 1 helloPath helloLog (fun _ => promptLink)
        1).1, t.acknowledged = true ∧
      storedFile (framesOf t.wire) = some ((lastSegment helloPath).take 255, helloLog.content) := by
  have hdone : (tcpTransfer ⟨0, 101, 16, 16⟩ ⟨0, 102, 16, 16⟩ 1 helloPath helloLog
      (fun _ => promptLink) 1).2 = 0 := by decide +kernel
  exact (tcpTransfer_delivers_iff ⟨0, 101, 16, 16⟩ ⟨0, 102, 16, 16⟩ 1 (fun _ => promptLink) 1
    helloPath_noNul hdone).mpr (by decide)

end WtslCore
