/-
# The payload of an uploaded firmware file

An upload is a JSON header, filled up to 1024 bytes, and the packed firmware.
`wtsl_core_parse_json_extract_file_header` parses the first 1024 bytes, loads
the whole file, and writes what follows the header to the upgrade file: from
1024 bytes after the first `{`, as many bytes as the header's `filesize` says.

Only that the file has more than 512 bytes is checked. The size is cut to 15
characters and read by `atoi`, and nobody compares it with the file; the file
is searched as a string although nothing terminates it; and the results of
`malloc`, of opening the upgrade file and of writing to it are not looked at.
The outcome is right exactly under `ExtractOk`.

Key definitions: `FirmwareHeader`, `readHeader`, `parseJsonExtractFileHeader`,
`payload`, `ExtractSafe`, `ExtractOk`.
Key theorems: `writePayload_ok`, `extractSafe_iff`.
-/
import WtslCore.Json
import WtslCore.Lib.Decimal

namespace WtslCore

/-- `firmware_header_t`. -/
structure FirmwareHeader where
  filename : CStr
  md5sum : CStr
  filesize : CStr
  version : CStr
  filetype : CStr
  firmwaretype : CStr
  upMethod : CStr
  process : CStr
  targetarch : CStr
  hostinfo : CStr
  koFiles : List (CStr × CStr)

/-- A string member of the header's JSON. -/
def headerText (root : Json) (name : String) : Option CStr :=
  (root.getObjectItem name.toList).bind Json.valuestring

/-- `strncpy` of a member into a zeroed `char dst[n]`, but for its last byte. -/
def headerField (root : Json) (name : String) (n : ℕ) : CStr :=
  (cstr ((headerText root name).getD [])).take (n - 1)

/-- The first four string members of `ko_md5sum`. -/
def koFiles (root : Json) : List (CStr × CStr) :=
  match root.getObjectItem "ko_md5sum".toList with
  | some (.object ms) =>
    (ms.filterMap fun m => m.2.valuestring.map fun s => ((cstr m.1).take 31, (cstr s).take 32)).take 4
  | _ => []

/-- The fields `parse_firmware_header` fills in. -/
def firmwareHeader (root : Json) : FirmwareHeader where
  filename := headerField root "filename" 64
  md5sum := headerField root "md5sum" 33
  filesize := headerField root "filesize" 16
  version := headerField root "version" 32
  filetype := headerField root "filetype" 16
  firmwaretype := headerField root "firmwaretype" 16
  upMethod := headerField root "up_method" 16
  process := headerField root "process" 32
  targetarch := headerField root "targetarch" 16
  hostinfo := headerField root "hostinfo" 16
  koFiles := koFiles root

/-- No required field is missing. -/
def requiredFields (root : Json) : Bool :=
  ["filename", "md5sum", "filesize"].all fun name => (headerText root name).isSome

/-- `parse_firmware_header`: the tree the header is filled in from, if it
succeeds. `parse` is `cJSON_Parse`. -/
def parseFirmwareHeader (parse : CStr → Option Json) (text : CStr) : Option Json :=
  (parse text).filter requiredFields

/-- Where `strstr(mem, "{")` finds the brace. -/
def jsonStart (mem : List Char) : Option ℕ := (cstr mem).idxOf? '{'

/-- The header in the first bytes: parsed, or parsed from the first brace on. -/
def readHeader (parse : CStr → Option Json) (text : CStr) : Except String Json :=
  match parseFirmwareHeader parse text with
  | some root => .ok root
  | none => match jsonStart text with
    | none => .error "No JSON data found in header"
    | some p => match parseFirmwareHeader parse (text.drop p) with
      | some root => .ok root
      | none => .error "Invalid firmware header format"

/-- What an upload meets: the calls that succeed, and how much of what is
written reaches the upgrade file, if not all of it. -/
structure UploadEnv where
  parse : CStr → Option Json
  access : Bool
  stat : Bool
  openUpload : Bool
  openUpgrade : Bool
  reopen : Bool
  alloc : Bool
  short : Option ℕ

/-- What can go wrong. -/
inductive UploadFault
  | null
  | unterminated
  | notOpen
  | outside
  deriving DecidableEq, Repr

/-- The response: a message, or the fields of the header. -/
inductive UploadReply
  | error (message : String)
  | success (header : FirmwareHeader)

/-- An `int` as the `size_t` of `fwrite`. -/
def sizeT (n : ℤ) : ℕ := (n % 4294967296).toNat

/-- What `fwrite` brings into the upgrade file of the first `size` bytes. -/
def stored (env : UploadEnv) (after : List Char) (size : ℕ) : List Char :=
  match env.short with
  | none => after.take size
  | some k => (after.take size).take k

/-- The second half: the file is loaded, and what follows its header written
to the upgrade file, which has been opened, and emptied, before (`created`). -/
def writePayload (env : UploadEnv) (file : List Char) (header : FirmwareHeader)
    (created : Option (List Char)) : Except UploadFault (UploadReply × Option (List Char)) :=
  if !env.reopen then .ok (.error "Cannot open uploaded file", created)
  else if !env.alloc then .error .null
  else if nul ∉ file then .error .unterminated
  else match jsonStart file with
    | none => .error .null
    | some p =>
      let tarHeader := file.drop (p + 1024)
      let size := sizeT (atoi header.filesize)
      if !env.openUpgrade then .error .notOpen
      else if tarHeader.length < size then .error .outside
      else .ok (.success header, some (stored env tarHeader size))

/-- `wtsl_core_parse_json_extract_file_header`: the response, and what the
upgrade file holds after it, if it was opened. -/
def parseJsonExtractFileHeader (env : UploadEnv) (file : List Char) :
    Except UploadFault (UploadReply × Option (List Char)) :=
  let created : Option (List Char) := if env.openUpgrade then some [] else none
  if !env.access then .ok (.error "Uploaded file not found", none)
  else if !env.stat then .ok (.error "Cannot access file information", none)
  else if file.length ≤ 512 then .ok (.error "File too small", none)
  else if !env.openUpload then .ok (.error "Cannot open uploaded file", created)
  else match readHeader env.parse (cstr (file.take 1024)) with
    | .error message => .ok (.error message, created)
    | .ok root => writePayload env file (firmwareHeader root) created

/-! ### What the extraction is for -/

/-- The number a text starts with: blanks, a sign, digits. -/
def decimal (s : CStr) : ℤ :=
  match s.dropWhile isspace with
  | '-' :: u => -(digitsVal (u.takeWhile Char.isDigit) : ℤ)
  | '+' :: u => digitsVal (u.takeWhile Char.isDigit)
  | u => digitsVal (u.takeWhile Char.isDigit)

/-- The text of `filesize`. -/
def filesizeText (root : Json) : CStr := cstr ((headerText root "filesize").getD [])

/-- The file is there, is larger than 512 bytes, and can be opened. -/
def UploadEnv.reads (env : UploadEnv) (file : List Char) : Bool :=
  env.access && env.stat && decide (512 < file.length) && env.openUpload

/-- What should be in the upgrade file: the `filesize` bytes that follow the
1024 bytes of the header, if the upload has a header and that many bytes, and
they can be loaded and stored. -/
def payload (env : UploadEnv) (file : List Char) : Option (List Char) :=
  if env.reads file && env.reopen && env.alloc && env.openUpgrade && env.short.isNone then
    (readHeader env.parse (cstr (file.take 1024))).toOption.bind fun root =>
      (jsonStart file).bind fun p =>
        let size := decimal (filesizeText root)
        if 0 ≤ size ∧ size.toNat ≤ (file.drop (p + 1024)).length then
          some ((file.drop (p + 1024)).take size.toNat)
        else none
  else none

/-- The upgrade file holds the payload, or an error is reported. -/
def ExtractSafe (env : UploadEnv) (file : List Char) : Prop :=
  ∃ reply upgrade, parseJsonExtractFileHeader env file = .ok (reply, upgrade) ∧
    match payload env file with
    | some bytes => (∃ header, reply = .success header) ∧ upgrade = some bytes
    | none => ∃ message, reply = .error message

/-- The condition: if a header is found and the file can be opened again, it
can also be loaded, and the upgrade file opened and written; the file has a
terminator, the code reads the size as it is written, and the file has as many
bytes behind the header. -/
def ExtractOk (env : UploadEnv) (file : List Char) : Prop :=
  env.reads file = true → env.reopen = true →
    ∀ root, readHeader env.parse (cstr (file.take 1024)) = .ok root →
      env.alloc = true ∧ env.openUpgrade = true ∧ env.short = none ∧ nul ∈ file ∧
        decimal (filesizeText root) = sizeT (atoi ((filesizeText root).take 15)) ∧
        ∃ p ∈ jsonStart file,
          sizeT (atoi ((filesizeText root).take 15)) ≤ (file.drop (p + 1024)).length

variable {env : UploadEnv} {file : List Char} {root : Json} {header : FirmwareHeader}
  {created : Option (List Char)} {r : UploadReply × Option (List Char)}

theorem firmwareHeader_filesize (root : Json) :
    (firmwareHeader root).filesize = (filesizeText root).take 15 := rfl

theorem reads_eq_true : env.reads file = true ↔
    env.access = true ∧ env.stat = true ∧ 512 < file.length ∧ env.openUpload = true := by
  simp [UploadEnv.reads, and_assoc]

/-- The messages of a header that cannot be read, and of a file that cannot. -/
def uploadMessages : List String :=
  ["Uploaded file not found", "Cannot access file information", "File too small",
    "Cannot open uploaded file", "No JSON data found in header", "Invalid firmware header format"]

/-- A file that is not read is answered with an error. -/
theorem extract_unread (h : env.reads file = false) : ∃ message ∈ uploadMessages, ∃ upgrade,
    parseJsonExtractFileHeader env file = .ok (.error message, upgrade) := by
  have hnot := mt reads_eq_true.mpr (Bool.eq_false_iff.mp h)
  by_cases haccess : env.access = true
  · by_cases hstat : env.stat = true
    · by_cases hsize : file.length ≤ 512
      · simp [uploadMessages, parseJsonExtractFileHeader, haccess, hstat, hsize]
      · have hopen : env.openUpload = false := by
          simpa [haccess, hstat, Nat.lt_of_not_le hsize] using hnot
        simp [uploadMessages, parseJsonExtractFileHeader, haccess, hstat, hsize, hopen]
    · simp [uploadMessages, parseJsonExtractFileHeader, haccess, hstat]
  · simp [uploadMessages, parseJsonExtractFileHeader, haccess]

theorem readHeader_error {parse : CStr → Option Json} {text : CStr} {message : String}
    (h : readHeader parse text = .error message) : message ∈ uploadMessages := by
  unfold readHeader at h
  split at h
  · exact nomatch h
  · split at h
    · obtain rfl := Except.error.inj h
      decide
    · split at h
      · exact nomatch h
      · obtain rfl := Except.error.inj h
        decide

/-- A file that is read is as good as its header. -/
theorem extract_read (h : env.reads file = true) :
    parseJsonExtractFileHeader env file =
      match readHeader env.parse (cstr (file.take 1024)) with
      | .error message => .ok (.error message, if env.openUpgrade then some [] else none)
      | .ok root =>
        writePayload env file (firmwareHeader root) (if env.openUpgrade then some [] else none) := by
  obtain ⟨haccess, hstat, hsize, hopen⟩ := reads_eq_true.mp h
  unfold parseJsonExtractFileHeader
  dsimp only
  rw [haccess, hstat, hopen, if_neg (by decide), if_neg (by decide), if_neg (Nat.not_le_of_lt hsize),
    if_neg (by decide)]

/-- **What the second half can do** once the file is open again: write, or go wrong. -/
theorem writePayload_ok (h : env.reopen = true) :
    writePayload env file header created = .ok r ↔
      env.alloc = true ∧ env.openUpgrade = true ∧ nul ∈ file ∧ ∃ p ∈ jsonStart file,
        sizeT (atoi header.filesize) ≤ (file.drop (p + 1024)).length ∧
        r = (.success header, some (stored env (file.drop (p + 1024)) (sizeT (atoi header.filesize)))) := by
  unfold writePayload
  rw [h, if_neg (by decide)]
  cases env.alloc with
  | false => simp
  | true =>
    by_cases hnul : nul ∈ file
    · rw [if_neg (by decide), if_neg (not_not_intro hnul)]
      cases jsonStart file with
      | none => simp
      | some p =>
        dsimp only
        cases env.openUpgrade with
        | false => simp
        | true =>
          rw [if_neg (by decide)]
          by_cases hshort : (file.drop (p + 1024)).length < sizeT (atoi header.filesize)
          · rw [if_pos hshort]
            simp [Nat.not_le_of_lt hshort, -List.length_drop]
          · rw [if_neg hshort]
            simp [hnul, Nat.le_of_not_lt hshort, eq_comm, -List.length_drop]
    · simp [hnul]

/-- The upload can be read, and has a header. -/
def UploadEnv.Accepts (env : UploadEnv) (file : List Char) (header : FirmwareHeader) : Prop :=
  env.reads file = true ∧ env.reopen = true ∧
    ∃ root, readHeader env.parse (cstr (file.take 1024)) = .ok root ∧ header = firmwareHeader root

/-- **What an upload is answered with**, if it has an outcome: its header if it
is accepted, and one of the messages otherwise. -/
theorem extract_cases (h : parseJsonExtractFileHeader env file = .ok r) :
    (∃ header, r.1 = .success header ∧ ∀ header', env.Accepts file header' ↔ header' = header) ∨
      (∃ message ∈ uploadMessages, r.1 = .error message) ∧ ∀ header, ¬ env.Accepts file header := by
  cases hreads : env.reads file with
  | false =>
    obtain ⟨message, hm, upgrade, hrun⟩ := extract_unread hreads
    obtain rfl := Except.ok.inj (hrun.symm.trans h)
    exact .inr ⟨⟨message, hm, rfl⟩, fun header hacc => nomatch hreads.symm.trans hacc.1⟩
  | true =>
    rw [extract_read hreads] at h
    cases hread : readHeader env.parse (cstr (file.take 1024)) with
    | error message =>
      rw [hread] at h
      obtain rfl := Except.ok.inj h
      refine .inr ⟨⟨message, readHeader_error hread, rfl⟩, ?_⟩
      rintro header ⟨-, -, root, hroot, -⟩
      exact nomatch hread.symm.trans hroot
    | ok root =>
      rw [hread] at h
      dsimp only at h
      by_cases hreopen : env.reopen = true
      · obtain ⟨-, -, -, p, -, -, rfl⟩ := (writePayload_ok hreopen).mp h
        refine .inl ⟨firmwareHeader root, rfl, fun header' => ⟨?_, ?_⟩⟩
        · rintro ⟨-, -, root', hroot, rfl⟩
          rw [Except.ok.inj (hread.symm.trans hroot)]
        · rintro rfl
          exact ⟨hreads, hreopen, root, hread, rfl⟩
      · unfold writePayload at h
        rw [if_pos (by simpa using hreopen)] at h
        obtain rfl := Except.ok.inj h
        exact .inr ⟨⟨_, by decide, rfl⟩, fun header hacc => hreopen hacc.2.1⟩

/-- What there is to write, once the file is open again. -/
theorem payload_eq_some (hreads : env.reads file = true) (hreopen : env.reopen = true)
    (hroot : readHeader env.parse (cstr (file.take 1024)) = .ok root) {bytes : List Char} :
    payload env file = some bytes ↔
      env.alloc = true ∧ env.openUpgrade = true ∧ env.short = none ∧ ∃ p ∈ jsonStart file, ∃ size : ℕ,
        decimal (filesizeText root) = size ∧ size ≤ (file.drop (p + 1024)).length ∧
        (file.drop (p + 1024)).take size = bytes := by
  unfold payload
  rw [hreads, hreopen, hroot, Bool.true_and, Bool.true_and]
  by_cases hcalls : (env.alloc && env.openUpgrade && env.short.isNone) = true
  · rw [if_pos hcalls]
    simp only [Bool.and_eq_true, Option.isNone_iff_eq_none] at hcalls
    simp only [Except.toOption, Option.bind_some, Option.bind_eq_some_iff, Option.mem_def,
      hcalls, true_and]
    apply exists_congr
    intro p
    apply and_congr_right'
    constructor
    · intro hite
      split_ifs at hite with hsize
      exact ⟨_, (Int.toNat_of_nonneg hsize.1).symm, hsize.2, Option.some.inj hite⟩
    · rintro ⟨size, hdec, hle, hbytes⟩
      rw [hdec, Int.toNat_natCast, if_pos ⟨Int.natCast_nonneg size, hle⟩, hbytes]
  · rw [if_neg hcalls]
    simp only [Bool.and_eq_true, Option.isNone_iff_eq_none] at hcalls
    refine iff_of_false nofun ?_
    rintro ⟨halloc, hopen, hshort, _⟩
    exact hcalls ⟨⟨halloc, hopen⟩, hshort⟩

theorem eq_of_take_eq {l : List Char} {m n : ℕ} (hm : m ≤ l.length) (hn : n ≤ l.length)
    (h : l.take m = l.take n) : m = n := by
  have hlen := congrArg List.length h
  rwa [List.length_take_of_le hm, List.length_take_of_le hn] at hlen

/-- The second half is right exactly if the code's size is the size as it is
written, the file has as many bytes, and nothing it takes for granted fails. -/
theorem writePayload_safe_iff (hreads : env.reads file = true) (hreopen : env.reopen = true)
    (hroot : readHeader env.parse (cstr (file.take 1024)) = .ok root) :
    ExtractSafe env file ↔
      env.alloc = true ∧ env.openUpgrade = true ∧ env.short = none ∧ nul ∈ file ∧
        decimal (filesizeText root) = sizeT (atoi ((filesizeText root).take 15)) ∧
        ∃ p ∈ jsonStart file,
          sizeT (atoi ((filesizeText root).take 15)) ≤ (file.drop (p + 1024)).length := by
  have hrun := extract_read hreads
  rw [hroot] at hrun
  unfold ExtractSafe
  rw [hrun, ← firmwareHeader_filesize]
  constructor
  · rintro ⟨reply, upgrade, hwrite, hspec⟩
    obtain ⟨halloc, hopen, hnul, p, hp, hle, heq⟩ := (writePayload_ok hreopen).mp hwrite
    obtain ⟨hreply, hupgrade⟩ := Prod.mk.inj heq
    cases hpay : payload env file with
    | none =>
      rw [hpay] at hspec
      obtain ⟨message, herr⟩ := hspec
      rw [hreply] at herr
      exact absurd herr nofun
    | some bytes =>
      rw [hpay] at hspec
      obtain ⟨_, _, hshort, p', hp', size, hdec, hsize, hbytes⟩ :=
        (payload_eq_some hreads hreopen hroot).mp hpay
      obtain rfl : p' = p := Option.some.inj (hp'.symm.trans hp)
      have hstored : (file.drop (p' + 1024)).take size =
          (file.drop (p' + 1024)).take (sizeT (atoi (firmwareHeader root).filesize)) := by
        rw [hbytes, ← Option.some.inj (hupgrade.symm.trans hspec.2), stored, hshort]
      have hsame := eq_of_take_eq hsize hle hstored
      exact ⟨halloc, hopen, hshort, hnul, hsame ▸ hdec, p', hp, hle⟩
  · rintro ⟨halloc, hopen, hshort, hnul, hdec, p, hp, hle⟩
    have hpay := (payload_eq_some hreads hreopen hroot).mpr
      ⟨halloc, hopen, hshort, p, hp, _, hdec, hle, rfl⟩
    refine ⟨_, _, (writePayload_ok hreopen).mpr ⟨halloc, hopen, hnul, p, hp, hle, rfl⟩, ?_⟩
    rw [hpay, stored, hshort]
    exact ⟨⟨_, rfl⟩, rfl⟩

theorem payload_eq_none
    (h : env.reads file = false ∨ env.reopen = false ∨
      ∃ message, readHeader env.parse (cstr (file.take 1024)) = .error message) :
    payload env file = none := by
  obtain h | h | ⟨message, h⟩ := h
  · rw [payload, h]
    rfl
  · rw [payload, h, Bool.and_false]
    rfl
  · rw [payload, h]
    split_ifs
    · rfl
    · rfl

/-- An error is right where there is nothing to write. -/
theorem extractSafe_of_error {message : String} {upgrade : Option (List Char)}
    (hrun : parseJsonExtractFileHeader env file = .ok (.error message, upgrade))
    (hpay : payload env file = none) : ExtractSafe env file := by
  refine ⟨_, _, hrun, ?_⟩
  rw [hpay]
  exact ⟨message, rfl⟩

/-- **The upgrade file holds the payload, or an error is reported**, if and
only if the condition holds. -/
theorem extractSafe_iff (env : UploadEnv) (file : List Char) :
    ExtractSafe env file ↔ ExtractOk env file := by
  cases hreads : env.reads file with
  | false =>
    obtain ⟨message, -, upgrade, hrun⟩ := extract_unread hreads
    refine iff_of_true (extractSafe_of_error hrun (payload_eq_none (.inl hreads))) fun h => ?_
    exact absurd (hreads.symm.trans h) nofun
  | true =>
    cases hread : readHeader env.parse (cstr (file.take 1024)) with
    | error message =>
      have hrun := extract_read hreads
      rw [hread] at hrun
      refine iff_of_true (extractSafe_of_error hrun (payload_eq_none (.inr (.inr ⟨_, hread⟩)))) ?_
      intro _ _ root hroot
      exact absurd (hread.symm.trans hroot) nofun
    | ok root =>
      cases hreopen : env.reopen with
      | false =>
        have hrun := extract_read hreads
        rw [hread] at hrun
        have hwrite : writePayload env file (firmwareHeader root)
            (if env.openUpgrade then some [] else none) =
            .ok (.error "Cannot open uploaded file", if env.openUpgrade then some [] else none) := by
          simp [writePayload, hreopen]
        refine iff_of_true
          (extractSafe_of_error (hrun.trans hwrite) (payload_eq_none (.inr (.inl hreopen)))) ?_
        intro _ h
        exact absurd (hreopen.symm.trans h) nofun
      | true =>
        rw [writePayload_safe_iff hreads hreopen hread]
        constructor
        · intro h _ _ root' hroot'
          rw [hread] at hroot'
          exact Except.ok.inj hroot' ▸ h
        · intro h
          exact h hreads hreopen root hread

/-- A text without a sign. -/
theorem decimal_unsigned {s : CStr} (hminus : ∀ u, s.dropWhile isspace = '-' :: u → False)
    (hplus : ∀ u, s.dropWhile isspace = '+' :: u → False) :
    decimal s = digitsVal ((s.dropWhile isspace).takeWhile Char.isDigit) := by
  unfold decimal
  split
  · rename_i heq
    exact (hminus _ heq).elim
  · rename_i heq
    exact (hplus _ heq).elim
  · rfl

theorem atoi_eq_wrapInt (s : CStr) : atoi s = wrapInt (decimal s) := by
  unfold atoi
  dsimp only
  split
  · rename_i u heq
    have hdec : decimal s = -(digitsVal (u.takeWhile Char.isDigit) : ℤ) := by
      simp only [decimal, heq]
    rw [hdec]
  · rename_i u heq
    have hdec : decimal s = digitsVal (u.takeWhile Char.isDigit) := by
      simp only [decimal, heq]
    rw [hdec]
  · rename_i hminus hplus
    rw [decimal_unsigned hminus hplus]

theorem decimal_toDigits (n : ℕ) : decimal (Nat.toDigits 10 n) = n := by
  obtain ⟨c, t, hdigits, hc⟩ := exists_cons_toDigits n
  obtain ⟨hspace, hminus, hplus⟩ := digit_ne hc
  have hval := digitsVal_toDigits n
  have htake := takeWhile_toDigits n
  unfold decimal
  rw [hdigits] at hval htake ⊢
  rw [List.dropWhile_cons_of_neg (by simp [hspace])]
  split
  · rename_i heq
    exact absurd (List.cons.inj heq).1 hminus
  · rename_i heq
    exact absurd (List.cons.inj heq).1 hplus
  · rw [htake, hval]

/-- The condition on the size holds of every `int` that is written as usual. -/
theorem size_toDigits {n : ℕ} (h : n ≤ 2147483647) :
    decimal (Nat.toDigits 10 n) = sizeT (atoi ((Nat.toDigits 10 n).take 15)) := by
  have hlen : (Nat.toDigits 10 n).length ≤ 15 :=
    (Nat.length_toDigits_le_iff (by decide) (by decide)).mpr (by omega)
  rw [List.take_of_length_le hlen, atoi_eq_wrapInt, decimal_toDigits, wrapInt_of_inInt (by omega) (by omega)]
  unfold sizeT
  omega

/-- The header of a package of the given size. -/
def uploadRoot (filesize : String) : Json :=
  .object [("filename".toList, .string "wt.tar.gz".toList), ("md5sum".toList, .string "0".toList),
    ("filesize".toList, .string filesize.toList)]

/-- Every call succeeds. -/
def uploadEnv (filesize : String) : UploadEnv :=
  ⟨fun _ => some (uploadRoot filesize), true, true, true, true, true, true, none⟩

/-- A header with a size of 100, and `n` zeros after it. -/
def uploadFile (n : ℕ) : List Char :=
  '{' :: "\"filename\":\"wt.tar.gz\",\"md5sum\":\"0\",\"filesize\":\"100\"\x7d".toList ++
    List.replicate n nul

theorem length_uploadFile (n : ℕ) : (uploadFile n).length = 54 + n := by
  have hheader : ("\"filename\":\"wt.tar.gz\",\"md5sum\":\"0\",\"filesize\":\"100\"\x7d".toList).length =
      53 := by decide
  rw [uploadFile, List.length_append, List.length_cons, hheader, List.length_replicate]

/-- A file that ends before its header does: 100 bytes behind the loaded ones are read. -/
theorem extract_outside :
    ¬ ExtractSafe (uploadEnv "100") (uploadFile 600) ∧
    parseJsonExtractFileHeader (uploadEnv "100") (uploadFile 600) = .error .outside := by
  have hlen := length_uploadFile 600
  have hreads : (uploadEnv "100").reads (uploadFile 600) = true := by
    rw [reads_eq_true, hlen]
    decide
  have hroot : readHeader (uploadEnv "100").parse (cstr ((uploadFile 600).take 1024)) =
      .ok (uploadRoot "100") := by
    have hfields : (some (uploadRoot "100")).filter requiredFields = some (uploadRoot "100") :=
      Option.filter_eq_some_iff.mpr ⟨rfl, by decide⟩
    unfold readHeader parseFirmwareHeader uploadEnv
    dsimp only
    rw [hfields]
  have hsize : sizeT (atoi ((filesizeText (uploadRoot "100")).take 15)) = 100 := by decide
  have hafter : ∀ p, ((uploadFile 600).drop (p + 1024)).length = 0 := by
    intro p
    rw [List.length_drop, hlen]
    omega
  constructor
  · rw [writePayload_safe_iff hreads rfl hroot]
    rintro ⟨_, _, _, _, _, p, _, hle⟩
    rw [hsize, hafter] at hle
    exact absurd hle (by decide)
  · have hbrace : jsonStart (uploadFile 600) = some 0 := rfl
    have hnul : nul ∈ uploadFile 600 :=
      List.mem_append_right _ (List.mem_replicate.mpr ⟨by decide, rfl⟩)
    rw [extract_read hreads, hroot]
    simp only [writePayload, hbrace, hnul, firmwareHeader_filesize, hsize, hafter]
    rfl

end WtslCore
