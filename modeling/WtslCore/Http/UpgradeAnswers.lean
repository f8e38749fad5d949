/-
# The answers to an upload and an upgrade as JSON

Both operations answer with a text that is embedded as JSON
(`data_response_to_json`). Its strings come from the header of the package and
are pasted as they are. The header's fields are short, so no answer is cut.

Each field of an upload can stand in a string as it is if and only if the
answer is JSON and no field ends its string, as one with a quote may. The quote that opens the status of an
upgrade is missing, in each of its texts, and there is no text if no component
is found: an upgrade that succeeds is never answered with JSON.

Key definitions: `uploadAnswer`, `StatusJson`, `Complete`, `Pastable`, `Unclosed`,
`Upgraded`.
Key theorem: `upgradeAnswers_right_iff`.
-/
import WtslCore.Dataparser.FirmwareVerify
import WtslCore.Http.ApiStatus
import WtslCore.Lib.JsonText

namespace WtslCore

open JsonText Noted

/-- What `wtsl_core_parse_json_extract_file_header` returns. -/
def uploadAnswer : UploadReply → CStr
  | .error message => Op.errorText message
  | .success header => Op.uploadText header

/-! ### What is asked of an answer -/

/-- The answer is JSON with a string status. -/
def StatusJson (control : Bool) (answer : CStr) : Prop :=
  ∃ members ∈ parses control answer, members.lookup "status".toList = some true

/-- The answer leaves room in its buffer, so it was not cut. -/
def Complete (size : ℕ) (answer : CStr) : Prop := answer.length + 1 < size

instance (size : ℕ) (answer : CStr) : Decidable (Complete size answer) :=
  inferInstanceAs (Decidable (_ < _))

/-- What is pasted behind the status of an answer to an upload. -/
def pastedMembers (header : FirmwareHeader) : List (String × CStr) :=
  [("message", "Firmware uploaded and verified successfully".toList), ("version", header.version),
    ("type", header.firmwaretype), ("filename", header.filename), ("md5", header.md5sum),
    ("size", header.filesize)]

/-- Each field can stand in a JSON string as it is. -/
def Pastable (control : Bool) (header : FirmwareHeader) : Prop :=
  ∀ s ∈ pastedFields header, StringBody control s

/-- No field ends the string it is pasted into, and goes on as JSON by accident. -/
def Unclosed (control : Bool) (header : FirmwareHeader) : Prop :=
  ∀ s ∈ pastedFields header, ¬ Closes control .plain s

/-- The package has a header, is verified, and its upgrade succeeds. -/
def Upgraded (env : OpEnv) : Prop :=
  ∃ root, readHeader env.parse (cstr (env.upgradeBin.take 1024)) = .ok root ∧
    env.call .platformVerify 0 = 0 ∧ env.call .extractAndVerifyFirmware 0 = 0 ∧
      env.call (Op.upgradeCall (firmwareHeader root)).1 0 = 0

variable {control : Bool} {env : OpEnv} {header : FirmwareHeader} {root : Json} {answer : CStr}

/-! ### The answer to an upload -/

/-- Members between commas are pasted strings. -/
theorem members_pasted (ms : List (String × CStr)) (name : String) (s : CStr) :
    [','].intercalate (Op.member name s :: ms.map fun m => Op.member m.1 m.2) ++ ['\x7d'] =
      '"' :: (name.toList ++ '"' :: ':' :: '"' :: pasted s (ms.map fun m => (m.1.toList, m.2))) := by
  induction ms generalizing name s with
  | nil =>
    rw [List.map_nil, List.intercalate_singleton, member_append]
    rfl
  | cons m ms ih =>
    rw [List.map_cons, List.intercalate_cons_cons, List.append_assoc, List.append_assoc, ih, member_append]
    rfl

theorem uploadText_eq (header : FirmwareHeader) :
    Op.uploadText header = ("\x7b\x22status\x22:\x22".toList ++ pasted "success".toList
      ((pastedMembers header).map fun m => (m.1.toList, m.2))).take 511 :=
  congrArg (fun s => List.take 511 ('\x7b' :: s)) (members_pasted (pastedMembers header) _ _)

theorem complete_uploadText (root : Json) : Complete 512 (Op.uploadText (firmwareHeader root)) := by
  have hlen := length_uploadMembers root
  have htext : Op.uploadText (firmwareHeader root) =
      ('\x7b' :: membersText (uploadMembers (firmwareHeader root))).take 511 := rfl
  rw [Complete, htext]
  refine Nat.lt_of_le_of_lt (Nat.succ_le_succ (List.length_take_le' _ _)) ?_
  rw [List.length_cons]
  omega

/-- Nothing is cut, so the strings are pasted as a whole. -/
theorem uploadText_whole (h : Complete 512 (Op.uploadText header)) :
    Op.uploadText header = "\x7b\x22status\x22:\x22".toList ++ pasted "success".toList
      ((pastedMembers header).map fun m => (m.1.toList, m.2)) := by
  rw [Complete, uploadText_eq, List.length_take] at h
  rw [uploadText_eq, List.take_of_length_le (by omega)]

/-- The reader in front of what is pasted as the status. -/
theorem run_status : JsonText.run control .start "\x7b\x22status\x22:\x22".toList =
    some (inMember .plain "status".toList [("status".toList, true)]) := rfl

theorem plainName_pasted {m : String × CStr} (h : m ∈ pastedMembers header) : PlainName m.1.toList := by
  have hnames : ∀ name ∈ (pastedMembers header).map Prod.fst, PlainName name.toList := by
    have hlist : (pastedMembers header).map Prod.fst =
        ["message", "version", "type", "filename", "md5", "size"] := rfl
    rw [hlist]
    decide
  exact hnames _ (List.mem_map_of_mem h)

/-- Texts without a quote, a backslash or a control character. -/
theorem plain_message : ∀ s ∈ ["success", "Firmware uploaded and verified successfully"],
    ∀ c ∈ s.toList, c ≠ '"' ∧ c ≠ '\\' ∧ 32 ≤ c.toNat := by decide

/-- What is pasted is the message and the fields. -/
theorem forall_pastedMembers {P : CStr → Prop} : (∀ m ∈ pastedMembers header, P m.2) ↔
    P "Firmware uploaded and verified successfully".toList ∧ ∀ s ∈ pastedFields header, P s := by
  simp [pastedMembers, pastedFields]

/-- **Fields that can stand in a string** make the answer JSON. -/
theorem statusJson_upload (hcomplete : Complete 512 (Op.uploadText header)) (h : Pastable control header) :
    StatusJson control (Op.uploadText header) := by
  have hmembers := forall_pastedMembers.mpr ⟨stringBody_of_plain (plain_message _ (by decide)), h⟩
  have hms : ∀ x ∈ (pastedMembers header).map (fun m => (m.1.toList, m.2)),
      PlainName x.1 ∧ StringBody control x.2 :=
    List.forall_mem_map.mpr fun m hm => ⟨plainName_pasted hm, hmembers m hm⟩
  have hparses := parses_pasted run_status hms (stringBody_of_plain (plain_message "success" (by decide)))
  rw [← uploadText_whole hcomplete] at hparses
  exact ⟨_, hparses, rfl⟩

/-- **If no field ends its string** there is no other way. -/
theorem pastable_of_statusJson (hcomplete : Complete 512 (Op.uploadText header))
    (hunclosed : Unclosed control header) (h : StatusJson control (Op.uploadText header)) : Pastable control header := by
  obtain ⟨members, hparses, -⟩ := h
  rw [uploadText_whole hcomplete] at hparses
  have hsuccess : StringBody control "success".toList := stringBody_of_plain (plain_message _ (by decide))
  have hmessage : StringBody control "Firmware uploaded and verified successfully".toList :=
    stringBody_of_plain (plain_message _ (by decide))
  have hmembers := forall_pastedMembers.mpr ⟨not_closes_of_body hmessage, hunclosed⟩
  have hnames : ∀ x ∈ (pastedMembers header).map (fun m => (m.1.toList, m.2)), PlainName x.1 :=
    List.forall_mem_map.mpr fun m hm => plainName_pasted hm
  have hms : ∀ x ∈ (pastedMembers header).map (fun m => (m.1.toList, m.2)), ¬ Closes control .plain x.2 :=
    List.forall_mem_map.mpr hmembers
  have hbodies := bodies_of_parses run_status hnames (not_closes_of_body hsuccess) hms
    (Option.isSome_of_mem hparses)
  exact (forall_pastedMembers.mp fun m hm => hbodies.2 _ (List.mem_map_of_mem hm)).2

/-! ### Errors -/

/-- What the errors say. -/
def answerMessages : List String :=
  uploadMessages ++ ["Platform Architecture verify failed", "MD5 verification failed",
    "Upgrade process for rk3568 failed", "Upgrade process failed"]

theorem plain_messages : ∀ message ∈ answerMessages, message.toList.length ≤ 40 ∧
    ∀ c ∈ message.toList, c ≠ '"' ∧ c ≠ '\\' ∧ 32 ≤ c.toNat := by decide

theorem errorText_eq (message : String) : Op.errorText message =
    "\x7b\x22status\x22:\x22".toList ++ pasted "error".toList [("message".toList, message.toList)] := rfl

theorem plainName_message : PlainName "message".toList := by decide

/-- **An error is JSON**, and short. -/
theorem statusJson_error {message : String} (h : message ∈ answerMessages) :
    StatusJson control (Op.errorText message) := by
  have hms : ∀ x ∈ [("message".toList, message.toList)], PlainName x.1 ∧ StringBody control x.2 :=
    List.forall_mem_singleton.mpr ⟨plainName_message, stringBody_of_plain (plain_messages message h).2⟩
  have herror : StringBody control "error".toList := stringBody_of_plain (by decide)
  rw [errorText_eq]
  exact ⟨_, parses_pasted run_status hms herror, rfl⟩

theorem complete_error {message : String} {size : ℕ} (h : message ∈ answerMessages) (hsize : 100 ≤ size) :
    Complete size (Op.errorText message) := by
  have hhead : "\x7b\x22status\x22:\x22".toList.length = 11 := rfl
  have herror : "error".toList.length = 5 := rfl
  have hname : "message".toList.length = 7 := rfl
  have hmessage := (plain_messages message h).1
  rw [Complete, errorText_eq, List.length_append, length_pasted_cons, length_pasted_nil, hhead, herror, hname]
  omega

/-! ### The answer to an upgrade -/

/-- The status of a submitted upgrade is no value of JSON. -/
theorem parses_submittedText (header : FirmwareHeader) (what components remark : String) :
    parses control (submittedText header what components remark) = none := by
  rw [submittedText, List.take_append]
  exact parses_stuck rfl _

theorem complete_submittedText (root : Json) {what components remark : String}
    (h : Report what components remark) :
    Complete 1024 (submittedText (firmwareHeader root) what components remark) := by
  have hlen := length_submittedMembers root h
  have hhead : "\x7b\x22status\x22:success\x22,".toList.length = 19 := rfl
  rw [Complete, submittedText]
  refine Nat.lt_of_le_of_lt (Nat.succ_le_succ (List.length_take_le' _ _)) ?_
  rw [List.length_append, hhead]
  exact Nat.lt_of_le_of_lt (Nat.succ_le_succ (Nat.add_le_add_left hlen 19)) (by decide)

/-! ### The answers -/

theorem upgradeCall_message (header : FirmwareHeader) :
    (Op.upgradeCall header).2 ∈ answerMessages := by
  unfold Op.upgradeCall
  split_ifs <;> decide

/-- **How an upgrade ends**: with an error, or with what was submitted. -/
theorem doUpgrade_ends (env : OpEnv) :
    Ends (fun p _ => (¬ Upgraded env ∧ ∃ message ∈ answerMessages, p = .text (Op.errorText message)) ∨
      (Upgraded env ∧ ∃ root, p = .text (Op.upgradeText env (firmwareHeader root)))) []
      (Op.doUpgrade env) := by
  show Ends _ [] (env.run _ >>= _)
  rw [ends_run]
  by_cases hfault : env.call (.fopen Op.upgradeBin) 0 ≠ 0 ∨ ¬ Op.headerTerminated env
  · rw [if_pos hfault]
    exact ends_undefined
  · rw [if_neg hfault]
    cases hread : readHeader env.parse (cstr (env.upgradeBin.take 1024)) with
    | error message =>
      refine Op.ends_complain.mpr (.inl ⟨?_, message, List.mem_append_left _ (readHeader_error hread), rfl⟩)
      rintro ⟨root, hroot, -⟩
      exact nomatch hread.symm.trans hroot
    | ok root =>
      have hupgraded : Upgraded env ↔ env.call .platformVerify 0 = 0 ∧
          env.call .extractAndVerifyFirmware 0 = 0 ∧
            env.call (Op.upgradeCall (firmwareHeader root)).1 0 = 0 := by
        constructor
        · rintro ⟨root', hroot, h⟩
          obtain rfl := Except.ok.inj (hread.symm.trans hroot)
          exact h
        · exact fun h => ⟨root, hread, h⟩
      rw [hupgraded]
      refine Op.ends_orComplain.mpr ⟨fun hne => ?_, fun hplatform => ?_⟩
      · exact .inl ⟨fun h => hne h.1, _, by decide, rfl⟩
      refine Op.ends_orComplain.mpr ⟨fun hne => ?_, fun hverified => ?_⟩
      · exact .inl ⟨fun h => hne h.2.1, _, by decide, rfl⟩
      refine Op.ends_orComplain.mpr ⟨fun hne => ?_, fun hdone => ?_⟩
      · exact .inl ⟨fun h => hne h.2.2, _, upgradeCall_message _, rfl⟩
      · exact ends_pure.mpr (.inr ⟨⟨hplatform, hverified, hdone⟩, root, rfl⟩)

/-- The answer of an upload is the one its extraction returns. -/
theorem doUpload_ends (env : OpEnv) (data : List Char) :
    Ends (fun p _ => ∃ reply upgrade, parseJsonExtractFileHeader (Op.uploadEnv env)
      (Op.uploaded env data) = .ok (reply, upgrade) ∧ p = .text (uploadAnswer reply)) []
      (Op.doUpload env data) := by
  show Ends _ [] (env.run _ >>= _)
  rw [ends_run]
  by_cases hopen : env.call (.fopen Op.upgradeBin) 0 = 0
  · rw [if_neg (not_not_intro hopen), ends_run]
    cases hrun : parseJsonExtractFileHeader (Op.uploadEnv env) (Op.uploaded env data) with
    | error fault => exact ends_undefined
    | ok r =>
      obtain ⟨reply, upgrade⟩ := r
      cases reply with
      | error message => exact Op.ends_complain.mpr ⟨_, _, rfl, rfl⟩
      | success header =>
        dsimp only
        split_ifs
        · exact ends_note.mpr (ends_pure.mpr ⟨_, _, rfl, rfl⟩)
        · exact ends_pure.mpr ⟨_, _, rfl, rfl⟩
  · rw [if_pos hopen]
    exact ends_undefined

theorem not_statusJson (h : parses control answer = none) : ¬ StatusJson control answer := by
  rintro ⟨members, hmem, -⟩
  rw [h] at hmem
  cases hmem

/-- The answer to an upgrade that succeeds is complete, and no JSON. -/
theorem upgradeText_answer (control : Bool) (env : OpEnv) (root : Json) :
    Complete 1024 (Op.upgradeText env (firmwareHeader root)) ∧
      ¬ StatusJson control (Op.upgradeText env (firmwareHeader root)) := by
  obtain ⟨-, hempty⟩ | ⟨-, what, components, remark, hreport, htext⟩ :=
    upgradeText_cases env (firmwareHeader root)
  · rw [hempty]
    exact ⟨by decide, not_statusJson rfl⟩
  · rw [htext]
    exact ⟨complete_submittedText root hreport,
      not_statusJson (parses_submittedText _ what components remark)⟩

/-- **The answers are complete.** That to an upload is JSON, with each field in
its string, if and only if the fields can stand there as they are; that to an
upgrade is JSON if and only if it did not succeed. -/
theorem upgradeAnswers_right_iff (control : Bool) :
    (∀ (env : UploadEnv) (file : List Char) (reply : UploadReply) (upgrade : Option (List Char)),
      parseJsonExtractFileHeader env file = .ok (reply, upgrade) →
        Complete 512 (uploadAnswer reply) ∧
          (StatusJson control (uploadAnswer reply) ∧
              (∀ header, env.Accepts file header → Unclosed control header) ↔
            ∀ header, env.Accepts file header → Pastable control header)) ∧
    ∀ (env : OpEnv) (answer : CStr), (Op.doUpgrade env).value = some (.text answer) →
      Complete 1024 answer ∧ (StatusJson control answer ↔ ¬ Upgraded env) := by
  constructor
  · intro env file reply upgrade hrun
    obtain ⟨header, hreply, hacc⟩ | ⟨⟨message, hmessage, hreply⟩, hno⟩ := extract_cases hrun
    · dsimp only at hreply
      subst hreply
      obtain ⟨-, -, root, -, rfl⟩ := (hacc header).mpr rfl
      have hcomplete := complete_uploadText root
      simp only [hacc, forall_eq]
      refine ⟨hcomplete, fun h => pastable_of_statusJson hcomplete h.2 h.1, fun h => ?_⟩
      exact ⟨statusJson_upload hcomplete h, fun s hs => not_closes_of_body (h s hs)⟩
    · dsimp only at hreply
      subst hreply
      have hmem : message ∈ answerMessages := List.mem_append_left _ hmessage
      refine ⟨complete_error hmem (by decide), iff_of_true ⟨statusJson_error hmem, ?_⟩ ?_⟩
      · exact fun header hacc => absurd hacc (hno header)
      · exact fun header hacc => absurd hacc (hno header)
  · intro env answer hanswer
    obtain ⟨hnot, message, hmem, htext⟩ | ⟨hupgraded, root, htext⟩ := doUpgrade_ends env _ hanswer
    · obtain rfl := Ptr.text.inj htext
      exact ⟨complete_error hmem (by decide), iff_of_true (statusJson_error hmem) hnot⟩
    · obtain rfl := Ptr.text.inj htext
      obtain ⟨hcomplete, hjson⟩ := upgradeText_answer control env root
      exact ⟨hcomplete, iff_of_false hjson (not_not_intro hupgraded)⟩

/-- A package with this version, and every call on it succeeds. -/
def versionEnv (version : String) : UploadEnv :=
  ⟨fun _ => some (versionRoot version), true, true, true, true, true, true, none⟩

/-- A header, and zeros after it. -/
def paddedFile : List Char := '{' :: List.replicate 1100 nul

theorem readHeader_version (version : String) (text : CStr) :
    readHeader (versionEnv version).parse text = .ok (versionRoot version) := rfl

/-- The package is accepted. -/
theorem extract_version (version : String) : ∃ upgrade,
    parseJsonExtractFileHeader (versionEnv version) paddedFile =
      .ok (.success (firmwareHeader (versionRoot version)), upgrade) := by
  have hlen : paddedFile.length = 1101 := by
    rw [paddedFile, List.length_cons, List.length_replicate]
  have hreads : (versionEnv version).reads paddedFile = true := by
    rw [reads_eq_true, hlen]
    exact ⟨rfl, rfl, by decide, rfl⟩
  have hnul : nul ∈ paddedFile :=
    List.mem_cons_of_mem _ (List.mem_replicate.mpr ⟨by decide, rfl⟩)
  have hsize : sizeT (atoi (firmwareHeader (versionRoot version)).filesize) = 1 := by
    have htext : (firmwareHeader (versionRoot version)).filesize = "1".toList := rfl
    rw [htext]
    decide
  rw [extract_read hreads, readHeader_version]
  refine ⟨_, (writePayload_ok rfl).mpr ⟨rfl, rfl, hnul, 0, rfl, ?_, rfl⟩⟩
  rw [hsize, List.length_drop, hlen]
  decide

theorem accepts_version (version : String) (header : FirmwareHeader) :
    (versionEnv version).Accepts paddedFile header ↔ header = firmwareHeader (versionRoot version) := by
  obtain ⟨upgrade, hrun⟩ := extract_version version
  obtain ⟨header', hreply, hacc⟩ | ⟨⟨message, -, hreply⟩, -⟩ := extract_cases hrun
  · obtain rfl := UploadReply.success.inj hreply
    exact hacc header
  · cases hreply

/-- A package with plain fields, and a file without a header. -/
theorem upgradeAnswers_right_plain :
    StatusJson true (uploadAnswer (.success (firmwareHeader (versionRoot "v1.B2")))) ∧
      StatusJson true (Op.errorText "No JSON data found in header") := by
  obtain ⟨upgrade, hrun⟩ := extract_version "v1.B2"
  constructor
  · refine (((upgradeAnswers_right_iff true).1 (versionEnv "v1.B2") paddedFile _ upgrade hrun).2.mpr ?_).1
    intro header hacc
    rw [(accepts_version _ _).mp hacc]
    unfold Pastable
    decide
  · refine (((upgradeAnswers_right_iff true).2 quietOps _ rfl).2).mpr ?_
    rintro ⟨root, hroot, -⟩
    cases hroot

/-- A version with a quote is pasted as it is: the answer is no JSON, or JSON by
accident. An upgrade that succeeds is not answered with JSON either. -/
theorem upgradeAnswers_wrong :
    (∃ upgrade, parseJsonExtractFileHeader (versionEnv "1\x222") paddedFile =
      .ok (.success (firmwareHeader (versionRoot "1\x222")), upgrade)) ∧
    ¬ StatusJson true (uploadAnswer (.success (firmwareHeader (versionRoot "1\x222")))) ∧
    StatusJson false (uploadAnswer (.success (firmwareHeader (versionRoot "1\x22,\x22x\x22:\x222")))) ∧
    (Op.doUpgrade { quietOps with parse := fun _ => some (versionRoot "v1.B2") }).value =
      some (.text (Op.upgradeText quietOps (firmwareHeader (versionRoot "v1.B2")))) ∧
    ¬ StatusJson true (Op.upgradeText quietOps (firmwareHeader (versionRoot "v1.B2"))) := by
  refine ⟨extract_version _, not_statusJson ?_, ?_, rfl, (upgradeText_answer true _ _).2⟩
  · decide +kernel
  · refine ⟨(parses false (uploadAnswer (.success
      (firmwareHeader (versionRoot "1\x22,\x22x\x22:\x222"))))).getD [], ?_, ?_⟩
    · decide +kernel
    · decide +kernel

end WtslCore
