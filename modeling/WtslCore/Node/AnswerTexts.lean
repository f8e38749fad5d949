/-
# The strings that an answer repeats

`wtcoreapi_parse_http_post_cmd` takes an answer with `errmsg` in it for an
error. Four answers repeat strings that come from elsewhere: an upload and an
upgrade paste fields of the header of the package, the ACL rules give back the
rules listed or the action and the chain of the request, and the QoS rules the
text of a command that failed. Such an answer has `errmsg` in it exactly if one
of these strings has: `errmsg` cannot lie across the quotes around them, and
the fields of a header are too short to have the answer cut.

Key definitions: `pastedFields`, `upgradeFields`, `OpEnv.Submits`, `aclStrings`,
`qosStrings`.
Key theorems: `hasErrmsg_members`, `hasErrmsg_uploadText`, `hasErrmsg_upgradeText`,
`aclAnswer_mentions`, `qosAnswer_mentions`.
-/
import WtslCore.Node.Queries

namespace WtslCore

variable {env : OpEnv} {root : Json}

/-! ### A text between quotes -/

/-- `errmsg` is in front of a byte it has not in it, or behind. -/
theorem hasErrmsg_split {c : Char} (hc : c ∉ "errmsg".toList) (l t : CStr) :
    hasErrmsg (l ++ c :: t) = (hasErrmsg l || hasErrmsg t) := by
  unfold hasErrmsg occurs
  rw [strstr_split (by decide) hc, Option.isSome_or, Option.isSome_map]

theorem hasErrmsg_cons {c : Char} (hc : c ∉ "errmsg".toList) (t : CStr) :
    hasErrmsg (c :: t) = hasErrmsg t := by
  have hnil : hasErrmsg [] = false := by decide
  have h := hasErrmsg_split hc [] t
  rwa [List.nil_append, hnil, Bool.false_or] at h

theorem member_append (name : String) (s rest : CStr) :
    Op.member name s ++ rest = '"' :: (name.toList ++ '"' :: ':' :: '"' :: (s ++ '"' :: rest)) := by
  have hopen : "\x22".toList = ['"'] := rfl
  have hmid : "\x22:\x22".toList = ['"', ':', '"'] := rfl
  rw [Op.member, hopen, hmid]
  simp only [List.append_assoc, List.cons_append, List.nil_append]

theorem hasErrmsg_member_append (name : String) (s rest : CStr) :
    hasErrmsg (Op.member name s ++ rest) =
      (hasErrmsg name.toList || (hasErrmsg s || hasErrmsg rest)) := by
  have hquote : '"' ∉ "errmsg".toList := by decide
  rw [member_append, hasErrmsg_cons hquote, hasErrmsg_split hquote,
    hasErrmsg_cons (by decide : ':' ∉ "errmsg".toList), hasErrmsg_cons hquote, hasErrmsg_split hquote]

/-- The members of an answer, up to its last brace. -/
def membersText (ms : List (String × CStr)) : CStr :=
  [','].intercalate (ms.map fun m => Op.member m.1 m.2) ++ ['\x7d']

theorem membersText_cons_cons (m m' : String × CStr) (ms : List (String × CStr)) :
    membersText (m :: m' :: ms) = Op.member m.1 m.2 ++ ',' :: membersText (m' :: ms) := by
  unfold membersText
  rw [List.map_cons, List.map_cons, List.intercalate_cons_cons, List.append_assoc, List.append_assoc]
  rfl

/-- **Members between commas have `errmsg` in them if a name or a string has.** -/
theorem hasErrmsg_members (ms : List (String × CStr)) :
    hasErrmsg (membersText ms) = ms.any fun m => hasErrmsg m.1.toList || hasErrmsg m.2 := by
  have hbrace : hasErrmsg ['\x7d'] = false := by decide
  induction ms with
  | nil => exact hbrace
  | cons m ms ih =>
    rw [List.any_cons]
    cases ms with
    | nil =>
      rw [membersText, List.map_singleton, List.intercalate_singleton, hasErrmsg_member_append, hbrace]
      simp
    | cons m' ms =>
      rw [membersText_cons_cons, hasErrmsg_member_append,
        hasErrmsg_cons (by decide : ',' ∉ "errmsg".toList), ih, Bool.or_assoc]

theorem length_members_le (ms : List (String × CStr)) : (membersText ms).length ≤
    (ms.map fun m => m.1.toList.length + m.2.length + 6).sum + 1 := by
  induction ms with
  | nil => exact Nat.le_refl 1
  | cons m ms ih =>
    rw [List.map_cons, List.sum_cons]
    cases ms with
    | nil =>
      rw [membersText, List.map_singleton, List.intercalate_singleton, member_append]
      simp only [List.length_append, List.length_cons, List.length_nil, List.map_nil, List.sum_nil]
      omega
    | cons m' ms =>
      rw [membersText_cons_cons, member_append]
      simp only [List.length_append, List.length_cons] at ih ⊢
      omega

/-! ### The fields of a header -/

theorem length_headerField (root : Json) (name : String) (n : ℕ) :
    (headerField root name n).length ≤ n - 1 := List.length_take_le _ _

/-- The fields of a header that was read are short. -/
theorem length_pastedFields (root : Json) :
    (firmwareHeader root).version.length ≤ 31 ∧ (firmwareHeader root).firmwaretype.length ≤ 15 ∧
      (firmwareHeader root).filename.length ≤ 63 ∧ (firmwareHeader root).md5sum.length ≤ 32 ∧
        (firmwareHeader root).filesize.length ≤ 15 ∧ (firmwareHeader root).process.length ≤ 31 :=
  ⟨length_headerField root _ 32, length_headerField root _ 16, length_headerField root _ 64,
    length_headerField root _ 33, length_headerField root _ 16, length_headerField root _ 32⟩

/-- The fields of the header that are pasted into the answer to an upload. -/
def pastedFields (header : FirmwareHeader) : List CStr :=
  [header.version, header.firmwaretype, header.filename, header.md5sum, header.filesize]

/-- The fields of the header that are pasted into the answer to an upgrade. -/
def upgradeFields (header : FirmwareHeader) : List CStr :=
  [header.version, header.firmwaretype, header.process]

/-! ### The answer to an upload -/

/-- The members of the answer to an upload. -/
def uploadMembers (header : FirmwareHeader) : List (String × CStr) :=
  [("status", "success".toList), ("message", "Firmware uploaded and verified successfully".toList),
    ("version", header.version), ("type", header.firmwaretype), ("filename", header.filename),
    ("md5", header.md5sum), ("size", header.filesize)]

theorem length_uploadMembers (root : Json) :
    (membersText (uploadMembers (firmwareHeader root))).length ≤ 509 := by
  obtain ⟨hversion, htype, hname, hmd5, hsize, -⟩ := length_pastedFields root
  have hlen := length_members_le (uploadMembers (firmwareHeader root))
  have hnames : ["status", "message", "version", "type", "filename", "md5", "size"].map
      (·.toList.length) = [6, 7, 7, 4, 8, 3, 4] := rfl
  have hsuccess : "success".toList.length = 7 := rfl
  have hmessage : "Firmware uploaded and verified successfully".toList.length = 43 := rfl
  simp only [List.map_cons, List.map_nil, List.cons.injEq] at hnames
  simp only [uploadMembers, List.map_cons, List.map_nil, List.sum_cons, List.sum_nil, hsuccess, hmessage,
    hnames] at hlen ⊢
  omega

/-- **What is answered to an upload has `errmsg` in it if a field of the header has.** -/
theorem hasErrmsg_uploadText (root : Json) :
    hasErrmsg (Op.uploadText (firmwareHeader root)) = false ↔
      ∀ s ∈ pastedFields (firmwareHeader root), hasErrmsg s = false := by
  have htext : Op.uploadText (firmwareHeader root) =
      ('\x7b' :: membersText (uploadMembers (firmwareHeader root))).take 511 := rfl
  have hlen := length_uploadMembers root
  have hnames : (["status", "message", "version", "type", "filename", "md5", "size"].map
      fun name => hasErrmsg name.toList) = List.replicate 7 false := by decide
  have hsuccess : hasErrmsg "success".toList = false := by decide
  have hmessage : hasErrmsg "Firmware uploaded and verified successfully".toList = false := by decide
  simp only [List.map_cons, List.map_nil, List.replicate, List.cons.injEq] at hnames
  rw [htext, List.take_of_length_le (by rw [List.length_cons]; omega),
    hasErrmsg_cons (by decide : '\x7b' ∉ "errmsg".toList), hasErrmsg_members]
  simp only [uploadMembers, pastedFields, List.any_cons, List.any_nil, hnames, hsuccess, hmessage,
    Bool.false_or, Bool.or_false, Bool.or_eq_false_iff, List.forall_mem_cons, List.not_mem_nil,
    false_implies, implies_true, and_true]

/-! ### The answer to an upgrade -/

/-- The package has a component that is reported. -/
def OpEnv.Submits (env : OpEnv) : Prop :=
  env.access "/tmp/upload_file/firmware_t67eff75a" = true ∨ env.access "/tmp/upload_file/app" = true ∨
    env.access "/tmp/upload_file/www" = true

/-- A text that reports what was submitted. -/
def submittedText (header : FirmwareHeader) (what components remark : String) : CStr :=
  ("\x7b\x22status\x22:success\x22,".toList ++ ([','].intercalate
    [Op.member "message" (what ++ " upgrade submitted").toList, Op.member "version" header.version,
      Op.member "type" header.firmwaretype, Op.member "process" header.process,
      Op.member "upgrade_components" components.toList, Op.member "note" remark.toList] ++
    ['\x7d'])).take 1023

/-- A report of a component: it is short, and has no `errmsg` in it. -/
structure Report (what components remark : String) : Prop where
  what_le : (what ++ " upgrade submitted").toList.length ≤ 60
  components_le : components.toList.length ≤ 40
  remark_le : remark.toList.length ≤ 70
  silent : [(what ++ " upgrade submitted").toList, components.toList, remark.toList].any hasErrmsg = false

/-- **What is answered to an upgrade that succeeds**: what was submitted, or nothing. -/
theorem upgradeText_cases (env : OpEnv) (header : FirmwareHeader) :
    (¬ env.Submits ∧ Op.upgradeText env header = []) ∨ env.Submits ∧
      ∃ what components remark, Report what components remark ∧
        Op.upgradeText env header = submittedText header what components remark := by
  unfold Op.upgradeText OpEnv.Submits
  dsimp only
  split_ifs with hfirmware hboth hlibs happ hlibs' hwww
  · exact .inr ⟨.inl hfirmware, _, _, _, ⟨by decide, by decide, by decide, by decide⟩, rfl⟩
  · exact .inr ⟨.inr (.inl (Bool.and_eq_true_iff.mp hboth).1), _, _, _,
      ⟨by decide, by decide, by decide, by decide⟩, rfl⟩
  · exact .inr ⟨.inr (.inl (Bool.and_eq_true_iff.mp hboth).1), _, _, _,
      ⟨by decide, by decide, by decide, by decide⟩, rfl⟩
  · exact .inr ⟨.inr (.inl happ), _, _, _, ⟨by decide, by decide, by decide, by decide⟩, rfl⟩
  · exact .inr ⟨.inr (.inl happ), _, _, _, ⟨by decide, by decide, by decide, by decide⟩, rfl⟩
  · exact .inr ⟨.inr (.inr hwww), _, _, _, ⟨by decide, by decide, by decide, by decide⟩, rfl⟩
  · exact .inl ⟨by simp [hfirmware, happ, hwww], rfl⟩

/-- The members of a report. -/
def submittedMembers (header : FirmwareHeader) (what components remark : String) :
    List (String × CStr) :=
  [("message", (what ++ " upgrade submitted").toList), ("version", header.version),
    ("type", header.firmwaretype), ("process", header.process),
    ("upgrade_components", components.toList), ("note", remark.toList)]

theorem length_submittedMembers (root : Json) {what components remark : String}
    (h : Report what components remark) :
    (membersText (submittedMembers (firmwareHeader root) what components remark)).length ≤ 1000 := by
  obtain ⟨hversion, htype, -, -, -, hprocess⟩ := length_pastedFields root
  have hlen := length_members_le (submittedMembers (firmwareHeader root) what components remark)
  have hnames : ["message", "version", "type", "process", "upgrade_components", "note"].map
      (·.toList.length) = [7, 7, 4, 7, 18, 4] := rfl
  have hwhat := h.what_le
  have hcomponents := h.components_le
  have hremark := h.remark_le
  simp only [List.map_cons, List.map_nil, List.cons.injEq] at hnames
  simp only [submittedMembers, List.map_cons, List.map_nil, List.sum_cons, List.sum_nil, hnames] at hlen ⊢
  omega

theorem hasErrmsg_submittedText (root : Json) {what components remark : String}
    (h : Report what components remark) :
    hasErrmsg (submittedText (firmwareHeader root) what components remark) =
      (upgradeFields (firmwareHeader root)).any hasErrmsg := by
  have htext : submittedText (firmwareHeader root) what components remark =
      ("\x7b\x22status\x22:success\x22".toList ++ ',' ::
        membersText (submittedMembers (firmwareHeader root) what components remark)).take 1023 := rfl
  have hlen := length_submittedMembers root h
  have hhead : "\x7b\x22status\x22:success\x22".toList.length = 18 := rfl
  have hplain : hasErrmsg "\x7b\x22status\x22:success\x22".toList = false := by decide
  have hnames : (["message", "version", "type", "process", "upgrade_components", "note"].map
      fun name => hasErrmsg name.toList) = List.replicate 6 false := by decide
  have hsilent := h.silent
  simp only [List.map_cons, List.map_nil, List.replicate, List.cons.injEq] at hnames
  simp only [List.any_cons, List.any_nil, Bool.or_false, Bool.or_eq_false_iff] at hsilent
  rw [htext, List.take_of_length_le (by rw [List.length_append, List.length_cons]; omega),
    hasErrmsg_split (by decide : ',' ∉ "errmsg".toList), hplain, hasErrmsg_members]
  simp only [submittedMembers, upgradeFields, List.any_cons, List.any_nil, hnames, hsilent,
    Bool.false_or, Bool.or_false]

/-- **What is answered to an upgrade has `errmsg` in it if something is reported
and a field of the header has.** -/
theorem hasErrmsg_upgradeText (env : OpEnv) (root : Json) :
    hasErrmsg (Op.upgradeText env (firmwareHeader root)) = false ↔
      (env.Submits → ∀ s ∈ upgradeFields (firmwareHeader root), hasErrmsg s = false) := by
  obtain ⟨hno, htext⟩ | ⟨hsubmits, what, components, remark, hreport, htext⟩ :=
    upgradeText_cases env (firmwareHeader root)
  · rw [htext]
    exact iff_of_true (by decide) fun h => absurd h hno
  · rw [htext, hasErrmsg_submittedText root hreport, forall_prop_of_true hsubmits, List.any_eq_false]
    simp only [Bool.not_eq_true]

/-! ### The answers to requests of rules -/

/-- The strings that the answer to a request of ACL rules repeats: the rules
listed, or what a request that succeeded asked for. -/
def aclStrings (env : CallEnv) (action chain : CStr) (cmd : CStr) : List CStr :=
  if action = "list".toList ∨ action = "get".toList then
    (env.popen cmd).elim [] fun run =>
      ((fgetsLines 1024 run.output).filter fun line => !"-P".toList.isPrefixOf line).map cutNewline
  else if aclExCommand (env.popen cmd) then [action, chain] else []

/-- The string that the answer to a request of QoS rules repeats: the text of a failure. -/
def qosStrings (env : CallEnv) (cmd : CStr) : List CStr := (qosExCommand env cmd).toList

theorem itemsMention_strings {α : Type} (f : α → CStr) (l : List α) :
    itemsMention (l.map fun a => .string (f a)) = (l.map f).any mentionsErrmsg := by
  induction l with
  | nil => rfl
  | cons a l ih => rw [List.map_cons, itemsMention, Item.mentions, ih, List.map_cons, List.any_cons]

theorem aclAnswer_mentions (env : CallEnv) (action chain : CStr) (cmd : List Shell.Piece) :
    (aclAnswer env action chain cmd).mentions =
      (aclStrings env action chain (cmdText cmd)).any mentionsErrmsg := by
  unfold aclAnswer aclStrings
  split_ifs with hlist hran
  · cases env.popen (cmdText cmd) with
    | none => rfl
    | some run =>
      have h : (Item.object [("rules", .array (ruleLines run))]).mentions =
          ((false || itemsMention (ruleLines run)) || false) := rfl
      dsimp only
      rw [h, Bool.false_or, Bool.or_false, ruleLines, itemsMention_strings]
      rfl
  · have h : (Item.object [("success", .bool true), ("action", .string action), ("chain", .string chain),
        ("message", .string "Operation successful".toList)]).mentions =
          (mentionsErrmsg action || (mentionsErrmsg chain || false)) := rfl
    rw [h, List.any_cons, List.any_cons, List.any_nil]
  · rfl

theorem qosAnswer_mentions (env : CallEnv) (cmd : CStr) :
    (qosAnswer (qosExCommand env cmd)).mentions = (qosStrings env cmd).any mentionsErrmsg := by
  unfold qosStrings
  cases qosExCommand env cmd with
  | none => rfl
  | some err =>
    rw [Option.toList_some, List.any_cons, List.any_nil, Bool.or_false, qosAnswer]
    by_cases h : err = []
    · rw [if_pos h, h]
      rfl
    · rw [if_neg h]
      have hitem : (Item.object [("success", .bool false), ("error", .string err)]).mentions =
          (mentionsErrmsg err || false) := rfl
      rw [hitem, Bool.or_false]

end WtslCore
