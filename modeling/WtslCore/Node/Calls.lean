/-
# What an operation calls, and what its status says

The callback of an operation returns a pointer: NULL, a string, or an integer
cast to one. The status of a `POST` is made from it. It is -1 for NULL and
for a string with `errmsg` in it, and nothing is defined for an integer.

An operation meets an error when it refuses its request, when a function it
calls or a command it runs reports a failure, when a command answers something
other than `SUCC`, and when its answer cannot be printed or does not fit. It
meets the error whether it looks or not; what a function that is called does
not report is no error. Functions of the driver, of the configuration and of
the libraries are represented by what they return (`OpEnv.call`), those that
report nothing by the calls they make.

A status is right if it is 0 for a string and no error and -1 for an error
(`StatusRight`). An error that is met and not looked at makes the status wrong,
and so does a string of the request or the device that has `errmsg` in it.

Key definitions: `Ptr`, `Callee`, `OpError`, `OpEnv`, `Op`, `getStatus`,
`postStatus`, `StatusRight`, `Item.mentions`, `PrintsTexts`.
Key theorems: `postRight_text`, `ends_reject`, `ends_run`, `ends_runAll`,
`ends_answer`.
-/
import WtslCore.Dataparser.FirmwareHeader
import WtslCore.Dataparser.Setters
import WtslCore.Lib.Noted
import WtslCore.Node.Responses

namespace WtslCore

open Noted

/-! ### The calls -/

/-- The functions of the driver's interface. -/
inductive SlbFunc
  | ifconfig (up : Bool)
  | setChannel
  | setBw
  | setTfcBw
  | setMscBound
  | setCcStartPos
  | setCellId
  | setEssid
  | setMibParams
  | setSecAuthPwd
  | setSecExchCap
  | setRangeOpt
  | setFisaEnable
  | setAcsEnable
  | setTxPower
  | initNetBridge
  | tNodeScan
  | tNodeStartJoin
  | getChannel
  | getBw
  | getTfcBw
  | getCcStartPos
  | getCellId
  | getWtVapInterfaceCount
  | getChipTemperature
  | getRangeOpt
  | getAcsEnable
  | getMibParams
  | getSecExchCap
  | getSecSecCap
  | getLceMode
  | getPpsSwitch
  | getTimestampCnt
  | getWdsMode
  | getViewMcsInfo
  | getRealPower
  | getRssiInfo
  | femCheck
  deriving DecidableEq

/-- The functions of the SLE library. -/
inductive SleFunc
  | setSeekParam
  | startSeek
  | stopSeek
  | defaultConnectionParamSet
  | connectRemoteDevice
  | enable
  | disable
  deriving DecidableEq

/-- What an operation calls. -/
inductive Callee
  | system (cmd : CStr)
  | slb (f : SlbFunc)
  | sle (f : SleFunc)
  | configSet (key : CStr)
  | configGetInt (key : CStr)
  | syncIpToJsCfg
  | updateWtslNodeBasicinfo
  | renameLog
  | fopen (path : String)
  | fwrite (path : String)
  | chmod (path : String)
  | getLoadAverage
  | getMemoryUsage
  | getDiskUsage
  | platformVerify
  | extractAndVerifyFirmware
  | handleFirmwareUpgrade
  deriving DecidableEq

/-- The getters that return what they read, and -1 if they fail. -/
def SlbFunc.returnsValue : SlbFunc → Bool
  | .getChannel | .getBw | .getTfcBw | .getCcStartPos | .getCellId | .getWtVapInterfaceCount
  | .getChipTemperature | .getRangeOpt | .getAcsEnable | .getSecExchCap | .getSecSecCap
  | .getLceMode | .getPpsSwitch => true
  | _ => false

/-- `CONFIG_ERROR_NOT_FOUND`. -/
def configErrorNotFound : ℤ := -3

/-- What a call returned is a failure. A key that is not in the configuration
has a default. -/
def Callee.failed (c : Callee) (r : ℤ) : Bool :=
  match c with
  | .slb f => if f.returnsValue then r == -1 else r != 0
  | .configGetInt _ => r != 0 && r != configErrorNotFound
  | _ => r != 0

/-- The errors an operation meets. -/
inductive OpError
  /-- The body is no JSON. -/
  | body
  /-- The request is refused. -/
  | refused
  | call (c : Callee)
  /-- A command under `popen` did not start, or did not exit with 0. -/
  | command (cmd : CStr)
  /-- The status that a command answers is not `SUCC`. -/
  | answer (status : CStr)
  /-- The table of users refuses a statement. -/
  | table
  /-- There is no memory to print the answer. -/
  | memory
  | tooLong
  deriving DecidableEq

/-- What an operation meets. -/
structure OpEnv extends CallEnv where
  /-- What the calls return: a getter its value, all others 0 for success (a
  pointer that is not NULL, and a write that is complete). The number tells
  calls in a sequence apart. -/
  call : Callee → ℕ → ℤ
  /-- `global_node_info`. -/
  params : NodeParams
  /-- `user_mac` of the rows of `mcs_bound_table`. -/
  mcsBoundTable : List CStr
  /-- `is_valid_time(timestr, "%Y-%m-%d %H:%M:%S") == 0`. -/
  validTime : CStr → Bool
  /-- `type` of `set_node`, once `TYPE` is read. -/
  savedType : Int32
  /-- `g_state.snapshot_rules`. -/
  snapshotRules : List CStr
  /-- What `/tmp/upgrade.bin` holds, and what its extraction meets. -/
  upgradeBin : List Char
  upload : UploadEnv
  /-- `access(path, F_OK) == 0`. -/
  access : String → Bool
  /-- Lines of the level `INFO` are logged. -/
  logsInfo : Bool

/-- A function that notes its errors. -/
abbrev Op (α : Type) := Noted OpError α

/-- What a callback returns. -/
inductive Ptr
  | null
  | integer (n : ℤ)
  | text (s : CStr)
  deriving DecidableEq

/-- An error, and NULL. -/
def reject (e : OpError) : Op Ptr := do
  note e
  return .null

/-- A copy that goes wrong has no outcome. -/
def copied {α : Type} (x : Except CopyFault α) : Op α := ofOption x.toOption

/-- `cJSON_GetObjectItem(root, field)->valuestring`. -/
def fieldString (root : Json) (field : String) : Op CStr :=
  ofOption ((root.getObjectItem field.toList).bind Json.valuestring)

section

variable (env : OpEnv)

/-- The errors of a call. -/
def OpEnv.failure (c : Callee) : List OpError :=
  if c.failed (env.call c 0) then [.call c] else []

/-- A call. -/
def OpEnv.run (c : Callee) : Op ℤ := ⟨env.failure c, some (env.call c 0)⟩

/-- A call whose result is an answer, and none is a failure. -/
def OpEnv.ask (c : Callee) : Op ℤ := ⟨[], some (env.call c 0)⟩

/-- The errors of calls in a sequence. -/
def OpEnv.failures (cs : List Callee) : List OpError :=
  (cs.zipIdx.filter fun p => p.1.failed (env.call p.1 p.2)).map fun p => .call p.1

/-- Calls whose results are not looked at. -/
def OpEnv.runAll (cs : List Callee) : Op Unit := ⟨env.failures cs, some ()⟩

/-- `cJSON_Parse(data)`; a body that is no JSON is refused. -/
def OpEnv.withBody (data : List Char) (k : Json → Op Ptr) : Op Ptr :=
  match env.parse (cstr data) with
  | none => reject .body
  | some root => k root

/-- The errors of a command that started. -/
def exitErrors (cmd : CStr) (run : CommandRun) : List OpError :=
  if run.status = .exited 0 then [] else [.command cmd]

/-- A command under `popen`. -/
def OpEnv.popened (cmd : CStr) : Op (Option CommandRun) :=
  match env.popen cmd with
  | none => ⟨[.command cmd], some none⟩
  | some run => ⟨exitErrors cmd run, some (some run)⟩

/-- The errors of commands under `popen`. -/
def OpEnv.popenErrors (cmds : List CStr) : List OpError :=
  cmds.flatMap fun cmd => (env.popened cmd).errors

/-- Commands under `popen` whose results are not looked at. -/
def OpEnv.popenAll (cmds : List CStr) : Op Unit := ⟨env.popenErrors cmds, some ()⟩

/-- A command under `popen` whose stream is read, NULL or not. -/
def OpEnv.output (cmd : CStr) : Op CStr := do
  match ← env.popened cmd with
  | none => undefined
  | some run => return run.output

/-- `cJSON_Print(item)` and its check. -/
def OpEnv.answer (item : Item) : Op Ptr :=
  match env.print item with
  | none => reject .memory
  | some s => return .text s

/-- The call reports no failure. -/
def OpEnv.Fine (c : Callee) : Prop := c.failed (env.call c 0) = false

/-- No call of the sequence reports a failure. -/
def OpEnv.AllFine (cs : List Callee) : Prop := ∀ p ∈ cs.zipIdx, p.1.failed (env.call p.1 p.2) = false

/-- The command starts and exits with 0. -/
def OpEnv.Exits (cmd : CStr) : Prop := ∃ run ∈ env.popen cmd, run.status = .exited 0

end

/-! ### The status -/

/-- `strstr(ret.data, "errmsg") != NULL`. -/
def hasErrmsg (s : CStr) : Bool := occurs "errmsg" s

/-- `ret.status` of `wtcoreapi_parse_http_get_cmd`. -/
def getStatus : Ptr → Option ℤ
  | .null => some (-1)
  | .integer _ | .text _ => some 0

/-- `ret.status` of `wtcoreapi_parse_http_post_cmd`; an integer is read as an address. -/
def postStatus : Ptr → Option ℤ
  | .null => some (-1)
  | .integer _ => none
  | .text s => some (if hasErrmsg s then -1 else 0)

/-- The status is a success if no error was met, and only then, and the data of
a success is a string. -/
def StatusRight (status : Ptr → Option ℤ) (p : Ptr) (es : List OpError) : Prop :=
  ∃ n ∈ status p, (n = 0 ↔ es = []) ∧ (n = 0 → ∃ s, p = .text s)

/-- The status of a `POST` is right. -/
abbrev PostRight : Ptr → List OpError → Prop := StatusRight postStatus

/-- The status of a `GET` is right. -/
abbrev GetRight : Ptr → List OpError → Prop := StatusRight getStatus

/-- The status of a `POST` operation is right, if it has one. -/
def Op.Tells (x : Op Ptr) : Prop := Ends PostRight [] x

variable {env : OpEnv} {es : List OpError} {α : Type}

@[simp] theorem postRight_null : PostRight .null es ↔ es ≠ [] := by
  simp [StatusRight, postStatus]

@[simp] theorem postRight_text {s : CStr} : PostRight (.text s) es ↔ (hasErrmsg s = false ↔ es = []) := by
  unfold PostRight StatusRight postStatus
  dsimp only
  cases hasErrmsg s with
  | false =>
    rw [if_neg Bool.false_ne_true]
    constructor
    · rintro ⟨_, ⟨⟩, h, -⟩
      exact iff_of_true rfl (h.mp rfl)
    · intro h
      exact ⟨0, rfl, iff_of_true rfl (h.mp rfl), fun _ => ⟨s, rfl⟩⟩
  | true =>
    rw [if_pos rfl]
    constructor
    · rintro ⟨_, ⟨⟩, h, -⟩
      exact iff_of_false nofun fun hes => absurd (h.mpr hes) (by decide)
    · intro h
      exact ⟨-1, rfl, iff_of_false (by decide) fun hes => (nomatch h.mpr hes), nofun⟩

@[simp] theorem not_postRight_integer {n : ℤ} : ¬ PostRight (.integer n) es := by
  simp [StatusRight, postStatus]

@[simp] theorem getRight_null : GetRight .null es ↔ es ≠ [] := by
  simp [StatusRight, getStatus]

@[simp] theorem getRight_text {s : CStr} : GetRight (.text s) es ↔ es = [] := by
  simp [StatusRight, getStatus]

/-! ### The strings of an answer -/

/-- A byte as `print_string_ptr` of cJSON writes it. -/
def escape (c : Char) : CStr :=
  if c = '\x22' then "\\\x22".toList
  else if c = '\\' then "\\\\".toList
  else if c = '\x08' then "\\b".toList
  else if c = '\x0c' then "\\f".toList
  else if c = '\n' then "\\n".toList
  else if c = '\r' then "\\r".toList
  else if c = '\t' then "\\t".toList
  else if c.toNat < 32 then "\\u00".toList ++ [Nat.digitChar (c.toNat / 16), Nat.digitChar (c.toNat % 16)]
  else [c]

/-- A string as cJSON prints it has `errmsg` in it. -/
def mentionsErrmsg (s : CStr) : Bool := hasErrmsg (s.flatMap escape)

mutual

/-- A key or a string of the item, as it is printed, has `errmsg` in it. -/
def Item.mentions : Item → Bool
  | .bool _ => false
  | .number _ => false
  | .string s => mentionsErrmsg s
  | .array items => itemsMention items
  | .object members => membersMention members

def itemsMention : List Item → Bool
  | [] => false
  | i :: items => i.mentions || itemsMention items

def membersMention : List (String × Item) → Bool
  | [] => false
  | (key, i) :: members => mentionsErrmsg key.toList || i.mentions || membersMention members

end

/-- What cJSON prints has `errmsg` in it if a key or a string has. -/
def PrintsTexts (print : Item → Option CStr) : Prop :=
  ∀ i s, print i = some s → hasErrmsg s = i.mentions

/-! ### The rules for the parts of an operation -/

variable {q : Ptr → List OpError → Prop} {β : Type} {r : β → List OpError → Prop}

theorem ends_reject {e : OpError} : Ends PostRight es (reject e) := by
  unfold reject
  rw [ends_note]
  simp

theorem ends_copied {x : Except CopyFault α} {f : α → Op β} :
    Ends r es (copied x >>= f) ↔ ∀ a, x = .ok a → Ends r es (f a) := by
  unfold copied
  rw [ends_ofOption]
  cases x with
  | error e => simp [Except.toOption]
  | ok a => simp [Except.toOption]

theorem ends_fieldString {root : Json} {field : String} {f : CStr → Op β} :
    Ends r es (fieldString root field >>= f) ↔
      ∀ s ∈ (root.getObjectItem field.toList).bind Json.valuestring, Ends r es (f s) :=
  ends_ofOption

@[simp] theorem failure_eq_nil {c : Callee} : env.failure c = [] ↔ env.Fine c := by
  unfold OpEnv.failure OpEnv.Fine
  split_ifs with h
  · simp [h]
  · simp [h]

/-- A call: the errors grow if it fails, and its result is passed on. -/
theorem ends_run {c : Callee} {f : ℤ → Op β} :
    Ends r es (env.run c >>= f) ↔ Ends r (es ++ env.failure c) (f (env.call c 0)) := by
  rw [ends_bind]
  simp [OpEnv.run]

theorem ends_ask {c : Callee} {f : ℤ → Op β} :
    Ends r es (env.ask c >>= f) ↔ Ends r es (f (env.call c 0)) := by
  rw [ends_bind]
  simp [OpEnv.ask]

@[simp] theorem failures_eq_nil {cs : List Callee} : env.failures cs = [] ↔ env.AllFine cs := by
  unfold OpEnv.failures OpEnv.AllFine
  rw [List.map_eq_nil_iff, List.filter_eq_nil_iff]
  simp only [Bool.not_eq_true]

theorem ends_runAll {cs : List Callee} {f : Unit → Op β} :
    Ends r es (env.runAll cs >>= f) ↔ Ends r (es ++ env.failures cs) (f ()) := by
  rw [ends_bind]
  exact ⟨fun h => h () rfl, fun h _ _ => h⟩

@[simp] theorem exitErrors_eq_nil {cmd : CStr} {run : CommandRun} :
    exitErrors cmd run = [] ↔ run.status = .exited 0 := by
  unfold exitErrors
  split_ifs with h
  · simp [h]
  · simp [h]

@[simp] theorem popened_errors_eq_nil {cmd : CStr} :
    (env.popened cmd).errors = [] ↔ env.Exits cmd := by
  unfold OpEnv.popened OpEnv.Exits
  cases env.popen cmd with
  | none => simp
  | some run => simp

@[simp] theorem popenErrors_eq_nil {cmds : List CStr} :
    env.popenErrors cmds = [] ↔ ∀ cmd ∈ cmds, env.Exits cmd := by
  unfold OpEnv.popenErrors
  rw [List.flatMap_eq_nil_iff]
  exact forall_congr' fun cmd => forall_congr' fun _ => popened_errors_eq_nil

theorem ends_popenAll {cmds : List CStr} {f : Unit → Op β} :
    Ends r es (env.popenAll cmds >>= f) ↔ Ends r (es ++ env.popenErrors cmds) (f ()) := by
  rw [ends_bind]
  exact ⟨fun h => h () rfl, fun h _ _ => h⟩

theorem ends_withBody {data : List Char} {k : Json → Op Ptr} :
    Ends PostRight es (env.withBody data k) ↔
      ∀ root ∈ env.parse (cstr data), Ends PostRight es (k root) := by
  unfold OpEnv.withBody
  cases env.parse (cstr data) with
  | none => simp [ends_reject]
  | some root => simp

theorem ends_popened {cmd : CStr} {f : Option CommandRun → Op β} :
    Ends r es (env.popened cmd >>= f) ↔
      match env.popen cmd with
      | none => Ends r (es ++ [.command cmd]) (f none)
      | some run => Ends r (es ++ exitErrors cmd run) (f (some run)) := by
  unfold OpEnv.popened
  rw [ends_bind]
  cases env.popen cmd with
  | none => simp
  | some run => simp

/-- A command whose output is not read. -/
theorem ends_popened_const {cmd : CStr} {x : Op β} :
    Ends r es (env.popened cmd >>= fun _ => x) ↔ Ends r (es ++ (env.popened cmd).errors) x := by
  rw [ends_popened]
  unfold OpEnv.popened
  cases env.popen cmd with
  | none => rfl
  | some run => rfl

theorem ends_output {cmd : CStr} {f : CStr → Op β} : Ends r es (env.output cmd >>= f) ↔
    ∀ run ∈ env.popen cmd, Ends r (es ++ exitErrors cmd run) (f run.output) := by
  unfold OpEnv.output OpEnv.popened
  rw [ends_bind]
  cases env.popen cmd with
  | none => simp [Bind.bind, undefined]
  | some run => simp [Bind.bind, Pure.pure]

/-- A text of the program, without a text of the request or the device. -/
theorem ends_text {s : CStr} (h : hasErrmsg s = false) :
    Ends PostRight es (pure (.text s)) ↔ es = [] := by
  rw [ends_pure, postRight_text]
  exact ⟨fun hs => hs.mp h, fun hes => iff_of_true h hes⟩

/-- A printed answer; it is an error if there is no memory for it. -/
theorem ends_answer {item : Item} (hprint : PrintsTexts env.print) :
    Ends PostRight es (env.answer item) ↔
      (env.print item ≠ none → (item.mentions = false ↔ es = [])) := by
  unfold OpEnv.answer
  cases hs : env.print item with
  | none => simp [ends_reject]
  | some s =>
    show Ends PostRight es (pure (.text s)) ↔ _
    rw [ends_pure, postRight_text, hprint item s hs]
    simp

end WtslCore
