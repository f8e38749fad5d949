/-
# When the status of a request is right

The API reports 0 for what a handler returns under `GET` unless it is NULL,
and under `POST` unless it is NULL or has `errmsg` in it. The report is right
if it is 0 exactly where the handler met no error, and then comes with a
string. This is found for every URL and body and everything that a handler
meets (`status_right_iff`).

Under `GET` a failed command is answered as a success wherever its answer can
be printed, the usage of the hardware is never answered, and a path that no
branch supports is answered with the buffer as it is. What goes wrong under
`POST` is a matter of the operation (`PostOk`) or of the user manager
(`UserOk`). A request that crashes on its way has no status, and nothing is
claimed of it.

Key definitions: `getErrors`, `getOperation`, `GetOk`, `ApiCall`,
`ApiCall.runGet`, `ApiCall.runPost`, `ApiCall.GetTold`, `ApiCall.PostTold`.
Key theorems: `ends_served`, `getOperation_ends_iff`, `status_right_iff`.
-/
import WtslCore.Http.GetAnswers
import WtslCore.Node.Outcomes
import WtslCore.User.Answers

namespace WtslCore

open Noted

/-! ### What the operations of `GET` call -/

/-- The command that lists the users. -/
def viewUsersCmd : CStr := "iwpriv ".toList ++ (netVapName ++ " cfg view_users".toList)

/-- The command that lists what a scan found. -/
def showBssCmd : CStr := "iwpriv ".toList ++ (netVapName ++ " cfg show_bss".toList)

/-- The commands that list the rules of the chains. -/
def aclListCmds : List CStr :=
  ["INPUT", "OUTPUT", "FORWARD"].map fun chain => "iptables -w -S ".toList ++ chain.toList

/-- The commands that list the objects of a device. -/
def tcShowCmds (device : CStr) : List CStr :=
  ["qdisc", "class", "filter"].map fun what =>
    ("tc -s ".toList ++ (what.toList ++ (" show dev ".toList ++ device))).take 1023

/-- The calls of `sync_advinfo`. -/
def syncAdvinfo (env : OpEnv) : List Callee :=
  (List.flatten
    [[.getCcStartPos, .getCellId, .getWtVapInterfaceCount, .getChipTemperature, .getRangeOpt,
        .getAcsEnable, .getMibParams, .getSecExchCap, .getSecSecCap],
      if env.params.type = nodeTypeSlbG then [.getLceMode] else [],
      [.getPpsSwitch, .getTimestampCnt, .getWdsMode, .getViewMcsInfo, .getRealPower, .getRssiInfo,
        .femCheck]]).map .slb

/-- What `wtsl_core_start_scan` calls before it lists what was found. -/
def startScanCalls : List Callee := [.slb (.ifconfig false), .slb (.ifconfig true), .slb .tNodeScan]

/-- What `slb_node_get_hw_resources_info` calls; for the usage of the CPU there
is a fallback. -/
def hwResourcesCalls : List Callee := [.getLoadAverage, .getMemoryUsage, .getDiskUsage]

/-- `sle_start_scan` and `sle_stop_seek`. -/
def sleScanCalls : List Callee := [.sle .setSeekParam, .sle .startSeek, .sle .stopSeek]

section

variable (env : OpEnv) (sle : SleInfo) (recvBss : CharArray 8192) (node : Node)

/-- The status of the QoS, as it is printed. -/
def qosStatus : Item :=
  .object [("enabled", .bool env.qosEnabled), ("snapshot_count", .number env.snapshotCount),
    ("device", .string env.qosDevice)]

/-- The status of the ACL, as it is printed. -/
def aclStatus : Item :=
  .object [("enabled", .bool env.aclEnabled), ("rule_count", .number env.ruleCount),
    ("device", .string env.aclDevice), ("type", .string "iptables".toList)]

/-- The errors of an item that is printed. -/
def OpEnv.printErrors (item : Item) : List OpError :=
  match env.print item with
  | none => [.memory]
  | some _ => []

/-- The errors of an item that is printed into the buffer. -/
def OpEnv.textErrors (item : Item) : List OpError :=
  match env.print item with
  | none => [.memory]
  | some s => if s.length < 8192 then [] else [.tooLong]

/-- The errors that the callback of a `GET` operation meets. -/
def getErrors : NodeFunc → List OpError
  | .getAllNodesInfo =>
    match env.nodes with
    | none => [.refused]
    | some nodes => env.textErrors (allNodesItem env.behind nodes)
  | .getNodeBasicinfo => env.textErrors (createNodeInfoJson (env.extra node) (env.behind node) node)
  | .getNodeAdvinfo =>
    env.failures (syncAdvinfo env) ++
      env.textErrors (createNodeAdvinfoJson env.advInfo (env.extra node) node)
  | .qosGetStatus => env.textErrors (qosStatus env)
  | .aclGetStatus => env.textErrors (aclStatus env)
  | .getNodeConninfo =>
    match env.nodes with
    | none => [.refused]
    | some nodes => env.popenErrors [viewUsersCmd] ++
        ((viewUsers env.toCallEnv nodes).map env.printErrors).getD []
  | .startScan =>
    if node.id = 0 then env.failures startScanCalls ++ env.popenErrors [showBssCmd]
    -- the answer of another node is a text of the program
    else []
  | .showBssInfo => if node.id = 0 then env.popenErrors [showBssCmd] else []
  | .getHwResourcesInfo => env.failures hwResourcesCalls
  | .aclGetRules => env.popenErrors aclListCmds ++ env.textErrors (aclRules env.toCallEnv)
  | .qosGetRules =>
    env.popenErrors (tcShowCmds env.qosDevice) ++ env.textErrors (qosRules env.toCallEnv)
  | .doSleScan => env.failures sleScanCalls ++ env.printErrors (sleShowBss sle.scanned)
  | .getSleScanResult => env.printErrors (sleShowBss sle.seekResults)
  | .getSleConninfo => env.printErrors (sleConninfo sle)
  | .getSleBasicinfo => env.printErrors (sleBasicinfo sle env.splink.macStr)
  | .getSleTransConfig => env.printErrors (sleTransConfig sle)
  -- the operations of `POST`
  | _ => [.refused]

/-- An answer as the pointer that `data` is. -/
def GetAnswer.ptr : GetAnswer → Ptr
  | .error => .null
  | .success s => .text s

/-- What becomes of a callback that met `es`, wrote `w` and returned `result`. -/
def served (es : List OpError) (w : List Char) (result : CallbackResult) : Op Ptr :=
  ⟨es, (finishGet recvBss.val w result).map fun p => p.1.ptr⟩

/-- The callback of a `GET` operation, with the buffer as the last request left it. -/
def getOperation (func : NodeFunc) : Op Ptr :=
  served recvBss (getErrors env sle node func)
    (callbackWrites env.toCallEnv func node recvBss.val 8192)
    (getCallback env.toCallEnv sle func node 8192)

/-! ### The conditions -/

/-- There is memory to print the item and it fits the buffer, and then it is as said. -/
def OpEnv.IfFits (item : Item) (p : Prop) : Prop := ∀ s ∈ env.print item, s.length < 8192 → p

/-- The rules fit the buffer, and the commands that list them exit with 0. -/
def ListingOk (cmds : List CStr) (item : Item) : Prop :=
  ∀ s ∈ env.print item, s.length < 8192 ∧ ∀ cmd ∈ cmds, env.Exits cmd

/-- The condition on an operation. -/
def GetOk : NodeFunc → Prop
  | .getNodeAdvinfo => env.IfFits (createNodeAdvinfoJson env.advInfo (env.extra node) node)
      (env.AllFine (syncAdvinfo env))
  | .getNodeConninfo => ∀ nodes ∈ env.nodes, ∀ item ∈ viewUsers env.toCallEnv nodes,
      TextFits env.toCallEnv 8192 item → env.print item ≠ none ∧ env.Exits viewUsersCmd
  | .startScan => node.id = 0 → ∀ item ∈ showBss env.toCallEnv,
      env.IfFits item (env.AllFine startScanCalls ∧ env.Exits showBssCmd)
  | .showBssInfo => node.id = 0 → ∀ item ∈ showBss env.toCallEnv,
      env.IfFits item (env.Exits showBssCmd)
  | .getHwResourcesInfo => env.hwResources ≠ none → ¬ env.AllFine hwResourcesCalls
  | .aclGetRules => ListingOk env aclListCmds (aclRules env.toCallEnv)
  | .qosGetRules => ListingOk env (tcShowCmds env.qosDevice) (qosRules env.toCallEnv)
  | .doSleScan => env.IfPrinted (sleShowBss sle.scanned) (env.AllFine sleScanCalls)
  | _ => True

end

variable {env : OpEnv} {sle : SleInfo} {recvBss : CharArray 8192} {node : Node} {item : Item}
  {es : List OpError} {w : List Char} {result : CallbackResult} {p : Prop}

/-! ### The operations of `GET` -/

/-- What a callback returns is right about the errors it met. -/
def CallbackResult.Tells (es : List OpError) : CallbackResult → Prop
  | .crash => True
  | .null => es ≠ []
  | .data | .text _ => es = []

/-- **What a callback wrote fits the buffer, or there is no outcome.** -/
theorem ends_served : Ends GetRight [] (served recvBss es w result) ↔
    (w.length ≤ 8192 → result.Tells es) := by
  unfold Ends served finishGet
  rw [recvBss.2]
  by_cases h : 8192 < w.length
  · rw [if_pos h]
    exact iff_of_true nofun fun hle => absurd h (Nat.not_lt.mpr hle)
  · rw [if_neg h, forall_prop_of_true (Nat.not_lt.mp h)]
    cases result with
    | crash => exact iff_of_true nofun trivial
    | null | data | text s => simp [GetAnswer.ptr, CallbackResult.Tells]

theorem length_writeItem_checked (item : Option Item) :
    (writeItem env.toCallEnv item (checkedBytes 8192)).length ≤ 8192 :=
  length_writeItem_le.mpr fun _ _ s _ => length_checkedBytes_le 8192 s

/-- A text that is compared with the size of the buffer. -/
theorem ends_checkedText (hw : w.length ≤ 8192) :
    Ends GetRight [] (served recvBss (es ++ env.textErrors item) w
      (checkedResult env.toCallEnv 8192 item)) ↔ env.IfFits item (es = []) := by
  rw [ends_served, forall_prop_of_true hw]
  unfold OpEnv.textErrors OpEnv.IfFits checkedResult
  cases env.print item with
  | none => simp [CallbackResult.Tells]
  | some s =>
    by_cases hs : s.length < 8192
    · simp [CallbackResult.Tells, hs, Nat.not_lt.mpr (Nat.succ_le_of_lt hs)]
    · simp [CallbackResult.Tells, hs, Nat.lt_succ_of_le (Nat.not_lt.mp hs)]

/-- The same, if nothing else can fail. -/
theorem tells_checkedText (hw : w.length ≤ 8192) : Ends GetRight [] (served recvBss
    (env.textErrors item) w (checkedResult env.toCallEnv 8192 item)) := by
  show Ends GetRight [] (served recvBss ([] ++ env.textErrors item) w _)
  rw [ends_checkedText hw]
  exact fun _ _ _ => rfl

/-- A text that is cut to the size of the buffer. -/
theorem ends_cutText : Ends GetRight [] (served recvBss (es ++ env.textErrors item)
    (writeItem env.toCallEnv (some item) cutBytes) (copiedResult env.toCallEnv (some item))) ↔
      ∀ s ∈ env.print item, s.length < 8192 ∧ es = [] := by
  have hw : (writeItem env.toCallEnv (some item) cutBytes).length ≤ 8192 := by
    refine length_writeItem_le.mpr fun _ _ s _ => ?_
    rw [length_cutBytes]
    omega
  rw [ends_served, forall_prop_of_true hw]
  unfold OpEnv.textErrors copiedResult
  rw [Option.bind_some]
  cases env.print item with
  | none => simp [CallbackResult.Tells]
  | some s =>
    by_cases hs : s.length < 8192
    · simp [CallbackResult.Tells, hs]
    · simp [CallbackResult.Tells, hs]

/-- A text that is copied as it is, if it can be printed. -/
theorem ends_copiedText {o : Option Item} : Ends GetRight [] (served recvBss es
    (writeItem env.toCallEnv o strcpyBytes) (copiedResult env.toCallEnv o)) ↔
      ∀ item ∈ o, env.IfFits item (es = []) := by
  rw [ends_served, strcpy_fits_iff]
  unfold copiedResult OpEnv.IfFits TextFits
  cases o with
  | none => simp [CallbackResult.Tells]
  | some item =>
    rw [Option.bind_some]
    cases hs : env.print item with
    | none => simp [CallbackResult.Tells, hs]
    | some s => simp [CallbackResult.Tells, hs]

/-- A text that is returned. -/
theorem ends_textResult : Ends GetRight [] (served recvBss (es ++ env.printErrors item) []
    (textResult env.toCallEnv item)) ↔ env.IfPrinted item (es = []) := by
  have hw : ([] : List Char).length ≤ 8192 := Nat.zero_le 8192
  rw [ends_served, forall_prop_of_true hw]
  unfold OpEnv.printErrors OpEnv.IfPrinted textResult
  cases env.print item with
  | none => simp [CallbackResult.Tells]
  | some s => simp [CallbackResult.Tells]

/-- The same, if nothing else can fail. -/
theorem tells_textResult : Ends GetRight [] (served recvBss (env.printErrors item) []
    (textResult env.toCallEnv item)) := by
  show Ends GetRight [] (served recvBss ([] ++ env.printErrors item) [] _)
  rw [ends_textResult]
  exact fun _ => rfl

/-- The table of users is copied if it can be printed; if it cannot, the buffer
is returned as it is. -/
theorem ends_users {o : Option Item} : Ends GetRight [] (served recvBss
    (es ++ (o.map env.printErrors).getD []) (writeItem env.toCallEnv o strcpyBytes)
    (if o.isNone then .crash else .data)) ↔
      ∀ item ∈ o, TextFits env.toCallEnv 8192 item → env.print item ≠ none ∧ es = [] := by
  rw [ends_served, strcpy_fits_iff]
  unfold TextFits
  cases o with
  | none => simp [CallbackResult.Tells]
  | some item =>
    unfold OpEnv.printErrors
    cases hs : env.print item with
    | none => simp [CallbackResult.Tells, hs]
    | some s => simp [CallbackResult.Tells, hs]

/-- What a scan found; the answer of another node is a text of the program. -/
theorem ends_bss : Ends GetRight [] (served recvBss (if node.id = 0 then es else [])
    (wtslCoreShowBss env.toCallEnv node 8192)
    (if node.id = 0 then copiedResult env.toCallEnv (showBss env.toCallEnv)
      else if 8192 < sampleInfo.length + 1 then .null else .data)) ↔
      (node.id = 0 → ∀ item ∈ showBss env.toCallEnv, env.IfFits item (es = [])) := by
  unfold wtslCoreShowBss
  by_cases hid : node.id = 0
  · rw [if_pos hid, if_pos hid, if_pos hid, forall_prop_of_true hid]
    exact ends_copiedText
  · rw [if_neg hid, if_neg hid, if_neg hid, if_neg (by decide)]
    exact iff_of_true (ends_served.mpr fun _ => rfl) fun h => absurd h hid

theorem ends_null (h : es ≠ []) : Ends GetRight [] (served recvBss es w .null) :=
  ends_served.mpr fun _ => h

/-- **The status of a `GET` operation is right exactly under its condition.** -/
theorem getOperation_ends_iff (func : NodeFunc) :
    Ends GetRight [] (getOperation env sle recvBss node func) ↔ GetOk env sle node func := by
  cases func with
  | getNodeBasicinfo | qosGetStatus | aclGetStatus =>
    exact iff_of_true (tells_checkedText (length_writeItem_checked _)) trivial
  | getNodeAdvinfo =>
    refine (ends_checkedText (length_writeItem_checked _)).trans ?_
    unfold GetOk
    rw [failures_eq_nil]
  | aclGetRules =>
    refine ends_cutText.trans ?_
    unfold GetOk ListingOk
    rw [popenErrors_eq_nil]
  | qosGetRules =>
    refine ends_cutText.trans ?_
    unfold GetOk ListingOk
    rw [popenErrors_eq_nil]
  | doSleScan =>
    refine ends_textResult.trans ?_
    unfold GetOk
    rw [failures_eq_nil]
  | getSleScanResult | getSleConninfo | getSleBasicinfo | getSleTransConfig =>
    exact iff_of_true tells_textResult trivial
  | getAllNodesInfo =>
    unfold getOperation getErrors getCallback callbackWrites GetOk
    cases env.nodes with
    | none => exact iff_of_true (ends_null (List.cons_ne_nil _ _)) trivial
    | some nodes =>
      exact iff_of_true (tells_checkedText (length_writeItem_checked _)) trivial
  | getNodeConninfo =>
    unfold getOperation getErrors getCallback callbackWrites GetOk
    cases env.nodes with
    | none => exact iff_of_true (ends_null (List.cons_ne_nil _ _)) nofun
    | some nodes =>
      simp only [Option.mem_def, Option.some.injEq, forall_eq']
      refine ends_users.trans ?_
      simp only [popenErrors_eq_nil, List.mem_singleton, forall_eq, Option.mem_def]
  | startScan =>
    refine ends_bss.trans ?_
    simp only [List.append_eq_nil_iff, failures_eq_nil, popenErrors_eq_nil, List.mem_singleton,
      forall_eq, GetOk]
  | showBssInfo =>
    refine ends_bss.trans ?_
    simp only [popenErrors_eq_nil, List.mem_singleton, forall_eq, GetOk]
  | getHwResourcesInfo =>
    unfold getOperation getErrors getCallback callbackWrites wtslCoreGetHwResourcesUsage GetOk
    dsimp only
    rw [ends_served]
    cases env.hwResources with
    | none => simp [CallbackResult.Tells]
    | some s =>
      have hw : (strcpyBytes (s.take 1023)).length ≤ 8192 := by
        rw [length_strcpyBytes, List.length_take]
        omega
      rw [forall_prop_of_true (Option.some_ne_none s), ← failures_eq_nil]
      exact ⟨fun h => h hw, fun h _ => h⟩
  | _ => exact iff_of_true (ends_null (List.cons_ne_nil _ _)) trivial

/-! ### The requests -/

/-- A request to the API and what it meets. -/
structure ApiCall where
  url : CStr
  /-- The body of a `POST`. -/
  data : List Char
  /-- The buffer of the `GET` requests, as the last one left it. -/
  recvBss : CharArray 8192
  env : OpEnv
  sle : SleInfo
  ctx : UserContext
  users : UserCall

section

variable (c : ApiCall)

/-- `CALL_INTERFACE` of an operation `x`: a call that is denied returns NULL,
and so does one that is meant for another node. -/
def ApiCall.callInterface (func : NodeFunc) (node : Node) (x : Op Ptr) : Op Ptr :=
  match interfaceWrapper c.env.splink node func c.ctx with
  | .denied | .remote => reject .refused
  | .callback => x

/-- `ret.data` of `wtcoreapi_parse_http_get_cmd`. -/
def ApiCall.runGet : Op Ptr :=
  match wtcoreapiParseHttpGetCmd c.env.nodes c.url with
  | .fault => undefined
  | .error | .noRoute | .user _ => reject .refused
  -- no branch of the dispatcher supports the path
  | .stale => do
    note .refused
    return .text (cstr c.recvBss.val)
  | .call func node => c.callInterface func node (getOperation c.env c.sle c.recvBss node func)

/-- `ret.data` of `wtcoreapi_parse_http_post_cmd`. -/
def ApiCall.runPost : Op Ptr :=
  match wtcoreapiParseHttpPostCmd c.env.nodes c.url with
  | .fault => undefined
  -- the dispatchers of `POST` answer with no buffer
  | .error | .noRoute | .stale | .user none => reject .refused
  | .user (some route) => route.operation c.env c.data c.users
  | .call func node => c.callInterface func node (postOperation c.env c.data func)

/-- The request leads to the callback of an operation. -/
def ApiCall.Calls (r : Routed) (func : NodeFunc) (node : Node) : Prop :=
  r = .call func node ∧ interfaceWrapper c.env.splink node func c.ctx = .callback

/-- The condition on a `GET`: its path is one that a branch supports, or it is
refused, and its operation is told. -/
def ApiCall.GetTold : Prop :=
  ¬ (isNodesUrl c.url = true ∧ (strtok '/' c.url)[2]? = some "nodes".toList ∧
      NoBranch c.env.nodes (strtok '/' c.url)) ∧
    ∀ func node, c.Calls (wtcoreapiParseHttpGetCmd c.env.nodes c.url) func node →
      GetOk c.env c.sle node func

/-- The condition on a `POST`. -/
def ApiCall.PostTold : Prop :=
  (∀ func node, c.Calls (wtcoreapiParseHttpPostCmd c.env.nodes c.url) func node →
    PostOk c.env c.data func) ∧
    ∀ route, wtcoreapiParseHttpPostCmd c.env.nodes c.url = .user (some route) →
      UserOk c.env c.users (c.env.parse (cstr c.data)) route

end

variable {c : ApiCall} {q : Ptr → List OpError → Prop} {func : NodeFunc}

theorem ends_refused : Ends GetRight [] (reject .refused) := by
  unfold reject
  rw [ends_note]
  simp

/-- Behind the interface it is a matter of the operation. -/
theorem ends_callInterface {x : Op Ptr} (hnull : Ends q [] (reject .refused)) (hx : Ends q [] x ↔ p) :
    Ends q [] (c.callInterface func node x) ↔
      (interfaceWrapper c.env.splink node func c.ctx = .callback → p) := by
  unfold ApiCall.callInterface
  cases interfaceWrapper c.env.splink node func c.ctx with
  | callback =>
    rw [forall_prop_of_true rfl]
    exact hx
  | denied | remote => exact iff_of_true hnull nofun

theorem runGet_ends_iff (c : ApiCall) : Ends GetRight [] c.runGet ↔ c.GetTold := by
  unfold ApiCall.GetTold
  rw [← getCmd_stale_iff]
  unfold ApiCall.runGet ApiCall.Calls
  cases wtcoreapiParseHttpGetCmd c.env.nodes c.url with
  | fault => exact iff_of_true ends_undefined ⟨nofun, fun _ _ h => (nomatch h.1)⟩
  | error | noRoute | user route => exact iff_of_true ends_refused ⟨nofun, fun _ _ h => (nomatch h.1)⟩
  | stale =>
    refine iff_of_false ?_ fun h => h.1 rfl
    rw [ends_note, ends_pure, getRight_text]
    exact List.cons_ne_nil _ _
  | call func node =>
    refine (ends_callInterface ends_refused (getOperation_ends_iff func)).trans ?_
    constructor
    · rintro h
      refine ⟨nofun, ?_⟩
      rintro _ _ ⟨⟨⟩, hcall⟩
      exact h hcall
    · exact fun h hcall => h.2 func node ⟨rfl, hcall⟩

theorem runPost_tells_iff (c : ApiCall) (hprint : PrintsTexts c.env.print) :
    c.runPost.Tells ↔ c.PostTold := by
  unfold ApiCall.PostTold ApiCall.runPost ApiCall.Calls
  cases wtcoreapiParseHttpPostCmd c.env.nodes c.url with
  | fault => exact iff_of_true ends_undefined ⟨fun _ _ h => (nomatch h.1), nofun⟩
  | error | noRoute | stale => exact iff_of_true ends_reject ⟨fun _ _ h => (nomatch h.1), nofun⟩
  | user route =>
    cases route with
    | none => exact iff_of_true ends_reject ⟨fun _ _ h => (nomatch h.1), nofun⟩
    | some route =>
      refine (userOperation_tells_iff c.env c.data c.users route hprint).trans ?_
      constructor
      · intro h
        refine ⟨fun _ _ h => (nomatch h.1), ?_⟩
        rintro _ ⟨⟩
        exact h
      · exact fun h => h.2 route rfl
  | call func node =>
    refine (ends_callInterface ends_reject (postOperation_tells_iff c.env c.data func hprint)).trans ?_
    constructor
    · intro h
      refine ⟨?_, nofun⟩
      rintro _ _ ⟨⟨⟩, hcall⟩
      exact h hcall
    · exact fun h hcall => h.1 func node ⟨rfl, hcall⟩

/-- **The condition is exact**, for every request and everything it meets. -/
theorem status_right_iff (c : ApiCall) (hprint : PrintsTexts c.env.print) :
    (Ends GetRight [] c.runGet ↔ c.GetTold) ∧ (c.runPost.Tells ↔ c.PostTold) :=
  ⟨runGet_ends_iff c, runPost_tells_iff c hprint⟩

/-! ### Three requests that are told wrong, and one that is told right -/

/-- A device on which every call succeeds. -/
def quietOps : OpEnv where
  toCallEnv := quietDevice
  call _ _ := 0
  params := paramDefault 0
  mcsBoundTable := ["00:00:00:00:00:00".toList]
  validTime _ := true
  savedType := nodeTypeSlbT
  snapshotRules := []
  upgradeBin := []
  upload := ⟨fun _ => none, true, true, true, true, true, true, none⟩
  access _ := true
  logsInfo := true

/-- A request of an administrator to a device with a new table of users. -/
def ApiCall.ofAdmin (url data : String) (env : OpEnv) : ApiCall where
  url := url.toList
  data := data.toList
  recvBss := ⟨recvBssStart, List.length_replicate⟩
  env := env
  sle := ⟨[], [], [], 0, [], 0, 0, 0⟩
  ctx := adminContext
  users := ⟨id, ⟨initDb, adminContext⟩, ⟨.null, .null, 0, []⟩, (0, 0)⟩

/-- The usage of the hardware, on a device that finds it out. -/
def resourcesCall : ApiCall := .ofAdmin "/api/v1/nodes/0/resourcesinfo" ""
  { quietOps with hwResources := some "\x7b\x7d".toList }

/-- The usage is written to the buffer, and NULL is returned. -/
theorem runGet_resources : resourcesCall.runGet = ⟨[], some .null⟩ := by
  have hroute : wtcoreapiParseHttpGetCmd resourcesCall.env.nodes resourcesCall.url =
      .call .getHwResourcesInfo (NodeState.alone.list.head (by decide)) := by decide
  have hcall : interfaceWrapper resourcesCall.env.splink (NodeState.alone.list.head (by decide))
      .getHwResourcesInfo resourcesCall.ctx = .callback := by decide
  have hw : ¬ resourcesCall.recvBss.val.length < (strcpyBytes "\x7b\x7d".toList).length := by
    rw [resourcesCall.recvBss.2, length_strcpyBytes]
    decide
  unfold ApiCall.runGet
  rw [hroute]
  unfold ApiCall.callInterface
  simp only [hcall]
  show served _ [] (strcpyBytes "\x7b\x7d".toList) .null = _
  unfold served finishGet
  rw [if_neg hw]
  rfl

/-- The test of the throughput, on a device where no command succeeds. -/
def throughputCall : ApiCall := .ofAdmin "/api/v1/nodes/0/throughput_test" ""
  { quietOps with call := fun
      | .system _, _ => 1
      | _, _ => 0 }

/-- Whatever fails, the answer is the same. -/
theorem runPost_throughput : throughputCall.runPost =
    ⟨throughputCall.env.failures Op.throughputCalls, some (.text "success".toList)⟩ := by
  have hroute : wtcoreapiParseHttpPostCmd throughputCall.env.nodes throughputCall.url =
      .call .doThroughputTest (NodeState.alone.list.head (by decide)) := by decide
  have hcall : interfaceWrapper throughputCall.env.splink (NodeState.alone.list.head (by decide))
      .doThroughputTest throughputCall.ctx = .callback := by decide
  unfold ApiCall.runPost
  rw [hroute]
  unfold ApiCall.callInterface
  simp only [hcall]
  rfl

/-- What `cJSON_Print` makes of the registration of a user with the name `errmsg`. -/
def registerText : CStr :=
  "\x7b\n\t\x22code\x22:\t0,\n\t\x22username\x22:\t\x22errmsg\x22,\n\t\x22uid\x22:\t2,\n\t\x22gid\x22:\t1000\n\x7d".toList

/-- The registration of that user. -/
def registerCall : ApiCall := .ofAdmin "/api/v1/user/register"
  "\x7b\x22username\x22:\x22errmsg\x22,\x22password\x22:\x22x\x22\x7d"
  { quietOps with
    parse := fun s =>
      if s = "\x7b\x22username\x22:\x22errmsg\x22,\x22password\x22:\x22x\x22\x7d".toList then
        some (.object [("username".toList, .string "errmsg".toList),
          ("password".toList, .string "x".toList)])
      else none
    print := fun
      | .object [("code", .number 0), ("username", .string _), ("uid", .number 2),
          ("gid", .number 1000)] => some registerText
      | _ => none }

/-- The user is registered, and the answer has the name in it. -/
theorem runPost_register : registerCall.runPost = ⟨[], some (.text registerText)⟩ := by
  have hroute : wtcoreapiParseHttpPostCmd registerCall.env.nodes registerCall.url =
      .user (some .register) := by decide
  unfold ApiCall.runPost
  rw [hroute]
  rfl

/-- The first is an error though nothing failed, the second is a success though
the commands failed, and the third is an error for its name. -/
theorem status_wrong :
    (resourcesCall.runGet = ⟨[], some .null⟩ ∧ getStatus .null = some (-1)) ∧
    (.call (.system Op.affinityScript.toList) ∈ throughputCall.runPost.errors ∧
      throughputCall.runPost.value = some (.text "success".toList) ∧
      postStatus (.text "success".toList) = some 0) ∧
    (registerCall.runPost = ⟨[], some (.text registerText)⟩ ∧
      postStatus (.text registerText) = some (-1)) ∧
    ¬ Ends GetRight [] resourcesCall.runGet ∧ ¬ throughputCall.runPost.Tells ∧
      ¬ registerCall.runPost.Tells := by
  have hscript : OpError.call (.system Op.affinityScript.toList) ∈
      throughputCall.env.failures Op.throughputCalls := by decide
  refine ⟨⟨runGet_resources, rfl⟩, ⟨?_, ?_, by decide⟩, ⟨runPost_register, by decide⟩, ?_, ?_, ?_⟩
  · rw [runPost_throughput]
    exact hscript
  · rw [runPost_throughput]
  · rw [runGet_resources]
    intro h
    exact absurd rfl (getRight_null.mp (h .null rfl))
  · rw [runPost_throughput]
    intro h
    have hnone : throughputCall.env.failures Op.throughputCalls = [] :=
      (postRight_text.mp (h _ rfl)).mp (by decide)
    rw [hnone] at hscript
    exact nomatch hscript
  · rw [runPost_register]
    intro h
    have htext := (postRight_text.mp (h _ rfl)).mpr rfl
    exact absurd htext (by decide)

/-- What `cJSON_Print` makes of a refusal of the parameters. -/
def refusalText : CStr :=
  "\x7b\n\t\x22errcode\x22:\t1,\n\t\x22errmsg\x22:\t\x22param error\x22\n\x7d".toList

/-- A login with a body that is no JSON. -/
def refusedLogin : ApiCall := .ofAdmin "/api/v1/user/login" "x"
  { quietOps with
    parse := fun _ => none
    print := fun
      | .object [("errcode", .number 1), ("errmsg", .string _)] => some refusalText
      | _ => none }

/-- It is told as an error. -/
theorem status_right_refusal :
    PrintsTexts refusedLogin.env.print ∧ refusedLogin.PostTold ∧ refusedLogin.runPost.Tells := by
  have hprint : PrintsTexts refusedLogin.env.print := by
    intro i s h
    unfold refusedLogin ApiCall.ofAdmin at h
    simp only at h
    split at h
    · obtain rfl : refusalText = s := Option.some.inj h
      rfl
    · exact nomatch h
  have hroute : wtcoreapiParseHttpPostCmd refusedLogin.env.nodes refusedLogin.url =
      .user (some .login) := by decide
  have htold : refusedLogin.PostTold := by
    unfold ApiCall.PostTold ApiCall.Calls
    rw [hroute]
    refine ⟨fun _ _ h => (nomatch h.1), ?_⟩
    rintro _ ⟨⟩
    exact nofun
  exact ⟨hprint, htold, (status_right_iff refusedLogin hprint).2.mpr htold⟩

end WtslCore
