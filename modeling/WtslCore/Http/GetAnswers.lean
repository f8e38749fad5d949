/-
# What the answer to a GET depends on

All `GET` requests share one static buffer, and an answer that is in it is
returned without a look at who wrote it. So an answer is a matter of the
request and the device alone as long as the buffer is written before it is
returned (`get_answer_iff`). Two kinds of requests return it unwritten: those
that no branch supports but the chain of comparisons lets through
(`NoBranch`), and the table of users when there is no memory to print it; that
table is besides the one answer that the stack gets into
(`scanLines_determined_iff`).

The history of a buffer is a list of `GET` requests, each with the device it
met; a request without a defined outcome ends it.

Key definitions: `GetCall`, `getCallback`, `serveGet`, `SameAnswer`,
`NoBranch`, `AnswersItself`.
Key theorems: `getNodes_stale_iff`, `getCmd_stale_iff`, `nul_mem_writes`,
`get_answer_iff`.
-/
import WtslCore.Http.ResponseBuffer
import WtslCore.Http.Routing
import WtslCore.Lib.Run
import WtslCore.Node.ViewUsers

namespace WtslCore

open Runs

/-- `sle_seek_result_info_t`, as far as it is answered. -/
structure SeekResult where
  rssi : ℤ
  addr : Fin 6 → UInt8

/-- The SLE side of a device, as far as it is answered. -/
structure SleInfo where
  /-- `seek_result_info`, up to `scan_num`. -/
  seekResults : List SeekResult
  /-- The same after the scan that `do_sle_scan` starts. -/
  scanned : List SeekResult
  /-- `mac` and `conn_id` of the connected entries of `connect_manage`. -/
  connections : List (CStr × ℤ)
  sleType : ℤ
  sleName : CStr
  sleEnable : ℤ
  transTcpPort : ℤ
  transUdpPort : ℤ

/-- `%02x` of a byte. -/
def hexByte (b : UInt8) : CStr := [Nat.digitChar (b.toNat / 16), Nat.digitChar (b.toNat % 16)]

/-- The six bytes of an address, with colons between them. -/
def addrText (addr : Fin 6 → UInt8) : CStr :=
  [':'].intercalate ((List.finRange 6).map fun i => hexByte (addr i))

/-- The tree of `wtsl_core_sle_show_bss`. -/
def sleShowBss (found : List SeekResult) : Item :=
  .array (found.map fun r => .object [("rssi", .number r.rssi), ("mac", .string (addrText r.addr))])

/-- The tree of `wtsl_core_sle_conninfo`. -/
def sleConninfo (sle : SleInfo) : Item :=
  .array (sle.connections.map fun (mac, connId) =>
    .object [("mac", .string mac), ("conn_id", .number connId)])

/-- The tree of `wtsl_core_get_sle_basicinfo`. -/
def sleBasicinfo (sle : SleInfo) (mac : CStr) : Item :=
  .object [("sle_type", .number sle.sleType), ("sle_name", .string sle.sleName),
    ("mac", .string mac), ("sle_enable", .number sle.sleEnable)]

/-- The tree of `wtsl_core_get_sle_trans_config`. -/
def sleTransConfig (sle : SleInfo) : Item :=
  .object [("trans_tcp_port", .number sle.transTcpPort), ("trans_udp_port", .number sle.transUdpPort)]

/-- The tree of `wtsl_core_acl_get_rules`. -/
def aclRules (env : CallEnv) : Item :=
  let rules (chain : String) : String × Item :=
    (chain, .array (((env.popen ("iptables -w -S ".toList ++ chain.toList)).map ruleLines).getD []))
  .object [rules "INPUT", rules "OUTPUT", rules "FORWARD"]

/-- The tree of `wtsl_core_qos_get_rules`. -/
def qosRules (env : CallEnv) : Item :=
  .object [("qdiscs", tcLines env "qdisc"), ("classes", tcLines env "class"),
    ("filters", tcLines env "filter"), ("device", .string env.qosDevice), ("success", .bool true)]

/-- What a callback returns. -/
inductive CallbackResult
  /-- Nothing: a NULL string or stream is read. -/
  | crash
  | null
  /-- The buffer it was given. -/
  | data
  | text (s : CStr)

/-- A printed item that is copied under `size < info_len + 1`. -/
def checkedResult (env : CallEnv) (size : ℕ) (item : Item) : CallbackResult :=
  match env.print item with
  | none => .crash
  | some s => if size < s.length + 1 then .null else .data

/-- A printed item that is copied as it is, or cut. -/
def copiedResult (env : CallEnv) (item : Option Item) : CallbackResult :=
  match item.bind env.print with
  | none => .crash
  | some _ => .data

/-- A printed item that is returned. -/
def textResult (env : CallEnv) (item : Item) : CallbackResult :=
  match env.print item with
  | none => .null
  | some s => .text s

/-- What the callback of a `GET` operation returns. `get_hw_resources_info`
returns the integer 0 of the parser as a pointer. -/
def getCallback (env : CallEnv) (sle : SleInfo) (func : NodeFunc) (node : Node) (size : ℕ) :
    CallbackResult :=
  match func with
  | .getAllNodesInfo =>
    match env.nodes with
    | none => .null
    | some nodes => checkedResult env size (allNodesItem env.behind nodes)
  | .getNodeBasicinfo => checkedResult env size (createNodeInfoJson (env.extra node) (env.behind node) node)
  | .getNodeAdvinfo =>
    checkedResult env size (createNodeAdvinfoJson env.advInfo (env.extra node) node)
  | .qosGetStatus =>
    checkedResult env size (.object [("enabled", .bool env.qosEnabled),
      ("snapshot_count", .number env.snapshotCount), ("device", .string env.qosDevice)])
  | .aclGetStatus =>
    checkedResult env size (.object [("enabled", .bool env.aclEnabled),
      ("rule_count", .number env.ruleCount), ("device", .string env.aclDevice),
      ("type", .string "iptables".toList)])
  | .getNodeConninfo =>
    match env.nodes with
    | none => .null
    -- the table that is printed is not copied if there is none
    | some nodes => if (viewUsers env nodes).isNone then .crash else .data
  | .startScan | .showBssInfo =>
    if node.id = 0 then copiedResult env (showBss env)
    else if size < sampleInfo.length + 1 then .null
    else .data
  | .getHwResourcesInfo => if env.hwResources.isNone then .crash else .null
  | .aclGetRules => copiedResult env (some (aclRules env))
  | .qosGetRules => copiedResult env (some (qosRules env))
  | .doSleScan => textResult env (sleShowBss sle.scanned)
  | .getSleScanResult => textResult env (sleShowBss sle.seekResults)
  | .getSleConninfo => textResult env (sleConninfo sle)
  | .getSleBasicinfo => textResult env (sleBasicinfo sle env.splink.macStr)
  | .getSleTransConfig => textResult env (sleTransConfig sle)
  | _ => .null

/-- A `GET` request and what it meets. -/
structure GetCall where
  url : CStr
  authHdr : Option CStr
  env : CallEnv
  sle : SleInfo
  ctx : UserContext

/-- The request makes the callback of `func` run on `node`. -/
def GetCall.Runs (c : GetCall) (func : NodeFunc) (node : Node) : Prop :=
  requestHandler c.env.nodes .get c.url c.authHdr false = .call func node ∧
    interfaceWrapper c.env.splink node func c.ctx = .callback

/-- The answer: an error, or a text with the status of a success. -/
inductive GetAnswer
  | error
  | success (text : CStr)
  deriving DecidableEq

/-- What becomes of the buffer and of the result of a callback that wrote `w`.
Beyond the buffer nothing is defined. -/
def finishGet (buf w : List Char) (result : CallbackResult) : Option (GetAnswer × List Char) :=
  if buf.length < w.length then none
  else
    let recvBss := w ++ buf.drop w.length
    match result with
    | .crash => none
    | .null => some (.error, recvBss)
    | .data => some (.success (cstr recvBss), recvBss)
    | .text s => some (.success s, recvBss)

/-- A `GET` with the buffer as the last one left it: the answer, and the buffer
after it. A remote node answers NULL. -/
def serveGet (buf : List Char) (c : GetCall) : Option (GetAnswer × List Char) :=
  match requestHandler c.env.nodes .get c.url c.authHdr false with
  | .fault => none
  | .error | .noRoute | .user _ => some (.error, buf)
  | .stale => some (.success (cstr buf), buf)
  | .call func node =>
    match interfaceWrapper c.env.splink node func c.ctx with
    | .denied | .remote => some (.error, buf)
    | .callback => finishGet buf (callbackWrites c.env func node buf buf.length)
        (getCallback c.env c.sle func node buf.length)

/-- `static char recv_bss[8192]={0}`. -/
def recvBssStart : List Char := List.replicate 8192 nul

/-- The buffer after a `GET`. -/
def getStep (buf : List Char) (c : GetCall) : Option (List Char) := (serveGet buf c).map Prod.snd

/-- The stack as an earlier call left it. -/
def CallEnv.withLocals (env : CallEnv) (l : Locals) : CallEnv :=
  { env with role := l.role, num := l.num, uid := l.uid }

def GetCall.withLocals (c : GetCall) (l : Locals) : GetCall := { c with env := c.env.withLocals l }

/-- The answer is the same, whatever was asked before. -/
def SameAnswer (c : GetCall) : Prop :=
  ∀ hist hist' buf buf', exec getStep recvBssStart hist = some buf →
    exec getStep recvBssStart hist' = some buf' → ∀ l l' : Locals,
      (serveGet buf (c.withLocals l)).map Prod.fst = (serveGet buf' (c.withLocals l')).map Prod.fst

/-- The paths of the node API that no branch supports and that are not
refused: four segments, or a sub-operation of `qos` or `acl` that is none. -/
def NoBranch (nodes : Option (List Node)) (urlList : List CStr) : Prop :=
  urlList.length = 4 ∨
    ∃ idStr funcStr funcWayStr node, urlList[3]? = some idStr ∧ urlList[4]? = some funcStr ∧
      urlList[5]? = some funcWayStr ∧ findNode nodes (atoi idStr) = some node ∧
      ((isQos funcStr = true ∧ getQosWays.find? (·.matches funcWayStr) = none) ∨
        (isQos funcStr = false ∧ isAcl funcStr = true ∧
          getAclWays.find? (·.matches funcWayStr) = none))

/-- The table of users of an output. -/
def usersItem (own : BasicInfo) (behind : Node → CStr) (nodes : List Node) (run : CommandRun) (l : Locals) : Item :=
  .array (scanLines nodes own behind l.scan (fgetsLines 128 run.output))

/-- There is memory to print the table of users, and the table can be read or
is too long for the buffer in any case. -/
def UsersSettled (env : CallEnv) : Prop :=
  ∀ nodes ∈ env.nodes, ∀ run ∈ env.popen ("iwpriv ".toList ++ (netVapName ++ " cfg view_users".toList)),
    (∀ l, env.print (usersItem env.splink.basicInfo env.behind nodes run l) ≠ none) ∧
      (UsersAnnounced (fgetsLines 128 run.output) ∨
        ∀ l, ∀ s ∈ env.print (usersItem env.splink.basicInfo env.behind nodes run l), 8192 ≤ s.length)

/-- The condition on a `GET`. -/
def AnswersItself (c : GetCall) : Prop :=
  (c.authHdr = none ∨ ¬ (isNodesUrl c.url = true ∧ (strtok '/' c.url)[2]? = some "nodes".toList ∧
      NoBranch c.env.nodes (strtok '/' c.url))) ∧
    ∀ node, c.Runs .getNodeConninfo node → UsersSettled c.env

/-- Different trees have different texts. -/
def PrintsApart (print : Item → Option CStr) : Prop :=
  ∀ i j s t, print i = some s → print j = some t → cstr s = cstr t → i = j

/-! ### The paths that no branch supports -/

section

variable {nodes : Option (List Node)} {urlList : List CStr}

theorem callFirst_stale_iff {entries : List FuncEntry} {s : CStr} {node : Node} {r : Routed} :
    callFirst entries s node r = .stale ↔ entries.find? (·.matches s) = none ∧ r = .stale := by
  unfold callFirst
  split <;> simp_all

theorem getNodes_stale_iff (h2 : urlList[2]? = some "nodes".toList) :
    wtslCoreGetNodesFunctions nodes urlList = .stale ↔ NoBranch nodes urlList := by
  unfold NoBranch
  rcases getNodes_cases nodes h2 with ⟨h3, heq⟩ | ⟨h4, heq⟩ | ⟨idStr, funcStr, h5, hid, hfunc, heq⟩ |
    ⟨idStr, funcStr, funcWayStr, h6, hid, hfunc, hway, heq⟩
  · rw [heq]
    refine iff_of_false ?_ (by simp [h3])
    cases findNode nodes 0 <;> simp
  · rw [heq]
    exact iff_of_true rfl (.inl h4)
  · rw [heq]
    refine iff_of_false ?_ (by simp [h5])
    cases findNode nodes (atoi idStr) with
    | none => simp
    | some node =>
      intro h
      exact nomatch (callFirst_stale_iff.mp h).2
  · rw [heq]
    simp only [hid, hfunc, hway, Option.some.injEq, show urlList.length ≠ 4 by omega, false_or,
      exists_eq_left', exists_and_left]
    cases findNode nodes (atoi idStr) with
    | none => simp
    | some node =>
      simp only [Option.some.injEq, exists_eq_left']
      by_cases hq : isQos funcStr = true
      · rw [if_pos hq, callFirst_stale_iff]
        simp [hq]
      · by_cases ha : isAcl funcStr = true
        · rw [if_neg hq, if_pos ha, callFirst_stale_iff]
          simp [hq, ha]
        · rw [if_neg hq, if_neg ha]
          simp [hq, ha]

/-- **The requests that are answered with the buffer as it is.** -/
theorem getCmd_stale_iff {url : CStr} : wtcoreapiParseHttpGetCmd nodes url = .stale ↔
    isNodesUrl url = true ∧ (strtok '/' url)[2]? = some "nodes".toList ∧
      NoBranch nodes (strtok '/' url) := by
  rcases getCmd_cases nodes url with ⟨hu, h2, heq⟩ | ⟨hno, heq⟩
  · rw [heq, getNodes_stale_iff h2]
    simp only [hu, h2, true_and]
  · rw [heq]
    exact iff_of_false nofun fun h => hno ⟨h.1, h.2.1⟩

theorem getHandler_stale_iff {url : CStr} {authHdr : Option CStr} :
    requestHandler nodes .get url authHdr false = .stale ↔ authHdr ≠ none ∧ isNodesUrl url = true ∧
      (strtok '/' url)[2]? = some "nodes".toList ∧ NoBranch nodes (strtok '/' url) := by
  cases authHdr with
  | none => exact iff_of_false nofun fun h => h.1 rfl
  | some auth =>
    show wtcoreapiParseHttpGetCmd nodes url = .stale ↔ _
    rw [getCmd_stale_iff]
    exact (and_iff_right (Option.some_ne_none auth)).symm

end

/-! ### What is written before it is returned -/

variable {env : CallEnv} {sle : SleInfo} {func : NodeFunc} {node : Node} {size : ℕ} {item : Item}
  {buf buf' w : List Char}

/-- What stands behind a terminator is not read. -/
theorem cstr_append_of_mem (h : nul ∈ w) (t : List Char) : cstr (w ++ t) = cstr w := by
  obtain ⟨u, v, rfl, hu⟩ := List.eq_append_cons_of_mem h
  rw [List.append_assoc, List.cons_append, cstr_append_nul hu, cstr_append_nul hu]

theorem nul_mem_checked (h : checkedResult env size item = .data) :
    nul ∈ writeItem env (some item) (checkedBytes size) := by
  unfold checkedResult at h
  unfold writeItem
  rw [Option.bind_some]
  cases hp : env.print item with
  | none =>
    rw [hp] at h
    exact nomatch h
  | some s =>
    rw [hp] at h
    simp only [Option.map_some, Option.getD_some] at h ⊢
    split_ifs at h with hsize
    rw [checkedBytes, if_neg hsize]
    exact List.mem_append_right _ (List.mem_replicate.mpr ⟨by omega, rfl⟩)

theorem nul_mem_copied {item : Option Item} {copy : CStr → List Char} (hcopy : ∀ s, nul ∈ copy s)
    (h : copiedResult env item = .data) : nul ∈ writeItem env item copy := by
  unfold copiedResult at h
  unfold writeItem
  cases hp : item.bind env.print with
  | none =>
    rw [hp] at h
    exact nomatch h
  | some s => exact hcopy s

theorem nul_mem_cutBytes (s : CStr) : nul ∈ cutBytes s := by
  unfold cutBytes
  split_ifs <;> simp

theorem textResult_ne_data : textResult env item ≠ .data := by
  unfold textResult
  cases env.print item <;> exact nofun

theorem null_ne_data : CallbackResult.null ≠ .data := fun h => CallbackResult.noConfusion h

/-- **The buffer is written before it is returned**, but for the table of users. -/
theorem nul_mem_writes (hf : func ≠ .getNodeConninfo) (data : CStr)
    (h : getCallback env sle func node size = .data) : nul ∈ callbackWrites env func node data size := by
  cases func with
  | getAllNodesInfo =>
    unfold getCallback at h
    cases hnodes : env.nodes with
    | none =>
      simp only [hnodes] at h
      exact absurd h null_ne_data
    | some nodes =>
      simp only [hnodes] at h
      show nul ∈ writeItem env (env.nodes.map (allNodesItem env.behind)) (checkedBytes size)
      rw [hnodes]
      exact nul_mem_checked h
  | getNodeBasicinfo | getNodeAdvinfo | qosGetStatus | aclGetStatus => exact nul_mem_checked h
  | getNodeConninfo => exact absurd rfl hf
  | startScan | showBssInfo =>
    show nul ∈ wtslCoreShowBss env node size
    change (if node.id = 0 then copiedResult env (showBss env)
      else if size < sampleInfo.length + 1 then .null else .data) = CallbackResult.data at h
    unfold wtslCoreShowBss
    by_cases hid : node.id = 0
    · rw [if_pos hid] at h ⊢
      exact nul_mem_copied (fun s => by simp [strcpyBytes]) h
    · rw [if_neg hid] at h ⊢
      split_ifs at h with hsize
      rw [checkedBytes, if_neg hsize]
      exact List.mem_append_right _ (List.mem_replicate.mpr ⟨by omega, rfl⟩)
  | getHwResourcesInfo =>
    change (if env.hwResources.isNone then CallbackResult.crash else .null) = .data at h
    split_ifs at h
  | aclGetRules | qosGetRules => exact nul_mem_copied nul_mem_cutBytes h
  | doSleScan | getSleScanResult | getSleConninfo | getSleBasicinfo | getSleTransConfig =>
    exact absurd h textResult_ne_data
  | _ => exact absurd h null_ne_data

/-- What is written does not depend on the stack, but for the table of users. -/
theorem callbackWrites_withLocals (hf : func ∈ getTargets) (hne : func ≠ .getNodeConninfo)
    (l : Locals) (data data' : CStr) :
    callbackWrites (env.withLocals l) func node data size = callbackWrites env func node data' size := by
  cases func with
  | getNodeConninfo => exact absurd rfl hne
  | aclSetRules | qosSetRules => exact absurd hf (by decide)
  | _ => rfl

theorem getCallback_withLocals (l : Locals) :
    getCallback (env.withLocals l) sle func node size = getCallback env sle func node size := by
  cases func with
  | getNodeConninfo =>
    unfold getCallback viewUsers
    simp only [CallEnv.withLocals, Option.isNone_map]
  | _ => rfl

theorem finishGet_answer {result : CallbackResult} (hlen : buf.length = buf'.length)
    (h : result = .data → nul ∈ w) :
    (finishGet buf w result).map Prod.fst = (finishGet buf' w result).map Prod.fst := by
  unfold finishGet
  rw [hlen]
  split_ifs
  · rfl
  · cases result with
    | crash | null | text s => rfl
    | data =>
      simp only [Option.map_some, cstr_append_of_mem (h rfl)]

/-! ### The buffer of a history -/

theorem length_finishGet {result : CallbackResult} {r : GetAnswer × List Char}
    (h : finishGet buf w result = some r) : r.2.length = buf.length := by
  unfold finishGet at h
  split_ifs at h with hlen
  have hnew : (w ++ buf.drop w.length).length = buf.length := by
    rw [List.length_append, List.length_drop]
    omega
  cases result with
  | crash => exact nomatch h
  | null | data | text s =>
    obtain rfl := Option.some.inj h
    exact hnew

theorem length_serveGet {c : GetCall} {r : GetAnswer × List Char} (h : serveGet buf c = some r) :
    r.2.length = buf.length := by
  unfold serveGet at h
  split at h
  · exact nomatch h
  · obtain rfl := Option.some.inj h
    rfl
  · obtain rfl := Option.some.inj h
    rfl
  · obtain rfl := Option.some.inj h
    rfl
  · obtain rfl := Option.some.inj h
    rfl
  · split at h
    · obtain rfl := Option.some.inj h
      rfl
    · obtain rfl := Option.some.inj h
      rfl
    · exact length_finishGet h

/-- The buffer keeps its length over a history. -/
theorem length_history {hist : List GetCall} (h : exec getStep recvBssStart hist = some buf) :
    buf.length = 8192 := by
  refine (Run.of_exec h).invariant (I := fun b => b.length = 8192) List.length_replicate ?_
  intro b c b' hb _ hs
  obtain ⟨r, hr, rfl⟩ := Option.map_eq_some_iff.mp hs
  exact (length_serveGet hr).trans hb

/-! ### The table of users -/

/-- The result of `get_node_conninfo` and what it writes, by the output of the command. -/
theorem conninfo_cases (env : CallEnv) (sle : SleInfo) (node : Node) (data : CStr) (size : ℕ)
    {nodes : List Node} (hnodes : env.nodes = some nodes) {run : CommandRun}
    (hrun : env.popen ("iwpriv ".toList ++ (netVapName ++ " cfg view_users".toList)) = some run)
    (l : Locals) :
    getCallback (env.withLocals l) sle .getNodeConninfo node size = .data ∧
      callbackWrites (env.withLocals l) .getNodeConninfo node data size =
        ((env.print (usersItem env.splink.basicInfo env.behind nodes run l)).map strcpyBytes).getD [] := by
  have husers : viewUsers (env.withLocals l) nodes =
      some (usersItem env.splink.basicInfo env.behind nodes run l) := congrArg (Option.map _) hrun
  have hnodes' : (env.withLocals l).nodes = some nodes := hnodes
  constructor
  · unfold getCallback
    simp only [hnodes', husers]
    rfl
  · show writeItem (env.withLocals l) ((env.withLocals l).nodes.bind (viewUsers (env.withLocals l)))
      strcpyBytes = _
    rw [hnodes', Option.bind_some, husers]
    rfl

/-- Without a list of nodes or a command there is no table. -/
theorem conninfo_none (sle : SleInfo) (node : Node) (size : ℕ)
    (h : env.nodes = none ∨
      env.popen ("iwpriv ".toList ++ (netVapName ++ " cfg view_users".toList)) = none) :
    getCallback env sle .getNodeConninfo node size ≠ .data ∧
      ∀ l data, callbackWrites (env.withLocals l) .getNodeConninfo node data size = [] := by
  have husers : ∀ l nodes, env.nodes = some nodes → viewUsers (env.withLocals l) nodes = none := by
    intro l nodes hnodes
    rcases h with h | h
    · exact nomatch h.symm.trans hnodes
    · exact congrArg (Option.map _) h
  constructor
  · unfold getCallback
    cases hnodes : env.nodes with
    | none => exact nofun
    | some nodes =>
      have hnone : viewUsers env nodes = none := husers ⟨env.role, env.num, env.uid⟩ nodes hnodes
      simp only [hnone]
      exact nofun
  · intro l data
    show writeItem (env.withLocals l) (env.nodes.bind (viewUsers (env.withLocals l))) strcpyBytes = []
    cases hnodes : env.nodes with
    | none => rfl
    | some nodes =>
      rw [Option.bind_some, husers l nodes hnodes]
      rfl

/-- A buffer that nothing was written to is answered as it is. -/
theorem finishGet_unwritten (buf : List Char) :
    (finishGet buf [] .data).map Prod.fst = some (.success (cstr buf)) := by
  unfold finishGet
  rw [List.length_nil, if_neg (Nat.not_lt_zero _), List.drop_zero, Option.map_some, List.nil_append]

/-- A printed table is answered, if it fits. -/
theorem finish_users {s : CStr} (hbuf : buf.length = 8192) :
    (finishGet buf (strcpyBytes s) .data).map Prod.fst =
      if 8192 ≤ s.length then none else some (.success (cstr s)) := by
  have hmem : nul ∈ strcpyBytes s := List.mem_append_right _ List.mem_cons_self
  have hcstr : cstr (strcpyBytes s) = cstr s := by
    by_cases hs : nul ∈ s
    · exact cstr_append_of_mem hs _
    · rw [strcpyBytes, cstr_append_nul hs, cstr_of_noNul hs]
  unfold finishGet
  rw [hbuf, length_strcpyBytes]
  by_cases hlen : 8192 ≤ s.length
  · rw [if_pos (by omega), if_pos hlen]
    rfl
  · rw [if_neg (by omega), if_neg hlen, Option.map_some, cstr_append_of_mem hmem, hcstr]

/-! ### Where a request ends up -/

theorem serveGet_stale {c : GetCall}
    (h : requestHandler c.env.nodes .get c.url c.authHdr false = .stale) (buf : List Char)
    (l : Locals) : serveGet buf (c.withLocals l) = some (.success (cstr buf), buf) := by
  have hr : requestHandler (c.withLocals l).env.nodes .get (c.withLocals l).url
      (c.withLocals l).authHdr false = .stale := h
  unfold serveGet
  rw [hr]

theorem serveGet_runs {c : GetCall} (h : c.Runs func node) (buf : List Char) (l : Locals) :
    serveGet buf (c.withLocals l) =
      finishGet buf (callbackWrites (c.env.withLocals l) func node buf buf.length)
        (getCallback (c.env.withLocals l) c.sle func node buf.length) := by
  have hr : requestHandler (c.withLocals l).env.nodes .get (c.withLocals l).url
      (c.withLocals l).authHdr false = .call func node := h.1
  have hc : interfaceWrapper (c.withLocals l).env.splink node func (c.withLocals l).ctx = .callback :=
    h.2
  unfold serveGet
  rw [hr]
  simp only [hc]
  rfl

theorem GetCall.Runs.mem {c : GetCall} (h : c.Runs func node) : func ∈ getTargets := by
  rcases requestHandler_call h.1 with ⟨-, hf⟩ | ⟨hm, -⟩
  · exact hf
  · exact nomatch hm

/-- **The buffer itself, a callback, or an answer that nothing else gets into.** -/
theorem serveGet_route (c : GetCall) :
    requestHandler c.env.nodes .get c.url c.authHdr false = .stale ∨
      (∃ func node, c.Runs func node) ∨
      ∃ a, ∀ buf l, (serveGet buf (c.withLocals l)).map Prod.fst = a := by
  cases hroute : requestHandler c.env.nodes .get c.url c.authHdr false with
  | stale => exact .inl rfl
  | call func node =>
    have hr : ∀ l, requestHandler (c.withLocals l).env.nodes .get (c.withLocals l).url
        (c.withLocals l).authHdr false = .call func node := fun _ => hroute
    cases hcall : interfaceWrapper c.env.splink node func c.ctx with
    | callback => exact .inr (.inl ⟨func, node, hroute, hcall⟩)
    | denied | remote =>
      refine .inr (.inr ⟨some .error, fun buf l => ?_⟩)
      have hc : interfaceWrapper (c.withLocals l).env.splink node func (c.withLocals l).ctx = _ := hcall
      unfold serveGet
      rw [hr]
      simp only [hc]
      rfl
  | fault =>
    refine .inr (.inr ⟨none, fun buf l => ?_⟩)
    have hr : requestHandler (c.withLocals l).env.nodes .get (c.withLocals l).url
        (c.withLocals l).authHdr false = .fault := hroute
    unfold serveGet
    rw [hr]
    rfl
  | error | noRoute | user route =>
    refine .inr (.inr ⟨some .error, fun buf l => ?_⟩)
    have hr : requestHandler (c.withLocals l).env.nodes .get (c.withLocals l).url
        (c.withLocals l).authHdr false = _ := hroute
    unfold serveGet
    rw [hr]
    rfl

/-! ### The condition is enough -/

theorem AnswersItself.same {c : GetCall} (h : AnswersItself c) : SameAnswer c := by
  intro hist hist' buf buf' hb hb' l l'
  have hlen := length_history hb
  have hlen' := length_history hb'
  rcases serveGet_route c with hstale | ⟨func, node, hruns⟩ | ⟨a, ha⟩
  · obtain ⟨hauth, hurl⟩ := getHandler_stale_iff.mp hstale
    exact absurd hurl (h.1.resolve_left hauth)
  · rw [serveGet_runs hruns, serveGet_runs hruns]
    by_cases hf : func = .getNodeConninfo
    · subst hf
      by_cases hnone : c.env.nodes = none ∨
          c.env.popen ("iwpriv ".toList ++ (netVapName ++ " cfg view_users".toList)) = none
      · obtain ⟨hres, hw⟩ := conninfo_none c.sle node buf.length hnone
        obtain ⟨-, hw'⟩ := conninfo_none c.sle node buf'.length hnone
        rw [hw, hw', getCallback_withLocals, getCallback_withLocals, hlen', ← hlen]
        exact finishGet_answer (hlen.trans hlen'.symm) fun heq => absurd heq hres
      rw [not_or] at hnone
      obtain ⟨nodes, hnodes⟩ := Option.ne_none_iff_exists'.mp hnone.1
      obtain ⟨run, hrun⟩ := Option.ne_none_iff_exists'.mp hnone.2
      obtain ⟨hprint, hread⟩ := h.2 node hruns nodes hnodes run hrun
      obtain ⟨hres, hw⟩ := conninfo_cases c.env c.sle node buf buf.length hnodes hrun l
      obtain ⟨hres', hw'⟩ := conninfo_cases c.env c.sle node buf' buf'.length hnodes hrun l'
      obtain ⟨s, hs⟩ := Option.ne_none_iff_exists'.mp (hprint l)
      obtain ⟨s', hs'⟩ := Option.ne_none_iff_exists'.mp (hprint l')
      rw [hres, hres', hw, hw', hs, hs', Option.map_some, Option.map_some, Option.getD_some,
        Option.getD_some, finish_users hlen, finish_users hlen']
      rcases hread with hread | hlong
      · have hsame := (scanLines_determined_iff nodes c.env.splink.basicInfo c.env.behind _).mpr hread l l'
        have hitem : usersItem c.env.splink.basicInfo c.env.behind nodes run l =
            usersItem c.env.splink.basicInfo c.env.behind nodes run l' := congrArg Item.array hsame
        rw [hitem, hs'] at hs
        rw [Option.some.inj hs]
      · rw [if_pos (hlong l s hs), if_pos (hlong l' s' hs')]
    · rw [getCallback_withLocals, getCallback_withLocals, hlen, hlen',
        callbackWrites_withLocals hruns.mem hf l buf [],
        callbackWrites_withLocals hruns.mem hf l' buf' []]
      exact finishGet_answer (hlen.trans hlen'.symm) (nul_mem_writes hf [])
  · rw [ha, ha]

/-! ### The condition is necessary -/

/-- What `cJSON_Print` makes of the status of a quiet device. -/
def statusText : CStr :=
  "\x7b\n\t\x22enabled\x22:\ttrue,\n\t\x22snapshot_count\x22:\t0,\n\t\x22device\x22:\t\x22wt_br0\x22\n\x7d".toList

/-- The status of the QoS, asked for by an administrator of a quiet device. -/
def statusCall : GetCall where
  url := "/api/v1/nodes/0/qos/status".toList
  authHdr := some "t".toList
  env := { quietDevice with
    print := fun
      | .object [("enabled", .bool true), ("snapshot_count", .number 0), ("device", .string _)] =>
        some statusText
      | _ => none }
  sle := ⟨[], [], [], 0, [], 0, 0, 0⟩
  ctx := adminContext

theorem cstr_checkedBytes {s : CStr} (hlen : s.length < size) (hs : nul ∉ s) (t : List Char) :
    cstr (checkedBytes size s ++ t) = s := by
  obtain ⟨i, hi⟩ : ∃ i, size - s.length = i + 1 := ⟨size - s.length - 1, by omega⟩
  rw [checkedBytes, if_neg (by omega), List.take_of_length_le (by omega), hi,
    List.replicate_succ, List.append_assoc, List.cons_append, cstr_append_nul hs]

theorem cstr_recvBssStart : cstr recvBssStart = [] := by
  rw [recvBssStart, cstr, List.replicate_succ, List.takeWhile_cons_of_neg (by simp)]

/-- A `GET` that leaves its answer in the buffer. -/
theorem exists_written : ∃ buf, exec getStep recvBssStart [statusCall] = some buf ∧
    cstr buf = statusText := by
  have hroute : requestHandler statusCall.env.nodes .get statusCall.url statusCall.authHdr false =
      .call .qosGetStatus (NodeState.alone.list.head (by decide)) := by decide
  have hcall : interfaceWrapper statusCall.env.splink (NodeState.alone.list.head (by decide))
      .qosGetStatus statusCall.ctx = .callback := by decide
  have hlen : recvBssStart.length = 8192 := List.length_replicate
  have hres : getCallback statusCall.env statusCall.sle .qosGetStatus
      (NodeState.alone.list.head (by decide)) 8192 = .data := by
    show (if 8192 < statusText.length + 1 then CallbackResult.null else .data) = .data
    exact if_neg (by decide)
  have hw : callbackWrites statusCall.env .qosGetStatus (NodeState.alone.list.head (by decide))
      recvBssStart 8192 = checkedBytes 8192 statusText := rfl
  have hserve : serveGet recvBssStart statusCall =
      finishGet recvBssStart (checkedBytes 8192 statusText) .data := by
    unfold serveGet
    rw [hroute]
    simp only [hcall, hlen, hres, hw]
  refine ⟨checkedBytes 8192 statusText ++ recvBssStart.drop (checkedBytes 8192 statusText).length,
    ?_, cstr_checkedBytes (by decide) (by decide) _⟩
  have hle := length_checkedBytes_le 8192 statusText
  unfold exec getStep
  rw [hserve, finishGet, if_neg (by omega)]
  rfl

/-- **The condition is exact**, for every request and everything it meets. -/
theorem get_answer_iff (c : GetCall) (hprint : PrintsApart c.env.print) :
    SameAnswer c ↔ AnswersItself c := by
  refine ⟨fun h => ?_, AnswersItself.same⟩
  obtain ⟨buf, hbuf, htext⟩ := exists_written
  have hnil : exec getStep recvBssStart [] = some recvBssStart := by rw [exec]
  have hne : cstr recvBssStart ≠ cstr buf := by
    rw [cstr_recvBssStart, htext]
    decide
  constructor
  · by_contra hno
    rw [not_or, not_not] at hno
    have hstale := getHandler_stale_iff.mpr hno
    have hsame := h [] [statusCall] _ _ hnil hbuf ⟨0, 0, 0⟩ ⟨0, 0, 0⟩
    rw [serveGet_stale hstale, serveGet_stale hstale] at hsame
    exact hne (GetAnswer.success.inj (Option.some.inj hsame))
  · intro node hruns nodes hnodes run hrun
    have hlen : recvBssStart.length = 8192 := List.length_replicate
    have hcases := fun buf => conninfo_cases c.env c.sle node buf buf.length hnodes hrun
    have hprinted : ∀ l, c.env.print (usersItem c.env.splink.basicInfo c.env.behind nodes run l) ≠ none := by
      intro l hnone
      -- the buffer is returned unwritten
      have hsame := h [] [statusCall] _ _ hnil hbuf l l
      rw [serveGet_runs hruns, serveGet_runs hruns, (hcases recvBssStart l).1,
        (hcases recvBssStart l).2, (hcases buf l).1, (hcases buf l).2, hnone, Option.map_none,
        Option.getD_none, finishGet_unwritten, finishGet_unwritten] at hsame
      exact hne (GetAnswer.success.inj (Option.some.inj hsame))
    refine ⟨hprinted, ?_⟩
    by_cases hlong : ∀ l, ∀ s ∈ c.env.print (usersItem c.env.splink.basicInfo c.env.behind nodes run l),
        8192 ≤ s.length
    · exact .inr hlong
    · left
      push Not at hlong
      obtain ⟨l₀, s₀, hs₀, hfit⟩ := hlong
      have hitem : ∀ l, usersItem c.env.splink.basicInfo c.env.behind nodes run l =
          usersItem c.env.splink.basicInfo c.env.behind nodes run l₀ := by
        intro l
        obtain ⟨s, hs⟩ := Option.ne_none_iff_exists'.mp (hprinted l)
        have hsame := h [] [] _ _ hnil hnil l l₀
        rw [serveGet_runs hruns, serveGet_runs hruns, (hcases recvBssStart l).1,
          (hcases recvBssStart l).2, (hcases recvBssStart l₀).1, (hcases recvBssStart l₀).2, hs,
          Option.mem_def.mp hs₀, Option.map_some, Option.map_some, Option.getD_some,
          Option.getD_some, finish_users hlen, finish_users hlen, if_neg (by omega : ¬ 8192 ≤ s₀.length)]
          at hsame
        split_ifs at hsame
        exact hprint _ _ _ _ hs hs₀ (GetAnswer.success.inj (Option.some.inj hsame))
      refine (scanLines_determined_iff nodes c.env.splink.basicInfo c.env.behind _).mp fun l l' => ?_
      exact Item.array.inj ((hitem l).trans (hitem l').symm)

/-- The users of a device whose command lists none, asked for by an administrator. -/
def noUsersCall : GetCall where
  url := "/api/v1/nodes/0/conninfo".toList
  authHdr := some "t".toList
  env := { quietDevice with
    print := fun
      | .array [] => some "[]".toList
      | _ => none }
  sle := ⟨[], [], [], 0, [], 0, 0, 0⟩
  ctx := adminContext

/-- The answer for an empty table of users is the same after every history. -/
theorem get_answer_no_users : PrintsApart noUsersCall.env.print ∧ SameAnswer noUsersCall := by
  have hapart : PrintsApart noUsersCall.env.print := by
    have honly : ∀ i s, noUsersCall.env.print i = some s → i = .array [] := by
      intro i s h
      unfold noUsersCall at h
      simp only at h
      split at h
      · rfl
      · exact nomatch h
    intro i j s t hi hj _
    exact (honly i s hi).trans (honly j t hj).symm
  refine ⟨hapart, (get_answer_iff noUsersCall hapart).mpr ⟨.inr ?_, ?_⟩⟩
  · rintro ⟨-, -, h⟩
    rcases h with h | ⟨idStr, funcStr, way, node, -, -, h, -⟩
    · revert h
      decide
    · revert h
      simp [show (strtok '/' noUsersCall.url)[5]? = none by decide]
  · intro node _ nodes _ run hrun
    obtain rfl : CommandRun.mk [] (.exited 0) = run := Option.some.inj hrun
    exact ⟨fun l h => (nomatch h), .inl fun n table h => (nomatch h)⟩

/-- A path that no branch supports, asked for without any permission. -/
def foreignCall : GetCall where
  url := "/api/v1/nodes/0/qos/foo".toList
  authHdr := some "t".toList
  env := quietDevice
  sle := ⟨[], [], [], 0, [], 0, 0, 0⟩
  ctx := .zero

/-- It is answered with what the administrator was told before. -/
theorem get_answer_leaks : ∃ buf, exec getStep recvBssStart [statusCall] = some buf ∧
    (serveGet recvBssStart foreignCall).map Prod.fst = some (.success []) ∧
    (serveGet buf foreignCall).map Prod.fst = some (.success statusText) ∧
    ¬ SameAnswer foreignCall := by
  obtain ⟨buf, hbuf, htext⟩ := exists_written
  have hstale : requestHandler foreignCall.env.nodes .get foreignCall.url foreignCall.authHdr false =
      .stale := by decide
  have hserve : ∀ b, (serveGet b foreignCall).map Prod.fst = some (.success (cstr b)) :=
    fun b => congrArg (Option.map Prod.fst) (serveGet_stale hstale b ⟨0, 0, 0⟩)
  refine ⟨buf, hbuf, ?_, ?_, fun h => ?_⟩
  · rw [hserve, cstr_recvBssStart]
  · rw [hserve, htext]
  · have hsame := h [] [statusCall] recvBssStart buf (by rw [exec]) hbuf ⟨0, 0, 0⟩ ⟨0, 0, 0⟩
    rw [serveGet_stale hstale, serveGet_stale hstale] at hsame
    have htexts := GetAnswer.success.inj (Option.some.inj hsame)
    rw [cstr_recvBssStart, htext] at htexts
    exact absurd htexts (by decide)

end WtslCore
