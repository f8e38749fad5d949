/-
# What the node operations write into their buffer

An operation gets a buffer `data` of `size` bytes. Fifteen of them write an
answer there: a text that the JSON library prints from a tree of items, made
of the node, the device and the output of commands. Five compare the length
of the text with `size` and fill the buffer up with zeros, four cut the text
to 8192 bytes, whatever `size` is, and the others copy it as it is. All other
operations answer with texts of their own.

An operation that crashes on its way, on a NULL string or the stream of a
command that did not start, writes nothing.

Key definitions: `Item`, `CallEnv`, `showBss`, `viewUsers`, `aclAnswer`,
`qosAnswer`, `callbackWrites`.
-/
import WtslCore.Lib.Fgets
import WtslCore.Node.Manager
import WtslCore.Node.Params
import WtslCore.Slb.CmdLength
import WtslCore.Slb.QosSwitch

namespace WtslCore

open Shell

/-- A cJSON item that an operation creates. -/
inductive Item
  | bool (b : Bool)
  | number (n : ℤ)
  | string (s : CStr)
  | array (items : List Item)
  | object (members : List (String × Item))

/-- What `pclose` reports of a command. -/
inductive WaitStatus
  | exited (code : ℕ)
  | signaled
  | failed
  deriving DecidableEq, Repr

/-- A command that ran. -/
structure CommandRun where
  output : CStr
  status : WaitStatus

/-- The fields of `WTSLNodeBasicInfo` that are only answered. -/
structure NodeExtra where
  netManageIp : CStr
  logPort : ℤ
  autoJoinNetFlag : ℤ
  dhcpEnable : ℤ
  aifhEnable : ℤ

/-- `WTSLNodeAdvInfo`, as far as it is answered. -/
structure AdvInfo where
  devid : ℤ
  cellId : ℤ
  ccOffset : ℤ
  cpType : ℤ
  symbolType : ℤ
  sysmsgPeriod : ℤ
  sCfgIdx : ℤ
  secExchCap : ℤ
  secSecCap : ℤ
  femCheck : CStr
  chipTemperature : ℤ
  rangeOpt : ℤ
  lceMode : ℤ
  ppsEnable : ℤ
  slbCnt : ℤ
  glbCnt : ℤ
  wdsEnable : ℤ
  wdsMode : ℤ
  /-- `user_idx`, `ul_mcs` and `dl_mcs` of each user. -/
  userMcs : List (ℤ × ℤ × ℤ)
  realPow : ℤ
  expPow : ℤ
  /-- `user_idx`, `rssi`, `rsrp` and `snr` of each user. -/
  userRssi : List (ℤ × ℤ × ℤ × ℤ)

/-- What an operation meets: the JSON library, the commands, the state of the
device and what its local variables hold before they are written. -/
structure CallEnv where
  /-- `cJSON_Parse`. -/
  parse : CStr → Option Json
  /-- `cJSON_Print`; `none` is NULL. -/
  print : Item → Option CStr
  /-- The run of a command under `popen`; `none` if it did not start. -/
  popen : CStr → Option CommandRun
  nodes : Option (List Node)
  splink : SplinkInfo
  extra : Node → NodeExtra
  /-- What stands in memory behind the name of a node: the rest of its record,
  and what follows it. A string without terminator in its array goes on there. -/
  behind : Node → CStr
  advInfo : AdvInfo
  qosEnabled : Bool
  snapshotCount : ℤ
  qosDevice : CStr
  aclEnabled : Bool
  ruleCount : ℤ
  aclDevice : CStr
  /-- The text of `slb_node_get_hw_resources_info` before it is cut; `none` if
  `malloc` failed. -/
  hwResources : Option CStr
  /-- `role`, `num` and `uid` of `wtsl_core_parse_json_view_users` at its start. -/
  role : ℤ
  num : ℤ
  uid : ℤ
  /-- The static buffer of the `GET` requests, as the last one left it. -/
  recvBss : CStr

/-! ### The lines of a command -/

/-- The strings that `fgets` reads into `char line[n]`. -/
def fgetsLines (n : ℕ) (output : CStr) : List CStr := (fgetsAll (n - 1) output).map cstr

/-- `line[strcspn(line, "\n")] = 0`. -/
def cutNewline (line : CStr) : CStr := line.takeWhile fun c => c != '\n'

/-- The text occurs in the line. -/
def occurs (needle : String) (line : CStr) : Bool := (strstr needle.toList line).isSome

/-- `%s` of `sscanf`: a word, and what follows it. -/
def scanWord (s : CStr) : Option (CStr × CStr) :=
  let u := s.dropWhile isspace
  if u = [] then none else some (u.takeWhile fun c => !isspace c, u.dropWhile fun c => !isspace c)

/-- A literal text of `sscanf`: what follows it. -/
def scanLit (lit : String) (s : CStr) : Option CStr :=
  if lit.toList.isPrefixOf s then some (s.drop lit.toList.length) else none

/-! ### The scan -/

/-- One line of `show_bss`, the line `k` of the output counted from 0. -/
def bssItem (k : ℕ) (buffer : CStr) : Option Item := do
  let (name, s) ← scanWord buffer
  let (cellId, s) ← strtol s
  let (channel, s) ← strtol s
  let (rssi, s) ← strtol s
  let (domainCnt, _) ← strtol s
  if domainCnt = 0 then none
  else some (.object [("index", .number (k + 1 - 3)), ("name", .string name),
    ("cell_id", .number cellId), ("mac", .string "xx:xx:xx:xx:xx:xx".toList),
    ("channel", .number channel), ("rssi", .number rssi), ("ip", .string "xx:xx:xx:xx".toList)])

/-- `parse_show_bss_output`, before it is printed. -/
def showBss (env : CallEnv) : Option Item :=
  (env.popen ("iwpriv ".toList ++ (netVapName ++ " cfg show_bss".toList))).map fun run =>
    .array ((fgetsLines 128 run.output).zipIdx.filterMap fun (buffer, k) => bssItem k buffer)

/-! ### The users -/

/-- The variables of `wtsl_core_parse_json_view_users`. -/
structure UserScan where
  role : ℤ
  num : ℤ
  uid : ℤ
  macstr : CStr
  nodename : CStr

/-- `sscanf` of a line with `vap_role`: the numbers up to the first mismatch
are assigned. -/
def UserScan.readRole (st : UserScan) (buffer : CStr) : UserScan :=
  match (scanLit "vap_role[" buffer).bind strtol with
  | none => st
  | some (role, s) =>
    let num : Option (ℤ × CStr) := do
      let s ← scanLit "]," s
      let s ← scanLit "vap_state[" (s.dropWhile isspace)
      let (_, s) ← strtol s
      let s ← scanLit "]," s
      let s ← scanLit "user_num[" (s.dropWhile isspace)
      strtol s
    { st with role := role, num := (num.map Prod.fst).getD st.num }

/-- `sscanf` of the line of a user. -/
def UserScan.readUser (st : UserScan) (buffer : CStr) : UserScan :=
  match strtol buffer with
  | none => st
  | some (uid, s) => { st with uid := uid, macstr := ((scanWord s).map Prod.fst).getD st.macstr }

/-- `sprintf(nodename, "%s", pnode->...name)`, under the two roles. -/
def UserScan.readName (st : UserScan) (behind : Node → CStr) (pnode : Option Node) : UserScan :=
  match pnode with
  | some n => if st.role = 2 ∨ st.role = 1 then
      { st with nodename := n.info.basicInfo.nameText (behind n) } else st
  | none => st

/-- What the node of a user adds to its item. -/
def UserScan.nodeMembers (st : UserScan) (own : BasicInfo) (behind : Node → CStr) :
    Option Node → List (String × Item)
  | none => []
  | some n =>
    let b := n.info.basicInfo
    if st.role = 2 then
      [("ip", .string (b.ipText (behind n))), ("version", .string (b.versionText (behind n))),
        ("rssi", .number b.rssi), ("bw", .number b.bw), ("tfc_bw", .number b.tfcBw),
        ("type", .number 1)]
    else if st.role = 1 then
      [("ip", .string (b.ipText (behind n))), ("version", .string (b.versionText (behind n))),
        ("type", .number 0), ("rssi", .number own.rssi), ("bw", .number own.bw),
        ("tfc_bw", .number own.tfcBw)]
    else []

/-- The item of a user. -/
def UserScan.item (st : UserScan) (own : BasicInfo) (behind : Node → CStr) (pnode : Option Node) :
    Item :=
  .object ([("uid", .number st.uid), ("mac", .string st.macstr)] ++ st.nodeMembers own behind pnode ++
    [("name", .string st.nodename)])

/-- The loop over `num` users. After the last line the user before is read again. -/
def scanUsers (nodes : List Node) (own : BasicInfo) (behind : Node → CStr) :
    ℕ → UserScan → List CStr → List Item
  | 0, _, _ => []
  | n + 1, st, lines =>
    let st := match lines with
      | [] => st
      | buffer :: _ => st.readUser buffer
    let pnode := findWtslNodeByMac nodes st.macstr
    let st := st.readName behind pnode
    st.item own behind pnode :: scanUsers nodes own behind n st lines.tail

/-- The loop over the lines, which ends with the first table of users. -/
def scanLines (nodes : List Node) (own : BasicInfo) (behind : Node → CStr) (st : UserScan) :
    List CStr → List Item
  | [] => []
  | buffer :: lines =>
    let st := if occurs "vap_role" buffer then st.readRole buffer else st
    if occurs "uid mac_addr" buffer then scanUsers nodes own behind st.num.toNat st lines
    else scanLines nodes own behind st lines

/-- `wtsl_core_parse_json_view_users`, before it is printed. -/
def viewUsers (env : CallEnv) (nodes : List Node) : Option Item :=
  (env.popen ("iwpriv ".toList ++ (netVapName ++ " cfg view_users".toList))).map fun run =>
    .array (scanLines nodes env.splink.basicInfo env.behind ⟨env.role, env.num, env.uid, [], []⟩
      (fgetsLines 128 run.output))

/-! ### The rules -/

/-- The rules `iptables -S` lists, without the policy. -/
def ruleLines (run : CommandRun) : List Item :=
  ((fgetsLines 1024 run.output).filter fun line => !"-P".toList.isPrefixOf line).map
    fun line => .string (cutNewline line)

/-- The lines of `tc -s <what> show dev <dev>` that are not empty. -/
def tcLines (env : CallEnv) (what : String) : Item :=
  match env.popen (("tc -s ".toList ++ (what.toList ++ (" show dev ".toList ++ env.qosDevice))).take 1023) with
  | none => .array []
  | some run => .array ((((fgetsLines 512 run.output).map cutNewline).filter
      fun line => !line.isEmpty).map Item.string)

/-- `ex_command` of the ACL: the command succeeds. A command ended by a signal
has no exit code, so `WEXITSTATUS` of it is 0. -/
def aclExCommand : Option CommandRun → Bool
  | none => false
  | some run =>
    match run.status with
    | .exited code => code = 0
    | .signaled => true
    | .failed => false

/-- The answer of `acl_handle_request`. -/
def aclAnswer (env : CallEnv) (action chain : CStr) (cmd : List Piece) : Item :=
  if action = "list".toList ∨ action = "get".toList then
    match env.popen (cmdText cmd) with
    | none => .object [("error", .string "Failed to execute iptables".toList)]
    | some run => .object [("rules", .array (ruleLines run))]
  else if aclExCommand (env.popen (cmdText cmd)) then
    .object [("success", .bool true), ("action", .string action), ("chain", .string chain),
      ("message", .string "Operation successful".toList)]
  else .object [("success", .bool false), ("error", .string "Command execution failed".toList)]

/-- The answer of `wtsl_core_acl_set_rules` to a request; `none` if it reads a
NULL string or outgrows the command. -/
def aclSetAnswer (env : CallEnv) (root : Json) : Option Item := do
  let action ← stringOr (root.getObjectItem "action".toList) "list"
  let chain ← stringOr (root.getObjectItem "chain".toList) "FORWARD"
  let cmd ← aclHandleRequest action chain root
  some (aclAnswer env action chain cmd)

/-- The lines collected in `char out_buf[n]`; one that does not fit is left out. -/
def collectLines (n : ℕ) (lines : List CStr) : CStr :=
  lines.foldl (fun out line => if out.length + line.length < n then out ++ line else out) []

/-- The exit code, or -1 for a command that did not exit. -/
def WaitStatus.exitCode : WaitStatus → ℤ
  | .exited code => code
  | .signaled | .failed => -1

/-- `ex_command` of the QoS core with `char err_buf[512]`: `none` for success,
else the text in the buffer. -/
def qosExCommand (env : CallEnv) (cmd : CStr) : Option CStr :=
  if cmdLen + 8 ≤ cmd.length + 5 then some "Command too long".toList
  else
    match env.popen (cmd ++ " 2>&1".toList) with
    | none => some "popen failed".toList
    | some run =>
      let out := collectLines 512 (fgetsLines 256 run.output)
      if run.status.exitCode = 0 then none
      else if out = [] then
        some ("Command failed with exit code ".toList ++ intText run.status.exitCode)
      else some out

/-- The answer to the outcome of a command. -/
def qosAnswer : Option CStr → Item
  | none => .object [("success", .bool true)]
  | some err => .object [("success", .bool false),
      ("error", .string (if err = [] then "tc command execution failed".toList else err))]

/-- The answer of `wtsl_core_qos_set_rules` to a request; `none` if it reads a
NULL string or outgrows the command. -/
def qosSetAnswer (env : CallEnv) (root : Json) : Option Item := do
  let action ← stringOr (root.getObjectItem "action".toList) "show"
  let objType ← stringOr (root.getObjectItem "type".toList) "qdisc"
  let cmd ← tcCommandOn env.qosDevice action objType root
  some (qosAnswer (qosExCommand env (cmdText cmd)))

/-! ### The items of a node -/

/-- The tree of `wtsl_core_get_all_nodes_info`. -/
def allNodesItem (behind : Node → CStr) (nodes : List Node) : Item :=
  .object [("nodes", .array ((List.range nodes.length).filterMap fun i =>
    (findWtslNodeById nodes i).map fun n => .object [("id", .number n.id),
      ("type", .number n.info.basicInfo.type),
      ("name", .string (n.info.basicInfo.nameText (behind n))),
      ("mac", .string (n.info.basicInfo.macText (behind n)))]))]

/-- `create_node_info_json`. -/
def createNodeInfoJson (x : NodeExtra) (behind : CStr) (node : Node) : Item :=
  let b := node.info.basicInfo
  .object [("id", .number node.id), ("name", .string (b.nameText behind)),
    ("mac", .string (b.macText behind)), ("bw", .number b.bw), ("tfc_bw", .number b.tfcBw),
    ("type", .number b.type), ("channel", .number b.channel), ("rssi", .number b.rssi),
    ("ip", .string (b.ipText behind)), ("version", .string (b.versionText behind)),
    ("net_manage_ip", .string x.netManageIp), ("log_port", .number x.logPort),
    ("aj_flag", .number x.autoJoinNetFlag)]

/-- `create_node_advinfo_json`, after `sync_advinfo`. -/
def createNodeAdvinfoJson (adv : AdvInfo) (x : NodeExtra) (node : Node) : Item :=
  .object ([("id", .number node.id), ("devid", .number adv.devid), ("cell_id", .number adv.cellId),
      ("cc_spos", .number adv.ccOffset), ("cp_type", .number adv.cpType),
      ("symbol_type", .number adv.symbolType), ("sysmsg_period", .number adv.sysmsgPeriod),
      ("s_cfg_idx", .number adv.sCfgIdx), ("sec_exch_cap", .number adv.secExchCap),
      ("sec_sec_cap", .number adv.secSecCap), ("fem_check", .string adv.femCheck),
      ("chip_temperature", .number adv.chipTemperature), ("DHCP_enable", .number x.dhcpEnable),
      ("range_opt", .number adv.rangeOpt)] ++
    (if node.info.basicInfo.type = 0 then
      [("lce_mode", .number adv.lceMode), ("acs_enable", .number x.aifhEnable)] else []) ++
    [("pps_switch", .number adv.ppsEnable),
      ("slb_timestamp", .object [("slb_cnt", .number adv.slbCnt), ("glb_cnt", .number adv.glbCnt)]),
      ("wds", .object [("wds_enable", .number adv.wdsEnable), ("wds_mode", .number adv.wdsMode)]),
      ("view_mcs", .object [("data", .array (adv.userMcs.map fun (idx, ul, dl) =>
        .object [("user_idx", .number idx), ("ul_mcs", .number ul), ("dl_mcs", .number dl)]))]),
      ("real_power", .object [("real_pow", .number adv.realPow), ("exp_pow", .number adv.expPow)]),
      ("rssi", .object [("data", .array (adv.userRssi.map fun (idx, rssi, rsrp, snr) =>
        .object [("user_idx", .number idx), ("rssi", .number rssi), ("rsrp", .number rsrp),
          ("snr", .number snr)]))])])

/-! ### The writes -/

/-- `strcpy(data, s)`. -/
def strcpyBytes (s : CStr) : List Char := s ++ [nul]

/-- A copy that is guarded by `size < info_len + 1` and pads with zeros, as
`strncpy` does. -/
def checkedBytes (size : ℕ) (s : CStr) : List Char :=
  if size < s.length + 1 then [] else s.take size ++ List.replicate (size - s.length) nul

/-- A copy that is cut to 8192 bytes. -/
def cutBytes (s : CStr) : List Char :=
  if s.length < 8192 then s ++ [nul] else s.take 8191 ++ [nul]

/-- The copy of a printed item, if there is one to print and `cJSON_Print` has
the memory. -/
def writeItem (env : CallEnv) (item : Option Item) (copy : CStr → List Char) : List Char :=
  ((item.bind env.print).map copy).getD []

/-- `sample_info`, the answer of a node that is not the first one. -/
def sampleInfo : CStr :=
  "\x7b\x22basic_info\x22:\x7b\x22id\x22:0,\x22name\x22:\x22Node1\x22,\x22mac\x22:\x2201:10:20:30:40:50\x22\x7d\x7d".toList

/-- `wtsl_core_show_bss`, and what `wtsl_core_start_scan` writes after the scan. -/
def wtslCoreShowBss (env : CallEnv) (node : Node) (size : ℕ) : List Char :=
  if node.id = 0 then writeItem env (showBss env) strcpyBytes else checkedBytes size sampleInfo

/-- `wtsl_core_get_hw_resources_usage`: the text is cut to 1024 bytes before. -/
def wtslCoreGetHwResourcesUsage (env : CallEnv) : List Char :=
  (env.hwResources.map fun s => strcpyBytes (s.take 1023)).getD []

/-- `wtsl_core_acl_get_rules`. -/
def wtslCoreAclGetRules (env : CallEnv) : List Char :=
  let rules (chain : String) : String × Item :=
    (chain, .array (((env.popen ("iptables -w -S ".toList ++ chain.toList)).map ruleLines).getD []))
  writeItem env (some (.object [rules "INPUT", rules "OUTPUT", rules "FORWARD"])) cutBytes

/-- `wtsl_core_qos_get_rules`. -/
def wtslCoreQosGetRules (env : CallEnv) : List Char :=
  writeItem env (some (.object [("qdiscs", tcLines env "qdisc"), ("classes", tcLines env "class"),
    ("filters", tcLines env "filter"), ("device", .string env.qosDevice), ("success", .bool true)]))
    cutBytes

/-- What the callback of an operation writes to `data`, from its start. -/
def callbackWrites (env : CallEnv) (func : NodeFunc) (node : Node) (data : CStr) (size : ℕ) :
    List Char :=
  match func with
  | .getAllNodesInfo => writeItem env (env.nodes.map (allNodesItem env.behind)) (checkedBytes size)
  | .getNodeBasicinfo =>
    writeItem env (some (createNodeInfoJson (env.extra node) (env.behind node) node))
      (checkedBytes size)
  | .getNodeAdvinfo =>
    writeItem env (some (createNodeAdvinfoJson env.advInfo (env.extra node) node)) (checkedBytes size)
  | .qosGetStatus =>
    writeItem env (some (.object [("enabled", .bool env.qosEnabled),
      ("snapshot_count", .number env.snapshotCount), ("device", .string env.qosDevice)]))
      (checkedBytes size)
  | .aclGetStatus =>
    writeItem env (some (.object [("enabled", .bool env.aclEnabled),
      ("rule_count", .number env.ruleCount), ("device", .string env.aclDevice),
      ("type", .string "iptables".toList)])) (checkedBytes size)
  | .getNodeConninfo => writeItem env (env.nodes.bind (viewUsers env)) strcpyBytes
  | .startScan | .showBssInfo => wtslCoreShowBss env node size
  | .getHwResourcesInfo => wtslCoreGetHwResourcesUsage env
  | .aclGetRules => wtslCoreAclGetRules env
  | .qosGetRules => wtslCoreQosGetRules env
  | .aclSetRules => writeItem env ((env.parse (cstr data)).bind (aclSetAnswer env)) cutBytes
  | .qosSetRules => writeItem env ((env.parse (cstr data)).bind (qosSetAnswer env)) cutBytes
  | _ => []

/-! ### How much they write -/

@[simp] theorem length_strcpyBytes (s : CStr) : (strcpyBytes s).length = s.length + 1 := by
  simp [strcpyBytes]

/-- A guarded copy keeps to its size. -/
theorem length_checkedBytes_le (size : ℕ) (s : CStr) : (checkedBytes size s).length ≤ size := by
  unfold checkedBytes
  split_ifs with h
  · exact Nat.zero_le size
  · rw [List.length_append, List.length_take, List.length_replicate]
    omega

/-- A cut copy writes the text or 8192 bytes. -/
@[simp] theorem length_cutBytes (s : CStr) : (cutBytes s).length = min (s.length + 1) 8192 := by
  unfold cutBytes
  split_ifs with h
  · rw [List.length_append, List.length_singleton]
    omega
  · rw [List.length_append, List.length_take, List.length_singleton]
    omega

/-- A printed item stays within a bound if its text, once copied, does. -/
theorem length_writeItem_le {env : CallEnv} {item : Option Item} {copy : CStr → List Char} {n : ℕ} :
    (writeItem env item copy).length ≤ n ↔
      ∀ i ∈ item, ∀ s ∈ env.print i, (copy s).length ≤ n := by
  unfold writeItem
  cases item with
  | none => simp
  | some i =>
    cases hp : env.print i with
    | none => simp [hp]
    | some s => simp [hp]

end WtslCore
