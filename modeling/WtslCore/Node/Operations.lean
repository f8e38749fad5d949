/-
# The operations that change a node

The callbacks of the `POST` operations that set parameters of the node or make
it do something, as what they call and what they return. Each is right about
itself under a condition of its own: what it does not look at does not fail,
and where it answers with a text of the request, that text has no `errmsg` in
it.

Key definitions: `setNode`, `Op.setNodeBasicinfo`, `Op.doConnect`,
`Op.doTimeSync`, `Op.doThroughput`, `Op.configVap0Mac`, `Op.aclSetRules`,
`Op.doUpload`, `Op.doUpgrade`.
-/
import WtslCore.Node.Calls
import WtslCore.Node.FieldAccess

namespace WtslCore

open Noted

/-! ### What the setters of the node call -/

/-- The rows that the loop of `set_node` over `mcs_bound_table` visits: those
before the first MAC of 17 characters. Without one it leaves the table. -/
def mcsRows (env : OpEnv) : Option ℕ := env.mcsBoundTable.findIdx? fun mac => mac.length == 17

/-- `NODE_TYPE_SLB_G`. -/
def nodeTypeSlbG : Int32 := 0

/-- The calls of `set_node` to the driver. -/
def setNodeDriver (env : OpEnv) (p : NodeParams) (rows : ℕ) : List SlbFunc :=
  List.flatten
    [[.ifconfig false, .setChannel, .getBw],
      if env.call (.slb .getBw) 2 ≤ p.bw.toInt then [.setBw, .setTfcBw] else [.setTfcBw, .setBw],
      List.replicate rows .setMscBound,
      [.setCcStartPos, .setCellId, .setEssid, .setMibParams, .setSecAuthPwd],
      if p.type = nodeTypeSlbT then [.setSecExchCap] else [],
      [.setSecExchCap, .setRangeOpt, .setFisaEnable],
      if p.type = nodeTypeSlbG then [.setAcsEnable] else [],
      [.initNetBridge, .ifconfig true]]

/-- The calls of `set_node`. -/
def setNodeCalls (env : OpEnv) (p : NodeParams) (rows : ℕ) : List Callee :=
  (setNodeDriver env p rows).map .slb ++
    ([.syncIpToJsCfg, .slb .getWtVapInterfaceCount, .slb .setTxPower, .configGetInt "TYPE".toList] ++
      if env.savedType ≠ p.type then [.system "reboot".toList] else [])

/-- `set_node`. -/
def OpEnv.setNode (env : OpEnv) (p : NodeParams) : Op Unit :=
  match mcsRows env with
  | none => undefined
  | some rows => env.runAll (setNodeCalls env p rows)

/-- `config_set` and `config_set_int`, for each of the pairs. -/
def configSets (pairs : List (CStr × CStr)) : List Callee := pairs.map fun kv => .configSet kv.1

/-- The bandwidths and the frame of the range tests, and the throughput test. -/
def rangeCalls (last : List SlbFunc) : List Callee :=
  List.map Callee.slb
    ([.ifconfig false, .setChannel, .setBw, .setTfcBw, .setMibParams] ++ last ++ [.ifconfig true])

/-- `iwpriv wt_vap0 <kind> "<words>"`. -/
def iwpriv (kind : String) (words : CStr) : CStr :=
  "iwpriv ".toList ++ (netVapName ++ ' ' :: (kind.toList ++ (" \x22".toList ++ (words ++ ['\x22']))))

/-- The end of the operations that change the record: the list is updated from it. -/
def OpEnv.updateList (env : OpEnv) (answer : String) : Op Ptr := do
  let ret ← env.run .updateWtslNodeBasicinfo
  if ret ≠ 0 then return .null
  else return .text answer.toList

namespace Op

section

variable (env : OpEnv) (data : List Char)

/-! ### The parameters of the node -/

/-- `wtsl_core_set_node_basicinfo`. -/
def setNodeBasicinfo : Op Ptr :=
  env.withBody data fun root => do
    let p ← copied (setnodeAssign root env.params)
    env.setNode p
    env.runAll (configSets (setnodePairs p))
    let _ ← env.run .renameLog
    env.updateList "setnode_success"

/-- `wtsl_core_set_node_advinfo`. -/
def setNodeAdvinfo : Op Ptr :=
  env.withBody data fun root => do
    let p := advinfoAssign root env.params
    env.setNode p
    env.runAll (configSets (intPairs (advinfoInts p)))
    env.updateList "set_advinfo_success"

/-- What follows an attempt to join, whatever became of it. -/
def joinedCalls : List Callee :=
  [.slb .getChannel, .slb .getBw, .slb .getTfcBw, .configSet "CHANNEL".toList,
    .configSet "BW".toList, .configSet "TFC_BW".toList]

/-- `wtsl_core_do_connect`. -/
def doConnect : Op Ptr :=
  env.withBody data fun root => do
    let _ ← fieldString root "index"
    let ret ← env.run (.slb .tNodeStartJoin)
    env.runAll joinedCalls
    if ret ≠ 0 then return .null
    else return .text "\x7b\x22status\x22:\x22connected\x22\x7d".toList

/-- `wtsl_core_auto_join_net`; a flag that is missing is read. -/
def autoJoinNet : Op Ptr :=
  env.withBody data fun root =>
    match root.getObjectItem "aj_flag".toList with
    | none => undefined
    | some _ => do
      let _ ← env.run (.configSet "AUTO_JOIN_NET".toList)
      return .text "success".toList

/-- `wtsl_core_do_chswitch` and `wtsl_core_do_aifh`. -/
def switch (sw : Switch) : Op Ptr :=
  env.withBody data fun root => do
    let value := sw.requested root env.params
    if !sw.accepts value then reject .refused
    else do
      let _ ← env.run (.configSet sw.key.toList)
      let ret ← env.run (.system (sw.command value))
      if ret ≠ 0 then return .null
      else return .text "success".toList

/-! ### The device -/

/-- `wtsl_core_do_time_sync`. -/
def doTimeSync : Op Ptr :=
  env.withBody data fun root => do
    let timestr ← fieldString root "time"
    if env.validTime timestr then
      match dateCommand timestr with
      | .error _ => undefined
      | .ok cmd => do
        let ret ← env.run (.system cmd)
        if ret ≠ 0 then return .text "set time success".toList
        else do
          let _ ← env.run .renameLog
          return .text "set time success".toList
    else reject .refused

/-- `wtsl_core_do_reboot`. -/
def doReboot : Op Ptr :=
  env.withBody data fun root => do
    let username ← fieldString root "username"
    let timestr ← fieldString root "time"
    let tokenstr ← fieldString root "token"
    if !env.validTime timestr then reject .refused
    else if checkUserHasPermission username tokenstr timestr = 0 then do
      let _ ← env.run (.system "reboot".toList)
      return .null
    else reject .refused

/-- `wtsl_core_do_restore`. -/
def doRestore : Op Ptr := do
  let ret ← env.run (.system "rm /home/wt/env_config".toList)
  if ret ≠ 0 then return .null
  else do
    let _ ← env.run (.system "reboot".toList)
    return .text "success".toList

/-- The command that dumps the environment of the boot loader. -/
def dumpCommand : CStr := "nanddump -n -l 4096 /dev/mtd10 | strings > /tmp/enva.txt".toList

/-- The command that looks for the MAC in it; none is no error. -/
def grepCommand : CStr := "cat /tmp/enva.txt | grep \x22vap0_mac\x22".toList

/-- The commands that write it back with the MAC. -/
def flashCommands (mac : CStr) (found : Bool) : List CStr :=
  (if found then
    ["cat /tmp/enva.txt | strings | sed 's/^vap0_mac=.*/vap0_mac=".toList ++
        (mac ++ "/' > /tmp/enva_temp.txt".toList),
      "mv /tmp/enva_temp.txt /tmp/enva.txt".toList]
  else ["echo vap0_mac=".toList ++ (mac ++ " >> /tmp/enva.txt".toList)]) ++
  ["flash_erase /dev/mtd10 0 0".toList, "nandwrite -p /dev/mtd10 /tmp/enva.txt".toList]

/-- `wtsl_core_config_vap0_mac`. -/
def configVap0Mac : Op Ptr :=
  env.withBody data fun root =>
    match root.getObjectItem "vap0_mac".toList with
    | none => return .text "success".toList
    | some j => do
      let mac ← copied (strcpy 18 j.valuestring)
      let _ ← env.run (.system dumpCommand)
      let found ← env.ask (.system grepCommand)
      env.runAll ((flashCommands mac (found == 0)).map .system)
      return .text "success".toList

/-! ### The tests -/

/-- The script of `wtsl_core_do_throughput`. -/
def affinityScript : String := "/tmp/set_cpu_affinity.sh"

/-- What `wtsl_core_do_throughput` calls once the script is open. -/
def throughputCalls : List Callee :=
  .fwrite affinityScript :: .chmod affinityScript :: (List.map Callee.system
    [affinityScript.toList, "sysctl -w net.core.rmem_max=2097152".toList,
      "sysctl -w net.core.wmem_max=2097152".toList,
      "sysctl -w net.core.netdev_max_backlog=4096".toList,
      iwpriv "cfg" "rx_thread_switch on".toList,
      iwpriv "alg" "set_mcs_bound 00:00:00:00:00:00 6 30".toList] ++
    .slb .setTxPower :: rangeCalls [])

/-- `wtsl_core_do_throughput`: without its script it returns an integer. -/
def doThroughput : Op Ptr := do
  let fp ← env.run (.fopen affinityScript)
  if fp ≠ 0 then return .integer 1
  else do
    env.runAll throughputCalls
    return .text "success".toList

/-- `wtsl_core_do_shortrange`. -/
def doShortrange : Op Ptr := do
  env.runAll (rangeCalls [])
  env.updateList "do_shortrange_success"

/-- `wtsl_core_do_remoterange`. -/
def doRemoterange : Op Ptr := do
  env.runAll (rangeCalls [.setRangeOpt])
  env.updateList "do_remoterange_success"

/-- The commands of `wtsl_core_do_lowlatency`. -/
def lowlatencyCalls : List Callee :=
  List.map .system [iwpriv "cfg" "set_rtd_params 1 0 5001 5004".toList,
    iwpriv "cfg" "max_sf_res_req_en enable".toList,
    iwpriv "alg" "set_mcs_bound 00:00:00:00:00:00 0 12".toList]

/-- `wtsl_core_do_lowlatency`. -/
def doLowlatency : Op Ptr := do
  env.runAll lowlatencyCalls
  env.updateList "do_lowlatency_success"

/-- `wtsl_core_do_lowpow`. -/
def doLowpow : Op Ptr := env.updateList "do_lowpow_success"

/-! ### SLE -/

/-- What `sle_create_connection` calls. -/
def sleConnectCalls : List Callee := [.sle .defaultConnectionParamSet, .sle .connectRemoteDevice]

/-- `wtsl_core_sle_connect`. -/
def sleConnect : Op Ptr :=
  env.withBody data fun root => do
    let _ ← copied (copyField 18 root "mac" [])
    env.runAll sleConnectCalls
    return .text "success".toList

/-- The calls of `wtsl_core_set_sle_basicinfo`, field by field. -/
def sleBasicinfoCalls (root : Json) : List Callee :=
  (if (root.getObjectItem "sle_name".toList).isSome then [.configSet "SLE_NAME".toList] else []) ++
  (match root.getObjectItem "sle_enable".toList with
    | none => []
    | some j => [.configSet "SLE_ENABLE".toList,
        .sle (if Int32.ofInt j.valueint ≠ 0 then .enable else .disable)]) ++
  (match root.getObjectItem "sle_type".toList with
    | none => []
    | some j => .configSet "SLE_TYPE".toList ::
        (if env.params.sleType = Int32.ofInt j.valueint then [] else [.system "reboot".toList]))

/-- `wtsl_core_set_sle_basicinfo`. -/
def setSleBasicinfo : Op Ptr :=
  env.withBody data fun root => do
    let _ ← copied (copyField 32 root "sle_name" [])
    env.runAll (sleBasicinfoCalls env root)
    return .text "success".toList

/-- `wtsl_core_set_announce_id`: the items go to `int announce_id[20]`. -/
def setAnnounceId : Op Ptr :=
  env.withBody data fun root =>
    let size := match root.getObjectItemCaseSensitive "announce_id".toList with
      | some (.array items) => items.length
      | some (.object members) => members.length
      | _ => 0
    if 20 < size then undefined else return .text "success".toList

/-- The calls of `wtsl_core_set_sle_trans_config`: the port of TCP is saved if
it changes, that of UDP in any case. -/
def sleTransCalls (root : Json) : List Callee :=
  (match root.getObjectItem "trans_tcp_port".toList with
    | none => []
    | some j => if env.params.transTcpPort ≠ Int32.ofInt j.valueint then
        [.configSet "TRANS_TCP_PORT".toList] else []) ++
  (match root.getObjectItem "trans_udp_port".toList with
    | none => []
    | some _ => [.configSet "TRANS_UDP_PORT".toList])

/-- `wtsl_core_set_sle_trans_config`. -/
def setSleTransConfig : Op Ptr :=
  env.withBody data fun root => do
    env.runAll (sleTransCalls env root)
    return .text "success".toList

/-! ### QoS and ACL -/

/-- The commands of `qos_toggle_switch` that are to succeed; it clears the
objects of the device before, whether there are any or not. -/
def qosSwitchCommands (enable : Bool) : List CStr :=
  if env.qosEnabled = enable then []
  else if enable then env.snapshotRules
  else env.snapshotRules.filterMap delCmd

/-- `wtsl_core_qos_switch`; the toggle returns 0. -/
def qosSwitch : Op Ptr :=
  env.withBody data fun root => do
    match root.getObjectItemCaseSensitive "enabled".toList with
    | some (.bool enabled) => env.runAll ((qosSwitchCommands env enabled).map .system)
    | _ => pure ()
    return .text "qos_switch_success".toList

/-- The commands of `acl_toggle_switch`. -/
def aclSwitchCommands (enable : Bool) : List CStr :=
  if env.aclEnabled = enable then []
  else if enable then
    ["iptables -w -P FORWARD DROP".toList,
      "iptables -w -A FORWARD -m state --state ESTABLISHED,RELATED -j ACCEPT 2>/dev/null || true".toList]
  else ["iptables -w -F FORWARD".toList, "iptables -w -P FORWARD ACCEPT".toList]

/-- `wtsl_core_acl_switch`. -/
def aclSwitch : Op Ptr :=
  env.withBody data fun root => do
    match root.getObjectItem "enabled".toList with
    | some (.bool enabled) => env.popenAll (aclSwitchCommands env enabled)
    | _ => pure ()
    return .text "acl_switch_success".toList

/-- A printed answer that is copied to the body, cut to 8191 characters. Beyond
the body and its terminator nothing is defined. -/
def answerInto (item : Item) : Op Ptr :=
  match env.print item with
  | none => undefined
  | some s =>
    if data.length < (s.take 8191).length then undefined
    else if s.length < 8192 then return .text (s.take 8191)
    else do
      note .tooLong
      return .text (s.take 8191)

/-- `wtsl_core_acl_set_rules`; whatever becomes of the command, there is an answer. -/
def aclSetRules : Op Ptr :=
  env.withBody data fun root =>
    match wtslCoreAclSetRules root, aclSetAnswer env.toCallEnv root with
    | some cmd, some item => do
      let _ ← env.popened (cmdText cmd)
      answerInto env data item
    | _, _ => undefined

/-- The command of `wtsl_core_qos_set_rules`. -/
def qosSetCommand (root : Json) : Option CStr := do
  let action ← stringOr (root.getObjectItem "action".toList) "show"
  let objType ← stringOr (root.getObjectItem "type".toList) "qdisc"
  let cmd ← tcCommandOn env.qosDevice action objType root
  return cmdText cmd

/-- `wtsl_core_qos_set_rules`; a command that is too long does not run. -/
def qosSetRules : Op Ptr :=
  env.withBody data fun root =>
    match qosSetCommand env root, qosSetAnswer env.toCallEnv root with
    | some cmd, some item => do
      if cmdLen + 8 ≤ cmd.length + 5 then note .refused
      else
        let _ ← env.popened (cmd ++ " 2>&1".toList)
      answerInto env data item
    | _, _ => undefined

/-! ### The firmware -/

/-- The file of an upload. -/
def upgradeBin : String := "/tmp/upgrade.bin"

/-- An answer that says what went wrong. -/
def errorText (message : String) : CStr :=
  "\x7b\x22status\x22:\x22error\x22,\x22message\x22:\x22".toList ++ (message.toList ++ "\x22\x7d".toList)

/-- An error that is answered with a text. -/
def complain (e : OpError) (message : String) : Op Ptr := do
  note e
  return .text (errorText message)

/-- A name and a string of an answer, as they are. -/
def member (name : String) (s : CStr) : CStr :=
  "\x22".toList ++ (name.toList ++ ("\x22:\x22".toList ++ (s ++ "\x22".toList)))

/-- `success_response` of the extraction. -/
def uploadText (header : FirmwareHeader) : CStr :=
  ('\x7b' :: ([','].intercalate [member "status" "success".toList,
    member "message" "Firmware uploaded and verified successfully".toList,
    member "version" header.version, member "type" header.firmwaretype,
    member "filename" header.filename, member "md5" header.md5sum,
    member "size" header.filesize] ++ ['\x7d'])).take 511

/-- What the extraction meets. -/
def uploadEnv : UploadEnv := { env.upload with parse := env.parse }

/-- The file once the body is written to it. -/
def uploaded : List Char := if env.call (.fwrite upgradeBin) 0 = 0 then data else env.upgradeBin

/-- `wtsl_core_do_upload`; what is written of the body is extracted. -/
def doUpload : Op Ptr := do
  let fp ← env.run (.fopen upgradeBin)
  if fp ≠ 0 then undefined
  else do
    let _ ← env.run (.fwrite upgradeBin)
    match parseJsonExtractFileHeader (uploadEnv env) (uploaded env data) with
    | .error _ => undefined
    | .ok (.error message, _) => complain .refused message
    | .ok (.success header, _) => do
      if env.upload.short.isSome then note (.call (.fwrite "/tmp/upgrade.tar.gz"))
      return .text (uploadText header)

/-- `success_response` of the upgrade: what the package held. -/
def upgradeText (header : FirmwareHeader) : CStr :=
  let app := "/tmp/upload_file/app"
  let libs := ["/libwtsl_core.so", "/libcjson.so", "/libmicrohttpd.so"].any fun lib =>
    env.access (app ++ lib)
  let submitted (what components remark : String) : CStr :=
    ("\x7b\x22status\x22:success\x22,".toList ++ ([','].intercalate
      [member "message" (what ++ " upgrade submitted").toList, member "version" header.version,
        member "type" header.firmwaretype, member "process" header.process,
        member "upgrade_components" components.toList, member "note" remark.toList] ++
      ['\x7d'])).take 1023
  if env.access "/tmp/upload_file/firmware_t67eff75a" then
    submitted "hi firmware files" "hi firmware ko files"
      "hi firmware ko files have been updated, no service restart required"
  else if env.access app && env.access "/tmp/upload_file/www" then
    if libs then
      submitted "Application and libraries and web files" "wtsl_app, shared libraries, web files"
        "Application upgrade running in background with libraries update"
    else
      submitted "Application and web files" "wtsl_app,web files"
        "Application upgrade running in background"
  else if env.access app then
    if libs then
      submitted "Application and libraries" "wtsl_app, shared libraries"
        "Application upgrade running in background with libraries update"
    else
      submitted "Application" "wtsl_app"
        "Application upgrade running in background as orphan process"
  else if env.access "/tmp/upload_file/www" then
    submitted "web files" "web files"
      "web files have been updated, no service restart required"
  else []

/-- The call that performs the upgrade on a host, and what is said if it fails. -/
def upgradeCall (header : FirmwareHeader) : Callee × String :=
  if header.hostinfo = "rk3568".toList then
    (.system "/tmp/AutoScripts_rk.sh rk upgrade".toList, "Upgrade process for rk3568 failed")
  else (.handleFirmwareUpgrade, "Upgrade process failed")

/-- A call whose failure is answered with a text. -/
def orComplain (c : Callee) (message : String) (k : Op Ptr) : Op Ptr := do
  let ret ← env.ask c
  if ret ≠ 0 then complain (.call c) message
  else k

/-- The header of the file is shorter than its array, or has a terminator. -/
def headerTerminated : Prop := env.upgradeBin.length < 1024 ∨ nul ∈ env.upgradeBin.take 1024

instance : Decidable (headerTerminated env) := inferInstanceAs (Decidable (_ ∨ _))

/-- `wtsl_core_do_upgrade`. The 1024 bytes of the header are read as a string
in an array of as many. -/
def doUpgrade : Op Ptr := do
  let fp ← env.run (.fopen upgradeBin)
  if fp ≠ 0 ∨ ¬ headerTerminated env then undefined
  else match readHeader env.parse (cstr (env.upgradeBin.take 1024)) with
    | .error message => complain .refused message
    | .ok root => do
      let header := firmwareHeader root
      orComplain env .platformVerify "Platform Architecture verify failed" <|
        orComplain env .extractAndVerifyFirmware "MD5 verification failed" <|
          orComplain env (upgradeCall header).1 (upgradeCall header).2 <|
            return .text (upgradeText env header)

end

variable {env : OpEnv} {es : List OpError} {q : Ptr → List OpError → Prop} {message : String}

theorem ends_complain {e : OpError} :
    Ends q es (complain e message) ↔ q (.text (errorText message)) (es ++ [e]) := ends_note.trans ends_pure

/-- A call that is answered for if it fails, and what follows if it does not. -/
theorem ends_orComplain {c : Callee} {k : Op Ptr} : Ends q es (orComplain env c message k) ↔
    (env.call c 0 ≠ 0 → q (.text (errorText message)) (es ++ [.call c])) ∧
      (env.call c 0 = 0 → Ends q es k) := by
  unfold orComplain
  rw [ends_ask]
  by_cases h : env.call c 0 = 0
  · rw [if_neg (not_not_intro h)]
    simp [h]
  · rw [if_pos h, ends_complain]
    simp [h]

end Op

end WtslCore
