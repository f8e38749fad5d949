/-
# Node operations and their wrapper

`NodeFunc` is `NODE_FUNC_LIST` with the permission each entry requires. A call
of an operation goes through `interface_wrapper`: the caller's context is
checked against the entry, then the node is classified by its MAC as local
(the real callback runs) or remote (`call_remote_node_cmd`, which does
nothing).

The local MAC lies in a zero-filled array and is written with a terminator
(`SplinkInfo.mac_terminated`), so `strcasecmp` reads no more than the 18 bytes
of the other MAC, terminated or not.

Key definitions: `NodeFunc`, `NodeFunc.required`, `SplinkInfo`,
`checkIsRemoteNode`, `interfaceWrapper`.
Key theorems: `interfaceWrapper_callback`, `checkIsRemoteNode_eq`.
-/
import WtslCore.Node.List
import WtslCore.User.Context

namespace WtslCore

/-- The operations of `NODE_FUNC_LIST`, in the order of their indices. -/
inductive NodeFunc
  | getAllNodesInfo
  | getNodeBasicinfo
  | setNodeBasicinfo
  | doTimeSync
  | getNodeConninfo
  | startScan
  | doConnect
  | doUpload
  | doUpgrade
  | doReboot
  | getHwResourcesInfo
  | doAutojoinNetwork
  | showBssInfo
  | getNodeAdvinfo
  | setNodeAdvinfo
  | doDisconnect
  | doRestore
  | getNodeTraffic
  | doAifh
  | doChswitch
  | getAdaptivemcsinfo
  | getTraceinfo
  | getSecalg
  | setAdaptivemcs
  | doClearschmcs
  | getMcsboundinfo
  | setMcsbound
  | doThroughputTest
  | doShortrangeTest
  | doRemoterangeTest
  | doSleScan
  | getSleScanResult
  | doSleConnect
  | doLowpowTest
  | getSleBasicinfo
  | getSleConninfo
  | setSleBasicinfo
  | doLowlatencyTest
  | setSleAnnounceId
  | qosGetStatus
  | qosSwitch
  | qosGetRules
  | qosSetRules
  | configVap0Mac
  | setSleTransConfig
  | getSleTransConfig
  | aclGetStatus
  | aclSwitch
  | aclGetRules
  | aclSetRules
  deriving DecidableEq, Repr

/-- `global_perm_map[func].required_permission`. -/
def NodeFunc.required : NodeFunc → PermissionLevel
  | .getAllNodesInfo | .getNodeBasicinfo | .getNodeConninfo | .getHwResourcesInfo
  | .doAutojoinNetwork | .showBssInfo | .getNodeAdvinfo | .qosGetStatus | .qosGetRules
  | .aclGetStatus | .aclGetRules => .read
  | .doTimeSync | .startScan | .doConnect => .execute
  | .doUpgrade | .doReboot => .admin
  | .setNodeBasicinfo | .doUpload | .setNodeAdvinfo | .doDisconnect | .doRestore
  | .getNodeTraffic | .doAifh | .doChswitch | .getAdaptivemcsinfo | .getTraceinfo | .getSecalg
  | .setAdaptivemcs | .doClearschmcs | .getMcsboundinfo | .setMcsbound | .doThroughputTest
  | .doShortrangeTest | .doRemoterangeTest | .doSleScan | .getSleScanResult | .doSleConnect
  | .doLowpowTest | .getSleBasicinfo | .getSleConninfo | .setSleBasicinfo | .doLowlatencyTest
  | .setSleAnnounceId | .qosSwitch | .qosSetRules | .configVap0Mac | .setSleTransConfig
  | .getSleTransConfig | .aclSwitch | .aclSetRules => .write

/-- `SP_GNODE` and `SP_TNODE`. -/
inductive SplinkNodeType
  | gnode
  | tnode
  deriving DecidableEq, Repr

/-- `SPLINK_INFO`, the description of the local device. -/
structure SplinkInfo where
  nodeType : SplinkNodeType
  linkState : ℤ
  userNum : ℤ
  basicInfo : BasicInfo
  mac_terminated : nul ∈ basicInfo.mac.val

/-- A terminal with a MAC and nothing else set. -/
def SplinkInfo.blank (mac : CStr) (h : mac.length < 18) : SplinkInfo :=
  ⟨.tnode, 0, 0, .blank mac, by
    simp only [BasicInfo.blank, CharArray.ofStr, List.mem_append, List.mem_replicate]
    exact Or.inr ⟨by omega, trivial⟩⟩

/-- The local MAC as a string. -/
def SplinkInfo.macStr (g : SplinkInfo) : CStr := cstr g.basicInfo.mac.val

/-- `check_is_remote_node`, as its outcome: the MACs differ up to case. -/
def checkIsRemoteNode (g : SplinkInfo) (n : Node) : Bool :=
  !strcasecmpEq (cstr n.mac.val) g.macStr

/-- What `interface_wrapper` does with a call. -/
inductive CallOutcome
  | denied
  | remote
  | callback
  deriving DecidableEq, Repr

/-- `interface_wrapper` on a node of the list (its interface and permission
map are set when the node is created). -/
def interfaceWrapper (g : SplinkInfo) (n : Node) (func : NodeFunc) (ctx : UserContext) :
    CallOutcome :=
  if !checkPermissionUser ctx func.required then .denied
  else if checkIsRemoteNode g n then .remote
  else .callback

/-- Every operation requires something. -/
theorem NodeFunc.required_ne_none (func : NodeFunc) : func.required ≠ .none := by
  cases func <;> simp [NodeFunc.required]

/-- The callback runs exactly for a permitted call on a local node. -/
theorem interfaceWrapper_callback {g : SplinkInfo} {n : Node} {func : NodeFunc}
    {ctx : UserContext} : interfaceWrapper g n func ctx = .callback ↔
      checkPermissionUser ctx func.required = true ∧ checkIsRemoteNode g n = false := by
  unfold interfaceWrapper
  cases checkPermissionUser ctx func.required <;> cases checkIsRemoteNode g n <;> simp

theorem checkIsRemoteNode_eq {g : SplinkInfo} {n : Node} : checkIsRemoteNode g n = false ↔
    (cstr n.mac.val).map Char.toLower = g.macStr.map Char.toLower := by
  simp [checkIsRemoteNode, strcasecmpEq_iff]

end WtslCore
