/-
# The parameters of the local node

`global_node_info` holds the parameters a request can set. At start
`param_default` fills it in and `config_read` overwrites what the
configuration file has: one `config_get_int` or `config_get` for each
parameter, over its default. The addresses and the state of the link are not
parameters (`Node.Manager` has them).

Each read leaves the parameter as it is, or the file's value for its key
(`ConfigReader.getInt_eq`), so a file without keys leaves the defaults
(`configRead_missing`).

Key definitions: `NodeParams`, `AdvParams`, `paramDefault`, `ConfigReader`,
`configRead`.
Key theorems: `ConfigReader.getInt_eq`, `configRead_missing`.
-/
import WtslCore.Utils.CfgStore

namespace WtslCore

/-- `mib_params_t`. -/
structure MibParams where
  cpType : Int32
  symbolType : Int32
  sysmsgPeriod : Int32
  sCfgIdx : Int32
  deriving DecidableEq

/-- `WTSLNodeAdvInfo`, as far as it is set. -/
structure AdvParams where
  devid : Int32
  password : CStr
  cellId : Int32
  power : Int32
  ccOffset : Int32
  mibParams : MibParams
  secExchCap : Int32
  rangeOpt : Int32
  fisaEnable : Int32
  deriving DecidableEq

/-- `global_node_info`, as far as it is set. -/
structure NodeParams where
  nodeType : Int32
  bw : Int32
  tfcBw : Int32
  channel : Int32
  type : Int32
  ip : CStr
  name : CStr
  logPort : Int32
  netManageIp : CStr
  autoJoinNetMac : List CStr
  autoJoinNetFlag : Int32
  bridgeInterfaces : List CStr
  bridgeInterfaceNum : Int32
  dhcpEnable : Int32
  aifhEnable : Int32
  sleType : Int32
  sleName : CStr
  sleEnable : Int32
  transTcpPort : Int32
  transUdpPort : Int32
  advInfo : AdvParams
  deriving DecidableEq

/-- `NODE_TYPE_SLB_T`, which is also `SP_TNODE`. -/
def nodeTypeSlbT : Int32 := 1

/-- `NET_VAP_NAME`. -/
def netVapName : CStr := "wt_vap0".toList

/-- `param_default`, over the zeroed record. The advanced parameters come from
`malloc`, and `range_opt` keeps what was there. -/
def paramDefault (rangeOpt : Int32) : NodeParams where
  nodeType := nodeTypeSlbT
  bw := 20
  tfcBw := 20
  channel := 2479
  type := nodeTypeSlbT
  ip := "192.168.99.1".toList
  name := "tnode_000".toList
  logPort := 6025
  netManageIp := "192.168.1.1".toList
  autoJoinNetMac := [[], [], []]
  autoJoinNetFlag := 0
  bridgeInterfaces := [netVapName, "usb0".toList, "eth0".toList, [], [], [], []]
  bridgeInterfaceNum := 3
  dhcpEnable := 1
  aifhEnable := 0
  sleType := 6
  sleName := "sle_t001".toList
  sleEnable := 1
  transTcpPort := 9981
  transUdpPort := 9982
  advInfo :=
    { devid := 0
      password := "12345678".toList
      cellId := 9
      power := 250
      ccOffset := 0
      mibParams := { cpType := 0, symbolType := 2, sysmsgPeriod := 1, sCfgIdx := 2 }
      secExchCap := 0x21
      rangeOpt := rangeOpt
      fisaEnable := 0 }

/-- What `config_read` reads: the file, and what the stack holds in its calls. -/
structure ConfigReader where
  file : Option (List Char)
  stack : ℕ → GetStack

/-- `config_get_int(key, &old)`, the `i`-th call. -/
def ConfigReader.getInt (r : ConfigReader) (i : ℕ) (key : String) (old : Int32) : Int32 :=
  (configGetInt (r.stack i) key.toList old r.file).2

/-- `config_get(key, old, n)`, the `i`-th call. -/
def ConfigReader.getStr (r : ConfigReader) (i : ℕ) (key : CStr) (n : ℕ) (old : CStr) : CStr :=
  (configGet (r.stack i).junk key old n r.file).2

/-- `"BRIDGE_IF%d"`. -/
def bridgeIfKey (i : ℕ) : CStr := "BRIDGE_IF".toList ++ intText i

/-- `config_read`. A `bridge_interface_num` beyond the seven interfaces leads
out of their array. -/
def configRead (r : ConfigReader) (p : NodeParams) : Option NodeParams :=
  let num := r.getInt 15 "BRIDGE_IF_NUM" p.bridgeInterfaceNum
  let adv := p.advInfo
  let mib := adv.mibParams
  if 7 < num then none
  else some
    { nodeType := r.getInt 4 "TYPE" p.nodeType
      bw := r.getInt 0 "BW" p.bw
      tfcBw := r.getInt 1 "TFC_BW" p.tfcBw
      channel := r.getInt 2 "CHANNEL" p.channel
      type := r.getInt 3 "TYPE" p.type
      ip := r.getStr 10 "IP".toList 16 p.ip
      name := r.getStr 9 "NAME".toList 128 p.name
      logPort := r.getInt 5 "LOG_PORT" p.logPort
      netManageIp := r.getStr 11 "NET_MANAGE_IP".toList 16 p.netManageIp
      autoJoinNetMac := p.autoJoinNetMac.mapIdx fun i old =>
        r.getStr (12 + i) ("AUTO_JOIN_NET_MAC".toList ++ intText i) 18 old
      autoJoinNetFlag := r.getInt 6 "AUTO_JOIN_NET" p.autoJoinNetFlag
      bridgeInterfaces := p.bridgeInterfaces.mapIdx fun i old =>
        if (i : ℤ) < num.toInt then r.getStr (16 + i) (bridgeIfKey i) 32 old else old
      bridgeInterfaceNum := num
      dhcpEnable := r.getInt 7 "DHCP_ENABLE" p.dhcpEnable
      aifhEnable := r.getInt 8 "ACS_ENABLE" p.aifhEnable
      sleType := r.getInt 31 "SLE_TYPE" p.sleType
      sleName := r.getStr 32 "SLE_NAME".toList 32 p.sleName
      sleEnable := r.getInt 33 "SLE_ENABLE" p.sleEnable
      transTcpPort := r.getInt 34 "TRANS_TCP_PORT" p.transTcpPort
      transUdpPort := r.getInt 35 "TRANS_UDP_PORT" p.transUdpPort
      advInfo :=
        { adv with
          devid := r.getInt 23 "DEVID" adv.devid
          cellId := r.getInt 24 "CELL_ID" adv.cellId
          ccOffset := r.getInt 25 "CC_SPOS" adv.ccOffset
          mibParams :=
            { cpType := r.getInt 26 "CP_TYPE" mib.cpType
              symbolType := r.getInt 27 "SYMBOL_TYPE" mib.symbolType
              sysmsgPeriod := r.getInt 28 "SYSMSG_PERIOD" mib.sysmsgPeriod
              sCfgIdx := r.getInt 29 "S_CFG_IDX" mib.sCfgIdx }
          fisaEnable := r.getInt 30 "FISA_ENABLE" adv.fisaEnable } }

/-! ### What a read leaves -/

/-- **A read leaves the stored integer**, if there is one and the unset buffer
of the call holds a valid text. -/
theorem ConfigReader.getInt_eq (r : ConfigReader) (i : ℕ) {key : String} (hk : Plain key.toList)
    (old : Int32) : r.getInt i key old =
      if isValidValue (r.stack i).strValue then (storedInt r.file key.toList).getD old else old :=
  configGetInt_eq hk _ _ _

/-- A call that finds nothing leaves its argument. -/
theorem configGet_missing (junk : ℕ → Junk) (key buf : CStr) (n : ℕ) :
    (configGet junk key buf n none).2 = buf := by
  unfold configGet
  split_ifs
  · rfl
  · rfl

theorem configGetInt_missing (stack : GetStack) (key : CStr) (value : Int32) :
    (configGetInt stack key value none).2 = value := by
  have hresult : (configGet stack.junk key stack.strValue configMaxValueLength none).1 ≠ .success := by
    unfold configGet
    split_ifs
    · exact nofun
    · exact nofun
  unfold configGetInt
  split
  · rename_i h
    rw [h] at hresult
    exact absurd rfl hresult
  · rfl

/-- **Without a file the parameters stay.** -/
theorem configRead_missing (stack : ℕ → GetStack) (p : NodeParams) (h : p.bridgeInterfaceNum ≤ 7) :
    configRead ⟨none, stack⟩ p = some p := by
  have hint : ∀ i key old, ConfigReader.getInt ⟨none, stack⟩ i key old = old :=
    fun i key old => configGetInt_missing _ _ _
  have hstr : ∀ i key n old, ConfigReader.getStr ⟨none, stack⟩ i key n old = old :=
    fun i key n old => configGet_missing _ _ _ _
  have hnum : ¬ 7 < p.bridgeInterfaceNum := Int32.not_lt.mpr h
  have hlist : ∀ l : List CStr, (l.mapIdx fun _ old => old) = l :=
    fun l => List.ext_getElem? fun i => by simp
  unfold configRead
  simp only [hint, hstr, if_neg hnum, ite_self, hlist]

/-- A device that was never configured starts with the defaults. -/
theorem configRead_paramDefault (stack : ℕ → GetStack) (rangeOpt : Int32) :
    configRead ⟨none, stack⟩ (paramDefault rangeOpt) = some (paramDefault rangeOpt) :=
  configRead_missing stack _ (by decide : (3 : Int32) ≤ 7)

end WtslCore
