/-
# The commands for the driver

Every setting of the radio is a command line that `system` hands to the shell:
`iwpriv`, the device, a group, and one argument in double quotes, a keyword
with what is set. Each setter checks its value, prints the line into a buffer
and runs it. The line is to arrive as these four words (`driverCall_received_iff`).

A number always arrives, whatever setter takes it. A name or a password is
checked for its length and for invisible characters, but not for what a shell
does in double quotes, and the buffer of the name is shorter than the names
that are accepted: a text arrives if and only if it is quotable and the line
fits. So for a whole `set_node` (`setNode_received_iff`): it is up to the name
and the password alone.

Key definitions: `DriverCommand`, `DriverCall`, `DriverCall.run`,
`DriverCall.argv`, `CallReceived`, `setNodeSettings`.
Key theorems: `command_received_iff`, `driverCall_received_iff`,
`setNode_received_iff`.
-/
import Mathlib.Tactic.IntervalCases
import WtslCore.Lib.ShellWords
import WtslCore.Node.Operations
import WtslCore.Node.Radio
import WtslCore.Slb.McsBounds

namespace WtslCore

open ShellWords

/-! ### The setters -/

/-- A line for the driver: the size of its buffer, the group and the keyword. -/
structure DriverCommand where
  size : ℕ
  group : String
  keyword : String

/-- What stands before the keyword. -/
def DriverCommand.head (k : DriverCommand) (devName : CStr) : CStr :=
  "iwpriv ".toList ++ (devName ++ (' ' :: (k.group.toList ++ " \x22".toList)))

/-- The line, as it is printed; what is set follows the keyword. -/
def DriverCommand.text (k : DriverCommand) (devName args : CStr) : CStr :=
  k.head devName ++ (k.keyword.toList ++ args ++ ['\x22'])

/-- The line, as `snprintf` leaves it. -/
def DriverCommand.cmd (k : DriverCommand) (devName args : CStr) : CStr :=
  (k.text devName args).take (k.size - 1)

/-- The words it is to be. -/
def DriverCommand.argv (k : DriverCommand) (devName args : CStr) : List CStr :=
  ["iwpriv".toList, devName, k.group.toList, k.keyword.toList ++ args]

/-- `strlen(dev_name)` is neither 0 nor above 16. -/
def validName (devName : CStr) : Bool := devName ≠ [] ∧ devName.length ≤ maxDeviceNameLen

/-- No invisible ASCII characters. -/
def visible (s : CStr) : Bool := s.all fun c => 0x20 ≤ c.toNat ∧ c.toNat ≤ 0x7e

/-- A setter: the line it runs, if it accepts what it is given. -/
def DriverCommand.run (k : DriverCommand) (accepts : Bool) (devName args : CStr) : Option CStr :=
  if validName devName && accepts then some (k.cmd devName args) else none

/-- A number behind a keyword. -/
def intArg (v : Int32) : CStr := ' ' :: intText v.toInt

/-- `slb_set_cc_start_pos`. -/
def slbSetCcStartPos (devName : CStr) (ccOffset : Int32) : Option CStr :=
  (DriverCommand.mk 64 "cfg" "cc_start_pos").run (0 ≤ ccOffset ∧ ccOffset ≤ 3) devName (intArg ccOffset)

/-- `slb_set_cell_id`. -/
def slbSetCellId (devName : CStr) (id : Int32) : Option CStr :=
  (DriverCommand.mk 64 "cfg" "cell_id").run (0 ≤ id ∧ id ≤ 19) devName (intArg id)

/-- `slb_set_essid`; `MAX_ESSID_LEN` is 128. -/
def slbSetEssid (devName essidStr : CStr) : Option CStr :=
  (DriverCommand.mk 64 "cfg" "essid").run
    (essidStr ≠ [] ∧ essidStr.length ≤ 128 ∧ visible essidStr = true) devName (' ' :: essidStr)

/-- `slb_set_acs_enable`. -/
def slbSetAcsEnable (devName : CStr) (enable : Int32) : Option CStr :=
  (DriverCommand.mk 64 "cfg" "set_acs_enable").run (visible devName = true ∧ (enable = 0 ∨ enable = 1))
    devName (intArg enable)

/-- What `slb_set_mib_params` accepts: the symbol types depend on the other two. -/
def MibParams.accepted (m : MibParams) : Bool :=
  let top : Int32 := if m.cpType = 2 then 4 else if m.cpType = 3 then 3 else 5
  (0 ≤ m.cpType ∧ m.cpType ≤ 3) ∧
    ((m.sCfgIdx = 0 ∨ m.sCfgIdx = 1) → 2 ≤ m.symbolType ∧ m.symbolType ≤ top) ∧
    (m.sCfgIdx = 2 → 1 ≤ m.symbolType ∧ m.symbolType ≤ top) ∧
    (0 ≤ m.sysmsgPeriod ∧ m.sysmsgPeriod ≤ 3) ∧ (0 ≤ m.sCfgIdx ∧ m.sCfgIdx ≤ 2)

/-- `slb_set_mib_params`. -/
def slbSetMibParams (devName : CStr) (m : MibParams) : Option CStr :=
  (DriverCommand.mk 64 "cfg" "set_mib_params").run m.accepted devName
    (intArg m.cpType ++ intArg m.symbolType ++ intArg m.sysmsgPeriod ++ intArg m.sCfgIdx)

/-- `slb_set_sec_auth_pwd`; a password has 8 to 32 characters. -/
def slbSetSecAuthPwd (devName password : CStr) : Option CStr :=
  (DriverCommand.mk 128 "cfg" "set_sec_auth_pwd").run
    (8 ≤ password.length ∧ password.length ≤ 32 ∧ visible password = true) devName (' ' :: password)

/-- `slb_t_node_scan`. -/
def slbTNodeScan (devName : CStr) : Option CStr :=
  (DriverCommand.mk 64 "cfg" "scan").run (visible devName) devName []

/-- `slb_t_node_show_bss`. -/
def slbTNodeShowBss (devName : CStr) : Option CStr :=
  (DriverCommand.mk 64 "cfg" "show_bss").run (visible devName) devName []

/-- `slb_t_node_join_bssid`. -/
def slbTNodeJoinBssid (devName gnodeMacAddr : CStr) : Option CStr :=
  (DriverCommand.mk 64 "cfg" "join_bssid").run
    (visible devName = true ∧ gnodeMacAddr.length = macAddrLen - 1)
    devName (' ' :: gnodeMacAddr)

/-- `slb_t_node_start_join`. -/
def slbTNodeStartJoin (devName : CStr) (bssIdx : Int32) : Option CStr :=
  (DriverCommand.mk 64 "cfg" "start_join").run (visible devName) devName (intArg bssIdx)

/-- `slb_view_user`. -/
def slbViewUser (devName : CStr) : Option CStr :=
  (DriverCommand.mk 64 "cfg" "view_users").run (visible devName) devName []

/-- `slb_set_tx_power`. -/
def slbSetTxPower (devName : CStr) (power : Int32) : Option CStr :=
  (DriverCommand.mk 64 "alg" "set_tx_power").run (visible devName = true ∧ -310 ≤ power ∧ power ≤ 250)
    devName (intArg power)

/-- `slb_set_fisa_enable`. The line is for `NET_VAP_NAME`, whatever the device. -/
def slbSetFisaEnable (devName : CStr) (enable : Int32) : Option CStr :=
  if validName devName && visible devName then
    some ((DriverCommand.mk 64 "alg" "fisa").cmd netVapName
      (if enable ≠ 0 then " enable".toList else " disable".toList))
  else none

/-- `slb_set_sec_auth_psk`; `FIXED_PSK_LEN` is 64. -/
def slbSetSecAuthPsk (devName authPsk : CStr) : Option CStr :=
  (DriverCommand.mk 128 "cfg" "set_sec_auth_psk").run
    (visible devName = true ∧ authPsk ≠ [] ∧ authPsk.length ≤ 64) devName (' ' :: authPsk)

/-- `slb_set_sec_exch_cap`. -/
def slbSetSecExchCap (devName : CStr) (exchCap : Int32) : Option CStr :=
  (DriverCommand.mk 128 "cfg" "set_sec_exch_cap").run (visible devName = true ∧ 1 ≤ exchCap ∧ exchCap ≤ 33)
    devName (intArg exchCap)

/-- `slb_set_range_opt`. -/
def slbSetRangeOpt (devName : CStr) (rangeOptEnable : Int32) : Option CStr :=
  (DriverCommand.mk 64 "cfg" "range_opt").run
    (visible devName = true ∧ 0 ≤ rangeOptEnable ∧ rangeOptEnable ≤ 1) devName (intArg rangeOptEnable)

/-- A call of one of the setters. -/
inductive DriverCall
  | channel (channel : Int32)
  | bw (bw : Int32)
  | tfcBw (tfcBw : Int32)
  | mscBound (bound : McsBound)
  | ccStartPos (ccOffset : Int32)
  | cellId (id : Int32)
  | essid (essidStr : CStr)
  | acsEnable (enable : Int32)
  | mibParams (params : MibParams)
  | secAuthPwd (password : CStr)
  | scan
  | showBss
  | joinBssid (gnodeMacAddr : CStr)
  | startJoin (bssIdx : Int32)
  | viewUser
  | txPower (power : Int32)
  | fisaEnable (enable : Int32)
  | secAuthPsk (authPsk : CStr)
  | secExchCap (exchCap : Int32)
  | rangeOpt (enable : Int32)

/-- The line a call runs, if it runs one. -/
def DriverCall.run (devName : CStr) : DriverCall → Option CStr
  | .channel v => (DriverCommand.mk 64 "cfg" "channel").run (slbSetChannel.accepts v) devName (intArg v)
  | .bw v => (DriverCommand.mk 64 "cfg" "bw").run (slbSetBw.accepts v) devName (intArg v)
  | .tfcBw v => (DriverCommand.mk 64 "cfg" "tfc_bw").run (slbSetTfcBw.accepts v) devName (intArg v)
  | .mscBound e => slbSetMscBound devName e
  | .ccStartPos v => slbSetCcStartPos devName v
  | .cellId v => slbSetCellId devName v
  | .essid s => slbSetEssid devName s
  | .acsEnable v => slbSetAcsEnable devName v
  | .mibParams m => slbSetMibParams devName m
  | .secAuthPwd s => slbSetSecAuthPwd devName s
  | .scan => slbTNodeScan devName
  | .showBss => slbTNodeShowBss devName
  | .joinBssid s => slbTNodeJoinBssid devName s
  | .startJoin v => slbTNodeStartJoin devName v
  | .viewUser => slbViewUser devName
  | .txPower v => slbSetTxPower devName v
  | .fisaEnable v => slbSetFisaEnable devName v
  | .secAuthPsk s => slbSetSecAuthPsk devName s
  | .secExchCap v => slbSetSecExchCap devName v
  | .rangeOpt v => slbSetRangeOpt devName v

/-! ### What is to arrive -/

/-- The line of a call. -/
def DriverCall.command : DriverCall → DriverCommand
  | .channel _ => ⟨64, "cfg", "channel"⟩
  | .bw _ => ⟨64, "cfg", "bw"⟩
  | .tfcBw _ => ⟨64, "cfg", "tfc_bw"⟩
  | .mscBound _ => ⟨128, "alg", "set_mcs_bound"⟩
  | .ccStartPos _ => ⟨64, "cfg", "cc_start_pos"⟩
  | .cellId _ => ⟨64, "cfg", "cell_id"⟩
  | .essid _ => ⟨64, "cfg", "essid"⟩
  | .acsEnable _ => ⟨64, "cfg", "set_acs_enable"⟩
  | .mibParams _ => ⟨64, "cfg", "set_mib_params"⟩
  | .secAuthPwd _ => ⟨128, "cfg", "set_sec_auth_pwd"⟩
  | .scan => ⟨64, "cfg", "scan"⟩
  | .showBss => ⟨64, "cfg", "show_bss"⟩
  | .joinBssid _ => ⟨64, "cfg", "join_bssid"⟩
  | .startJoin _ => ⟨64, "cfg", "start_join"⟩
  | .viewUser => ⟨64, "cfg", "view_users"⟩
  | .txPower _ => ⟨64, "alg", "set_tx_power"⟩
  | .fisaEnable _ => ⟨64, "alg", "fisa"⟩
  | .secAuthPsk _ => ⟨128, "cfg", "set_sec_auth_psk"⟩
  | .secExchCap _ => ⟨128, "cfg", "set_sec_exch_cap"⟩
  | .rangeOpt _ => ⟨64, "cfg", "range_opt"⟩

/-- What follows the keyword. -/
def DriverCall.args : DriverCall → CStr
  | .channel v | .bw v | .tfcBw v | .ccStartPos v | .cellId v | .acsEnable v | .startJoin v | .txPower v
  | .secExchCap v | .rangeOpt v => intArg v
  | .mscBound e => ' ' :: cstr e.userMac.val ++ intArg e.minMcs ++ intArg e.maxMcs
  | .mibParams m => intArg m.cpType ++ intArg m.symbolType ++ intArg m.sysmsgPeriod ++ intArg m.sCfgIdx
  | .essid s | .secAuthPwd s | .joinBssid s | .secAuthPsk s => ' ' :: s
  | .fisaEnable v => if v ≠ 0 then " enable".toList else " disable".toList
  | .scan | .showBss | .viewUser => []

/-- The device the line is for. -/
def DriverCall.device (devName : CStr) : DriverCall → CStr
  | .fisaEnable _ => netVapName
  | _ => devName

/-- The four words. -/
def DriverCall.argv (devName : CStr) (c : DriverCall) : List CStr :=
  c.command.argv (c.device devName) c.args

/-- The text that is not the program's own; a bound's numbers follow its MAC. -/
def DriverCall.given : DriverCall → CStr
  | .essid s | .secAuthPwd s | .joinBssid s | .secAuthPsk s => s
  | .mscBound e => cstr e.userMac.val ++ intArg e.minMcs ++ intArg e.maxMcs
  | _ => []

/-- The shell reads the line of a call as its words. -/
def CallReceived (devName : CStr) (c : DriverCall) (cmd : CStr) : Prop := words cmd = some (c.argv devName)

/-! ### One line -/

section

variable {k : DriverCommand} {devName args : CStr}

theorem length_driverHead (k : DriverCommand) (devName : CStr) :
    (k.head devName).length = devName.length + k.group.toList.length + 10 := by
  unfold DriverCommand.head
  simp only [List.length_append, List.length_cons]
  have h1 : "iwpriv ".toList.length = 7 := rfl
  have h2 : " \x22".toList.length = 2 := rfl
  omega

/-- The quotes are open behind the head. -/
theorem foldlM_head (hdev : Bareword devName) (hgroup : Bareword k.group.toList) :
    (k.head devName).foldlM read ⟨[], none, .outside⟩ =
      some ⟨["iwpriv".toList, devName, k.group.toList], some [], .quoted⟩ := by
  unfold DriverCommand.head
  have hstart : "iwpriv ".toList.foldlM read ⟨[], none, .outside⟩ =
      some ⟨["iwpriv".toList], none, .outside⟩ := rfl
  rw [List.foldlM_append, hstart]
  show (devName ++ ' ' :: (k.group.toList ++ " \x22".toList)).foldlM read _ = _
  rw [List.foldlM_append, foldlM_word hdev.2 hdev.1]
  show (k.group.toList ++ " \x22".toList).foldlM read ⟨["iwpriv".toList, devName], none, .outside⟩ = _
  rw [List.foldlM_append, foldlM_word hgroup.2 hgroup.1]
  rfl

/-- **A line arrives** if and only if it is not cut and what it sets is
quotable. -/
theorem command_received_iff (hdev : Bareword devName) (hgroup : Bareword k.group.toList)
    (hkeyword : NoSpecial k.keyword.toList) (hhead : (k.head devName).length < k.size) :
    words (k.cmd devName args) = some (k.argv devName args) ↔
      (k.text devName args).length < k.size ∧ Quotable args := by
  have hread := foldlM_head hdev hgroup
  rw [← quotable_append_iff hkeyword]
  by_cases hfits : (k.text devName args).length < k.size
  · rw [DriverCommand.cmd, List.take_of_length_le (by omega), and_iff_right hfits]
    exact words_quoted_iff hread (k.keyword.toList ++ args)
  · refine iff_of_false ?_ fun h => hfits h.1
    have hlen : (k.text devName args).length =
        (k.head devName).length + ((k.keyword.toList ++ args).length + 1) := by
      unfold DriverCommand.text
      rw [List.length_append, List.length_append, List.length_singleton]
    -- the closing quote, at least, is cut off
    have hcut : k.cmd devName args = k.head devName ++
        (k.keyword.toList ++ args).take (k.size - 1 - (k.head devName).length) := by
      have hle : k.size - 1 - (k.head devName).length ≤ (k.keyword.toList ++ args).length := by omega
      rw [DriverCommand.cmd, DriverCommand.text, List.take_append, List.take_of_length_le (by omega),
        List.take_append_of_le_length hle]
    rw [hcut]
    refine words_open_ne hread ?_
    have htake := List.length_take_le (k.size - 1 - (k.head devName).length) (k.keyword.toList ++ args)
    have hsum : (k.keyword.toList ++ args).length = k.keyword.toList.length + args.length :=
      List.length_append
    simp only [DriverCommand.argv, total, List.flatten_cons, List.flatten_nil, List.append_nil,
      List.length_append, List.length_nil]
    omega

end

/-! ### The calls -/

variable {devName cmd : CStr} {c : DriverCall}

theorem noSpecial_intText (n : ℤ) : NoSpecial (intText n) := by
  intro c hc
  rcases mem_intText hc with rfl | hdigit
  · decide
  · have hne : ∀ x ∈ ['\x22', '$', '\x60', '\x5c'], c ≠ x := by
      rintro x hx rfl
      have hall : ∀ x ∈ ['\x22', '$', '\x60', '\x5c'], x.isDigit = false := by decide
      exact Bool.false_ne_true ((hall c hx).symm.trans hdigit)
    simpa [special] using hne

theorem noSpecial_intArg (v : Int32) : NoSpecial (intArg v) := by
  have hblank : NoSpecial [' '] := by decide
  exact hblank.append (noSpecial_intText v.toInt)

theorem quotable_blank_iff (s : CStr) : Quotable (' ' :: s) ↔ Quotable s := by
  have hblank : NoSpecial [' '] := by decide
  exact quotable_append_iff hblank

/-- What follows a keyword is quotable if what comes from outside is. -/
theorem quotable_args_iff (c : DriverCall) : Quotable c.args ↔ Quotable c.given := by
  have hnone : ∀ {args : CStr}, NoSpecial args → (Quotable args ↔ Quotable []) :=
    fun h => iff_of_true h.quotable .nil
  cases c with
  | channel v | bw v | tfcBw v | ccStartPos v | cellId v | acsEnable v | startJoin v | txPower v
  | secExchCap v | rangeOpt v => exact hnone (noSpecial_intArg v)
  | mibParams m =>
    exact hnone ((((noSpecial_intArg _).append (noSpecial_intArg _)).append (noSpecial_intArg _)).append
      (noSpecial_intArg _))
  | essid s | secAuthPwd s | joinBssid s | secAuthPsk s => exact quotable_blank_iff s
  | scan | showBss | viewUser => exact Iff.rfl
  | fisaEnable v =>
    refine hnone ?_
    show NoSpecial (if v ≠ 0 then _ else _)
    split_ifs <;> decide
  | mscBound e => exact quotable_blank_iff _

theorem run_eq_some {k : DriverCommand} {accepts : Bool} {args : CStr}
    (h : k.run accepts devName args = some cmd) :
    devName.length ≤ 16 ∧ accepts = true ∧ cmd = k.cmd devName args := by
  unfold DriverCommand.run validName at h
  split_ifs at h with hok
  simp only [Bool.and_eq_true, decide_eq_true_eq] at hok
  exact ⟨hok.1.2, hok.2, (Option.some.inj h).symm⟩

theorem length_intArg_le (v : Int32) : (intArg v).length ≤ 12 := by
  have h := length_intText_le v
  rw [intArg, List.length_cons]
  omega

theorem length_intArg_digit {v : Int32} (h0 : 0 ≤ v) (h9 : v ≤ 9) : (intArg v).length = 2 := by
  have hlow : 0 ≤ v.toInt := Int32.le_iff_toInt_le.mp h0
  have hhigh : v.toInt ≤ 9 := Int32.le_iff_toInt_le.mp h9
  rw [intArg, List.length_cons]
  generalize v.toInt = n at hlow hhigh
  interval_cases n <;> rfl

/-- Groups have three letters. -/
theorem length_group (c : DriverCall) : c.command.group.toList.length = 3 := by
  have hcfg : "cfg".toList.length = 3 := rfl
  have halg : "alg".toList.length = 3 := rfl
  cases c <;> first | exact hcfg | exact halg

theorem length_text (c : DriverCall) (devName : CStr) : (c.command.text devName c.args).length =
    devName.length + c.command.keyword.toList.length + c.args.length + 14 := by
  unfold DriverCommand.text
  rw [List.length_append, length_driverHead, length_group, List.length_append, List.length_append,
    List.length_singleton]
  omega

/-- The line of a call is that of its command, on a device whose name is short. -/
structure RunsCommand (devName : CStr) (c : DriverCall) (cmd : CStr) : Prop where
  name : devName.length ≤ 16
  cmd : cmd = c.command.cmd (c.device devName) c.args
  fits : (c.command.text (c.device devName) c.args).length < c.command.size ↔
    ∀ s, c = .essid s → devName.length + s.length ≤ 43

theorem runsCommand_of_fits {k : DriverCommand} {accepts : Bool}
    (hk : c.command = k) (hdev : c.device devName = devName)
    (h : k.run accepts devName c.args = some cmd) (hne : ∀ s, c ≠ .essid s)
    (hfits : accepts = true → 30 + (k.keyword.toList.length + c.args.length) < k.size) :
    RunsCommand devName c cmd := by
  obtain ⟨hname, haccepts, rfl⟩ := run_eq_some h
  refine ⟨hname, by rw [hk, hdev], iff_of_true ?_ fun s hs => absurd hs (hne s)⟩
  have := hfits haccepts
  rw [length_text, hdev, hk]
  omega

theorem runsCommand_number {k : DriverCommand} {accepts : Bool} {v : Int32} (hk : c.command = k)
    (hdev : c.device devName = devName) (hargs : c.args = intArg v)
    (h : k.run accepts devName c.args = some cmd)
    (hne : ∀ s, c ≠ .essid s) (hfits : 42 + k.keyword.toList.length < k.size) :
    RunsCommand devName c cmd := by
  refine runsCommand_of_fits hk hdev h hne fun _ => ?_
  have hlen := length_intArg_le v
  rw [hargs]
  omega

/-- What is accepted are digits. -/
theorem MibParams.length_args {m : MibParams} (h : m.accepted = true) :
    (DriverCall.mibParams m).args.length = 8 := by
  unfold MibParams.accepted at h
  simp only [decide_eq_true_eq] at h
  obtain ⟨⟨hcp0, hcp3⟩, hlow, htwo, ⟨hsys0, hsys3⟩, hidx0, hidx2⟩ := h
  have hle9 : ∀ {v w : Int32}, v ≤ w → w.toInt ≤ 9 → v ≤ 9 := fun hv hw =>
    Int32.le_iff_toInt_le.mpr ((Int32.le_iff_toInt_le.mp hv).trans hw)
  have htop : (if m.cpType = 2 then (4 : Int32) else if m.cpType = 3 then 3 else 5).toInt ≤ 9 := by
    split_ifs <;> decide
  have hsymbol : 0 ≤ m.symbolType ∧ m.symbolType ≤ 9 := by
    have hidx : (m.sCfgIdx = 0 ∨ m.sCfgIdx = 1) ∨ m.sCfgIdx = 2 := by
      have hlow := Int32.le_iff_toInt_le.mp hidx0
      have hhigh := Int32.le_iff_toInt_le.mp hidx2
      have hinj : ∀ n : Int32, m.sCfgIdx.toInt = n.toInt → m.sCfgIdx = n := fun _ => Int32.toInt_inj.mp
      have hcases : (m.sCfgIdx.toInt = 0 ∨ m.sCfgIdx.toInt = 1) ∨ m.sCfgIdx.toInt = 2 := by
        change 0 ≤ m.sCfgIdx.toInt at hlow
        change m.sCfgIdx.toInt ≤ 2 at hhigh
        omega
      exact hcases.imp (Or.imp (hinj 0) (hinj 1)) (hinj 2)
    rcases hidx with hidx | hidx
    · exact ⟨Int32.le_trans (by decide) (hlow hidx).1, hle9 (hlow hidx).2 htop⟩
    · exact ⟨Int32.le_trans (by decide) (htwo hidx).1, hle9 (htwo hidx).2 htop⟩
  have hcp := length_intArg_digit hcp0 (hle9 hcp3 (by decide))
  have hsym := length_intArg_digit hsymbol.1 hsymbol.2
  have hsys := length_intArg_digit hsys0 (hle9 hsys3 (by decide))
  have hidx := length_intArg_digit hidx0 (hle9 hidx2 (by decide))
  rw [DriverCall.args, List.length_append, List.length_append, List.length_append, hcp, hsym, hsys, hidx]

theorem mscBound_text : " alg \x22set_mcs_bound ".toList =
    ' ' :: ("alg".toList ++ " \x22".toList) ++ ("set_mcs_bound".toList ++ [' ']) := by decide

/-- The parts of the line, in the order of either definition. -/
theorem mscBound_parts (iwpriv dev group quote keyword mac lo hi : CStr) :
    iwpriv ++ (dev ++ ((' ' :: (group ++ quote) ++ (keyword ++ [' '])) ++
      (mac ++ ' ' :: (lo ++ ' ' :: (hi ++ ['\x22']))))) =
    iwpriv ++ (dev ++ (' ' :: (group ++ quote))) ++
      (keyword ++ (' ' :: mac ++ (' ' :: lo) ++ (' ' :: hi)) ++ ['\x22']) := by
  simp only [List.append_assoc, List.cons_append, List.nil_append]

theorem slbSetMscBound_eq_some {e : McsBound} (h : slbSetMscBound devName e = some cmd) :
    devName.length ≤ 16 ∧ (cstr e.userMac.val).length = 17 ∧
      cmd = (DriverCommand.mk 128 "alg" "set_mcs_bound").cmd devName (DriverCall.mscBound e).args := by
  obtain ⟨hname, h⟩ := Option.ite_none_left_eq_some.mp h
  obtain ⟨hmac, h⟩ := Option.ite_none_left_eq_some.mp h
  obtain ⟨-, h⟩ := Option.ite_none_left_eq_some.mp h
  obtain ⟨-, h⟩ := Option.ite_none_left_eq_some.mp h
  refine ⟨Nat.le_of_not_lt (not_or.mp hname).2, not_not.mp hmac, ?_⟩
  rw [← Option.some.inj h, mscBound_text]
  exact congrArg (List.take 127) (mscBound_parts _ _ _ _ _ _ _ _)

/-- **Each setter** runs its command. -/
theorem runsCommand_of_run (h : c.run devName = some cmd) : RunsCommand devName c cmd := by
  cases c with
  | channel v => exact runsCommand_number (k := ⟨64, "cfg", "channel"⟩) rfl rfl rfl h nofun (by decide)
  | bw v => exact runsCommand_number (k := ⟨64, "cfg", "bw"⟩) rfl rfl rfl h nofun (by decide)
  | tfcBw v => exact runsCommand_number (k := ⟨64, "cfg", "tfc_bw"⟩) rfl rfl rfl h nofun (by decide)
  | ccStartPos v =>
      exact runsCommand_number (k := ⟨64, "cfg", "cc_start_pos"⟩) rfl rfl rfl h nofun (by decide)
  | cellId v => exact runsCommand_number (k := ⟨64, "cfg", "cell_id"⟩) rfl rfl rfl h nofun (by decide)
  | acsEnable v =>
      exact runsCommand_number (k := ⟨64, "cfg", "set_acs_enable"⟩) rfl rfl rfl h nofun (by decide)
  | startJoin v => exact runsCommand_number (k := ⟨64, "cfg", "start_join"⟩) rfl rfl rfl h nofun (by decide)
  | txPower v => exact runsCommand_number (k := ⟨64, "alg", "set_tx_power"⟩) rfl rfl rfl h nofun (by decide)
  | secExchCap v =>
      exact runsCommand_number (k := ⟨128, "cfg", "set_sec_exch_cap"⟩) rfl rfl rfl h nofun (by decide)
  | rangeOpt v => exact runsCommand_number (k := ⟨64, "cfg", "range_opt"⟩) rfl rfl rfl h nofun (by decide)
  | scan => exact runsCommand_of_fits (k := ⟨64, "cfg", "scan"⟩) rfl rfl h nofun fun _ => by decide
  | showBss => exact runsCommand_of_fits (k := ⟨64, "cfg", "show_bss"⟩) rfl rfl h nofun fun _ => by decide
  | viewUser =>
      exact runsCommand_of_fits (k := ⟨64, "cfg", "view_users"⟩) rfl rfl h nofun fun _ => by decide
  | mibParams m =>
    refine runsCommand_of_fits (k := ⟨64, "cfg", "set_mib_params"⟩) rfl rfl h nofun fun haccepts => ?_
    have hkeyword : "set_mib_params".toList.length = 14 := rfl
    have hlen := m.length_args haccepts
    change 30 + ("set_mib_params".toList.length + (DriverCall.mibParams m).args.length) < 64
    omega
  | mscBound e =>
    have hkeyword : "set_mcs_bound".toList.length = 13 := rfl
    obtain ⟨hname, hmac, rfl⟩ := slbSetMscBound_eq_some h
    refine ⟨hname, rfl, iff_of_true ?_ nofun⟩
    have hmin := length_intArg_le e.minMcs
    have hmax := length_intArg_le e.maxMcs
    rw [length_text]
    change devName.length + "set_mcs_bound".toList.length +
      (' ' :: (cstr e.userMac.val ++ intArg e.minMcs ++ intArg e.maxMcs)).length + 14 < 128
    rw [List.length_cons, List.length_append, List.length_append]
    omega
  | essid s =>
    obtain ⟨hname, -, rfl⟩ := run_eq_some h
    have hkeyword : "essid".toList.length = 5 := rfl
    refine ⟨hname, rfl, ?_⟩
    rw [length_text]
    change devName.length + "essid".toList.length + (s.length + 1) + 14 < 64 ↔ _
    refine ⟨fun hlt s' heq => ?_, fun hall => ?_⟩
    · obtain rfl := DriverCall.essid.inj heq
      omega
    · have := hall s rfl
      omega
  | secAuthPwd s =>
    refine runsCommand_of_fits rfl rfl h nofun fun haccepts => ?_
    have hkeyword : "set_sec_auth_pwd".toList.length = 16 := rfl
    obtain ⟨-, hlen, -⟩ := of_decide_eq_true haccepts
    change 30 + ("set_sec_auth_pwd".toList.length + (s.length + 1)) < 128
    omega
  | joinBssid s =>
    refine runsCommand_of_fits rfl rfl h nofun fun haccepts => ?_
    have hkeyword : "join_bssid".toList.length = 10 := rfl
    have hmac : macAddrLen = 18 := rfl
    obtain ⟨-, hlen⟩ := of_decide_eq_true haccepts
    change 30 + ("join_bssid".toList.length + (s.length + 1)) < 64
    omega
  | secAuthPsk s =>
    refine runsCommand_of_fits rfl rfl h nofun fun haccepts => ?_
    have hkeyword : "set_sec_auth_psk".toList.length = 16 := rfl
    obtain ⟨-, -, hlen⟩ := of_decide_eq_true haccepts
    change 30 + ("set_sec_auth_psk".toList.length + (s.length + 1)) < 128
    omega
  | fisaEnable v =>
    have hkeyword : "fisa".toList.length = 4 := rfl
    obtain ⟨hok, h⟩ := Option.ite_none_right_eq_some.mp h
    simp only [validName, Bool.and_eq_true, decide_eq_true_eq] at hok
    refine ⟨hok.1.2, (Option.some.inj h).symm, iff_of_true ?_ nofun⟩
    rw [length_text]
    change 7 + "fisa".toList.length +
      (if v ≠ 0 then " enable".toList else " disable".toList).length + 14 < 64
    split_ifs <;> decide

theorem iwprivCfg_parts (iwpriv dev group quote keyword value : CStr) :
    iwpriv ++ (dev ++ (' ' :: (group ++ quote) ++ (keyword ++ ' ' :: (value ++ ['\x22'])))) =
      iwpriv ++ (dev ++ (' ' :: (group ++ quote))) ++ (keyword ++ ' ' :: value ++ ['\x22']) := by
  simp only [List.append_assoc, List.cons_append]

theorem iwprivCfg_eq_text (keyword : String) (v : Int32) :
    iwprivCfg keyword v = (DriverCommand.mk 64 "cfg" keyword).text netVapName (intArg v) := by
  have hcfg : " cfg \x22".toList = ' ' :: ("cfg".toList ++ " \x22".toList) := by decide
  calc iwprivCfg keyword v
      = "iwpriv ".toList ++ (netVapName ++ (' ' :: ("cfg".toList ++ " \x22".toList) ++
          (keyword.toList ++ ' ' :: (intText v.toInt ++ ['\x22'])))) :=
        congrArg (fun t => "iwpriv ".toList ++ (netVapName ++ (t ++
          (keyword.toList ++ ' ' :: (intText v.toInt ++ ['\x22']))))) hcfg
    _ = (DriverCommand.mk 64 "cfg" keyword).text netVapName (intArg v) := iwprivCfg_parts _ _ _ _ _ _

theorem length_cfgText_le {keyword : String} (h : keyword.toList.length ≤ 20) (v : Int32) :
    ((DriverCommand.mk 64 "cfg" keyword).text netVapName (intArg v)).length ≤ 63 := by
  have hint := length_intArg_le v
  have hvap : netVapName.length = 7 := by decide
  have hgroup : "cfg".toList.length = 3 := by decide
  rw [DriverCommand.text, List.length_append, length_driverHead, List.length_append, List.length_append,
    List.length_singleton, hvap, hgroup]
  show 7 + 3 + 10 + (keyword.toList.length + (intArg v).length + 1) ≤ 63
  omega

/-- The lines of the radio parameters, as they are tracked elsewhere. -/
theorem cmd_eq_iwprivCfg {keyword : String} (h : keyword.toList.length ≤ 20) (v : Int32) :
    (DriverCommand.mk 64 "cfg" keyword).cmd netVapName (intArg v) = iwprivCfg keyword v := by
  have hlen := length_cfgText_le h v
  exact (List.take_of_length_le hlen).trans (iwprivCfg_eq_text keyword v).symm

theorem bareword_group (c : DriverCall) : Bareword c.command.group.toList := by
  have hcfg : Bareword "cfg".toList := by decide
  have halg : Bareword "alg".toList := by decide
  cases c <;> first | exact hcfg | exact halg

/-- The keywords. -/
def driverKeywords : List String :=
  ["channel", "bw", "tfc_bw", "set_mcs_bound", "cc_start_pos", "cell_id", "essid", "set_acs_enable",
    "set_mib_params", "set_sec_auth_pwd", "scan", "show_bss", "join_bssid", "start_join", "view_users",
    "set_tx_power", "fisa", "set_sec_auth_psk", "set_sec_exch_cap", "range_opt"]

theorem noSpecial_keyword (c : DriverCall) : NoSpecial c.command.keyword.toList := by
  have hall : ∀ s ∈ driverKeywords, NoSpecial s.toList := by decide
  refine hall _ ?_
  cases c <;> simp [driverKeywords, DriverCall.command]

theorem size_ge (c : DriverCall) : 64 ≤ c.command.size := by
  have hlarge : 64 ≤ 128 := by decide
  cases c <;> first | exact le_rfl | exact hlarge

theorem bareword_device (hdev : Bareword devName) (c : DriverCall) : Bareword (c.device devName) := by
  have hvap : Bareword netVapName := by decide
  cases c <;> first | exact hdev | exact hvap

/-- **What the shell makes of a setter's line.** The driver gets the setting as
it is, and nothing else is run, if and only if the text it contains, if it
contains one, is quotable, and an essid is not too long for the buffer. -/
theorem driverCall_received_iff (hdev : Bareword devName) (h : c.run devName = some cmd) :
    CallReceived devName c cmd ↔
      (∀ s, c = .essid s → devName.length + s.length ≤ 43) ∧ Quotable c.given := by
  obtain ⟨hname, rfl, hfits⟩ := runsCommand_of_run h
  have hshort : (c.device devName).length ≤ 16 := by
    have hvap : netVapName.length ≤ 16 := by decide
    cases c <;> first | exact hname | exact hvap
  have hhead : (c.command.head (c.device devName)).length < c.command.size := by
    have := size_ge c
    rw [length_driverHead, length_group]
    omega
  rw [← hfits, ← quotable_args_iff]
  exact command_received_iff (bareword_device hdev c) (bareword_group c) (noSpecial_keyword c) hhead

/-- The first essid arrives. -/
theorem driverCall_received_essid :
    CallReceived netVapName (.essid "tnode_000".toList)
      "iwpriv wt_vap0 cfg \x22essid tnode_000\x22".toList := by
  have h : (DriverCall.essid "tnode_000".toList).run netVapName =
      some "iwpriv wt_vap0 cfg \x22essid tnode_000\x22".toList := by decide
  have hno : NoSpecial "tnode_000".toList := by decide
  refine (driverCall_received_iff (by decide) h).mpr ⟨fun s hs => ?_, hno.quotable⟩
  obtain rfl := DriverCall.essid.inj hs
  decide

/-! ### A whole `set_node` -/

/-- The setters `set_node` calls, in order; `bw` is what `slb_get_bw` reports.
The bounds are left out: no setter for them runs a command there
(`no_bound_reaches_driver`). -/
def setNodeSettings (bw : Int32) (p : NodeParams) : List DriverCall :=
  .channel p.channel ::
    (if bw ≤ p.bw then [.bw p.bw, .tfcBw p.tfcBw] else [.tfcBw p.tfcBw, .bw p.bw]) ++
    [.ccStartPos p.advInfo.ccOffset, .cellId p.advInfo.cellId, .essid p.name,
      .mibParams p.advInfo.mibParams, .secAuthPwd p.advInfo.password] ++
    (if p.type = nodeTypeSlbT then [.secExchCap p.advInfo.secExchCap] else []) ++
    [.secExchCap p.advInfo.secExchCap, .rangeOpt p.advInfo.rangeOpt, .fisaEnable p.advInfo.fisaEnable] ++
    (if p.type = nodeTypeSlbG then [.acsEnable p.aifhEnable] else []) ++ [.txPower p.advInfo.power]

/-- A call that only takes numbers. -/
def DriverCall.Numeric : DriverCall → Prop
  | .essid _ | .secAuthPwd _ | .joinBssid _ | .secAuthPsk _ | .mscBound _ => False
  | _ => True

/-- **A number arrives**, whatever it is. -/
theorem DriverCall.Numeric.received (hn : c.Numeric) (hdev : Bareword devName)
    (h : c.run devName = some cmd) :
    CallReceived devName c cmd := by
  refine (driverCall_received_iff hdev h).mpr ?_
  cases c <;> first | exact ⟨nofun, .nil⟩ | exact hn.elim

/-- Every call of `set_node` takes numbers, but those for the name and the
password. -/
theorem mem_setNodeSettings {bw : Int32} {p : NodeParams} (h : c ∈ setNodeSettings bw p) :
    c.Numeric ∨ c = .essid p.name ∨ c = .secAuthPwd p.advInfo.password := by
  have hbw : ∀ x ∈ (if bw ≤ p.bw then [DriverCall.bw p.bw, .tfcBw p.tfcBw] else [.tfcBw p.tfcBw, .bw p.bw]),
      x.Numeric := by
    split_ifs <;> simp [DriverCall.Numeric]
  have hexch : ∀ x ∈ (if p.type = nodeTypeSlbT then [DriverCall.secExchCap p.advInfo.secExchCap] else []),
      x.Numeric := by
    split_ifs <;> simp [DriverCall.Numeric]
  have hacs : ∀ x ∈ (if p.type = nodeTypeSlbG then [DriverCall.acsEnable p.aifhEnable] else []),
      x.Numeric := by
    split_ifs <;> simp [DriverCall.Numeric]
  unfold setNodeSettings at h
  rcases List.mem_append.mp h with h | h
  rcases List.mem_append.mp h with h | h
  rcases List.mem_append.mp h with h | h
  rcases List.mem_append.mp h with h | h
  rcases List.mem_append.mp h with h | h
  · rcases List.mem_cons.mp h with rfl | h
    · exact .inl trivial
    · exact .inl (hbw c h)
  · simp only [List.mem_cons, List.not_mem_nil, or_false] at h
    rcases h with rfl | rfl | rfl | rfl | rfl
    · exact .inl trivial
    · exact .inl trivial
    · exact .inr (.inl rfl)
    · exact .inl trivial
    · exact .inr (.inr rfl)
  · exact .inl (hexch c h)
  · simp only [List.mem_cons, List.not_mem_nil, or_false] at h
    rcases h with rfl | rfl | rfl <;> exact .inl trivial
  · exact .inl (hacs c h)
  · obtain rfl := List.mem_singleton.mp h
    exact .inl trivial

theorem essid_mem (bw : Int32) (p : NodeParams) : .essid p.name ∈ setNodeSettings bw p := by
  simp [setNodeSettings]

theorem secAuthPwd_mem (bw : Int32) (p : NodeParams) :
    .secAuthPwd p.advInfo.password ∈ setNodeSettings bw p := by
  simp [setNodeSettings]

/-- **A whole `set_node`**: every command it runs arrives as it is meant, if and
only if the name and the password do, as far as they are accepted. -/
theorem setNode_received_iff (bw : Int32) (p : NodeParams) :
    (∀ c ∈ setNodeSettings bw p, ∀ cmd, c.run netVapName = some cmd → CallReceived netVapName c cmd) ↔
      ((slbSetEssid netVapName p.name).isSome → p.name.length ≤ 36 ∧ Quotable p.name) ∧
        ((slbSetSecAuthPwd netVapName p.advInfo.password).isSome → Quotable p.advInfo.password) := by
  have hvap : Bareword netVapName := by decide
  have hlen : netVapName.length = 7 := by decide
  constructor
  · intro h
    refine ⟨fun hname => ?_, fun hpassword => ?_⟩
    · obtain ⟨cmd, hcmd⟩ := Option.isSome_iff_exists.mp hname
      have hrun : (DriverCall.essid p.name).run netVapName = some cmd := hcmd
      obtain ⟨hfits, hquote⟩ := (driverCall_received_iff hvap hrun).mp (h _ (essid_mem bw p) cmd hrun)
      have := hfits p.name rfl
      exact ⟨by omega, hquote⟩
    · obtain ⟨cmd, hcmd⟩ := Option.isSome_iff_exists.mp hpassword
      have hrun : (DriverCall.secAuthPwd p.advInfo.password).run netVapName = some cmd := hcmd
      exact ((driverCall_received_iff hvap hrun).mp (h _ (secAuthPwd_mem bw p) cmd hrun)).2
  · rintro ⟨hname, hpassword⟩ c hc cmd hcmd
    rcases mem_setNodeSettings hc with hn | rfl | rfl
    · exact hn.received hvap hcmd
    · obtain ⟨hshort, hquote⟩ := hname (Option.isSome_of_eq_some hcmd)
      refine (driverCall_received_iff hvap hcmd).mpr ⟨fun s hs => ?_, hquote⟩
      obtain rfl := DriverCall.essid.inj hs
      omega
    · exact (driverCall_received_iff hvap hcmd).mpr ⟨nofun, hpassword (Option.isSome_of_eq_some hcmd)⟩

end WtslCore
