/-
# The setters: basic and advanced parameters

`wtsl_core_parse_json_setnode` and `wtsl_core_parse_json_set_node_advinfo`
write the fields a request has into `global_node_info`, call `set_node`, and
save what they wrote, field by field. Numbers are assigned, strings copied
with `strcpy`, and two arrays are read into locals that are only printed. Here
is what becomes of the record and of the file; what `set_node` does with the
driver is in `Node.Radio`.

Key definitions: `intField`, `copyField`, `parseIntArray`, `parseStringArray`,
`setnodeCopies`, `setnodeAssign`, `setnodePairs`, `advinfoAssign`, `advinfoInts`.
Key theorems: `storedInt_setnode`, `storedInt_advinfo`, `setnodeAssign_radio`.
-/
import WtslCore.Json
import WtslCore.Lib.Copy
import WtslCore.Node.Params

namespace WtslCore

/-- `item->valueint` of a field, or the value the record holds. -/
def intField (root : Json) (field : String) (old : Int32) : Int32 :=
  match root.getObjectItem field.toList with
  | some j => Int32.ofInt j.valueint
  | none => old

/-- `if (item != NULL) strcpy(dst, item->valuestring)`, into `char dst[n]`. -/
def copyField (n : ℕ) (root : Json) (field : String) (old : CStr) : Except CopyFault CStr :=
  match root.getObjectItem field.toList with
  | some j => strcpy n j.valuestring
  | none => .ok old

/-- `item->valueint`, if the item is a number. -/
def Json.number? : Json → Option Int32
  | .number n => some (Int32.ofInt n.valueint)
  | _ => none

/-- `parse_int_array` into `int iarr[n]`: the numbers of an array, one after
the other. -/
def parseIntArray (n : ℕ) : Json → Except CopyFault (List Int32)
  | .array items =>
    if (items.filterMap Json.number?).length ≤ n then .ok (items.filterMap Json.number?)
    else .error .overflow
  | _ => .ok []

/-- The loop of `parse_string_array` over `char str_arr[rows][n]`, from row `i`. -/
def parseStrings (rows n : ℕ) : ℕ → List Json → Except CopyFault (List CStr)
  | _, [] => .ok []
  | i, .string s :: items => do
    if i < rows then
      let row ← strcpy n (some s)
      let more ← parseStrings rows n (i + 1) items
      return row :: more
    else .error .overflow
  | i, _ :: items => parseStrings rows n (i + 1) items

/-- `parse_string_array`. -/
def parseStringArray (rows n : ℕ) : Json → Except CopyFault (List CStr)
  | .array items => parseStrings rows n 0 items
  | _ => .ok []

/-- `set_mib_params`, into `int mib_params[4]`. -/
def setMibParams (root : Json) : Except CopyFault (List Int32) :=
  match root.getObjectItemCaseSensitive "set_mib_params".toList with
  | some j => parseIntArray 4 j
  | none => .ok []

/-- `set_mcs_bound`, into `char mcs_bound[3][128]`. -/
def setMcsBound (root : Json) : Except CopyFault (List CStr) :=
  match root.getObjectItemCaseSensitive "set_mcs_bound".toList with
  | some j => parseStringArray 3 128 j
  | none => .ok []

/-- The strings a request copies into the record. -/
structure CopiedFields where
  name : CStr
  ip : CStr
  password : CStr
  netManageIp : CStr

/-- The copies of `wtsl_core_parse_json_setnode`, in its order. -/
def setnodeCopies (root : Json) (p : NodeParams) : Except CopyFault CopiedFields := do
  let name ← copyField 128 root "name" p.name
  let ip ← copyField 16 root "ip" p.ip
  let password ← copyField 32 root "set_sec_auth_pwd" p.advInfo.password
  let _ ← setMibParams root
  let _ ← setMcsBound root
  let netManageIp ← copyField 16 root "net_manage_ip" p.netManageIp
  return ⟨name, ip, password, netManageIp⟩

/-- `wtsl_core_parse_json_setnode`, up to `set_node`. -/
def setnodeAssign (root : Json) (p : NodeParams) : Except CopyFault NodeParams :=
  (setnodeCopies root p).map fun c =>
    { p with
      type := intField root "type" p.type
      channel := intField root "channel" p.channel
      bw := intField root "bw" p.bw
      tfcBw := intField root "tfc_bw" p.tfcBw
      name := c.name
      ip := c.ip
      logPort := intField root "log_port" p.logPort
      netManageIp := c.netManageIp
      advInfo :=
        { p.advInfo with
          cellId := intField root "cell_id" p.advInfo.cellId
          password := c.password } }

/-- The integers `wtsl_core_parse_json_setnode` saves. -/
def setnodeInts (p : NodeParams) : List (String × Int32) :=
  [("BW", p.bw), ("TFC_BW", p.tfcBw), ("CHANNEL", p.channel), ("TYPE", p.type),
    ("CELL_ID", p.advInfo.cellId), ("TYPE", p.type), ("LOG_PORT", p.logPort)]

/-- The strings it saves after them, as they stand in their arrays. -/
def setnodeStrs (p : NodeParams) : List (CStr × CStr) :=
  [("IP".toList, cstr p.ip), ("NAME".toList, cstr p.name),
    ("NET_MANAGE_IP".toList, cstr p.netManageIp)]

/-- The pairs `wtsl_core_parse_json_setnode` saves. -/
def setnodePairs (p : NodeParams) : List (CStr × CStr) := intPairs (setnodeInts p) ++ setnodeStrs p

/-- `wtsl_core_parse_json_set_node_advinfo`, up to `set_node`. -/
def advinfoAssign (root : Json) (p : NodeParams) : NodeParams :=
  let adv := p.advInfo
  let mib := adv.mibParams
  { p with
    aifhEnable := intField root "acs_enable" p.aifhEnable
    advInfo :=
      { adv with
        cellId := intField root "cell_id" adv.cellId
        ccOffset := intField root "cc_spos" adv.ccOffset
        mibParams :=
          { cpType := intField root "cp_type" mib.cpType
            symbolType := intField root "symbol_type" mib.symbolType
            sysmsgPeriod := intField root "sysmsg_period" mib.sysmsgPeriod
            sCfgIdx := intField root "s_cfg_idx" mib.sCfgIdx }
        secExchCap := intField root "sec_exch_cap" adv.secExchCap
        rangeOpt := intField root "range_opt" adv.rangeOpt
        power := intField root "tx_power" adv.power
        fisaEnable := intField root "fisa_enable" adv.fisaEnable } }

/-- The integers `wtsl_core_parse_json_set_node_advinfo` saves. -/
def advinfoInts (p : NodeParams) : List (String × Int32) :=
  [("CELL_ID", p.advInfo.cellId), ("CC_SPOS", p.advInfo.ccOffset),
    ("CP_TYPE", p.advInfo.mibParams.cpType), ("SYMBOL_CFG", p.advInfo.mibParams.symbolType),
    ("SYSMSG_PERIOD", p.advInfo.mibParams.sysmsgPeriod), ("S_CFG_IDX", p.advInfo.mibParams.sCfgIdx),
    ("SEC_EXCH_CAP", p.advInfo.secExchCap), ("RANGE_OPT", p.advInfo.rangeOpt),
    ("TX_POWER", p.advInfo.power), ("ACS_ENABLE", p.aifhEnable), ("FISA_ENABLE", p.advInfo.fisaEnable)]

/-! ### What is saved -/

theorem setnodeInts_plain (p : NodeParams) : ∀ kv ∈ setnodeInts p, Plain kv.1.toList := by
  have hkeys : ∀ k ∈ ["BW", "TFC_BW", "CHANNEL", "TYPE", "CELL_ID", "TYPE", "LOG_PORT"],
      Plain k.toList := by decide
  intro kv hkv
  exact hkeys kv.1 (List.mem_map_of_mem (f := Prod.fst) hkv)

theorem setnodeStrs_plain (p : NodeParams) : ∀ kv ∈ setnodeStrs p, Plain kv.1 ∧ nul ∉ kv.2 := by
  intro kv hkv
  simp only [setnodeStrs, List.mem_cons, List.not_mem_nil, or_false] at hkv
  rcases hkv with rfl | rfl | rfl
  · exact ⟨(by decide : Plain "IP".toList), nul_not_mem_cstr _⟩
  · exact ⟨(by decide : Plain "NAME".toList), nul_not_mem_cstr _⟩
  · exact ⟨(by decide : Plain "NET_MANAGE_IP".toList), nul_not_mem_cstr _⟩

theorem setnodePairs_plain (p : NodeParams) : ∀ kv ∈ setnodePairs p, Plain kv.1 ∧ nul ∉ kv.2 :=
  List.forall_mem_append.mpr ⟨intPairs_plain (setnodeInts_plain p), setnodeStrs_plain p⟩

theorem advinfoInts_plain (p : NodeParams) : ∀ kv ∈ advinfoInts p, Plain kv.1.toList := by
  have hkeys : ∀ k ∈ ["CELL_ID", "CC_SPOS", "CP_TYPE", "SYMBOL_CFG", "SYSMSG_PERIOD", "S_CFG_IDX",
      "SEC_EXCH_CAP", "RANGE_OPT", "TX_POWER", "ACS_ENABLE", "FISA_ENABLE"], Plain k.toList := by decide
  intro kv hkv
  exact hkeys kv.1 (List.mem_map_of_mem (f := Prod.fst) hkv)

variable {file : Option (List Char)}

/-- **What `setnode` leaves under a key**: the last integer it saved there. -/
theorem storedInt_setnode {key : String} (hk : Plain key.toList)
    (hstr : key.toList ∉ ["IP".toList, "NAME".toList, "NET_MANAGE_IP".toList]) (p : NodeParams)
    (junk : ℕ → ℕ → Junk) (h : Settled file) :
    storedInt (configSetAll junk (setnodePairs p) file) key.toList =
      ((setnodeInts p).reverse.lookup key).or (storedInt file key.toList) := by
  have hints := settled_configSetAll junk h (intPairs_plain (setnodeInts_plain p))
  rw [setnodePairs, configSetAll_append, ← storedInt_configSetAll hk junk h (setnodeInts_plain p)]
  exact congrArg (Option.bind · textInt)
    (storedText_configSetAll_ne hk _ hints (setnodeStrs_plain p) hstr)

/-- **What `advinfo` leaves under a key.** -/
theorem storedInt_advinfo {key : String} (hk : Plain key.toList) (p : NodeParams)
    (junk : ℕ → ℕ → Junk) (h : Settled file) :
    storedInt (configSetAll junk (intPairs (advinfoInts p)) file) key.toList =
      ((advinfoInts p).reverse.lookup key).or (storedInt file key.toList) :=
  storedInt_configSetAll hk junk h (advinfoInts_plain p)

/-! ### Copies that get through -/

/-- The field, if it is there, is a string that fits `char dst[n]`. -/
def FieldFits (n : ℕ) (root : Json) (field : String) : Prop :=
  ∀ j ∈ root.getObjectItem field.toList, ∃ s, j.valuestring = some s ∧ (cstr s).length < n

/-- The numbers of `set_mib_params` fit `mib_params`. -/
def MibFits (root : Json) : Prop :=
  ∀ items, root.getObjectItemCaseSensitive "set_mib_params".toList = some (.array items) →
    (items.filterMap Json.number?).length ≤ 4

/-- The strings of an array, from row `i`, fit their rows. -/
def RowsFit (rows n : ℕ) (i : ℕ) (items : List Json) : Prop :=
  ∀ k s, items[k]? = some (.string s) → i + k < rows ∧ (cstr s).length < n

/-- The strings of `set_mcs_bound` fit `mcs_bound`. -/
def McsFits (root : Json) : Prop :=
  ∀ items, root.getObjectItemCaseSensitive "set_mcs_bound".toList = some (.array items) →
    RowsFit 3 128 0 items

/-- Everything a `setnode` request copies is there and fits. -/
structure CopiesFit (root : Json) : Prop where
  name : FieldFits 128 root "name"
  ip : FieldFits 16 root "ip"
  password : FieldFits 32 root "set_sec_auth_pwd"
  mib : MibFits root
  mcs : McsFits root
  netManageIp : FieldFits 16 root "net_manage_ip"

theorem copyField_ok {n : ℕ} {root : Json} {field : String} (h : FieldFits n root field)
    (old : CStr) : ∃ s, copyField n root field old = .ok s := by
  unfold copyField
  cases hj : root.getObjectItem field.toList with
  | none => exact ⟨old, rfl⟩
  | some j =>
    obtain ⟨s, hs, hlen⟩ := h j hj
    exact ⟨cstr s, strcpy_eq_ok.mpr ⟨s, hs, hlen, rfl⟩⟩

theorem setMibParams_ok {root : Json} (h : MibFits root) : ∃ l, setMibParams root = .ok l := by
  unfold setMibParams
  cases hj : root.getObjectItemCaseSensitive "set_mib_params".toList with
  | none => exact ⟨[], rfl⟩
  | some j =>
    cases j with
    | array items => exact ⟨_, if_pos (h items hj)⟩
    | null | bool | number | string | object => exact ⟨[], rfl⟩

/-- The rows after the first one. -/
theorem RowsFit.tail {rows n i : ℕ} {j : Json} {items : List Json} (h : RowsFit rows n i (j :: items)) :
    RowsFit rows n (i + 1) items := by
  intro k s hk
  have := h (k + 1) s hk
  omega

theorem parseStrings_ok {rows n : ℕ} : ∀ {items : List Json} {i : ℕ}, RowsFit rows n i items →
    ∃ l, parseStrings rows n i items = .ok l
  | [], _, _ => ⟨[], rfl⟩
  | j :: items, i, h => by
    obtain ⟨l, hl⟩ := parseStrings_ok h.tail
    cases j with
    | string s =>
      obtain ⟨hi, hlen⟩ := h 0 s rfl
      have hrow : strcpy n (some s) = .ok (cstr s) := strcpy_eq_ok.mpr ⟨s, rfl, hlen, rfl⟩
      refine ⟨cstr s :: l, ?_⟩
      rw [parseStrings, if_pos (by omega : i < rows), hrow, hl]
      rfl
    | null | bool | number | array | object => exact ⟨l, hl⟩

theorem setMcsBound_ok {root : Json} (h : McsFits root) : ∃ l, setMcsBound root = .ok l := by
  unfold setMcsBound
  cases hj : root.getObjectItemCaseSensitive "set_mcs_bound".toList with
  | none => exact ⟨[], rfl⟩
  | some j =>
    cases j with
    | array items => exact parseStrings_ok (h items hj)
    | null | bool | number | string | object => exact ⟨[], rfl⟩

/-- **A request whose fields fit is taken.** -/
theorem CopiesFit.assigned {root : Json} (h : CopiesFit root) (p : NodeParams) :
    ∃ p', setnodeAssign root p = .ok p' := by
  obtain ⟨name, hname⟩ := copyField_ok h.name p.name
  obtain ⟨ip, hip⟩ := copyField_ok h.ip p.ip
  obtain ⟨password, hpassword⟩ := copyField_ok h.password p.advInfo.password
  obtain ⟨mib, hmib⟩ := setMibParams_ok h.mib
  obtain ⟨mcs, hmcs⟩ := setMcsBound_ok h.mcs
  obtain ⟨netManageIp, hnet⟩ := copyField_ok h.netManageIp p.netManageIp
  have hcopies : setnodeCopies root p = .ok ⟨name, ip, password, netManageIp⟩ := by
    unfold setnodeCopies
    rw [hname, hip, hpassword, hmib, hmcs, hnet]
    rfl
  unfold setnodeAssign
  rw [hcopies]
  exact ⟨_, rfl⟩

/-! ### What is assigned -/

/-- Where the copies get through, the numbers are assigned. -/
theorem setnodeAssign_radio {root : Json} {p p' : NodeParams} (h : setnodeAssign root p = .ok p') :
    p'.bw = intField root "bw" p.bw ∧ p'.tfcBw = intField root "tfc_bw" p.tfcBw ∧
      p'.channel = intField root "channel" p.channel := by
  unfold setnodeAssign at h
  cases hc : setnodeCopies root p with
  | error e =>
    rw [hc] at h
    exact nomatch h
  | ok c =>
    rw [hc] at h
    cases h
    exact ⟨rfl, rfl, rfl⟩

end WtslCore
