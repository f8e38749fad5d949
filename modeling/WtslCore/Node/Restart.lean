/-
# Saved parameters over a restart

What `advinfo` and `aifh` save should be in the record again once
`param_default` and `config_read` have run. The writer and the reader are two
lists of keys, and they differ: the symbol type is saved under `SYMBOL_CFG`
and read from `SYMBOL_TYPE`, three keys are saved and never read, and the
switch of `aifh` is saved under `AIFH_ENABLE` and read from `ACS_ENABLE`. So a
restart gives back what was saved for the keys both lists have, and only what
happens to be the default, or in the file, for the others
(`saved_restored_iff`). `config_get_int` checks an unset buffer before it
reads, so even a key of both lists counts on what the stack holds.

Key definitions: `AdvinfoRestored`, `AdvinfoSurvives`, `AifhRestored`,
`AifhSurvives`.
Key theorems: `advinfoInts_restart`, `advinfo_restored_iff`, `saved_restored_iff`.
-/
import WtslCore.Node.Radio

namespace WtslCore

/-- What a restart meets besides the file: the stack in the calls of
`config_read`, and what `malloc` gave. -/
structure RestartEnv where
  stack : ℕ → GetStack
  rangeOpt : Int32

/-- A restart: the defaults, and `config_read` over them. -/
def restart (env : RestartEnv) (file : Option (List Char)) : Option NodeParams :=
  configRead ⟨file, env.stack⟩ (paramDefault env.rangeOpt)

/-- A restart gives every parameter `advinfo` saves the value of the record. -/
def AdvinfoRestored (env : RestartEnv) (st : LocalNode) : Prop :=
  ∃ q, restart env st.file = some q ∧ advinfoInts q = advinfoInts st.params

/-- A restart gives the switch `aifh` saves the value of the record. -/
def AifhRestored (env : RestartEnv) (st : LocalNode) : Prop :=
  ∃ q, restart env st.file = some q ∧ q.aifhEnable = st.params.aifhEnable

/-- The key is read in the `i`-th call, or the parameter has its default. -/
def RestartEnv.Reads (env : RestartEnv) (i : ℕ) (value dflt : Int32) : Prop :=
  isValidValue (env.stack i).strValue = true ∨ value = dflt

/-- The integer a restart reads for a key of the file. -/
def RestartEnv.value (env : RestartEnv) (file : Option (List Char)) (i : ℕ) (key : String)
    (dflt : Int32) : Int32 :=
  ConfigReader.getInt ⟨file, env.stack⟩ i key dflt

/-- The interfaces of the file are no more than there is room for. -/
def RestartEnv.Bridges (env : RestartEnv) (file : Option (List Char)) : Prop :=
  env.value file 15 "BRIDGE_IF_NUM" 3 ≤ 7

/-- The condition for `advinfo`, on the file before it and the parameters it saves. -/
structure AdvinfoSurvives (env : RestartEnv) (file : Option (List Char)) (p : NodeParams) : Prop where
  settled : Settled file
  bridges : env.Bridges file
  cellId : env.Reads 24 p.advInfo.cellId 9
  ccOffset : env.Reads 25 p.advInfo.ccOffset 0
  cpType : env.Reads 26 p.advInfo.mibParams.cpType 0
  sysmsgPeriod : env.Reads 28 p.advInfo.mibParams.sysmsgPeriod 1
  sCfgIdx : env.Reads 29 p.advInfo.mibParams.sCfgIdx 2
  fisaEnable : env.Reads 30 p.advInfo.fisaEnable 0
  acsEnable : env.Reads 8 p.aifhEnable 0
  /-- Saved as `SYMBOL_CFG`, read as `SYMBOL_TYPE`. -/
  symbolType : p.advInfo.mibParams.symbolType = env.value file 27 "SYMBOL_TYPE" 2
  /-- Saved, but not read. -/
  secExchCap : p.advInfo.secExchCap = 0x21
  rangeOpt : p.advInfo.rangeOpt = env.rangeOpt
  power : p.advInfo.power = 250

/-- The condition for `aifh`: its key is not the one that is read. -/
structure AifhSurvives (env : RestartEnv) (file : Option (List Char)) (value : Int32) : Prop where
  settled : Settled file
  bridges : env.Bridges file
  acsEnable : value = env.value file 8 "ACS_ENABLE" 0

variable {env : RestartEnv} {file : Option (List Char)} {p : NodeParams}

/-! ### What a restart reads -/

/-- A restart has an outcome if the interfaces have room. -/
theorem restart_isSome_iff : (∃ q, restart env file = some q) ↔ env.Bridges file := by
  unfold restart configRead
  simp only
  split_ifs with h
  · exact iff_of_false (fun ⟨_, hq⟩ => nomatch hq) (Int32.not_le.mpr h)
  · exact iff_of_true ⟨_, rfl⟩ (Int32.not_lt.mp h)

/-- **The parameters `advinfo` saves, as a restart reads them.** -/
theorem advinfoInts_restart {q : NodeParams} (h : restart env file = some q) :
    advinfoInts q =
      [("CELL_ID", env.value file 24 "CELL_ID" 9), ("CC_SPOS", env.value file 25 "CC_SPOS" 0),
        ("CP_TYPE", env.value file 26 "CP_TYPE" 0), ("SYMBOL_CFG", env.value file 27 "SYMBOL_TYPE" 2),
        ("SYSMSG_PERIOD", env.value file 28 "SYSMSG_PERIOD" 1),
        ("S_CFG_IDX", env.value file 29 "S_CFG_IDX" 2), ("SEC_EXCH_CAP", 0x21),
        ("RANGE_OPT", env.rangeOpt), ("TX_POWER", 250), ("ACS_ENABLE", env.value file 8 "ACS_ENABLE" 0),
        ("FISA_ENABLE", env.value file 30 "FISA_ENABLE" 0)] := by
  unfold restart configRead at h
  simp only at h
  split_ifs at h
  cases h
  rfl

theorem aifhEnable_restart {q : NodeParams} (h : restart env file = some q) :
    q.aifhEnable = env.value file 8 "ACS_ENABLE" 0 := by
  unfold restart configRead at h
  simp only at h
  split_ifs at h
  cases h
  rfl

/-- A key of both lists is read back if and only if the call reads at all. -/
theorem value_eq_iff (env : RestartEnv) (i : ℕ) (dflt : Int32) {key : String}
    (hk : Plain key.toList) {v : Int32} (h : storedInt file key.toList = some v) : env.value file i key dflt = v ↔ env.Reads i v dflt := by
  unfold RestartEnv.value RestartEnv.Reads
  rw [ConfigReader.getInt_eq _ i hk, h]
  split_ifs with hread
  · exact iff_of_true rfl (.inl hread)
  · rw [or_iff_right hread]
    exact eq_comm

/-- What is read does not depend on other keys. -/
theorem value_congr {file' : Option (List Char)} {i : ℕ} {key : String} (hk : Plain key.toList)
    {dflt : Int32} (h : storedInt file' key.toList = storedInt file key.toList) :
    env.value file' i key dflt = env.value file i key dflt := by
  unfold RestartEnv.value
  rw [ConfigReader.getInt_eq _ i hk, ConfigReader.getInt_eq _ i hk, h]

theorem bridges_congr {file' : Option (List Char)}
    (h : storedInt file' "BRIDGE_IF_NUM".toList = storedInt file "BRIDGE_IF_NUM".toList) :
    env.Bridges file' ↔ env.Bridges file := by
  unfold RestartEnv.Bridges
  rw [value_congr (by decide) h]

/-! ### `advinfo` -/

/-- In a settled file, a restart gives back what `advinfo` saved if and only
if the condition holds. -/
theorem advinfo_restored_iff (hs : Settled file) (p : NodeParams) (junk : ℕ → ℕ → Junk) :
    (∃ q, restart env (configSetAll junk (intPairs (advinfoInts p)) file) = some q ∧
        advinfoInts q = advinfoInts p) ↔ AdvinfoSurvives env file p := by
  have hstored : ∀ {key : String}, Plain key.toList →
      storedInt (configSetAll junk (intPairs (advinfoInts p)) file) key.toList =
        ((advinfoInts p).reverse.lookup key).or (storedInt file key.toList) :=
    fun hk => storedInt_advinfo hk p junk hs
  generalize configSetAll junk (intPairs (advinfoInts p)) file = file' at hstored
  -- the keys that are not set
  have hbridges : env.Bridges file' ↔ env.Bridges file := bridges_congr (hstored (by decide))
  have hsymbol : env.value file' 27 "SYMBOL_TYPE" 2 = env.value file 27 "SYMBOL_TYPE" 2 := by
    have hk : Plain "SYMBOL_TYPE".toList := by decide
    exact value_congr hk (hstored hk)
  -- the keys of both lists
  have hcell := value_eq_iff env 24 9 (by decide)
    (hstored (by decide : Plain "CELL_ID".toList))
  have hcc := value_eq_iff env 25 0 (by decide)
    (hstored (by decide : Plain "CC_SPOS".toList))
  have hcp := value_eq_iff env 26 0 (by decide)
    (hstored (by decide : Plain "CP_TYPE".toList))
  have hsysmsg := value_eq_iff env 28 1 (by decide)
    (hstored (by decide : Plain "SYSMSG_PERIOD".toList))
  have hscfg := value_eq_iff env 29 2 (by decide)
    (hstored (by decide : Plain "S_CFG_IDX".toList))
  have hfisa := value_eq_iff env 30 0 (by decide)
    (hstored (by decide : Plain "FISA_ENABLE".toList))
  have hacs := value_eq_iff env 8 0 (by decide)
    (hstored (by decide : Plain "ACS_ENABLE".toList))
  constructor
  · rintro ⟨q, hq, heq⟩
    rw [advinfoInts_restart hq] at heq
    simp only [advinfoInts, List.cons.injEq, Prod.mk.injEq, true_and, and_true] at heq
    obtain ⟨h1, h2, h3, h4, h5, h6, h7, h8, h9, h10, h11⟩ := heq
    exact ⟨hs, hbridges.mp (restart_isSome_iff.mp ⟨q, hq⟩), hcell.mp h1, hcc.mp h2, hcp.mp h3,
      hsysmsg.mp h5, hscfg.mp h6, hfisa.mp h11, hacs.mp h10, (hsymbol.symm.trans h4).symm, h7.symm,
      h8.symm, h9.symm⟩
  · intro h
    obtain ⟨q, hq⟩ := restart_isSome_iff.mpr (hbridges.mpr h.bridges)
    refine ⟨q, hq, ?_⟩
    rw [advinfoInts_restart hq]
    simp only [advinfoInts, List.cons.injEq, Prod.mk.injEq, true_and, and_true]
    exact ⟨hcell.mpr h.cellId, hcc.mpr h.ccOffset, hcp.mpr h.cpType, hsymbol.trans h.symbolType.symm,
      hsysmsg.mpr h.sysmsgPeriod, hscfg.mpr h.sCfgIdx, h.secExchCap.symm, h.rangeOpt.symm,
      h.power.symm, hacs.mpr h.acsEnable, hfisa.mpr h.fisaEnable⟩

/-! ### `aifh` -/

/-- In a settled file, a restart gives back what `aifh` saved if and only if
the other key has it. -/
theorem aifh_restored_iff (hs : Settled file) (v : Int32) (junk : ℕ → Junk) :
    (∃ q, restart env (configSetInt junk "AIFH_ENABLE".toList v file).2 = some q ∧ q.aifhEnable = v) ↔
      AifhSurvives env file v := by
  have hother : ∀ {key : String}, Plain key.toList → key.toList ≠ "AIFH_ENABLE".toList →
      storedInt (configSetInt junk "AIFH_ENABLE".toList v file).2 key.toList =
        storedInt file key.toList := by
    intro key hk hne
    rw [storedInt_configSetInt hs (by decide : Plain "AIFH_ENABLE".toList) hk, if_neg hne]
  generalize (configSetInt junk "AIFH_ENABLE".toList v file).2 = file' at hother
  have hacs : env.value file' 8 "ACS_ENABLE" 0 = env.value file 8 "ACS_ENABLE" 0 := by
    have hk : Plain "ACS_ENABLE".toList := by decide
    exact value_congr hk (hother hk (by decide))
  have hbridges : env.Bridges file' ↔ env.Bridges file :=
    bridges_congr (hother (by decide) (by decide))
  constructor
  · rintro ⟨q, hq, hv⟩
    rw [aifhEnable_restart hq, hacs] at hv
    exact ⟨hs, hbridges.mp (restart_isSome_iff.mp ⟨q, hq⟩), hv.symm⟩
  · intro h
    obtain ⟨q, hq⟩ := restart_isSome_iff.mpr (hbridges.mpr h.bridges)
    refine ⟨q, hq, ?_⟩
    rw [aifhEnable_restart hq, hacs]
    exact h.acsEnable.symm

/-- A request that reports success has saved the switch it assigned. -/
theorem aifh_success {senv : SwitchEnv} {node : Bool} {st : LocalNode} {args : Option Json}
    (h : (aifh.request senv node st args).2.isSome = true) :
    ∃ v, (aifh.request senv node st args).1.params.aifhEnable = v ∧
      (aifh.request senv node st args).1.file =
        (configSetInt senv.junk "AIFH_ENABLE".toList v st.file).2 := by
  cases node with
  | false => exact nomatch h
  | true =>
    cases args with
    | none => exact nomatch h
    | some root =>
      cases hacc : aifh.accepts (aifh.requested root st.params) with
      | false =>
        rw [aifh.request_rejected st hacc] at h
        exact nomatch h
      | true =>
        rw [aifh.request_accepted st hacc]
        exact ⟨aifh.requested root st.params, rfl, rfl⟩

/-- **What is saved survives a restart** under the conditions, and in settled
files only then. An `advinfo` request always reports success. -/
theorem saved_restored_iff (env : RestartEnv) :
    (∀ (s : RadioState) (root : Json) (renv : RadioEnv),
      let s' := wtslCoreParseJsonSetNodeAdvinfo s (some root) renv
      (AdvinfoSurvives env s.file s'.params → AdvinfoRestored env s'.toLocalNode) ∧
        (Settled s.file → AdvinfoRestored env s'.toLocalNode →
          AdvinfoSurvives env s.file s'.params)) ∧
    ∀ (senv : SwitchEnv) (node : Bool) (st : LocalNode) (args : Option Json),
      let r := aifh.request senv node st args
      r.2.isSome = true →
        (AifhSurvives env st.file r.1.params.aifhEnable → AifhRestored env r.1) ∧
          (Settled st.file → AifhRestored env r.1 →
            AifhSurvives env st.file r.1.params.aifhEnable) := by
  constructor
  · intro s root renv
    have hiff : Settled s.file → (AdvinfoRestored env
        (wtslCoreParseJsonSetNodeAdvinfo s (some root) renv).toLocalNode ↔
          AdvinfoSurvives env s.file (wtslCoreParseJsonSetNodeAdvinfo s (some root) renv).params) :=
      fun hs => advinfo_restored_iff hs _ _
    exact ⟨fun h => (hiff h.settled).mpr h, fun hs => (hiff hs).mp⟩
  · intro senv node st args r hsuccess
    obtain ⟨v, hv, hfile⟩ := aifh_success hsuccess
    have hiff : Settled st.file → (AifhRestored env r.1 ↔ AifhSurvives env st.file v) := by
      intro hs
      unfold AifhRestored
      rw [hv, hfile]
      exact aifh_restored_iff hs v senv.junk
    rw [hv]
    exact ⟨fun h => (hiff h.settled).mpr h, fun hs => (hiff hs).mp⟩

/-- Unset buffers that hold empty strings. -/
def quietRestart : RestartEnv := ⟨fun _ => ⟨[], fun _ => ⟨[], []⟩⟩, 0⟩

/-- `{"symbol_type": 3}`. -/
def symbolThree : Json := .object [("symbol_type".toList, .number ⟨3, "3".toList, by decide⟩)]

/-- `{"aifh_sw": 1}`. -/
def aifhOne : Json := .object [("aifh_sw".toList, .number ⟨1, "1".toList, one_gChars⟩)]

/-- A driver where every command succeeds. -/
def idleRadio : RadioEnv := ⟨fun _ _ => ⟨[], []⟩, fun _ => 0, none, 1⟩

/-- The symbol type is lost in a restart, and so is the switch of `aifh`. -/
theorem symbol_type_lost :
    ¬ AdvinfoRestored quietRestart
        (wtslCoreParseJsonSetNodeAdvinfo freshRadio (some symbolThree) idleRadio).toLocalNode ∧
      (aifh.request idleEnv true freshNode (some aifhOne)).2.isSome = true ∧
      ¬ AifhRestored quietRestart (aifh.request idleEnv true freshNode (some aifhOne)).1 := by
  have hsettled : Settled freshNode.file := ⟨by decide, by decide⟩
  refine ⟨fun h => ?_, by decide, fun h => ?_⟩
  · have hsymbol := ((advinfo_restored_iff hsettled _ _).mp h).symbolType
    revert hsymbol
    decide
  · obtain ⟨q, hq, hv⟩ := h
    rw [aifhEnable_restart hq] at hv
    revert hv
    decide

end WtslCore
