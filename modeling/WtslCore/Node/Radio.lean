/-
# The radio parameters: record, file and driver

Channel, bandwidth and tfc bandwidth live in three places: `global_node_info`,
the configuration file and the driver. `setnode`, `advinfo`, `chswitch` and the
state watcher's refresh write them on four paths, and each path writes the
file whatever the driver answers. So the file holds what the driver accepted
(`RadioLaw`) in a run exactly as long as every step meets `RadioOk`: what is
asked for is acceptable and no command fails, and the watcher does not take
the -1 of a getter that failed for a channel.

The record follows the file, but for a channel that was rejected (`InSync`);
this holds on every run.

Key definitions: `Radio`, `DriverSetting`, `slbGet`, `setNode`, `radioStep`,
`RadioLaw`, `RadioOk`.
Key theorems: `setNode_driver`, `savedRadio_setnode`, `InSync.step`,
`radioLaw_step_iff`, `radio_run_iff`.
-/
import WtslCore.Dataparser.Setters
import WtslCore.Node.Switches

namespace WtslCore

/-- The radio parameters in one of their places. -/
structure Radio where
  channel : Int32
  bw : Int32
  tfcBw : Int32
  deriving DecidableEq

/-- The bandwidths `slb_set_bw` and `slb_set_tfc_bw` accept. -/
def slbBws : List Int32 := [20, 40, 80]

/-- What the setters accept, and the tfc bandwidth within the bandwidth. -/
structure Radio.Acceptable (r : Radio) : Prop where
  channel : r.channel ∈ slbChannels
  bw : r.bw ∈ slbBws
  tfcBw : r.tfcBw ∈ slbBws
  le : r.tfcBw ≤ r.bw

def NodeParams.radio (p : NodeParams) : Radio := ⟨p.channel, p.bw, p.tfcBw⟩

/-- The parameters a restart reads: those of the file, or the defaults. -/
def savedRadio (file : Option (List Char)) : Radio where
  channel := (storedInt file "CHANNEL".toList).getD (paramDefault 0).channel
  bw := (storedInt file "BW".toList).getD (paramDefault 0).bw
  tfcBw := (storedInt file "TFC_BW".toList).getD (paramDefault 0).tfcBw

/-! ### The driver -/

/-- A number of the driver: what its setter accepts, the command it runs. -/
structure DriverSetting where
  accepts : Int32 → Bool
  command : Int32 → CStr
  put : Int32 → Radio → Radio

/-- A setter: the driver after it, and 0 or -1. The interface is taken down
before the command; nothing depends on whether that works. -/
def DriverSetting.set (ds : DriverSetting) (system : CStr → ℤ) (v : Int32) (d : Radio) : Radio × ℤ :=
  if !ds.accepts v then (d, -1)
  else if system (ds.command v) ≠ 0 then (d, -1)
  else (ds.put v d, 0)

/-- `slb_set_channel`. -/
def slbSetChannel : DriverSetting where
  accepts v := v ∈ slbChannels
  command := iwprivCfg "channel"
  put v d := { d with channel := v }

/-- `slb_set_bw`. -/
def slbSetBw : DriverSetting where
  accepts v := v ∈ slbBws
  command := iwprivCfg "bw"
  put v d := { d with bw := v }

/-- `slb_set_tfc_bw`. -/
def slbSetTfcBw : DriverSetting where
  accepts v := v ∈ slbBws
  command := iwprivCfg "tfc_bw"
  put v d := { d with tfcBw := v }

/-- `slb_get_channel` and `slb_get_bw`: the number behind the first `=` of the
last line that has one, as the command prints it; `none` is a `popen` that fails. -/
def slbGet (output : Option (List Char)) : Int32 :=
  match output with
  | none => -1
  | some text => Int32.ofInt ((fgetsAll 1023 text).foldl
      (fun n line => if '=' ∈ cstr line then atoi ((cstr line).dropWhile (· ≠ '=')).tail else n) 0)

/-- What a setter meets besides the request: the junk of `config_set`, what
`system` returns, what `get_bw` prints, and the number of interfaces. -/
structure RadioEnv where
  junk : ℕ → ℕ → Junk
  system : CStr → ℤ
  getBw : Option (List Char)
  vapCount : Int32

/-- `set_node`: the record and the driver. The bandwidth that grows is set first. -/
def setNode (env : RadioEnv) (p : NodeParams) (d : Radio) : NodeParams × Radio :=
  let d := (slbSetChannel.set env.system p.channel d).1
  let d :=
    if slbGet env.getBw ≤ p.bw then
      (slbSetTfcBw.set env.system p.tfcBw (slbSetBw.set env.system p.bw d).1).1
    else
      (slbSetBw.set env.system p.bw (slbSetTfcBw.set env.system p.tfcBw d).1).1
  ({ p with advInfo := { p.advInfo with devid := env.vapCount } }, d)

/-! ### The steps -/

/-- The local node and its driver: what the driver last took, by a command or
on its own, as it reports. -/
structure RadioState extends LocalNode where
  driver : Radio

/-- What writes the radio parameters. -/
inductive RadioEvent
  | setnode (args : Option Json) (env : RadioEnv)
  | advinfo (args : Option Json) (env : RadioEnv)
  | chswitch (args : Option Json) (env : SwitchEnv)
  | refresh (output : Option (List Char)) (junk : ℕ → Junk)

/-- `wtsl_core_parse_json_setnode`; a copy that goes wrong has no outcome. -/
def wtslCoreParseJsonSetnode (s : RadioState) (args : Option Json) (env : RadioEnv) :
    Option RadioState :=
  match args with
  | none => some s
  | some root =>
    (setnodeAssign root s.params).toOption.map fun p =>
      let r := setNode env p s.driver
      { params := r.1, file := configSetAll env.junk (setnodePairs r.1) s.file, driver := r.2 }

/-- `wtsl_core_parse_json_set_node_advinfo`. -/
def wtslCoreParseJsonSetNodeAdvinfo (s : RadioState) (args : Option Json) (env : RadioEnv) :
    RadioState :=
  match args with
  | none => s
  | some root =>
    let r := setNode env (advinfoAssign root s.params) s.driver
    { params := r.1, file := configSetAll env.junk (intPairs (advinfoInts r.1)) s.file, driver := r.2 }

/-- `wtsl_core_do_chswitch`, with the driver that takes the channel. -/
def wtslCoreDoChswitch (s : RadioState) (args : Option Json) (env : SwitchEnv) : RadioState :=
  let r := chswitch.request env true s.toLocalNode args
  { toLocalNode := r.1
    driver := if r.2.isSome then { s.driver with channel := r.1.params.channel } else s.driver }

/-- `wtsl_core_get_splink_info`, as far as the channel; a channel the driver
reports is one it is on. -/
def refreshChannel (s : RadioState) (output : Option (List Char)) (junk : ℕ → Junk) : RadioState :=
  let tmpChannel := slbGet output
  let driver :=
    if output.isSome ∧ tmpChannel ≠ 0 then { s.driver with channel := tmpChannel } else s.driver
  if tmpChannel ≠ 0 ∧ s.params.channel ≠ tmpChannel then
    { params := { s.params with channel := tmpChannel }
      file := (configSetInt junk "CHANNEL".toList tmpChannel s.file).2
      driver := driver }
  else { s with driver := driver }

def radioStep (s : RadioState) : RadioEvent → Option RadioState
  | .setnode args env => wtslCoreParseJsonSetnode s args env
  | .advinfo args env => some (wtslCoreParseJsonSetNodeAdvinfo s args env)
  | .chswitch args env => some (wtslCoreDoChswitch s args env)
  | .refresh output junk => some (refreshChannel s output junk)

/-! ### The law, and the condition on the steps -/

/-- The file holds acceptable parameters, and the ones the driver took. -/
structure RadioLaw (s : RadioState) : Prop where
  acceptable : (savedRadio s.file).Acceptable
  accepted : savedRadio s.file = s.driver

/-- The record follows the file, but for a channel that was rejected. -/
structure InSync (s : RadioState) : Prop where
  settled : Settled s.file
  bw : s.params.bw = (savedRadio s.file).bw
  tfcBw : s.params.tfcBw = (savedRadio s.file).tfcBw
  channel : s.params.channel = (savedRadio s.file).channel ∨ s.params.channel ∉ slbChannels

/-- What a `setnode` request asks for. -/
def requestedRadio (root : Json) (p : NodeParams) : Radio where
  channel := intField root "channel" p.channel
  bw := intField root "bw" p.bw
  tfcBw := intField root "tfc_bw" p.tfcBw

/-- The command works, or would change nothing. -/
def DriverSetting.Works (ds : DriverSetting) (system : CStr → ℤ) (v current : Int32) : Prop :=
  system (ds.command v) = 0 ∨ v = current

/-- The condition on a step. -/
def RadioOk (s : RadioState) : RadioEvent → Prop
  | .setnode args env => ∀ root ∈ args,
      (requestedRadio root s.params).Acceptable ∧
      slbSetChannel.Works env.system (intField root "channel" s.params.channel) s.driver.channel ∧
      slbSetBw.Works env.system (intField root "bw" s.params.bw) s.driver.bw ∧
      slbSetTfcBw.Works env.system (intField root "tfc_bw" s.params.tfcBw) s.driver.tfcBw
  | .advinfo _ _ => True
  | .chswitch args env => ∀ root ∈ args,
      intField root "channel" s.params.channel ∉ slbChannels ∨
        env.system (chswitch.command (intField root "channel" s.params.channel)) = 0 ∨
        intField root "channel" s.params.channel = s.driver.channel
  | .refresh none _ => s.params.channel = -1
  | .refresh (some text) _ => slbGet (some text) = 0 ∨ slbGet (some text) ∈ slbChannels

/-- The strings of a request fit the record. -/
def RadioEvent.Fits : RadioEvent → Prop
  | .setnode args _ => ∀ root ∈ args, CopiesFit root
  | _ => True
variable {s s' : RadioState} {file : Option (List Char)}

/-! ### What the driver takes -/

/-- A setter changes its number if it accepts the value and its command works. -/
theorem DriverSetting.set_fst (ds : DriverSetting) (system : CStr → ℤ) (v : Int32) (d : Radio) :
    (ds.set system v d).1 = if ds.accepts v ∧ system (ds.command v) = 0 then ds.put v d else d := by
  unfold DriverSetting.set
  cases hacc : ds.accepts v with
  | false => simp
  | true => by_cases hsys : system (ds.command v) = 0 <;> simp [hsys]

theorem slbSetChannel_fst (system : CStr → ℤ) (v : Int32) (d : Radio) :
    (slbSetChannel.set system v d).1 =
      ⟨if v ∈ slbChannels ∧ system (slbSetChannel.command v) = 0 then v else d.channel,
        d.bw, d.tfcBw⟩ := by
  have hacc : slbSetChannel.accepts v = true ↔ v ∈ slbChannels := decide_eq_true_iff
  simp only [DriverSetting.set_fst, hacc]
  split_ifs <;> rfl

theorem slbSetBw_fst (system : CStr → ℤ) (v : Int32) (d : Radio) :
    (slbSetBw.set system v d).1 =
      ⟨d.channel, if v ∈ slbBws ∧ system (slbSetBw.command v) = 0 then v else d.bw,
        d.tfcBw⟩ := by
  have hacc : slbSetBw.accepts v = true ↔ v ∈ slbBws := decide_eq_true_iff
  simp only [DriverSetting.set_fst, hacc]
  split_ifs <;> rfl

theorem slbSetTfcBw_fst (system : CStr → ℤ) (v : Int32) (d : Radio) :
    (slbSetTfcBw.set system v d).1 =
      ⟨d.channel, d.bw,
        if v ∈ slbBws ∧ system (slbSetTfcBw.command v) = 0 then v else d.tfcBw⟩ := by
  have hacc : slbSetTfcBw.accepts v = true ↔ v ∈ slbBws := decide_eq_true_iff
  simp only [DriverSetting.set_fst, hacc]
  split_ifs <;> rfl

/-- What a driver that holds `d` takes of `r`. -/
def Radio.taken (system : CStr → ℤ) (r d : Radio) : Radio where
  channel := if r.channel ∈ slbChannels ∧ system (slbSetChannel.command r.channel) = 0
    then r.channel else d.channel
  bw := if r.bw ∈ slbBws ∧ system (slbSetBw.command r.bw) = 0 then r.bw else d.bw
  tfcBw := if r.tfcBw ∈ slbBws ∧ system (slbSetTfcBw.command r.tfcBw) = 0 then r.tfcBw else d.tfcBw

/-- **What `set_node` leaves in the driver**, in whichever order it sets the bandwidths. -/
theorem setNode_driver (env : RadioEnv) (p : NodeParams) (d : Radio) :
    (setNode env p d).2 = p.radio.taken env.system d := by
  unfold setNode
  simp only [slbSetChannel_fst, slbSetBw_fst, slbSetTfcBw_fst, ite_self]
  rfl

/-- A value that is accepted is taken if its command works, or it was there. -/
theorem taken_value_iff {v current : Int32} {accepted : List Int32} (hv : v ∈ accepted)
    (ds : DriverSetting) (system : CStr → ℤ) :
    (if v ∈ accepted ∧ system (ds.command v) = 0 then v else current) = v ↔
      ds.Works system v current := by
  unfold DriverSetting.Works
  by_cases hsys : system (ds.command v) = 0
  · simp [hv, hsys]
  · simp [hsys, eq_comm]

/-- **Acceptable parameters are taken** if and only if no command fails that matters. -/
theorem Radio.taken_eq_iff {system : CStr → ℤ} {r d : Radio} (h : r.Acceptable) :
    r.taken system d = r ↔ slbSetChannel.Works system r.channel d.channel ∧
      slbSetBw.Works system r.bw d.bw ∧ slbSetTfcBw.Works system r.tfcBw d.tfcBw := by
  rw [← taken_value_iff h.channel, ← taken_value_iff h.bw, ← taken_value_iff h.tfcBw]
  obtain ⟨channel, bw, tfcBw⟩ := r
  simp only [Radio.taken, Radio.mk.injEq]

/-- A driver that holds what it is asked for keeps it. -/
theorem Radio.taken_same {system : CStr → ℤ} {r d : Radio} (hbw : r.bw = d.bw) (htfc : r.tfcBw = d.tfcBw)
    (hch : r.channel = d.channel ∨ r.channel ∉ slbChannels) : r.taken system d = d := by
  have hchannel : (if r.channel ∈ slbChannels ∧ system (slbSetChannel.command r.channel) = 0
      then r.channel else d.channel) = d.channel := by
    rcases hch with hch | hch
    · rw [hch, ite_self]
    · exact if_neg fun h => hch h.1
  unfold Radio.taken
  rw [hbw, htfc, ite_self, ite_self, hchannel]

/-! ### What is saved -/

/-- **A `setnode` request saves what it set.** -/
theorem savedRadio_setnode (h : Settled file) (p : NodeParams) (junk : ℕ → ℕ → Junk) :
    savedRadio (configSetAll junk (setnodePairs p) file) = p.radio := by
  unfold savedRadio
  rw [storedInt_setnode (by decide : Plain "CHANNEL".toList) (by decide) p junk h,
    storedInt_setnode (by decide : Plain "BW".toList) (by decide) p junk h,
    storedInt_setnode (by decide : Plain "TFC_BW".toList) (by decide) p junk h]
  rfl

/-- An `advinfo` request saves other parameters. -/
theorem savedRadio_advinfo (h : Settled file) (p : NodeParams) (junk : ℕ → ℕ → Junk) :
    savedRadio (configSetAll junk (intPairs (advinfoInts p)) file) = savedRadio file := by
  unfold savedRadio
  rw [storedInt_advinfo (by decide : Plain "CHANNEL".toList) p junk h,
    storedInt_advinfo (by decide : Plain "BW".toList) p junk h,
    storedInt_advinfo (by decide : Plain "TFC_BW".toList) p junk h]
  rfl

/-- A channel is saved alone. -/
theorem savedRadio_channel (h : Settled file) (v : Int32) (junk : ℕ → Junk) :
    savedRadio (configSetInt junk "CHANNEL".toList v file).2 = { savedRadio file with channel := v } := by
  have hset : ∀ {key}, Plain key → storedInt (configSetInt junk "CHANNEL".toList v file).2 key =
      if key = "CHANNEL".toList then some v else storedInt file key :=
    fun hk => storedInt_configSetInt h (by decide : Plain "CHANNEL".toList) hk v junk
  unfold savedRadio
  rw [hset (by decide : Plain "CHANNEL".toList), hset (by decide : Plain "BW".toList),
    hset (by decide : Plain "TFC_BW".toList)]
  rfl
/-! ### What a step does -/

theorem requestedRadio_eq {root : Json} {p p' : NodeParams} (h : setnodeAssign root p = .ok p') :
    p'.radio = requestedRadio root p := by
  obtain ⟨hbw, htfc, hch⟩ := setnodeAssign_radio h
  unfold NodeParams.radio requestedRadio
  rw [hbw, htfc, hch]

/-- **A `setnode` request** writes what it asks for into record and file; the
driver takes what it can. -/
theorem setnode_spec {root : Json} {env : RadioEnv} (hs : Settled s.file)
    (h : wtslCoreParseJsonSetnode s (some root) env = some s') :
    Settled s'.file ∧ s'.params.radio = requestedRadio root s.params ∧
      savedRadio s'.file = requestedRadio root s.params ∧
      s'.driver = (requestedRadio root s.params).taken env.system s.driver := by
  obtain ⟨p, hp, rfl⟩ := Option.map_eq_some_iff.mp h
  have hassign : setnodeAssign root s.params = .ok p := by
    cases hres : setnodeAssign root s.params with
    | error e =>
      rw [hres] at hp
      exact nomatch hp
    | ok q =>
      rw [hres] at hp
      exact congrArg Except.ok (Option.some.inj hp)
  have hreq := requestedRadio_eq hassign
  refine ⟨settled_configSetAll _ hs (setnodePairs_plain _), hreq, ?_, ?_⟩
  · exact (savedRadio_setnode hs _ _).trans hreq
  · rw [← hreq]
    exact setNode_driver env p s.driver

/-- **An `advinfo` request** sets record and file elsewhere, and hands the
driver the radio parameters of the record again. -/
theorem advinfo_spec (root : Json) (env : RadioEnv) (hs : Settled s.file) :
    let s' := wtslCoreParseJsonSetNodeAdvinfo s (some root) env
    Settled s'.file ∧ s'.params.radio = s.params.radio ∧ savedRadio s'.file = savedRadio s.file ∧
      s'.driver = s.params.radio.taken env.system s.driver :=
  ⟨settled_configSetAll _ hs (intPairs_plain (advinfoInts_plain _)), rfl, savedRadio_advinfo hs _ _,
    setNode_driver env _ s.driver⟩

theorem chswitch_requested (root : Json) (p : NodeParams) :
    chswitch.requested root p = intField root "channel" p.channel := by
  unfold intField
  cases hj : root.getObjectItem "channel".toList with
  | none =>
    have hassign : chswitch.assign root p = p := Switch.assign_none hj
    rw [Switch.requested, hassign]
    rfl
  | some j =>
    have hassign : chswitch.assign root p = { p with channel := Int32.ofInt j.valueint } :=
      Switch.assign_some hj
    rw [Switch.requested, hassign]
    rfl

theorem chswitch_assign_bw (root : Json) (p : NodeParams) :
    (chswitch.assign root p).bw = p.bw ∧ (chswitch.assign root p).tfcBw = p.tfcBw := by
  unfold Switch.assign
  cases root.getObjectItem chswitch.field.toList with
  | none => exact ⟨rfl, rfl⟩
  | some j => exact ⟨rfl, rfl⟩

/-- **A `chswitch` request** that is rejected leaves the channel in the record
alone; one that is not saves it, and the driver has it if the command works. -/
theorem chswitch_spec (s : RadioState) (root : Json) (env : SwitchEnv) :
    let v := intField root "channel" s.params.channel
    let s' := wtslCoreDoChswitch s (some root) env
    s'.params.channel = v ∧ s'.params.bw = s.params.bw ∧ s'.params.tfcBw = s.params.tfcBw ∧
      ((v ∉ slbChannels ∧ s'.file = s.file ∧ s'.driver = s.driver) ∨
        (v ∈ slbChannels ∧ s'.file = (configSetInt env.junk "CHANNEL".toList v s.file).2 ∧
          s'.driver =
            { s.driver with
              channel := if env.system (chswitch.command v) = 0 then v else s.driver.channel })) := by
  have hreq := chswitch_requested root s.params
  obtain ⟨hbw, htfc⟩ := chswitch_assign_bw root s.params
  have hiff : chswitch.accepts (chswitch.requested root s.params) = true ↔
      intField root "channel" s.params.channel ∈ slbChannels := by
    rw [hreq]
    exact decide_eq_true_iff
  unfold wtslCoreDoChswitch
  by_cases hacc : chswitch.accepts (chswitch.requested root s.params) = true
  · rw [chswitch.request_accepted s.toLocalNode hacc, hreq]
    refine ⟨hreq, hbw, htfc, .inr ⟨hiff.mp hacc, rfl, ?_⟩⟩
    by_cases hsys : env.system (chswitch.command (intField root "channel" s.params.channel)) = 0
    · simp only [if_pos hsys, Option.isSome_some, ↓reduceIte]
      exact congrArg (fun v => { s.driver with channel := v }) hreq
    · simp only [if_neg hsys, Option.isSome_none, Bool.false_eq_true, ↓reduceIte]
  · have hrej : chswitch.accepts (chswitch.requested root s.params) = false :=
      Bool.eq_false_iff.mpr hacc
    rw [chswitch.request_rejected s.toLocalNode hrej]
    exact ⟨hreq, hbw, htfc, .inl ⟨mt hiff.mpr hacc, rfl, rfl⟩⟩

/-- **A refresh** saves the number the getter returns, if it is not 0 and not
the channel of the record. -/
theorem refresh_spec (s : RadioState) (output : Option (List Char)) (junk : ℕ → Junk) :
    let v := slbGet output
    let s' := refreshChannel s output junk
    s'.params.bw = s.params.bw ∧ s'.params.tfcBw = s.params.tfcBw ∧
      s'.driver =
        (if output.isSome ∧ v ≠ 0 then { s.driver with channel := v } else s.driver) ∧
      ((v ≠ 0 ∧ s.params.channel ≠ v ∧ s'.params.channel = v ∧
          s'.file = (configSetInt junk "CHANNEL".toList v s.file).2) ∨
        ((v = 0 ∨ s.params.channel = v) ∧ s'.params = s.params ∧ s'.file = s.file)) := by
  by_cases hv : slbGet output ≠ 0 ∧ s.params.channel ≠ slbGet output
  · unfold refreshChannel
    rw [if_pos hv]
    exact ⟨rfl, rfl, rfl, .inl ⟨hv.1, hv.2, rfl, rfl⟩⟩
  · unfold refreshChannel
    rw [if_neg hv]
    refine ⟨rfl, rfl, rfl, .inr ⟨?_, rfl, rfl⟩⟩
    rw [not_and_or, not_not, not_not] at hv
    exact hv

/-! ### Record and file -/

/-- A step that writes the same parameters to record and file keeps them in sync. -/
theorem InSync.of_eq (hs : Settled s.file) (h : s.params.radio = savedRadio s.file) : InSync s where
  settled := hs
  bw := congrArg Radio.bw h
  tfcBw := congrArg Radio.tfcBw h
  channel := .inl (congrArg Radio.channel h)

/-- Record and file with a channel written to both. -/
theorem InSync.channel_written (h : InSync s) {v : Int32} {junk : ℕ → Junk}
    (hfile : s'.file = (configSetInt junk "CHANNEL".toList v s.file).2) (hch : s'.params.channel = v)
    (hbw : s'.params.bw = s.params.bw) (htfc : s'.params.tfcBw = s.params.tfcBw) : InSync s' := by
  have hsaved : savedRadio s'.file = { savedRadio s.file with channel := v } := by
    rw [hfile]
    exact savedRadio_channel h.settled v junk
  refine InSync.of_eq ?_ ?_
  · rw [hfile]
    exact h.settled.configSetInt (by decide) v junk
  · rw [hsaved, NodeParams.radio, hch, hbw, htfc, h.bw, h.tfcBw]

/-- Record and file with a channel in the record only. -/
theorem InSync.channel_in_record (h : InSync s) (hfile : s'.file = s.file)
    (hbw : s'.params.bw = s.params.bw) (htfc : s'.params.tfcBw = s.params.tfcBw)
    (hch : s'.params.channel = s.params.channel ∨ s'.params.channel ∉ slbChannels) : InSync s' where
  settled := by rw [hfile]; exact h.settled
  bw := by rw [hbw, hfile]; exact h.bw
  tfcBw := by rw [htfc, hfile]; exact h.tfcBw
  channel := by
    rw [hfile]
    rcases hch with heq | hno
    · rw [heq]
      exact h.channel
    · exact .inr hno

/-- **Every step keeps record and file in sync.** -/
theorem InSync.step {e : RadioEvent} (h : InSync s) (hstep : radioStep s e = some s') : InSync s' := by
  cases e with
  | setnode args env =>
    cases args with
    | none =>
      cases hstep
      exact h
    | some root =>
      obtain ⟨hset, hparams, hsaved, -⟩ := setnode_spec h.settled hstep
      exact InSync.of_eq hset (hparams.trans hsaved.symm)
  | advinfo args env =>
    cases hstep
    cases args with
    | none => exact h
    | some root =>
      obtain ⟨hset, hparams, hsaved, -⟩ := advinfo_spec root env h.settled
      generalize wtslCoreParseJsonSetNodeAdvinfo s (some root) env = t at *
      have hch : t.params.channel = s.params.channel := congrArg Radio.channel hparams
      constructor
      · exact hset
      · rw [hsaved, ← h.bw]
        exact congrArg Radio.bw hparams
      · rw [hsaved, ← h.tfcBw]
        exact congrArg Radio.tfcBw hparams
      · rw [hsaved, hch]
        exact h.channel
  | chswitch args env =>
    cases hstep
    cases args with
    | none => exact h
    | some root =>
      obtain ⟨hch, hbw, htfc, ⟨hno, hfile, -⟩ | ⟨-, hfile, -⟩⟩ := chswitch_spec s root env
      · exact h.channel_in_record hfile hbw htfc (.inr (hch ▸ hno))
      · exact h.channel_written hfile hch hbw htfc
  | refresh output junk =>
    cases hstep
    obtain ⟨hbw, htfc, -, ⟨-, -, hch, hfile⟩ | ⟨-, hparams, hfile⟩⟩ := refresh_spec s output junk
    · exact h.channel_written hfile hch hbw htfc
    · exact h.channel_in_record hfile hbw htfc (.inl (congrArg NodeParams.channel hparams))

/-! ### The law -/

/-- A step that changes neither file nor driver keeps the law. -/
theorem RadioLaw.of_same (h : RadioLaw s) (hsaved : savedRadio s'.file = savedRadio s.file)
    (hdriver : s'.driver = s.driver) : RadioLaw s' where
  acceptable := by rw [hsaved]; exact h.acceptable
  accepted := by rw [hsaved, hdriver]; exact h.accepted

/-- With a channel written to the file, the law holds if it is acceptable and
the driver has it. -/
theorem radioLaw_channel_iff (h : RadioLaw s) {v w : Int32}
    (hsaved : savedRadio s'.file = { savedRadio s.file with channel := v })
    (hdriver : s'.driver = { s.driver with channel := w }) :
    RadioLaw s' ↔ v ∈ slbChannels ∧ v = w := by
  constructor
  · rintro ⟨hacceptable, haccepted⟩
    rw [hsaved] at hacceptable haccepted
    rw [hdriver] at haccepted
    exact ⟨hacceptable.channel, congrArg Radio.channel haccepted⟩
  · rintro ⟨hv, rfl⟩
    obtain ⟨-, hbw, htfc, hle⟩ := h.acceptable
    constructor
    · rw [hsaved]
      exact ⟨hv, hbw, htfc, hle⟩
    · rw [hsaved, hdriver, h.accepted]

theorem setnode_law_iff {root : Json} {env : RadioEnv} (hsync : InSync s)
    (hstep : radioStep s (.setnode (some root) env) = some s') :
    RadioLaw s' ↔ RadioOk s (.setnode (some root) env) := by
  obtain ⟨-, -, hsaved, hdriver⟩ := setnode_spec hsync.settled hstep
  have hok : RadioOk s (.setnode (some root) env) ↔ (requestedRadio root s.params).Acceptable ∧
      slbSetChannel.Works env.system (requestedRadio root s.params).channel s.driver.channel ∧
      slbSetBw.Works env.system (requestedRadio root s.params).bw s.driver.bw ∧
      slbSetTfcBw.Works env.system (requestedRadio root s.params).tfcBw s.driver.tfcBw :=
    ⟨fun h => h root rfl, fun h root' hroot => by cases hroot; exact h⟩
  rw [hok]
  constructor
  · rintro ⟨hacceptable, haccepted⟩
    rw [hsaved] at hacceptable haccepted
    rw [hdriver] at haccepted
    exact ⟨hacceptable, (Radio.taken_eq_iff hacceptable).mp haccepted.symm⟩
  · rintro ⟨hacceptable, hworks⟩
    refine ⟨by rw [hsaved]; exact hacceptable, ?_⟩
    rw [hsaved, hdriver]
    exact ((Radio.taken_eq_iff hacceptable).mpr hworks).symm

theorem chswitch_law_iff {root : Json} {env : SwitchEnv} (hsync : InSync s) (h : RadioLaw s) :
    RadioLaw (wtslCoreDoChswitch s (some root) env) ↔ RadioOk s (.chswitch (some root) env) := by
  have hok : RadioOk s (.chswitch (some root) env) ↔
      intField root "channel" s.params.channel ∉ slbChannels ∨
        env.system (chswitch.command (intField root "channel" s.params.channel)) = 0 ∨
        intField root "channel" s.params.channel = s.driver.channel :=
    ⟨fun h => h root rfl, fun h root' hroot => by cases hroot; exact h⟩
  rw [hok]
  obtain ⟨-, -, -, ⟨hno, hfile, hdriver⟩ | ⟨hmem, hfile, hdriver⟩⟩ := chswitch_spec s root env
  · exact iff_of_true (h.of_same (congrArg savedRadio hfile) hdriver) (.inl hno)
  · have hsaved := (congrArg savedRadio hfile).trans (savedRadio_channel hsync.settled _ env.junk)
    rw [radioLaw_channel_iff h hsaved hdriver]
    by_cases hsys : env.system (chswitch.command (intField root "channel" s.params.channel)) = 0
    · simp [hmem, hsys]
    · simp [hmem, hsys]

theorem refresh_law_iff {output : Option (List Char)} {junk : ℕ → Junk} (hsync : InSync s)
    (h : RadioLaw s) : RadioLaw (refreshChannel s output junk) ↔ RadioOk s (.refresh output junk) := by
  obtain ⟨-, -, hdriver, hcases⟩ := refresh_spec s output junk
  cases output with
  | none =>
    -- the getter's -1
    have hget : slbGet none = -1 := rfl
    simp only [Option.isSome_none, Bool.false_eq_true, false_and, ↓reduceIte] at hdriver
    rcases hcases with ⟨-, hne, -, hfile⟩ | ⟨heq, -, hfile⟩
    · refine iff_of_false (fun hlaw => ?_) (by rw [hget] at hne; exact hne)
      have hsaved := (congrArg savedRadio hfile).trans (savedRadio_channel hsync.settled _ junk)
      have hmem := ((radioLaw_channel_iff h hsaved (w := s.driver.channel) hdriver).mp hlaw).1
      revert hmem
      rw [hget]
      decide
    · rw [hget] at heq
      exact iff_of_true (h.of_same (congrArg savedRadio hfile) hdriver)
        (heq.resolve_left (by decide))
  | some text =>
    by_cases hzero : slbGet (some text) = 0
    · rw [if_neg (fun hc => hc.2 hzero)] at hdriver
      rcases hcases with ⟨hne, -⟩ | ⟨-, -, hfile⟩
      · exact absurd hzero hne
      · exact iff_of_true (h.of_same (congrArg savedRadio hfile) hdriver) (.inl hzero)
    · rw [if_pos ⟨rfl, hzero⟩] at hdriver
      have hok : RadioOk s (.refresh (some text) junk) ↔ slbGet (some text) ∈ slbChannels :=
        or_iff_right hzero
      rw [hok]
      rcases hcases with ⟨-, -, -, hfile⟩ | ⟨heq, -, hfile⟩
      · have hsaved := (congrArg savedRadio hfile).trans (savedRadio_channel hsync.settled _ junk)
        rw [radioLaw_channel_iff h hsaved hdriver]
        exact and_iff_left rfl
      · -- the driver reports the channel of the record
        have hrecord := heq.resolve_left hzero
        have hsaved : savedRadio (refreshChannel s (some text) junk).file =
            { savedRadio s.file with channel := (savedRadio s.file).channel } :=
          congrArg savedRadio hfile
        rw [radioLaw_channel_iff h hsaved hdriver]
        constructor
        · rintro ⟨hmem, hv⟩
          exact hv ▸ hmem
        · intro hmem
          have hch := hsync.channel.resolve_right (not_not.mpr (hrecord ▸ hmem))
          exact ⟨h.acceptable.channel, hch.symm.trans hrecord⟩

/-- **A step keeps the law** if and only if it meets the condition. -/
theorem radioLaw_step_iff {e : RadioEvent} (hsync : InSync s) (h : RadioLaw s)
    (hstep : radioStep s e = some s') : RadioLaw s' ↔ RadioOk s e := by
  cases e with
  | setnode args env =>
    cases args with
    | none =>
      cases hstep
      exact iff_of_true h (fun _ hroot => nomatch hroot)
    | some root => exact setnode_law_iff hsync hstep
  | advinfo args env =>
    cases hstep
    refine iff_of_true ?_ trivial
    cases args with
    | none => exact h
    | some root =>
      obtain ⟨-, -, hsaved, hdriver⟩ := advinfo_spec root env hsync.settled
      refine h.of_same hsaved (hdriver.trans (Radio.taken_same ?_ ?_ ?_))
      · rw [← h.accepted]
        exact hsync.bw
      · rw [← h.accepted]
        exact hsync.tfcBw
      · rw [← h.accepted]
        exact hsync.channel
  | chswitch args env =>
    cases hstep
    cases args with
    | none => exact iff_of_true (h.of_same rfl rfl) (fun _ hroot => nomatch hroot)
    | some root => exact chswitch_law_iff hsync h
  | refresh output junk =>
    cases hstep
    exact refresh_law_iff hsync h

/-! ### Runs -/

/-- A step whose strings fit has an outcome. -/
theorem radioStep_isSome (s : RadioState) {e : RadioEvent} (h : e.Fits) :
    (radioStep s e).isSome = true := by
  cases e with
  | setnode args env =>
    cases args with
    | none => rfl
    | some root =>
      obtain ⟨p, hp⟩ := (h root rfl).assigned s.params
      show ((setnodeAssign root s.params).toOption.map _).isSome = true
      rw [hp]
      rfl
  | advinfo | chswitch | refresh => rfl

/-- **The saved parameters stay what the driver accepted** in exactly the runs
whose steps meet the condition; and then the next request has an outcome, if
its strings fit. -/
theorem radio_run_iff {s₀ s : RadioState} {es : List RadioEvent} (hsync : InSync s₀)
    (hlaw : RadioLaw s₀) :
    (Runs.Run radioStep (fun s e => ∀ s', radioStep s e = some s' → RadioLaw s') s₀ es s ↔
        Runs.Run radioStep RadioOk s₀ es s) ∧
      (Runs.Run radioStep RadioOk s₀ es s →
        RadioLaw s ∧ ∀ e : RadioEvent, e.Fits → (radioStep s e).isSome = true) := by
  refine ⟨Runs.Run.stays_iff hsync hlaw (fun _ _ _ h hs => h.step hs)
    fun _ _ _ h hl hs => radioLaw_step_iff h hl hs, fun hrun => ?_⟩
  have hinv : InSync s ∧ RadioLaw s := by
    refine hrun.invariant (I := fun s => InSync s ∧ RadioLaw s) ⟨hsync, hlaw⟩ ?_
    rintro t e t' ⟨hsync, hlaw⟩ hok hstep
    exact ⟨hsync.step hstep, (radioLaw_step_iff hsync hlaw hstep).mpr hok⟩
  exact ⟨hinv.2, fun e he => radioStep_isSome s he⟩

/-- A device that was never configured, with the defaults set. -/
def freshRadio : RadioState := ⟨freshNode, ⟨2479, 20, 20⟩⟩

theorem inSync_freshRadio : InSync freshRadio := InSync.of_eq ⟨by decide, by decide⟩ (by decide)

theorem radioLaw_freshRadio : RadioLaw freshRadio :=
  ⟨⟨by decide, by decide, by decide, by decide⟩, by decide⟩

/-- `{"channel": 41}`. -/
def channelFortyOne : Json := .object [("channel".toList, .number ⟨41, "41".toList, by decide⟩)]

/-- The channel is switched, and saved as the driver has it. -/
theorem radio_run_chswitch :
    RadioLaw (wtslCoreDoChswitch freshRadio (some channelFortyOne) idleEnv) := by
  have hok : RadioOk freshRadio (.chswitch (some channelFortyOne) idleEnv) :=
    fun _ _ => .inr (.inl rfl)
  exact ((radio_run_iff inSync_freshRadio radioLaw_freshRadio).2 (.single hok rfl)).1

/-- The getter of the channel cannot start its command: -1 is saved as the channel. -/
theorem radio_refresh_failed : ¬ RadioLaw (refreshChannel freshRadio none fun _ => ⟨[], []⟩) ∧
    savedRadio (refreshChannel freshRadio none fun _ => ⟨[], []⟩).file = ⟨-1, 20, 20⟩ := by
  refine ⟨fun h => ?_, by decide⟩
  have hmem := h.acceptable.channel
  revert hmem
  decide

end WtslCore
