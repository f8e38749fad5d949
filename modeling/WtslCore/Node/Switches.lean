/-
# The switches: channel and automatic frequency hopping

`wtsl_core_do_chswitch` and `wtsl_core_do_aifh` take one number from the
request, check it against the accepted ones, save it and hand it to the
driver. Both write the number to `global_node_info` before they check it. So a
rejected number stays in the record, and is what a later request without the
field is judged by; nothing else of a rejected request stays
(`Switch.request_rejected`).

Key definitions: `Switch`, `Switch.request`, `chswitch`, `aifh`,
`RejectionHarmless`, `SwitchEvent.ideal`.
Key theorems: `Switch.harmless_iff`, `switches_harmless_iff`.
-/
import WtslCore.Json
import WtslCore.Lib.Run
import WtslCore.Node.Params

namespace WtslCore

/-- The local node: its parameters in memory and the configuration file. -/
structure LocalNode where
  params : NodeParams
  file : Option (List Char)
  deriving DecidableEq

/-- What a request meets: the junk of `config_set`, and what `system` returns. -/
structure SwitchEnv where
  junk : ℕ → Junk
  system : CStr → ℤ

/-- A number of the record that has a request of its own. -/
structure Switch where
  field : String
  get : NodeParams → Int32
  set : NodeParams → Int32 → NodeParams
  accepts : Int32 → Bool
  key : String
  command : Int32 → CStr

/-- The record once the request's number is assigned. -/
def Switch.assign (sw : Switch) (root : Json) (p : NodeParams) : NodeParams :=
  match root.getObjectItem sw.field.toList with
  | some j => sw.set p (Int32.ofInt j.valueint)
  | none => p

/-- The handler of a switch; `node` is whether the node pointer is not NULL.
It returns `"success"` or NULL. -/
def Switch.request (sw : Switch) (env : SwitchEnv) (node : Bool) (st : LocalNode)
    (args : Option Json) : LocalNode × Option CStr :=
  match node, args with
  | false, _ => (st, none)
  | true, none => (st, none)
  | true, some root =>
    let params := sw.assign root st.params
    let value := sw.get params
    if !sw.accepts value then ({ st with params := params }, none)
    else
      let file := (configSetInt env.junk sw.key.toList value st.file).2
      if env.system (sw.command value) ≠ 0 then (⟨params, file⟩, none)
      else (⟨params, file⟩, some "success".toList)

/-- The channels `slb_set_channel` and `wtsl_core_do_chswitch` accept. -/
def slbChannels : List Int32 :=
  [41, 125, 209, 291, 375, 459, 541, 625, 709, 791, 1375, 1459, 1541, 1625, 1709, 1791, 1875, 1959,
    2041, 2125, 2209, 2291, 2479, 2563, 2645, 2729, 2813]

/-- `iwpriv` with a number. -/
def iwprivCfg (name : String) (value : Int32) : CStr :=
  "iwpriv ".toList ++ (netVapName ++ (" cfg \x22".toList ++
    (name.toList ++ ' ' :: (intText value.toInt ++ ['\x22']))))

/-- `wtsl_core_do_chswitch`. -/
def chswitch : Switch where
  field := "channel"
  get p := p.channel
  set p v := { p with channel := v }
  accepts v := v ∈ slbChannels
  key := "CHANNEL"
  command := iwprivCfg "bss_chan_switch"

/-- `wtsl_core_do_aifh`. -/
def aifh : Switch where
  field := "aifh_sw"
  get p := p.aifhEnable
  set p v := { p with aifhEnable := v }
  accepts v := v = 0 ∨ v = 1
  key := "AIFH_ENABLE"
  command := iwprivCfg "set_acs_enable"

/-- The value a request is judged by. -/
def Switch.requested (sw : Switch) (root : Json) (p : NodeParams) : Int32 := sw.get (sw.assign root p)

/-- A request that is rejected for its value changes nothing, and one without
the field is then judged by the value from before. -/
def RejectionHarmless (sw : Switch) (env : SwitchEnv) (st : LocalNode) (root : Json) : Prop :=
  sw.accepts (sw.requested root st.params) = false →
    (sw.request env true st (some root)).2 = none ∧
      (sw.request env true st (some root)).1 = st ∧
      ∀ later : Json, later.getObjectItem sw.field.toList = none →
        sw.requested later (sw.request env true st (some root)).1.params = sw.get st.params

/-- The field is absent, has an accepted value, or the value of the record. -/
def Switch.Harmless (sw : Switch) (root : Json) (p : NodeParams) : Prop :=
  ∀ j ∈ root.getObjectItem sw.field.toList,
    sw.accepts (Int32.ofInt j.valueint) = true ∨ Int32.ofInt j.valueint = sw.get p

/-- `get` and `set` access one number. -/
structure Switch.Lens (sw : Switch) : Prop where
  get_set : ∀ p v, sw.get (sw.set p v) = v
  set_get : ∀ p, sw.set p (sw.get p) = p

theorem chswitch_lens : chswitch.Lens := ⟨fun _ _ => rfl, fun _ => rfl⟩

theorem aifh_lens : aifh.Lens := ⟨fun _ _ => rfl, fun _ => rfl⟩

variable {sw : Switch} {env : SwitchEnv} {st : LocalNode} {root : Json}

theorem Switch.assign_none {p : NodeParams} (h : root.getObjectItem sw.field.toList = none) :
    sw.assign root p = p := by
  unfold Switch.assign
  rw [h]

theorem Switch.assign_some {p : NodeParams} {j : Json}
    (h : root.getObjectItem sw.field.toList = some j) :
    sw.assign root p = sw.set p (Int32.ofInt j.valueint) := by
  unfold Switch.assign
  rw [h]

/-- **A rejected request leaves the assigned record**, and returns NULL. -/
theorem Switch.request_rejected (sw : Switch) (st : LocalNode)
    (h : sw.accepts (sw.requested root st.params) = false) :
    sw.request env true st (some root) = ({ st with params := sw.assign root st.params }, none) := by
  unfold Switch.request
  exact if_pos (by rw [Bool.not_eq_true']; exact h)

/-- An accepted request saves its value, and succeeds if the command does. -/
theorem Switch.request_accepted (sw : Switch) (st : LocalNode)
    (h : sw.accepts (sw.requested root st.params) = true) :
    sw.request env true st (some root) =
      (⟨sw.assign root st.params,
          (configSetInt env.junk sw.key.toList (sw.requested root st.params) st.file).2⟩,
        if env.system (sw.command (sw.requested root st.params)) = 0 then some "success".toList
        else none) := by
  unfold Switch.requested at h ⊢
  unfold Switch.request
  simp only [h, Bool.not_true, Bool.false_eq_true, ↓reduceIte]
  by_cases hsys : env.system (sw.command (sw.get (sw.assign root st.params))) = 0
  · rw [if_neg (not_not.mpr hsys), if_pos hsys]
  · rw [if_pos hsys, if_neg hsys]

/-- A rejection is harmless if and only if it leaves the record. -/
theorem harmless_iff_assign (h : sw.accepts (sw.requested root st.params) = false) :
    RejectionHarmless sw env st root ↔ sw.assign root st.params = st.params := by
  unfold RejectionHarmless
  rw [sw.request_rejected st h]
  constructor
  · intro hall
    exact congrArg LocalNode.params (hall h).2.1
  · intro hsame _
    refine ⟨rfl, by rw [hsame], fun later hlater => ?_⟩
    show sw.get (sw.assign later (sw.assign root st.params)) = sw.get st.params
    rw [Switch.assign_none hlater, hsame]

/-- **The condition is exact.** -/
theorem Switch.harmless_iff (hl : sw.Lens) (env : SwitchEnv) (st : LocalNode) (root : Json) :
    RejectionHarmless sw env st root ↔ sw.Harmless root st.params := by
  cases hj : root.getObjectItem sw.field.toList with
  | none =>
    have hassign : sw.assign root st.params = st.params := Switch.assign_none hj
    refine iff_of_true (fun h => ?_) (by simp [Switch.Harmless, hj])
    exact (harmless_iff_assign h).mpr hassign h
  | some j =>
    have hassign : sw.assign root st.params = sw.set st.params (Int32.ofInt j.valueint) :=
      Switch.assign_some hj
    have hreq : sw.requested root st.params = Int32.ofInt j.valueint := by
      rw [Switch.requested, hassign, hl.get_set]
    have hcond : sw.Harmless root st.params ↔
        sw.accepts (Int32.ofInt j.valueint) = true ∨ Int32.ofInt j.valueint = sw.get st.params := by
      simp [Switch.Harmless, hj]
    rw [hcond]
    by_cases hacc : sw.accepts (Int32.ofInt j.valueint) = true
    · refine iff_of_true (fun h => ?_) (.inl hacc)
      rw [hreq, hacc] at h
      exact Bool.noConfusion h
    · have hrej : sw.accepts (sw.requested root st.params) = false := by
        rw [hreq]
        exact Bool.eq_false_iff.mpr hacc
      rw [harmless_iff_assign hrej, hassign, or_iff_right hacc]
      constructor
      · intro hset
        rw [← hl.get_set st.params (Int32.ofInt j.valueint), hset]
      · intro hval
        rw [hval]
        exact hl.set_get st.params

/-! ### Runs of requests -/

/-- The two requests. -/
inductive SwitchName
  | chswitch
  | aifh
  deriving DecidableEq

def SwitchName.switch : SwitchName → Switch
  | .chswitch => WtslCore.chswitch
  | .aifh => WtslCore.aifh

theorem SwitchName.lens : ∀ name : SwitchName, name.switch.Lens
  | .chswitch => chswitch_lens
  | .aifh => aifh_lens

/-- A request that arrives. -/
structure SwitchEvent where
  name : SwitchName
  env : SwitchEnv
  node : Bool
  args : Option Json

def SwitchEvent.handle (e : SwitchEvent) (st : LocalNode) : LocalNode :=
  (e.name.switch.request e.env e.node st e.args).1

/-- The handlers as the step of a run. -/
def switchStep (st : LocalNode) (e : SwitchEvent) : Option LocalNode := some (e.handle st)

/-- The request is rejected for its value. -/
def SwitchEvent.rejected (e : SwitchEvent) (st : LocalNode) : Bool :=
  match e.node, e.args with
  | true, some root => !e.name.switch.accepts (e.name.switch.requested root st.params)
  | _, _ => false

/-- What should become of the node: a rejected request is as if it had not arrived. -/
def SwitchEvent.ideal (st : LocalNode) (e : SwitchEvent) : LocalNode :=
  if e.rejected st then st else e.handle st

/-- The condition for a request. -/
def SwitchEvent.Harmless (st : LocalNode) (e : SwitchEvent) : Prop :=
  ∀ root ∈ e.args, e.name.switch.Harmless root st.params

/-- A request that meets the condition does what it should. -/
theorem SwitchEvent.handle_eq_ideal {e : SwitchEvent} (h : e.Harmless st) :
    e.handle st = SwitchEvent.ideal st e := by
  obtain ⟨name, env, node, args⟩ := e
  cases node with
  | false => rfl
  | true =>
    cases args with
    | none => rfl
    | some root =>
      unfold SwitchEvent.ideal
      split_ifs with hrej
      · have hrej : name.switch.accepts (name.switch.requested root st.params) = false := by
          simpa [SwitchEvent.rejected] using hrej
        exact (((name.switch.harmless_iff name.lens env st root).mpr (h root rfl)) hrej).2.1
      · rfl

/-- **A rejected channel or switch changes nothing** if and only if the
request has no such field or the record already holds its value; and if this
is so for every request of a run, the run is the one without the rejected
requests. -/
theorem switches_harmless_iff (name : SwitchName) (env : SwitchEnv) (st : LocalNode) (root : Json) :
    (RejectionHarmless name.switch env st root ↔ name.switch.Harmless root st.params) ∧
      ∀ (es : List SwitchEvent) (st' : LocalNode),
        Runs.Run switchStep SwitchEvent.Harmless st es st' → st' = es.foldl SwitchEvent.ideal st := by
  refine ⟨name.switch.harmless_iff name.lens env st root, ?_⟩
  intro es st' hrun
  refine hrun.refines (R := Eq) rfl fun s e s' t heq hok hstep => ?_
  subst heq
  rw [← SwitchEvent.handle_eq_ideal hok]
  exact (Option.some.inj hstep).symm

/-- `{"channel": 7}`. -/
def channelSeven : Json := .object [("channel".toList, .number ⟨7, "7".toList, by decide⟩)]

/-- A device that was never configured, just started. -/
def freshNode : LocalNode := ⟨paramDefault 0, none⟩

/-- Every command succeeds. -/
def idleEnv : SwitchEnv := ⟨fun _ => ⟨[], []⟩, fun _ => 0⟩

/-- Channel 7 is rejected and stays in the record: `{}` is then rejected too. -/
theorem chswitch_keeps_rejected : ¬ RejectionHarmless chswitch idleEnv freshNode channelSeven ∧
    (chswitch.request idleEnv true freshNode (some channelSeven)).1.params.channel = 7 ∧
    (chswitch.request idleEnv true (chswitch.request idleEnv true freshNode (some channelSeven)).1
      (some (.object []))).2 = none := by
  refine ⟨fun h => ?_, by decide, by decide⟩
  have hsame := congrArg (fun s => s.params.channel) (h (by decide)).2.1
  revert hsame
  decide

end WtslCore
