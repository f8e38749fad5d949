/-
# The QoS switch and its snapshot

A tc or iptables request that adds or replaces a rule is recorded, as its
text, when its command succeeds. Turning the switch off deletes the root and
the ingress qdisc of the default device and the recorded iptables rules;
turning it on runs the recorded commands again.

The snapshot mirrors the kernel as long as every command that has an effect
is recorded and only concerns the default device (`QosCall.Mirrored`): then
off and on again is the identity (`toggle_restores`). Deletions, changes,
commands seen before or beyond the 256th, other devices, and every iptables
rule break it: the command that should delete the latter ends after
`iptables -D`, whatever the rule is (`cleansUp_iff`).

Key definitions: `QosState`, `recordRule`, `tcHandleRequest`,
`iptablesHandleRequest`, `delCmd`, `qosToggleSwitch`, `Restores`,
`QosCall.Mirrored`, `CleansUp`.
Key theorems: `qosStep_cases`, `Mirror.step`, `Mirror.restores`,
`toggle_restores`, `delCmd_cases`, `cleansUp_iff`.
-/
import WtslCore.Lib.Run
import WtslCore.Slb.Kernel
import WtslCore.Slb.QosCore

namespace WtslCore

open Runs

/-- `MAX_SNAPSHOT_RULES`. -/
def maxSnapshotRules : ℕ := 256

/-- `QosGlobalState`, with the kernel it is about. The default device is
`netBridgeName` throughout. -/
structure QosState where
  enabled : Bool
  snapshotRules : List CStr
  kernel : Kernel

/-- `qos_init_state`. -/
def qosInitState (k : Kernel) : QosState := ⟨true, [], k⟩

/-- `record_rule`. -/
def recordRule (rules : List CStr) (cmd : CStr) : List CStr :=
  if rules.length ≥ maxSnapshotRules then rules
  else if cmd ∈ rules then rules
  else rules ++ [cmd]

section

variable (shell : Kernel → CStr → Kernel)

/-- `ex_command`, for a command that succeeds or fails. -/
def exCommand (ok : Bool) (cmd : CStr) (s : QosState) : QosState :=
  if ok then { s with kernel := run shell s.kernel cmd } else s

/-- `tc_handle_request`; `ok` is the outcome of the command. -/
def tcHandleRequest (action objType : CStr) (params : Json) (ok : Bool) (s : QosState) :
    Option QosState :=
  (tcCommand action objType params).map fun ps =>
    let cmd := cmdText ps
    let s := exCommand shell ok cmd s
    if ok ∧ (action = "add".toList ∨ action = "replace".toList) then
      { s with snapshotRules := recordRule s.snapshotRules cmd }
    else s

/-- `iptables_handle_request`. -/
def iptablesHandleRequest (action chain : CStr) (params : Json) (ok : Bool) (s : QosState) :
    Option QosState :=
  (iptablesCommand action chain params).map fun ps =>
    let cmd := cmdText ps
    let s := exCommand shell ok cmd s
    if ok ∧ (action = "add".toList ∨ action = "insert".toList ∨ action = "replace".toList) then
      { s with snapshotRules := recordRule s.snapshotRules cmd }
    else s

/-- What turning the switch off runs for a recorded rule. -/
def delCmd (rule : CStr) : Option CStr :=
  -- `memcpy(.., "iptables -D", 13)` copies the terminator, so the rest is lost
  let cutAt (pre : CStr) := some (pre ++ "iptables -D".toList)
  if (strstr "iptables".toList rule).isNone then none
  else
    match strstr "iptables -A".toList rule, strstr "iptables -I".toList rule with
    | some pre, _ => cutAt pre
    | none, some pre => cutAt pre
    | none, none => if (strstr "iptables -R".toList rule).isSome then none else some rule

/-- `tc qdisc del dev <device> <parent>`. -/
def clearCmd (parent : String) : CStr :=
  "tc qdisc del dev ".toList ++ netBridgeName.toList ++ ' ' :: parent.toList

/-- The commands that turn the switch off. -/
def disableCmds (rules : List CStr) : List CStr :=
  [clearCmd "root", clearCmd "ingress"] ++ rules.filterMap delCmd

/-- `qos_toggle_switch`. -/
def qosToggleSwitch (enable : Bool) (s : QosState) : QosState :=
  if s.enabled = enable then s
  else if enable then
    { s with kernel := s.snapshotRules.foldl (run shell) s.kernel, enabled := true }
  else
    { s with kernel := (disableCmds s.snapshotRules).foldl (run shell) s.kernel, enabled := false }

/-! ### Calls -/

/-- A call, with the outcome of its command. -/
inductive QosCall
  | tc (action objType : CStr) (params : Json) (ok : Bool)
  | iptables (action chain : CStr) (params : Json) (ok : Bool)

namespace QosCall

def command : QosCall → Option CStr
  | .tc action objType params _ => (tcCommand action objType params).map cmdText
  | .iptables action chain params _ => (iptablesCommand action chain params).map cmdText

def ok : QosCall → Bool
  | .tc _ _ _ ok | .iptables _ _ _ ok => ok

/-- The actions after which a command is recorded. -/
def Recorded : QosCall → Prop
  | .tc action _ _ _ => action = "add".toList ∨ action = "replace".toList
  | .iptables action _ _ _ =>
    action = "add".toList ∨ action = "insert".toList ∨ action = "replace".toList

instance : ∀ c : QosCall, Decidable c.Recorded
  | .tc action _ _ _ => inferInstanceAs (Decidable (action = "add".toList ∨ action = "replace".toList))
  | .iptables action _ _ _ => inferInstanceAs
    (Decidable (action = "add".toList ∨ action = "insert".toList ∨ action = "replace".toList))

end QosCall

/-- A step of a sequence of calls. A call that reads a NULL string or outgrows
its buffer ends the sequence. -/
def qosStep (s : QosState) : QosCall → Option QosState
  | .tc action objType params ok => tcHandleRequest shell action objType params ok s
  | .iptables action chain params ok => iptablesHandleRequest shell action chain params ok s

/-- A command that is undone with the default device and done again by itself. -/
def Restorable (cmd : CStr) : Prop :=
  PlainWords cmd ∧ delCmd cmd = none ∧
    ∀ op, parseCommand cmd = some op → op.OnDevice netBridgeName.toList

/-- The condition on a call: its command fails, or it is recorded as a new one
and is restorable, or it is not recorded and has no effect. -/
def QosCall.Mirrored (s : QosState) (c : QosCall) : Prop :=
  ∀ cmd, c.command = some cmd → c.ok = true →
    if c.Recorded ∧ s.snapshotRules.length < maxSnapshotRules ∧ cmd ∉ s.snapshotRules
    then Restorable cmd
    else run shell s.kernel cmd = s.kernel

/-- The rules that stand before the first call: none of the default device. -/
structure ForeignRules where
  rules : Kernel
  off : ∀ r ∈ rules, offDevice netBridgeName.toList r = true

/-- Off leaves the rules that stood before the calls; on again brings back the
rules of before, in their order. -/
def Restores (k₀ : ForeignRules) (s : QosState) : Prop :=
  (qosToggleSwitch shell false s).kernel = k₀.rules ∧
    (qosToggleSwitch shell true (qosToggleSwitch shell false s)).kernel = s.kernel

/-! ### The snapshot mirrors the kernel -/

/-- The kernel is what the snapshot makes of the foreign rules. -/
structure Mirror (k₀ : ForeignRules) (s : QosState) : Prop where
  enabled : s.enabled = true
  kernel_eq : s.kernel = s.snapshotRules.foldl (run shell) k₀.rules
  restorable : ∀ cmd ∈ s.snapshotRules, Restorable cmd

variable {shell} {k₀ : ForeignRules} {s s' : QosState} {c : QosCall}

/-- A command and its record leave the state alone if the command fails; else it is run and recorded. -/
theorem exCommand_record_cases (P : Prop) [Decidable P] (ok : Bool) (cmd : CStr) (s : QosState) :
    let t := if ok = true ∧ P then
      { exCommand shell ok cmd s with
        snapshotRules := recordRule (exCommand shell ok cmd s).snapshotRules cmd }
      else exCommand shell ok cmd s
    (ok = false ∧ t = s) ∨
      (ok = true ∧ t = ⟨s.enabled, if P then recordRule s.snapshotRules cmd else s.snapshotRules,
        run shell s.kernel cmd⟩) := by
  cases ok with
  | false => exact .inl ⟨rfl, by simp [exCommand]⟩
  | true => exact .inr ⟨rfl, by by_cases hP : P <;> simp [exCommand, hP]⟩

/-- What a call does: its command, if it succeeds, and then the record. -/
theorem qosStep_cases (h : qosStep shell s c = some s') :
    ∃ cmd, c.command = some cmd ∧
      ((c.ok = false ∧ s' = s) ∨
        (c.ok = true ∧ s' = ⟨s.enabled,
          if c.Recorded then recordRule s.snapshotRules cmd else s.snapshotRules,
          run shell s.kernel cmd⟩)) := by
  cases c with
  | tc action objType params ok =>
    obtain ⟨ps, hps, rfl⟩ := Option.map_eq_some_iff.mp h
    exact ⟨cmdText ps, by simp [QosCall.command, hps], exCommand_record_cases _ ok _ s⟩
  | iptables action chain params ok =>
    obtain ⟨ps, hps, rfl⟩ := Option.map_eq_some_iff.mp h
    exact ⟨cmdText ps, by simp [QosCall.command, hps], exCommand_record_cases _ ok _ s⟩

theorem recordRule_of_new {rules : List CStr} {cmd : CStr} (h : rules.length < maxSnapshotRules)
    (hm : cmd ∉ rules) : recordRule rules cmd = rules ++ [cmd] := by
  rw [recordRule, if_neg (by omega), if_neg hm]

theorem recordRule_of_not_new {rules : List CStr} {cmd : CStr}
    (h : ¬ (rules.length < maxSnapshotRules ∧ cmd ∉ rules)) : recordRule rules cmd = rules := by
  unfold recordRule
  split_ifs with h1 h2
  · rfl
  · rfl
  · exact absurd ⟨by omega, h2⟩ h

/-- **A mirrored call keeps the mirror.** -/
theorem Mirror.step (hm : Mirror shell k₀ s) (hok : c.Mirrored shell s)
    (h : qosStep shell s c = some s') : Mirror shell k₀ s' := by
  obtain ⟨cmd, hc, ⟨-, rfl⟩ | ⟨ho, rfl⟩⟩ := qosStep_cases h
  · exact hm
  · have hmir := hok cmd hc ho
    by_cases hnew : c.Recorded ∧ s.snapshotRules.length < maxSnapshotRules ∧ cmd ∉ s.snapshotRules
    · rw [if_pos hnew] at hmir
      have hrec : (if c.Recorded then recordRule s.snapshotRules cmd else s.snapshotRules) =
          s.snapshotRules ++ [cmd] := by
        rw [if_pos hnew.1, recordRule_of_new hnew.2.1 hnew.2.2]
      refine ⟨hm.enabled, ?_, ?_⟩
      · show run shell s.kernel cmd = _
        rw [hrec, List.foldl_append, ← hm.kernel_eq]
        rfl
      · intro cmd' hcmd'
        rw [hrec] at hcmd'
        rcases List.mem_append.mp hcmd' with h' | h'
        · exact hm.restorable cmd' h'
        · obtain rfl := List.mem_singleton.mp h'
          exact hmir
    · rw [if_neg hnew] at hmir
      have hrec : (if c.Recorded then recordRule s.snapshotRules cmd else s.snapshotRules) =
          s.snapshotRules := by
        split_ifs with hr
        · exact recordRule_of_not_new fun h' => hnew ⟨hr, h'⟩
        · rfl
      rw [hrec, hmir]
      exact hm

theorem filter_foreign : k₀.rules.filter (offDevice netBridgeName.toList) = k₀.rules :=
  List.filter_eq_self.mpr k₀.off

/-- The recorded commands keep the rules off the default device. -/
theorem filter_replay : ∀ {rules : List CStr} (k : Kernel), (∀ cmd ∈ rules, Restorable cmd) →
    (rules.foldl (run shell) k).filter (offDevice netBridgeName.toList) =
      k.filter (offDevice netBridgeName.toList)
  | [], _, _ => rfl
  | cmd :: rules, k, h => by
    obtain ⟨hw, -, hop⟩ := h cmd List.mem_cons_self
    calc ((cmd :: rules).foldl (run shell) k).filter (offDevice netBridgeName.toList)
        = (run shell k cmd).filter (offDevice netBridgeName.toList) :=
          filter_replay _ fun cmd' hc => h cmd' (List.mem_cons_of_mem _ hc)
      _ = k.filter (offDevice netBridgeName.toList) := filter_run_of_onDevice hw hop

/-- Without iptables rules in the snapshot, turning off clears the device. -/
theorem disable_kernel {rules : List CStr} (k : Kernel) (h : ∀ cmd ∈ rules, delCmd cmd = none) :
    (disableCmds rules).foldl (run shell) k = k.filter (offDevice netBridgeName.toList) := by
  have hnone : rules.filterMap delCmd = [] := List.filterMap_eq_nil_iff.mpr h
  have hroot : run shell k (clearCmd "root") =
      (KernelOp.deleteObjects "qdisc".toList netBridgeName.toList ["root".toList]).apply k := rfl
  have hingress : ∀ k', run shell k' (clearCmd "ingress") =
      (KernelOp.deleteObjects "qdisc".toList netBridgeName.toList ["ingress".toList]).apply k' :=
    fun _ => rfl
  rw [disableCmds, hnone, List.append_nil]
  show run shell (run shell k (clearCmd "root")) (clearCmd "ingress") = _
  rw [hroot, hingress, deleteObjects_root_ingress]

/-- **A mirrored kernel survives the switch.** -/
theorem Mirror.restores (h : Mirror shell k₀ s) : Restores shell k₀ s := by
  have hoff : (qosToggleSwitch shell false s).kernel = k₀.rules := by
    have hne : ¬ s.enabled = false := by simp [h.enabled]
    rw [qosToggleSwitch, if_neg hne, if_neg (by decide)]
    show (disableCmds s.snapshotRules).foldl (run shell) s.kernel = _
    rw [disable_kernel _ fun cmd hc => (h.restorable cmd hc).2.1, h.kernel_eq,
      filter_replay _ h.restorable, filter_foreign]
  refine ⟨hoff, ?_⟩
  have hen : (qosToggleSwitch shell false s).enabled = false := by
    simp [qosToggleSwitch, h.enabled]
  have hrules : (qosToggleSwitch shell false s).snapshotRules = s.snapshotRules := by
    simp [qosToggleSwitch, h.enabled]
  rw [qosToggleSwitch, if_neg (by simp [hen]), if_pos rfl]
  show (qosToggleSwitch shell false s).snapshotRules.foldl (run shell)
    (qosToggleSwitch shell false s).kernel = _
  rw [hrules, hoff, ← h.kernel_eq]

/-- **Off and on again restores the rules**, in every state a sequence of
mirrored calls reaches. -/
theorem toggle_restores (shell : Kernel → CStr → Kernel) (k₀ : ForeignRules) (calls : List QosCall)
    (s : QosState)
    (h : Run (qosStep shell) (fun s c => c.Mirrored shell s) (qosInitState k₀.rules) calls s) :
    Restores shell k₀ s := by
  have h0 : Mirror shell k₀ (qosInitState k₀.rules) := ⟨rfl, rfl, by simp [qosInitState]⟩
  have hm : Mirror shell k₀ s := h.invariant h0 fun _ _ _ hI hok hs => hI.step hok hs
  exact hm.restores

end

/-- A shell that does nothing but run words. -/
def wordsOnly : Kernel → CStr → Kernel := fun k _ => k

/-- A rule that stood before. -/
def dropForward : ForeignRules where
  rules := [.iptables "FORWARD".toList ["-j".toList, "DROP".toList]]
  off := by decide

/-- A root qdisc for the default device. -/
def addHtb : QosCall :=
  .tc "add".toList "qdisc".toList
    (.object [("handle".toList, .string "1:".toList), ("kind".toList, .string "htb".toList)]) true

/-- A class below it, which fails. -/
def addClassFails : QosCall :=
  .tc "add".toList "class".toList (.object [("classid".toList, .string "1:1".toList)]) false

/-- An added qdisc and a failed class survive the switch. -/
theorem toggle_restores_htb : ∃ s,
    exec (qosStep wordsOnly) (qosInitState dropForward.rules) [addHtb, addClassFails] = some s ∧
      s.snapshotRules = ["tc qdisc add dev wt_br0 root handle 1: htb".toList] ∧
      s.kernel.length = 2 ∧ Restores wordsOnly dropForward s := by
  have hcmd : addHtb.command = some "tc qdisc add dev wt_br0 root handle 1: htb".toList := rfl
  have h1 : addHtb.Mirrored wordsOnly (qosInitState dropForward.rules) := by
    intro cmd hc _
    rw [hcmd] at hc
    cases hc
    rw [if_pos ⟨.inl rfl, by decide, by decide⟩]
    refine ⟨by decide, rfl, fun op hop => ?_⟩
    cases hop
    rfl
  have h2 : ∀ s, addClassFails.Mirrored wordsOnly s := by
    intro s cmd _ ho
    exact nomatch ho
  exact ⟨_, rfl, rfl, rfl,
    toggle_restores wordsOnly dropForward [addHtb, addClassFails] _
      (.snoc (.snoc .nil h1 rfl) (h2 _) rfl)⟩

/-- An iptables rule. -/
def addForward : QosCall :=
  .iptables "add".toList "FORWARD".toList
    (.object [("args".toList, .object [("jump".toList, .string "ACCEPT".toList)])]) true

/-- The rule `addForward` installs. -/
def acceptForward : KernelRule :=
  .iptables "FORWARD".toList (["-i", "wt_br0", "-j", "ACCEPT"].map String.toList)

/-- An iptables rule stays when the switch is turned off, and is there twice
when it is on again. -/
theorem toggle_keeps_iptables : ∃ s,
    exec (qosStep wordsOnly) (qosInitState []) [addForward] = some s ∧
      s.kernel = [acceptForward] ∧
      (qosToggleSwitch wordsOnly false s).kernel = [acceptForward] ∧
      (qosToggleSwitch wordsOnly true (qosToggleSwitch wordsOnly false s)).kernel =
        [acceptForward, acceptForward] :=
  ⟨_, rfl, by decide, by decide, by decide⟩

/-! ### The rules that are cleaned up -/

/-- An entry for a rule of a chain. -/
def ruleText (flag chain rest : CStr) : CStr :=
  "iptables ".toList ++ (flag ++ ' ' :: (chain ++ ' ' :: rest))

/-- An appended or inserted rule. -/
def IsRuleText (rule : CStr) : Prop :=
  ∃ flag ∈ ["-A".toList, "-I".toList], ∃ chain rest, rule = ruleText flag chain rest

/-- **An entry is cleaned up**: an appended or inserted rule is deleted by its
own text, and no other entry is run unless it is as it was recorded. -/
structure CleansUp (rule : CStr) : Prop where
  deletes : ∀ flag ∈ ["-A".toList, "-I".toList], ∀ chain rest, rule = ruleText flag chain rest →
    delCmd rule = some (ruleText "-D".toList chain rest)
  keeps : ¬ IsRuleText rule → ∀ cmd ∈ delCmd rule, cmd = rule

/-- What is run for an entry: it is cut behind the first command that adds a
rule, or left as it is. -/
theorem delCmd_cases (rule : CStr) :
    (∃ flag pre rest, flag ∈ ['A', 'I'] ∧ rule = pre ++ ("iptables -".toList ++ flag :: rest) ∧
      delCmd rule = some (pre ++ "iptables -D".toList)) ∨
    (¬ "iptables -A".toList <:+: rule ∧ ¬ "iptables -I".toList <:+: rule) ∧
      ∀ cmd ∈ delCmd rule, cmd = rule := by
  have hword : ∀ {needle : CStr}, "iptables".toList <:+: needle → needle <:+: rule →
      (strstr "iptables".toList rule).isNone = false := by
    intro needle hneedle hrule
    have hsome := (strstr_isSome_iff rule).mpr (hneedle.trans hrule)
    rw [Option.isNone_eq_false_iff]
    exact hsome
  unfold delCmd
  dsimp only
  cases happend : strstr "iptables -A".toList rule with
  | some pre =>
    obtain ⟨rest, hrule⟩ := eq_append_of_strstr happend
    rw [hword ⟨[], " -A".toList, rfl⟩ (infix_of_strstr happend), if_neg Bool.noConfusion]
    exact .inl ⟨'A', pre, rest, by decide, hrule, rfl⟩
  | none =>
    cases hinsert : strstr "iptables -I".toList rule with
    | some pre =>
      obtain ⟨rest, hrule⟩ := eq_append_of_strstr hinsert
      rw [hword ⟨[], " -I".toList, rfl⟩ (infix_of_strstr hinsert), if_neg Bool.noConfusion]
      exact .inl ⟨'I', pre, rest, by decide, hrule, rfl⟩
    | none =>
      refine .inr ⟨⟨not_infix_of_strstr happend, not_infix_of_strstr hinsert⟩, fun cmd hcmd => ?_⟩
      dsimp only at hcmd
      split_ifs at hcmd
      · exact absurd hcmd (Option.not_mem_none cmd)
      · exact absurd hcmd (Option.not_mem_none cmd)
      · exact (Option.some.inj hcmd).symm

/-- What follows the flag, of two characters. -/
theorem drop_ruleText {flag : CStr} (hflag : flag.length = 2) (chain rest : CStr) :
    (ruleText flag chain rest).drop 11 = ' ' :: (chain ++ ' ' :: rest) := by
  have hlen : ("iptables ".toList ++ flag).length = 11 := by
    rw [List.length_append, hflag]
    rfl
  unfold ruleText
  rw [← List.append_assoc]
  rw [List.drop_left' hlen]

/-- A command that is cut is not the one that deletes the rule: the letter that
is replaced is another one, or nothing follows it. -/
theorem cut_ne_delete {flag chain rest pre tail : CStr} {c : Char} (hflag : flag.length = 2)
    (hc : c ≠ 'D') (h : ruleText flag chain rest = pre ++ ("iptables -".toList ++ c :: tail)) :
    pre ++ "iptables -D".toList ≠ ruleText "-D".toList chain rest := by
  intro heq
  -- from the twelfth character on, the texts agree
  have hback : ∀ j, (pre ++ ("iptables -".toList ++ c :: tail))[11 + j]? =
      (pre ++ "iptables -D".toList)[11 + j]? := by
    intro j
    rw [← List.getElem?_drop, ← List.getElem?_drop, ← h, heq, drop_ruleText hflag, drop_ruleText rfl]
  cases hlen : pre.length with
  | zero =>
    have hshort := congrArg (List.drop 11) heq
    rw [drop_ruleText rfl, List.length_eq_zero_iff.mp hlen] at hshort
    exact absurd hshort.symm (List.cons_ne_nil _ _)
  | succ j =>
    have hat := hback j
    have hpos : 11 + j = pre.length + 10 := by omega
    rw [hpos, List.getElem?_append_right (Nat.le_add_right _ _),
      List.getElem?_append_right (Nat.le_add_right _ _), Nat.add_sub_cancel_left] at hat
    exact hc (Option.some.inj hat)

/-- **An entry is cleaned up if and only if it adds no rule.** -/
theorem cleansUp_iff (rule : CStr) : CleansUp rule ↔
    ¬ "iptables -A".toList <:+: rule ∧ ¬ "iptables -I".toList <:+: rule := by
  rcases delCmd_cases rule with ⟨c, pre, tail, hc, hrule, hcut⟩ | ⟨hnone, hkeep⟩
  · have hadds : "iptables -A".toList <:+: rule ∨ "iptables -I".toList <:+: rule := by
      rcases List.mem_cons.mp hc with rfl | hc
      · exact .inl ⟨pre, tail, by rw [hrule, List.append_assoc]; rfl⟩
      · rw [List.mem_singleton.mp hc] at hrule
        exact .inr ⟨pre, tail, by rw [hrule, List.append_assoc]; rfl⟩
    have hletter : c ≠ 'D' := by
      rintro rfl
      exact absurd hc (by decide)
    refine iff_of_false (fun h => ?_) fun h => hadds.elim h.1 h.2
    by_cases hform : IsRuleText rule
    · obtain ⟨flag, hflag, chain, rest, htext⟩ := hform
      have hlen : ∀ f ∈ ["-A".toList, "-I".toList], f.length = 2 := by decide
      have hwanted := hcut.symm.trans (h.deletes flag hflag chain rest htext)
      exact cut_ne_delete (hlen flag hflag) hletter (htext.symm.trans hrule) (Option.some.inj hwanted)
    · have hsame := h.keeps hform _ hcut
      rw [hrule] at hsame
      have htail := List.append_cancel_left hsame
      have hhead := congrArg (fun l : CStr => l[10]?) htail
      exact hletter (Option.some.inj hhead).symm
  · refine iff_of_true ⟨fun flag hflag chain rest htext => ?_, fun _ => hkeep⟩ hnone
    have hin : "iptables -A".toList <:+: rule ∨ "iptables -I".toList <:+: rule := by
      rcases List.mem_cons.mp hflag with rfl | hflag
      · exact .inl ⟨[], ' ' :: (chain ++ ' ' :: rest), by rw [htext]; rfl⟩
      · rw [List.mem_singleton.mp hflag] at htext
        exact .inr ⟨[], ' ' :: (chain ++ ' ' :: rest), by rw [htext]; rfl⟩
    exact (hin.elim hnone.1 hnone.2).elim

/-- The entry of an added rule is run as `iptables -D`. -/
theorem cleansUp_addForward : ∃ s, exec (qosStep wordsOnly) (qosInitState []) [addForward] = some s ∧
    ∃ rule ∈ s.snapshotRules, delCmd rule = some "iptables -D".toList ∧ ¬ CleansUp rule := by
  refine ⟨_, rfl, "iptables -A FORWARD -i wt_br0 -j ACCEPT".toList, by decide, by decide, fun h => ?_⟩
  have hwanted := h.deletes "-A".toList (by decide) "FORWARD".toList "-i wt_br0 -j ACCEPT".toList rfl
  exact absurd hwanted (by decide)

end WtslCore
