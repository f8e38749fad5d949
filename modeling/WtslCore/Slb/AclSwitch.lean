/-
# The ACL switch

Turning the ACL on sets the policy of the FORWARD chain to DROP and appends a
rule for established connections; turning it off flushes the chain and sets
the policy to ACCEPT. What the commands return is not looked at: the flag is
set and 0 is returned, and the next call with the same argument returns at
once, because the flag has it already. The flag tells what the policy is, and
a failure is reported and can be tried again, as long as no policy command
fails (`switch_truthful_iff`).

Key definitions: `AclState`, `aclInitState`, `aclGetStatus`,
`aclToggleSwitch`, `Truthful`, `SwitchCall.Tells`, `SwitchCall.PolicySet`.
Key theorem: `switch_truthful_iff`.
-/
import WtslCore.Lib.Run
import WtslCore.Slb.Kernel

namespace WtslCore

open Runs

/-- The policy of the FORWARD chain. -/
inductive Policy
  | accept
  | drop
  deriving DecidableEq, Repr

/-- `AclGlobalState`, with the firewall it is about: its rules, and the policy
of the FORWARD chain if a command has set it. `rule_count` is the length of
the list. -/
structure AclState where
  enabled : Bool
  rules : List CStr
  defaultDevice : CStr
  kernel : Kernel
  policy : Option Policy

/-- `acl_init_state`, on an empty firewall. -/
def aclInitState (defaultDev : CStr) : AclState := ⟨false, [], defaultDev.take 31, [], none⟩

/-- The answer of `acl_get_status`. -/
structure AclStatus where
  enabled : Bool
  ruleCount : ℕ
  device : CStr
  type : CStr

/-- `acl_get_status`. -/
def aclGetStatus (s : AclState) : AclStatus :=
  ⟨s.enabled, s.rules.length, s.defaultDevice, "iptables".toList⟩

/-- `ex_command` of a command with an effect: its result, and the state after it. -/
def exSwitchCommand (ok : Bool) (effect : AclState → AclState) (s : AclState) : ℤ × AclState :=
  if ok then (0, effect s) else (-1, s)

/-- `iptables -w -F FORWARD`. -/
def flushForward (s : AclState) : AclState :=
  { s with kernel := s.kernel.filter fun r => !inChain "FORWARD".toList r }

/-- `iptables -w -P FORWARD ...`. -/
def setPolicy (p : Policy) (s : AclState) : AclState := { s with policy := some p }

/-- `iptables -w -A FORWARD ...`. -/
def appendForward (spec : List CStr) (s : AclState) : AclState :=
  { s with kernel := s.kernel ++ [.iptables "FORWARD".toList spec] }

/-- The rule for established connections. -/
def establishedSpec : List CStr :=
  ["-m", "state", "--state", "ESTABLISHED,RELATED", "-j", "ACCEPT"].map String.toList

/-- Which of the two commands of a switch succeed. -/
structure SwitchOutcome where
  policy : Bool
  rule : Bool
  deriving DecidableEq, Repr

/-- `acl_toggle_switch`: what it returns, and the state after it. The append
ends in `|| true`; what the commands return is dropped in any case. `canon` is
the form in which the kernel keeps a rule. -/
def aclToggleSwitch (canon : List CStr → List CStr) (enable : Bool) (out : SwitchOutcome)
    (s : AclState) : ℤ × AclState :=
  if s.enabled = enable then (0, s)
  else if !enable then
    let s := (exSwitchCommand out.rule flushForward s).2
    let s := (exSwitchCommand out.policy (setPolicy .accept) s).2
    (0, { s with enabled := false })
  else
    let s := (exSwitchCommand out.policy (setPolicy .drop) s).2
    let s := (exSwitchCommand out.rule (appendForward (canon establishedSpec)) s).2
    (0, { s with enabled := true })

/-- A call of the switch, with what its commands come to. -/
structure SwitchCall where
  enable : Bool
  out : SwitchOutcome

/-- The policy a call asks for. -/
def SwitchCall.target (c : SwitchCall) : Policy := if c.enable then .drop else .accept

/-- The flag of the status is the policy last set. -/
def Truthful (s : AclState) : Prop := (aclGetStatus s).enabled = true ↔ s.policy = some .drop

instance (s : AclState) : Decidable (Truthful s) := inferInstanceAs (Decidable (_ ↔ _))

section

variable (canon : List CStr → List CStr)

/-- One call. -/
def aclSwitchStep (s : AclState) (c : SwitchCall) : Option AclState :=
  some (aclToggleSwitch canon c.enable c.out s).2

/-- After the call the flag is true to the policy. If its policy command was
run and failed, the call says so, and the same call sets the policy when it is
made again and its commands succeed. -/
def SwitchCall.Tells (s : AclState) (c : SwitchCall) : Prop :=
  Truthful (aclToggleSwitch canon c.enable c.out s).2 ∧
    (s.enabled ≠ c.enable → c.out.policy = false →
      (aclToggleSwitch canon c.enable c.out s).1 ≠ 0 ∧
        (aclToggleSwitch canon c.enable ⟨true, true⟩
          (aclToggleSwitch canon c.enable c.out s).2).2.policy = some c.target)

/-- The condition on a call: there is nothing to switch, or its policy command succeeds. -/
def SwitchCall.PolicySet (s : AclState) (c : SwitchCall) : Prop :=
  s.enabled = c.enable ∨ c.out.policy = true

variable {canon} {s : AclState} {c : SwitchCall} {enable : Bool} {out : SwitchOutcome}

/-! ### What a switch does -/

theorem toggle_of_eq (h : s.enabled = enable) : aclToggleSwitch canon enable out s = (0, s) := by
  rw [aclToggleSwitch, if_pos h]

/-- A switch always reports success. -/
theorem toggle_result : (aclToggleSwitch canon enable out s).1 = 0 := by
  unfold aclToggleSwitch
  split_ifs <;> rfl

theorem toggle_enabled : (aclToggleSwitch canon enable out s).2.enabled = enable := by
  unfold aclToggleSwitch
  split_ifs with h h'
  · exact h
  · simpa using h'
  · simpa using h'

/-- The policy is set if its command succeeds, and else stays. -/
theorem toggle_policy (h : s.enabled ≠ c.enable) :
    (aclToggleSwitch canon c.enable c.out s).2.policy =
      if c.out.policy = true then some c.target else s.policy := by
  obtain ⟨enable, p, r⟩ := c
  rw [aclToggleSwitch, if_neg h]
  cases enable <;> cases p <;> cases r <;> rfl

theorem truthful_of_not_policySet (hs : Truthful s) (h : ¬ c.PolicySet s) :
    ¬ Truthful (aclToggleSwitch canon c.enable c.out s).2 := by
  obtain ⟨hne, hp⟩ := not_or.mp h
  unfold Truthful aclGetStatus at hs ⊢
  rw [toggle_enabled, toggle_policy hne, if_neg hp, ← hs]
  cases hc : c.enable <;> simp_all

theorem truthful_of_policySet (hs : Truthful s) (h : c.PolicySet s) :
    Truthful (aclToggleSwitch canon c.enable c.out s).2 := by
  by_cases he : s.enabled = c.enable
  · rw [toggle_of_eq he]
    exact hs
  · have hp : c.out.policy = true := h.resolve_left he
    unfold Truthful aclGetStatus
    rw [toggle_enabled, toggle_policy he, if_pos hp, SwitchCall.target]
    cases c.enable <;> simp

/-- A call tells the truth exactly when its policy command does not fail. -/
theorem tells_iff (hs : Truthful s) : c.Tells canon s ↔ c.PolicySet s := by
  constructor
  · intro h
    by_contra hn
    exact truthful_of_not_policySet hs hn h.1
  · intro h
    refine ⟨truthful_of_policySet hs h, fun he hp => ?_⟩
    rcases h with h | h
    · exact absurd h he
    · rw [h] at hp
      exact nomatch hp

/-- The flag tells the truth after every call, and failures are reported and
can be tried again, in exactly the runs in which no policy command fails. -/
theorem switch_truthful_iff (canon : List CStr → List CStr) (defaultDev : CStr)
    (calls : List SwitchCall) (s : AclState) :
    Run (aclSwitchStep canon) (fun s c => c.Tells canon s) (aclInitState defaultDev) calls s ↔
      Run (aclSwitchStep canon) (fun s c => c.PolicySet s) (aclInitState defaultDev) calls s := by
  refine Run.meets_iff (K := Truthful) ?_ (fun s c hs => tells_iff hs) fun s c s' hs hok h => ?_
  · exact iff_of_false Bool.false_ne_true fun h => nomatch h
  · obtain rfl := Option.some.inj h
    exact truthful_of_policySet hs hok

end

/-- The policy command fails: the flag is set, success is reported, and trying
again does nothing. -/
theorem switch_untruthful : ∃ s,
    exec (aclSwitchStep id) (aclInitState "wt_br0".toList) [⟨true, ⟨false, true⟩⟩] = some s ∧
      (aclGetStatus s).enabled = true ∧ s.policy = none ∧ ¬ Truthful s ∧
      (aclToggleSwitch id true ⟨false, true⟩ (aclInitState "wt_br0".toList)).1 = 0 ∧
      aclToggleSwitch id true ⟨true, true⟩ s = (0, s) :=
  ⟨_, rfl, rfl, rfl, by decide, rfl, rfl⟩

end WtslCore
