/-
# The rules of the kernel and the commands that change them

The kernel holds its traffic control objects and iptables rules in the order
they stand. A command is read word by word, as the shell splits it: tc adds,
replaces, changes and deletes the object its words address, and deleting the
root (or the ingress) of a device takes everything below it; iptables appends,
inserts, replaces and deletes a rule of a chain. A command that is none of
these changes nothing (`run`). Redirections of the error stream are left out,
and a line that is more than words to the shell may do anything.

What holds of one kind of command is said with a device: an operation that
puts objects on a device only (`KernelOp.OnDevice`) keeps all other rules.

Key definitions: `KernelRule`, `KernelOp`, `KernelOp.apply`, `parseCommand`,
`run`, `offDevice`.
Key theorems: `filter_apply_of_onDevice`, `deleteObjects_root_ingress`.
-/
import WtslCore.Lib.CStr
import WtslCore.Lib.FirstMatch
import WtslCore.Lib.Shell

namespace WtslCore

/-- A rule, with the words that follow its device or its chain. -/
inductive KernelRule
  | tc (objType dev : CStr) (spec : List CStr)
  | iptables (chain : CStr) (spec : List CStr)
  deriving DecidableEq

abbrev Kernel := List KernelRule

/-- The word after a keyword. -/
def wordAfter (kw : CStr) : List CStr → Option CStr
  | w :: v :: ws => if w = kw then some v else wordAfter kw (v :: ws)
  | _ => none

/-- The object is the ingress of its device, or hangs below it. -/
def underIngress (spec : List CStr) : Bool :=
  "ingress".toList ∈ spec ∨
    (wordAfter "parent".toList spec).map (List.take 5) = some "ffff:".toList

/-- What tells the objects of one type and device apart. -/
def tcKey (objType : CStr) (spec : List CStr) : List (Option CStr) :=
  if objType = "class".toList then [wordAfter "classid".toList spec]
  else if objType = "filter".toList then
    ["parent", "protocol", "prio"].map fun kw => wordAfter kw.toList spec
  else [wordAfter "parent".toList spec]

/-- The object of a tc rule, if another one has the same address. -/
def sameObject : KernelRule → KernelRule → Bool
  | .tc t d s, .tc t' d' s' =>
    t = t' ∧ d = d' ∧ underIngress s = underIngress s' ∧ tcKey t s = tcKey t' s'
  | _, _ => false

def inChain (chain : CStr) : KernelRule → Bool
  | .iptables c _ => c = chain
  | .tc _ _ _ => false

/-- What a command does. -/
inductive KernelOp
  | append (r : KernelRule)
  | replaceObject (r : KernelRule)
  | changeObject (r : KernelRule)
  | deleteObjects (objType dev : CStr) (spec : List CStr)
  | insertAt (chain : CStr) (n : ℕ) (spec : List CStr)
  | replaceAt (chain : CStr) (n : ℕ) (spec : List CStr)
  | deleteAt (chain : CStr) (n : ℕ)
  | deleteRule (chain : CStr) (spec : List CStr)

/-- The `n`-th element with a property, replaced by a list; `atEnd` if there
are no more than `n` of them. -/
def editNth {α : Type*} (p : α → Bool) (f : α → List α) (atEnd : List α) : ℕ → List α → List α
  | _, [] => atEnd
  | 0, a :: l => if p a then f a ++ l else a :: editNth p f atEnd 0 l
  | n + 1, a :: l => a :: editNth p f atEnd (if p a then n else n + 1) l

/-- The rule is an object a `tc ... del` command addresses. -/
def addressed (objType dev : CStr) (spec : List CStr) : KernelRule → Bool
  | .tc t d s =>
    d = dev ∧
      if "root".toList ∈ spec then underIngress s = false
      else if "ingress".toList ∈ spec then underIngress s = true
      else t = objType ∧ spec ≠ [] ∧ ∀ kw ∈ ["parent".toList, "handle".toList],
        wordAfter kw spec = none ∨ wordAfter kw s = wordAfter kw spec
  | .iptables _ _ => false

namespace KernelOp

/-- The rules after an operation. -/
def apply (k : Kernel) : KernelOp → Kernel
  | .append r => k ++ [r]
  | .replaceObject r =>
    if k.any (sameObject r) then updateFirst (sameObject r) (fun _ => r) k else k ++ [r]
  | .changeObject r => updateFirst (sameObject r) (fun _ => r) k
  | .deleteObjects objType dev spec => k.filter fun r => !addressed objType dev spec r
  | .insertAt chain n spec =>
    editNth (inChain chain) (fun r => [.iptables chain spec, r]) [.iptables chain spec] n k
  | .replaceAt chain n spec => editNth (inChain chain) (fun _ => [.iptables chain spec]) [] n k
  | .deleteAt chain n => editNth (inChain chain) (fun _ => []) [] n k
  | .deleteRule chain spec => k.erase (.iptables chain spec)

/-- The operation adds or replaces an object of the device. -/
def OnDevice (dev : CStr) : KernelOp → Prop
  | .append (.tc _ d _) | .replaceObject (.tc _ d _) => d = dev
  | _ => False

instance (dev : CStr) : ∀ op, Decidable (OnDevice dev op)
  | .append (.tc _ d _) | .replaceObject (.tc _ d _) => inferInstanceAs (Decidable (d = dev))
  | .append (.iptables _ _) | .replaceObject (.iptables _ _) | .changeObject _
  | .deleteObjects _ _ _ | .insertAt _ _ _ | .replaceAt _ _ _ | .deleteAt _ _ | .deleteRule _ _ =>
    inferInstanceAs (Decidable False)

end KernelOp

/-! ### Reading a command -/

/-- The words of a command. -/
def shellWords (cmd : CStr) : List CStr := (cmd.splitOnP Shell.isBlank).filter fun w => !w.isEmpty

theorem shellWords_cons {w : CStr} (hw : w ≠ []) (hb : ∀ c ∈ w, Shell.isBlank c = false) (t : CStr) :
    shellWords (w ++ ' ' :: t) = w :: shellWords t := by
  rw [shellWords, List.splitOnP_append_cons_of_forall_mem hb ' ' rfl, List.filter_cons_of_pos]
  · rfl
  · simpa using hw

/-- A rule number at the start of the words, counted from 0, and the words
after it. -/
def ruleNumber : List CStr → Option (ℕ × List CStr)
  | w :: ws => if w.all Char.isDigit then some (digitsVal w - 1, ws) else none
  | [] => none

/-- `tc <type> <action> dev <dev> ...`. -/
def parseTc : List CStr → Option KernelOp
  | objType :: action :: kw :: dev :: spec =>
    if kw ≠ "dev".toList then none
    else if action = "add".toList then some (.append (.tc objType dev spec))
    else if action = "replace".toList then some (.replaceObject (.tc objType dev spec))
    else if action = "change".toList then some (.changeObject (.tc objType dev spec))
    else if action = "del".toList then some (.deleteObjects objType dev spec)
    else none
  | _ => none

/-- `iptables <flag> <chain> ...`. -/
def parseIptables : List CStr → Option KernelOp
  | flag :: chain :: spec =>
    if flag = "-A".toList then some (.append (.iptables chain spec))
    else if flag = "-I".toList then
      match ruleNumber spec with
      | some (n, spec) => some (.insertAt chain n spec)
      | none => some (.insertAt chain 0 spec)
    else if flag = "-R".toList then (ruleNumber spec).map fun x => .replaceAt chain x.1 x.2
    else if flag = "-D".toList then
      match ruleNumber spec with
      | some (n, _) => some (.deleteAt chain n)
      | none => some (.deleteRule chain spec)
    else none
  | _ => none

/-- What a command does, if it is one that does something. -/
def parseCommand (cmd : CStr) : Option KernelOp :=
  match shellWords cmd with
  | prog :: ws =>
    if prog = "tc".toList then parseTc ws
    else if prog = "iptables".toList then parseIptables ws
    else none
  | [] => none

/-- The shell reads the command as words. -/
def PlainWords (cmd : CStr) : Prop :=
  ∀ r ∈ Shell.roles .start (cmd.map fun c => (c, true)), r.1 = .plain ∨ r.1 = .blank

instance (cmd : CStr) : Decidable (PlainWords cmd) :=
  inferInstanceAs (Decidable (∀ r ∈ Shell.roles .start (cmd.map fun c => (c, true)),
    r.1 = .plain ∨ r.1 = .blank))

/-- The rules after a command that succeeds. What a command line with more
than words in it does is left to `shell`. -/
def run (shell : Kernel → CStr → Kernel) (k : Kernel) (cmd : CStr) : Kernel :=
  if PlainWords cmd then
    match parseCommand cmd with
    | some op => op.apply k
    | none => k
  else shell k cmd

/-! ### The rules of one device -/

/-- The rule is no object of the device. -/
def offDevice (dev : CStr) : KernelRule → Bool
  | .tc _ d _ => d ≠ dev
  | .iptables _ _ => true

variable {dev : CStr} {k : Kernel}

/-- What adds to a device keeps the other rules. -/
theorem filter_apply_of_onDevice : ∀ {op : KernelOp}, op.OnDevice dev →
    (op.apply k).filter (offDevice dev) = k.filter (offDevice dev)
  | .append (.tc t d s), h => by
    have hd : offDevice dev (.tc t d s) = false := by
      have : d = dev := h
      simp [offDevice, this]
    simp [KernelOp.apply, List.filter_append, hd]
  | .replaceObject (.tc t d s), h => by
    have hdev : d = dev := h
    have hd : offDevice dev (.tc t d s) = false := by simp [offDevice, hdev]
    have hsame : ∀ r, sameObject (.tc t d s) r = true → offDevice dev r = false := by
      intro r hr
      cases r with
      | tc t' d' s' =>
        have hd' : d = d' := by
          simp only [sameObject, decide_eq_true_eq] at hr
          exact hr.2.1
        simp [offDevice, ← hd', hdev]
      | iptables c s' => exact Bool.noConfusion hr
    show (if k.any (sameObject (.tc t d s)) then
      updateFirst (sameObject (.tc t d s)) (fun _ => .tc t d s) k
        else k ++ [.tc t d s]).filter (offDevice dev) = k.filter (offDevice dev)
    split
    · refine filter_updateFirst fun r hr => ⟨hsame r ?_, hd⟩
      exact List.find?_some hr
    · simp [List.filter_append, hd]
  | .append (.iptables _ _), h | .replaceObject (.iptables _ _), h | .changeObject _, h
  | .deleteObjects _ _ _, h | .insertAt _ _ _, h | .replaceAt _ _ _, h | .deleteAt _ _, h
  | .deleteRule _ _, h => h.elim

theorem filter_run_of_onDevice {shell : Kernel → CStr → Kernel} {cmd : CStr} (hw : PlainWords cmd)
    (h : ∀ op, parseCommand cmd = some op → op.OnDevice dev) :
    (run shell k cmd).filter (offDevice dev) = k.filter (offDevice dev) := by
  unfold run
  rw [if_pos hw]
  cases hp : parseCommand cmd with
  | none => rfl
  | some op => exact filter_apply_of_onDevice (h op hp)

/-- Deleting the root and the ingress of a device takes all its objects. -/
theorem deleteObjects_root_ingress (objType : CStr) :
    (KernelOp.deleteObjects objType dev ["ingress".toList]).apply
        ((KernelOp.deleteObjects objType dev ["root".toList]).apply k) =
      k.filter (offDevice dev) := by
  show (k.filter fun r => !addressed objType dev ["root".toList] r).filter
    (fun r => !addressed objType dev ["ingress".toList] r) = _
  rw [List.filter_filter]
  refine List.filter_congr fun r _ => ?_
  cases r with
  | tc t d s =>
    have hroot : "root".toList ∉ ["ingress".toList] := by decide
    have hmem : ∀ w : CStr, w ∈ [w] := fun w => List.mem_singleton_self w
    simp only [addressed, offDevice, if_neg hroot, if_pos (hmem _)]
    by_cases hd : d = dev
    · cases underIngress s <;> simp [hd]
    · simp [hd]
  | iptables c s => rfl

end WtslCore
