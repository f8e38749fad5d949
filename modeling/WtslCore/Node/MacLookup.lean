/-
# Look-up and update by MAC

`find_wtsl_node_by_mac` compares as many characters as its argument has, so it
finds the first node whose MAC starts with it: any node for an empty MAC, and
a neighbour for one that was cut. It finds the node with the MAC, and an update
through it overwrites that node alone, exactly if no node before it starts
with the MAC (`lookup_update_iff`); where the MACs of the list are terminated
and no longer than the one looked for, none does (`macFirst_of_length`).

Key definitions: `hasMac`, `exactNode`, `updateWtslNodeBasicinfoRet`,
`UpdatesExact`, `MacFirst`.
Key theorems: `findWtslNodeByMac_eq_iff`, `updatesExact_iff`,
`lookup_update_iff`.
-/
import WtslCore.Node.List

namespace WtslCore

/-- The MAC of the node equals `mac` up to case. -/
def hasMac (mac : CStr) (n : Node) : Bool := strcasecmpEq (cstr n.mac.val) mac

/-- The first node with exactly the MAC, up to case. -/
def exactNode (l : List Node) (mac : CStr) : Option Node := l.find? (hasMac mac)

/-- `update_wtsl_node_basicinfo`: the list, and 0 or -1. -/
def updateWtslNodeBasicinfoRet (l : List Node) (pnodeBasicInfo : BasicInfo) : List Node × ℤ :=
  match findWtslNodeByMac l (cstr pnodeBasicInfo.mac.val) with
  | some _ => (updateWtslNodeBasicinfo l pnodeBasicInfo, 0)
  | none => (l, -1)

/-- The node with the MAC has the basic info and all others are as they were;
without one nothing is changed and -1 returned. -/
structure UpdatesExact (l : List Node) (b : BasicInfo) (r : List Node × ℤ) : Prop where
  hit : ∀ e ∈ exactNode l (cstr b.mac.val), ∃ l₁ l₂, l = l₁ ++ e :: l₂ ∧
    (∀ n ∈ l₁, hasMac (cstr b.mac.val) n = false) ∧
      r = (l₁ ++ { e with info := { e.info with basicInfo := b } } :: l₂, 0)
  miss : exactNode l (cstr b.mac.val) = none → r = (l, -1)

/-- No node before the one with the MAC, or none at all without one, has a MAC
that starts with it. -/
def MacFirst (l : List Node) (mac : CStr) : Prop :=
  ∀ n ∈ l.takeWhile (fun n => !hasMac mac n), macHasPrefix mac n = false

instance (l : List Node) (mac : CStr) : Decidable (MacFirst l mac) :=
  inferInstanceAs (Decidable (∀ n ∈ l.takeWhile (fun n => !hasMac mac n), macHasPrefix mac n = false))

variable {l : List Node} {mac : CStr} {b : BasicInfo}

/-- A node with the MAC has one that starts with it. -/
theorem macHasPrefix_of_hasMac {n : Node} (h : hasMac mac n = true) : macHasPrefix mac n = true :=
  macHasPrefix_of_eq h

theorem hasMac_eq_false {n : Node} (h : macHasPrefix mac n = false) : hasMac mac n = false := by
  cases hmac : hasMac mac n with
  | false => rfl
  | true =>
    rw [macHasPrefix_of_hasMac hmac] at h
    exact nomatch h

/-- A terminated MAC that starts with one of no less length equals it. -/
theorem hasMac_of_starts {n : Node} (h : macHasPrefix mac n = true) (hnul : nul ∈ n.mac.val)
    (hlen : (cstr n.mac.val).length ≤ mac.length) : hasMac mac n = true := by
  obtain ⟨u, hu, hterm⟩ := cstr_prefix_append n.mac.val
    (n.info.basicInfo.version.val ++ (n.info.basicInfo.name.val ++ []))
  have htext : n.info.basicInfo.macText [] = cstr n.mac.val := by
    rw [hterm hnul] at hu
    exact hu.trans (List.append_nil _)
  unfold macHasPrefix strncasecmpEq at h
  rwa [htext, List.take_of_length_le hlen, List.take_length] at h

/-- Among terminated MACs that are no longer, none is before the one looked for. -/
theorem macFirst_of_length (h : ∀ n ∈ l, nul ∈ n.mac.val ∧ (cstr n.mac.val).length ≤ mac.length) :
    MacFirst l mac := by
  intro n hn
  have hno : hasMac mac n = false := by simpa using List.mem_takeWhile_imp hn
  by_contra hpre
  rw [Bool.not_eq_false] at hpre
  have hmem := (List.takeWhile_prefix _).subset hn
  rw [hasMac_of_starts hpre (h n hmem).1 (h n hmem).2] at hno
  exact Bool.noConfusion hno

/-- **The look-up finds the node with the MAC** exactly under the condition. -/
theorem findWtslNodeByMac_eq_iff (l : List Node) (mac : CStr) :
    findWtslNodeByMac l mac = exactNode l mac ↔ MacFirst l mac :=
  find?_eq_find?_iff (fun _ h => macHasPrefix_of_hasMac h) l

/-- The update is right where the look-up is. -/
theorem updatesExact_of_find (h : findWtslNodeByMac l (cstr b.mac.val) = exactNode l (cstr b.mac.val)) :
    UpdatesExact l b (updateWtslNodeBasicinfoRet l b) := by
  unfold updateWtslNodeBasicinfoRet
  constructor
  · intro e he
    have hfind : l.find? (macHasPrefix (cstr b.mac.val)) = some e := h.trans he
    obtain ⟨l₁, l₂, hl, hbefore, hupdate⟩ :=
      updateFirst_of_some (f := fun n : Node => { n with info := { n.info with basicInfo := b } }) hfind
    refine ⟨l₁, l₂, hl, fun n hn => hasMac_eq_false (hbefore n hn), ?_⟩
    rw [h, Option.mem_def.mp he]
    exact congrArg (·, (0 : ℤ)) hupdate
  · intro hnone
    rw [h, hnone]

/-- **The update is right only where the look-up is**: a node that was
overwritten by mistake has the MAC now. -/
theorem find_of_updatesExact (h : UpdatesExact l b (updateWtslNodeBasicinfoRet l b)) :
    findWtslNodeByMac l (cstr b.mac.val) = exactNode l (cstr b.mac.val) := by
  unfold updateWtslNodeBasicinfoRet at h
  cases hfind : findWtslNodeByMac l (cstr b.mac.val) with
  | none =>
    refine (List.find?_eq_none.mpr fun n hn hmac => ?_).symm
    exact List.find?_eq_none.mp hfind n hn (macHasPrefix_of_hasMac hmac)
  | some a =>
    rw [hfind] at h
    obtain ⟨l₁, l₂, hl, hbefore, hupdate⟩ :=
      updateFirst_of_some (f := fun n : Node => { n with info := { n.info with basicInfo := b } }) hfind
    cases he : exactNode l (cstr b.mac.val) with
    | none => exact absurd (Prod.mk.inj (h.miss he)).2 (by decide)
    | some e =>
      obtain ⟨l₁', l₂', hl', -, hr⟩ := h.hit e he
      have hlists := hupdate.symm.trans (Prod.mk.inj hr).1
      have hemac : hasMac (cstr b.mac.val) e = true := List.find?_some he
      rw [hl] at hl'
      rcases List.append_eq_append_iff.mp hl' with ⟨t, rfl, ht⟩ | ⟨t, rfl, ht⟩
      · cases t with
        | nil => exact congrArg some (List.cons.inj ht).1
        | cons c t =>
          -- the node found stands before the one with the MAC, and was overwritten
          obtain ⟨rfl, -⟩ := List.cons.inj ht
          rw [List.append_assoc, List.append_cancel_left_eq, List.cons_append] at hlists
          have hsame := (List.cons.inj hlists).1
          have hamac : hasMac (cstr b.mac.val) a = true := by
            rw [← hsame]
            exact strcasecmpEq_self _
          have hfirst : l.find? (hasMac (cstr b.mac.val)) = some a := by
            rw [hl]
            exact find?_append_cons (fun n hn => hasMac_eq_false (hbefore n hn)) hamac
          exact hfirst.symm.trans he
      · cases t with
        | nil => exact congrArg some (List.cons.inj ht).1.symm
        | cons c t =>
          -- the node with the MAC would stand before the one found
          obtain ⟨rfl, -⟩ := List.cons.inj ht
          have hno := hasMac_eq_false (hbefore e (by simp))
          rw [hemac] at hno
          exact nomatch hno

theorem updatesExact_iff (l : List Node) (b : BasicInfo) :
    UpdatesExact l b (updateWtslNodeBasicinfoRet l b) ↔ MacFirst l (cstr b.mac.val) := by
  rw [← findWtslNodeByMac_eq_iff]
  exact ⟨find_of_updatesExact, updatesExact_of_find⟩

/-- **Look-up and update by MAC** are about the node with the MAC exactly if no
node before it has a MAC that starts with it. -/
theorem lookup_update_iff (l : List Node) :
    (∀ mac : CStr, findWtslNodeByMac l mac = exactNode l mac ↔ MacFirst l mac) ∧
    ∀ b : BasicInfo,
      UpdatesExact l b (updateWtslNodeBasicinfoRet l b) ↔ MacFirst l (cstr b.mac.val) :=
  ⟨findWtslNodeByMac_eq_iff l, updatesExact_iff l⟩

/-- A list of one node. -/
def oneNode : List Node :=
  [⟨0, true, ⟨0, 0⟩, 0, ⟨BasicInfo.blank "02:00:00:00:00:0A".toList, ⟨0, 0, 0⟩⟩⟩]

/-- An empty MAC finds the node, and an update with it overwrites the node. -/
theorem lookup_update_empty :
    findWtslNodeByMac oneNode [] ≠ exactNode oneNode [] ∧
      ¬ UpdatesExact oneNode (BasicInfo.blank []) (updateWtslNodeBasicinfoRet oneNode (BasicInfo.blank [])) := by
  refine ⟨by decide, fun h => ?_⟩
  have hmiss := h.miss (by decide)
  have hret : (updateWtslNodeBasicinfoRet oneNode (BasicInfo.blank [])).2 = 0 := by decide
  rw [hmiss] at hret
  exact absurd hret (by decide)

end WtslCore
