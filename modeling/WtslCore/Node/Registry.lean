/-
# What the node list is for: the latest report of every MAC

The abstract component is a table from MACs to reports (`Registry`): a
heartbeat replaces the report of its MAC, a refresh the basic info of the
local one. The list represents a registry when it has one node for each MAC
of the table, with the table's report (`Represents`).

The service decides by the MAC whether a node exists and by the sender's
address which one it updates, so the list follows the registry as long as the
node at the sender's address is the one with the reported MAC (`Addressed`).
That is exact: on every list the service can reach, a heartbeat does what the
registry does if and only if it is addressed
(`heartbeatExact_iff`, `heartbeat_follows_registry`).

Key definitions: `Registry`, `Represents`, `HeartbeatExact`, `Addressed`.
Key theorems: `heartbeatExact_iff`, `tracks_step`,
`heartbeat_follows_registry`.
-/
import WtslCore.Node.Service

namespace WtslCore

open Runs

/-- The abstract component: the report of each known MAC, and the local device. -/
structure Registry where
  reports : CharArray 18 → Option Heartbeat
  splink : SplinkInfo

/-- A heartbeat is the new report of its MAC; a refresh renews the basic info
of the local one. -/
def Registry.step (r : Registry) : NodeEvent → Registry
  | .heartbeat h => { r with reports := fun m => if m = h.mac then some h else r.reports m }
  | .refresh p =>
    let splink := wtslCoreGetSplinkInfo r.splink p
    { reports := fun m =>
        if m = splink.basicInfo.mac then
          (r.reports m).map fun h => { h with info := { h.info with basicInfo := splink.basicInfo } }
        else r.reports m
      splink := splink }

/-- The local report has new basic info. -/
def Registry.publish (r : Registry) (b : BasicInfo) : Registry :=
  { r with reports := fun m =>
      if m = r.splink.basicInfo.mac then
        (r.reports m).map fun h => { h with info := { h.info with basicInfo := b } }
      else r.reports m }

/-- The registry at the start: the local node. -/
def Registry.start (g : SplinkInfo) (connInfo : ConnInfo) (addr : SockAddrIn) (t : ℕ) : Registry :=
  ⟨fun m => if m = g.basicInfo.mac then some ⟨⟨g.basicInfo, connInfo⟩, addr, t⟩ else none, g⟩

/-- The report a node holds. -/
def Node.latest (n : Node) : Heartbeat := ⟨n.info, n.addr, n.lastHeartbeat⟩

/-- The nodes with a MAC. -/
def nodesOf (l : List Node) (m : CharArray 18) : List Node := l.filter fun n => n.mac = m

/-- The nodes with another MAC. -/
def nodesNotOf (l : List Node) (m : CharArray 18) : List Node := l.filter fun n => n.mac ≠ m

/-- The list has the table's report for each MAC, once. -/
def Represents (s : NodeState) (r : Registry) : Prop :=
  s.splink = r.splink ∧ ∀ m, (nodesOf s.list m).map Node.latest = (r.reports m).toList

/-- A heartbeat is handled as the registry does: one node has its MAC and holds
the report, the nodes with other MACs are as before. -/
def HeartbeatExact (l : List Node) (h : Heartbeat) : Prop :=
  (∃ n, nodesOf (parseDataHeartbeat l h) h.mac = [n] ∧ n.info = h.info ∧ n.addr = h.addr ∧
      n.lastHeartbeat = h.time) ∧
    nodesNotOf (parseDataHeartbeat l h) h.mac = nodesNotOf l h.mac

/-- A node with the reported MAC is the first one at the sender's address. -/
def Addressed (l : List Node) (h : Heartbeat) : Prop :=
  ∀ n ∈ l, n.mac = h.mac → l.find? (fun n => n.addr == h.addr) = some n

/-- The condition on a step: a heartbeat is addressed. -/
def AddressedStep (s : NodeState) : NodeEvent → Prop
  | .heartbeat h => Addressed s.list h
  | .refresh _ => True

variable {l : List Node} {h : Heartbeat}

/-! ### One heartbeat -/

theorem nodesOf_cons (n : Node) (l : List Node) (m : CharArray 18) :
    nodesOf (n :: l) m = (if n.mac = m then [n] else []) ++ nodesOf l m := by
  by_cases hm : n.mac = m <;> simp [nodesOf, hm]

theorem nodesOf_notOf {m m' : CharArray 18} (hne : m' ≠ m) (l : List Node) :
    nodesOf (nodesNotOf l m) m' = nodesOf l m' := by
  unfold nodesOf nodesNotOf
  rw [List.filter_filter]
  refine List.filter_congr fun n _ => ?_
  by_cases hn : n.mac = m' <;> simp [hn, hne]

/-- With an addressed heartbeat the node updated is the one with its MAC. -/
theorem heartbeatExact_of_addressed (hd : Dense l) (ha : Addressed l h) : HeartbeatExact l h := by
  by_cases hex : ∃ n ∈ l, n.mac = h.mac
  · obtain ⟨n, hn, hm⟩ := hex
    have hf := ha n hn hm
    have hone : nodesOf l h.mac = [n] := by
      refine filter_eq_singleton (List.Nodup.of_map _ hd.nodup) hn (by simpa using hm) ?_
      intro b hb hbm
      have := (ha b hb (by simpa using hbm)).symm.trans hf
      exact Option.some.inj this
    unfold HeartbeatExact
    rw [parseDataHeartbeat_known hd hn hm]
    constructor
    · refine ⟨n.report h, filter_updateFirst_eq hone hf (by simp [Node.report, Node.mac, Heartbeat.mac]),
        rfl, ?_, rfl⟩
      simpa [Node.report] using List.find?_some hf
    · refine filter_updateFirst ?_
      intro b hb
      obtain rfl : n = b := Option.some.inj (hf.symm.trans hb)
      exact ⟨by simpa using hm, by simp [Node.report, Node.mac, Heartbeat.mac]⟩
  · have hnone : ∀ n ∈ l, n.mac ≠ h.mac := fun n hn hm => hex ⟨n, hn, hm⟩
    have hempty : nodesOf l h.mac = [] := by
      unfold nodesOf
      rw [List.filter_eq_nil_iff]
      simpa using hnone
    have hnew : (h.newNode l.length).mac = h.mac := rfl
    unfold HeartbeatExact
    rw [parseDataHeartbeat_new hd hnone]
    constructor
    · refine ⟨h.newNode l.length, ?_, rfl, rfl, rfl⟩
      unfold nodesOf at hempty ⊢
      simp [List.filter_append, hempty, hnew]
    · simp [nodesNotOf, List.filter_append, hnew]

/-- The other way round: if a node with another MAC is updated, or none, no
single node holds the report. -/
theorem addressed_of_heartbeatExact (hd : Dense l) (he : HeartbeatExact l h) : Addressed l h := by
  intro n hn hm
  obtain ⟨⟨n', hone, -, haddr, -⟩, -⟩ := he
  rw [parseDataHeartbeat_known hd hn hm] at hone
  cases hf : l.find? (fun n => n.addr == h.addr) with
  | none =>
    rw [updateFirst_of_none hf] at hone
    have hmem : n' ∈ nodesOf l h.mac := by rw [hone]; exact List.mem_singleton_self n'
    have hn' : n' ∈ l := (List.mem_filter.mp hmem).1
    rw [List.find?_eq_none] at hf
    exact absurd haddr (by simpa using hf n' hn')
  | some x =>
    obtain ⟨l₁, l₂, rfl, -, hu⟩ := updateFirst_of_some (f := Node.report h) hf
    have hxm : (x.report h).mac = h.mac := rfl
    have hlen := congrArg List.length hone
    simp only [nodesOf, hu, List.filter_append, List.filter_cons, hxm, decide_true, ↓reduceIte,
      List.length_append, List.length_cons, List.length_nil] at hlen
    have hout : ∀ l' : List Node, (nodesOf l' h.mac).length = 0 → n ∉ l' := by
      intro l' hl' hc
      have : n ∈ nodesOf l' h.mac := List.mem_filter.mpr ⟨hc, by simpa using hm⟩
      have := List.length_pos_of_mem this
      omega
    unfold nodesOf at hout
    have h1 := hout l₁ (by omega)
    have h2 := hout l₂ (by omega)
    simp only [List.mem_append, List.mem_cons, h1, h2, or_false, false_or] at hn
    rw [hn]

/-- On a list numbered by the service a heartbeat is handled exactly if and
only if it is addressed. -/
theorem heartbeatExact_iff (hd : Dense l) : HeartbeatExact l h ↔ Addressed l h :=
  ⟨addressed_of_heartbeatExact hd, heartbeatExact_of_addressed hd⟩

/-! ### Runs -/

/-- The list represents the registry, with the local node at its head. -/
structure Tracks (s : NodeState) (r : Registry) : Prop where
  dense : Dense s.list
  head : s.list.head?.map Node.mac = some s.splink.basicInfo.mac
  represents : Represents s r

theorem tracks_start (g : SplinkInfo) (c : ConnInfo) (a : Bool) (addr : SockAddrIn) (t : ℕ) :
    Tracks (NodeState.start g c a addr t) (Registry.start g c addr t) := by
  refine ⟨dense_start g c a addr t, rfl, rfl, fun m => ?_⟩
  by_cases hm : g.basicInfo.mac = m
  · simp [nodesOf, NodeState.start, Registry.start, Node.mac, hm, Node.latest]
  · simp [nodesOf, NodeState.start, Registry.start, Node.mac, hm, Ne.symm hm]

/-- An addressed heartbeat leaves the MACs of the nodes it finds. -/
theorem head_parseDataHeartbeat (hd : Dense l) (ha : Addressed l h) {m : CharArray 18}
    (hh : l.head?.map Node.mac = some m) : (parseDataHeartbeat l h).head?.map Node.mac = some m := by
  by_cases hex : ∃ n ∈ l, n.mac = h.mac
  · obtain ⟨n, hn, hm⟩ := hex
    rw [parseDataHeartbeat_known hd hn hm, ← List.head?_map, map_updateFirst, List.head?_map, hh]
    intro b hb
    obtain rfl : n = b := Option.some.inj ((ha n hn hm).symm.trans hb)
    exact hm.symm
  · rw [parseDataHeartbeat_new hd fun n hn hm => hex ⟨n, hn, hm⟩]
    cases l with
    | nil => simp at hh
    | cons n l => simpa using hh

theorem tracks_heartbeat {s : NodeState} {r : Registry} (ht : Tracks s r) (ha : Addressed s.list h) :
    Tracks (s.step (.heartbeat h)) (r.step (.heartbeat h)) := by
  refine ⟨dense_step ht.dense _, head_parseDataHeartbeat ht.dense ha ht.head, ht.represents.1, ?_⟩
  obtain ⟨⟨n, hone, hi, hA, hT⟩, hrest⟩ := heartbeatExact_of_addressed ht.dense ha
  intro m
  simp only [NodeState.step, Registry.step]
  by_cases hm : m = h.mac
  · rw [hm, hone, if_pos rfl]
    simp [Node.latest, hi, hA, hT]
  · rw [if_neg hm, ← nodesOf_notOf hm, hrest, nodesOf_notOf hm]
    exact ht.represents.2 m

/-- A description with the same MAC is written. -/
theorem tracks_write {s : NodeState} {r : Registry} (ht : Tracks s r) {g : SplinkInfo}
    (hmac : g.basicInfo.mac = s.splink.basicInfo.mac) :
    Tracks { s with splink := g } { r with splink := g } where
  dense := ht.dense
  head := by
    rw [ht.head, ← hmac]
  represents := ⟨rfl, ht.represents.2⟩

/-- Basic info with the local MAC is copied to the local node. -/
theorem tracks_publish {s : NodeState} {r : Registry} (ht : Tracks s r) {b : BasicInfo}
    (hmac : b.mac = s.splink.basicInfo.mac) : Tracks (s.publish b) (r.publish b) := by
  obtain ⟨list, g⟩ := s
  obtain ⟨hd, hh, hg, hr⟩ := ht
  simp only at hg hr hh hd hmac
  subst hg
  cases list with
  | nil => simp at hh
  | cons n l =>
    have hlocal : n.mac = r.splink.basicInfo.mac := by simpa using hh
    have hstep := updateWtslNodeBasicinfo_head (l := l) (hlocal.trans hmac.symm)
    refine ⟨hd.of_map_eq (map_updateFirst _ fun _ _ => rfl), ?_, rfl, fun m => ?_⟩
    · simp only [NodeState.publish, hstep]
      exact congrArg some hmac
    · have hrm := hr m
      simp only [NodeState.publish, Registry.publish, hstep]
      rw [nodesOf_cons, List.map_append] at hrm ⊢
      by_cases hm : r.splink.basicInfo.mac = m
      · simp only [hlocal, hm, ↓reduceIte] at hrm
        simp only [Node.mac, hmac, hm, ↓reduceIte]
        -- the head is the only node of its MAC, so its report is the table's
        cases hx : r.reports m with
        | none => simp [hx] at hrm
        | some x =>
          simp only [hx, List.map_cons, List.map_nil, List.cons_append, List.nil_append,
            Option.toList_some, List.cons.injEq, List.map_eq_nil_iff] at hrm
          simp [hrm.2, ← hrm.1, Node.latest]
      · simp only [hlocal, hm, ↓reduceIte] at hrm
        simp only [Node.mac, hmac, hm, Ne.symm hm, ↓reduceIte]
        exact hrm

/-- A refresh writes the description and copies it. -/
theorem tracks_refresh {s : NodeState} {r : Registry} (ht : Tracks s r) (p : Probe) :
    Tracks (s.step (.refresh p)) (r.step (.refresh p)) := by
  have hwritten := tracks_write ht (mac_wtslCoreGetSplinkInfo s.splink p)
  rw [ht.represents.1] at hwritten
  have hpublished := tracks_publish hwritten (b := (wtslCoreGetSplinkInfo r.splink p).basicInfo) rfl
  unfold NodeState.step
  dsimp only
  rw [ht.represents.1]
  exact hpublished

/-- A step that meets the condition is a step of the registry. -/
theorem tracks_step {s s' : NodeState} {r : Registry} {e : NodeEvent} (ht : Tracks s r)
    (hok : AddressedStep s e) (hs : nodeStep s e = some s') : Tracks s' (r.step e) := by
  obtain rfl : s.step e = s' := Option.some.inj hs
  cases e with
  | heartbeat h => exact tracks_heartbeat ht hok
  | refresh p => exact tracks_refresh ht p

/-- A list that represents a registry has no MAC twice. -/
theorem Represents.nodup {s : NodeState} {r : Registry} (hr : Represents s r) :
    (s.list.map Node.mac).Nodup := by
  rw [List.nodup_iff_count_le_one]
  intro m
  have hlen := congrArg List.length (hr.2 m)
  have hle : ((r.reports m).toList).length ≤ 1 := by cases r.reports m <;> simp
  rw [List.length_map] at hlen
  rw [List.count, List.countP_map, List.countP_eq_length_filter]
  have hcongr : s.list.filter ((fun x => x == m) ∘ Node.mac) = nodesOf s.list m :=
    List.filter_congr fun n _ => by rw [Function.comp_apply, beq_eq_decide]
  rw [hcongr, hlen]
  exact hle

/-- Every reachable list is numbered by its positions. -/
theorem dense_run {ok : NodeState → NodeEvent → Prop} {s₀ s : NodeState} {es : List NodeEvent}
    (hrun : Run nodeStep ok s₀ es s) (h0 : Dense s₀.list) : Dense s.list :=
  hrun.invariant (I := fun s => Dense s.list) h0 fun s e s' hd _ hs => by
    obtain rfl : s.step e = s' := Option.some.inj hs
    exact dense_step hd e

/-- On every reachable list a heartbeat is handled exactly if and only if it is
addressed; a run of addressed heartbeats follows the registry, so no MAC is
listed twice and each node holds the latest report of its MAC. -/
theorem heartbeat_follows_registry {g : SplinkInfo} {c : ConnInfo} {a : Bool} {addr : SockAddrIn}
    {t : ℕ} {es : List NodeEvent} {s : NodeState}
    (hrun : Run nodeStep (fun _ _ => True) (NodeState.start g c a addr t) es s) :
    (∀ h, HeartbeatExact s.list h ↔ Addressed s.list h) ∧
      (Run nodeStep AddressedStep (NodeState.start g c a addr t) es s →
        (s.list.map Node.mac).Nodup ∧
          Represents s (es.foldl Registry.step (Registry.start g c addr t))) := by
  refine ⟨fun h => heartbeatExact_iff (dense_run hrun (dense_start g c a addr t)), fun hok => ?_⟩
  have ht := hok.refines (R := Tracks) (tracks_start g c a addr t)
    fun s e s' r ht hok hs => tracks_step ht hok hs
  exact ⟨ht.represents.nodup, ht.represents⟩

/-- A peer reports once from one address. -/
theorem heartbeat_follows_registry_peer :
    let peer := Heartbeat.blank "0a:00:00:00:00:02".toList ⟨0x0a000002, 9000⟩ 10
    let s := NodeState.alone.step (.heartbeat peer)
    (s.list.map Node.mac).Nodup ∧ Addressed s.list { peer with time := 20 } := by
  intro peer s
  have hrun : ∀ ok : NodeState → NodeEvent → Prop, ok NodeState.alone (.heartbeat peer) →
      Run nodeStep ok NodeState.alone [.heartbeat peer] s := fun ok h =>
    .single h rfl
  have hok : AddressedStep NodeState.alone (.heartbeat peer) := by
    unfold AddressedStep Addressed
    decide
  have h := heartbeat_follows_registry (hrun _ trivial)
  refine ⟨(h.2 (hrun _ hok)).1, ?_⟩
  unfold Addressed
  decide

/-- A peer that reports again after its address changed is known by its MAC and
not found by its address: its record keeps the old report. -/
theorem heartbeat_lost_on_address_change :
    let peer := Heartbeat.blank "0a:00:00:00:00:02".toList ⟨0x0a000002, 9000⟩ 10
    let s := NodeState.alone.step (.heartbeat peer)
    Run nodeStep (fun _ _ => True) NodeState.alone [.heartbeat peer] s ∧
      ¬ HeartbeatExact s.list { peer with addr := ⟨0x0a000003, 9000⟩, time := 20 } := by
  intro peer s
  refine ⟨.single trivial rfl, fun he => ?_⟩
  have ha := addressed_of_heartbeatExact (dense_step (dense_start _ _ _ _ _) _) he
  revert ha
  unfold Addressed
  decide

end WtslCore
