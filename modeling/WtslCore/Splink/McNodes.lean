/-
# The table of the nodes that multicast

`mc_nodes` is an array of 1024 addresses with the time of their last
heartbeat, `mc_node_count` says how many of them are in use. A heartbeat
writes the time of its sender, or appends the sender if there is room; the
cleaning walks the table, shifts the array down over an entry that is too old
and stays at its place, since the next entry has moved there. What lies behind
the count are left-over records, whose bytes a later sender's address is
copied over.

The table is a map from addresses to times in the order in which the
addresses came (`HeartbeatMap`), over every sequence of calls
(`mcTable_refines`).

Key definitions: `McTable`, `updateNodeList`, `cleanTimeoutMcNodes`,
`HeartbeatMap`, `Tabulates`.
Key theorems: `get_heartbeat_ne`, `get_clean`, `tabulates_heartbeat`, `tabulates_clean`,
`mcTable_refines`.
-/
import Mathlib.Data.List.Nodup
import WtslCore.Lib.CStr
import WtslCore.Lib.Slots

namespace WtslCore

/-- `NODE_TIMEOUT`, in seconds. -/
def nodeTimeout : ℤ := 15

/-- `MCNodeInfo`. -/
structure MCNodeInfo where
  ip : CharArray 16
  lastHeartbeat : ℤ
  deriving DecidableEq

/-- `mc_nodes` and `mc_node_count`. -/
structure McTable where
  nodes : List MCNodeInfo
  count : ℕ
  deriving DecidableEq

/-- Zeroed, as the program starts. -/
def McTable.start : McTable := ⟨List.replicate 1024 ⟨.ofStr 16 [], 0⟩, 0⟩

/-- `strncpy(dst, s, k)`: `k` bytes are written, the others stay. -/
def CharArray.strncpy {n : ℕ} (dst : CharArray n) (s : CStr) (k : ℕ) : CharArray n :=
  ⟨(s.take k ++ List.replicate (k - s.length) nul ++ dst.val.drop k).take n, by
    have := dst.2
    simp
    omega⟩

/-- `update_node_list`, at time `now`. -/
def updateNodeList (t : McTable) (now : ℤ) (ip : CStr) : McTable :=
  match (t.nodes.take t.count).findIdx? fun e => cstr e.ip.val == ip with
  | some i => { t with nodes := t.nodes.modify i fun e => { e with lastHeartbeat := now } }
  | none =>
    if t.count < 1024 then
      ⟨t.nodes.modify t.count fun e => ⟨e.ip.strncpy ip 15, now⟩, t.count + 1⟩
    else t

/-- `clean_timeout_mc_nodes`, at time `now`. -/
def cleanTimeoutMcNodes (t : McTable) (now : ℤ) : McTable :=
  let r := purge (fun e => decide (nodeTimeout < now - e.lastHeartbeat)) t.nodes 0 t.count
  ⟨r.1, r.2⟩

/-- An address as `inet_ntoa` writes it: at most 15 characters. -/
abbrev McIp := { ip : CStr // ip.length ≤ 15 ∧ nul ∉ ip }

/-- The calls on the table, each at a time. -/
inductive McCall
  | heartbeat (now : ℤ) (ip : McIp)
  | clean (now : ℤ)

/-- One call. -/
def mcStep (t : McTable) : McCall → McTable
  | .heartbeat now ip => updateNodeList t now ip.1
  | .clean now => cleanTimeoutMcNodes t now

/-- The addresses in use and their times. -/
def McTable.entries (t : McTable) : List (CStr × ℤ) :=
  (t.nodes.take t.count).map fun e => (cstr e.ip.val, e.lastHeartbeat)

/-! ### The map -/

/-- Addresses with the time of their last heartbeat, in the order in which
they came: each address once, and at most 1024 of them. -/
structure HeartbeatMap where
  entries : List (CStr × ℤ)
  nodup : (entries.map Prod.fst).Nodup
  length_le : entries.length ≤ 1024

/-- Without an address. -/
def HeartbeatMap.empty : HeartbeatMap := ⟨[], List.nodup_nil, Nat.zero_le _⟩

/-- A new time for `ip`. -/
def stamp (now : ℤ) (ip : CStr) (e : CStr × ℤ) : CStr × ℤ := if e.1 = ip then (ip, now) else e

@[simp] theorem stamp_fst (now : ℤ) (ip : CStr) (e : CStr × ℤ) : (stamp now ip e).1 = e.1 := by
  unfold stamp
  split_ifs with h
  · exact h.symm
  · rfl

theorem map_fst_stamp (now : ℤ) (ip : CStr) (es : List (CStr × ℤ)) :
    (es.map (stamp now ip)).map Prod.fst = es.map Prod.fst := by
  rw [List.map_map]
  exact List.map_congr_left fun e _ => stamp_fst now ip e

/-- A heartbeat of `ip`: a known address gets the time and nothing else
changes, a new one comes last if there is room. -/
def HeartbeatMap.heartbeat (m : HeartbeatMap) (now : ℤ) (ip : CStr) : HeartbeatMap :=
  if hknown : ip ∈ m.entries.map Prod.fst then
    ⟨m.entries.map (stamp now ip), by rw [map_fst_stamp]; exact m.nodup,
      by rw [List.length_map]; exact m.length_le⟩
  else if hroom : m.entries.length < 1024 then
    ⟨m.entries ++ [(ip, now)],
      by
        rw [List.map_append, List.map_singleton, List.nodup_append]
        refine ⟨m.nodup, List.nodup_singleton _, fun a ha b hb hab => ?_⟩
        have hip : a = ip := by rw [hab, List.mem_singleton.mp hb]
        exact hknown (hip ▸ ha),
      by
        rw [List.length_append]
        exact hroom⟩
  else m

/-- The entries that are not older than the timeout. -/
def HeartbeatMap.clean (m : HeartbeatMap) (now : ℤ) : HeartbeatMap :=
  ⟨m.entries.filter fun e => decide (now - e.2 ≤ nodeTimeout),
    (List.filter_sublist.map Prod.fst).nodup m.nodup,
    Nat.le_trans (List.length_filter_le _ _) m.length_le⟩

/-- What a call should do. -/
def HeartbeatMap.step (m : HeartbeatMap) : McCall → HeartbeatMap
  | .heartbeat now ip => m.heartbeat now ip.1
  | .clean now => m.clean now

/-- The time of an address. -/
def HeartbeatMap.get (m : HeartbeatMap) (ip : CStr) : Option ℤ := m.entries.lookup ip

theorem lookup_stamp (now : ℤ) (ip ip' : CStr) : ∀ es : List (CStr × ℤ),
    (es.map (stamp now ip)).lookup ip' = (es.lookup ip').map fun time => if ip' = ip then now else time
  | [] => rfl
  | (ip₁, time) :: es => by
    rw [List.map_cons, List.lookup_cons, List.lookup_cons, stamp_fst, lookup_stamp now ip ip' es]
    by_cases h : ip' = ip₁
    · subst h
      rw [beq_self_eq_true, Option.map_some]
      unfold stamp
      split_ifs <;> rfl
    · rw [beq_false_of_ne h]

theorem lookup_filter {p : CStr × ℤ → Bool} (ip : CStr) : ∀ {es : List (CStr × ℤ)},
    (es.map Prod.fst).Nodup →
      (es.filter p).lookup ip = (es.lookup ip).filter fun time => p (ip, time)
  | [], _ => rfl
  | (ip₁, time) :: es, h => by
    rw [List.map_cons, List.nodup_cons] at h
    have ih := lookup_filter (p := p) ip h.2
    rw [List.lookup_cons]
    by_cases heq : ip = ip₁
    · subst heq
      have hout : es.lookup ip = none := by
        rw [List.lookup_eq_none_iff]
        intro e he
        rw [bne_iff_ne]
        rintro rfl
        exact h.1 (List.mem_map.mpr ⟨e, he, rfl⟩)
      rw [hout, Option.filter_none] at ih
      rw [beq_self_eq_true, List.filter_cons, Option.filter_some]
      split_ifs
      · exact List.lookup_cons_self
      · exact ih
    · rw [beq_false_of_ne heq, ← ih, List.filter_cons]
      split_ifs
      · rw [List.lookup_cons, beq_false_of_ne heq]
      · rfl

theorem get_isSome {m : HeartbeatMap} {ip : CStr} :
    (m.get ip).isSome = true ↔ ip ∈ m.entries.map Prod.fst := by
  unfold HeartbeatMap.get
  rw [List.lookup_isSome_iff, List.mem_map]
  simp only [beq_iff_eq]
  constructor
  · rintro ⟨e, he, rfl⟩
    exact ⟨e, he, rfl⟩
  · rintro ⟨e, he, rfl⟩
    exact ⟨e, he, rfl⟩

/-- A heartbeat leaves the other addresses alone. -/
theorem get_heartbeat_ne (m : HeartbeatMap) (now : ℤ) {ip ip' : CStr} (h : ip' ≠ ip) :
    (m.heartbeat now ip).get ip' = m.get ip' := by
  unfold HeartbeatMap.heartbeat HeartbeatMap.get
  split_ifs
  · simp only [lookup_stamp, if_neg h, Option.map_id']
  · rw [List.lookup_append, List.lookup_cons, beq_false_of_ne h]
    exact Option.or_none
  · rfl

/-- Its own address has the time, if it is in the map after it. -/
theorem get_heartbeat_self (m : HeartbeatMap) (now : ℤ) (ip : CStr) :
    (m.heartbeat now ip).get ip =
      if (m.get ip).isSome = true ∨ m.entries.length < 1024 then some now else none := by
  unfold HeartbeatMap.heartbeat
  by_cases hknown : ip ∈ m.entries.map Prod.fst
  · obtain ⟨time, htime⟩ := Option.isSome_iff_exists.mp (get_isSome.mpr hknown)
    rw [dif_pos hknown, if_pos (.inl (get_isSome.mpr hknown))]
    show (m.entries.map (stamp now ip)).lookup ip = some now
    rw [lookup_stamp, show m.entries.lookup ip = some time from htime, Option.map_some, if_pos rfl]
  · have hnone : ¬ (m.get ip).isSome = true := fun h => hknown (get_isSome.mp h)
    rw [dif_neg hknown]
    by_cases hroom : m.entries.length < 1024
    · rw [dif_pos hroom, if_pos (.inr hroom)]
      have hlookup : m.entries.lookup ip = none := Option.not_isSome_iff_eq_none.mp hnone
      show (m.entries ++ [(ip, now)]).lookup ip = some now
      rw [List.lookup_append, hlookup, Option.none_or]
      exact List.lookup_cons_self
    · rw [dif_neg hroom, if_neg fun h => h.elim hnone hroom]
      exact Option.not_isSome_iff_eq_none.mp hnone

/-- A cleaning takes out what is too old. -/
theorem get_clean (m : HeartbeatMap) (now : ℤ) (ip : CStr) :
    (m.clean now).get ip = (m.get ip).filter fun time => decide (now - time ≤ nodeTimeout) :=
  lookup_filter ip m.nodup

/-! ### The array represents the map -/

/-- The table's entries are the map's; every record, in use or left over, ends
with a terminator. -/
structure Tabulates (t : McTable) (m : HeartbeatMap) : Prop where
  length_nodes : t.nodes.length = 1024
  terminated : ∀ e ∈ t.nodes, e.ip.val.drop 15 = [nul]
  count_eq : t.count = m.entries.length
  entries_eq : t.entries = m.entries

variable {t : McTable} {m : HeartbeatMap}

theorem Tabulates.count_le (h : Tabulates t m) : t.count ≤ t.nodes.length := by
  rw [h.count_eq, h.length_nodes]
  exact m.length_le

/-- **An address is read back from the record it was copied to**, whatever was there. -/
theorem cstr_strncpy {dst : CharArray 16} {ip : CStr} (hlen : ip.length ≤ 15) (hnul : nul ∉ ip)
    (hend : dst.val.drop 15 = [nul]) : cstr (dst.strncpy ip 15).val = ip := by
  unfold CharArray.strncpy
  dsimp only
  rw [hend, List.take_of_length_le hlen, List.take_of_length_le (by simp; omega)]
  cases hk : 15 - ip.length with
  | zero =>
    rw [List.replicate_zero, List.append_nil]
    exact cstr_append_nul hnul _
  | succ k =>
    rw [List.replicate_succ, List.append_assoc, List.cons_append]
    exact cstr_append_nul hnul _

theorem strncpy_terminated {dst : CharArray 16} (s : CStr) (hend : dst.val.drop 15 = [nul]) :
    (dst.strncpy s 15).val.drop 15 = [nul] := by
  have hlen : (s.take 15 ++ List.replicate (15 - s.length) nul).length = 15 := by
    simp
    omega
  unfold CharArray.strncpy
  dsimp only
  rw [hend, List.take_of_length_le (by rw [List.length_append, hlen]; simp),
    List.drop_left' hlen]

theorem tabulates_start : Tabulates .start .empty where
  length_nodes := List.length_replicate
  terminated := by
    intro e he
    rw [(List.mem_replicate.mp he).2]
    rfl
  count_eq := rfl
  entries_eq := rfl

theorem terminated_modify {nodes : List MCNodeInfo} {i : ℕ} {f : MCNodeInfo → MCNodeInfo}
    (h : ∀ e ∈ nodes, e.ip.val.drop 15 = [nul])
    (hf : ∀ e ∈ nodes, (f e).ip.val.drop 15 = [nul]) :
    ∀ e ∈ nodes.modify i f, e.ip.val.drop 15 = [nul] := by
  intro e he
  obtain ⟨j, hj⟩ := List.mem_iff_getElem?.mp he
  rw [List.getElem?_modify, Option.map_eq_map, Option.map_eq_some_iff] at hj
  obtain ⟨a, ha, rfl⟩ := hj
  have hmem : a ∈ nodes := List.mem_of_getElem? ha
  split_ifs
  · exact hf a hmem
  · exact h a hmem

/-- The time written where the look-up stopped is the time of the address,
since no other entry has it. -/
theorem map_modify_stamp {nodes : List MCNodeInfo} {i : ℕ} {now : ℤ} {ip : CStr}
    (hnodup : (nodes.map fun e => cstr e.ip.val).Nodup)
    (hi : nodes.findIdx? (fun e => cstr e.ip.val == ip) = some i) :
    (nodes.modify i fun e => { e with lastHeartbeat := now }).map
        (fun e => (cstr e.ip.val, e.lastHeartbeat)) =
      (nodes.map fun e => (cstr e.ip.val, e.lastHeartbeat)).map (stamp now ip) := by
  obtain ⟨hlt, hfound, -⟩ := List.findIdx?_eq_some_iff_getElem.mp hi
  have hip : cstr nodes[i].ip.val = ip := beq_iff_eq.mp hfound
  refine List.ext_getElem? fun j => ?_
  simp only [List.getElem?_map, List.getElem?_modify, Option.map_eq_map, Option.map_map]
  cases hj : nodes[j]? with
  | none => rfl
  | some e =>
    obtain ⟨hjlt, rfl⟩ := List.getElem?_eq_some_iff.mp hj
    simp only [Option.map_some, Function.comp_apply, Option.some.injEq, stamp]
    by_cases hij : i = j
    · subst hij
      rw [if_pos rfl, if_pos hip, hip]
    · have hne : cstr nodes[j].ip.val ≠ ip := by
        intro heq
        refine hij ((@List.Nodup.getElem_inj_iff _ _ hnodup i (by simpa using hlt) j
          (by simpa using hjlt)).mp ?_)
        rw [List.getElem_map, List.getElem_map, hip, heq]
      rw [if_neg hij, if_neg hne]

theorem Tabulates.keys_eq (h : Tabulates t m) :
    (t.nodes.take t.count).map (fun e => cstr e.ip.val) = m.entries.map Prod.fst := by
  rw [← h.entries_eq, McTable.entries, List.map_map]
  rfl

/-- **A heartbeat.** -/
theorem tabulates_heartbeat (h : Tabulates t m) (now : ℤ) (ip : McIp) :
    Tabulates (updateNodeList t now ip.1) (m.heartbeat now ip.1) := by
  have hnodup : ((t.nodes.take t.count).map fun e => cstr e.ip.val).Nodup := by
    rw [h.keys_eq]
    exact m.nodup
  have hknown : ip.1 ∈ m.entries.map Prod.fst ↔
      ∃ i, (t.nodes.take t.count).findIdx? (fun e => cstr e.ip.val == ip.1) = some i := by
    rw [← Option.isSome_iff_exists, List.findIdx?_isSome, ← h.keys_eq, List.any_eq_true, List.mem_map]
    simp only [beq_iff_eq]
  unfold updateNodeList HeartbeatMap.heartbeat
  cases hfind : (t.nodes.take t.count).findIdx? fun e => cstr e.ip.val == ip.1 with
  | some i =>
    rw [dif_pos (hknown.mpr ⟨i, hfind⟩)]
    refine ⟨?_, ?_, ?_, ?_⟩
    · rw [List.length_modify]
      exact h.length_nodes
    · exact terminated_modify h.terminated h.terminated
    · rw [List.length_map]
      exact h.count_eq
    · show ((t.nodes.modify i _).take t.count).map _ = m.entries.map _
      rw [List.take_modify, map_modify_stamp hnodup hfind, ← h.entries_eq]
      rfl
  | none =>
    have hnew : ip.1 ∉ m.entries.map Prod.fst := by
      rw [hknown, hfind]
      rintro ⟨i, hi⟩
      exact nomatch hi
    dsimp only
    rw [dif_neg hnew, h.count_eq]
    by_cases hroom : m.entries.length < 1024
    · have hlt : m.entries.length < t.nodes.length := by
        rw [h.length_nodes]
        exact hroom
      have hmem : t.nodes[m.entries.length] ∈ t.nodes := List.getElem_mem hlt
      have hset : t.nodes.modify m.entries.length (fun e => ⟨e.ip.strncpy ip.1 15, now⟩) =
          t.nodes.set m.entries.length
            ⟨t.nodes[m.entries.length].ip.strncpy ip.1 15, now⟩ := by
        rw [List.modify_eq_set_getElem?, List.getElem?_eq_getElem hlt]
        rfl
      rw [if_pos hroom, dif_pos hroom]
      refine ⟨?_, ?_, ?_, ?_⟩
      · rw [List.length_modify]
        exact h.length_nodes
      · exact terminated_modify h.terminated fun e he => strncpy_terminated ip.1 (h.terminated e he)
      · rw [List.length_append]
        rfl
      · show ((t.nodes.modify _ _).take (m.entries.length + 1)).map _ = m.entries ++ _
        rw [hset, take_set_length hlt, List.map_append, List.map_singleton,
          cstr_strncpy ip.2.1 ip.2.2 (h.terminated _ hmem)]
        congr 1
        rw [← h.count_eq]
        exact h.entries_eq
    · rw [if_neg hroom, dif_neg hroom]
      exact h

/-- **A cleaning.** -/
theorem tabulates_clean (h : Tabulates t m) (now : ℤ) :
    Tabulates (cleanTimeoutMcNodes t now) (m.clean now) := by
  obtain ⟨htake, hlen, hcount⟩ :=
    purge_take (fun e : MCNodeInfo => decide (nodeTimeout < now - e.lastHeartbeat)) h.count_le
  have hlive : (cleanTimeoutMcNodes t now).nodes.take (cleanTimeoutMcNodes t now).count =
      (t.nodes.take t.count).filter fun e => !decide (nodeTimeout < now - e.lastHeartbeat) := htake
  have hentries : (cleanTimeoutMcNodes t now).entries = (m.clean now).entries := by
    show List.map _ _ = m.entries.filter _
    rw [hlive, ← h.entries_eq, McTable.entries, List.filter_map]
    congr 1
    refine List.filter_congr fun e _ => ?_
    rw [Function.comp_apply, ← decide_not]
    exact decide_eq_decide.mpr Int.not_lt
  refine ⟨?_, ?_, ?_, hentries⟩
  · rw [← h.length_nodes]
    exact hlen
  · exact fun e he => h.terminated e (mem_purge he)
  · rw [← hentries, McTable.entries, hlive, List.length_map]
    exact hcount

/-! ### Every sequence of calls -/

/-- The time a call gives to `ip`. -/
def McCall.timeOf (ip : CStr) : McCall → Option ℤ
  | .heartbeat now ip' => if ip'.1 = ip then some now else none
  | .clean _ => none

/-- The time of the last heartbeat of `ip` among the calls. -/
def lastHeartbeat (ip : CStr) (calls : List McCall) : Option ℤ :=
  calls.reverse.findSome? (McCall.timeOf ip)

theorem lastHeartbeat_snoc (ip : CStr) (calls : List McCall) (call : McCall) :
    lastHeartbeat ip (calls ++ [call]) = (call.timeOf ip).or (lastHeartbeat ip calls) := by
  unfold lastHeartbeat
  rw [List.reverse_append, List.reverse_singleton, List.singleton_append, List.findSome?_cons]
  cases call.timeOf ip with
  | none => rfl
  | some time => rfl

/-- Every entry a call leaves has the call's time, or was there and the call
is none of its address. -/
theorem mem_step {m : HeartbeatMap} {call : McCall} {e : CStr × ℤ} (he : e ∈ (m.step call).entries) :
    call.timeOf e.1 = some e.2 ∨ call.timeOf e.1 = none ∧ e ∈ m.entries := by
  cases call with
  | clean now => exact .inr ⟨rfl, (List.mem_filter.mp he).1⟩
  | heartbeat now ip =>
    show (if ip.1 = e.1 then some now else none) = some e.2 ∨
      (if ip.1 = e.1 then some now else none) = none ∧ e ∈ m.entries
    simp only [HeartbeatMap.step, HeartbeatMap.heartbeat] at he
    split_ifs at he with hknown hroom
    · obtain ⟨e₀, he₀, rfl⟩ := List.mem_map.mp he
      by_cases hip : e₀.1 = ip.1
      · have hstamp : stamp now ip.1 e₀ = (ip.1, now) := if_pos hip
        rw [hstamp]
        exact .inl (if_pos rfl)
      · have hstamp : stamp now ip.1 e₀ = e₀ := if_neg hip
        rw [hstamp]
        exact .inr ⟨if_neg fun h => hip h.symm, he₀⟩
    · rcases List.mem_append.mp he with he | he
      · refine .inr ⟨if_neg ?_, he⟩
        rintro heq
        exact hknown (heq ▸ List.mem_map_of_mem he)
      · rw [List.mem_singleton.mp he]
        exact .inl (if_pos rfl)
    · refine .inr ⟨if_neg ?_, he⟩
      rintro heq
      exact hknown (heq ▸ List.mem_map_of_mem he)

/-- **The table is the map from the addresses to the times of their last
heartbeats**, after every sequence of calls. -/
theorem mcTable_refines (calls : List McCall) :
    (calls.foldl mcStep .start).entries = (calls.foldl HeartbeatMap.step .empty).entries ∧
    ((calls.foldl mcStep .start).entries.map Prod.fst).Nodup ∧
    (calls.foldl mcStep .start).count = (calls.foldl mcStep .start).entries.length ∧
    (calls.foldl mcStep .start).count ≤ 1024 ∧
    ∀ e ∈ (calls.foldl mcStep .start).entries, lastHeartbeat e.1 calls = some e.2 := by
  have hrun : Tabulates (calls.foldl mcStep .start) (calls.foldl HeartbeatMap.step .empty) ∧
      ∀ e ∈ (calls.foldl HeartbeatMap.step .empty).entries, lastHeartbeat e.1 calls = some e.2 := by
    induction calls using List.reverseRecOn with
    | nil => exact ⟨tabulates_start, fun e he => absurd he List.not_mem_nil⟩
    | append_singleton calls call ih =>
      rw [List.foldl_append, List.foldl_append]
      refine ⟨?_, fun e he => ?_⟩
      · cases call with
        | heartbeat now ip => exact tabulates_heartbeat ih.1 now ip
        | clean now => exact tabulates_clean ih.1 now
      · rw [lastHeartbeat_snoc]
        rcases mem_step he with htime | ⟨hnone, hold⟩
        · rw [htime]
          rfl
        · rw [hnone, Option.none_or]
          exact ih.2 e hold
  obtain ⟨htab, hlast⟩ := hrun
  rw [htab.entries_eq, htab.count_eq]
  exact ⟨rfl, HeartbeatMap.nodup _, rfl, HeartbeatMap.length_le _, hlast⟩

end WtslCore
