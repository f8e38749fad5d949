/-
# Who a payload is sent to over SLE

A payload from the TCP or UDP side goes to the ids of the announce list, if
one was set since the last payload, and else to every connection that is
reported as connected. The list and the table of connections have 20 entries
and are indexed with what the request and the stack hand in, and the list is
known only by its count: a list of no ids is no list. An id is cut to the 16
bits of a connection id, and one that is listed twice is sent to twice.

In a history of callbacks, requests and payloads every payload goes once to
those it is for, and nothing outside the tables is touched, if and only if
every connection id and every list stays inside, and every list a payload
uses has ids of 16 bits, none twice, and is empty only where nobody is
connected (`fanOut_right_iff`).

Key definitions: `FanState`, `fanStep`, `FanHistory`, `SentOnce`, `FanRight`,
`FanOk`.
Key theorems: `Fans.step_iff`, `Fans.keep`, `fanOut_right_iff`.
-/
import Mathlib.Data.List.Count
import Mathlib.Data.List.Nodup
import Mathlib.Logic.Function.Basic
import WtslCore.Node.Destinations
import WtslCore.Sle.ScanTable

namespace WtslCore

open Runs

/-- `sle_acb_state_t`. -/
inductive AcbState
  | none
  | connected
  | disconnected
  deriving DecidableEq

/-- `connect_manage_t`. -/
structure ConnectManage where
  connId : UInt16
  state : AcbState
  mac : CStr
  deriving DecidableEq

/-- `connect_manage`, `announce_id` and `announce_id_num`. -/
structure FanState where
  connectManage : List ConnectManage
  announceId : List ℤ
  announceIdNum : ℕ

/-- The size of `announce_id`. -/
def announceIdMax : ℕ := 20

/-- Zeroed, as the program starts. -/
def FanState.start : FanState :=
  ⟨List.replicate sleMaxConn ⟨0, .none, []⟩, List.replicate announceIdMax 0, 0⟩

/-- `sle_sample_connect_state_changed_cbk`. The address is printed into 18
bytes, which it fills with its end. -/
def connectStateChangedCbk (st : FanState) (connId : UInt16) (addr : Fin 6 → UInt8)
    (connState : AcbState) : Option FanState :=
  if connId.toNat < sleMaxConn then
    some { st with
      connectManage := st.connectManage.set connId.toNat ⟨connId, connState, addrText addr⟩ }
  else none

/-- The loop that stores the ids, from place `i` on. -/
def storeIds (table : List ℤ) (i : ℕ) : List ℤ → Option (List ℤ)
  | [] => some table
  | id :: ids => if i < announceIdMax then storeIds (table.set i id) (i + 1) ids else none

/-- `wtsl_core_set_announce_id`, for the tree of the body if it can be parsed. -/
def FanState.setAnnounceId (st : FanState) (body : Option Json) : Option FanState :=
  match body.bind (·.getObjectItemCaseSensitive "announce_id".toList) with
  | none => some st
  | some item =>
    (storeIds st.announceId 0 (item.children.map Json.valueint)).map fun table =>
      { st with announceId := table, announceIdNum := item.children.length }

/-- What `sle_client_senddata` hands to `sle_tm_send_fast_data`. -/
def sends (st : FanState) (data : List UInt8) : List (UInt16 × List UInt8) :=
  if st.announceIdNum = 0 then
    (st.connectManage.filter fun c => c.state = .connected).map fun c => (c.connId, data)
  else (st.announceId.take st.announceIdNum).map fun id => (UInt16.ofInt id, data)

/-- `sle_client_senddata`. -/
def sleClientSenddata (st : FanState) (data : List UInt8) : FanState × List (UInt16 × List UInt8) :=
  ({ st with announceIdNum := 0 }, sends st data)

/-- What happens: the stack reports the state of a connection, a request sets
the list, a payload is to be sent. -/
inductive FanEvent
  | connState (connId : UInt16) (addr : Fin 6 → UInt8) (connState : AcbState)
  | setAnnounceId (body : Option Json)
  | senddata (data : List UInt8)

def fanStep (st : FanState) : FanEvent → Option FanState
  | .connState connId addr connState => connectStateChangedCbk st connId addr connState
  | .setAnnounceId body => st.setAnnounceId body
  | .senddata data => some (sleClientSenddata st data).1

/-! ### Who a payload is for -/

/-- What was reported and set: the last state of every connection, and the
list set since the last payload. -/
structure FanHistory where
  states : UInt16 → AcbState
  announced : Option (List ℤ)

/-- The ids of a request, if it has an array of them. -/
def announcedIds (body : Option Json) : Option (List ℤ) :=
  match body.bind (·.getObjectItemCaseSensitive "announce_id".toList) with
  | some (.array items) => some (items.map Json.valueint)
  | _ => none

def FanHistory.note (h : FanHistory) : FanEvent → FanHistory
  | .connState connId _ connState => { h with states := Function.update h.states connId connState }
  | .setAnnounceId body => { h with announced := (announcedIds body).or h.announced }
  | .senddata _ => { h with announced := none }

/-- The history of the events. -/
def fanHistory (events : List FanEvent) : FanHistory :=
  events.foldl FanHistory.note ⟨fun _ => .none, none⟩

/-- The payload is for this id. -/
def FanHistory.IsFor (h : FanHistory) (id : ℤ) : Prop :=
  match h.announced with
  | some ids => id ∈ ids
  | none => ∃ connId, h.states connId = .connected ∧ (connId.toNat : ℤ) = id

/-- The payload, and nothing else, is sent once to every id it is for, and to
no other. -/
structure SentOnce (data : List UInt8) (isFor : ℤ → Prop) (sent : List (UInt16 × List UInt8)) :
    Prop where
  data : ∀ s ∈ sent, s.2 = data
  once : ∀ id, isFor id → (sent.map fun s => (s.1.toNat : ℤ)).count id = 1
  others : ∀ id, ¬ isFor id → (sent.map fun s => (s.1.toNat : ℤ)).count id = 0

/-- An event touches nothing outside the tables, and a payload is sent to
those it is for. -/
structure EventRight (st : FanState) (h : FanHistory) (e : FanEvent) : Prop where
  inside : ∃ st', fanStep st e = some st'
  sent : ∀ data, e = .senddata data → SentOnce data h.IsFor (sleClientSenddata st data).2

/-- A request has an array of numbers, if it has any `announce_id`. -/
def FanEvent.WellFormed : FanEvent → Prop
  | .setAnnounceId body =>
    ∀ item, body.bind (·.getObjectItemCaseSensitive "announce_id".toList) = some item →
      ∃ numbers : List JNum, item = .array (numbers.map .number)
  | _ => True

/-- **Every event** of the history is handled rightly in the state before it. -/
def FanRight (events : List FanEvent) : Prop :=
  ∀ es e, es ++ [e] <+: events →
    ∃ st, exec fanStep .start es = some st ∧ EventRight st (fanHistory es) e

/-- The condition for an event. -/
def EventOk (h : FanHistory) : FanEvent → Prop
  | .connState connId _ _ => connId.toNat < sleMaxConn
  | .setAnnounceId body => ∀ ids, announcedIds body = some ids → ids.length ≤ announceIdMax
  | .senddata _ => ∀ ids, h.announced = some ids →
      ids.Nodup ∧ (∀ id ∈ ids, 0 ≤ id ∧ id < 65536) ∧
        (ids = [] → ∀ connId, h.states connId ≠ .connected)

/-- Every event of the history meets the condition. -/
def FanOk (events : List FanEvent) : Prop :=
  ∀ es e, es ++ [e] <+: events → EventOk (fanHistory es) e

/-! ### Sending once -/

section

variable {data : List UInt8} {isFor : ℤ → Prop}

theorem toNat_ofInt {id : ℤ} (h : 0 ≤ id ∧ id < 65536) : ((UInt16.ofInt id).toNat : ℤ) = id := by
  have hid : id % 2 ^ 16 = id := Int.emod_eq_of_lt h.1 h.2
  rw [UInt16.ofInt, hid, UInt16.toNat_ofNat_of_lt', Int.toNat_of_nonneg h.1]
  change id.toNat < 65536
  omega

theorem toNat_lt_max (c : UInt16) : 0 ≤ (c.toNat : ℤ) ∧ (c.toNat : ℤ) < 65536 :=
  ⟨Int.natCast_nonneg _, Int.ofNat_lt.mpr (UInt16.toNat_lt c)⟩

theorem toNat_injective : Function.Injective fun c : UInt16 => (c.toNat : ℤ) :=
  fun _ _ h => UInt16.toNat_inj.mp (Int.ofNat.inj h)

/-- A payload handed over for these connections is sent once to all it is for
if they are those, none twice. -/
theorem sentOnce_iff (targets : List UInt16) :
    SentOnce data isFor (targets.map fun c => (c, data)) ↔
      targets.Nodup ∧ ∀ id, isFor id ↔ ∃ c ∈ targets, (c.toNat : ℤ) = id := by
  have hids : (targets.map fun c => (c, data)).map (fun s => (s.1.toNat : ℤ)) =
      targets.map fun c => (c.toNat : ℤ) := List.map_map
  have hmem : ∀ id : ℤ, id ∈ targets.map (fun c => (c.toNat : ℤ)) ↔ ∃ c ∈ targets, (c.toNat : ℤ) = id :=
    fun _ => List.mem_map
  constructor
  · rintro ⟨-, honce, hothers⟩
    rw [hids] at honce hothers
    have hfor : ∀ id, isFor id ↔ ∃ c ∈ targets, (c.toNat : ℤ) = id := by
      intro id
      rw [← hmem]
      constructor
      · intro h
        exact List.count_pos_iff.mp (by rw [honce id h]; exact Nat.one_pos)
      · intro h
        by_contra hnot
        exact absurd h (List.count_eq_zero.mp (hothers id hnot))
    refine ⟨?_, hfor⟩
    have hnodup : (targets.map fun c => (c.toNat : ℤ)).Nodup := by
      rw [List.nodup_iff_count_le_one]
      intro id
      by_cases h : isFor id
      · exact (honce id h).le
      · rw [hothers id h]
        exact Nat.zero_le 1
    exact hnodup.of_map
  · rintro ⟨hnodup, hfor⟩
    refine ⟨?_, ?_, ?_⟩
    · intro s hs
      obtain ⟨c, -, rfl⟩ := List.mem_map.mp hs
      rfl
    · intro id h
      rw [hids]
      exact List.count_eq_one_of_mem (hnodup.map toNat_injective) ((hmem id).mpr ((hfor id).mp h))
    · intro id h
      rw [hids]
      exact List.count_eq_zero.mpr fun hid => h ((hfor id).mpr ((hmem id).mp hid))

/-- The ids of a list are each sent to once if none is cut and none is twice. -/
theorem sentOnce_ids_iff (ids : List ℤ) :
    SentOnce data (· ∈ ids) (ids.map fun id => (UInt16.ofInt id, data)) ↔
      ids.Nodup ∧ ∀ id ∈ ids, 0 ≤ id ∧ id < 65536 := by
  have hmap : (ids.map fun id => (UInt16.ofInt id, data)) =
      (ids.map UInt16.ofInt).map fun c => (c, data) := by rw [List.map_map]; rfl
  rw [hmap, sentOnce_iff]
  constructor
  · rintro ⟨hnodup, hfor⟩
    refine ⟨hnodup.of_map, fun id hid => ?_⟩
    obtain ⟨c, -, rfl⟩ := (hfor id).mp hid
    exact toNat_lt_max c
  · rintro ⟨hnodup, hrange⟩
    have hback : ∀ id ∈ ids, ((UInt16.ofInt id).toNat : ℤ) = id := fun id hid => toNat_ofInt (hrange id hid)
    refine ⟨hnodup.map_on fun a ha b hb hab => ?_, fun id => ?_⟩
    · rw [← hback a ha, hab, hback b hb]
    · constructor
      · intro hid
        exact ⟨_, List.mem_map_of_mem hid, hback id hid⟩
      · rintro ⟨c, hc, rfl⟩
        obtain ⟨id, hid, rfl⟩ := List.mem_map.mp hc
        rwa [hback id hid]

end

/-! ### The tables and the history -/

/-- The table has the last state of every connection under its id, and the
list is the one that was set. -/
structure Fans (st : FanState) (h : FanHistory) : Prop where
  length : st.connectManage.length = sleMaxConn
  entry : ∀ connId : UInt16, ∀ c, st.connectManage[connId.toNat]? = some c →
    h.states connId = c.state ∧ (c.state = .connected → c.connId = connId)
  outside : ∀ connId, sleMaxConn ≤ connId.toNat → h.states connId = .none
  idLength : st.announceId.length = announceIdMax
  num : st.announceIdNum = (h.announced.getD []).length
  ids : st.announceId.take st.announceIdNum = h.announced.getD []

theorem fans_start : Fans .start ⟨fun _ => .none, none⟩ := by
  refine ⟨List.length_replicate, ?_, fun _ _ => rfl, List.length_replicate, rfl, rfl⟩
  intro connId c hc
  obtain rfl := List.eq_of_mem_replicate (List.mem_of_getElem? hc)
  exact ⟨rfl, fun h => nomatch h⟩

/-- Ids are stored as long as they fit. -/
theorem storeIds_some : ∀ {ids table : List ℤ} {i : ℕ}, table.length = announceIdMax →
    i + ids.length ≤ announceIdMax → ∃ table', storeIds table i ids = some table' ∧
      table'.length = announceIdMax ∧ table'.take (i + ids.length) = table.take i ++ ids
  | [], table, i, hlen, _ => ⟨table, rfl, hlen, by simp⟩
  | id :: ids, table, i, hlen, hfits => by
    rw [List.length_cons] at hfits
    have hi : i < announceIdMax := by omega
    have hset : (table.set i id).length = announceIdMax := by rw [List.length_set, hlen]
    have hrest : i + 1 + ids.length ≤ announceIdMax := by omega
    obtain ⟨table', hstore, hlen', htake⟩ := storeIds_some hset hrest
    refine ⟨table', ?_, hlen', ?_⟩
    · rw [storeIds, if_pos hi, hstore]
    · have hfront : (table.set i id).take (i + 1) = table.take i ++ [id] := by
        rw [List.take_add_one, List.take_set_of_le le_rfl, List.getElem?_set_self (hlen ▸ hi)]
        rfl
      rw [List.length_cons, Nat.add_comm ids.length, ← Nat.add_assoc, htake, hfront, List.append_assoc]
      rfl

theorem storeIds_none : ∀ {ids table : List ℤ} {i : ℕ}, i ≤ announceIdMax →
    announceIdMax < i + ids.length → storeIds table i ids = none
  | [], _, i, hi, hlong => absurd hi (Nat.not_le.mpr hlong)
  | id :: ids, table, i, hi, hlong => by
    rw [List.length_cons] at hlong
    rw [storeIds]
    split_ifs with hroom
    · exact storeIds_none hroom (by omega)
    · rfl

/-- A list is stored exactly if it fits. -/
theorem storeIds_isSome_iff {table ids : List ℤ} (h : table.length = announceIdMax) :
    (storeIds table 0 ids).isSome ↔ ids.length ≤ announceIdMax := by
  by_cases hfits : ids.length ≤ announceIdMax
  · have hroom : 0 + ids.length ≤ announceIdMax := by omega
    obtain ⟨table', hstore, -⟩ := storeIds_some h hroom
    rw [hstore]
    exact iff_of_true rfl hfits
  · rw [storeIds_none (Nat.zero_le _) (by omega)]
    exact iff_of_false Bool.false_ne_true hfits

section

variable {st : FanState} {h : FanHistory} {data : List UInt8}

/-- **The table takes a request** exactly if its copy keeps to the array. -/
theorem FanState.setAnnounceId_isSome_iff {root : Json} {announceId : List Int32}
    (h : st.announceId.length = announceIdMax) :
    (st.setAnnounceId (some root)).isSome ↔ NoOverflow (WtslCore.setAnnounceId announceId root) := by
  rw [noOverflow_setAnnounceId, FanState.setAnnounceId, Option.bind_some]
  cases root.getObjectItemCaseSensitive "announce_id".toList with
  | none => simp
  | some item =>
    dsimp only
    rw [Option.isSome_map, storeIds_isSome_iff h, List.length_map]
    simp [announceIdMax]

/-- The connections of the table that are connected are those reported so. -/
theorem Fans.connected (hf : Fans st h) :
    ((st.connectManage.filter fun c => c.state = .connected).map ConnectManage.connId).Nodup ∧
      ∀ connId, connId ∈ (st.connectManage.filter fun c => c.state = .connected).map ConnectManage.connId ↔
        h.states connId = .connected := by
  have hmax : sleMaxConn < 65536 := by decide
  have hat : ∀ i c, st.connectManage[i]? = some c → h.states (UInt16.ofNat i) = c.state ∧
      (c.state = .connected → c.connId.toNat = i) := by
    intro i c hc
    have hi : i < 65536 := by
      have hlt := (List.getElem?_eq_some_iff.mp hc).1
      rw [hf.length] at hlt
      exact hlt.trans hmax
    have hnat : (UInt16.ofNat i).toNat = i := UInt16.toNat_ofNat_of_lt' hi
    obtain ⟨hstate, hid⟩ := hf.entry (UInt16.ofNat i) c (by rw [hnat]; exact hc)
    exact ⟨hstate, fun hcon => by rw [hid hcon, hnat]⟩
  constructor
  · -- connected entries have their places for ids
    rw [List.Nodup, List.pairwise_map, List.pairwise_filter, List.pairwise_iff_getElem]
    intro i j hi hj hij ha hb heq
    have hidi := (hat i _ (List.getElem?_eq_getElem hi)).2 (of_decide_eq_true ha)
    have hidj := (hat j _ (List.getElem?_eq_getElem hj)).2 (of_decide_eq_true hb)
    rw [heq, hidj] at hidi
    omega
  · intro connId
    constructor
    · intro hmem
      obtain ⟨c, hc, rfl⟩ := List.mem_map.mp hmem
      obtain ⟨hc, hcon⟩ := List.mem_filter.mp hc
      obtain ⟨i, hi⟩ := List.mem_iff_getElem?.mp hc
      obtain ⟨hstate, hid⟩ := hat i c hi
      have hcon := of_decide_eq_true hcon
      rw [← hid hcon, UInt16.ofNat_toNat] at hstate
      rw [hstate, hcon]
    · intro hcon
      have hin : connId.toNat < st.connectManage.length := by
        rw [hf.length]
        by_contra hout
        rw [hf.outside connId (Nat.le_of_not_lt hout)] at hcon
        cases hcon
      obtain ⟨hstate, hid⟩ := hf.entry connId _ (List.getElem?_eq_getElem hin)
      rw [hcon] at hstate
      refine List.mem_map.mpr ⟨_, List.mem_filter.mpr ⟨List.getElem_mem hin, ?_⟩, hid hstate.symm⟩
      exact decide_eq_true hstate.symm

/-- A payload that goes to the connected reaches each of them once. -/
theorem Fans.sends_connected (hf : Fans st h) (hnum : st.announceIdNum = 0) :
    SentOnce data (fun id => ∃ connId, h.states connId = .connected ∧ (connId.toNat : ℤ) = id)
      (sends st data) := by
  obtain ⟨hnodup, hmem⟩ := hf.connected
  have hsends : sends st data =
      ((st.connectManage.filter fun c => c.state = .connected).map ConnectManage.connId).map
        fun c => (c, data) := by
    rw [sends, if_pos hnum, List.map_map]
    rfl
  rw [hsends, sentOnce_iff]
  refine ⟨hnodup, fun id => exists_congr fun connId => ?_⟩
  rw [hmem]

/-- **A payload is sent to those it is for** if and only if it meets the condition. -/
theorem Fans.senddata_iff (hf : Fans st h) :
    SentOnce data h.IsFor (sends st data) ↔ EventOk h (.senddata data) := by
  have hnum := hf.num
  have hids := hf.ids
  unfold FanHistory.IsFor EventOk
  cases hann : h.announced with
  | none =>
    rw [hann] at hnum
    exact iff_of_true (hf.sends_connected hnum) fun ids hids => nomatch hids
  | some ids =>
    rw [hann, Option.getD_some] at hnum hids
    have hcond : (∀ ids', some ids = some ids' → ids'.Nodup ∧ (∀ id ∈ ids', 0 ≤ id ∧ id < 65536) ∧
        (ids' = [] → ∀ connId, h.states connId ≠ .connected)) ↔
        ids.Nodup ∧ (∀ id ∈ ids, 0 ≤ id ∧ id < 65536) ∧
          (ids = [] → ∀ connId, h.states connId ≠ .connected) := by
      constructor
      · intro hall
        exact hall ids rfl
      · rintro hok ids' ⟨⟩
        exact hok
    rw [hcond]
    by_cases hempty : ids = []
    · -- an empty list is taken for none
      subst hempty
      have hsent : SentOnce data _ (sends st data) := hf.sends_connected hnum
      constructor
      · intro hnone
        refine ⟨List.nodup_nil, fun _ hid => absurd hid List.not_mem_nil, fun _ connId hcon => ?_⟩
        have hzero := hnone.others connId.toNat List.not_mem_nil
        rw [hsent.once connId.toNat ⟨connId, hcon, rfl⟩] at hzero
        cases hzero
      · rintro ⟨-, -, hnobody⟩
        refine ⟨hsent.data, fun _ hid => absurd hid List.not_mem_nil, fun id _ => ?_⟩
        refine hsent.others id ?_
        rintro ⟨connId, hcon, -⟩
        exact hnobody rfl connId hcon
    · have hpos : ¬ st.announceIdNum = 0 := by rwa [hnum, List.length_eq_zero_iff]
      rw [sends, if_neg hpos, hids]
      change SentOnce data (· ∈ ids) _ ↔ _
      rw [sentOnce_ids_iff]
      constructor
      · rintro ⟨hnodup, hrange⟩
        exact ⟨hnodup, hrange, fun hnil => absurd hnil hempty⟩
      · rintro ⟨hnodup, hrange, -⟩
        exact ⟨hnodup, hrange⟩

/-- What a request does: nothing, or store its ids. -/
theorem FanState.setAnnounceId_cases (st : FanState) {body : Option Json}
    (hwf : (FanEvent.setAnnounceId body).WellFormed) :
    (announcedIds body = none ∧ st.setAnnounceId body = some st) ∨
    ∃ ids, announcedIds body = some ids ∧ st.setAnnounceId body =
      (storeIds st.announceId 0 ids).map fun table =>
        { st with announceId := table, announceIdNum := ids.length } := by
  unfold announcedIds FanState.setAnnounceId
  cases hitem : body.bind (·.getObjectItemCaseSensitive "announce_id".toList) with
  | none => exact .inl ⟨rfl, rfl⟩
  | some item =>
    obtain ⟨numbers, rfl⟩ := hwf item hitem
    refine .inr ⟨_, rfl, ?_⟩
    rw [List.length_map]
    rfl

/-- **An event is handled rightly** if and only if it meets the condition. -/
theorem Fans.step_iff (hf : Fans st h) {e : FanEvent} (hwf : e.WellFormed) :
    EventRight st h e ↔ EventOk h e := by
  cases e with
  | connState connId addr connState =>
    constructor
    · rintro ⟨⟨st', hst'⟩, -⟩
      by_contra hout
      have hnone : fanStep st (.connState connId addr connState) = none := if_neg hout
      rw [hnone] at hst'
      cases hst'
    · intro hok
      exact ⟨⟨_, if_pos hok⟩, fun _ he => nomatch he⟩
  | setAnnounceId body =>
    have hright : EventRight st h (.setAnnounceId body) ↔ ∃ st', st.setAnnounceId body = some st' := by
      constructor
      · intro hr
        exact hr.inside
      · intro hin
        exact ⟨hin, fun _ he => nomatch he⟩
    rw [hright]
    obtain ⟨hnone, hset⟩ | ⟨ids, hids, hset⟩ := st.setAnnounceId_cases hwf
    · refine iff_of_true ⟨st, hset⟩ fun ids hids => ?_
      rw [hnone] at hids
      cases hids
    · have hcond : EventOk h (.setAnnounceId body) ↔ ids.length ≤ announceIdMax := by
        constructor
        · intro hok
          exact hok ids hids
        · intro hfits ids' hids'
          exact Option.some.inj (hids.symm.trans hids') ▸ hfits
      rw [hcond, hset, ← Option.isSome_iff_exists, Option.isSome_map, storeIds_isSome_iff hf.idLength]
  | senddata data =>
    rw [← hf.senddata_iff]
    constructor
    · intro hr
      exact hr.sent data rfl
    · intro hsent
      refine ⟨⟨_, rfl⟩, ?_⟩
      rintro _ ⟨⟩
      exact hsent

/-- An event that meets the condition is noted in the tables. -/
theorem Fans.keep (hf : Fans st h) {e : FanEvent} (hwf : e.WellFormed) (hok : EventOk h e) :
    ∃ st', fanStep st e = some st' ∧ Fans st' (h.note e) := by
  cases e with
  | connState connId addr connState =>
    refine ⟨_, if_pos hok, ?_, ?_, ?_, hf.idLength, hf.num, hf.ids⟩
    · dsimp only
      rw [List.length_set, hf.length]
    · intro id c hc
      dsimp only [FanHistory.note] at hc ⊢
      by_cases heq : id = connId
      · subst heq
        rw [List.getElem?_set_self (hf.length ▸ hok)] at hc
        obtain rfl := Option.some.inj hc
        exact ⟨Function.update_self .., fun _ => rfl⟩
      · rw [List.getElem?_set_ne fun h => heq (UInt16.toNat_inj.mp h.symm)] at hc
        rw [Function.update_of_ne heq]
        exact hf.entry id c hc
    · intro id hid
      have hne : id ≠ connId := by
        rintro rfl
        exact absurd hok (Nat.not_lt.mpr hid)
      dsimp only [FanHistory.note]
      rw [Function.update_of_ne hne, hf.outside id hid]
  | setAnnounceId body =>
    obtain ⟨hnone, hset⟩ | ⟨ids, hids, hset⟩ := st.setAnnounceId_cases hwf
    · have hnote : h.note (.setAnnounceId body) = h := by
        simp only [FanHistory.note, hnone, Option.none_or]
      refine ⟨st, hset, ?_⟩
      rw [hnote]
      exact hf
    · have hnote : h.note (.setAnnounceId body) = { h with announced := some ids } := by
        simp only [FanHistory.note, hids, Option.some_or]
      have hfits : 0 + ids.length ≤ announceIdMax := by
        rw [Nat.zero_add]
        exact hok ids hids
      obtain ⟨table, hstore, hlen, htake⟩ := storeIds_some hf.idLength hfits
      refine ⟨_, hset.trans (congrArg (Option.map _) hstore), ?_⟩
      rw [hnote]
      refine ⟨hf.length, hf.entry, hf.outside, hlen, rfl, ?_⟩
      rwa [Nat.zero_add, List.take_zero, List.nil_append] at htake
  | senddata data =>
    exact ⟨_, rfl, hf.length, hf.entry, hf.outside, hf.idLength, rfl, rfl⟩

end

/-- **Every payload goes to those it is for** and nothing outside the tables is
touched, in every history, if and only if every event meets the condition. -/
theorem fanOut_right_iff (events : List FanEvent) (hwf : ∀ e ∈ events, e.WellFormed) :
    FanRight events ↔ FanOk events := by
  have hmem : ∀ es e, es ++ [e] <+: events → e.WellFormed := fun es e hpre =>
    hwf e (hpre.subset (List.mem_append_right es (List.mem_singleton_self e)))
  have hstep : ∀ st h e, Fans st h →
      (e.WellFormed ∧ EventRight st h e ↔ e.WellFormed ∧ EventOk h e) :=
    fun st h e hf => and_congr_right fun hwf => hf.step_iff hwf
  have hkeep : ∀ st h e, Fans st h → e.WellFormed ∧ EventOk h e →
      ∃ st', fanStep st e = some st' ∧ Fans st' (h.note e) :=
    fun st h e hf hok => hf.keep hok.1 hok.2
  have hiff := @prefix_meets_iff _ _ _ _ events _ _ _ _ _ _ fans_start hstep hkeep
  constructor
  · intro hright es e hpre
    refine (hiff.mp ?_ es e hpre).2
    intro es e hpre
    obtain ⟨st, hst, hr⟩ := hright es e hpre
    exact ⟨st, hst, hmem es e hpre, hr⟩
  · intro hok es e hpre
    obtain ⟨st, hst, -, hr⟩ := hiff.mpr (fun es e hpre => ⟨hmem es e hpre, hok es e hpre⟩) es e hpre
    exact ⟨st, hst, hr⟩

/-- A request with these ids. -/
def idRequest (ids : List JNum) : FanEvent :=
  .setAnnounceId (some (.object [("announce_id".toList, .array (ids.map .number))]))

/-- The number 1. -/
def idOne : JNum := ⟨1, "1".toList, one_gChars⟩

theorem idRequest_wellFormed (ids : List JNum) : (idRequest ids).WellFormed := by
  rintro item ⟨⟩
  exact ⟨ids, rfl⟩

/-- The connection 3 is reported as connected. -/
def connectedThree : FanEvent := .connState 3 (fun _ => 0) .connected

/-- A payload to the list `[1]`, and one to the connected. -/
theorem fanOut_right_list :
    (∀ e ∈ [connectedThree, idRequest [idOne], .senddata [7], .senddata [8]], e.WellFormed) ∧
    (FanRight [connectedThree, idRequest [idOne], .senddata [7], .senddata [8]] ↔
      FanOk [connectedThree, idRequest [idOne], .senddata [7], .senddata [8]]) := by
  have hwf : ∀ e ∈ [connectedThree, idRequest [idOne], .senddata [7], .senddata [8]],
      FanEvent.WellFormed e := by
    simp only [List.forall_mem_cons]
    exact ⟨trivial, idRequest_wellFormed _, trivial, trivial, fun _ h => absurd h List.not_mem_nil⟩
  exact ⟨hwf, fanOut_right_iff _ hwf⟩

/-- A list of no ids is sent to the connected, an id that is listed twice is
sent to twice; a list of 21 ids and the connection 20 are behind the tables. -/
theorem fanOut_wrong :
    ¬ FanRight [connectedThree, idRequest [], .senddata [7]] ∧
    ((exec fanStep .start [connectedThree, idRequest []]).map fun st => sends st [7]) = some [(3, [7])] ∧
    ¬ FanRight [idRequest [idOne, idOne], .senddata [7]] ∧
    ((exec fanStep .start [idRequest [idOne, idOne]]).map fun st => sends st [7]) =
      some [(1, [7]), (1, [7])] ∧
    exec fanStep .start [idRequest (List.replicate 21 idOne)] = none ∧
    exec fanStep .start [.connState 20 (fun _ => 0) .connected] = none := by
  refine ⟨fun h => ?_, rfl, fun h => ?_, rfl, rfl, rfl⟩
  · obtain ⟨st, hst, hright⟩ := h [connectedThree, idRequest []] (.senddata [7]) List.prefix_rfl
    obtain rfl := Option.some.inj hst
    exact absurd ((hright.sent [7] rfl).others 3 List.not_mem_nil) (by decide)
  · obtain ⟨st, hst, hright⟩ := h [idRequest [idOne, idOne]] (.senddata [7]) List.prefix_rfl
    obtain rfl := Option.some.inj hst
    exact absurd ((hright.sent [7] rfl).once 1 List.mem_cons_self) (by decide)

end WtslCore
