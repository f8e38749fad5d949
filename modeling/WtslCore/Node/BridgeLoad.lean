/-
# Loading the record of the local node

`config_read` takes the number of bridge interfaces from the file and reads
that many entries of an array of seven; `init_net_bridge` reads as many again.
Neither looks at the bound, so the load is safe exactly if the number in the
file, when it is read, lies between 0 and 7 (`loadsSafely_iff`). The strings
are safe in any file: `config_get` writes no more than its buffer and ends it
with a terminator (`ConfigReader.length_getStr_lt`).

Key definitions: `NodeRecord`, `StartRecord`, `readVap0Mac`, `loadRecord`,
`initNetBridge`, `LoadsSafely`.
Key theorems: `initNetBridge_isSome_iff`, `Terminated.configRead`,
`loadsSafely_iff`.
-/
import WtslCore.Node.Params

namespace WtslCore

/-- The parameters with the MAC of the interface, which comes from the flash. -/
structure NodeRecord extends NodeParams where
  mac : CharArray 18

/-- `bridge_interfaces[7]`. -/
def bridgeInterfaceMax : ℕ := 7

/-- The strings of the record end within their arrays. -/
structure Terminated (p : NodeRecord) : Prop where
  ip : p.ip.length < 16
  name : p.name.length < 128
  netManageIp : p.netManageIp.length < 16
  autoJoinNetMac : p.autoJoinNetMac.length = 3 ∧ ∀ m ∈ p.autoJoinNetMac, m.length < 18
  bridgeInterfaces : p.bridgeInterfaces.length = bridgeInterfaceMax ∧
    ∀ d ∈ p.bridgeInterfaces, d.length < 32
  sleName : p.sleName.length < 32
  mac : nul ∈ p.mac.val

/-- A record before it is loaded: terminated strings, and a number of
interfaces that there are. -/
structure StartRecord where
  record : NodeRecord
  terminated : Terminated record
  num : 0 ≤ record.bridgeInterfaceNum ∧ record.bridgeInterfaceNum ≤ 7

/-- The array keeps its size when the MAC is read into it. -/
theorem length_readVap0Mac (mac : CharArray 18) (text : List Char) :
    ((text.take 17 ++ mac.val.drop (text.take 17).length).set 17 nul).length = 18 := by
  have := mac.property
  simp only [List.length_set, List.length_append, List.length_drop, List.length_take]
  omega

/-- `read_vap0_mac`: up to 17 bytes of the file over the array, and a
terminator behind them. -/
def readVap0Mac (file : Option (List Char)) (mac : CharArray 18) : CharArray 18 :=
  match file with
  | none => mac
  | some text => ⟨(text.take 17 ++ mac.val.drop (text.take 17).length).set 17 nul,
      length_readVap0Mac mac text⟩

/-- `config_read`, with the MAC. -/
def loadRecord (r : ConfigReader) (macFile : Option (List Char)) (p : NodeRecord) :
    Option NodeRecord :=
  (configRead r p.toNodeParams).map fun q => { q with mac := readVap0Mac macFile p.mac }

/-- The first entries of the array; `none` if there are not so many. -/
def bridgeEntries : ℕ → List CStr → Option (List CStr)
  | 0, _ => some []
  | _ + 1, [] => none
  | n + 1, d :: ds => (bridgeEntries n ds).map (d :: ·)

/-- `init_net_bridge`: the commands it runs, each cut to its 128 bytes. -/
def initNetBridge (netBridgeName ip : CStr) (p : NodeParams) : Option (List CStr) :=
  let cmd (text : CStr) : CStr := text.take 127
  (bridgeEntries p.bridgeInterfaceNum.toInt.toNat p.bridgeInterfaces).map fun devs =>
    cmd ("brctl addbr ".toList ++ netBridgeName) ::
      (devs.flatMap fun dev =>
        [cmd ("ifconfig ".toList ++ dev ++ " 0.0.0.0".toList),
          cmd ("brctl addif ".toList ++ netBridgeName ++ ' ' :: dev)]) ++
      [cmd ("ip link set dev ".toList ++ netBridgeName ++ " address $(cat /sys/class/net/".toList ++
          netVapName ++ "/address)".toList),
        cmd ("ifconfig ".toList ++ netBridgeName ++ ' ' :: ip)]

/-- The load keeps to the record, and what follows reads only what is there. -/
def LoadsSafely (r : ConfigReader) (macFile : Option (List Char)) (p : NodeRecord) : Prop :=
  ∃ q, loadRecord r macFile p = some q ∧
    (0 ≤ q.bridgeInterfaceNum ∧ q.bridgeInterfaceNum ≤ 7) ∧
    (∀ netBridgeName ip, (initNetBridge netBridgeName ip q.toNodeParams).isSome = true) ∧
    Terminated q

/-- The number of interfaces that the file has, if it is read at all. -/
def fileBridgeNum (r : ConfigReader) : Option Int32 :=
  if isValidValue (r.stack 15).strValue then storedInt r.file "BRIDGE_IF_NUM".toList else none

/-! ### Entries of the array -/

theorem bridgeEntries_isSome_iff : ∀ (n : ℕ) (ds : List CStr),
    (bridgeEntries n ds).isSome = true ↔ n ≤ ds.length
  | 0, _ => by simp [bridgeEntries]
  | n + 1, [] => by simp [bridgeEntries]
  | n + 1, d :: ds => by
    rw [bridgeEntries, Option.isSome_map, bridgeEntries_isSome_iff n ds, List.length_cons]
    omega

/-- **`init_net_bridge` stays in the array** if the number is no more than its entries. -/
theorem initNetBridge_isSome_iff (netBridgeName ip : CStr) (p : NodeParams) :
    (initNetBridge netBridgeName ip p).isSome = true ↔
      p.bridgeInterfaceNum.toInt.toNat ≤ p.bridgeInterfaces.length := by
  unfold initNetBridge
  simp only [Option.isSome_map]
  exact bridgeEntries_isSome_iff _ _

/-! ### Strings -/

/-- **A string that is read ends within its array**, as the old one did. -/
theorem ConfigReader.length_getStr_lt (r : ConfigReader) (i : ℕ) (key : CStr) {n : ℕ} {old : CStr}
    (h : old.length < n) : (r.getStr i key n old).length < n := by
  have hloop : ∀ (lines : List (List Char)) (junk : ℕ → Junk),
      (configGetLoop key old n junk lines).2.length < n := by
    intro lines junk
    rw [configGetLoop_eq]
    split
    · rw [List.length_take]
      omega
    · exact h
  unfold ConfigReader.getStr configGet
  split_ifs
  · exact h
  · cases r.file with
    | none => exact h
    | some f => exact hloop _ _

theorem mem_mapIdx_length_lt {l : List CStr} {n : ℕ} (f : ℕ → CStr → CStr)
    (hf : ∀ i old, old.length < n → (f i old).length < n) (h : ∀ s ∈ l, s.length < n) :
    ∀ s ∈ l.mapIdx f, s.length < n := by
  intro s hs
  obtain ⟨i, hi, rfl⟩ := List.mem_mapIdx.mp hs
  exact hf i _ (h _ (List.getElem_mem hi))

theorem nul_mem_readVap0Mac (file : Option (List Char)) {mac : CharArray 18} (h : nul ∈ mac.val) :
    nul ∈ (readVap0Mac file mac).val := by
  cases file with
  | none => exact h
  | some text =>
    refine List.mem_set ?_ _
    have := mac.property
    simp only [List.length_append, List.length_drop, List.length_take]
    omega

/-- **The strings stay terminated**, whatever the file holds. -/
theorem Terminated.loadRecord {r : ConfigReader} {macFile : Option (List Char)} {p q : NodeRecord}
    (h : Terminated p) (hload : loadRecord r macFile p = some q) : Terminated q := by
  obtain ⟨q', hread, rfl⟩ := Option.map_eq_some_iff.mp hload
  unfold configRead at hread
  simp only at hread
  split_ifs at hread
  cases hread
  exact
    { ip := r.length_getStr_lt _ _ h.ip
      name := r.length_getStr_lt _ _ h.name
      netManageIp := r.length_getStr_lt _ _ h.netManageIp
      autoJoinNetMac := ⟨by rw [List.length_mapIdx, h.autoJoinNetMac.1],
        mem_mapIdx_length_lt _ (fun _ _ hold => r.length_getStr_lt _ _ hold) h.autoJoinNetMac.2⟩
      bridgeInterfaces := ⟨by rw [List.length_mapIdx, h.bridgeInterfaces.1],
        mem_mapIdx_length_lt _ (fun _ _ hold => by
          split_ifs
          · exact r.length_getStr_lt _ _ hold
          · exact hold) h.bridgeInterfaces.2⟩
      sleName := r.length_getStr_lt _ _ h.sleName
      mac := nul_mem_readVap0Mac macFile h.mac }

/-! ### The number -/

/-- The number of interfaces after the load, and whether the load keeps to the array. -/
theorem configRead_num {r : ConfigReader} {p q : NodeParams} (h : configRead r p = some q) :
    q.bridgeInterfaceNum = r.getInt 15 "BRIDGE_IF_NUM" p.bridgeInterfaceNum ∧
      r.getInt 15 "BRIDGE_IF_NUM" p.bridgeInterfaceNum ≤ 7 := by
  unfold configRead at h
  simp only at h
  split_ifs at h with hnum
  cases h
  exact ⟨rfl, Int32.not_lt.mp hnum⟩

theorem configRead_isSome {r : ConfigReader} {p : NodeParams}
    (h : r.getInt 15 "BRIDGE_IF_NUM" p.bridgeInterfaceNum ≤ 7) : (configRead r p).isSome = true := by
  unfold configRead
  simp only
  rw [if_neg (Int32.not_lt.mpr h)]
  rfl

theorem getInt_bridgeNum (r : ConfigReader) (old : Int32) :
    r.getInt 15 "BRIDGE_IF_NUM" old = (fileBridgeNum r).getD old := by
  rw [r.getInt_eq 15 (by decide)]
  unfold fileBridgeNum
  split_ifs
  · rfl
  · rfl

/-- **A load is safe** exactly if the number the file has is between 0 and 7. -/
theorem loadsSafely_iff (r : ConfigReader) (macFile : Option (List Char)) (p : StartRecord) :
    LoadsSafely r macFile p.record ↔ ∀ n ∈ fileBridgeNum r, 0 ≤ n ∧ n ≤ 7 := by
  have hread := getInt_bridgeNum r p.record.bridgeInterfaceNum
  constructor
  · rintro ⟨q, hload, hnum, -, -⟩ n hn
    obtain ⟨q', hq', rfl⟩ := Option.map_eq_some_iff.mp hload
    rw [Option.mem_def.mp hn, Option.getD_some] at hread
    rw [← hread, ← (configRead_num hq').1]
    exact hnum
  · intro h
    have hnum : 0 ≤ r.getInt 15 "BRIDGE_IF_NUM" p.record.bridgeInterfaceNum ∧
        r.getInt 15 "BRIDGE_IF_NUM" p.record.bridgeInterfaceNum ≤ 7 := by
      rw [hread]
      cases hn : fileBridgeNum r with
      | none => exact p.num
      | some n => exact h n hn
    obtain ⟨q, hq⟩ := Option.isSome_iff_exists.mp (configRead_isSome hnum.2)
    have hload : loadRecord r macFile p.record =
        some { q with mac := readVap0Mac macFile p.record.mac } := by
      rw [loadRecord, hq, Option.map_some]
    have hterm := p.terminated.loadRecord hload
    rw [← (configRead_num hq).1] at hnum
    refine ⟨_, hload, hnum, fun netBridgeName ip => ?_, hterm⟩
    rw [initNetBridge_isSome_iff, hterm.bridgeInterfaces.1]
    have hle := Int32.le_iff_toInt_le.mp hnum.2
    rw [show (7 : Int32).toInt = 7 from rfl] at hle
    show q.bridgeInterfaceNum.toInt.toNat ≤ 7
    omega

/-- The record `param_default` leaves, with a MAC. -/
def defaultRecord : StartRecord where
  record := { paramDefault 0 with mac := .ofStr 18 "02:00:00:00:00:01".toList }
  terminated := by
    constructor
    all_goals decide
  num := by decide

/-- A file with eight interfaces leads out of the array of seven. -/
theorem loadRecord_eight :
    ¬ LoadsSafely ⟨some "BRIDGE_IF_NUM=8".toList, fun _ => ⟨[], fun _ => ⟨[], []⟩⟩⟩ none
      defaultRecord.record := by
  rintro ⟨q, hload, -⟩
  have hnone : (loadRecord ⟨some "BRIDGE_IF_NUM=8".toList, fun _ => ⟨[], fun _ => ⟨[], []⟩⟩⟩ none
      defaultRecord.record).isNone = true := by decide
  rw [hload] at hnone
  exact Bool.noConfusion hnone

end WtslCore
