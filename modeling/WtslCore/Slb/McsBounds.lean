/-
# The table of MCS bounds

`set_node` and `init_node` go through the 32 entries with the same loop, which
is to stop behind the last full MAC and stops at the first one: it goes on
while the length is not 17, where the loop that reports the table goes on
while it is. So it calls the setter for the entries before the first full
MAC, each of which the setter refuses (`no_bound_reaches_driver`), and without
a full MAC it leaves the table (`mcsBoundLoop_eq`). No table is gone through as
it should be (`mcsBounds_never_applied`).

Key definitions: `McsBound`, `McsTable`, `slbSetMscBound`, `mcsBoundLoop`,
`AppliesBounds`.
Key theorems: `mcsBoundLoop_eq`, `no_bound_reaches_driver`,
`mcsBounds_never_applied`.
-/
import WtslCore.Lib.Decimal
import WtslCore.Node.Params

namespace WtslCore

/-- `MAC_ADDR_LEN`. -/
def macAddrLen : ℕ := 18

/-- `MAX_DEVICE_NAME_LEN`. -/
def maxDeviceNameLen : ℕ := 16

/-- `mcs_bound_t`. -/
structure McsBound where
  userMac : CharArray 18
  minMcs : Int32
  maxMcs : Int32

/-- `mcs_bound_table[32]`. -/
abbrev McsTable := { l : List McsBound // l.length = 32 }

/-- `strlen(user_mac) == MAC_ADDR_LEN - 1`. An array without a terminator is
longer, whatever follows it. -/
def McsBound.isFull (e : McsBound) : Bool := (cstr e.userMac.val).length = macAddrLen - 1

/-- `slb_set_msc_bound`: the command it runs, if it accepts the entry. -/
def slbSetMscBound (devName : CStr) (e : McsBound) : Option CStr :=
  if devName = [] ∨ maxDeviceNameLen < devName.length then none
  else if (cstr e.userMac.val).length ≠ macAddrLen - 1 then none
  else if e.minMcs < 0 ∨ 31 < e.minMcs then none
  else if e.maxMcs < 0 ∨ 31 < e.maxMcs then none
  else some (("iwpriv ".toList ++ (devName ++ (" alg \x22set_mcs_bound ".toList ++
    (cstr e.userMac.val ++ ' ' :: (intText e.minMcs.toInt ++
      ' ' :: (intText e.maxMcs.toInt ++ ['\x22'])))))).take 127)

/-- The loop over the table: the entries it calls the setter for; `none` if it
runs out of the table. -/
def mcsBoundLoop : List McsBound → Option (List McsBound)
  | [] => none
  | e :: es =>
    if (cstr e.userMac.val).length ≠ macAddrLen - 1 then (mcsBoundLoop es).map (e :: ·) else some []

/-- The loop in `set_node`. -/
def setNodeMcsBounds (table : McsTable) : Option (List McsBound) := mcsBoundLoop table.val

/-- The loop in `init_node`. -/
def initNodeMcsBounds (table : McsTable) : Option (List McsBound) := mcsBoundLoop table.val

/-- The bounds that are configured: those before the first entry without a full MAC. -/
def configuredBounds (table : McsTable) : List McsBound := table.val.takeWhile McsBound.isFull

/-- The loop ends within the table and calls the setter for what is configured. -/
def AppliesBounds (loop : McsTable → Option (List McsBound)) (table : McsTable) : Prop :=
  loop table = some (configuredBounds table)

/-! ### The loop -/

theorem McsBound.isFull_iff (e : McsBound) :
    e.isFull = true ↔ (cstr e.userMac.val).length = macAddrLen - 1 := decide_eq_true_iff

theorem mcsBoundLoop_cons (e : McsBound) (es : List McsBound) : mcsBoundLoop (e :: es) =
    if e.isFull then some [] else (mcsBoundLoop es).map (e :: ·) := by
  unfold McsBound.isFull
  rw [mcsBoundLoop, ite_not]
  simp only [decide_eq_true_eq]

/-- **The loop calls the setter for the entries before the first full one**, if there is one. -/
theorem mcsBoundLoop_eq : ∀ es : List McsBound, mcsBoundLoop es =
    if es.any McsBound.isFull then some (es.takeWhile fun e => !e.isFull) else none
  | [] => rfl
  | e :: es => by
    rw [mcsBoundLoop_cons, mcsBoundLoop_eq es, List.any_cons, List.takeWhile_cons]
    cases e.isFull with
    | true => simp
    | false => by_cases h : es.any McsBound.isFull = true <;> simp [h]

theorem slbSetMscBound_of_not_full (devName : CStr) {e : McsBound} (h : e.isFull = false) :
    slbSetMscBound devName e = none := by
  have hlen : (cstr e.userMac.val).length ≠ macAddrLen - 1 :=
    fun heq => absurd ((McsBound.isFull_iff e).mpr heq) (by simp [h])
  unfold slbSetMscBound
  rw [if_pos hlen, ite_self]

/-- **No bound reaches the driver**, from any table. -/
theorem no_bound_reaches_driver (devName : CStr) {es calls : List McsBound}
    (h : mcsBoundLoop es = some calls) : calls.filterMap (slbSetMscBound devName) = [] := by
  rw [mcsBoundLoop_eq] at h
  split_ifs at h
  cases h
  refine List.filterMap_eq_nil_iff.mpr fun e he => slbSetMscBound_of_not_full devName ?_
  simpa using List.mem_takeWhile_imp he

/-- The calls are the configured bounds for no entries at all. -/
theorem mcsBoundLoop_ne (e : McsBound) (es : List McsBound) :
    mcsBoundLoop (e :: es) ≠ some ((e :: es).takeWhile McsBound.isFull) := by
  rw [mcsBoundLoop_cons, List.takeWhile_cons]
  cases e.isFull with
  | true => simp
  | false => cases mcsBoundLoop es <;> simp

/-- **No table of bounds is applied**, by `set_node` or at the start. -/
theorem mcsBounds_never_applied (table : McsTable) :
    ¬ AppliesBounds setNodeMcsBounds table ∧ ¬ AppliesBounds initNodeMcsBounds table := by
  obtain ⟨es, hlen⟩ := table
  cases es with
  | nil => exact absurd hlen (by decide)
  | cons e es => exact ⟨mcsBoundLoop_ne e es, mcsBoundLoop_ne e es⟩

/-- The entry without a MAC. -/
def McsBound.blank : McsBound := ⟨.ofStr 18 [], 0, 0⟩

/-- The table `param_default` leaves. -/
def defaultMcsTable : McsTable :=
  ⟨⟨.ofStr 18 "00:00:00:00:00:00".toList, 6, 30⟩ :: List.replicate 31 McsBound.blank, by decide⟩

/-- The bound of the default table, 6 to 30, does not reach the driver. -/
theorem mcsBounds_default :
    ¬ AppliesBounds setNodeMcsBounds defaultMcsTable ∧
      (setNodeMcsBounds defaultMcsTable).map (List.filterMap (slbSetMscBound netVapName)) = some [] ∧
      (configuredBounds defaultMcsTable).filterMap (slbSetMscBound netVapName) =
        ["iwpriv wt_vap0 alg \x22set_mcs_bound 00:00:00:00:00:00 6 30\x22".toList] := by
  refine ⟨fun h => ?_, by decide, by decide⟩
  have hnil : (setNodeMcsBounds defaultMcsTable).map List.length = some 0 := by decide
  rw [show setNodeMcsBounds defaultMcsTable = some (configuredBounds defaultMcsTable) from h] at hnil
  exact absurd hnil (by decide)

end WtslCore
