/-
# The order of the bandwidths

The tfc bandwidth of the driver is to stay within its bandwidth while
`set_node` changes both. It sets the one that grows first, but drops what the
first setter returns: after a bandwidth that was refused or failed, the tfc
bandwidth is set all the same. So the order is kept after every command
exactly if each number that is taken fits the one that stays
(`bandwidthsKept_iff`); with the driver's bandwidth read right, that is a
matter of the pair that is left when one is taken and the other is not
(`bandwidthsKept_iff_of_read`).

Key definitions: `BwOrdered`, `bandwidthCommands`, `statesAfter`,
`BandwidthsKept`.
Key theorems: `setNode_last`, `bandwidthsKept_iff`, `bandwidths_order`.
-/
import WtslCore.Node.Radio

namespace WtslCore

/-- The tfc bandwidth is within the bandwidth. -/
def BwOrdered (bw tfcBw : Int32) : Prop := tfcBw ≤ bw

instance (bw tfcBw : Int32) : Decidable (BwOrdered bw tfcBw) := inferInstanceAs (Decidable (_ ≤ _))

/-- A driver whose bandwidths are in order. -/
structure OrderedRadio where
  driver : Radio
  order : BwOrdered driver.bw driver.tfcBw

/-- Parameters whose bandwidths are in order, acceptable or not. -/
structure OrderedParams where
  params : NodeParams
  order : BwOrdered params.bw params.tfcBw

/-- The commands `set_node` gives for the bandwidths, where `get_bw` returned `read`. -/
def bandwidthCommands (read : Int32) (p : NodeParams) : List (DriverSetting × Int32) :=
  if read ≤ p.bw then [(slbSetBw, p.bw), (slbSetTfcBw, p.tfcBw)]
  else [(slbSetTfcBw, p.tfcBw), (slbSetBw, p.bw)]

/-- The driver after each of the commands. -/
def statesAfter (system : CStr → ℤ) : List (DriverSetting × Int32) → Radio → List Radio
  | [], _ => []
  | c :: cs, d => (c.1.set system c.2 d).1 :: statesAfter system cs (c.1.set system c.2 d).1

/-- A setter's command works. -/
def DriverSetting.Runs (ds : DriverSetting) (system : CStr → ℤ) (v : Int32) : Prop :=
  system (ds.command v) = 0

/-- The value is accepted and its command works. -/
def DriverSetting.Takes (ds : DriverSetting) (system : CStr → ℤ) (v : Int32) : Prop :=
  ds.accepts v = true ∧ ds.Runs system v

instance (ds : DriverSetting) (system : CStr → ℤ) (v : Int32) : Decidable (ds.Takes system v) :=
  inferInstanceAs (Decidable (_ ∧ system _ = 0))

/-- The bandwidths are in order after every command, and end as requested if
both values are accepted and all commands work. -/
def BandwidthsKept (env : RadioEnv) (p : NodeParams) (d : Radio) : Prop :=
  (∀ s ∈ statesAfter env.system (bandwidthCommands (slbGet env.getBw) p)
      (slbSetChannel.set env.system p.channel d).1, BwOrdered s.bw s.tfcBw) ∧
    (p.bw ∈ slbBws → p.tfcBw ∈ slbBws → slbSetBw.Runs env.system p.bw →
      slbSetTfcBw.Runs env.system p.tfcBw →
        (setNode env p d).2.bw = p.bw ∧ (setNode env p d).2.tfcBw = p.tfcBw)

variable {env : RadioEnv} {p : NodeParams} {d : Radio}

/-! ### The commands -/

/-- The last of the states is the one the commands end in. -/
theorem foldl_set_eq_last (system : CStr → ℤ) : ∀ (cs : List (DriverSetting × Int32)) (d : Radio),
    cs.foldl (fun d c => (c.1.set system c.2 d).1) d = (statesAfter system cs d).getLastD d
  | [], _ => rfl
  | c :: cs, d => by
    rw [List.foldl_cons, foldl_set_eq_last system cs, statesAfter, List.getLastD_cons]

/-- **`set_node` leaves the last state**, after the channel and its commands. -/
theorem setNode_last (env : RadioEnv) (p : NodeParams) (d : Radio) : (setNode env p d).2 =
    (statesAfter env.system (bandwidthCommands (slbGet env.getBw) p)
      (slbSetChannel.set env.system p.channel d).1).getLastD
        (slbSetChannel.set env.system p.channel d).1 := by
  rw [← foldl_set_eq_last]
  unfold setNode bandwidthCommands
  simp only
  split_ifs
  · rfl
  · rfl

/-- A setter writes its number exactly if it takes it. -/
theorem DriverSetting.set_takes (ds : DriverSetting) (system : CStr → ℤ) (v : Int32) (d : Radio) :
    (ds.set system v d).1 = if ds.Takes system v then ds.put v d else d :=
  ds.set_fst system v d

theorem slbSetBw_bws (system : CStr → ℤ) (v : Int32) (d : Radio) :
    (slbSetBw.set system v d).1.bw = (if slbSetBw.Takes system v then v else d.bw) ∧
      (slbSetBw.set system v d).1.tfcBw = d.tfcBw := by
  rw [DriverSetting.set_takes]
  split_ifs
  · exact ⟨rfl, rfl⟩
  · exact ⟨rfl, rfl⟩

theorem slbSetTfcBw_bws (system : CStr → ℤ) (v : Int32) (d : Radio) :
    (slbSetTfcBw.set system v d).1.bw = d.bw ∧
      (slbSetTfcBw.set system v d).1.tfcBw =
        if slbSetTfcBw.Takes system v then v else d.tfcBw := by
  rw [DriverSetting.set_takes]
  split_ifs
  · exact ⟨rfl, rfl⟩
  · exact ⟨rfl, rfl⟩

theorem slbSetChannel_bws (system : CStr → ℤ) (v : Int32) (d : Radio) :
    (slbSetChannel.set system v d).1.bw = d.bw ∧ (slbSetChannel.set system v d).1.tfcBw = d.tfcBw := by
  rw [slbSetChannel_fst]
  exact ⟨rfl, rfl⟩

/-- **Both values are taken** where both are accepted and all commands work. -/
theorem setNode_bws_of_runs (hbw : p.bw ∈ slbBws) (htfc : p.tfcBw ∈ slbBws)
    (hrun : slbSetBw.Runs env.system p.bw) (hrun' : slbSetTfcBw.Runs env.system p.tfcBw) :
    (setNode env p d).2.bw = p.bw ∧ (setNode env p d).2.tfcBw = p.tfcBw := by
  rw [setNode_driver]
  exact ⟨if_pos ⟨hbw, hrun⟩, if_pos ⟨htfc, hrun'⟩⟩

/-! ### The order after every command -/

/-- With the bandwidth first: it holds the old tfc bandwidth, and if it stays,
it holds the new one. -/
theorem ordered_bwFirst (hd : BwOrdered d.bw d.tfcBw) (hp : BwOrdered p.bw p.tfcBw) :
    (∀ s ∈ statesAfter env.system [(slbSetBw, p.bw), (slbSetTfcBw, p.tfcBw)] d,
      BwOrdered s.bw s.tfcBw) ↔
      (slbSetBw.Takes env.system p.bw → BwOrdered p.bw d.tfcBw) ∧
        (slbSetTfcBw.Takes env.system p.tfcBw → ¬ slbSetBw.Takes env.system p.bw →
          BwOrdered d.bw p.tfcBw) := by
  obtain ⟨hbw, htfc⟩ := slbSetBw_bws env.system p.bw d
  obtain ⟨hbw', htfc'⟩ := slbSetTfcBw_bws env.system p.tfcBw (slbSetBw.set env.system p.bw d).1
  simp only [statesAfter, List.forall_mem_cons, hbw', htfc', hbw, htfc]
  by_cases h1 : slbSetBw.Takes env.system p.bw
  · by_cases h2 : slbSetTfcBw.Takes env.system p.tfcBw
    · simp [h1, h2, hp]
    · simp [h1, h2]
  · by_cases h2 : slbSetTfcBw.Takes env.system p.tfcBw
    · simp [h1, h2, hd]
    · simp [h1, h2, hd]

/-- With the tfc bandwidth first: the old bandwidth holds it, and if it is not
taken, the new bandwidth holds the old one. -/
theorem ordered_tfcFirst (hd : BwOrdered d.bw d.tfcBw) (hp : BwOrdered p.bw p.tfcBw) :
    (∀ s ∈ statesAfter env.system [(slbSetTfcBw, p.tfcBw), (slbSetBw, p.bw)] d,
      BwOrdered s.bw s.tfcBw) ↔
      (slbSetTfcBw.Takes env.system p.tfcBw → BwOrdered d.bw p.tfcBw) ∧
        (slbSetBw.Takes env.system p.bw → ¬ slbSetTfcBw.Takes env.system p.tfcBw →
          BwOrdered p.bw d.tfcBw) := by
  obtain ⟨hbw, htfc⟩ := slbSetTfcBw_bws env.system p.tfcBw d
  obtain ⟨hbw', htfc'⟩ := slbSetBw_bws env.system p.bw (slbSetTfcBw.set env.system p.tfcBw d).1
  simp only [statesAfter, List.forall_mem_cons, hbw', htfc', hbw, htfc]
  by_cases h1 : slbSetTfcBw.Takes env.system p.tfcBw
  · by_cases h2 : slbSetBw.Takes env.system p.bw
    · simp [h1, h2, hp]
    · simp [h1, h2]
  · by_cases h2 : slbSetBw.Takes env.system p.bw
    · simp [h1, h2, hd]
    · simp [h1, h2, hd]

/-- The condition for the order: each number that is taken fits the one beside it. -/
def BwCondition (env : RadioEnv) (p : NodeParams) (d : Radio) : Prop :=
  if slbGet env.getBw ≤ p.bw then
    (slbSetBw.Takes env.system p.bw → BwOrdered p.bw d.tfcBw) ∧
      (slbSetTfcBw.Takes env.system p.tfcBw → ¬ slbSetBw.Takes env.system p.bw →
        BwOrdered d.bw p.tfcBw)
  else
    (slbSetTfcBw.Takes env.system p.tfcBw → BwOrdered d.bw p.tfcBw) ∧
      (slbSetBw.Takes env.system p.bw → ¬ slbSetTfcBw.Takes env.system p.tfcBw →
        BwOrdered p.bw d.tfcBw)

theorem bandwidthsKept_iff (env : RadioEnv) (p : OrderedParams) (d : OrderedRadio) :
    BandwidthsKept env p.params d.driver ↔ BwCondition env p.params d.driver := by
  obtain ⟨p, hp⟩ := p
  obtain ⟨d, hd⟩ := d
  obtain ⟨hbw, htfc⟩ := slbSetChannel_bws env.system p.channel d
  have hd' : BwOrdered (slbSetChannel.set env.system p.channel d).1.bw
      (slbSetChannel.set env.system p.channel d).1.tfcBw := by rwa [hbw, htfc]
  have hends : (p.bw ∈ slbBws → p.tfcBw ∈ slbBws → slbSetBw.Runs env.system p.bw →
      slbSetTfcBw.Runs env.system p.tfcBw →
        (setNode env p d).2.bw = p.bw ∧ (setNode env p d).2.tfcBw = p.tfcBw) :=
    fun h1 h2 h3 h4 => setNode_bws_of_runs h1 h2 h3 h4
  unfold BandwidthsKept BwCondition bandwidthCommands
  rw [and_iff_left hends]
  by_cases hread : slbGet env.getBw ≤ p.bw
  · rw [if_pos hread, if_pos hread, ordered_bwFirst hd' hp, hbw, htfc]
  · rw [if_neg hread, if_neg hread, ordered_tfcFirst hd' hp, hbw, htfc]

/-- **With the driver's bandwidth read right**, the pair left by one number
taken alone decides. -/
theorem bandwidthsKept_iff_of_read (env : RadioEnv) (p : OrderedParams) (d : OrderedRadio)
    (hread : slbGet env.getBw = d.driver.bw) : BandwidthsKept env p.params d.driver ↔
      (slbSetTfcBw.Takes env.system p.params.tfcBw → ¬ slbSetBw.Takes env.system p.params.bw →
        BwOrdered d.driver.bw p.params.tfcBw) ∧
      (slbSetBw.Takes env.system p.params.bw → ¬ slbSetTfcBw.Takes env.system p.params.tfcBw →
        BwOrdered p.params.bw d.driver.tfcBw) := by
  rw [bandwidthsKept_iff]
  obtain ⟨p, hp⟩ := p
  obtain ⟨d, hd⟩ := d
  unfold BwCondition
  by_cases hle : d.bw ≤ p.bw
  · -- the bandwidth grows, so it holds the old tfc bandwidth
    have hold : BwOrdered p.bw d.tfcBw := Int32.le_trans hd hle
    rw [if_pos (hread ▸ hle)]
    constructor
    · rintro ⟨-, h⟩
      exact ⟨h, fun _ _ => hold⟩
    · rintro ⟨h, -⟩
      exact ⟨fun _ => hold, h⟩
  · -- it shrinks, so the old one holds the new tfc bandwidth
    have hnew : BwOrdered d.bw p.tfcBw := Int32.le_trans hp (Int32.le_of_lt (Int32.not_le.mp hle))
    rw [if_neg (hread ▸ hle)]
    constructor
    · rintro ⟨-, h⟩
      exact ⟨fun _ _ => hnew, h⟩
    · rintro ⟨-, h⟩
      exact ⟨fun _ => hnew, h⟩

/-- **Bandwidth order.** After every command the tfc bandwidth is within the
bandwidth, and both end as requested where they can, exactly under the
condition; with the driver's bandwidth read right it is about the pair left
by one number taken alone. -/
theorem bandwidths_order (env : RadioEnv) (p : OrderedParams) (d : OrderedRadio) :
    (BandwidthsKept env p.params d.driver ↔ BwCondition env p.params d.driver) ∧
    (slbGet env.getBw = d.driver.bw → (BandwidthsKept env p.params d.driver ↔
      (slbSetTfcBw.Takes env.system p.params.tfcBw → ¬ slbSetBw.Takes env.system p.params.bw →
        BwOrdered d.driver.bw p.params.tfcBw) ∧
      (slbSetBw.Takes env.system p.params.bw → ¬ slbSetTfcBw.Takes env.system p.params.tfcBw →
        BwOrdered p.params.bw d.driver.tfcBw))) :=
  ⟨bandwidthsKept_iff env p d, bandwidthsKept_iff_of_read env p d⟩

/-- A driver at 20 and 20. -/
def driver20 : OrderedRadio := ⟨⟨2479, 20, 20⟩, by decide⟩

/-- A request for 40 and 40. -/
def request40 : OrderedParams := ⟨{ paramDefault 0 with bw := 40, tfcBw := 40 }, by decide⟩

/-- Commands that work, but for the ones in the list. -/
def failing (cmds : List CStr) : RadioEnv where
  junk := fun _ _ => ⟨[], []⟩
  system cmd := if cmd ∈ cmds then 1 else 0
  getBw := some "bw=20".toList
  vapCount := 0

/-- From 20 and 20 to 40 and 40 with commands that work. -/
theorem bandwidths_order_grow : BandwidthsKept (failing []) request40.params driver20.driver :=
  ((bandwidths_order (failing []) request40 driver20).2 (by decide)).mpr
    ⟨fun _ h => absurd (by decide) h, fun _ h => absurd (by decide) h⟩

/-- The bandwidth fails, the tfc bandwidth is set beyond it. -/
theorem bandwidths_order_fails :
    ¬ BandwidthsKept (failing [slbSetBw.command 40]) request40.params driver20.driver := by
  intro h
  have hstates := h.1 ⟨2479, 20, 40⟩ (by decide)
  exact absurd hstates (by decide)

end WtslCore
