/-
# The upgrade of the application

`perform_app_upgrade` backs the installed files up, stops the service, copies
the files of the package over the installed ones and starts the service; when
a copy or the start fails it jumps to `rollback`, which copies the backup back
and runs the start command again.

Every command may succeed or fail (`AppEnv.ok`); a copy also fails when its
source is missing, and a copy that fails leaves anything in its destination
(`AppEnv.torn`). A jump to `rollback` from before the start command is written
runs what the stack held in its place (`AppEnv.stack`).

The upgrade is atomic exactly under `UpgradeCond`: the three presence flags
all ask for `libwtsl_core.so`, a failing copy starts the wrong command, and a
backup that failed is noticed by nobody (`performAppUpgrade_atomic_iff`).

Key definitions: `AppFile`, `AppCmd`, `AppState`, `performAppUpgrade`,
`UpgradeAtomic`, `UpgradeCond`.
Key theorems: `replaceFiles_spec`, `rollback_restores`,
`performAppUpgrade_atomic_iff`.
-/
import Mathlib.Logic.Function.Basic
import WtslCore.Lib.CStr

namespace WtslCore

/-- The files an application package may contain. -/
inductive AppFile
  | wtslApp
  | libcjson
  | libwtslCore
  | libmicrohttpd
  deriving DecidableEq, Repr

/-- The contents of a file. -/
abbrev FileBytes := List UInt8

/-- A directory, as far as the upgrade looks at it; `none` is a missing file. -/
abbrev AppFiles := AppFile → Option FileBytes

/-- The commands `perform_app_upgrade` hands to `system`. -/
inductive AppCmd
  | backupBinary
  | backupLibs
  | stopTerm
  | stopKill
  | replaceBinary
  | replaceCjson
  | replaceWtslCore
  | replaceMicrohttpd
  | sync
  | start
  | cleanup
  | restoreBinary
  | restoreLibs
  | restart
  deriving DecidableEq, Repr

/-- The device during an upgrade. -/
structure AppState where
  installed : AppFiles
  backup : AppFiles
  /-- The commands that stop the service have run. -/
  stopped : Bool
  /-- The command line the service was started with since. -/
  started : Option CStr

/-- What the commands meet: their outcomes, what a failing copy leaves, and the
garbage in `start_cmd`. -/
structure AppEnv where
  ok : AppCmd → Bool
  torn : AppCmd → AppFiles
  stack : CStr

/-- The text of `start_cmd`. -/
def startCmd : CStr := "LD_LIBRARY_PATH=/home/wt/app /home/wt/app/wtsl_app &".toList

/-- `cp`: the outcome, and the destination after it. -/
def cp (ok : Bool) (src torn : Option FileBytes) : Bool × Option FileBytes :=
  if ok && src.isSome then (true, src) else (false, torn)

/-- The two backup commands: the binary, then all libraries. -/
def backupFiles (env : AppEnv) (s : AppState) : AppState :=
  let s := { s with
    backup := Function.update s.backup .wtslApp
      (cp (env.ok .backupBinary) (s.installed .wtslApp) (env.torn .backupBinary .wtslApp)).2 }
  { s with
    backup := fun f =>
      if f = .wtslApp then s.backup f
      else if env.ok .backupLibs then (s.installed f).or (s.backup f)
      else env.torn .backupLibs f }

/-- The two commands that stop the service, whatever their outcome. -/
def stopService (s : AppState) : AppState := { s with stopped := true, started := none }

/-- The copies of the package's files, up to the first one that fails. -/
def replaceFiles (pkg : AppFiles) (env : AppEnv) : List (AppCmd × AppFile) → AppState → Bool × AppState
  | [], s => (true, s)
  | (c, f) :: l, s =>
    let r := cp (env.ok c) (pkg f) (env.torn c f)
    let s := { s with installed := Function.update s.installed f r.2 }
    if r.1 then replaceFiles pkg env l s else (false, s)

/-- The copies to make. Each flag is `access(lib_wtsl_core, F_OK) == 0`. -/
def replacements (pkg : AppFiles) : List (AppCmd × AppFile) :=
  let hasLibWtslCore := (pkg .libwtslCore).isSome
  let hasLibCjson := (pkg .libwtslCore).isSome
  let hasLibMicrohttpd := (pkg .libwtslCore).isSome
  (.replaceBinary, .wtslApp) ::
    ((if hasLibCjson then [(.replaceCjson, .libcjson)] else []) ++
      (if hasLibWtslCore then [(.replaceWtslCore, .libwtslCore)] else []) ++
      (if hasLibMicrohttpd then [(.replaceMicrohttpd, .libmicrohttpd)] else []))

/-- The code after the label `rollback`, with the contents of `start_cmd`. -/
def rollback (env : AppEnv) (cmd : CStr) (s : AppState) : ℤ × AppState :=
  let bin := (cp (env.ok .restoreBinary) (s.backup .wtslApp) (env.torn .restoreBinary .wtslApp)).2
  (-1, { s with
    installed := fun f =>
      if f = .wtslApp then bin
      else if env.ok .restoreLibs then (s.backup f).or (s.installed f)
      else env.torn .restoreLibs f
    started := if env.ok .restart then some cmd else none })

/-- `perform_app_upgrade`. -/
def performAppUpgrade (pkg : AppFiles) (env : AppEnv) (s : AppState) : ℤ × AppState :=
  if (pkg .wtslApp).isNone then (-1, s)
  else
    let r := replaceFiles pkg env (replacements pkg) (stopService (backupFiles env s))
    if !r.1 then rollback env env.stack r.2
    else if !env.ok .start then rollback env startCmd r.2
    else (0, { r.2 with started := some startCmd })

/-- What an upgrade should guarantee, for what the package contains and the
outcomes of the commands: on -1 every installed file is as before, and the service is
started again with the fixed command if it was stopped; on 0 every file of the
package is installed. The old contents, the old backup, what a failed copy
leaves and the stack are arbitrary. -/
def UpgradeAtomic (pkg : AppFiles) (ok : AppCmd → Bool) : Prop :=
  ∀ (old : AppFile → FileBytes) (backup : AppFiles) (torn : AppCmd → AppFiles) (stack : CStr),
    let r := performAppUpgrade pkg ⟨ok, torn, stack⟩ ⟨fun f => some (old f), backup, false, none⟩
    (r.1 = -1 → (∀ f, r.2.installed f = some (old f)) ∧
        (r.2.stopped = true → r.2.started = some startCmd)) ∧
      (r.1 = 0 → ∀ f, (pkg f).isSome → r.2.installed f = pkg f)

/-- The condition: every copy that is tried succeeds; after a successful start
the libraries of the package were tried; after a failing one both backups, both
restores and the second start succeed. -/
def UpgradeCond (pkg : AppFiles) (ok : AppCmd → Bool) : Prop :=
  pkg .wtslApp = none ∨
    ((∀ c f, (c, f) ∈ replacements pkg → ok c = true ∧ (pkg f).isSome) ∧
      if ok .start then
        (pkg .libwtslCore).isSome ∨ (pkg .libcjson = none ∧ pkg .libmicrohttpd = none)
      else ok .backupBinary ∧ ok .backupLibs ∧ ok .restoreBinary ∧ ok .restoreLibs ∧ ok .restart)

variable {pkg : AppFiles} {env : AppEnv} {s : AppState}

/-! ### The steps -/

/-- The copies succeed when each one does; then exactly their files are new. -/
theorem replaceFiles_spec : ∀ {l : List (AppCmd × AppFile)} {s : AppState},
    ((replaceFiles pkg env l s).1 = true ↔ ∀ c f, (c, f) ∈ l → env.ok c = true ∧ (pkg f).isSome) ∧
      (replaceFiles pkg env l s).2.backup = s.backup ∧
      (replaceFiles pkg env l s).2.stopped = s.stopped ∧
      (replaceFiles pkg env l s).2.started = s.started ∧
      ((replaceFiles pkg env l s).1 = true → ∀ f, (replaceFiles pkg env l s).2.installed f =
        if f ∈ l.map Prod.snd then pkg f else s.installed f)
  | [], s => by simp [replaceFiles]
  | (c, f) :: l, s => by
    unfold replaceFiles
    by_cases h : env.ok c = true ∧ (pkg f).isSome = true
    · have hcp : cp (env.ok c) (pkg f) (env.torn c f) = (true, pkg f) := by simp [cp, h.1, h.2]
      obtain ⟨h1, h2, h3, h4, h5⟩ := replaceFiles_spec (l := l)
        (s := { s with installed := Function.update s.installed f (pkg f) })
      simp only [hcp, ↓reduceIte]
      refine ⟨?_, h2, h3, h4, ?_⟩
      · rw [h1]
        constructor
        · intro hl c' f' hm
          rcases List.mem_cons.mp hm with heq | hm
          · obtain ⟨rfl, rfl⟩ := Prod.mk.inj heq
            exact h
          · exact hl c' f' hm
        · intro hl c' f' hm
          exact hl c' f' (List.mem_cons_of_mem _ hm)
      · intro hok f'
        rw [h5 hok f']
        by_cases hm : f' ∈ l.map Prod.snd
        · rw [if_pos hm, if_pos (by simpa using Or.inr (by simpa using hm))]
        · rw [if_neg hm]
          by_cases hf : f' = f
          · simp [hf]
          · rw [if_neg (by simpa [hf] using hm)]
            exact Function.update_of_ne hf _ _
    · have hcp : cp (env.ok c) (pkg f) (env.torn c f) = (false, env.torn c f) := by
        unfold cp
        rw [if_neg (by simpa using h)]
      simp only [hcp, Bool.false_eq_true, ↓reduceIte, false_iff, not_forall, false_implies,
        and_true]
      exact ⟨c, f, List.mem_cons_self, h⟩

/-- The state in which the copies start. -/
def readyState (env : AppEnv) (old : AppFile → FileBytes) (backup : AppFiles) : AppState :=
  stopService (backupFiles env ⟨fun f => some (old f), backup, false, none⟩)

variable {old : AppFile → FileBytes} {backup : AppFiles}

/-- With both backups done, the backup has the old contents. -/
theorem readyState_backup (hb : env.ok .backupBinary = true) (hl : env.ok .backupLibs = true)
    (f : AppFile) : (readyState env old backup).backup f = some (old f) := by
  by_cases hf : f = .wtslApp
  · simp [readyState, stopService, backupFiles, hf, cp, hb]
  · simp [readyState, stopService, backupFiles, hf, hl]

/-- A rollback brings the backup back if its copies succeed. -/
theorem rollback_restores {cmd : CStr} (hb : env.ok .restoreBinary = true)
    (hl : env.ok .restoreLibs = true) (hs : ∀ f, s.backup f = some (old f)) (f : AppFile) :
    (rollback env cmd s).2.installed f = some (old f) := by
  by_cases hf : f = .wtslApp
  · simp [rollback, hf, cp, hb, hs]
  · simp [rollback, hf, hl, hs]

/-- The files that are copied are those of the package, unless it has another
library and no `libwtsl_core.so`. -/
theorem mem_replacements_iff :
    (∀ f, (pkg f).isSome → f ∈ (replacements pkg).map Prod.snd) ↔
      (pkg .libwtslCore).isSome ∨ (pkg .libcjson = none ∧ pkg .libmicrohttpd = none) := by
  unfold replacements
  cases hW : (pkg .libwtslCore).isSome with
  | true =>
    refine iff_of_true (fun f _ => ?_) (Or.inl rfl)
    cases f <;> simp
  | false =>
    simp only [Bool.false_eq_true, ↓reduceIte, List.append_nil, List.map_cons, List.map_nil,
      List.mem_singleton, false_or]
    constructor
    · intro h
      constructor
      · by_contra hc
        exact absurd (h .libcjson (Option.isSome_iff_ne_none.mpr hc)) (by decide)
      · by_contra hc
        exact absurd (h .libmicrohttpd (Option.isSome_iff_ne_none.mpr hc)) (by decide)
    · rintro ⟨hC, hM⟩ f hf
      cases f with
      | wtslApp => rfl
      | libcjson => simp [hC] at hf
      | libwtslCore => simp [hW] at hf
      | libmicrohttpd => simp [hM] at hf

/-! ### The three ends of an upgrade -/

/-- Without a binary in the package nothing happens. -/
theorem atomic_of_none {ok : AppCmd → Bool} (hA : pkg .wtslApp = none) : UpgradeAtomic pkg ok := by
  intro old backup torn stack
  simp [performAppUpgrade, hA]

/-- A copy that fails starts what the stack holds. -/
theorem not_atomic_of_copy {ok : AppCmd → Bool} (hA : (pkg .wtslApp).isSome)
    (hc : ¬ ∀ c f, (c, f) ∈ replacements pkg → ok c = true ∧ (pkg f).isSome) :
    ¬ UpgradeAtomic pkg ok := by
  intro h
  have h := (h (fun _ => []) (fun _ => none) (fun _ _ => none) []).1
  obtain ⟨hr, -, hstop, -⟩ := @replaceFiles_spec pkg ⟨ok, fun _ _ => none, []⟩
    (replacements pkg) (readyState ⟨ok, fun _ _ => none, []⟩ (fun _ => []) fun _ => none)
  have hfail : (replaceFiles pkg ⟨ok, fun _ _ => none, []⟩ (replacements pkg)
      (readyState ⟨ok, fun _ _ => none, []⟩ (fun _ => []) fun _ => none)).1 = false := by
    rw [← Bool.not_eq_true, hr]
    exact hc
  unfold readyState at hfail hstop
  have hA : (pkg .wtslApp).isNone = false := by simpa [Option.isNone_iff_eq_none] using hA
  simp only [performAppUpgrade, hA, hfail, Bool.false_eq_true, ↓reduceIte, Bool.not_false,
    rollback] at h
  have hstart := (h trivial).2 (hstop.trans rfl)
  revert hstart
  cases ok .restart <;> decide

/-- When the copies and the start succeed, the upgrade is atomic if every file
of the package was copied. -/
theorem atomic_iff_of_start {ok : AppCmd → Bool} (hA : (pkg .wtslApp).isSome)
    (hc : ∀ c f, (c, f) ∈ replacements pkg → ok c = true ∧ (pkg f).isSome)
    (hs : ok .start = true) :
    UpgradeAtomic pkg ok ↔ ∀ f, (pkg f).isSome → f ∈ (replacements pkg).map Prod.snd := by
  have hres : ∀ (old : AppFile → FileBytes) (backup : AppFiles) (torn : AppCmd → AppFiles)
      (stack : CStr),
      let r := performAppUpgrade pkg ⟨ok, torn, stack⟩ ⟨fun f => some (old f), backup, false, none⟩
      r.1 = 0 ∧ ∀ f, r.2.installed f =
        if f ∈ (replacements pkg).map Prod.snd then pkg f else some (old f) := by
    intro old backup torn stack
    obtain ⟨hr, -, -, -, hinst⟩ := @replaceFiles_spec pkg ⟨ok, torn, stack⟩
      (replacements pkg) (readyState ⟨ok, torn, stack⟩ old backup)
    have hok := hr.mpr hc
    have hinst := hinst hok
    unfold readyState at hok hinst
    have hA : (pkg .wtslApp).isNone = false := by simpa [Option.isNone_iff_eq_none] using hA
    simp only [performAppUpgrade, hA, hok, hs, Bool.not_true, Bool.false_eq_true, ↓reduceIte,
      true_and]
    exact hinst
  constructor
  · intro h f hf
    by_contra hm
    obtain ⟨x, hx⟩ := Option.isSome_iff_exists.mp hf
    -- an installed file that differs from the package's stays
    obtain ⟨h0, hinst⟩ := hres (fun _ => 0 :: x) (fun _ => none) (fun _ _ => none) []
    have := (h (fun _ => 0 :: x) (fun _ => none) (fun _ _ => none) []).2 h0 f hf
    rw [hinst f, if_neg hm, hx, Option.some.injEq] at this
    exact absurd (congrArg List.length this) (by simp)
  · intro h old backup torn stack
    obtain ⟨h0, hinst⟩ := hres old backup torn stack
    refine ⟨fun hneg => ?_, fun _ f hf => ?_⟩
    · rw [h0] at hneg
      omega
    · rw [hinst f, if_pos (h f hf)]

/-- When the start fails, the upgrade is atomic if backup, restore and restart
all succeed. -/
theorem atomic_iff_of_rollback {ok : AppCmd → Bool} (hA : (pkg .wtslApp).isSome)
    (hc : ∀ c f, (c, f) ∈ replacements pkg → ok c = true ∧ (pkg f).isSome)
    (hs : ok .start = false) :
    UpgradeAtomic pkg ok ↔ ok .backupBinary ∧ ok .backupLibs ∧ ok .restoreBinary ∧
      ok .restoreLibs ∧ ok .restart := by
  have hres : ∀ (old : AppFile → FileBytes) (backup : AppFiles) (torn : AppCmd → AppFiles)
      (stack : CStr),
      ∃ s : AppState, s.backup = (readyState ⟨ok, torn, stack⟩ old backup).backup ∧ s.stopped = true ∧
        performAppUpgrade pkg ⟨ok, torn, stack⟩ ⟨fun f => some (old f), backup, false, none⟩ =
          rollback ⟨ok, torn, stack⟩ startCmd s := by
    intro old backup torn stack
    obtain ⟨hr, hback, hstop, -⟩ := @replaceFiles_spec pkg ⟨ok, torn, stack⟩
      (replacements pkg) (readyState ⟨ok, torn, stack⟩ old backup)
    refine ⟨_, hback, hstop.trans rfl, ?_⟩
    have hok := hr.mpr hc
    unfold readyState at hok
    have hA : (pkg .wtslApp).isNone = false := by simpa [Option.isNone_iff_eq_none] using hA
    simp only [performAppUpgrade, hA, hok, hs, Bool.not_true, Bool.not_false, Bool.false_eq_true,
      ↓reduceIte]
    rfl
  constructor
  · intro h
    -- old files are empty, whatever a failing copy leaves is not
    obtain ⟨s, hback, hstop, heq⟩ := hres (fun _ => []) (fun _ => none) (fun _ _ => some [0]) []
    have h := (h (fun _ => []) (fun _ => none) (fun _ _ => some [0]) []).1
    rw [heq] at h
    obtain ⟨hinst, hstart⟩ := h rfl
    have hbin : ok .backupBinary = true ∧ ok .restoreBinary = true := by
      have := hinst .wtslApp
      cases h1 : ok .backupBinary <;> cases h2 : ok .restoreBinary <;>
        simp [rollback, hback, readyState, stopService, backupFiles, cp, h1, h2] at this ⊢
    have hlib : ok .backupLibs = true ∧ ok .restoreLibs = true := by
      have := hinst .libcjson
      cases h1 : ok .backupLibs <;> cases h2 : ok .restoreLibs <;>
        simp [rollback, hback, readyState, stopService, backupFiles, h1, h2] at this ⊢
    have hre : ok .restart = true := by
      have := hstart hstop
      cases h1 : ok .restart <;> simp [rollback, h1] at this ⊢
    exact ⟨hbin.1, hlib.1, hbin.2, hlib.2, hre⟩
  · rintro ⟨hbb, hbl, hrb, hrl, hre⟩ old backup torn stack
    obtain ⟨s, hback, -, heq⟩ := hres old backup torn stack
    rw [heq]
    refine ⟨fun _ => ⟨fun f => ?_, fun _ => ?_⟩, fun h0 => ?_⟩
    · refine rollback_restores hrb hrl (fun f => ?_) f
      rw [hback]
      exact readyState_backup hbb hbl f
    · simp [rollback, hre]
    · simp [rollback] at h0

/-- An upgrade is atomic exactly under the condition, for every package and
every outcome of the commands. -/
theorem performAppUpgrade_atomic_iff (pkg : AppFiles) (ok : AppCmd → Bool) :
    UpgradeAtomic pkg ok ↔ UpgradeCond pkg ok := by
  unfold UpgradeCond
  cases hA : pkg .wtslApp with
  | none => exact iff_of_true (atomic_of_none hA) (Or.inl rfl)
  | some x =>
    have hA : (pkg .wtslApp).isSome := by rw [hA]; rfl
    simp only [reduceCtorEq, false_or]
    by_cases hc : ∀ c f, (c, f) ∈ replacements pkg → ok c = true ∧ (pkg f).isSome
    · rw [and_iff_right hc]
      cases hs : ok .start with
      | true => rw [atomic_iff_of_start hA hc hs, mem_replacements_iff, if_pos rfl]
      | false =>
        rw [atomic_iff_of_rollback hA hc hs]
        simp
    · exact iff_of_false (not_atomic_of_copy hA hc) fun h => hc h.1

/-- A package with the binary and `libcjson.so` alone is reported as installed
though the library is not, with every command successful. -/
theorem performAppUpgrade_skips_libcjson :
    let pkg : AppFiles := fun f => match f with
      | .wtslApp => some [1]
      | .libcjson => some [2]
      | .libwtslCore | .libmicrohttpd => none
    let r := performAppUpgrade pkg ⟨fun _ => true, fun _ _ => none, []⟩
      ⟨fun _ => some [0], fun _ => none, false, none⟩
    r.1 = 0 ∧ r.2.installed .libcjson = some [0] ∧ ¬ UpgradeAtomic pkg fun _ => true := by
  refine ⟨rfl, rfl, fun h => ?_⟩
  exact absurd ((h (fun _ => [0]) (fun _ => none) (fun _ _ => none) []).2 rfl .libcjson rfl) (by decide)

end WtslCore
