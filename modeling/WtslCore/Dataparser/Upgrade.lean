/-
# The parts of a package that are installed

An unpacked package has up to three parts: the application, the web pages and
the firmware of its build. `handle_firmware_upgrade` returns 0 for the whole.
The firmware comes first, and what its commands return is only logged; then
the application is handed to a background process, which installs the web
pages beside it and drops their result, or, without an application, the web
pages are installed, whether there are any or not. Their result does not
depend on the copy either, but on the pages being there after it.

So 0 means that every part was installed exactly under `UpgradeOk`
(`upgrade_right_iff`); a package of firmware alone never returns it.

Key definitions: `UpgradeEnv`, `handleFirmwareUpgrade`, `Contained`,
`Installed`, `UpgradeRight`, `UpgradeOk`.
Key theorem: `upgrade_right_iff`.
-/
import WtslCore.Dataparser.FirmwareVerify

namespace WtslCore

/-- What an upgrade meets: which paths exist when they are asked for, what
`system` returns for a command, and whether a process can be forked. Pages that
were copied exist. -/
structure UpgradeEnv where
  present : CStr → Bool
  system : CStr → ℤ
  fork : Bool
  copied : system "rm -rf /home/wt/www && cp -rf /tmp/upload_file/www /home/wt/".toList = 0 →
    present "/home/wt/www".toList = true

/-! ### The commands -/

/-- The directory of the firmware. -/
def firmwareDir (build : CStr) : CStr := ("/tmp/upload_file/firmware_t".toList ++ build).take 255

/-- The command that lists a directory. -/
def lsCmd (dir : CStr) : CStr := ("ls -la ".toList ++ dir).take 255

def firmwareRmCmd (build : CStr) : CStr := ("rm -rf /home/firmware_t".toList ++ build).take 255

def firmwareCopyCmd (build : CStr) : CStr :=
  ("cp -rf /tmp/upload_file/firmware_t".toList ++ build ++ " /home/wt".toList).take 255

def firmwareLnCmd (build : CStr) : CStr :=
  ("rm -rf /home/firmware && ln -s /home/wt/firmware_t".toList ++ build ++
    " /home/wt/firmware".toList).take 255

/-- The second place of the firmware, for the version 123. -/
def firmwareOldCmd (build : CStr) : CStr :=
  ("cp -rf /tmp/upload_file/firmware_t".toList ++ build ++ " /home/ && ln -s /home/firmware_t".toList ++
    build ++ " /home/firmware".toList).take 255

def webRmCmd : CStr := "rm -rf /home/wt/upload_file".toList

def webCopyCmd : CStr := "rm -rf /home/wt/www && cp -rf /tmp/upload_file/www /home/wt/".toList

def httpdCmd : CStr := "killall httpd && httpd -h /home/wt/www".toList

/-! ### The upgrade -/

/-- `upgrade_hi_firmware`: what it returns and the commands it ran; `none` if
the version cannot be read. What the commands returned is only logged. -/
def upgradeHiFirmware (env : UpgradeEnv) (header : FirmwareHeader) (build : CStr) :
    Option (ℤ × List CStr) :=
  if env.present (firmwareDir build) = false then some (-1, [])
  else
    (extractUpgradeVersion header.version).map fun value =>
      (0, [firmwareRmCmd build, firmwareCopyCmd build, firmwareLnCmd build] ++
        if value = 123 then [firmwareOldCmd build] else [])

/-- `upgrade_web_files_in_background`. -/
def upgradeWebFilesInBackground (env : UpgradeEnv) : ℤ × List CStr :=
  let ran := if env.present "/home/wt/upload_file".toList then [webRmCmd] else []
  if env.present "/tmp/upload_file/www".toList = false then (-1, ran)
  else if env.present "/home/wt/www".toList = false then (-1, ran ++ [webCopyCmd])
  else (0, ran ++ [webCopyCmd, httpdCmd])

/-- What became of an upgrade: what was returned, the commands that were run,
and whether a background process took over the application. -/
structure UpgradeRun where
  ret : ℤ
  ran : List CStr
  handedOver : Bool
  deriving DecidableEq

/-- `orphan_process_upgrade`, as the parent returns. -/
def orphanProcessUpgrade (env : UpgradeEnv) (ran : List CStr) : UpgradeRun :=
  if env.fork = false then ⟨-1, ran, false⟩
  else if env.present "/tmp/upload_file/www".toList then
    ⟨0, ran ++ (upgradeWebFilesInBackground env).2, true⟩
  else ⟨0, ran, true⟩

/-- The listings of the directories that are there. -/
def listDirs (env : UpgradeEnv) (build : CStr) : List CStr :=
  (["/tmp/upload_file/app".toList, "/tmp/upload_file/www".toList, firmwareDir build].filter
    env.present).map lsCmd

/-- `handle_firmware_upgrade`; `none` if the build number is NULL, or the
version cannot be read. -/
def handleFirmwareUpgrade (env : UpgradeEnv) (header : FirmwareHeader) : Option UpgradeRun :=
  (getBuildVersion header).bind fun build =>
    let hasApp := env.present "/tmp/upload_file/app".toList
    let hasWww := env.present "/tmp/upload_file/www".toList
    let hasFirmware := env.present (firmwareDir build)
    if !hasApp && !hasWww && !hasFirmware then some ⟨-1, listDirs env build, false⟩
    else
      (if hasFirmware then (upgradeHiFirmware env header build).map Prod.snd else some []).map
        fun firmware =>
          if hasApp then orphanProcessUpgrade env (listDirs env build ++ firmware)
          else
            let (ret, web) := upgradeWebFilesInBackground env
            ⟨ret, listDirs env build ++ firmware ++ web, false⟩

/-! ### What is asked of it -/

/-- The parts of a package. -/
inductive Component
  | app
  | www
  | firmware
  deriving DecidableEq

/-- The path of a part. -/
def Component.path (build : CStr) : Component → CStr
  | .app => "/tmp/upload_file/app".toList
  | .www => "/tmp/upload_file/www".toList
  | .firmware => firmwareDir build

/-- The package contains the part. -/
def Contained (env : UpgradeEnv) (build : CStr) (c : Component) : Prop :=
  env.present (c.path build) = true

/-- The commands that put the firmware in its places. -/
def firmwareCmds (header : FirmwareHeader) (build : CStr) : List CStr :=
  [firmwareCopyCmd build, firmwareLnCmd build] ++
    if extractUpgradeVersion header.version = some 123 then [firmwareOldCmd build] else []

/-- The part was installed: the application was handed over, the commands for
the others were run and returned 0. -/
def Installed (env : UpgradeEnv) (header : FirmwareHeader) (build : CStr) (run : UpgradeRun) :
    Component → Prop
  | .app => run.handedOver = true
  | .www => webCopyCmd ∈ run.ran ∧ env.system webCopyCmd = 0
  | .firmware => ∀ cmd ∈ firmwareCmds header build, cmd ∈ run.ran ∧ env.system cmd = 0

/-- **The result covers all parts**: it is 0 exactly if the package contains
any, and each that it contains was installed. -/
def UpgradeRight (env : UpgradeEnv) (header : FirmwareHeader) : Prop :=
  ∃ build run, getBuildVersion header = some build ∧ handleFirmwareUpgrade env header = some run ∧
    (run.ret = 0 ↔ (∃ c, Contained env build c) ∧
      ∀ c, Contained env build c → Installed env header build run c)

/-- The copy of the pages succeeds. -/
def WebCopied (env : UpgradeEnv) : Prop := env.system webCopyCmd = 0

/-- The commands for the firmware succeed. -/
def FirmwarePlaced (env : UpgradeEnv) (header : FirmwareHeader) (build : CStr) : Prop :=
  ∀ cmd ∈ firmwareCmds header build, env.system cmd = 0

/-- The parts beside the application are installed if they are contained. -/
def OthersPlaced (env : UpgradeEnv) (header : FirmwareHeader) (build : CStr) : Prop :=
  (Contained env build .www → WebCopied env) ∧
    (Contained env build .firmware → FirmwarePlaced env header build)

/-- The condition for a build. If the package has firmware its version can be
read. Where 0 is returned, for an application that is handed over or for pages
that are there afterwards, the parts beside it are installed; and firmware
that is alone is not. -/
structure UpgradeOk (env : UpgradeEnv) (header : FirmwareHeader) (build : CStr) : Prop where
  version : Contained env build .firmware → (extractUpgradeVersion header.version).isSome = true
  app : Contained env build .app → env.fork = true → OthersPlaced env header build
  www : ¬ Contained env build .app → Contained env build .www →
    env.present "/home/wt/www".toList = true → OthersPlaced env header build
  firmware : ¬ Contained env build .app → ¬ Contained env build .www →
    Contained env build .firmware → ¬ FirmwarePlaced env header build

/-! ### What is run -/

section

variable {env : UpgradeEnv} {header : FirmwareHeader} {build : CStr} {run : UpgradeRun}

theorem webCopy_ran (h : Contained env build .www) : webCopyCmd ∈ (upgradeWebFilesInBackground env).2 := by
  have hwww : ¬ env.present "/tmp/upload_file/www".toList = false := Bool.not_eq_false _ |>.mpr h
  rw [upgradeWebFilesInBackground, if_neg hwww]
  split_ifs <;> simp

/-- The pages are reported as installed if there are any, and if they are
there afterwards. -/
theorem web_ret : (upgradeWebFilesInBackground env).1 = 0 ↔
    Contained env build .www ∧ env.present "/home/wt/www".toList = true := by
  have hdef : Contained env build .www ↔ env.present "/tmp/upload_file/www".toList = true := Iff.rfl
  rw [hdef, upgradeWebFilesInBackground]
  split_ifs <;> simp_all

/-- The firmware's commands are run, and 0 is returned. -/
theorem firmware_ran (h : Contained env build .firmware) {value : ℤ}
    (hvalue : extractUpgradeVersion header.version = some value) :
    ∃ ran, upgradeHiFirmware env header build = some (0, ran) ∧
      ∀ cmd ∈ firmwareCmds header build, cmd ∈ ran := by
  have hpresent : ¬ env.present (firmwareDir build) = false := Bool.not_eq_false _ |>.mpr h
  refine ⟨_, by rw [upgradeHiFirmware, if_neg hpresent, hvalue, Option.map_some], ?_⟩
  intro cmd hcmd
  rw [firmwareCmds, hvalue] at hcmd
  simp only [Option.some.injEq] at hcmd
  exact List.mem_cons_of_mem _ hcmd

/-- The application is handed over if a process can be forked, with the pages
copied beside it; the commands before it stay run. -/
theorem orphan_spec (env : UpgradeEnv) (build : CStr) (ran : List CStr) :
    ((orphanProcessUpgrade env ran).ret = 0 ↔ env.fork = true) ∧
      (orphanProcessUpgrade env ran).handedOver = env.fork ∧
      (∀ cmd ∈ ran, cmd ∈ (orphanProcessUpgrade env ran).ran) ∧
      (env.fork = true → Contained env build .www → webCopyCmd ∈ (orphanProcessUpgrade env ran).ran) := by
  unfold orphanProcessUpgrade
  cases hfork : env.fork with
  | false => simp
  | true =>
    rw [if_neg (Bool.noConfusion : ¬ true = false)]
    split_ifs with hwww
    · refine ⟨by simp, rfl, fun cmd hcmd => List.mem_append_left _ hcmd, fun _ hcon => ?_⟩
      exact List.mem_append_right _ (webCopy_ran hcon)
    · exact ⟨by simp, rfl, fun _ hcmd => hcmd, fun _ hcon => absurd hcon hwww⟩

/-- **What becomes of a package** whose version can be read: it is refused if
it is empty; with an application it depends on the background process alone;
without one, on the pages. -/
theorem upgrade_cases (hbuild : getBuildVersion header = some build)
    (hversion : Contained env build .firmware → (extractUpgradeVersion header.version).isSome = true) :
    ∃ run, handleFirmwareUpgrade env header = some run ∧
      (Contained env build .firmware → ∀ cmd ∈ firmwareCmds header build, cmd ∈ run.ran) ∧
      ((Contained env build .app ∧ (run.ret = 0 ↔ env.fork = true) ∧ run.handedOver = env.fork ∧
          (env.fork = true → Contained env build .www → webCopyCmd ∈ run.ran)) ∨
        (¬ Contained env build .app ∧
          (run.ret = 0 ↔ Contained env build .www ∧ env.present "/home/wt/www".toList = true) ∧
          (Contained env build .www → webCopyCmd ∈ run.ran))) := by
  -- the firmware's part, which comes first
  have hfirmware : ∃ firmware, (if env.present (firmwareDir build) = true then
        (upgradeHiFirmware env header build).map Prod.snd else some []) = some firmware ∧
      (Contained env build .firmware → ∀ cmd ∈ firmwareCmds header build, cmd ∈ firmware) := by
    by_cases hcon : Contained env build .firmware
    · obtain ⟨value, hvalue⟩ := Option.isSome_iff_exists.mp (hversion hcon)
      obtain ⟨ran, hran, hmem⟩ := firmware_ran hcon hvalue
      refine ⟨ran, ?_, fun _ => hmem⟩
      rw [show env.present (firmwareDir build) = true from hcon, if_pos rfl, hran, Option.map_some]
    · exact ⟨[], if_neg hcon, fun h => absurd h hcon⟩
  obtain ⟨firmware, hsome, hran⟩ := hfirmware
  unfold handleFirmwareUpgrade
  rw [hbuild, Option.bind_some]
  dsimp only
  rw [hsome, Option.map_some]
  by_cases hempty : (!env.present "/tmp/upload_file/app".toList && !env.present "/tmp/upload_file/www".toList
      && !env.present (firmwareDir build)) = true
  · have hnone : ¬ Contained env build .app ∧ ¬ Contained env build .www ∧
        ¬ Contained env build .firmware := by
      simp only [Bool.and_eq_true, Bool.not_eq_true'] at hempty
      exact ⟨Bool.eq_false_iff.mp hempty.1.1, Bool.eq_false_iff.mp hempty.1.2, Bool.eq_false_iff.mp hempty.2⟩
    rw [if_pos hempty]
    refine ⟨_, rfl, fun h => absurd h hnone.2.2, .inr ⟨hnone.1, ?_, fun h => absurd h hnone.2.1⟩⟩
    exact iff_of_false (by simp) fun h => hnone.2.1 h.1
  · rw [if_neg hempty]
    by_cases happ : env.present "/tmp/upload_file/app".toList = true
    · rw [if_pos happ]
      obtain ⟨hret, hover, hkept, hweb⟩ := orphan_spec env build (listDirs env build ++ firmware)
      refine ⟨_, rfl, fun h cmd hcmd => hkept cmd ?_, .inl ⟨happ, hret, hover, hweb⟩⟩
      exact List.mem_append_right _ (hran h cmd hcmd)
    · rw [if_neg happ]
      refine ⟨_, rfl, fun h cmd hcmd => ?_, .inr ⟨happ, web_ret, fun h => ?_⟩⟩
      · exact List.mem_append_left _ (List.mem_append_right _ (hran h cmd hcmd))
      · exact List.mem_append_right _ (webCopy_ran h)

/-- Firmware whose version cannot be read. -/
theorem upgrade_unread (hbuild : getBuildVersion header = some build)
    (hcon : Contained env build .firmware) (hnone : extractUpgradeVersion header.version = none) :
    handleFirmwareUpgrade env header = none := by
  have hpresent : env.present (firmwareDir build) = true := hcon
  have hread : upgradeHiFirmware env header build = none := by
    rw [upgradeHiFirmware, if_neg (Bool.not_eq_false _ |>.mpr hpresent), hnone, Option.map_none]
  unfold handleFirmwareUpgrade
  rw [hbuild, Option.bind_some]
  dsimp only
  rw [hpresent, Bool.not_true, Bool.and_false, if_neg Bool.false_ne_true, if_pos rfl, hread]
  rfl

/-! ### The condition, part by part -/

theorem forall_component {p : Component → Prop} : (∀ c, p c) ↔ p .app ∧ p .www ∧ p .firmware := by
  constructor
  · intro h
    exact ⟨h _, h _, h _⟩
  · rintro ⟨happ, hwww, hfw⟩ c
    cases c with
    | app => exact happ
    | www => exact hwww
    | firmware => exact hfw

section

variable (hversion : Contained env build .firmware → (extractUpgradeVersion header.version).isSome = true)
include hversion

theorem upgradeOk_app (happ : Contained env build .app) :
    UpgradeOk env header build ↔ (env.fork = true → OthersPlaced env header build) :=
  ⟨fun h => h.app happ, fun h => ⟨hversion, fun _ => h, fun hno => absurd happ hno, fun hno => absurd happ hno⟩⟩

theorem upgradeOk_www (happ : ¬ Contained env build .app) (hwww : Contained env build .www) :
    UpgradeOk env header build ↔
      (env.present "/home/wt/www".toList = true → OthersPlaced env header build) :=
  ⟨fun h => h.www happ hwww,
    fun h => ⟨hversion, fun hyes => absurd hyes happ, fun _ _ => h, fun _ hno => absurd hwww hno⟩⟩

theorem upgradeOk_firmware (happ : ¬ Contained env build .app) (hwww : ¬ Contained env build .www) :
    UpgradeOk env header build ↔
      (Contained env build .firmware → ¬ FirmwarePlaced env header build) :=
  ⟨fun h => h.firmware happ hwww,
    fun h => ⟨hversion, fun hyes => absurd hyes happ, fun _ hyes => absurd hyes hwww, fun _ _ => h⟩⟩

end

/-- The package has parts, and all of them were installed. -/
def AllInstalled (env : UpgradeEnv) (header : FirmwareHeader) (build : CStr) (run : UpgradeRun) : Prop :=
  (∃ c, Contained env build c) ∧ ∀ c, Contained env build c → Installed env header build run c

/-- The firmware is installed if its commands, which were run, succeed. -/
theorem installed_firmware_iff (hran : ∀ cmd ∈ firmwareCmds header build, cmd ∈ run.ran) :
    Installed env header build run .firmware ↔ FirmwarePlaced env header build := by
  constructor
  · intro h cmd hcmd
    exact (h cmd hcmd).2
  · intro h cmd hcmd
    exact ⟨hran cmd hcmd, h cmd hcmd⟩

section

variable (hplaced : Contained env build .firmware →
  (Installed env header build run .firmware ↔ FirmwarePlaced env header build))
include hplaced

/-- With an application 0 is returned for the process, so the others must not
fail beside it. -/
theorem app_right_iff (happ : Contained env build .app) (hover : run.handedOver = env.fork)
    (hweb : env.fork = true → Contained env build .www → webCopyCmd ∈ run.ran) :
    (env.fork = true ↔ AllInstalled env header build run) ↔
      (env.fork = true → OthersPlaced env header build) := by
  rw [AllInstalled, forall_component]
  constructor
  · intro h hfork
    obtain ⟨-, -, hwww, hfw⟩ := h.mp hfork
    exact ⟨fun hcon => (hwww hcon).2, fun hcon => (hplaced hcon).mp (hfw hcon)⟩
  · intro h
    constructor
    · intro hfork
      obtain ⟨hwww, hfw⟩ := h hfork
      exact ⟨⟨_, happ⟩, fun _ => hover.trans hfork, fun hcon => ⟨hweb hfork hcon, hwww hcon⟩,
        fun hcon => (hplaced hcon).mpr (hfw hcon)⟩
    · rintro ⟨-, hinst, -⟩
      exact hover.symm.trans (hinst happ)

/-- With pages and no application, the same if the pages are there afterwards. -/
theorem www_right_iff (happ : ¬ Contained env build .app) (hwww : Contained env build .www)
    (hweb : webCopyCmd ∈ run.ran) :
    ((Contained env build .www ∧ env.present "/home/wt/www".toList = true) ↔
        AllInstalled env header build run) ↔
      (env.present "/home/wt/www".toList = true → OthersPlaced env header build) := by
  rw [AllInstalled, forall_component]
  constructor
  · intro h hthere
    obtain ⟨-, -, hcopy, hfw⟩ := h.mp ⟨hwww, hthere⟩
    exact ⟨fun hcon => (hcopy hcon).2, fun hcon => (hplaced hcon).mp (hfw hcon)⟩
  · intro h
    constructor
    · rintro ⟨-, hthere⟩
      obtain ⟨hcopy, hfw⟩ := h hthere
      exact ⟨⟨_, hwww⟩, fun hcon => absurd hcon happ, fun hcon => ⟨hweb, hcopy hcon⟩,
        fun hcon => (hplaced hcon).mpr (hfw hcon)⟩
    · rintro ⟨-, -, hcopy, -⟩
      exact ⟨hwww, env.copied (hcopy hwww).2⟩

/-- For firmware alone the result is not 0, so it must not be installed. -/
theorem firmware_right_iff (happ : ¬ Contained env build .app) (hwww : ¬ Contained env build .www) :
    ((Contained env build .www ∧ env.present "/home/wt/www".toList = true) ↔
        AllInstalled env header build run) ↔
      (Contained env build .firmware → ¬ FirmwarePlaced env header build) := by
  rw [AllInstalled, forall_component]
  constructor
  · intro h hcon hplace
    have hzero := h.mpr ⟨⟨_, hcon⟩, fun hc => absurd hc happ, fun hc => absurd hc hwww,
      fun _ => (hplaced hcon).mpr hplace⟩
    exact hwww hzero.1
  · intro h
    refine iff_of_false (fun hzero => hwww hzero.1) ?_
    rintro ⟨⟨c, hcon⟩, -, -, hfw⟩
    cases c with
    | app => exact happ hcon
    | www => exact hwww hcon
    | firmware => exact h hcon ((hplaced hcon).mp (hfw hcon))

end

/-- The condition is exact for a package whose version can be read. -/
theorem upgradeRun_right_iff (hbuild : getBuildVersion header = some build)
    (hversion : Contained env build .firmware → (extractUpgradeVersion header.version).isSome = true) :
    UpgradeRight env header ↔ UpgradeOk env header build := by
  obtain ⟨run, hrun, hfirmware, hcase⟩ := upgrade_cases hbuild hversion
  have hright : UpgradeRight env header ↔ (run.ret = 0 ↔ AllInstalled env header build run) := by
    constructor
    · rintro ⟨build', run', hbuild', hrun', h⟩
      obtain rfl := Option.some.inj (hbuild.symm.trans hbuild')
      obtain rfl := Option.some.inj (hrun.symm.trans hrun')
      exact h
    · intro h
      exact ⟨build, run, hbuild, hrun, h⟩
  have hplaced : Contained env build .firmware →
      (Installed env header build run .firmware ↔ FirmwarePlaced env header build) :=
    fun hcon => installed_firmware_iff (hfirmware hcon)
  rw [hright]
  obtain ⟨happ, hret, hover, hweb⟩ | ⟨happ, hret, hweb⟩ := hcase
  · rw [hret, upgradeOk_app hversion happ, app_right_iff hplaced happ hover hweb]
  · rw [hret]
    by_cases hwww : Contained env build .www
    · rw [upgradeOk_www hversion happ hwww, www_right_iff hplaced happ hwww (hweb hwww)]
    · rw [upgradeOk_firmware hversion happ hwww, firmware_right_iff hplaced happ hwww]

/-- **The result covers all parts** if and only if the version has a build
number and the condition holds for it. -/
theorem upgrade_right_iff (env : UpgradeEnv) (header : FirmwareHeader) :
    UpgradeRight env header ↔ ∃ build, getBuildVersion header = some build ∧ UpgradeOk env header build := by
  cases hbuild : getBuildVersion header with
  | none =>
    refine iff_of_false ?_ ?_
    · rintro ⟨build, -, hbuild', -⟩
      rw [hbuild] at hbuild'
      cases hbuild'
    · rintro ⟨build, hbuild', -⟩
      cases hbuild'
  | some build =>
    have hexists : (∃ build', some build = some build' ∧ UpgradeOk env header build') ↔
        UpgradeOk env header build := by simp
    rw [hexists]
    by_cases hversion : Contained env build .firmware →
        (extractUpgradeVersion header.version).isSome = true
    · exact upgradeRun_right_iff hbuild hversion
    · refine iff_of_false ?_ fun hok => hversion hok.version
      obtain ⟨hcon, hnone⟩ := Classical.not_imp.mp hversion
      rintro ⟨build', run, hbuild', hrun, -⟩
      obtain rfl := Option.some.inj (hbuild.symm.trans hbuild')
      rw [upgrade_unread hbuild hcon (Option.not_isSome_iff_eq_none.mp hnone)] at hrun
      cases hrun

end

/-- The parts that are there, beside old pages, and the commands that fail. -/
def partsPresent (parts : List CStr) (path : CStr) : Bool := path ∈ "/home/wt/www".toList :: parts

theorem partsPresent_www (parts : List CStr) : partsPresent parts "/home/wt/www".toList = true :=
  decide_eq_true List.mem_cons_self

/-- A package of these parts, with these commands failing. -/
def partsEnv (parts failing : List CStr) : UpgradeEnv where
  present := partsPresent parts
  system := fun cmd => if cmd ∈ failing then 1 else 0
  fork := true
  copied := fun _ => partsPresent_www parts

/-- A package of firmware alone is installed and fails; beside an application,
firmware that was not copied, and pages that were not, go with the result 0. -/
theorem upgrade_wrong :
    (handleFirmwareUpgrade (partsEnv [firmwareDir "42".toList] []) (unlistedHeader "v_124.B42")).map
      UpgradeRun.ret = some (-1) ∧
    ¬ UpgradeRight (partsEnv [firmwareDir "42".toList] []) (unlistedHeader "v_124.B42") ∧
    (handleFirmwareUpgrade (partsEnv ["/tmp/upload_file/app".toList, firmwareDir "42".toList]
      [firmwareCopyCmd "42".toList]) (unlistedHeader "v_124.B42")).map UpgradeRun.ret = some 0 ∧
    ¬ UpgradeRight (partsEnv ["/tmp/upload_file/app".toList, firmwareDir "42".toList]
      [firmwareCopyCmd "42".toList]) (unlistedHeader "v_124.B42") := by
  have hbuild : getBuildVersion (unlistedHeader "v_124.B42") = some "42".toList := rfl
  refine ⟨rfl, ?_, rfl, ?_⟩
  · rw [upgradeRun_right_iff hbuild fun _ => rfl]
    intro hok
    exact hok.firmware Bool.false_ne_true Bool.false_ne_true rfl fun _ _ => rfl
  · rw [upgradeRun_right_iff hbuild fun _ => rfl]
    intro hok
    have hfails := (hok.app rfl rfl).2 rfl _ List.mem_cons_self
    exact absurd hfails (by decide)

end WtslCore
