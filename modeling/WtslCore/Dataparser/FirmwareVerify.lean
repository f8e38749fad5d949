/-
# What is verified before an upgrade

`Platform_verify` accepts a package without `targetarch` if the number in its
version, between the first `_` and the next `.`, is at least 123.
`extract_upgrade_version` copies that field into ten bytes, however long it is
(`extractUpgradeVersion_iff`).

`extract_and_verify_firmware` compares the MD5 of the archive with the header,
unpacks it, looks for four modules in the directory of the build number, and
compares the MD5 of each with the one listed under its name. Neither of the
two lookups that may fail is tested: a version without `B` has no build
number, and a module may not be listed; both are then read as NULL. And the
directory is quoted in the command that takes the checksum, by single quotes
only. So the verdict is right if and only if `VerdictOk`.

Key definitions: `extractUpgradeVersion`, `platformVerify`, `FirmwareEnv`,
`verifySingleKoFile`, `extractAndVerifyFirmware`, `VersionSafe`, `Verified`,
`VerdictRight`, `VerdictOk`.
Key theorems: `atoi_eq_decimal`, `extractUpgradeVersion_iff`,
`extractAndVerify_unpacked`, `firmwareVerdict_right_iff`.
-/
import Mathlib.Algebra.Group.Nat.Defs
import WtslCore.Dataparser.FirmwareHeader
import WtslCore.Lib.Strtol

namespace WtslCore

/-! ### The number in the version -/

/-- `strchr`: what follows the first `c`, and what is in front of it. -/
def splitAtChar (c : Char) (s : CStr) : Option (CStr × CStr) :=
  match s.dropWhile (· != c) with
  | [] => none
  | _ :: rest => some (s.takeWhile (· != c), rest)

/-- The field between the first `_` and the next `.`, if it is not empty. -/
def versionField (version : CStr) : Option CStr :=
  (splitAtChar '_' version).bind fun (_, start) =>
    (splitAtChar '.' start).bind fun (field, _) => if field = [] then none else some field

/-- `extract_upgrade_version`; `none` if it writes outside `num_str[10]`. -/
def extractUpgradeVersion (version : CStr) : Option ℤ :=
  match splitAtChar '_' version with
  | none => some (-1)
  | some (_, start) =>
    match splitAtChar '.' start with
    | none => some (-1)
    | some (field, _) =>
      if field.length = 0 then some (-1)
      -- `strncpy` writes the field, and a terminator follows
      else if 10 ≤ field.length then none
      else some (atoi field)

/-- `Platform_verify`; `uname` is the machine, if it can be asked. -/
def platformVerify (uname : Option CStr) (header : FirmwareHeader) : Option ℤ :=
  (extractUpgradeVersion header.version).map fun (value : ℤ) =>
    if header.targetarch = [] then (if 123 ≤ value then 0 else -1)
    else
      let wantArm32 := header.targetarch = "arm".toList
      let wantArm64 := header.targetarch = "arm64".toList
      if ¬ wantArm32 ∧ ¬ wantArm64 then -1
      else
        match uname with
        | none => -1
        | some machine =>
          let isArm32 := strncmpEq 4 machine "armv".toList
          let isArm64 := machine = "aarch64".toList
          if wantArm32 ∧ isArm32 then 0 else if wantArm64 ∧ isArm64 then 0 else -1

/-- The number of a version: that of its field, or -1 without one. -/
def versionNumber (version : CStr) : ℤ :=
  match versionField version with
  | some field => decimal field
  | none => -1

/-- **The version is read safely**, and the platform is judged by its number. -/
def VersionSafe (uname : Option CStr) (header : FirmwareHeader) : Prop :=
  extractUpgradeVersion header.version = some (versionNumber header.version) ∧
    (header.targetarch = [] → platformVerify uname header =
      some (if 123 ≤ versionNumber header.version then 0 else -1))

/-- Nine characters stand for less than nine digits can. -/
theorem decimal_lt {s : CStr} (h : s.length ≤ 9) : -1000000000 < decimal s ∧ decimal s < 1000000000 := by
  have hdrop : (s.dropWhile isspace).length ≤ 9 := Nat.le_trans (List.dropWhile_suffix _).length_le h
  have hsmall : ∀ u : CStr, u.length ≤ 9 → digitsVal (u.takeWhile Char.isDigit) < 10 ^ 9 := by
    intro u hu
    have hlen : (u.takeWhile Char.isDigit).length ≤ 9 :=
      Nat.le_trans (List.takeWhile_prefix _).length_le hu
    exact Nat.lt_of_lt_of_le (digitsVal_lt_pow _ fun c hc => List.mem_takeWhile_imp hc)
      (Nat.pow_le_pow_right (by omega) hlen)
  unfold decimal
  generalize s.dropWhile isspace = t at hdrop ⊢
  split
  · rename_i u
    have hu := hsmall u (Nat.le_of_succ_le hdrop)
    omega
  · rename_i u
    have hu := hsmall u (Nat.le_of_succ_le hdrop)
    omega
  · have ht := hsmall t hdrop
    omega

/-- `atoi` reads nine characters as they are written. -/
theorem atoi_eq_decimal {s : CStr} (h : s.length ≤ 9) : atoi s = decimal s := by
  obtain ⟨hlo, hhi⟩ := decimal_lt h
  rw [atoi_eq_wrapInt]
  exact wrapInt_of_inInt (by omega) (by omega)

/-- **The number is read safely if and only if its field has at most nine
characters.** -/
theorem extractUpgradeVersion_iff (version : CStr) :
    extractUpgradeVersion version = some (versionNumber version) ↔
      ∀ field ∈ versionField version, field.length ≤ 9 := by
  unfold extractUpgradeVersion versionNumber versionField
  cases splitAtChar '_' version with
  | none => simp
  | some p =>
    simp only [Option.bind_some]
    cases splitAtChar '.' p.2 with
    | none => simp
    | some q =>
      obtain ⟨field, rest⟩ := q
      simp only [Option.bind_some]
      by_cases hempty : field = []
      · simp [hempty]
      · have hlen : field.length ≠ 0 := fun h => hempty (List.length_eq_zero_iff.mp h)
        rw [if_neg hempty, if_neg hlen]
        by_cases hlong : 10 ≤ field.length
        · rw [if_pos hlong]
          refine iff_of_false (Option.some_ne_none _).symm fun h => ?_
          have := h field rfl
          omega
        · have hshort : field.length ≤ 9 := by omega
          rw [if_neg hlong]
          refine iff_of_true (congrArg some (atoi_eq_decimal hshort)) fun field' hfield' => ?_
          rwa [← Option.some.inj hfield']

/-- **The version of a parsed header is read safely if and only if its field
has at most nine characters.** -/
theorem versionSafe_iff (root : Json) (uname : Option CStr) :
    VersionSafe uname (firmwareHeader root) ↔
      ∀ field ∈ versionField (firmwareHeader root).version, field.length ≤ 9 := by
  rw [← extractUpgradeVersion_iff]
  refine ⟨fun h => h.1, fun h => ⟨h, fun harch => ?_⟩⟩
  unfold platformVerify
  rw [h, Option.map_some, if_pos harch]

/-- A header with a version and the fields that are required. -/
def versionRoot (version : String) : Json :=
  .object [("filename".toList, .string "a".toList), ("md5sum".toList, .string "b".toList),
    ("filesize".toList, .string "1".toList), ("version".toList, .string version.toList)]

/-- A field of ten digits is written over the end of the buffer. -/
theorem versionSafe_long : requiredFields (versionRoot "v_1234567890.x") = true ∧
    ¬ VersionSafe none (firmwareHeader (versionRoot "v_1234567890.x")) := by
  refine ⟨by decide, fun h => ?_⟩
  exact absurd h.1 (by decide)

/-! ### The modules of a package -/

/-- A path that stands between single quotes as it is, and that `md5sum` prints
without a mark. -/
def PlainPath (path : CStr) : Prop := '\x27' ∉ path ∧ '\\' ∉ path ∧ '\n' ∉ path

instance (path : CStr) : Decidable (PlainPath path) := inferInstanceAs (Decidable (_ ∧ _))

/-- `md5sum '<path>' | cut -d ' ' -f1`. -/
def md5Command (path : CStr) : CStr :=
  ("md5sum '".toList ++ path ++ "' | cut -d ' ' -f1".toList).take 511

/-- What the verification meets: the MD5 of the file at a path, what the shell
prints for a command (the first line, if there is one), which paths exist once
the archive is unpacked, and the exit states of the two commands before. For a
plain path the shell prints the MD5 of the file. -/
structure FirmwareEnv where
  md5 : CStr → Option CStr
  popen : CStr → Option CStr
  present : CStr → Bool
  mkdir : ℤ
  tar : ℤ
  length_md5 : ∀ path, ∀ m ∈ md5 path, m.length = 32
  popen_plain : ∀ path, PlainPath path → path.length ≤ 255 → popen (md5Command path) = md5 path

/-- `calculate_file_md5`: the sum, if it returns 0. -/
def calculateFileMd5 (env : FirmwareEnv) (filename : CStr) : Option CStr :=
  (env.popen (md5Command filename)).filter fun result => result.length = 32

/-- `get_md5_by_ko_name`; `none` is NULL. -/
def getMd5ByKoName (header : FirmwareHeader) (koName : CStr) : Option CStr :=
  ((header.koFiles.take 4).find? fun ko => ko.1 ≠ [] ∧ ko.1 = koName).map Prod.snd

/-- `verify_single_ko_file`; `none` if a NULL string is read. -/
def verifySingleKoFile (env : FirmwareEnv) (koFilePath : CStr) (expectedMd5 : Option CStr) :
    Option ℤ :=
  if env.present koFilePath = false then some (-1)
  else
    match calculateFileMd5 env koFilePath with
    | none => some (-1)
    | some actualMd5 =>
      expectedMd5.map fun expected => if strcasecmpEq actualMd5 expected then 0 else -1

/-- `get_build_version`; `none` is NULL. -/
def getBuildVersion (header : FirmwareHeader) : Option CStr :=
  (splitAtChar 'B' header.version).map Prod.snd

/-- The path of a module, cut to 255 characters as its directory is. -/
def koPath (build koName : CStr) : CStr :=
  (("/tmp/upload_file/firmware_t".toList ++ build).take 255 ++ '/' :: koName).take 255

/-- The modules, in the order in which they are verified. -/
def koNames : List CStr :=
  ["gt_gf61.ko".toList, "hi_cipherserver.ko".toList, "ksecurec.ko".toList, "plat_gf61.ko".toList]

/-- The archive `wtsl_core_firmware_upgrade` verifies. -/
def upgradeArchive : CStr := "/tmp/upgrade.tar.gz".toList

/-- `md5_verified` after the modules: each is verified, whatever came out
before it. -/
def md5Verified (verify : CStr → Option ℤ) : List CStr → Option Bool
  | [] => some true
  | koName :: koNames => (verify koName).bind fun result =>
    (md5Verified verify koNames).map fun rest => decide (result = 0) && rest

/-- What `extract_and_verify_firmware` does once the archive is unpacked. -/
def verifyKoFiles (env : FirmwareEnv) (header : FirmwareHeader) : Option ℤ :=
  -- `snprintf` reads the build number
  (getBuildVersion header).bind fun build =>
    if koNames.all fun koName => env.present (koPath build koName) then
      (md5Verified (fun koName =>
          verifySingleKoFile env (koPath build koName) (getMd5ByKoName header koName)) koNames).map
        fun verified => if verified then 0 else -1
    else some (-1)

/-- `extract_and_verify_firmware`; `none` if a NULL string is read. -/
def extractAndVerifyFirmware (env : FirmwareEnv) (header : FirmwareHeader) : Option ℤ :=
  match calculateFileMd5 env upgradeArchive with
  | none => some (-1)
  | some md5Calculated =>
    if strcasecmpEq header.md5sum md5Calculated = false then some (-1)
    else if env.mkdir ≠ 0 then some (-1)
    else if env.tar ≠ 0 then some (-1)
    else verifyKoFiles env header

/-! ### The verdict -/

section

variable (env : FirmwareEnv) (header : FirmwareHeader)

/-- The archive has the MD5 of the header. -/
def ArchiveMatches : Prop := ∃ m ∈ env.md5 upgradeArchive, strcasecmpEq header.md5sum m = true

/-- Both commands succeed. -/
def Unpacks : Prop := env.mkdir = 0 ∧ env.tar = 0

/-- A sum is the one listed under the name of a module. -/
def Listed (koName : CStr) (sum : Option CStr) : Prop :=
  ∃ m ∈ sum, ∃ expected ∈ getMd5ByKoName header koName, strcasecmpEq m expected = true

/-- The modules of a build are there. -/
def AllPresent (build : CStr) : Prop := ∀ koName ∈ koNames, env.present (koPath build koName) = true

/-- Every module whose sum is printed is listed. -/
def EachListed (build : CStr) : Prop :=
  ∀ koName ∈ koNames, (calculateFileMd5 env (koPath build koName)).isSome →
    (getMd5ByKoName header koName).isSome

/-- The package is what its header says. -/
structure Verified : Prop where
  archive : ArchiveMatches env header
  unpacks : Unpacks env
  modules : ∃ build ∈ getBuildVersion header, AllPresent env build ∧
    ∀ koName ∈ koNames, Listed header koName (env.md5 (koPath build koName))

/-- **The verdict is right**: 0 for a package that is what its header says, -1
for any other, and no NULL string is read. -/
def VerdictRight : Prop :=
  (Verified env header → extractAndVerifyFirmware env header = some 0) ∧
    (¬ Verified env header → extractAndVerifyFirmware env header = some (-1))

/-- The condition: once a matching archive is unpacked, the version has a build
number, and if all modules are there, each one whose sum is printed is listed,
and sums of a path that cannot be quoted are found in the list as the right
ones would be. -/
def VerdictOk : Prop :=
  ArchiveMatches env header → Unpacks env → ∃ build ∈ getBuildVersion header,
    AllPresent env build → EachListed env header build ∧
      (¬ PlainPath build →
        ((∀ koName ∈ koNames, Listed header koName (calculateFileMd5 env (koPath build koName))) ↔
          ∀ koName ∈ koNames, Listed header koName (env.md5 (koPath build koName))))

variable {env header} {build koName : CStr}

theorem plainPath_archive : PlainPath upgradeArchive := by decide

theorem calculateFileMd5_plain (env : FirmwareEnv) {path : CStr} (hplain : PlainPath path)
    (hlen : path.length ≤ 255) :
    calculateFileMd5 env path = env.md5 path := by
  unfold calculateFileMd5
  rw [env.popen_plain path hplain hlen]
  cases hmd5 : env.md5 path with
  | none => rfl
  | some m => exact Option.filter_some_pos (decide_eq_true (env.length_md5 path m hmd5))

/-- The fixed parts of a path are plain. -/
theorem plainPath_koPath (hbuild : PlainPath build) (hname : koName ∈ koNames) :
    PlainPath (koPath build koName) := by
  have hfixed : PlainPath "/tmp/upload_file/firmware_t".toList ∧
      ∀ name ∈ koNames, PlainPath ('/' :: name) := by decide
  have hpart : ∀ c : Char, c ∉ "/tmp/upload_file/firmware_t".toList → c ∉ build → c ∉ '/' :: koName →
      c ∉ koPath build koName := by
    intro c hfront hmid hback hc
    rcases List.mem_append.mp (List.mem_of_mem_take hc) with h | h
    · exact (List.mem_append.mp (List.mem_of_mem_take h)).elim hfront hmid
    · exact hback h
  obtain ⟨hq, hb, hn⟩ := hbuild
  obtain ⟨⟨hq₁, hb₁, hn₁⟩, hname'⟩ := hfixed
  obtain ⟨hq₂, hb₂, hn₂⟩ := hname' koName hname
  exact ⟨hpart _ hq₁ hq hq₂, hpart _ hb₁ hb hb₂, hpart _ hn₁ hn hn₂⟩

theorem md5Verified_eq_some {verify : CStr → Option ℤ} {b : Bool} : ∀ {names : List CStr},
    md5Verified verify names = some b ↔
      (∀ koName ∈ names, (verify koName).isSome) ∧
        (b = true ↔ ∀ koName ∈ names, verify koName = some 0)
  | [] => by cases b <;> simp [md5Verified]
  | name :: names => by
    have ih := fun rest => @md5Verified_eq_some verify rest names
    unfold md5Verified
    rw [List.forall_mem_cons, List.forall_mem_cons]
    cases hres : verify name with
    | none => simp
    | some result =>
      rw [Option.bind_some, Option.map_eq_some_iff]
      constructor
      · rintro ⟨rest, hrest, rfl⟩
        obtain ⟨hsome, hall⟩ := (ih rest).mp hrest
        refine ⟨⟨rfl, hsome⟩, ?_⟩
        rw [Bool.and_eq_true, decide_eq_true_eq, hall, Option.some.injEq]
      · rintro ⟨⟨-, hsome⟩, hall⟩
        refine ⟨decide (∀ koName ∈ names, verify koName = some 0), (ih _).mpr ⟨hsome, by simp⟩, ?_⟩
        rw [Bool.eq_iff_iff, hall, Bool.and_eq_true, decide_eq_true_eq, decide_eq_true_eq,
          Option.some.injEq]

/-- What one module contributes, if it is there. -/
theorem verifySingleKoFile_spec {path : CStr} {expected : Option CStr} (h : env.present path = true) :
    ((verifySingleKoFile env path expected).isSome ↔
      ((calculateFileMd5 env path).isSome → expected.isSome)) ∧
    (verifySingleKoFile env path expected = some 0 ↔
      ∃ m ∈ calculateFileMd5 env path, ∃ e ∈ expected, strcasecmpEq m e = true) := by
  unfold verifySingleKoFile
  rw [if_neg (by rw [h]; exact Bool.noConfusion)]
  cases calculateFileMd5 env path with
  | none => simp
  | some m =>
    cases expected with
    | none => simp
    | some e => cases hcmp : strcasecmpEq m e <;> simp [hcmp]

/-- **What is made of the modules** of a build that are all there. -/
theorem verifyKoFiles_present (hbuild : getBuildVersion header = some build)
    (hall : AllPresent env build) :
    (¬ EachListed env header build → verifyKoFiles env header = none) ∧
    (EachListed env header build →
      ((∀ koName ∈ koNames, Listed header koName (calculateFileMd5 env (koPath build koName))) →
        verifyKoFiles env header = some 0) ∧
      (¬ (∀ koName ∈ koNames, Listed header koName (calculateFileMd5 env (koPath build koName))) →
        verifyKoFiles env header = some (-1))) := by
  have hpresent : (koNames.all fun koName => env.present (koPath build koName)) = true :=
    List.all_eq_true.mpr hall
  have hrun : verifyKoFiles env header = (md5Verified (fun koName =>
      verifySingleKoFile env (koPath build koName) (getMd5ByKoName header koName)) koNames).map
        fun verified => if verified then 0 else -1 := by
    unfold verifyKoFiles
    rw [hbuild, Option.bind_some, if_pos hpresent]
  generalize hverify : (fun koName =>
    verifySingleKoFile env (koPath build koName) (getMd5ByKoName header koName)) = verify at hrun
  have hspec : ∀ koName ∈ koNames,
      ((verify koName).isSome ↔ ((calculateFileMd5 env (koPath build koName)).isSome →
        (getMd5ByKoName header koName).isSome)) ∧
      (verify koName = some 0 ↔
        Listed header koName (calculateFileMd5 env (koPath build koName))) := by
    intro koName hname
    rw [← hverify]
    exact verifySingleKoFile_spec (hall koName hname)
  have hsome : (∀ koName ∈ koNames, (verify koName).isSome) ↔ EachListed env header build :=
    forall₂_congr fun koName hname => (hspec koName hname).1
  have hzero : (∀ koName ∈ koNames, verify koName = some 0) ↔ ∀ koName ∈ koNames,
      Listed header koName (calculateFileMd5 env (koPath build koName)) :=
    forall₂_congr fun koName hname => (hspec koName hname).2
  rw [hrun, ← hsome, ← hzero]
  refine ⟨fun hmissing => ?_, fun hlisted => ⟨fun hgood => ?_, fun hbad => ?_⟩⟩
  · cases hres : md5Verified verify koNames with
    | none => rfl
    | some b => exact absurd (md5Verified_eq_some.mp hres).1 hmissing
  · rw [md5Verified_eq_some.mpr ⟨hlisted, iff_of_true rfl hgood⟩]
    rfl
  · rw [md5Verified_eq_some.mpr ⟨hlisted, iff_of_false Bool.false_ne_true hbad⟩]
    rfl

/-- Before the archive is unpacked, -1 is right. -/
theorem extractAndVerify_early (h : ¬ (ArchiveMatches env header ∧ Unpacks env)) :
    extractAndVerifyFirmware env header = some (-1) := by
  have harchive := calculateFileMd5_plain env plainPath_archive (by decide)
  unfold extractAndVerifyFirmware
  rw [harchive]
  cases hmd5 : env.md5 upgradeArchive with
  | none => rfl
  | some m =>
    dsimp only
    split_ifs with hcmp hmkdir htar
    · rfl
    · rfl
    · rfl
    · have hmatch : strcasecmpEq header.md5sum m = true := by simpa using hcmp
      exact absurd ⟨⟨m, hmd5, hmatch⟩, not_not.mp hmkdir, not_not.mp htar⟩ h

/-- Afterwards, the modules decide. -/
theorem extractAndVerify_unpacked (harchive : ArchiveMatches env header) (hunpacks : Unpacks env) :
    extractAndVerifyFirmware env header = verifyKoFiles env header := by
  obtain ⟨m, hmd5, hmatch⟩ := harchive
  have hsum := calculateFileMd5_plain env plainPath_archive (by decide)
  unfold extractAndVerifyFirmware
  rw [hsum, hmd5]
  dsimp only
  rw [hmatch, if_neg Bool.noConfusion, if_neg (not_not.mpr hunpacks.1), if_neg (not_not.mpr hunpacks.2)]

/-- Without a build number, NULL is read. -/
theorem verifyKoFiles_noBuild (h : getBuildVersion header = none) : verifyKoFiles env header = none := by
  unfold verifyKoFiles
  rw [h, Option.bind_none]

/-- Without one of the modules, the package is refused. -/
theorem verifyKoFiles_missing (hbuild : getBuildVersion header = some build)
    (h : ¬ AllPresent env build) : verifyKoFiles env header = some (-1) := by
  have hmissing : ¬ (koNames.all fun koName => env.present (koPath build koName)) = true :=
    fun hall => h (List.all_eq_true.mp hall)
  unfold verifyKoFiles
  rw [hbuild, Option.bind_some, if_neg hmissing]

/-- The sums of a build that can be quoted are those of its files. -/
theorem listed_plain_iff (hplain : PlainPath build) :
    (∀ koName ∈ koNames, Listed header koName (calculateFileMd5 env (koPath build koName))) ↔
      ∀ koName ∈ koNames, Listed header koName (env.md5 (koPath build koName)) := by
  refine forall₂_congr fun koName hname => ?_
  have hlen : (koPath build koName).length ≤ 255 := List.length_take_le _ _
  rw [calculateFileMd5_plain env (plainPath_koPath hplain hname) hlen]

/-- The verdict on a build that is all there. -/
theorem verdict_present_iff (harchive : ArchiveMatches env header) (hunpacks : Unpacks env)
    (hbuild : getBuildVersion header = some build) (hall : AllPresent env build) :
    VerdictRight env header ↔ EachListed env header build ∧
      ((∀ koName ∈ koNames, Listed header koName (calculateFileMd5 env (koPath build koName))) ↔
        ∀ koName ∈ koNames, Listed header koName (env.md5 (koPath build koName))) := by
  have hverified : Verified env header ↔
      ∀ koName ∈ koNames, Listed header koName (env.md5 (koPath build koName)) := by
    refine ⟨fun h => ?_, fun h => ⟨harchive, hunpacks, build, hbuild, hall, h⟩⟩
    obtain ⟨build', hbuild', -, hlisted⟩ := h.modules
    rwa [← Option.some.inj (hbuild.symm.trans hbuild')] at hlisted
  obtain ⟨hnull, hrun⟩ := verifyKoFiles_present hbuild hall
  unfold VerdictRight
  rw [extractAndVerify_unpacked harchive hunpacks, hverified]
  by_cases hlisted : EachListed env header build
  · obtain ⟨hgood, hbad⟩ := hrun hlisted
    rw [and_iff_right hlisted]
    by_cases hmeasured : ∀ koName ∈ koNames,
        Listed header koName (calculateFileMd5 env (koPath build koName))
    · rw [hgood hmeasured, iff_true_left hmeasured]
      refine ⟨fun h => ?_, fun h => ⟨fun _ => rfl, fun hnot => absurd h hnot⟩⟩
      by_contra hnot
      exact absurd (h.2 hnot) (by decide)
    · rw [hbad hmeasured, iff_false_left hmeasured]
      refine ⟨fun h hright => ?_, fun h => ⟨fun hright => absurd hright h, fun _ => rfl⟩⟩
      exact absurd (h.1 hright) (by decide)
  · rw [hnull hlisted]
    refine iff_of_false (fun h => ?_) fun h => hlisted h.1
    by_cases hright : ∀ koName ∈ koNames, Listed header koName (env.md5 (koPath build koName))
    · exact absurd (h.1 hright) (by decide)
    · exact absurd (h.2 hright) (by decide)

/-- **The verdict is right if and only if** an unpacked version has a build
number and the modules that are compared are listed. -/
theorem firmwareVerdict_right_iff (env : FirmwareEnv) (header : FirmwareHeader) :
    VerdictRight env header ↔ VerdictOk env header := by
  by_cases hearly : ArchiveMatches env header ∧ Unpacks env
  · obtain ⟨harchive, hunpacks⟩ := hearly
    have hok : VerdictOk env header ↔ ∃ build ∈ getBuildVersion header, AllPresent env build →
        EachListed env header build ∧ (¬ PlainPath build →
          ((∀ koName ∈ koNames, Listed header koName (calculateFileMd5 env (koPath build koName))) ↔
            ∀ koName ∈ koNames, Listed header koName (env.md5 (koPath build koName)))) :=
      ⟨fun h => h harchive hunpacks, fun h _ _ => h⟩
    rw [hok]
    cases hbuild : getBuildVersion header with
    | none =>
      refine iff_of_false (fun h => ?_) fun ⟨build, hmem, _⟩ => Option.not_mem_none build hmem
      have hnot : ¬ Verified env header := fun hv => by
        obtain ⟨build, hmem, -⟩ := hv.modules
        exact Option.not_mem_none build (hbuild ▸ hmem)
      have hrun := h.2 hnot
      rw [extractAndVerify_unpacked harchive hunpacks, verifyKoFiles_noBuild hbuild] at hrun
      exact absurd hrun (Option.some_ne_none _).symm
    | some build =>
      have hexists : ∀ {P : CStr → Prop}, (∃ b ∈ some build, P b) ↔ P build := by simp
      rw [hexists]
      by_cases hall : AllPresent env build
      · rw [verdict_present_iff harchive hunpacks hbuild hall]
        constructor
        · exact fun h _ => ⟨h.1, fun _ => h.2⟩
        · intro h
          refine ⟨(h hall).1, ?_⟩
          by_cases hplain : PlainPath build
          · exact listed_plain_iff hplain
          · exact (h hall).2 hplain
      · refine iff_of_true ⟨fun hv => ?_, fun _ => ?_⟩ fun h => absurd h hall
        · obtain ⟨build', hbuild', hall', -⟩ := hv.modules
          rw [← Option.some.inj (hbuild.symm.trans hbuild')] at hall'
          exact absurd hall' hall
        · rw [extractAndVerify_unpacked harchive hunpacks, verifyKoFiles_missing hbuild hall]
  · have hnot : ¬ Verified env header := fun h => hearly ⟨h.archive, h.unpacks⟩
    refine iff_of_true ⟨fun h => absurd h hnot, fun _ => extractAndVerify_early hearly⟩ ?_
    exact fun harchive hunpacks => absurd ⟨harchive, hunpacks⟩ hearly

end

/-- The sum of every file. -/
def sameSum : CStr := List.replicate 32 '0'

/-- Everything is there and has the same sum. -/
def completeEnv : FirmwareEnv where
  md5 _ := some sameSum
  popen _ := some sameSum
  present _ := true
  mkdir := 0
  tar := 0
  length_md5 _ _ h := Option.some.inj h ▸ List.length_replicate
  popen_plain _ _ _ := rfl

/-- A header of the archive with a version that lists no module. -/
def unlistedHeader (version : String) : FirmwareHeader :=
  firmwareHeader (.object [("filename".toList, .string "a".toList), ("md5sum".toList, .string sameSum),
    ("filesize".toList, .string "1".toList), ("version".toList, .string version.toList)])

/-- A version without a build number, and modules without a listed sum. -/
theorem firmwareVerdict_null :
    ¬ VerdictRight completeEnv (unlistedHeader "v1") ∧
      ¬ VerdictRight completeEnv (unlistedHeader "v1.B2") := by
  have hnot : ∀ version, ¬ Verified completeEnv (unlistedHeader version) := by
    intro version h
    obtain ⟨build, -, -, hlisted⟩ := h.modules
    obtain ⟨-, -, expected, hexpected, -⟩ := hlisted "gt_gf61.ko".toList (by decide)
    exact Option.not_mem_none expected hexpected
  exact ⟨fun h => absurd (h.2 (hnot _)) (by decide), fun h => absurd (h.2 (hnot _)) (by decide)⟩

end WtslCore
