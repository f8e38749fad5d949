/-
# Where the strings of a request are copied to

The setters copy strings of a request with `strcpy`, `sprintf` and `sscanf`,
and write arrays as long as the request's. None of them looks at the size of
the destination. Each setter is a computation that overruns (`CopyFault`) or
not, and does not exactly if everything it gets to fits (`copies_fit_iff`).

The address of `sle_connect` is read with `%02x` into single bytes: every
number writes the four bytes of an `int`, so from the fourth one on the last
of them lie behind the six bytes of the address.

Key definitions: `setSleBasicinfo`, `setAnnounceId`, `doDisconnect`,
`sleConnect`, `configVap0Mac`, `tokenString`, `Setter`, `SetnodeFits`.
Key theorems: `setnodeCopies_fit_iff`, `copies_fit_iff`.
-/
import WtslCore.Dataparser.Setters
import WtslCore.Node.Switches
import WtslCore.User.Manager

namespace WtslCore

/-- `wtsl_core_set_sle_basicinfo`: the node, and whether the device restarts. -/
def setSleBasicinfo (junk : ℕ → ℕ → Junk) (st : LocalNode) (root : Json) :
    Except CopyFault (LocalNode × Bool) := do
  let sleName ← copyField 32 root "sle_name" st.params.sleName
  let sleEnable := intField root "sle_enable" st.params.sleEnable
  let sleType := intField root "sle_type" st.params.sleType
  let present (field : String) := (root.getObjectItem field.toList).isSome
  let pairs :=
    (if present "sle_name" then [("SLE_NAME".toList, cstr sleName)] else []) ++
      intPairs ((if present "sle_enable" then [("SLE_ENABLE", sleEnable)] else []) ++
        if present "sle_type" then [("SLE_TYPE", sleType)] else [])
  .ok (⟨{ st.params with sleName := sleName, sleEnable := sleEnable, sleType := sleType },
    configSetAll junk pairs st.file⟩, sleType ≠ st.params.sleType)

/-- The children of an item, as `cJSON_GetArraySize` and `cJSON_GetArrayItem` see them. -/
def Json.children : Json → List Json
  | .array items => items
  | .object members => members.map Prod.snd
  | _ => []

/-- `wtsl_core_set_announce_id`, into `int announce_id[20]`. -/
def setAnnounceId (announceId : List Int32) (root : Json) : Except CopyFault (List Int32) :=
  match root.getObjectItemCaseSensitive "announce_id".toList with
  | none => .ok announceId
  | some j =>
    if j.children.length ≤ 20 then .ok (j.children.map fun item => Int32.ofInt item.valueint)
    else .error .overflow

/-- `wtsl_core_do_disconnect`: the command, in 64 bytes. -/
def doDisconnect (root : Json) : Except CopyFault CStr := do
  let disconnectMac ← copyField 18 root "mac" []
  .ok (("iwpriv ".toList ++ (netVapName ++ (" cfg \x22kick_user ".toList ++
    (disconnectMac ++ ['\x22'])))).take 63)

/-- A hexadecimal digit. -/
def isXdigit (c : Char) : Bool :=
  c.isDigit || ('a' ≤ c && c ≤ 'f') || ('A' ≤ c && c ≤ 'F')

/-- What follows a number of at most two characters, as `%02x` reads it: a
digit behind a sign, one or two digits, or `0x`. -/
def hexItem (s : CStr) : Option CStr :=
  match s.dropWhile isspace with
  | [] => none
  | c :: t =>
    if c = '-' ∨ c = '+' then
      match t with
      | d :: u => if isXdigit d then some u else none
      | [] => none
    else if isXdigit c then
      match t with
      | d :: u => if isXdigit d ∨ (c = '0' ∧ (d = 'x' ∨ d = 'X')) then some u else some (d :: u)
      | [] => some []
    else none

/-- How many of `n` numbers `sscanf` reads from a text like `"1a:2b:3c"`. -/
def sscanfMac : ℕ → CStr → ℕ
  | 0, _ => 0
  | n + 1, s => match hexItem s with
    | none => 0
    | some (':' :: t) => 1 + sscanfMac n t
    | some _ => 1

/-- `wtsl_core_sle_connect`, up to the connection. The number `i` is written
as an `int` at the byte `i` of `addr[6]`. -/
def sleConnect (root : Json) : Except CopyFault CStr := do
  let mac ← copyField 18 root "mac" []
  if ∀ i < sscanfMac 6 mac, i + 4 ≤ 6 then .ok mac else .error .overflow

/-- `wtsl_core_config_vap0_mac`: the commands; `found` is whether the flash
has a `vap0_mac` already. -/
def configVap0Mac (found : Bool) (root : Json) : Except CopyFault (List CStr) :=
  match root.getObjectItem "vap0_mac".toList with
  | none => .ok []
  | some j => do
    let vap0Mac ← strcpy 18 j.valuestring
    let update :=
      if found then
        [("cat /tmp/enva.txt | strings | sed 's/^vap0_mac=.*/vap0_mac=".toList ++
            (vap0Mac ++ "/' > /tmp/enva_temp.txt".toList)).take 127,
          "mv /tmp/enva_temp.txt /tmp/enva.txt".toList]
      else
        [("echo vap0_mac=".toList ++ (vap0Mac ++ " >> /tmp/enva.txt".toList)).take 127]
    .ok (["nanddump -n -l 4096 /dev/mtd10 | strings > /tmp/enva.txt".toList,
        "cat /tmp/enva.txt | grep \x22vap0_mac\x22".toList] ++ update ++
      ["flash_erase /dev/mtd10 0 0".toList, "nandwrite -p /dev/mtd10 /tmp/enva.txt".toList])

/-- The text `generate_token` prints into `tokenstr`. -/
def tokenText (user : CStr) (env : UserEnv) : CStr :=
  user ++ '_' :: (Nat.toDigits 10 env.ts ++ '_' :: env.salt)

/-- `sprintf` into `char tokenstr[128]`. -/
def tokenString (user : CStr) (env : UserEnv) : Except CopyFault CStr :=
  store maxToken (tokenText user env)

theorem generateToken_eq (md5 : CStr → CStr) (user : CStr) (env : UserEnv) :
    generateToken md5 user env =
      (tokenString user env).toOption.map fun s => (md5 s).take (maxToken - 1) := by
  unfold generateToken tokenString store tokenText
  dsimp only
  split_ifs <;> rfl

/-- The user a login makes a token for: one that exists, with the right password. -/
def tokenUser (db : UserTable) (root : Json) (env : UserEnv) : Option CStr :=
  match assigned (root.getObjectItem "username".toList) env.user,
      assigned (root.getObjectItem "password".toList) env.pwd with
  | .str user, .str pwd => if dbUserExists db user && dbCheckPassword db user pwd then some user else none
  | _, _ => none

/-! ### The setters, and when they fit -/

/-- The handlers that copy from a body. -/
inductive Setter
  | setnode
  | sleBasicinfo
  | announceId
  | disconnect
  | connect
  | vap0Mac
  | login
  deriving DecidableEq

/-- What they meet besides the body. -/
structure SetterState where
  node : LocalNode
  announceId : List Int32
  db : UserTable
  junk : ℕ → ℕ → Junk
  found : Bool
  user : UserEnv

/-- The copies of a setter. -/
def Setter.copies (s : Setter) (st : SetterState) (root : Json) : Except CopyFault Unit :=
  match s with
  | .setnode => (setnodeAssign root st.node.params).map fun _ => ()
  | .sleBasicinfo => (setSleBasicinfo st.junk st.node root).map fun _ => ()
  | .announceId => (setAnnounceId st.announceId root).map fun _ => ()
  | .disconnect => (doDisconnect root).map fun _ => ()
  | .connect => (sleConnect root).map fun _ => ()
  | .vap0Mac => (configVap0Mac st.found root).map fun _ => ()
  | .login => match tokenUser st.db root st.user with
    | none => .ok ()
    | some user => (tokenString user st.user).map fun _ => ()

/-- The field, if it is there and is a string, is shorter than `char dst[n]`. -/
def FieldSmall (n : ℕ) (root : Json) (field : String) : Prop :=
  ∀ j ∈ root.getObjectItem field.toList, ∀ s ∈ j.valuestring, (cstr s).length < n

/-- The field is there and is no string: a NULL source, where the handler ends. -/
def FieldNull (root : Json) (field : String) : Prop :=
  ∃ j ∈ root.getObjectItem field.toList, j.valuestring = none

/-- Every copy of `setnode` that is reached fits. -/
def SetnodeFits (root : Json) : Prop :=
  FieldSmall 128 root "name" ∧ (¬ FieldNull root "name" →
    FieldSmall 16 root "ip" ∧ (¬ FieldNull root "ip" →
      FieldSmall 32 root "set_sec_auth_pwd" ∧ (¬ FieldNull root "set_sec_auth_pwd" →
        MibFits root ∧ McsFits root ∧ FieldSmall 16 root "net_manage_ip")))

/-- The condition. -/
def Setter.Fits (s : Setter) (st : SetterState) (root : Json) : Prop :=
  match s with
  | .setnode => SetnodeFits root
  | .sleBasicinfo => FieldSmall 32 root "sle_name"
  | .announceId => ∀ j ∈ root.getObjectItemCaseSensitive "announce_id".toList, j.children.length ≤ 20
  | .disconnect => FieldSmall 18 root "mac"
  | .connect => FieldSmall 18 root "mac" ∧
      ∀ j ∈ root.getObjectItem "mac".toList, ∀ s ∈ j.valuestring, sscanfMac 6 (cstr s) ≤ 3
  | .vap0Mac => FieldSmall 18 root "vap0_mac"
  | .login => ∀ user ∈ tokenUser st.db root st.user,
      user.length + (Nat.toDigits 10 st.user.ts).length + st.user.salt.length + 2 < 128

variable {n : ℕ} {root : Json} {field : String} {old : CStr} {α β : Type}

theorem noOverflow_map {x : Except CopyFault α} {f : α → β} :
    NoOverflow (x.map f) ↔ NoOverflow x := by
  simp only [noOverflow_iff]
  exact faultsIn_map

theorem noOverflow_copyField : NoOverflow (copyField n root field old) ↔ FieldSmall n root field := by
  unfold copyField FieldSmall
  cases root.getObjectItem field.toList with
  | none => simp
  | some j => simp [noOverflow_strcpy]

/-- A copy gets through if it fits and its source is not NULL. -/
theorem copyField_ok_iff (h : FieldSmall n root field) :
    (∃ s, copyField n root field old = .ok s) ↔ ¬ FieldNull root field := by
  unfold FieldSmall at h
  unfold copyField FieldNull
  cases hj : root.getObjectItem field.toList with
  | none => simp
  | some j =>
    cases hs : j.valuestring with
    | none => simp [hs, strcpy]
    | some s => simp [hs, strcpy, store_eq_ok, h j hj s hs]

/-- What follows a copy keeps to its arrays as it does for every string, if the
source of the copy is not NULL. -/
theorem copyField_bind {f : CStr → Except CopyFault α} {q : Prop} (hf : ∀ s, NoOverflow (f s) ↔ q) :
    NoOverflow (copyField n root field old >>= f) ↔
      FieldSmall n root field ∧ (¬ FieldNull root field → q) := by
  rw [noOverflow_bind, noOverflow_copyField]
  refine and_congr_right fun hsmall => ?_
  constructor
  · intro h hnull
    obtain ⟨s, hs⟩ := (copyField_ok_iff hsmall).mpr hnull
    exact (hf s).mp (h s hs)
  · intro h s hs
    exact (hf s).mpr (h ((copyField_ok_iff hsmall).mp ⟨s, hs⟩))

/-- What follows a part without NULL sources. -/
theorem noOverflow_bind_of_ok {x : Except CopyFault α} {f : α → Except CopyFault β} {p q : Prop}
    (hx : NoOverflow x ↔ p) (hok : p → ∃ a, x = .ok a) (hf : ∀ a, NoOverflow (f a) ↔ q) :
    NoOverflow (x >>= f) ↔ p ∧ q := by
  rw [noOverflow_bind, hx]
  refine and_congr_right fun hp => ?_
  obtain ⟨a, rfl⟩ := hok hp
  exact ⟨fun h => (hf a).mp (h a rfl), fun h b _ => (hf b).mpr h⟩

theorem noOverflow_setMibParams : NoOverflow (setMibParams root) ↔ MibFits root := by
  refine ⟨fun h items hitems => ?_, fun h => ?_⟩
  · by_contra hlong
    refine h ?_
    unfold setMibParams
    rw [hitems]
    exact if_neg hlong
  · obtain ⟨l, hl⟩ := setMibParams_ok h
    rw [hl]
    exact noOverflow_ok l

/-- The rows of an array fit one by one. -/
theorem noOverflow_parseStrings {rows : ℕ} : ∀ {items : List Json} {i : ℕ},
    NoOverflow (parseStrings rows n i items) → RowsFit rows n i items
  | [], _, _ => by simp [RowsFit]
  | j :: items, i, h => by
    intro k s hk
    cases k with
    | zero =>
      obtain rfl : j = .string s := by simpa using hk
      rw [parseStrings] at h
      split_ifs at h with hi
      · exact ⟨by omega, noOverflow_strcpy.mp (noOverflow_bind.mp h).1 s rfl⟩
      · exact absurd h not_noOverflow_overflow
    | succ k =>
      have hrest : NoOverflow (parseStrings rows n (i + 1) items) := by
        cases j with
        | string s' =>
          rw [parseStrings] at h
          split_ifs at h with hi
          · obtain ⟨hrow, hmore⟩ := noOverflow_bind.mp h
            have hlen := noOverflow_strcpy.mp hrow s' rfl
            exact (noOverflow_bind.mp (hmore _ (strcpy_eq_ok.mpr ⟨s', rfl, hlen, rfl⟩))).1
          · exact absurd h not_noOverflow_overflow
        | null | bool | number | array | object => exact h
      have := noOverflow_parseStrings hrest k s hk
      omega

theorem noOverflow_setMcsBound : NoOverflow (setMcsBound root) ↔ McsFits root := by
  refine ⟨fun h items hitems => ?_, fun h => ?_⟩
  · unfold setMcsBound at h
    rw [hitems] at h
    exact noOverflow_parseStrings h
  · obtain ⟨l, hl⟩ := setMcsBound_ok h
    rw [hl]
    exact noOverflow_ok l

/-- **`setnode` keeps to its arrays** exactly if every copy it gets to fits. -/
theorem setnodeCopies_fit_iff (p : NodeParams) :
    NoOverflow (setnodeCopies root p) ↔ SetnodeFits root := by
  unfold setnodeCopies SetnodeFits
  refine copyField_bind fun name => copyField_bind fun ip => copyField_bind fun password => ?_
  refine noOverflow_bind_of_ok noOverflow_setMibParams setMibParams_ok fun _ => ?_
  refine noOverflow_bind_of_ok noOverflow_setMcsBound setMcsBound_ok fun _ => ?_
  rw [copyField_bind (q := True) fun _ => iff_true_intro (noOverflow_pure _)]
  simp

theorem noOverflow_setAnnounceId {announceId : List Int32} :
    NoOverflow (setAnnounceId announceId root) ↔
      ∀ j ∈ root.getObjectItemCaseSensitive "announce_id".toList, j.children.length ≤ 20 := by
  unfold setAnnounceId
  cases root.getObjectItemCaseSensitive "announce_id".toList with
  | none => simp
  | some j =>
    dsimp only
    split_ifs with hlen
    · simpa using hlen
    · simpa using Nat.lt_of_not_le hlen

/-- The numbers of an address fit as long as there are at most three. -/
theorem addr_fits {m : ℕ} : (∀ i < m, i + 4 ≤ 6) ↔ m ≤ 3 := by
  constructor
  · intro h
    by_contra hm
    exact absurd (h 3 (Nat.lt_of_not_le hm)) (by decide)
  · intro hm i hi
    omega

theorem noOverflow_sleConnect (st : SetterState) :
    NoOverflow (sleConnect root) ↔ Setter.connect.Fits st root := by
  unfold sleConnect
  rw [noOverflow_bind, noOverflow_copyField]
  refine and_congr_right fun hsmall => ?_
  have haddr : ∀ mac, NoOverflow
      (if ∀ i < sscanfMac 6 mac, i + 4 ≤ 6 then .ok mac else .error .overflow : Except CopyFault CStr) ↔
        sscanfMac 6 mac ≤ 3 := by
    intro mac
    rw [← addr_fits]
    split_ifs with hle
    · exact iff_of_true (noOverflow_ok _) hle
    · exact iff_of_false not_noOverflow_overflow hle
  simp only [haddr]
  unfold copyField
  cases hj : root.getObjectItem "mac".toList with
  | none =>
    have hempty : sscanfMac 6 [] ≤ 3 := by decide
    simp [hempty]
  | some j =>
    simp only [strcpy_eq_ok, Option.mem_def, Option.some.injEq, forall_eq']
    constructor
    · intro h s hs
      exact h _ ⟨s, hs, hsmall j hj s hs, rfl⟩
    · rintro h _ ⟨s, hs, _, rfl⟩
      exact h s hs

theorem noOverflow_configVap0Mac {found : Bool} :
    NoOverflow (configVap0Mac found root) ↔ FieldSmall 18 root "vap0_mac" := by
  unfold configVap0Mac FieldSmall
  cases root.getObjectItem "vap0_mac".toList with
  | none => simp
  | some j =>
    dsimp only
    rw [noOverflow_bind, noOverflow_strcpy]
    simp

/-- **Every string and array element of a body is written inside its
destination** if and only if it fits. -/
theorem copies_fit_iff (s : Setter) (st : SetterState) (root : Json) :
    NoOverflow (s.copies st root) ↔ s.Fits st root := by
  unfold Setter.copies
  cases s with
  | setnode =>
    show NoOverflow ((setnodeAssign root st.node.params).map _) ↔ _
    unfold setnodeAssign
    rw [noOverflow_map, noOverflow_map]
    exact setnodeCopies_fit_iff st.node.params
  | sleBasicinfo =>
    show NoOverflow ((setSleBasicinfo st.junk st.node root).map _) ↔ _
    unfold setSleBasicinfo
    rw [noOverflow_map, noOverflow_bind, noOverflow_copyField]
    exact and_iff_left fun _ _ => noOverflow_ok _
  | announceId =>
    show NoOverflow ((setAnnounceId st.announceId root).map _) ↔ _
    rw [noOverflow_map]
    exact noOverflow_setAnnounceId
  | disconnect =>
    show NoOverflow ((doDisconnect root).map _) ↔ _
    unfold doDisconnect
    rw [noOverflow_map, noOverflow_bind, noOverflow_copyField]
    exact and_iff_left fun _ _ => noOverflow_ok _
  | connect =>
    show NoOverflow ((sleConnect root).map _) ↔ _
    rw [noOverflow_map]
    exact noOverflow_sleConnect st
  | vap0Mac =>
    show NoOverflow ((configVap0Mac st.found root).map _) ↔ _
    rw [noOverflow_map]
    exact noOverflow_configVap0Mac
  | login =>
    unfold Setter.Fits
    dsimp only
    cases tokenUser st.db root st.user with
    | none => simp
    | some user =>
      dsimp only
      rw [noOverflow_map, tokenString, noOverflow_store, tokenText, maxToken]
      simp only [List.length_append, List.length_cons, Option.mem_def, Option.some.injEq, forall_eq']
      omega

/-- `{"mac": "00:11:22:33:44:55"}`. -/
def macBody : Json := .object [("mac".toList, .string "00:11:22:33:44:55".toList)]

/-- `{"ip": "192.168.100.1001"}`, sixteen characters. -/
def ipBody : Json := .object [("ip".toList, .string "192.168.100.1001".toList)]

/-- A device that was never configured. -/
def freshSetter : SetterState :=
  ⟨⟨paramDefault 0, none⟩, List.replicate 20 0, initDb, fun _ _ => ⟨[], []⟩, false, ⟨.null, .null, 0, []⟩⟩

/-- The terminator of sixteen characters lies behind the address in the node
record, and a proper MAC address overruns the six bytes it is read into. -/
theorem copies_overflow :
    Setter.setnode.copies freshSetter ipBody = .error .overflow ∧
    ¬ NoOverflow (Setter.setnode.copies freshSetter ipBody) ∧
    ¬ NoOverflow (Setter.connect.copies freshSetter macBody) := by
  have hip : Setter.setnode.copies freshSetter ipBody = .error .overflow := rfl
  refine ⟨hip, fun h => h hip, fun h => h rfl⟩

end WtslCore
