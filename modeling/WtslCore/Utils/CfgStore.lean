/-
# The configuration file as a store

For the keys the program uses (`Plain`: bare and with room for a terminator)
and files that end in a newline and hold no terminator (`Settled`),
`config_set` and `config_get` are the update and the look-up of a map from
keys to texts: `storedText` is that map, whatever the stack holds
(`configGet_eq`, `storedText_configSet_self`), and a file stays settled
(`Settled.configSet`). Integers go through `%d` and `strtol`
(`storedInt_configSetInt`).

Key definitions: `Plain`, `Settled`, `storedText`, `storedInt`,
`configSetInt`, `configGetInt`, `configSetAll`, `Storable`.
Key theorems: `configGet_eq_stored`, `storedText_configSet_self`,
`Settled.configSet`, `storedInt_configSetInt`, `configGetInt_eq`.
-/
import WtslCore.Lib.Decimal
import WtslCore.Utils.CfgFrame

namespace WtslCore

/-- `config_set_int`. Eleven characters fit its buffer. -/
def configSetInt (junk : ℕ → Junk) (key : CStr) (value : Int32) (file : Option (List Char)) :
    ConfigResult × Option (List Char) :=
  configSet junk key (intText value.toInt) file

/-- What the stack holds in a call of a `config_get` function: the unset
buffer of `config_get_int`, and the junk in the arrays. -/
structure GetStack where
  strValue : CStr
  junk : ℕ → Junk

/-- `config_get_int`: the result, and `*value` after it. -/
def configGetInt (stack : GetStack) (key : CStr) (value : Int32) (file : Option (List Char)) :
    ConfigResult × Int32 :=
  match configGet stack.junk key stack.strValue configMaxValueLength file with
  | (.success, s) =>
    match strtol s with
    | some (num, []) => (.success, Int32.ofInt num)
    | _ => (.errorFormat, value)
  | (r, _) => (r, value)

/-- A key of the program: valid, bare, and with room for a terminator. -/
structure Plain (key : CStr) : Prop where
  noNul : nul ∉ key
  valid : isValidKey key = true
  bare : (∀ c ∈ key.head?, isspace c = false) ∧ ∀ c ∈ key.getLast?, isspace c = false
  fits : key.length < configMaxKeyLength - 1

instance (key : CStr) : Decidable (Plain key) :=
  decidable_of_iff (nul ∉ key ∧ isValidKey key = true ∧
      ((∀ c ∈ key.head?, isspace c = false) ∧ ∀ c ∈ key.getLast?, isspace c = false) ∧
        key.length < configMaxKeyLength - 1)
    ⟨fun ⟨h1, h2, h3, h4⟩ => ⟨h1, h2, h3, h4⟩, fun h => ⟨h.noNul, h.valid, h.bare, h.fits⟩⟩

/-- The key as one `config_set` accepts. -/
def Plain.key {k : CStr} (h : Plain k) : ConfigKey := ⟨k, h.noNul, h.valid⟩

theorem Plain.bareKey {k : CStr} (h : Plain k) : Bare isspace k := ⟨h.bare.1, h.bare.2⟩

/-- A file without terminators whose last line ends in a newline. -/
structure Settled (file : Option (List Char)) : Prop where
  noNul : nul ∉ file.getD []
  closed : openPart (configMaxLineLength - 1) (file.getD []) = []

/-- The text a file has for a key, as read with every array terminated. -/
def storedText (file : Option (List Char)) (key : CStr) : Option CStr :=
  lookupValue key (fun _ => ⟨[], []⟩) (configLines (file.getD []))

/-- The integer a text stands for. -/
def textInt (s : CStr) : Option Int32 :=
  match strtol s with
  | some (num, []) => some (Int32.ofInt num)
  | _ => none

/-- The integer a file has for a key. -/
def storedInt (file : Option (List Char)) (key : CStr) : Option Int32 :=
  (storedText file key).bind textInt

variable {key : CStr} {file : Option (List Char)} {n : ℕ}

/-! ### Reading -/

/-- A value leaves the junk behind it out of a buffer that is no longer than the array. -/
theorem take_readArray_of_le {w : CStr} (hw : w.length < configMaxValueLength)
    (hn : n ≤ configMaxValueLength) (junk : CStr) :
    (readArray configMaxValueLength junk w).take (n - 1) = w.take (n - 1) := by
  unfold readArray
  split_ifs with h
  · rfl
  · exact List.take_append_of_le_length (by omega)

theorem hitValue_take (hk : key.length < configMaxKeyLength - 1) (hn : n ≤ configMaxValueLength)
    (junk : Junk) (line : List Char) :
    (hitValue key junk line).map (List.take (n - 1)) =
      (hitValue key ⟨[], []⟩ line).map (List.take (n - 1)) := by
  unfold hitValue
  cases hparse : parseConfigLine (cstr line) with
  | none => rfl
  | some kw =>
    obtain ⟨k, w⟩ := kw
    obtain ⟨⟨-, hv, -, -⟩, -⟩ := parseConfigLine_iff.mp hparse
    have hw := (isValidValue_iff.mp hv).1
    simp only [readArray_key hk]
    split_ifs with heq
    · rw [Option.map_some, Option.map_some, take_readArray_of_le hw hn, take_readArray_of_le hw hn]
    · rfl

/-- What a buffer gets of the value found does not depend on the stack. -/
theorem lookupValue_take (hk : key.length < configMaxKeyLength - 1) (hn : n ≤ configMaxValueLength) :
    ∀ (lines : List (List Char)) (junk : ℕ → Junk),
      (lookupValue key junk lines).map (List.take (n - 1)) =
        (lookupValue key (fun _ => ⟨[], []⟩) lines).map (List.take (n - 1))
  | [], _ => rfl
  | line :: lines, junk => by
    rw [lookupValue, lookupValue, Option.map_or, Option.map_or, hitValue_take hk hn,
      lookupValue_take hk hn lines]

theorem length_of_lookupValue : ∀ {lines : List (List Char)} {w : CStr},
    lookupValue key (fun _ => ⟨[], []⟩) lines = some w → w.length < configMaxValueLength
  | line :: lines, w, h => by
    rw [lookupValue, Option.or_eq_some_iff] at h
    rcases h with hit | ⟨-, hrest⟩
    · unfold hitValue at hit
      cases hparse : parseConfigLine (cstr line) with
      | none =>
        rw [hparse] at hit
        cases hit
      | some kw =>
        obtain ⟨k, v⟩ := kw
        rw [hparse] at hit
        simp only [readArray_nil] at hit
        split_ifs at hit
        cases hit
        exact (isValidValue_iff.mp (parseConfigLine_iff.mp hparse).1.2.1).1
    · exact length_of_lookupValue hrest

theorem length_storedText {w : CStr} (h : storedText file key = some w) :
    w.length < configMaxValueLength := length_of_lookupValue h

/-- **`config_get` looks the key up**, if the buffer's old content is valid. -/
theorem configGet_eq_stored (hk : Plain key) {buf : CStr} (hbuf : isValidValue buf = true)
    (hpos : 0 < n) (hn : n ≤ configMaxValueLength) (junk : ℕ → Junk) (file : Option (List Char)) :
    configGet junk key buf n file =
      match storedText file key with
      | some w => (.success, w.take (n - 1))
      | none => (.errorNotFound, buf) := by
  have hvalid : ¬ (!isValidKey key || !isValidValue buf || n = 0) = true := by
    simp [hk.valid, hbuf]
    omega
  have htake := lookupValue_take hk.fits hn (configLines (file.getD [])) junk
  rw [configGet_eq, if_neg hvalid, configGetLoop_eq, storedText]
  cases h1 : lookupValue key junk (configLines (file.getD [])) with
  | none =>
    rw [h1, Option.map_none, eq_comm, Option.map_eq_none_iff] at htake
    rw [htake]
  | some v =>
    rw [h1, Option.map_some, eq_comm, Option.map_eq_some_iff] at htake
    obtain ⟨w, hw, hv⟩ := htake
    rw [hw]
    exact congrArg (Prod.mk ConfigResult.success) hv.symm

/-- Otherwise nothing is read. -/
theorem configGet_invalid {buf : CStr} (hbuf : isValidValue buf = false) (junk : ℕ → Junk) (key : CStr)
    (n : ℕ) (file : Option (List Char)) :
    configGet junk key buf n file = (.errorInvalidParam, buf) := by
  unfold configGet
  exact if_pos (by simp [hbuf])

/-- **`config_get_int` leaves the stored integer**, if there is one and the
unset buffer happens to hold a valid text. -/
theorem configGetInt_eq (hk : Plain key) (stack : GetStack) (value : Int32)
    (file : Option (List Char)) : (configGetInt stack key value file).2 =
      if isValidValue stack.strValue then (storedInt file key).getD value else value := by
  unfold configGetInt
  split_ifs with hbuf
  · rw [configGet_eq_stored hk hbuf (by decide) le_rfl, storedInt]
    cases hw : storedText file key with
    | none => rfl
    | some w =>
      have hlen := length_storedText hw
      simp only [List.take_of_length_le (Nat.le_sub_one_of_lt hlen), Option.bind_some, textInt]
      split <;> rfl
  · rw [configGet_invalid (Bool.eq_false_iff.mpr hbuf)]

/-! ### Writing -/

theorem Settled.fullPieces_eq (h : Settled file) :
    configLines (file.getD []) = fullPieces (configMaxLineLength - 1) (file.getD []) := by
  rw [configLines, fgetsAll_eq (by decide), if_pos h.closed, List.append_nil]

theorem Settled.full (h : Settled file) :
    ∀ p ∈ configLines (file.getD []), FullPiece (configMaxLineLength - 1) p := by
  rw [h.fullPieces_eq]
  exact (fgets_spec (by decide) _).1

/-- A text of full pieces without terminators is settled. -/
theorem settled_of_full {ps : List (List Char)} (hps : ∀ p ∈ ps, FullPiece (configMaxLineLength - 1) p)
    (hnul : ∀ p ∈ ps, nul ∉ p) : Settled (some ps.flatten) where
  noNul h := by
    obtain ⟨p, hp, hm⟩ := List.mem_flatten.mp h
    exact hnul p hp hm
  closed := by
    have h := (fullPieces_openPart (by decide) hps List.not_mem_nil
      (by decide : (0 : ℕ) < configMaxLineLength - 1)).2
    rwa [List.append_nil] at h

theorem configSet_invalid {value : CStr} (h : isValidValue value = false) (junk : ℕ → Junk) (key : CStr)
    (file : Option (List Char)) : (configSet junk key value file).2 = file := by
  unfold configSet
  rw [if_pos (by simp [h])]

theorem Rewrites.noNul {value : ConfigValue} (key : ConfigKey) : ∀ {ls outs : List (List Char)},
    Rewrites key.str value.str ls outs → (∀ p ∈ ls, nul ∉ p) → ∀ p ∈ outs, nul ∉ p
  | _, _, .nil, _ => by simp
  | _ :: _, _ :: _, .cons hab h, hnul => by
    refine List.forall_mem_cons.mpr
      ⟨?_, Rewrites.noNul key h fun p hp => hnul p (List.mem_cons_of_mem _ hp)⟩
    rcases hab with rfl | ⟨-, rfl⟩
    · exact hnul _ List.mem_cons_self
    · exact noNul_pairLine key value

/-- **A settled file stays settled**, whatever is set. -/
theorem Settled.configSet (h : Settled file) (hk : Plain key) {value : CStr} (hv : nul ∉ value)
    (junk : ℕ → Junk) : Settled (configSet junk key value file).2 := by
  cases hvalid : isValidValue value with
  | false => rwa [configSet_invalid hvalid]
  | true =>
    have hpieces : ∀ p ∈ configLines (file.getD []), nul ∉ p :=
      fun p hp hm => h.noNul (mem_of_mem_configLines hp hm)
    rcases configSet_cases hk.key ⟨value, hv, hvalid⟩
        (copiesWhole_of_noNul h.noNul) junk with ⟨outs, hr, hset⟩ | ⟨-, hset⟩
    · have := settled_of_full (hr.full hk.key ⟨value, hv, hvalid⟩ h.full) (hr.noNul hk.key hpieces)
      exact (congrArg Prod.snd hset) ▸ this
    · have hfull : ∀ p ∈ configLines (file.getD []) ++ [pairLine key value],
          FullPiece (configMaxLineLength - 1) p :=
        List.forall_mem_append.mpr ⟨h.full, List.forall_mem_singleton.mpr
          (fullPiece_pairLine hk.key ⟨value, hv, hvalid⟩)⟩
      have hnul : ∀ p ∈ configLines (file.getD []) ++ [pairLine key value], nul ∉ p :=
        List.forall_mem_append.mpr ⟨hpieces, List.forall_mem_singleton.mpr
          (noNul_pairLine hk.key ⟨value, hv, hvalid⟩)⟩
      have hsettled := settled_of_full hfull hnul
      rw [List.flatten_append, List.flatten_singleton, configLines, flatten_fgetsAll] at hsettled
      exact (congrArg Prod.snd hset) ▸ hsettled

/-- **Other keys stay**, whatever is set. -/
theorem storedText_configSet_ne (h : Settled file) (hk : Plain key) {key' : CStr} (hk' : Plain key')
    (hne : key' ≠ key) {value : CStr} (hv : nul ∉ value) (junk : ℕ → Junk) :
    storedText (configSet junk key value file).2 key' = storedText file key' := by
  cases hvalid : isValidValue value with
  | false => rw [configSet_invalid hvalid]
  | true =>
    rcases configSet_cases hk.key ⟨value, hv, hvalid⟩
        (copiesWhole_of_noNul h.noNul) junk with ⟨outs, hr, hset⟩ | ⟨-, hset⟩
    · have hlines : configLines outs.flatten = outs :=
        fgetsAll_rewritten hk.key ⟨value, hv, hvalid⟩ hr
      have hfile : (configSet junk key value file).2 = some outs.flatten := congrArg Prod.snd hset
      rw [hfile, storedText, storedText, Option.getD_some, hlines]
      exact (lookupValue_rewritten hk.key ⟨value, hv, hvalid⟩ hk'.key hne hr _).symm
    · have hfile : (configSet junk key value file).2 = some (file.getD [] ++ pairLine key value) :=
        congrArg Prod.snd hset
      rw [hfile, storedText, storedText, Option.getD_some]
      refine lookupValue_appended (.inr fun j => ?_) _
      have hline : configLines (pairLine key value) = [pairLine key value] :=
        configLines_pairLine hk.key ⟨value, hv, hvalid⟩
      have hnone : hitValue key' (j 0) (pairLine key value) = none :=
        hitValue_pairLine_ne hk.key ⟨value, hv, hvalid⟩ hk.bareKey (isValidKey_iff.mp hk'.valid).2.1
          hne (j 0)
      rw [h.closed, List.nil_append, hline, lookupValue, hnone]
      rfl

/-- What was kept of a settled file ends in a full piece. -/
theorem Settled.openPart_keptText (h : Settled file) (key : CStr) :
    openPart (configMaxLineLength - 1) (keptText key file) = [] := by
  have hkept : keptText key file =
      ((configLines (file.getD [])).takeWhile fun line => !matchesKey key line).flatten := by
    rw [keptText, List.flatMap, List.map_congr_left fun line hl =>
      cstr_configLines h.noNul line ((List.takeWhile_prefix _).subset hl), List.map_id']
  have hfull := fullPieces_openPart (by decide)
    (fun p hp => h.full p ((List.takeWhile_prefix fun line => !matchesKey key line).subset hp))
    List.not_mem_nil (by decide : (0 : ℕ) < configMaxLineLength - 1)
  rw [List.append_nil, ← hkept] at hfull
  exact hfull.2

/-- **The key has the new text**, if it is bare. -/
theorem storedText_configSet_self (h : Settled file) (hk : Plain key) (value : ConfigValue)
    (hbare : Bare isspace value.str) (junk : ℕ → Junk) :
    storedText (configSet junk key value.str file).2 key = some value.str := by
  obtain ⟨hvlen, -, -⟩ := isValidValue_iff.mp value.valid
  have hopen := h.openPart_keptText key
  have hback : ReadsBack file hk.key value [] configMaxValueLength := by
    refine ⟨hk.bareKey, hk.fits, hbare, .inr rfl, by decide, (kept_pieces key h.noNul).1, ?_⟩
    rw [Plain.key, hopen]
    refine ⟨by simp [Blank], ?_⟩
    have hsum : configMaxKeyLength + configMaxValueLength < configMaxLineLength := by decide
    have hkey := (isValidKey_iff.mp hk.valid).2.1
    rw [List.length_nil]
    show 0 + (key.length + (1 + value.str.length)) < configMaxLineLength
    omega
  have hget := hback.roundTrip hvlen (by decide) junk (fun _ => ⟨[], []⟩)
    (configSet_success hk.key value junk file)
  have hpos : 0 < configMaxValueLength := by decide
  have hstored := configGet_eq_stored hk (rfl : isValidValue [] = true) hpos le_rfl
    (fun _ => ⟨[], []⟩) (configSet junk key value.str file).2
  rw [show configGet (fun _ => ⟨[], []⟩) key [] configMaxValueLength
    (configSet junk key value.str file).2 = (.success, value.str) from hget] at hstored
  cases hw : storedText (configSet junk key value.str file).2 key with
  | none =>
    rw [hw] at hstored
    cases (Prod.mk.inj hstored).1
  | some w =>
    rw [hw] at hstored
    have hlen := length_storedText hw
    rw [(Prod.mk.inj hstored).2, List.take_of_length_le (Nat.le_sub_one_of_lt hlen)]

/-! ### Integers -/

/-- The text of an `int`, as a value. -/
def intValue (v : Int32) : ConfigValue where
  str := intText v.toInt
  noNul h := by
    rcases mem_intText h with h | h
    · exact absurd h (by decide)
    · exact absurd h (by decide)
  valid := by
    have hchars : ∀ c : Char, c.isDigit = false → c ≠ '-' → c ∉ intText v.toInt := by
      intro c hdigit hminus h
      rcases mem_intText h with h | h
      · exact hminus h
      · rw [hdigit] at h
        exact Bool.noConfusion h
    refine isValidValue_iff.mpr ⟨?_, hchars _ (by decide) (by decide), hchars _ (by decide) (by decide)⟩
    exact (length_intText_le v).trans_lt (by decide)

theorem bare_intText (n : ℤ) : Bare isspace (intText n) := by
  have hchars : ∀ c ∈ intText n, isspace c = false := by
    intro c hc
    rcases mem_intText hc with rfl | hdigit
    · decide
    · exact (digit_ne hdigit).1
  exact ⟨fun c hc => hchars c (List.mem_of_mem_head? hc),
    fun c hc => hchars c (List.mem_of_mem_getLast? hc)⟩

theorem textInt_intText (v : Int32) : textInt (intText v.toInt) = some v := by
  rw [textInt, strtol_intText]
  exact congrArg some (Int32.ofInt_toInt v)

theorem Settled.configSetInt (h : Settled file) (hk : Plain key) (v : Int32) (junk : ℕ → Junk) :
    Settled (configSetInt junk key v file).2 :=
  h.configSet hk (intValue v).noNul junk

/-- **Setting an integer is an update of the store.** -/
theorem storedInt_configSetInt (h : Settled file) (hk : Plain key) {key' : CStr} (hk' : Plain key')
    (v : Int32) (junk : ℕ → Junk) : storedInt (configSetInt junk key v file).2 key' =
      if key' = key then some v else storedInt file key' := by
  split_ifs with heq
  · subst heq
    have hself := storedText_configSet_self h hk (intValue v) (bare_intText v.toInt) junk
    rw [storedInt, configSetInt]
    exact (congrArg (Option.bind · textInt) hself).trans (textInt_intText v)
  · have hne := storedText_configSet_ne h hk hk' heq (intValue v).noNul junk
    exact congrArg (Option.bind · textInt) hne
/-! ### Several keys -/

/-- `config_set` for each pair, in order. -/
def configSetAll (junk : ℕ → ℕ → Junk) :
    List (CStr × CStr) → Option (List Char) → Option (List Char)
  | [], file => file
  | kv :: kvs, file =>
    configSetAll (fun i => junk (i + 1)) kvs (configSet (junk 0) kv.1 kv.2 file).2

/-- The pairs of `config_set_int`. -/
def intPairs (kvs : List (String × Int32)) : List (CStr × CStr) :=
  kvs.map fun kv => (kv.1.toList, intText kv.2.toInt)

theorem configSetAll_append : ∀ (kvs kvs' : List (CStr × CStr)) (junk : ℕ → ℕ → Junk)
    (file : Option (List Char)), configSetAll junk (kvs ++ kvs') file =
      configSetAll (fun i => junk (i + kvs.length)) kvs' (configSetAll junk kvs file)
  | [], _, _, _ => rfl
  | kv :: kvs, kvs', junk, file => by
    rw [List.cons_append, configSetAll, configSetAll_append kvs kvs', configSetAll]
    simp only [List.length_cons, Nat.add_assoc]

theorem settled_configSetAll : ∀ {kvs : List (CStr × CStr)} {file : Option (List Char)}
    (junk : ℕ → ℕ → Junk), Settled file → (∀ kv ∈ kvs, Plain kv.1 ∧ nul ∉ kv.2) →
      Settled (configSetAll junk kvs file)
  | [], _, _, h, _ => h
  | kv :: kvs, _, junk, h, hkvs => by
    obtain ⟨hk, hv⟩ := hkvs kv List.mem_cons_self
    exact settled_configSetAll (fun i => junk (i + 1)) (h.configSet hk hv (junk 0))
      fun kv' h' => hkvs kv' (List.mem_cons_of_mem _ h')

/-- Keys that are not set stay. -/
theorem storedText_configSetAll_ne (hk : Plain key) : ∀ {kvs : List (CStr × CStr)}
    {file : Option (List Char)} (junk : ℕ → ℕ → Junk), Settled file →
      (∀ kv ∈ kvs, Plain kv.1 ∧ nul ∉ kv.2) → key ∉ kvs.map Prod.fst →
        storedText (configSetAll junk kvs file) key = storedText file key
  | [], _, _, _, _, _ => rfl
  | kv :: kvs, file, junk, h, hkvs, hno => by
    obtain ⟨hkv, hv⟩ := hkvs kv List.mem_cons_self
    rw [List.map_cons, List.mem_cons, not_or] at hno
    rw [configSetAll, storedText_configSetAll_ne hk _ (h.configSet hkv hv (junk 0))
      (fun kv' h' => hkvs kv' (List.mem_cons_of_mem _ h')) hno.2]
    exact storedText_configSet_ne h hkv hk hno.1 hv (junk 0)

/-- A text that is read back as it is. -/
structure Storable (w : CStr) : Prop where
  noNul : nul ∉ w
  valid : isValidValue w = true
  bare : Bare isspace w

/-- **The text set for a key is stored**, where no key is set twice. -/
theorem storedText_configSetAll : ∀ {kvs : List (CStr × CStr)} {file : Option (List Char)}
    (junk : ℕ → ℕ → Junk), Settled file → (kvs.map Prod.fst).Nodup →
      (∀ kv ∈ kvs, Plain kv.1 ∧ Storable kv.2) →
        ∀ kv ∈ kvs, storedText (configSetAll junk kvs file) kv.1 = some kv.2
  | [], _, _, _, _, _ => fun kv hkv => absurd hkv List.not_mem_nil
  | kv :: kvs, file, junk, h, hnodup, hkvs => by
    obtain ⟨hk, hv⟩ := hkvs kv List.mem_cons_self
    obtain ⟨hno, hrest⟩ := List.nodup_cons.mp (List.map_cons ▸ hnodup)
    have hkvs' : ∀ kv' ∈ kvs, Plain kv'.1 ∧ Storable kv'.2 :=
      fun kv' h' => hkvs kv' (List.mem_cons_of_mem _ h')
    have hset : Settled (configSet (junk 0) kv.1 kv.2 file).2 := h.configSet hk hv.noNul (junk 0)
    rw [configSetAll]
    intro kv' hkv'
    rcases List.mem_cons.mp hkv' with rfl | htail
    · rw [storedText_configSetAll_ne hk _ hset (fun kv' h' => ⟨(hkvs' kv' h').1, (hkvs' kv' h').2.noNul⟩)
        hno]
      exact storedText_configSet_self h hk ⟨kv'.2, hv.noNul, hv.valid⟩ hv.bare (junk 0)
    · exact storedText_configSetAll _ hset hrest hkvs' kv' htail

theorem intPairs_plain {kvs : List (String × Int32)} (h : ∀ kv ∈ kvs, Plain kv.1.toList) :
    ∀ kv ∈ intPairs kvs, Plain kv.1 ∧ nul ∉ kv.2 := by
  intro kv hkv
  obtain ⟨kv', hmem, rfl⟩ := List.mem_map.mp hkv
  exact ⟨h kv' hmem, (intValue kv'.2).noNul⟩

/-- **The last integer set for a key is stored.** -/
theorem storedInt_configSetAll {key : String} (hk : Plain key.toList) :
    ∀ {kvs : List (String × Int32)} {file : Option (List Char)} (junk : ℕ → ℕ → Junk), Settled file →
      (∀ kv ∈ kvs, Plain kv.1.toList) →
        storedInt (configSetAll junk (intPairs kvs) file) key.toList =
          (kvs.reverse.lookup key).or (storedInt file key.toList)
  | [], _, _, _, _ => rfl
  | kv :: kvs, file, junk, h, hkvs => by
    have hkv := hkvs kv List.mem_cons_self
    have ih := storedInt_configSetAll hk (fun i => junk (i + 1)) (h.configSetInt hkv kv.2 (junk 0))
      fun kv' h' => hkvs kv' (List.mem_cons_of_mem _ h')
    rw [storedInt_configSetInt h hkv hk] at ih
    refine ih.trans ?_
    rw [List.reverse_cons, List.lookup_append, Option.or_assoc]
    congr 1
    obtain ⟨k, v⟩ := kv
    by_cases heq : key = k
    · rw [if_pos (congrArg String.toList heq), heq, List.lookup_cons_self, Option.some_or]
    · have hnone : List.lookup key [(k, v)] = none := by
        rw [List.lookup_cons, beq_eq_false_iff_ne.mpr heq]
        rfl
      rw [if_neg (mt String.toList_inj.mp heq), hnone, Option.none_or]

end WtslCore
