/-
# Reading back what was written

What `config_set` accepts, `config_get` should return. The writer checks
lengths and newlines; the reader trims, cuts, and reads in pieces. So the pair
is read back exactly under `ReadsBack`: key and value are bare and leave room
for a terminator, the buffer holds no newline (`config_get` checks its old
contents), and the pair starts on a line of its own: what was copied before it
ends in a full piece, or in white space that leaves the pair on one piece
(`configGet_configSet_iff`).

Key definitions: `ConfigKey`, `ConfigValue`, `keptText`, `RoundTrip`,
`ReadsBack`.
Key theorems: `configSet_file`, `configGetLoop_skip`, `ReadsBack.roundTrip`,
`parseConfigLine_merged`, `configGet_configSet_iff`.
-/
import WtslCore.Utils.CfgManager

namespace WtslCore

/-- A key `config_set` accepts. -/
structure ConfigKey where
  str : CStr
  noNul : nul ∉ str
  valid : isValidKey str = true

/-- A value `config_set` accepts. -/
structure ConfigValue where
  str : CStr
  noNul : nul ∉ str
  valid : isValidValue str = true

/-- The piece parses to the key. -/
def matchesKey (key : CStr) (line : List Char) : Bool :=
  (parseConfigLine (cstr line)).map Prod.fst = some key

/-- What `config_set` has written when it comes to the pair. -/
def keptText (key : CStr) (file : Option (List Char)) : List Char :=
  ((configLines (file.getD [])).takeWhile fun line => !matchesKey key line).flatMap cstr

/-- After `config_set`, `config_get` returns the value, whatever the stack holds. -/
def RoundTrip (file : Option (List Char)) (key : ConfigKey) (value : ConfigValue) (buf : CStr)
    (n : ℕ) : Prop :=
  ∀ junk junk', (configSet junk key.str value.str file).1 = .success →
    configGet junk' key.str buf n (configSet junk key.str value.str file).2 = (.success, value.str)

/-- The condition for the pair to be read back. -/
structure ReadsBack (file : Option (List Char)) (key : ConfigKey) (value : ConfigValue)
    (buf : CStr) (n : ℕ) : Prop where
  bareKey : Bare isspace key.str
  keyFits : key.str.length < configMaxKeyLength - 1
  bareValue : Bare isspace value.str
  valueFits : value.str.length < configMaxValueLength - 1 ∨ n = configMaxValueLength
  bufLine : '\n' ∉ buf ∧ '\r' ∉ buf
  keptLines : ∀ p ∈ fullPieces (configMaxLineLength - 1) (keptText key.str file),
    matchesKey key.str p = false
  ownLine : Blank (openPart (configMaxLineLength - 1) (keptText key.str file)) ∧
    (openPart (configMaxLineLength - 1) (keptText key.str file)).length +
      (key.str.length + (1 + value.str.length)) < configMaxLineLength

variable {key value buf : CStr} {n : ℕ} {file : Option (List Char)}

/-! ### Keys that leave room for a terminator -/

/-- Such a key is compared without junk. -/
theorem readArray_key (hk : key.length < configMaxKeyLength - 1) (junk s : CStr) :
    readArray configMaxKeyLength junk s = key ↔ s = key := by
  unfold readArray
  split_ifs with h
  · exact Iff.rfl
  · constructor
    · intro heq
      have := congrArg List.length heq
      rw [List.length_append] at this
      omega
    · rintro rfl
      omega

theorem fileKey_eq_iff (hk : key.length < configMaxKeyLength - 1) (junk : Junk) (line : List Char) :
    fileKey junk line = some key ↔ matchesKey key line = true := by
  unfold fileKey matchesKey
  cases parseConfigLine (cstr line) with
  | none => simp
  | some kv => simp [readArray_key hk]

/-- **What `config_set` writes**: the kept text, the pair, and the rest of the
file; no rest, if no piece parses to the key. -/
theorem configSetLoop_text (value : CStr) (hk : key.length < configMaxKeyLength - 1) :
    ∀ (lines : List (List Char)) (junk : ℕ → Junk), ∃ q,
      (if (configSetLoop key value junk lines).1 then (configSetLoop key value junk lines).2
        else (configSetLoop key value junk lines).2 ++ pairLine key value) =
        (lines.takeWhile fun line => !matchesKey key line).flatMap cstr ++ (pairLine key value ++ q) ∧
      ((∀ line ∈ lines, matchesKey key line = false) → q = [])
  | [], _ => ⟨[], by simp [configSetLoop], fun _ => rfl⟩
  | line :: lines, junk => by
    unfold configSetLoop
    by_cases hm : matchesKey key line = true
    · refine ⟨(configSetLoop key value (fun i => junk (i + 1)) lines).2, ?_, ?_⟩
      · simp [(fileKey_eq_iff hk _ _).mpr hm, hm]
      · intro h
        rw [h line List.mem_cons_self] at hm
        exact Bool.noConfusion hm
    · obtain ⟨q, hq, hnone⟩ := configSetLoop_text value hk lines fun i => junk (i + 1)
      have hf : fileKey (junk 0) line ≠ some key := fun h => hm ((fileKey_eq_iff hk _ _).mp h)
      refine ⟨q, ?_, fun h => hnone fun l hl => h l (List.mem_cons_of_mem _ hl)⟩
      have hcons : ((line :: lines).takeWhile fun l => !matchesKey key l) =
          line :: lines.takeWhile fun l => !matchesKey key l := by
        simp [hm]
      simp only [if_neg hf]
      rw [hcons, List.flatMap_cons, List.append_assoc (cstr line) (List.flatMap _ _), ← hq]
      split_ifs <;> simp

theorem configSet_file (key : ConfigKey) (value : ConfigValue)
    (hk : key.str.length < configMaxKeyLength - 1) (junk : ℕ → Junk) (file : Option (List Char)) :
    ∃ q, configSet junk key.str value.str file =
        (.success, some (keptText key.str file ++ (pairLine key.str value.str ++ q))) ∧
      ((∀ line ∈ configLines (file.getD []), matchesKey key.str line = false) → q = []) := by
  obtain ⟨q, hq, hnone⟩ := configSetLoop_text value.str hk (configLines (file.getD [])) junk
  refine ⟨q, ?_, hnone⟩
  unfold configSet keptText
  simp only [key.valid, value.valid, Bool.not_true, Bool.or_self, Bool.false_eq_true, ↓reduceIte, hq]

/-- Pieces that do not parse to the key are passed over. -/
theorem configGetLoop_skip (buf : CStr) (n : ℕ) (hk : key.length < configMaxKeyLength - 1)
    (lines : List (List Char)) : ∀ {pre : List (List Char)} (junk : ℕ → Junk),
      (∀ p ∈ pre, matchesKey key p = false) →
      configGetLoop key buf n junk (pre ++ lines) =
        configGetLoop key buf n (fun i => junk (i + pre.length)) lines
  | [], _, _ => rfl
  | p :: pre, junk, h => by
    have ih := configGetLoop_skip buf n hk lines (fun i => junk (i + 1))
      fun q hq => h q (List.mem_cons_of_mem _ hq)
    have hp := h p List.mem_cons_self
    unfold matchesKey at hp
    have hstep : configGetLoop key buf n junk (p :: (pre ++ lines)) =
        configGetLoop key buf n (fun i => junk (i + 1)) (pre ++ lines) := by
      rw [configGetLoop]
      cases hparse : parseConfigLine (cstr p) with
      | none => rfl
      | some kv =>
        have hne : ¬ readArray configMaxKeyLength (junk 0).key kv.1 = key := by
          rw [readArray_key hk]
          simpa [hparse] using hp
        simp only [if_neg hne]
    rw [List.cons_append, hstep, ih, List.length_cons]
    rfl

/-- The first piece that parses to the key gives the value. -/
theorem configGetLoop_hit (hk : key.length < configMaxKeyLength - 1) {line : List Char} {w : CStr}
    (h : parseConfigLine (cstr line) = some (key, w)) (lines : List (List Char)) (junk : ℕ → Junk) :
    configGetLoop key buf n junk (line :: lines) =
      (.success, (readArray configMaxValueLength (junk 0).value w).take (n - 1)) := by
  rw [configGetLoop, h]
  simp only [if_pos ((readArray_key hk _ _).mpr rfl)]

/-! ### The condition is enough -/

theorem nul_not_mem_keptText : nul ∉ keptText key file := by
  intro h
  obtain ⟨line, -, h⟩ := List.mem_flatMap.mp h
  exact nul_not_mem_cstr line h

theorem mem_of_mem_openPart {m : ℕ} (hm : 0 < m) {s : List Char} {c : Char} (h : c ∈ openPart m s) :
    c ∈ s := by
  obtain ⟨-, -, -, hs⟩ := fgets_spec hm s
  rw [hs]
  exact List.mem_append_right _ h

theorem pairLine_eq (key value : CStr) : pairLine key value = (key ++ '=' :: value) ++ ['\n'] := by
  simp [pairLine]

theorem newline_not_mem_pair (key : ConfigKey) (value : ConfigValue) :
    '\n' ∉ key.str ++ '=' :: value.str := by
  obtain ⟨-, -, hkc⟩ := isValidKey_iff.mp key.valid
  obtain ⟨-, hvn, -⟩ := isValidValue_iff.mp value.valid
  simp only [List.mem_append, List.mem_cons, not_or]
  exact ⟨fun h => (hkc _ h).2.2.1 rfl, by decide, hvn⟩

/-- The pair is shorter than a piece. -/
theorem length_pair_lt (key : ConfigKey) (value : ConfigValue) :
    (key.str ++ '=' :: value.str).length < configMaxLineLength - 1 := by
  obtain ⟨-, hklen, -⟩ := isValidKey_iff.mp key.valid
  obtain ⟨hvlen, -, -⟩ := isValidValue_iff.mp value.valid
  have : configMaxKeyLength + configMaxValueLength < configMaxLineLength - 1 := by decide
  rw [List.length_append, List.length_cons]
  omega

/-- A pair after white space, on a piece of its own. -/
theorem fgetsAll_pair {w q : List Char} (key : ConfigKey) (value : ConfigValue) (hw : '\n' ∉ w)
    (hlen : w.length + (key.str.length + (1 + value.str.length)) < configMaxLineLength) :
    ∃ e rest, Blank e ∧ nul ∉ e ∧
      fgetsAll (configMaxLineLength - 1) (w ++ (pairLine key.str value.str ++ q)) =
        lineOf w key.str [] [] value.str e :: rest := by
  have hnl : '\n' ∉ w ++ (key.str ++ '=' :: value.str) := by
    rw [List.mem_append, not_or]
    exact ⟨hw, newline_not_mem_pair key value⟩
  have hsplit : w ++ (pairLine key.str value.str ++ q) =
      (w ++ (key.str ++ '=' :: value.str)) ++ '\n' :: q := by
    simp [pairLine]
  have hlength : (w ++ (key.str ++ '=' :: value.str)).length =
      w.length + (key.str.length + (1 + value.str.length)) := by
    simp only [List.length_append, List.length_cons]
    omega
  have hpos : 0 < configMaxLineLength - 1 := by decide
  rw [hsplit]
  by_cases hfull : (w ++ (key.str ++ '=' :: value.str)).length = configMaxLineLength - 1
  · refine ⟨[], fgetsAll (configMaxLineLength - 1) ('\n' :: q), by simp [Blank],
      List.not_mem_nil, ?_⟩
    rw [fgetsAll_full hpos (.inl ⟨hnl, hfull⟩)]
    simp only [lineOf, List.nil_append, List.append_nil]
  · refine ⟨['\n'], fgetsAll (configMaxLineLength - 1) q, by simp [Blank, isspace_newline],
      by decide, ?_⟩
    rw [fgetsAll, fgetsFrom_line hnl (by omega)]
    simp [lineOf]

/-- What `strncpy` leaves of the value for `config_get` to copy. -/
theorem take_readArray (hn : value.length < n)
    (hfits : value.length < configMaxValueLength - 1 ∨
      value.length < configMaxValueLength ∧ n = configMaxValueLength) (junk : CStr) :
    (readArray configMaxValueLength junk value).take (n - 1) = value := by
  unfold readArray
  split_ifs with h
  · exact List.take_of_length_le (by omega)
  · have hlen : value.length = n - 1 := by omega
    rw [← hlen]
    exact List.take_left

/-- **The condition is enough.** -/
theorem ReadsBack.roundTrip {key : ConfigKey} {value : ConfigValue}
    (h : ReadsBack file key value buf n) (hn : value.str.length < n)
    (hbuf : buf.length < configMaxValueLength) : RoundTrip file key value buf n := by
  intro junk junk' _
  have hpos : 0 < configMaxLineLength - 1 := by decide
  obtain ⟨q, hset, -⟩ := configSet_file key value h.keyFits junk file
  obtain ⟨hvlen, -, -⟩ := isValidValue_iff.mp value.valid
  have hget : isValidValue buf = true := isValidValue_iff.mpr ⟨hbuf, h.bufLine⟩
  have hopen : nul ∉ openPart (configMaxLineLength - 1) (keptText key.str file) :=
    fun hm => nul_not_mem_keptText (mem_of_mem_openPart hpos hm)
  obtain ⟨e, rest, he, hne, hpieces⟩ := fgetsAll_pair (q := q) key value
    (fgets_spec hpos (keptText key.str file)).2.1 h.ownLine.2
  rw [hset]
  unfold configGet configLines
  rw [if_neg (by simp [key.valid, hget]; omega)]
  simp only
  rw [fgetsAll_append hpos, hpieces]
  have hnul : nul ∉ lineOf (openPart (configMaxLineLength - 1) (keptText key.str file)) key.str [] []
      value.str e := by
    simp only [lineOf, List.nil_append, List.mem_append, List.mem_cons, not_or]
    exact ⟨hopen, key.noNul, by decide, value.noNul, hne⟩
  have hparse : parseConfigLine (cstr (lineOf
      (openPart (configMaxLineLength - 1) (keptText key.str file)) key.str [] [] value.str e)) =
        some (key.str, value.str) := by
    rw [cstr_of_noNul hnul]
    exact parseConfigLine_iff.mpr ⟨⟨key.valid, value.valid, h.bareKey, h.bareValue⟩,
      _, [], [], e, h.ownLine.1, by simp [Blank], by simp [Blank], he, rfl⟩
  rw [configGetLoop_skip buf n h.keyFits _ _ h.keptLines, configGetLoop_hit h.keyFits hparse,
    take_readArray hn (h.valueFits.imp_right fun hn' => ⟨hvlen, hn'⟩)]

/-! ### The condition is necessary -/

/-- Two ways to cut a text at its first `=` are one. -/
theorem cut_unique {a a' b b' : CStr} (h : a ++ '=' :: b = a' ++ '=' :: b') (ha : '=' ∉ a)
    (ha' : '=' ∉ a') : a = a' ∧ b = b' := by
  obtain ⟨h1, h2⟩ := takeWhile_cut (b := b) ha
  obtain ⟨h3, h4⟩ := takeWhile_cut (b := b') ha'
  rw [h] at h1 h2
  exact ⟨h1.symm.trans h3, h2.symm.trans h4⟩

theorem Bare.of_ne_nil {s : CStr} (h : Bare isspace s) (hs : s ≠ []) :
    ∃ c t, s = c :: t ∧ isspace c = false := by
  cases s with
  | nil => exact absurd rfl hs
  | cons c t => exact ⟨c, t, rfl, h.head c rfl⟩

/-- The first white space of a text is what stands before its bare start. -/
theorem dropWhile_surround {w s t : CStr} (hw : Blank w) (hs : Bare isspace s) (hne : s ≠ []) :
    (w ++ (s ++ t)).dropWhile isspace = s ++ t := by
  obtain ⟨c, r, rfl, hc⟩ := hs.of_ne_nil hne
  rw [List.dropWhile_append_of_pos hw, List.cons_append, List.dropWhile_cons_of_neg (by simp [hc])]

/-- What stands before text that is no white space, in a line whose value goes
on after it, is a valid value once trimmed. -/
theorem isValidValue_trim {b x w2 w w3 : CStr} (hw2 : Blank w2) (hw3 : Blank w3)
    (hw : Bare isspace w) (hv : isValidValue w = true) (hx : ¬ Blank x)
    (h : b ++ x = w2 ++ (w ++ w3)) : isValidValue (trim isspace b) = true := by
  by_cases hb : trim isspace b = []
  · rw [hb]
    decide
  obtain ⟨u, u', hu, hu', hbeq⟩ := exists_surround isspace b
  have hwne : w ≠ [] := by
    rintro rfl
    have hblank : ∀ c ∈ b ++ x, isspace c = true := by
      rw [h]
      exact List.forall_mem_append.mpr ⟨hw2, hw3⟩
    exact hx (List.forall_mem_append.mp hblank).2
  have hcore : trim isspace b ++ (u' ++ x) = w ++ w3 := by
    calc trim isspace b ++ (u' ++ x)
        = (u ++ (trim isspace b ++ (u' ++ x))).dropWhile isspace :=
          (dropWhile_surround hu (bare_trim _ _) hb).symm
      _ = (b ++ x).dropWhile isspace := by
          conv_rhs => rw [hbeq]
          simp only [List.append_assoc]
      _ = (w2 ++ (w ++ w3)).dropWhile isspace := by rw [h]
      _ = w ++ w3 := dropWhile_surround hw2 hw hwne
  obtain ⟨hlen, hnl, hcr⟩ := isValidValue_iff.mp hv
  rcases List.append_eq_append_iff.mp hcore with ⟨t, rfl, -⟩ | ⟨t, -, ht⟩
  · rw [List.length_append] at hlen
    refine isValidValue_iff.mpr ⟨by omega, fun hm => hnl ?_, fun hm => hcr ?_⟩
    · exact List.mem_append_left _ hm
    · exact List.mem_append_left _ hm
  · -- the value would end before `x`, so `x` would be white space
    refine absurd (fun c hc => hw3 c ?_) hx
    rw [ht]
    exact List.mem_append_right _ (List.mem_append_right _ hc)

/-- **A line that the pair is appended to is not read as the pair's key**,
unless it was before or is white space. -/
theorem parseConfigLine_merged {l x w : CStr} (hk : Bare isspace key) (hvalid : isValidKey key = true)
    (hl : ¬ Blank l) (hno : ∀ v, parseConfigLine l ≠ some (key, v)) (hx : ¬ Blank x)
    (hcut : ∀ a b, '=' ∉ a → x = a ++ '=' :: b → a = key) :
    parseConfigLine (l ++ x) ≠ some (key, w) := by
  intro h
  obtain ⟨⟨-, hv, -, hw⟩, w0, w1, w2, w3, hw0, hw1, hw2, hw3, heq⟩ := parseConfigLine_iff.mp h
  have hkeq : '=' ∉ key := fun hm => ((isValidKey_iff.mp hvalid).2.2 _ hm).1 rfl
  have hleft : '=' ∉ w0 ++ (key ++ w1) := by
    simp only [List.mem_append, not_or]
    exact ⟨hw0.not_mem isspace_eq, hkeq, hw1.not_mem isspace_eq⟩
  have heq' : l ++ x = (w0 ++ (key ++ w1)) ++ '=' :: (w2 ++ (w ++ w3)) := by
    rw [heq]
    simp only [lineOf, List.append_assoc]
  by_cases hle : '=' ∈ l
  · -- the key is the one of `l`
    obtain ⟨a, b, rfl, ha⟩ := List.eq_append_cons_of_mem hle
    rw [List.append_assoc, List.cons_append] at heq'
    obtain ⟨rfl, hb⟩ := cut_unique heq' ha hleft
    obtain ⟨u, u', hu, hu', hbeq⟩ := exists_surround isspace b
    refine hno (trim isspace b) (parseConfigLine_iff.mpr ⟨⟨hvalid,
      isValidValue_trim hw2 hw3 hw hv hx hb, hk, bare_trim _ _⟩, w0, w1, u, u', hw0, hw1, hu, hu', ?_⟩)
    rw [lineOf, ← hbeq]
    simp only [List.append_assoc]
  · -- the key is `l` and the key
    have hxe : '=' ∈ x := by
      have : '=' ∈ l ++ x := by
        rw [heq']
        simp
      exact (List.mem_append.mp this).resolve_left hle
    obtain ⟨a, b, hxab, ha⟩ := List.eq_append_cons_of_mem hxe
    obtain rfl := hcut a b ha hxab
    rw [hxab, ← List.append_assoc] at heq'
    have hla : '=' ∉ l ++ a := by
      simp only [List.mem_append, not_or]
      exact ⟨hle, ha⟩
    obtain ⟨hkey, -⟩ := cut_unique heq' hla hleft
    have hne : a ≠ [] := (isValidKey_iff.mp hvalid).1
    have hlne : trim isspace l ≠ [] := fun hnil => hl (trim_eq_nil_iff.mp hnil)
    obtain ⟨u, u', hu, hu', hleq⟩ := exists_surround isspace l
    have hbare : Bare isspace (trim isspace l ++ u' ++ a) := (bare_trim _ _).append hk hlne hne u'
    have htrim : trim isspace (l ++ a) = trim isspace l ++ u' ++ a := by
      conv_lhs => rw [hleq]
      rw [List.append_assoc, trim_append_left hu, hbare.trim]
    rw [hkey, trim_surround hk hw0 hw1] at htrim
    have hlen := congrArg List.length htrim
    simp only [List.length_append] at hlen
    have := List.length_pos_iff.mpr hlne
    omega

/-- The pieces of an open part with the pair appended. -/
theorem mem_fgetsAll_pair {w c : List Char} (key : ConfigKey) (value : ConfigValue) (hw : '\n' ∉ w)
    (hlen : w.length < configMaxLineLength - 1)
    (hc : c ∈ fgetsAll (configMaxLineLength - 1) (w ++ pairLine key.str value.str)) :
    (c = w ++ pairLine key.str value.str ∧
        w.length + (key.str.length + (1 + value.str.length)) < configMaxLineLength) ∨
      ∃ x y, key.str ++ '=' :: value.str = x ++ y ∧
        w.length + x.length = configMaxLineLength - 1 ∧ (c = w ++ x ∨ c = y ++ ['\n']) := by
  have hpos : 0 < configMaxLineLength - 1 := by decide
  have hpair := newline_not_mem_pair key value
  have hplen := length_pair_lt key value
  have htext : w ++ pairLine key.str value.str = (w ++ (key.str ++ '=' :: value.str)) ++ '\n' :: [] := by
    simp [pairLine]
  have hnl : '\n' ∉ w ++ (key.str ++ '=' :: value.str) := by
    rw [List.mem_append, not_or]
    exact ⟨hw, hpair⟩
  by_cases hshort : (w ++ (key.str ++ '=' :: value.str)).length < configMaxLineLength - 1
  · rw [htext, fgetsAll, fgetsFrom_line hnl hshort] at hc
    have hnil : fgetsAll (configMaxLineLength - 1) [] = [] := rfl
    rw [hnil, List.mem_singleton] at hc
    rw [htext]
    simp only [List.length_append, List.length_cons] at hshort
    exact .inl ⟨hc, by omega⟩
  · -- the first piece is full, the rest of the pair is on the second one
    generalize hm : configMaxLineLength - 1 - w.length = m
    have hx : ((key.str ++ '=' :: value.str).take m).length = m := by
      rw [List.length_append] at hshort
      rw [List.length_take]
      omega
    have hfull : FullPiece (configMaxLineLength - 1) (w ++ (key.str ++ '=' :: value.str).take m) := by
      refine .inl ⟨?_, by rw [List.length_append, hx]; omega⟩
      simp only [List.mem_append, not_or] at hnl ⊢
      exact ⟨hw, fun h => hpair (List.mem_of_mem_take h)⟩
    have hsplit : w ++ pairLine key.str value.str =
        (w ++ (key.str ++ '=' :: value.str).take m) ++
          ((key.str ++ '=' :: value.str).drop m ++ '\n' :: []) := by
      rw [List.append_assoc, ← List.append_assoc (List.take m _), List.take_append_drop]
      simp [pairLine]
    have hrest : fgetsAll (configMaxLineLength - 1) ((key.str ++ '=' :: value.str).drop m ++ '\n' :: []) =
        [(key.str ++ '=' :: value.str).drop m ++ ['\n']] := by
      rw [fgetsAll, fgetsFrom_line (fun h => hpair (List.mem_of_mem_drop h))]
      · rfl
      · rw [List.length_drop]
        omega
    rw [hsplit, fgetsAll_full hpos hfull, hrest] at hc
    refine .inr ⟨_, _, (List.take_append_drop m _).symm, by rw [hx]; omega, ?_⟩
    simpa using hc

/-- A successful `config_get` found a piece. -/
theorem configGetLoop_success {v : CStr} (junk : Junk) : ∀ {lines : List (List Char)},
    configGetLoop key buf n (fun _ => junk) lines = (.success, v) →
      ∃ line ∈ lines, ∃ k w, parseConfigLine (cstr line) = some (k, w) ∧
        readArray configMaxKeyLength junk.key k = key ∧
        v = (readArray configMaxValueLength junk.value w).take (n - 1)
  | [], h => by simp [configGetLoop] at h
  | line :: lines, h => by
    have hrec : configGetLoop key buf n (fun _ => junk) lines = (.success, v) →
        ∃ line' ∈ line :: lines, ∃ k w, parseConfigLine (cstr line') = some (k, w) ∧
          readArray configMaxKeyLength junk.key k = key ∧
          v = (readArray configMaxValueLength junk.value w).take (n - 1) := by
      intro h'
      obtain ⟨line', hmem, rest⟩ := configGetLoop_success junk h'
      exact ⟨line', List.mem_cons_of_mem _ hmem, rest⟩
    unfold configGetLoop at h
    cases hparse : parseConfigLine (cstr line) with
    | none =>
      rw [hparse] at h
      exact hrec h
    | some kv =>
      rw [hparse] at h
      simp only at h
      split_ifs at h with hkey
      · exact ⟨line, List.mem_cons_self, kv.1, kv.2, hparse, hkey, (Prod.mk.inj h).2.symm⟩
      · exact hrec h

theorem cstr_configLines (hnul : nul ∉ file.getD []) :
    ∀ line ∈ configLines (file.getD []), cstr line = line := by
  intro line hline
  refine cstr_of_noNul fun hm => hnul ?_
  rw [← flatten_fgetsAll (configMaxLineLength - 1) (file.getD [])]
  exact List.mem_flatten.mpr ⟨line, hline, hm⟩

/-- The text before the pair, in a file without terminators: either the file,
with no piece for the key, or full pieces. -/
theorem keptText_cases (key : CStr) (hnul : nul ∉ file.getD []) :
    (keptText key file = file.getD [] ∧
      ∀ line ∈ configLines (file.getD []), matchesKey key line = false) ∨
    ∃ pre : List (List Char), keptText key file = pre.flatten ∧
      (∀ p ∈ pre, FullPiece (configMaxLineLength - 1) p) ∧ ∀ p ∈ pre, matchesKey key p = false := by
  have hpos : 0 < configMaxLineLength - 1 := by decide
  have hflat : ∀ ls : List (List Char), (∀ l ∈ ls, l ∈ configLines (file.getD [])) →
      ls.flatMap cstr = ls.flatten := by
    intro ls hls
    rw [List.flatMap, List.map_congr_left fun l hl => cstr_configLines hnul l (hls l hl), List.map_id']
  have hpre := List.takeWhile_prefix (fun line => !matchesKey key line) (l := configLines (file.getD []))
  have htext : keptText key file =
      ((configLines (file.getD [])).takeWhile fun line => !matchesKey key line).flatten :=
    hflat _ fun l hl => hpre.subset hl
  have hno : ∀ p ∈ (configLines (file.getD [])).takeWhile (fun line => !matchesKey key line),
      matchesKey key p = false := by
    intro p hp
    simpa using List.mem_takeWhile_imp hp
  obtain ⟨post, hpost⟩ := hpre
  cases post with
  | nil =>
    rw [List.append_nil] at hpost
    refine .inl ⟨?_, hpost ▸ hno⟩
    rw [htext, hpost]
    exact flatten_fgetsAll _ _
  | cons q post => exact .inr ⟨_, htext, fullPiece_of_split hpos hpost.symm, hno⟩

/-- The pieces before the pair, in a file without terminators. -/
theorem kept_pieces (key : CStr) (hnul : nul ∉ file.getD []) :
    (∀ p ∈ fullPieces (configMaxLineLength - 1) (keptText key file), matchesKey key p = false) ∧
      (openPart (configMaxLineLength - 1) (keptText key file) = [] ∨
        ((∀ line ∈ configLines (file.getD []), matchesKey key line = false) ∧
          ∀ v, parseConfigLine (openPart (configMaxLineLength - 1) (keptText key file)) ≠
            some (key, v))) := by
  have hpos : 0 < configMaxLineLength - 1 := by decide
  rcases keptText_cases key hnul with ⟨htext, hno⟩ | ⟨pre, htext, hfull, hno⟩
  · have hlines := fgetsAll_eq hpos (file.getD [])
    rw [htext]
    refine ⟨fun p hp => hno p ?_, ?_⟩
    · rw [configLines, hlines]
      exact List.mem_append_left _ hp
    · by_cases hopen : openPart (configMaxLineLength - 1) (file.getD []) = []
      · exact .inl hopen
      · refine .inr ⟨hno, fun v hv => ?_⟩
        rw [if_neg hopen] at hlines
        have hm := hno (openPart (configMaxLineLength - 1) (file.getD [])) (by
          rw [configLines, hlines]
          simp)
        have hn' : nul ∉ openPart (configMaxLineLength - 1) (file.getD []) :=
          fun h => hnul (mem_of_mem_openPart hpos h)
        unfold matchesKey at hm
        rw [cstr_of_noNul hn', hv] at hm
        simp at hm
  · have hsplit := fullPieces_openPart hpos hfull (l := []) (by simp) (by simpa using hpos)
    rw [List.append_nil] at hsplit
    rw [htext, hsplit.1, hsplit.2]
    exact ⟨hno, .inl rfl⟩

theorem configSet_success (key : ConfigKey) (value : ConfigValue) (junk : ℕ → Junk)
    (file : Option (List Char)) : (configSet junk key.str value.str file).1 = .success := by
  simp [configSet, key.valid, value.valid]

theorem configGet_success {v : CStr} {junk : ℕ → Junk}
    (h : configGet junk key buf n file = (.success, v)) :
    isValidValue buf = true ∧
      ∃ f, file = some f ∧ configGetLoop key buf n junk (configLines f) = (.success, v) := by
  unfold configGet at h
  split_ifs at h with hinvalid
  · simp at h
  · simp only [Bool.or_eq_true, Bool.not_eq_true', not_or, Bool.not_eq_false] at hinvalid
    cases file with
    | none => simp at h
    | some f => exact ⟨hinvalid.1.2, f, rfl, h⟩

/-- Something is read for the key after it was set. -/
def FoundAfterSet (file : Option (List Char)) (key : ConfigKey) (value : ConfigValue) (buf : CStr)
    (n : ℕ) : Prop :=
  ∀ junk junk' : ℕ → Junk, ∃ v,
    configGet junk' key.str buf n (configSet junk key.str value.str file).2 = (.success, v)

theorem RoundTrip.found {key : ConfigKey} {value : ConfigValue} (h : RoundTrip file key value buf n) :
    FoundAfterSet file key value buf n :=
  fun junk junk' => ⟨value.str, h junk junk' (configSet_success key value _ file)⟩

/-- A key that is found again is bare and leaves room for a terminator. -/
theorem FoundAfterSet.key_ok {key : ConfigKey} {value : ConfigValue}
    (h : FoundAfterSet file key value buf n) :
    Bare isspace key.str ∧ key.str.length < configMaxKeyLength - 1 := by
  let junk : Junk := ⟨['x'], []⟩
  obtain ⟨v, hget⟩ := h (fun _ => junk) (fun _ => junk)
  obtain ⟨-, f, -, hloop⟩ := configGet_success hget
  obtain ⟨line, -, k, w, hparse, hk, -⟩ := configGetLoop_success junk hloop
  obtain ⟨⟨-, -, hbare, -⟩, -⟩ := parseConfigLine_iff.mp hparse
  have hlt := (isValidKey_iff.mp key.valid).2.1
  unfold readArray at hk
  split_ifs at hk with hlen
  · exact ⟨hk ▸ hbare, hk ▸ hlen⟩
  · have := congrArg List.length hk
    rw [List.length_append, List.length_singleton] at this
    omega

/-- What is read after the pair was written, once the key is fine. -/
theorem loop_of_found {key : ConfigKey} {value : ConfigValue} {v : CStr} {junk : Junk}
    (hfits : key.str.length < configMaxKeyLength - 1) (hnul : nul ∉ file.getD [])
    (hget : configGet (fun _ => junk) key.str buf n
      (configSet (fun _ => junk) key.str value.str file).2 = (.success, v)) : ∃ q,
      configGetLoop key.str buf n (fun _ => junk) (fgetsAll (configMaxLineLength - 1)
        (openPart (configMaxLineLength - 1) (keptText key.str file) ++
          (pairLine key.str value.str ++ q))) = (.success, v) ∧
      ((∀ line ∈ configLines (file.getD []), matchesKey key.str line = false) → q = []) := by
  obtain ⟨q, hset, hq⟩ := configSet_file key value hfits (fun _ => junk) file
  rw [hset] at hget
  obtain ⟨-, f, hf, hloop⟩ := configGet_success hget
  cases hf
  rw [configLines, fgetsAll_append (by decide),
    configGetLoop_skip buf n hfits _ _ (kept_pieces key.str hnul).1] at hloop
  exact ⟨q, hloop, hq⟩

/-- The pair is on a line of its own. -/
def OwnLine (file : Option (List Char)) (key : ConfigKey) (value : ConfigValue) : Prop :=
  Blank (openPart (configMaxLineLength - 1) (keptText key.str file)) ∧
    (openPart (configMaxLineLength - 1) (keptText key.str file)).length +
      (key.str.length + (1 + value.str.length)) < configMaxLineLength

/-- **What is found after the pair was written**: the pair on a line of its
own, or a text on one of the two pieces `fgets` cuts it into. -/
theorem ownLine_of_found {key : ConfigKey} {value : ConfigValue} {v : CStr}
    (hbare : Bare isspace key.str) (hfits : key.str.length < configMaxKeyLength - 1)
    (hnul : nul ∉ file.getD [])
    (hget : configGet (fun _ => ⟨[], []⟩) key.str buf n
      (configSet (fun _ => ⟨[], []⟩) key.str value.str file).2 = (.success, v)) :
    OwnLine file key value ∨
      ∃ x y w, key.str ++ '=' :: value.str = x ++ y ∧ x ≠ [] ∧ v = w.take (n - 1) ∧
        (Blank (openPart (configMaxLineLength - 1) (keptText key.str file)) ∧
            (openPart (configMaxLineLength - 1) (keptText key.str file)).length + x.length <
              configMaxLineLength ∧ parseConfigLine x = some (key.str, w) ∨
          parseConfigLine y = some (key.str, w)) := by
  obtain ⟨hne, -, hkc⟩ := isValidKey_iff.mp key.valid
  obtain ⟨hvlen, -, -⟩ := isValidValue_iff.mp value.valid
  have hkeq : '=' ∉ key.str := fun hm => (hkc _ hm).1 rfl
  have hpos : 0 < configMaxLineLength - 1 := by decide
  obtain ⟨-, hnl, hlen, -⟩ := fgets_spec hpos (keptText key.str file)
  have hopen : nul ∉ openPart (configMaxLineLength - 1) (keptText key.str file) :=
    fun hm => nul_not_mem_keptText (mem_of_mem_openPart hpos hm)
  obtain ⟨q, hloop, hq⟩ := loop_of_found hfits hnul hget
  obtain ⟨c, hc, k, w, hparse, hk, hv⟩ := configGetLoop_success _ hloop
  obtain rfl := (readArray_key hfits _ _).mp hk
  have hvw : v = w.take (n - 1) := by
    rw [hv]
    simp [readArray]
  unfold OwnLine
  rcases (kept_pieces key.str hnul).2 with hnil | ⟨hno, hnot⟩
  · rw [hnil]
    refine .inl ⟨by simp [Blank], ?_⟩
    have : configMaxKeyLength + configMaxValueLength < configMaxLineLength := by decide
    rw [List.length_nil]
    omega
  generalize openPart (configMaxLineLength - 1) (keptText key.str file) = l at *
  rw [hq hno, List.append_nil] at hc
  have hcnul : cstr c = c := by
    refine cstr_of_noNul fun hm => ?_
    have hmem : nul ∈ l ++ pairLine key.str value.str := by
      rw [← flatten_fgetsAll (configMaxLineLength - 1) (l ++ pairLine key.str value.str)]
      exact List.mem_flatten.mpr ⟨c, hc, hm⟩
    simp only [pairLine, List.mem_append, List.mem_cons, List.not_mem_nil, or_false] at hmem
    rcases hmem with hm | hm | hm | hm | hm
    · exact hopen hm
    · exact key.noNul hm
    · exact absurd hm (by decide)
    · exact value.noNul hm
    · exact absurd hm (by decide)
  rw [hcnul] at hparse
  -- text that starts with the key is no white space, and its first `=` ends the key
  have hstart : ∀ x y : CStr, x ≠ [] → key.str ++ '=' :: y = x ∨
      (∃ z, key.str ++ '=' :: y = x ++ z) → ¬ Blank x := by
    intro x y hx hxy hblank
    obtain ⟨d, t, hd, hsp⟩ := hbare.of_ne_nil hne
    obtain ⟨e, x, rfl⟩ := List.exists_cons_of_ne_nil hx
    have hde : d = e := by
      rcases hxy with heq | ⟨z, heq⟩
      · rw [hd] at heq
        exact (List.cons.inj heq).1
      · rw [hd] at heq
        exact (List.cons.inj heq).1
    have := hblank e List.mem_cons_self
    rw [← hde, hsp] at this
    exact Bool.noConfusion this
  rcases mem_fgetsAll_pair key value hnl hlen hc with ⟨rfl, hshort⟩ | ⟨x, y, hxy, hxl, hcxy⟩
  · refine .inl ⟨?_, hshort⟩
    by_contra hblank
    refine parseConfigLine_merged hbare key.valid hblank hnot ?_ ?_ hparse
    · exact hstart _ _ (by simp [pairLine]) (.inl rfl)
    · intro a b ha hab
      exact (cut_unique hab hkeq ha).1.symm
  · have hxne : x ≠ [] := by
      rintro rfl
      rw [List.length_nil] at hxl
      omega
    refine .inr ⟨x, y, w, hxy, hxne, hvw, ?_⟩
    rcases hcxy with rfl | rfl
    · by_cases hblank : Blank l
      · refine .inl ⟨hblank, by omega, ?_⟩
        rw [← hparse]
        refine parseConfigLine_congr ?_
        rw [trimWhitespace, trimWhitespace, trim_append_left hblank]
      · refine absurd hparse (parseConfigLine_merged hbare key.valid hblank hnot ?_ ?_)
        · exact hstart x value.str hxne (.inr ⟨y, hxy⟩)
        · intro a b ha hab
          rw [hab, List.append_assoc, List.cons_append] at hxy
          exact (cut_unique hxy hkeq ha).1.symm
    · refine .inr ?_
      rw [← hparse]
      refine parseConfigLine_congr ?_
      rw [trimWhitespace, trimWhitespace,
        trim_append_right (by simp [isspace_newline] : ∀ c ∈ ['\n'], isspace c = true)]

/-- The pair is on a line of its own, if it is read back. -/
theorem RoundTrip.ownLine {key : ConfigKey} {value : ConfigValue}
    (h : RoundTrip file key value buf n) (hnul : nul ∉ file.getD []) : OwnLine file key value := by
  obtain ⟨hbare, hfits⟩ := h.found.key_ok
  have hget := h (fun _ => ⟨[], []⟩) (fun _ => ⟨[], []⟩) (configSet_success key value _ file)
  rcases ownLine_of_found hbare hfits hnul hget with hown | ⟨x, y, w, hxy, hxne, hvw, hparse⟩
  · exact hown
  have hlen := congrArg List.length hxy
  have hwlen := congrArg List.length hvw
  rw [List.length_take] at hwlen
  simp only [List.length_append, List.length_cons] at hlen
  have hxpos := List.length_pos_iff.mpr hxne
  have hpair : ∀ s, parseConfigLine s = some (key.str, w) → key.str.length + (1 + w.length) ≤ s.length :=
    fun s hs => length_of_parse [] s [] (by simp [Blank]) (by simp [Blank]) (by simpa using hs)
  rcases hparse with ⟨hblank, hroom, hx⟩ | hy
  · have := hpair x hx
    exact ⟨hblank, by omega⟩
  · have := hpair y hy
    omega

/-- The value is bare and leaves room for a terminator, if it is read back. -/
theorem RoundTrip.value_ok {key : ConfigKey} {value : ConfigValue}
    (h : RoundTrip file key value buf n) (hnul : nul ∉ file.getD []) (hn : value.str.length < n) :
    Bare isspace value.str ∧
      (value.str.length < configMaxValueLength - 1 ∨ n = configMaxValueLength) := by
  obtain ⟨hbare, hfits⟩ := h.found.key_ok
  obtain ⟨hblank, hroom⟩ := h.ownLine hnul
  have hpos : 0 < configMaxLineLength - 1 := by decide
  obtain ⟨hvlen, hvn, hvr⟩ := isValidValue_iff.mp value.valid
  obtain ⟨u, u', hu, hu', hvalue⟩ := exists_surround isspace value.str
  have hmem : ∀ c ∈ trim isspace value.str, c ∈ value.str := by
    intro c hc
    rw [hvalue]
    exact List.mem_append_right _ (List.mem_append_left _ hc)
  have hvalid : isValidValue (trim isspace value.str) = true :=
    isValidValue_iff.mpr ⟨(length_trim_le _ _).trans_lt hvlen, fun hm => hvn (hmem _ hm),
      fun hm => hvr (hmem _ hm)⟩
  have hopen : nul ∉ openPart (configMaxLineLength - 1) (keptText key.str file) :=
    fun hm => nul_not_mem_keptText (mem_of_mem_openPart hpos hm)
  -- the pair's piece parses to the trimmed value
  have hread : ∀ junk, value.str =
      (readArray configMaxValueLength junk (trim isspace value.str)).take (n - 1) := by
    intro junk
    obtain ⟨q, hloop, -⟩ := loop_of_found hfits hnul
      (h (fun _ => ⟨[], junk⟩) (fun _ => ⟨[], junk⟩) (configSet_success key value _ file))
    obtain ⟨e, rest, he, hne, hpieces⟩ :=
      fgetsAll_pair (q := q) key value (fgets_spec hpos (keptText key.str file)).2.1 hroom
    rw [hpieces] at hloop
    have hcnul : nul ∉ lineOf (openPart (configMaxLineLength - 1) (keptText key.str file)) key.str
        [] [] value.str e := by
      simp only [lineOf, List.nil_append, List.mem_append, List.mem_cons, not_or]
      exact ⟨hopen, key.noNul, by decide, value.noNul, hne⟩
    have hparse : parseConfigLine (cstr (lineOf
        (openPart (configMaxLineLength - 1) (keptText key.str file)) key.str [] [] value.str e)) =
          some (key.str, trim isspace value.str) := by
      rw [cstr_of_noNul hcnul]
      refine parseConfigLine_iff.mpr ⟨⟨key.valid, hvalid, hbare, bare_trim _ _⟩, _, [], u, u' ++ e,
        hblank, by simp [Blank], hu, List.forall_mem_append.mpr ⟨hu', he⟩, ?_⟩
      simp only [lineOf, List.nil_append]
      conv_lhs => rw [hvalue]
      simp only [List.append_assoc]
    rw [configGetLoop_hit hfits hparse] at hloop
    exact (Prod.mk.inj hloop).2.symm
  have hbarev : trim isspace value.str = value.str := by
    have hlen := congrArg List.length (hread [])
    have hjunk : readArray configMaxValueLength [] (trim isspace value.str) =
        trim isspace value.str := by simp [readArray]
    rw [hjunk, List.length_take] at hlen
    have hsum := congrArg List.length hvalue
    simp only [List.length_append] at hsum
    have h0 : u = [] := List.length_eq_zero_iff.mp (by omega)
    have h0' : u' = [] := List.length_eq_zero_iff.mp (by omega)
    rw [h0, h0', List.append_nil, List.nil_append] at hvalue
    exact hvalue.symm
  refine ⟨trim_eq_self_iff.mp hbarev, ?_⟩
  by_cases hlt : value.str.length < configMaxValueLength - 1
  · exact .inl hlt
  · -- a byte behind the value is copied, unless the buffer ends there
    have hlen := congrArg List.length (hread ['x'])
    rw [hbarev, readArray, if_neg hlt, List.length_take, List.length_append,
      List.length_singleton] at hlen
    exact .inr (by omega)

/-- **The pair is read back under the condition**, and in a file without
terminators only then. -/
theorem configGet_configSet_iff (file : Option (List Char)) (key : ConfigKey) (value : ConfigValue)
    (buf : CStr) (n : ℕ) (hn : value.str.length < n) (hbuf : buf.length < configMaxValueLength) :
    (ReadsBack file key value buf n → RoundTrip file key value buf n) ∧
      (nul ∉ file.getD [] → RoundTrip file key value buf n → ReadsBack file key value buf n) := by
  refine ⟨fun h => h.roundTrip hn hbuf, fun hnul h => ?_⟩
  obtain ⟨hbare, hfits⟩ := h.found.key_ok
  obtain ⟨hbarev, hfitsv⟩ := h.value_ok hnul hn
  have hget := h (fun _ => ⟨[], []⟩) (fun _ => ⟨[], []⟩) (configSet_success key value _ file)
  obtain ⟨hvalid, -⟩ := configGet_success hget
  exact ⟨hbare, hfits, hbarev, hfitsv, (isValidValue_iff.mp hvalid).2, (kept_pieces key.str hnul).1,
    h.ownLine hnul⟩

/-- The key `CHANNEL`. -/
def channelKey : ConfigKey := ⟨"CHANNEL".toList, by decide, by decide⟩

/-- The value `11`. -/
def channelValue : ConfigValue := ⟨"11".toList, by decide, by decide⟩

/-- A file with a comment, another key and the key. -/
def channelFile : Option (List Char) := some "# radio\nBW = 20\nCHANNEL=3".toList

/-- `CHANNEL=11` is read back from `channelFile`. -/
theorem configGet_configSet_channel : RoundTrip channelFile channelKey channelValue [] 8 :=
  (configGet_configSet_iff channelFile channelKey channelValue [] 8 (by decide) (by decide)).1
    ⟨⟨by decide, by decide⟩, by decide, ⟨by decide, by decide⟩, by decide, by decide, by decide,
      by decide⟩

/-- After a last line without newline the pair is lost. -/
theorem configGet_configSet_no_newline :
    (configSet (fun _ => ⟨[], []⟩) channelKey.str channelValue.str (some "BW=20".toList)).2 =
        some "BW=20CHANNEL=11\n".toList ∧
      ¬ RoundTrip (some "BW=20".toList) channelKey channelValue [] 8 := by
  refine ⟨by decide, fun h => ?_⟩
  have hget := h (fun _ => ⟨[], []⟩) (fun _ => ⟨[], []⟩) (by decide)
  revert hget
  decide

end WtslCore
