/-
# Reads of the configuration and the buffer they go to

`config_get` checks the old content of the caller's buffer as if it were a
value to be written, so two buffers give the same read exactly if both pass
that check or neither does (`sameRead_iff`), and `config_get_int`, whose
buffer is not set, has no result of its own for any valid key
(`configGet_buffer_iff`).

`config_get_int` takes every text that is a decimal integer, also one beyond
`int`, where the number is clamped to `long` and cut to 32 bits
(`readsInteger_iff`). An `int` that was set is read back where its text is
(`intRoundTrip_iff`): a read that finds part of the text finds another number.

Key definitions: `SameRead`, `configGetIntOf`, `fileText`, `ReadsInteger`,
`IntRoundTrip`.
Key theorems: `sameRead_iff`, `configGet_buffer_iff`, `readsInteger_iff`,
`intRoundTrip_iff`, `configGetInt_integers`.
-/
import WtslCore.Lib.Strtol
import WtslCore.Utils.CfgStore

namespace WtslCore

/-- The same status, and on success the same value. -/
def SameRead (r r' : ConfigResult × CStr) : Prop := r.1 = r'.1 ∧ (r.1 = .success → r.2 = r'.2)

/-- `config_get_int` with a `long` of the size. -/
def configGetIntOf (size : LongSize) (stack : GetStack) (key : CStr) (value : Int32)
    (file : Option (List Char)) : ConfigResult × Int32 :=
  match configGet stack.junk key stack.strValue configMaxValueLength file with
  | (.success, s) =>
    match strtolOf size s with
    | some (num, []) => (.success, Int32.ofInt num)
    | _ => (.errorFormat, value)
  | (r, _) => (r, value)

/-- The value text the file has for the key. -/
def fileText (junk : ℕ → Junk) (key : CStr) (file : Option (List Char)) : Option CStr :=
  (lookupValue key junk (configLines (file.getD []))).map (List.take (configMaxValueLength - 1))

/-- The `int` a text stands for. -/
def intOf (w : CStr) : Option Int32 :=
  (decimalValue w).bind fun n => if InInt n then some (Int32.ofInt n) else none

/-- What `config_get_int` is to make of a stored text. -/
structure ReadsInteger (w : CStr) (value : Int32) (r : ConfigResult × Int32) : Prop where
  success : r.1 = .success ↔ (intOf w).isSome = true
  value : r.2 = (intOf w).getD value

/-- The number is read back after it was set, whatever the rest of the stack holds. -/
def IntRoundTrip (size : LongSize) (file : Option (List Char)) (key : ConfigKey) (n : Int32)
    (buf : CStr) : Prop :=
  ∀ (junk junk' : ℕ → Junk) (old : Int32),
    configGetIntOf size ⟨buf, junk'⟩ key.str old (configSetInt junk key.str n file).2 = (.success, n)

variable {key buf buf' w : CStr} {file : Option (List Char)} {size : LongSize}

/-! ### The buffer -/

/-- `config_get` after its check of the parameters. -/
theorem configGet_valid {n : ℕ} (hk : isValidKey key = true) (hbuf : isValidValue buf = true)
    (hn : n ≠ 0) (junk : ℕ → Junk) : configGet junk key buf n file =
      match lookupValue key junk (configLines (file.getD [])) with
      | some v => (.success, v.take (n - 1))
      | none => (.errorNotFound, buf) := by
  have hparams : ¬ (!isValidKey key || !isValidValue buf || n = 0) = true := by
    simp [hk, hbuf, hn]
  cases hlook : lookupValue key junk (configLines (file.getD [])) with
  | none => simp only [configGet_eq, if_neg hparams, configGetLoop_eq, hlook]
  | some v => simp only [configGet_eq, if_neg hparams, configGetLoop_eq, hlook]

theorem configGet_rejected {n : ℕ} (h : isValidKey key = false ∨ n = 0 ∨ isValidValue buf = false)
    (junk : ℕ → Junk) : configGet junk key buf n file = (.errorInvalidParam, buf) := by
  unfold configGet
  rw [if_pos]
  rcases h with h | h | h
  · simp [h]
  · simp [h]
  · simp [h]

theorem configGet_status_ne {n : ℕ} (hk : isValidKey key = true) (hbuf : isValidValue buf = true)
    (hn : n ≠ 0) (junk : ℕ → Junk) : (configGet junk key buf n file).1 ≠ .errorInvalidParam := by
  rw [configGet_valid hk hbuf hn]
  split
  · exact nofun
  · exact nofun

/-- **Two buffers give the same read** exactly if both pass the check of a
value or neither does, or nothing is looked up at all. -/
theorem sameRead_iff (junk : ℕ → Junk) (key buf buf' : CStr) (n : ℕ) (file : Option (List Char)) :
    SameRead (configGet junk key buf n file) (configGet junk key buf' n file) ↔
      isValidKey key = false ∨ n = 0 ∨ isValidValue buf = isValidValue buf' := by
  by_cases hreject : isValidKey key = false ∨ n = 0
  · have hall : ∀ b, configGet junk key b n file = (.errorInvalidParam, b) :=
      fun b => configGet_rejected (hreject.imp_right .inl) junk
    rw [hall, hall, ← or_assoc]
    exact iff_of_true ⟨rfl, nofun⟩ (.inl hreject)
  rw [not_or, Bool.not_eq_false] at hreject
  obtain ⟨hk, hn⟩ := hreject
  rw [or_iff_right (by simp [hk]), or_iff_right hn]
  have hne : ∀ b, isValidValue b = true → (configGet junk key b n file).1 ≠ .errorInvalidParam :=
    fun b hb => configGet_status_ne hk hb hn junk
  have hrej : ∀ b, isValidValue b = false → configGet junk key b n file = (.errorInvalidParam, b) :=
    fun b hb => configGet_rejected (.inr (.inr hb)) junk
  cases hb : isValidValue buf with
  | false =>
    cases hb' : isValidValue buf' with
    | false =>
      rw [hrej _ hb, hrej _ hb']
      exact iff_of_true ⟨rfl, nofun⟩ rfl
    | true =>
      refine iff_of_false (fun h => hne _ hb' ?_) nofun
      rw [← h.1, hrej _ hb]
  | true =>
    cases hb' : isValidValue buf' with
    | false =>
      refine iff_of_false (fun h => hne _ hb ?_) nofun
      rw [h.1, hrej _ hb']
    | true =>
      refine iff_of_true ?_ rfl
      rw [configGet_valid hk hb hn, configGet_valid hk hb' hn]
      split
      · exact ⟨rfl, fun _ => rfl⟩
      · exact ⟨rfl, nofun⟩

theorem configGetIntOf_rejected (h : isValidKey key = false ∨ isValidValue buf = false)
    (junk : ℕ → Junk) (value : Int32) :
    configGetIntOf size ⟨buf, junk⟩ key value file = (.errorInvalidParam, value) := by
  unfold configGetIntOf
  rw [configGet_rejected (h.imp_right .inr)]

theorem configGetIntOf_valid {stack : GetStack} (hk : isValidKey key = true)
    (hbuf : isValidValue stack.strValue = true) (value : Int32) :
    configGetIntOf size stack key value file =
      match fileText stack.junk key file with
      | some s =>
        match strtolOf size s with
        | some (num, []) => (.success, Int32.ofInt num)
        | _ => (.errorFormat, value)
      | none => (.errorNotFound, value) := by
  unfold configGetIntOf fileText
  rw [configGet_valid hk hbuf (by decide)]
  cases lookupValue key stack.junk (configLines (file.getD [])) with
  | none => rfl
  | some v => rfl

/-- The number read depends on the unset buffer, unless the key is refused. -/
theorem configGetIntOf_determined_iff (size : LongSize) (key : CStr) (file : Option (List Char)) :
    (∀ (stack stack' : GetStack) (value : Int32),
      configGetIntOf size stack key value file = configGetIntOf size stack' key value file) ↔
        isValidKey key = false := by
  constructor
  · intro h
    by_contra hk
    rw [Bool.not_eq_false] at hk
    have heq := h ⟨[], fun _ => ⟨[], []⟩⟩ ⟨['\n'], fun _ => ⟨[], []⟩⟩ 0
    have hnewline : isValidValue ['\n'] = false := by decide
    rw [configGetIntOf_rejected (.inr hnewline),
      configGetIntOf_valid hk (by decide)] at heq
    split at heq
    · split at heq
      · exact nomatch heq
      · exact nomatch heq
    · exact nomatch heq
  · intro hk stack stack' value
    exact (configGetIntOf_rejected (.inl hk) _ _).trans (configGetIntOf_rejected (.inl hk) _ _).symm

/-- **A read and the buffer it goes to**: the reads of `config_get` agree
exactly for buffers the check of a value does not tell apart, and
`config_get_int` has a result of its own only for keys it refuses. -/
theorem configGet_buffer_iff (size : LongSize) (key : CStr) (file : Option (List Char)) :
    (∀ (junk : ℕ → Junk) (buf buf' : CStr) (n : ℕ),
      SameRead (configGet junk key buf n file) (configGet junk key buf' n file) ↔
        isValidKey key = false ∨ n = 0 ∨ isValidValue buf = isValidValue buf') ∧
    ((∀ (stack stack' : GetStack) (value : Int32),
      configGetIntOf size stack key value file = configGetIntOf size stack' key value file) ↔
        isValidKey key = false) :=
  ⟨fun junk buf buf' n => sameRead_iff junk key buf buf' n file,
    configGetIntOf_determined_iff size key file⟩

/-- A newline in the buffer refuses a read that an empty buffer gets. -/
theorem configGet_buffer_newline :
    ¬ SameRead (configGet (fun _ => ⟨[], []⟩) "CHANNEL".toList [] 8 (some "CHANNEL=11".toList))
        (configGet (fun _ => ⟨[], []⟩) "CHANNEL".toList ['\n'] 8 (some "CHANNEL=11".toList)) ∧
      configGetInt ⟨[], fun _ => ⟨[], []⟩⟩ "CHANNEL".toList 3 (some "CHANNEL=11".toList) ≠
        configGetInt ⟨['\n'], fun _ => ⟨[], []⟩⟩ "CHANNEL".toList 3 (some "CHANNEL=11".toList) := by
  refine ⟨fun h => ?_, ?_⟩
  · exact absurd h.1 (by decide)
  · decide

/-! ### The stored texts -/

/-- **With 32 bits it is `config_get_int`** of the target. -/
theorem configGetIntOf_bits32 (stack : GetStack) (key : CStr) (value : Int32)
    (file : Option (List Char)) :
    configGetIntOf .bits32 stack key value file = configGetInt stack key value file := by
  unfold configGetIntOf configGetInt
  obtain ⟨r, s⟩ := configGet stack.junk key stack.strValue configMaxValueLength file
  cases r with
  | success =>
    rcases hnum : strtol s with _ | ⟨num, _ | ⟨c, rest⟩⟩
    · simp only [strtolOf_bits32, hnum]
    · simp only [strtolOf_bits32, hnum]
    · simp only [strtolOf_bits32, hnum]
  | errorNotFound => rfl
  | errorInvalidParam => rfl
  | errorIo => rfl
  | errorFormat => rfl

/-- What a line holds for a key is a bare text, and what the arrays cut from it too. -/
theorem bare_of_hitValue {junk : Junk} {line : List Char} {v : CStr} (h : hitValue key junk line = some v) :
    Bare isspace (v.take (configMaxValueLength - 1)) := by
  unfold hitValue at h
  cases hparse : parseConfigLine (cstr line) with
  | none =>
    rw [hparse] at h
    exact nomatch h
  | some kv =>
    obtain ⟨k, u⟩ := kv
    rw [hparse] at h
    simp only at h
    split_ifs at h
    obtain ⟨⟨-, hvalid, -, hbare⟩, -⟩ := parseConfigLine_iff.mp hparse
    have hlen := (isValidValue_iff.mp hvalid).1
    rw [← Option.some.inj h, take_readArray_of_le hlen le_rfl,
      List.take_of_length_le (Nat.le_sub_one_of_lt hlen)]
    exact hbare

theorem bare_of_lookupValue : ∀ {lines : List (List Char)} {junk : ℕ → Junk} {v : CStr},
    lookupValue key junk lines = some v → Bare isspace (v.take (configMaxValueLength - 1))
  | line :: lines, junk, v, h => by
    rw [lookupValue, Option.or_eq_some_iff] at h
    rcases h with hhit | ⟨-, hrest⟩
    · exact bare_of_hitValue hhit
    · exact bare_of_lookupValue hrest

theorem bare_fileText {junk : ℕ → Junk} (h : fileText junk key file = some w) : Bare isspace w := by
  obtain ⟨v, hv, rfl⟩ := Option.map_eq_some_iff.mp h
  exact bare_of_lookupValue hv

theorem intOf_of_inInt {n : ℤ} (hn : decimalValue w = some n) (hint : InInt n) :
    intOf w = some (Int32.ofInt n) := by
  rw [intOf, hn, Option.bind_some, if_pos hint]

theorem intOf_eq_none (h : ∀ n, decimalValue w = some n → ¬ InInt n) : intOf w = none := by
  unfold intOf
  cases hn : decimalValue w with
  | none => rfl
  | some n => exact if_neg (h n hn)

theorem intOf_isSome_iff : (intOf w).isSome = true ↔ ∃ n, decimalValue w = some n ∧ InInt n := by
  unfold intOf
  cases decimalValue w with
  | none => simp
  | some n => by_cases hn : InInt n <;> simp [hn]

/-- What `config_get_int` makes of a bare text that it got. -/
theorem strtolOf_cases (hw : Bare isspace w) (value : Int32) :
    (match strtolOf size w with
      | some (num, []) => ((.success, Int32.ofInt num) : ConfigResult × Int32)
      | _ => (.errorFormat, value)) =
      match decimalValue w with
      | some n => (.success, Int32.ofInt (size.saturate n))
      | none => (.errorFormat, value) := by
  have hwhole : ∀ m, strtolOf size w = some (m, []) ↔
      ∃ n, decimalValue w = some n ∧ m = size.saturate n := fun m => strtolOf_of_bare hw
  cases hdec : decimalValue w with
  | some n => rw [(hwhole _).mpr ⟨n, hdec, rfl⟩]
  | none =>
    split
    · rename_i num heq
      obtain ⟨n, hn, -⟩ := (hwhole num).mp heq
      rw [hdec] at hn
      exact nomatch hn
    · rfl

/-- **A stored text is read as it should be** exactly if it is no integer, or
one within `int` that the unset buffer lets through, or one beyond it that the
buffer happens to refuse. -/
theorem readsInteger_iff (size : LongSize) (stack : GetStack) (file : Option (List Char))
    (value : Int32) (hk : isValidKey key = true) (hw : fileText stack.junk key file = some w) :
    ReadsInteger w value (configGetIntOf size stack key value file) ↔
      ∀ n, decimalValue w = some n → (isValidValue stack.strValue = true ↔ InInt n) := by
  cases hbuf : isValidValue stack.strValue with
  | false =>
    rw [configGetIntOf_rejected (.inr hbuf)]
    constructor
    · intro h n hn
      refine iff_of_false nofun fun hint => ?_
      exact nomatch h.success.mpr (intOf_isSome_iff.mpr ⟨n, hn, hint⟩)
    · intro h
      have hnone : intOf w = none := intOf_eq_none fun n hn hint => nomatch (h n hn).mpr hint
      exact ⟨by simp [hnone], by simp [hnone]⟩
  | true =>
    rw [configGetIntOf_valid hk hbuf, hw]
    simp only [strtolOf_cases (bare_fileText hw)]
    cases hdec : decimalValue w with
    | none =>
      have hnone : intOf w = none := intOf_eq_none fun n hn => by
        rw [hdec] at hn
        exact nomatch hn
      exact iff_of_true ⟨by simp [hnone], by simp [hnone]⟩ nofun
    | some n =>
      constructor
      · rintro h m hm
        cases hm
        refine iff_of_true trivial ?_
        obtain ⟨m, hm, hint⟩ := intOf_isSome_iff.mp (h.success.mp rfl)
        rw [hdec] at hm
        exact Option.some.inj hm ▸ hint
      · intro h
        have hint := (h n rfl).mp trivial
        have hval := intOf_of_inInt hdec hint
        refine ⟨by simp [hval], ?_⟩
        show Int32.ofInt (size.saturate n) = (intOf w).getD value
        rw [hval, LongSize.saturate_of_inInt hint, Option.getD_some]

/-! ### Set and read back -/

/-- The number a successful read got from a text. -/
theorem configGetIntOf_success {stack : GetStack} {value n : Int32}
    (h : configGetIntOf size stack key value file = (.success, n)) :
    ∃ s m, configGet stack.junk key stack.strValue configMaxValueLength file = (.success, s) ∧
      strtolOf size s = some (m, []) ∧ Int32.ofInt m = n := by
  unfold configGetIntOf at h
  split at h
  · rename_i s hget
    split at h
    · rename_i num hnum
      exact ⟨s, num, hget, hnum, (Prod.mk.inj h).2⟩
    · exact nomatch (Prod.mk.inj h).1
  · rename_i r s hne hget
    obtain ⟨rfl, -⟩ := Prod.mk.inj h
    exact absurd rfl hne

/-- The characters of an `int` are neither white space nor `=`. -/
theorem intText_chars {n : ℤ} {c : Char} (h : c ∈ intText n) : isspace c = false ∧ c ≠ '=' := by
  rcases mem_intText h with rfl | hdigit
  · decide
  · refine ⟨(digit_ne hdigit).1, ?_⟩
    rintro rfl
    exact absurd hdigit (by decide)

theorem bare_of_intText_part {n : ℤ} {p x y : CStr} (h : intText n = x ++ (p ++ y)) :
    Bare isspace p := by
  have hchars : ∀ c ∈ p, isspace c = false := by
    intro c hc
    refine (intText_chars (n := n) ?_).1
    rw [h]
    exact List.mem_append_right _ (List.mem_append_left _ hc)
  exact ⟨fun c hc => hchars c (List.mem_of_mem_head? hc),
    fun c hc => hchars c (List.mem_of_mem_getLast? hc)⟩

/-- The blanks around a key have no `=` either. -/
theorem eq_notMem_padded {w0 w1 : CStr} (hk : '=' ∉ key) (hw0 : Blank w0) (hw1 : Blank w1) :
    '=' ∉ w0 ++ (key ++ w1) := by
  simp only [List.mem_append, not_or]
  exact ⟨hw0.not_mem isspace_eq, hk, hw1.not_mem isspace_eq⟩

/-- The start of the pair that reaches into its value parses to what it has of the value. -/
theorem parse_pair_start {n : Int32} {x y w : CStr} (hk : '=' ∉ key)
    (hxy : key ++ '=' :: intText n.toInt = x ++ y) (hparse : parseConfigLine x = some (key, w)) :
    intText n.toInt = w ++ y := by
  obtain ⟨-, w0, w1, w2, w3, hw0, hw1, hw2, hw3, rfl⟩ := parseConfigLine_iff.mp hparse
  have hleft := eq_notMem_padded hk hw0 hw1
  have hcut : key ++ '=' :: intText n.toInt =
      (w0 ++ (key ++ w1)) ++ '=' :: (w2 ++ (w ++ w3) ++ y) := by
    rw [hxy, lineOf]
    simp only [List.append_assoc, List.cons_append]
  obtain ⟨-, htext⟩ := cut_unique hcut hk hleft
  have hblank : ∀ b, Blank b → (∀ c ∈ b, c ∈ intText n.toInt) → b = [] := by
    intro b hb hsub
    refine List.eq_nil_iff_forall_not_mem.mpr fun c hc => ?_
    have := hb c hc
    rw [(intText_chars (hsub c hc)).1] at this
    exact Bool.noConfusion this
  have h2 : w2 = [] := hblank w2 hw2 fun c hc => by
    rw [htext]
    simp [hc]
  have h3 : w3 = [] := hblank w3 hw3 fun c hc => by
    rw [htext]
    simp [hc]
  rw [htext, h2, h3, List.nil_append, List.append_nil]

/-- The end of the pair, behind its first character, does not parse to the key. -/
theorem parse_pair_end {n : Int32} {x y w : CStr} (hk : '=' ∉ key) (hx : x ≠ [])
    (hxy : key ++ '=' :: intText n.toInt = x ++ y) : parseConfigLine y ≠ some (key, w) := by
  intro hparse
  obtain ⟨-, w0, w1, w2, w3, hw0, hw1, -, -, rfl⟩ := parseConfigLine_iff.mp hparse
  have hleft := eq_notMem_padded hk hw0 hw1
  have hcut : key ++ '=' :: intText n.toInt =
      (x ++ (w0 ++ (key ++ w1))) ++ '=' :: (w2 ++ (w ++ w3)) := by
    rw [hxy, lineOf]
    simp only [List.append_assoc]
  by_cases hxeq : '=' ∈ x
  · -- then there is a second `=`, in the number
    obtain ⟨a, b, rfl, ha⟩ := List.eq_append_cons_of_mem hxeq
    have hcut' : key ++ '=' :: intText n.toInt =
        a ++ '=' :: (b ++ (w0 ++ (key ++ w1)) ++ '=' :: (w2 ++ (w ++ w3))) := by
      rw [hcut]
      simp only [List.append_assoc, List.cons_append]
    obtain ⟨-, htext⟩ := cut_unique hcut' hk ha
    refine (intText_chars (n := n.toInt) (c := '=') ?_).2 rfl
    rw [htext]
    simp
  · have hall : '=' ∉ x ++ (w0 ++ (key ++ w1)) := by
      rw [List.mem_append, not_or]
      exact ⟨hxeq, hleft⟩
    obtain ⟨hkey, -⟩ := cut_unique hcut hk hall
    have hlen := congrArg List.length hkey
    have hpos := List.length_pos_iff.mpr hx
    simp only [List.length_append] at hlen
    omega

/-- The texts that are found of a number are part of it, if it is not on a line of its own. -/
theorem part_of_found {key : ConfigKey} {n : Int32} {s : CStr} (hbare : Bare isspace key.str)
    (hfits : key.str.length < configMaxKeyLength - 1) (hnul : nul ∉ file.getD [])
    (hget : configGet (fun _ => ⟨[], []⟩) key.str buf configMaxValueLength
      (configSet (fun _ => ⟨[], []⟩) key.str (intValue n).str file).2 = (.success, s)) :
    OwnLine file key (intValue n) ∨ ∃ y, intText n.toInt = s ++ y ∧ y ≠ [] := by
  have hkeq : '=' ∉ key.str := fun hm => ((isValidKey_iff.mp key.valid).2.2 _ hm).1 rfl
  rcases ownLine_of_found hbare hfits hnul hget with hown | ⟨x, y, w, hxy, hx, hsw, hparse⟩
  · exact .inl hown
  rcases hparse with ⟨hblank, hroom, hparse⟩ | hparse
  · by_cases hy : y = []
    · -- the pair is on one piece after all
      rw [hy, List.append_nil] at hxy
      have hlen := congrArg List.length hxy
      rw [List.length_append, List.length_cons] at hlen
      refine .inl ⟨hblank, ?_⟩
      rw [← hlen, Nat.add_comm _ 1] at hroom
      exact hroom
    · have hwlen := (isValidValue_iff.mp (parseConfigLine_iff.mp hparse).1.2.1).1
      rw [List.take_of_length_le (Nat.le_sub_one_of_lt hwlen)] at hsw
      exact .inr ⟨y, hsw ▸ parse_pair_start hkeq hxy hparse, hy⟩
  · exact absurd hparse (parse_pair_end hkeq hx hxy)

/-- **A number that is read back has its pair on a line of its own.** -/
theorem IntRoundTrip.ownLine {key : ConfigKey} {n : Int32}
    (h : IntRoundTrip size file key n buf) (hnul : nul ∉ file.getD []) :
    (Bare isspace key.str ∧ key.str.length < configMaxKeyLength - 1) ∧
      OwnLine file key (intValue n) := by
  have hfound : FoundAfterSet file key (intValue n) buf configMaxValueLength := by
    intro junk junk'
    obtain ⟨s, -, hget, -, -⟩ := configGetIntOf_success (h junk junk' 0)
    exact ⟨s, hget⟩
  obtain ⟨hbare, hfits⟩ := hfound.key_ok
  refine ⟨⟨hbare, hfits⟩, ?_⟩
  obtain ⟨s, m, hget, hnum, hm⟩ := configGetIntOf_success (h (fun _ => ⟨[], []⟩) (fun _ => ⟨[], []⟩) 0)
  rcases part_of_found hbare hfits hnul hget with hown | ⟨y, htext, hy⟩
  · exact hown
  · -- the number of a part is another one
    have hsbare : Bare isspace s := bare_of_intText_part (x := []) htext
    obtain ⟨a, hdec, rfl⟩ := (strtolOf_of_bare hsbare).mp hnum
    obtain ⟨hne, hint⟩ := decimalValue_prefix_ne htext hy hdec
    rw [LongSize.saturate_of_inInt hint] at hm
    refine absurd ?_ hne
    rw [← hm, toInt_ofInt_of_inInt hint]

theorem length_intValue_lt (n : Int32) : (intValue n).str.length < configMaxValueLength :=
  (length_intText_le n).trans_lt (by decide)

/-- **A number is read back exactly where its text is**: bare key with room for
a terminator, a line of its own, and a buffer that passes the check. -/
theorem intRoundTrip_iff (size : LongSize) (file : Option (List Char)) (key : ConfigKey) (n : Int32)
    (buf : CStr) :
    (isValidValue buf = true ∧ ReadsBack file key (intValue n) buf configMaxValueLength →
      IntRoundTrip size file key n buf) ∧
    (nul ∉ file.getD [] → IntRoundTrip size file key n buf →
      isValidValue buf = true ∧ ReadsBack file key (intValue n) buf configMaxValueLength) := by
  constructor
  · rintro ⟨hbuf, hback⟩ junk junk' old
    have hget := hback.roundTrip (length_intValue_lt n) (isValidValue_iff.mp hbuf).1 junk junk'
      (configSet_success key (intValue n) junk file)
    have hnum : strtolOf size (intValue n).str = some (n.toInt, []) :=
      (strtolOf_of_bare (bare_intText _)).mpr
        ⟨n.toInt, decimalValue_intText _, (LongSize.saturate_of_inInt (inInt_toInt n)).symm⟩
    unfold configGetIntOf configSetInt
    rw [show configSet junk key.str (intText n.toInt) file =
      configSet junk key.str (intValue n).str file from rfl, hget]
    simp only [hnum, Int32.ofInt_toInt]
  · intro hnul h
    obtain ⟨⟨hbare, hfits⟩, hown⟩ := h.ownLine hnul
    obtain ⟨s, -, hget, -, -⟩ := configGetIntOf_success (h (fun _ => ⟨[], []⟩) (fun _ => ⟨[], []⟩) 0)
    obtain ⟨hbuf, -⟩ := configGet_success hget
    exact ⟨hbuf, hbare, hfits, bare_intText _, .inr rfl, (isValidValue_iff.mp hbuf).2,
      (kept_pieces key.str hnul).1, hown⟩

/-- **Integer settings.** A stored text is read as the `int` it stands for, or
not at all, exactly if it is no decimal integer or the unset buffer passes the
check just when the integer is within `int`; and a number is read back exactly
where its text is. -/
theorem configGetInt_integers (size : LongSize) (file : Option (List Char)) :
    (∀ (stack : GetStack) (key w : CStr) (value : Int32),
      isValidKey key = true → fileText stack.junk key file = some w →
        (ReadsInteger w value (configGetIntOf size stack key value file) ↔
          ∀ n, decimalValue w = some n → (isValidValue stack.strValue = true ↔ InInt n))) ∧
    ∀ (key : ConfigKey) (n : Int32) (buf : CStr),
      (isValidValue buf = true ∧ ReadsBack file key (intValue n) buf configMaxValueLength →
        IntRoundTrip size file key n buf) ∧
      (nul ∉ file.getD [] → IntRoundTrip size file key n buf →
        isValidValue buf = true ∧ ReadsBack file key (intValue n) buf configMaxValueLength) :=
  ⟨fun stack _ _ value hk hw => readsInteger_iff size stack file value hk hw,
    intRoundTrip_iff size file⟩

/-- A stored 11 is read, and 12 is read back after it was set over it. -/
theorem configGetInt_integers_channel :
    ReadsInteger "11".toList 3
        (configGetIntOf .bits64 ⟨[], fun _ => ⟨[], []⟩⟩ "CHANNEL".toList 3 (some "CHANNEL=11".toList)) ∧
      IntRoundTrip .bits64 (some "CHANNEL=11".toList) channelKey 12 [] := by
  constructor
  · refine ((configGetInt_integers .bits64 (some "CHANNEL=11".toList)).1 ⟨[], fun _ => ⟨[], []⟩⟩
      "CHANNEL".toList "11".toList 3 (by decide) (by decide)).mpr fun n hn => ?_
    rw [show decimalValue "11".toList = some 11 by decide] at hn
    cases hn
    decide
  · refine ((configGetInt_integers .bits64 (some "CHANNEL=11".toList)).2 channelKey 12 []).1
      ⟨by decide, ?_⟩
    have hbare : Bare isspace (intText (12 : Int32).toInt) := bare_intText _
    exact ⟨⟨by decide, by decide⟩, by decide, hbare, .inr rfl, by decide, by decide, by decide⟩

/-- 99999999999 is taken for 2147483647 or 1215752191, and ` a` is not found. -/
theorem configGetInt_integers_overflow :
    configGetIntOf .bits32 ⟨[], fun _ => ⟨[], []⟩⟩ "BW".toList 20 (some "BW=99999999999".toList) =
        (.success, 2147483647) ∧
      configGetIntOf .bits64 ⟨[], fun _ => ⟨[], []⟩⟩ "BW".toList 20 (some "BW=99999999999".toList) =
        (.success, 1215752191) ∧
      ¬ InInt 99999999999 ∧
      configGetIntOf .bits32 ⟨[], fun _ => ⟨[], []⟩⟩ " a".toList 20
        (configSetInt (fun _ => ⟨[], []⟩) " a".toList 5 none).2 = (.errorNotFound, 20) := by
  decide

end WtslCore
