/-
# The shape of the configuration file

What `config_set` leaves in a file that was empty is one line per call that
found no line to replace. The keys on these lines should be the distinct keys
that were set, each once (`Shape`), and a key that has a line should get its
new value there (`InPlace`).

`config_set` looks for its key among the trimmed keys of the file, and a key of
63 bytes is read without terminator. So a line is taken for a key under
`TakenFor`, not if it was written for it, and the shape is kept in exactly the
runs whose calls take the lines of their own key and no others
(`cfg_shape_iff`): a key with white space at an end never finds its line and
takes none, the same key without the white space takes that line away.

Key definitions: `CfgState`, `cfgStep`, `Shape`, `InPlace`, `TakenFor`,
`TakesOwn`, `written`.
Key theorems: `fileKey_pairLine_iff`, `configSet_render`, `shape_render_iff`,
`keepsShape_iff`, `cfg_shape_iff`.
-/
import Mathlib.Data.List.Nodup
import WtslCore.Lib.Run
import WtslCore.Utils.CfgFrame

namespace WtslCore

open Runs

/-- The file, and the distinct keys that were set, in the order of their first calls. -/
structure CfgState where
  file : List Char
  keys : List CStr

/-- An accepted call of `config_set`, and what the stack holds in it. -/
structure SetCall where
  key : ConfigKey
  value : ConfigValue
  junk : ℕ → Junk

def CfgState.empty : CfgState := ⟨[], []⟩

/-- One call; it is defined on every file. -/
def cfgStep (s : CfgState) (c : SetCall) : Option CfgState :=
  some ⟨(configSet c.junk c.key.str c.value.str (some s.file)).2.getD [],
    if c.key.str ∈ s.keys then s.keys else s.keys ++ [c.key.str]⟩

/-- The lines that end in a newline, without it. -/
def fileLines (file : List Char) : List (List Char) := (textLines file).dropLast

/-- The text before the first `=`. -/
def lineKey (line : List Char) : CStr := line.takeWhile (· ≠ '=')

/-- Every line ends in a newline and fits the buffer, every key that was set
is on exactly one line, and there are no other lines. -/
structure Shape (s : CfgState) : Prop where
  closed : (textLines s.file).getLast? = some []
  fits : ∀ l ∈ fileLines s.file, (l ++ ['\n']).length < configMaxLineLength
  once : ∀ k ∈ s.keys, ((fileLines s.file).map lineKey).count k = 1
  count : (fileLines s.file).length = s.keys.length

/-- A line of the key is replaced by the pair, and the others stay. -/
def InPlace (file file' : List Char) (key value : CStr) : Prop :=
  ∃ pre old post, lineKey old = key ∧ fileLines file = pre ++ old :: post ∧
    fileLines file' = pre ++ (key ++ '=' :: value) :: post

/-- What a call should do. -/
def KeepsShape (s : CfgState) (c : SetCall) : Prop :=
  ∀ s', cfgStep s c = some s' →
    Shape s' ∧ (c.key.str ∈ s.keys → InPlace s.file s'.file c.key.str c.value.str)

/-- The line of the key `k` is taken for the key `key`. -/
def TakenFor (junk : Junk) (key k : CStr) : Prop :=
  trimWhitespace k = key ∧ (key.length < configMaxKeyLength - 1 ∨ junk.key = [])

instance (junk : Junk) (key k : CStr) : Decidable (TakenFor junk key k) :=
  inferInstanceAs (Decidable (_ ∧ _))

/-- The call takes the lines of its key and no others. -/
def TakesOwn (s : CfgState) (c : SetCall) : Prop :=
  ∀ (i : ℕ) (k : CStr), s.keys[i]? = some k → (TakenFor (c.junk i) c.key.str k ↔ k = c.key.str)

/-! ### The lines of a file of pairs -/

/-- A file of pairs, one a line. -/
def render (es : List (ConfigKey × ConfigValue)) : List Char :=
  (es.map fun e => pairLine e.1.str e.2.str).flatten

/-- The keys on the lines. -/
def entryKeys (es : List (ConfigKey × ConfigValue)) : List CStr := es.map fun e => e.1.str

variable {es : List (ConfigKey × ConfigValue)} {s s' : CfgState}

theorem configLines_render (es : List (ConfigKey × ConfigValue)) :
    configLines (render es) = es.map fun e => pairLine e.1.str e.2.str := by
  have hfull : ∀ p ∈ es.map fun e => pairLine e.1.str e.2.str,
      FullPiece (configMaxLineLength - 1) p := by
    intro p hp
    obtain ⟨e, -, rfl⟩ := List.mem_map.mp hp
    exact fullPiece_pairLine e.1 e.2
  have h := fgetsAll_flatten (by decide) hfull []
  rw [List.append_nil] at h
  exact h.trans (List.append_nil _)

theorem textLines_render : ∀ es : List (ConfigKey × ConfigValue),
    textLines (render es) = (es.map fun e => e.1.str ++ '=' :: e.2.str) ++ [[]]
  | [] => textLines_last List.not_mem_nil
  | e :: es => by
    have hcons : render (e :: es) = (e.1.str ++ '=' :: e.2.str) ++ '\n' :: render es := by
      simp [render, pairLine]
    rw [hcons, textLines_line (newline_not_mem_pair e.1 e.2), textLines_render es]
    rfl

theorem fileLines_render (es : List (ConfigKey × ConfigValue)) :
    fileLines (render es) = es.map fun e => e.1.str ++ '=' :: e.2.str := by
  rw [fileLines, textLines_render, List.dropLast_concat]

theorem lineKey_pair (key : ConfigKey) (value : CStr) : lineKey (key.str ++ '=' :: value) = key.str :=
  (takeWhile_cut fun hm => ((isValidKey_iff.mp key.valid).2.2 _ hm).1 rfl).1

theorem lineKeys_render (es : List (ConfigKey × ConfigValue)) :
    (fileLines (render es)).map lineKey = entryKeys es := by
  rw [fileLines_render, List.map_map]
  exact List.map_congr_left fun e _ => lineKey_pair e.1 e.2.str

/-- **The shape of a file of pairs** is a matter of its keys. -/
theorem shape_render_iff {keys : List CStr} : Shape ⟨render es, keys⟩ ↔
    (∀ k ∈ keys, (entryKeys es).count k = 1) ∧ es.length = keys.length := by
  have hlen : (fileLines (render es)).length = es.length := by
    rw [fileLines_render, List.length_map]
  constructor
  · intro h
    exact ⟨fun k hk => lineKeys_render es ▸ h.once k hk, hlen.symm.trans h.count⟩
  · rintro ⟨honce, hcount⟩
    refine ⟨?_, ?_, fun k hk => (lineKeys_render es).symm ▸ honce k hk, hlen.trans hcount⟩
    · rw [textLines_render, List.getLast?_concat]
    · intro l hl
      rw [fileLines_render] at hl
      obtain ⟨e, -, rfl⟩ := List.mem_map.mp hl
      rw [List.length_append, List.length_singleton]
      have := length_pair_lt e.1 e.2
      omega

/-! ### What a call does to a file of pairs -/

/-- The pair on a line is read back with both sides trimmed, if a key is left. -/
theorem parseConfigLine_pairLine {k : ConfigKey} (v : ConfigValue) {key : ConfigKey}
    (h : trimWhitespace k.str = key.str) :
    parseConfigLine (pairLine k.str v.str) = some (key.str, trimWhitespace v.str) := by
  obtain ⟨w0, w1, hw0, hw1, hk⟩ := exists_surround isspace k.str
  obtain ⟨w2, w3, hw2, hw3, hv⟩ := exists_surround isspace v.str
  have hkey : trim isspace k.str = key.str := h
  have hvalid : isValidValue (trimWhitespace v.str) = true := by
    obtain ⟨hlen, hnl, hcr⟩ := isValidValue_iff.mp v.valid
    have hsub : ∀ c ∈ trimWhitespace v.str, c ∈ v.str := by
      intro c hc
      rw [hv]
      exact List.mem_append_right _ (List.mem_append_left _ hc)
    exact isValidValue_iff.mpr ⟨(length_trim_le _ _).trans_lt hlen, mt (hsub _) hnl, mt (hsub _) hcr⟩
  refine parseConfigLine_iff.mpr
    ⟨⟨key.valid, hvalid, h ▸ bare_trim _ _, bare_trim _ _⟩, w0, w1, w2, w3 ++ ['\n'], hw0, hw1, hw2,
      List.forall_mem_append.mpr ⟨hw3, by simp [isspace_newline]⟩, ?_⟩
  calc pairLine k.str v.str = pairLine (w0 ++ (key.str ++ w1)) (w2 ++ (trim isspace v.str ++ w3)) := by
        rw [← hkey, ← hk, ← hv]
    _ = _ := by simp [pairLine, lineOf, trimWhitespace]

/-- **The key a line is taken for**: its own, trimmed and terminated. -/
theorem fileKey_pairLine_iff (junk : Junk) (k : ConfigKey) (v : ConfigValue) (key : ConfigKey) :
    fileKey junk (pairLine k.str v.str) = some key.str ↔ TakenFor junk key.str k.str := by
  have hlen := (isValidKey_iff.mp key.valid).2.1
  have hcstr := cstr_of_noNul (noNul_pairLine k v)
  have hpair : pairLine k.str v.str = lineOf [] k.str [] [] v.str ['\n'] := by
    simp [pairLine, lineOf]
  -- a text of 63 bytes is read with what follows it
  have hread : readArray configMaxKeyLength junk.key key.str = key.str ↔
      key.str.length < configMaxKeyLength - 1 ∨ junk.key = [] := by
    unfold readArray
    split_ifs with hshort
    · exact iff_of_true rfl (.inl hshort)
    · rw [List.append_right_eq_self]
      exact (or_iff_right hshort).symm
  constructor
  · intro h
    obtain ⟨w, hw⟩ := matchesKey_iff.mp (matchesKey_of_fileKey hlen h)
    rw [fileKey, hw, Option.map_some, Option.some.injEq] at h
    rw [hcstr, hpair] at hw
    exact ⟨(key_of_parse_pair k v (by simp [Blank]) hw).symm, hread.mp h⟩
  · rintro ⟨htrim, hterm⟩
    rw [fileKey, hcstr, parseConfigLine_pairLine v htrim, Option.map_some]
    exact congrArg some (hread.mpr hterm)

/-- The pairs with the new one on the lines taken. -/
def setEntries (junk : ℕ → Junk) (key : ConfigKey) (value : ConfigValue)
    (es : List (ConfigKey × ConfigValue)) : List (ConfigKey × ConfigValue) :=
  es.mapIdx fun i e => if TakenFor (junk i) key.str e.1.str then (key, value) else e

/-- Some line is taken. -/
def anyTaken (junk : ℕ → Junk) (key : ConfigKey) (es : List (ConfigKey × ConfigValue)) : Bool :=
  (es.mapIdx fun i e => decide (TakenFor (junk i) key.str e.1.str)).any id

/-- The pairs on the file after a call. -/
def written (c : SetCall) (es : List (ConfigKey × ConfigValue)) : List (ConfigKey × ConfigValue) :=
  if anyTaken c.junk c.key es then setEntries c.junk c.key c.value es
  else setEntries c.junk c.key c.value es ++ [(c.key, c.value)]

theorem configSetLoop_render (key : ConfigKey) (value : ConfigValue) :
    ∀ (es : List (ConfigKey × ConfigValue)) (junk : ℕ → Junk),
      configSetLoop key.str value.str junk (es.map fun e => pairLine e.1.str e.2.str) =
        (anyTaken junk key es, render (setEntries junk key value es))
  | [], _ => rfl
  | e :: es, junk => by
    have ih := configSetLoop_render key value es fun i => junk (i + 1)
    have hset : setEntries junk key value (e :: es) =
        (if TakenFor (junk 0) key.str e.1.str then (key, value) else e) ::
          setEntries (fun i => junk (i + 1)) key value es := List.mapIdx_cons
    have hany : anyTaken junk key (e :: es) = (decide (TakenFor (junk 0) key.str e.1.str) ||
        anyTaken (fun i => junk (i + 1)) key es) := by
      unfold anyTaken
      rw [List.mapIdx_cons, List.any_cons]
      rfl
    rw [List.map_cons, configSetLoop, ih, hset, hany]
    by_cases h : TakenFor (junk 0) key.str e.1.str
    · have hf := (fileKey_pairLine_iff (junk 0) e.1 e.2 key).mpr h
      simp only [hf, h, ↓reduceIte, decide_true, Bool.true_or, render, List.map_cons,
        List.flatten_cons]
    · have hf := mt (fileKey_pairLine_iff (junk 0) e.1 e.2 key).mp h
      simp only [hf, h, ↓reduceIte, decide_false, Bool.false_or, render, List.map_cons,
        List.flatten_cons, cstr_of_noNul (noNul_pairLine e.1 e.2)]

/-- **A file of pairs stays one.** -/
theorem configSet_render (c : SetCall) (es : List (ConfigKey × ConfigValue)) :
    configSet c.junk c.key.str c.value.str (some (render es)) =
      (.success, some (render (written c es))) := by
  rw [configSet_eq, Option.getD_some, configLines_render, configSetLoop_render, written]
  cases anyTaken c.junk c.key es with
  | true => rfl
  | false => simp [render]

/-! ### One call -/

/-- The state holds the pairs, with the keys that were set as their keys. -/
structure Rendered (s : CfgState) (es : List (ConfigKey × ConfigValue)) : Prop where
  file : s.file = render es
  keys : entryKeys es = s.keys
  nodup : s.keys.Nodup

/-- The keys after a call. -/
def keysAfter (keys : List CStr) (key : CStr) : List CStr :=
  if key ∈ keys then keys else keys ++ [key]

variable {c : SetCall}

theorem cfgStep_render (h : Rendered s es) (hs : cfgStep s c = some s') :
    s' = ⟨render (written c es), keysAfter s.keys c.key.str⟩ := by
  rw [cfgStep, h.file, configSet_render] at hs
  exact (Option.some.inj hs).symm

theorem Rendered.key (h : Rendered s es) {i : ℕ} {k : CStr} (hk : s.keys[i]? = some k) :
    ∃ e, es[i]? = some e ∧ e.1.str = k := by
  rw [← h.keys, entryKeys, List.getElem?_map] at hk
  exact Option.map_eq_some_iff.mp hk

/-- A key is at one place. -/
theorem Rendered.index (h : Rendered s es) {i j : ℕ} {k : CStr} (hi : s.keys[i]? = some k)
    (hj : s.keys[j]? = some k) : i = j :=
  (List.getElem?_inj (List.getElem?_eq_some_iff.mp hi).1 h.nodup).mp (hi.trans hj.symm)

theorem anyTaken_iff : anyTaken c.junk c.key es = true ↔
    ∃ (i : ℕ) (k : CStr), (entryKeys es)[i]? = some k ∧ TakenFor (c.junk i) c.key.str k := by
  rw [anyTaken, List.any_eq_true]
  constructor
  · rintro ⟨b, hb, htrue⟩
    obtain ⟨i, hi, rfl⟩ := List.mem_mapIdx.mp hb
    refine ⟨i, es[i].1.str, ?_, of_decide_eq_true htrue⟩
    rw [entryKeys, List.getElem?_map, List.getElem?_eq_getElem hi, Option.map_some]
  · rintro ⟨i, k, hk, htaken⟩
    rw [entryKeys, List.getElem?_map] at hk
    obtain ⟨e, he, rfl⟩ := Option.map_eq_some_iff.mp hk
    obtain ⟨hi, rfl⟩ := List.getElem?_eq_some_iff.mp he
    exact ⟨_, List.mem_mapIdx.mpr ⟨i, hi, rfl⟩, decide_eq_true htaken⟩

theorem length_setEntries (junk : ℕ → Junk) (key : ConfigKey) (value : ConfigValue) :
    (setEntries junk key value es).length = es.length := List.length_mapIdx

/-- The file has one line more if no line is taken. -/
theorem length_written : (written c es).length =
    if anyTaken c.junk c.key es then es.length else es.length + 1 := by
  unfold written
  split_ifs
  · exact length_setEntries ..
  · rw [List.length_append, length_setEntries, List.length_singleton]

/-- Where the lines of the key are taken and no others, every line keeps its key. -/
theorem setEntries_of_takesOwn (h : Rendered s es) (hc : TakesOwn s c) :
    setEntries c.junk c.key c.value es =
      es.map fun e => if e.1.str = c.key.str then (c.key, c.value) else e := by
  refine List.ext_getElem? fun i => ?_
  rw [setEntries, List.getElem?_mapIdx, List.getElem?_map]
  cases he : es[i]? with
  | none => rfl
  | some e =>
    have hk : s.keys[i]? = some e.1.str := by
      rw [← h.keys, entryKeys, List.getElem?_map, he, Option.map_some]
    simp only [Option.map_some, hc i _ hk]

theorem anyTaken_of_takesOwn (h : Rendered s es) (hc : TakesOwn s c) :
    anyTaken c.junk c.key es = decide (c.key.str ∈ s.keys) := by
  rw [Bool.eq_iff_iff, anyTaken_iff, decide_eq_true_eq, h.keys]
  constructor
  · rintro ⟨i, k, hk, htaken⟩
    exact (hc i k hk).mp htaken ▸ List.mem_of_getElem? hk
  · intro hmem
    obtain ⟨i, hi⟩ := List.mem_iff_getElem?.mp hmem
    exact ⟨i, _, hi, (hc i _ hi).mpr rfl⟩

theorem entryKeys_written (h : Rendered s es) (hc : TakesOwn s c) :
    entryKeys (written c es) = keysAfter s.keys c.key.str := by
  have hsame : entryKeys (setEntries c.junk c.key c.value es) = s.keys := by
    rw [setEntries_of_takesOwn h hc, ← h.keys, entryKeys, entryKeys, List.map_map]
    refine List.map_congr_left fun e _ => ?_
    simp only [Function.comp_apply]
    split_ifs with heq
    · exact heq.symm
    · rfl
  rw [written, anyTaken_of_takesOwn h hc, keysAfter]
  by_cases hmem : c.key.str ∈ s.keys
  · simp only [hmem, decide_true, ↓reduceIte, hsame]
  · simp only [hmem, decide_false, Bool.false_eq_true, ↓reduceIte, entryKeys, List.map_append,
      List.map_cons, List.map_nil]
    rw [← entryKeys, hsame]

theorem nodup_keysAfter {keys : List CStr} (h : keys.Nodup) (key : CStr) :
    (keysAfter keys key).Nodup := by
  unfold keysAfter
  split_ifs with hmem
  · exact h
  · rw [← List.concat_eq_append]
    exact h.concat hmem

/-- **The pairs stay the keys that were set.** -/
theorem Rendered.step (h : Rendered s es) (hc : TakesOwn s c) (hs : cfgStep s c = some s') :
    Rendered s' (written c es) := by
  obtain rfl := cfgStep_render h hs
  exact ⟨rfl, entryKeys_written h hc, nodup_keysAfter h.nodup _⟩

theorem Rendered.shape (h : Rendered s es) : Shape s := by
  obtain ⟨file, keys⟩ := s
  obtain ⟨rfl, rfl, hnodup⟩ := h
  refine shape_render_iff.mpr ⟨fun k hk => List.count_eq_one_of_mem hnodup hk, ?_⟩
  exact (List.length_map _).symm

/-- The line of a key that was set gets the new value. -/
theorem Rendered.inPlace (h : Rendered s es) (hc : TakesOwn s c) (hmem : c.key.str ∈ s.keys) :
    InPlace (render es) (render (written c es)) c.key.str c.value.str := by
  have hany : anyTaken c.junk c.key es = true := by
    rw [anyTaken_of_takesOwn h hc, decide_eq_true hmem]
  have hset := setEntries_of_takesOwn h hc
  have hnodup := h.nodup
  rw [← h.keys] at hmem hnodup
  obtain ⟨e, he, hek⟩ := List.mem_map.mp hmem
  obtain ⟨pre, post, rfl⟩ := List.append_of_mem he
  -- the others have other keys
  have hother : ∀ e' ∈ pre ++ post, e'.1.str ≠ c.key.str := by
    rw [entryKeys, List.map_append, List.map_cons, List.nodup_middle, ← List.map_append] at hnodup
    intro e' he' heq
    exact (List.nodup_cons.mp hnodup).1 (List.mem_map.mpr ⟨e', he', heq.trans hek.symm⟩)
  have hkeep : ∀ l : List (ConfigKey × ConfigValue), (∀ e' ∈ l, e'.1.str ≠ c.key.str) →
      (l.map fun e => if e.1.str = c.key.str then (c.key, c.value) else e) = l := by
    intro l hl
    conv_rhs => rw [← List.map_id l]
    exact List.map_congr_left fun e' he' => if_neg (hl e' he')
  rw [List.map_append, List.map_cons, if_pos hek,
    hkeep pre fun e' he' => hother e' (List.mem_append_left _ he'),
    hkeep post fun e' he' => hother e' (List.mem_append_right _ he')] at hset
  have hwritten : written c (pre ++ e :: post) = pre ++ (c.key, c.value) :: post := by
    rw [written, if_pos hany, hset]
  refine ⟨pre.map fun e => e.1.str ++ '=' :: e.2.str, e.1.str ++ '=' :: e.2.str,
    post.map fun e => e.1.str ++ '=' :: e.2.str, (lineKey_pair e.1 e.2.str).trans hek, ?_, ?_⟩
  · rw [fileLines_render, List.map_append, List.map_cons]
  · rw [hwritten, fileLines_render, List.map_append, List.map_cons]

/-- A taken line that has another key takes the key away. -/
theorem not_mem_of_taken (h : Rendered s es) {i : ℕ} {k : CStr} (hk : s.keys[i]? = some k)
    (htaken : TakenFor (c.junk i) c.key.str k) (hne : k ≠ c.key.str) :
    k ∉ entryKeys (setEntries c.junk c.key c.value es) := by
  intro hm
  obtain ⟨e', he', hek⟩ := List.mem_map.mp hm
  obtain ⟨j, hj, rfl⟩ := List.mem_mapIdx.mp he'
  split_ifs at hek with hjt
  · exact hne hek.symm
  · have hjk : s.keys[j]? = some k := by
      rw [← h.keys, entryKeys, List.getElem?_map, List.getElem?_eq_getElem hj, Option.map_some, hek]
    obtain rfl := h.index hk hjk
    exact hjt (hek ▸ htaken)

/-- **A call keeps the shape if and only if it takes the lines of its key.** -/
theorem keepsShape_iff (h : Rendered s es) : KeepsShape s c ↔ TakesOwn s c := by
  constructor
  · intro hkeep
    have hs : cfgStep s c = some ⟨render (written c es), keysAfter s.keys c.key.str⟩ := by
      rw [cfgStep, h.file, configSet_render]
      rfl
    obtain ⟨honce, hcount⟩ := shape_render_iff.mp (hkeep _ hs).1
    have hlen : es.length = s.keys.length := by rw [← h.keys, entryKeys, List.length_map]
    rw [length_written] at hcount
    unfold keysAfter at hcount honce
    intro i k hk
    by_cases hmem : c.key.str ∈ s.keys
    · rw [if_pos hmem] at hcount honce
      have hany : anyTaken c.junk c.key es = true := by
        by_contra hno
        rw [if_neg hno] at hcount
        omega
      have hother : ∀ i k, s.keys[i]? = some k → TakenFor (c.junk i) c.key.str k →
          k = c.key.str := by
        intro i k hk htaken
        by_contra hne
        have hone := honce k (List.mem_of_getElem? hk)
        rw [written, if_pos hany, List.count_eq_zero.mpr (not_mem_of_taken h hk htaken hne)] at hone
        exact absurd hone (by decide)
      refine ⟨hother i k hk, fun heq => ?_⟩
      obtain ⟨j, k', hk', htaken⟩ := anyTaken_iff.mp hany
      rw [h.keys] at hk'
      obtain rfl := hother j k' hk' htaken
      obtain rfl := h.index (heq ▸ hk) hk'
      exact heq ▸ htaken
    · rw [if_neg hmem, List.length_append, List.length_singleton] at hcount
      have hnone : ¬ anyTaken c.junk c.key es = true := by
        intro hany
        rw [if_pos hany] at hcount
        omega
      refine iff_of_false (fun htaken => ?_) fun heq => ?_
      · exact hnone (anyTaken_iff.mpr ⟨i, k, h.keys.symm ▸ hk, htaken⟩)
      · exact hmem (heq ▸ List.mem_of_getElem? hk)
  · intro hc s' hs
    refine ⟨(h.step hc hs).shape, fun hmem => ?_⟩
    rw [cfgStep_render h hs, h.file]
    exact h.inPlace hc hmem

/-! ### Runs -/

/-- **The file keeps its shape in exactly the runs whose calls take the lines
of their own key**, from an empty file. -/
theorem cfg_shape_iff (cs : List SetCall) (s : CfgState) :
    Run cfgStep KeepsShape .empty cs s ↔ Run cfgStep TakesOwn .empty cs s := by
  refine Run.meets_iff (K := fun s => ∃ es, Rendered s es) ⟨[], rfl, rfl, .nil⟩ ?_ ?_
  · rintro s c ⟨es, h⟩
    exact keepsShape_iff h
  · rintro s c s' ⟨es, h⟩ hc hs
    exact ⟨_, h.step hc hs⟩

/-- A key with a blank before it. -/
def blankKey : ConfigKey := ⟨" a".toList, by decide, by decide⟩

/-- `config_set(" a", …)` twice: the file has two lines for the one key. -/
theorem cfg_shape_grows : ∃ s,
    exec cfgStep .empty [⟨blankKey, ⟨"1".toList, by decide, by decide⟩, fun _ => ⟨[], []⟩⟩,
        ⟨blankKey, ⟨"2".toList, by decide, by decide⟩, fun _ => ⟨[], []⟩⟩] = some s ∧
      s.keys = [" a".toList] ∧ fileLines s.file = [" a=1".toList, " a=2".toList] ∧ ¬ Shape s := by
  refine ⟨_, rfl, by decide, by decide, fun h => ?_⟩
  exact absurd h.count (by decide)

end WtslCore
