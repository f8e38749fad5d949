/-
# What setting a key leaves alone

`config_set` should change one key: every other key reads as before, and the
comment and blank lines stay, in their order. Piece by piece it does so: a
piece is either copied or, if it parses to the key, replaced by the pair
(`configSetLoop_pieces`). What is not a matter of pieces breaks it: a comment
longer than a piece, whose rest parses to the key, and the pair glued to a last
line without newline. There the key of the open line gets another value and the
glued line is a new entry, unless the pair outgrows the piece and leaves it
alone (`glued_iff`). Where no piece with a terminator is copied these are the
only ways (`configSet_frame_iff`); a file that ends in a newline has the second
one never (`appends_of_newline`).

Key definitions: `keptLines`, `Frame`, `CopiesWhole`, `ReadsOn`, `Appends`,
`FrameKept`, `hitValue`.
Key theorems: `configSetLoop_pieces`, `fgetsAll_rewritten`,
`configGet_congr`, `keptLines_rewritten`, `glued_iff`, `FrameKept.frame`,
`configSet_frame_iff`.
-/
import Mathlib.Data.List.Forall2
import WtslCore.Lib.Lines
import WtslCore.Utils.CfgRoundTrip

namespace WtslCore

def isCommentLine (l : List Char) : Bool := (trimWhitespace l).head? = some '#'

def isBlankLine (l : List Char) : Bool := trimWhitespace l = []

/-- A line that is no entry. -/
def isKeptLine (l : List Char) : Bool := isCommentLine l || isBlankLine l

/-- The comment and blank lines. -/
def keptLines (s : List Char) : List (List Char) := (textLines s).filter isKeptLine

/-- Setting the key changes no other key and no comment or blank line. -/
def Frame (file : Option (List Char)) (key : ConfigKey) (value : ConfigValue) : Prop :=
  ∀ junk, (configSet junk key.str value.str file).1 = .success →
    (∀ (key' : ConfigKey) (buf : CStr) (n : ℕ) (junk' : ℕ → Junk), key'.str ≠ key.str →
      configGet junk' key'.str buf n (configSet junk key.str value.str file).2 =
        configGet junk' key'.str buf n file) ∧
    (keptLines (file.getD [])).Sublist
      (keptLines ((configSet junk key.str value.str file).2.getD []))

/-- Some piece of the file is replaced by the pair, whatever the stack holds. -/
def Replaced (file : Option (List Char)) (key : CStr) : Prop :=
  key.length < configMaxKeyLength - 1 ∧
    ∃ line ∈ configLines (file.getD []), matchesKey key line = true

/-- The value `config_get` finds for a key on a piece. -/
def hitValue (key : CStr) (junk : Junk) (line : List Char) : Option CStr :=
  match parseConfigLine (cstr line) with
  | some (k, w) =>
    if readArray configMaxKeyLength junk.key k = key then
      some (readArray configMaxValueLength junk.value w)
    else none
  | none => none

/-- The value on the first piece that has one. -/
def lookupValue (key : CStr) : (ℕ → Junk) → List (List Char) → Option CStr
  | _, [] => none
  | junk, line :: lines =>
    (hitValue key (junk 0) line).or (lookupValue key (fun i => junk (i + 1)) lines)

/-- A full piece of the file has the key, whatever the stack holds. -/
def Defined (file : Option (List Char)) (key : CStr) : Prop :=
  key.length < configMaxKeyLength - 1 ∧
    ∃ p ∈ fullPieces (configMaxLineLength - 1) (file.getD []), matchesKey key p = true

/-- The key and the value of a piece. -/
def entryOf (p : List Char) : Option (CStr × CStr) := parseConfigLine (cstr p)

/-- The piece an open part makes with the text appended to it. -/
def glued (o t : List Char) : List Char := (o ++ t).take (configMaxLineLength - 1)

/-- What of the text outgrows that piece. -/
def outgrown (o t : List Char) : List Char := (o ++ t).drop (configMaxLineLength - 1)

/-- The entry of an open part is read as before, though the text appended
outgrows its piece: only white space comes behind it, and nothing that an
unterminated key is found on; or it has no value any more, and what outgrows
the piece happens to be the same entry. -/
def ReadsOn (o t : List Char) (k : CStr) : Prop :=
  ∃ w, entryOf o = some (k, w) ∧
    ((Blank (t.take (configMaxLineLength - 1 - o.length)) ∧
        (k.length < configMaxKeyLength - 1 ∨ ∀ w', entryOf (outgrown o t) ≠ some (k, w'))) ∨
      (entryOf (glued o t) = none ∧ entryOf (outgrown o t) = some (k, w) ∧
        k.length < configMaxKeyLength - 1 ∧ w.length < configMaxValueLength - 1))

/-- The pair can be appended: not to a comment or blank line, and neither the
open part nor a piece it makes with the pair has another key, unless a full
piece before has it. -/
structure Appends (file : Option (List Char)) (key value : CStr) : Prop where
  lastLine : ∀ l ∈ (textLines (file.getD [])).getLast?, l = [] ∨ isKeptLine l = false
  otherKeys : ∀ o, o = openPart (configMaxLineLength - 1) (file.getD []) →
    ∀ p ∈ [o, glued o (pairLine key value), outgrown o (pairLine key value)], ∀ k w,
      entryOf p = some (k, w) → k = key ∨ Defined file k ∨ ReadsOn o (pairLine key value) k

/-- No piece with a terminator in it is copied: it would lose what follows. -/
def CopiesWhole (file : Option (List Char)) (key : CStr) : Prop :=
  ∀ p ∈ configLines (file.getD []), nul ∈ p →
    key.length < configMaxKeyLength - 1 ∧ matchesKey key p = true

/-- The condition for everything else to stay. -/
structure FrameKept (file : Option (List Char)) (key : ConfigKey) (value : ConfigValue) : Prop where
  copies : CopiesWhole file key.str
  /-- No piece of a comment is replaced by another text. -/
  comments : ∀ l ∈ textLines (file.getD []), isCommentLine l = true →
    ∀ p ∈ configLines l, matchesKey key.str p = true → p = key.str ++ '=' :: value.str
  ending : Replaced file key.str ∨ Appends file key.str value.str

variable {key value buf : CStr} {n : ℕ} {file : Option (List Char)}

/-! ### The pieces `config_set` writes -/

/-- A piece is copied, or replaced by the pair if it parses to the key. -/
def Rewrites (key value : CStr) : List (List Char) → List (List Char) → Prop :=
  List.Forall₂ fun line out =>
    out = line ∨ (matchesKey key line = true ∧ out = pairLine key value)

theorem readArray_eq_imp (hk : key.length < configMaxKeyLength) {junk s : CStr}
    (h : readArray configMaxKeyLength junk s = key) : s = key := by
  unfold readArray at h
  split_ifs at h with hlen
  · exact h
  · have hsum := congrArg List.length h
    rw [List.length_append] at hsum
    have hjunk : junk = [] := List.length_eq_zero_iff.mp (by omega)
    rw [hjunk, List.append_nil] at h
    exact h

theorem readArray_nil (m : ℕ) (s : CStr) : readArray m [] s = s := by
  unfold readArray
  split_ifs
  · rfl
  · exact List.append_nil s

theorem matchesKey_iff {line : List Char} :
    matchesKey key line = true ↔ ∃ w, parseConfigLine (cstr line) = some (key, w) := by
  unfold matchesKey
  cases parseConfigLine (cstr line) with
  | none => simp
  | some kv =>
    obtain ⟨k, w⟩ := kv
    simp

theorem matchesKey_of_fileKey (hk : key.length < configMaxKeyLength) {junk : Junk} {line : List Char}
    (h : fileKey junk line = some key) : matchesKey key line = true := by
  unfold fileKey at h
  obtain ⟨⟨k, w⟩, hparse, hk'⟩ := Option.map_eq_some_iff.mp h
  have := readArray_eq_imp hk hk'
  exact matchesKey_iff.mpr ⟨w, by rw [hparse]; exact congrArg (fun k => some (k, w)) this⟩

theorem copiesWhole_of_noNul (hnul : nul ∉ file.getD []) : CopiesWhole file key := by
  intro p hp hm
  refine absurd ?_ hnul
  rw [← flatten_fgetsAll (configMaxLineLength - 1) (file.getD [])]
  exact List.mem_flatten.mpr ⟨p, hp, hm⟩

/-- Where the pair is appended, the file has no terminators. -/
theorem CopiesWhole.noNul (h : CopiesWhole file key) (hno : ¬ Replaced file key) :
    nul ∉ file.getD [] := by
  intro hm
  rw [← flatten_fgetsAll (configMaxLineLength - 1) (file.getD [])] at hm
  obtain ⟨p, hp, hnul⟩ := List.mem_flatten.mp hm
  obtain ⟨hlen, hmatch⟩ := h p hp hnul
  exact hno ⟨hlen, p, hp, hmatch⟩

theorem CopiesWhole.cstr (h : CopiesWhole file key) : ∀ line ∈ configLines (file.getD []),
    cstr line = line ∨ (key.length < configMaxKeyLength - 1 ∧ matchesKey key line = true) := by
  intro line hline
  by_cases hnul : nul ∈ line
  · exact .inr (h line hline hnul)
  · exact .inl (cstr_of_noNul hnul)

/-- **The loop writes rewritten pieces**, the same ones if it reports no update. -/
theorem configSetLoop_pieces (value : CStr) (hk : key.length < configMaxKeyLength) :
    ∀ {lines : List (List Char)} (junk : ℕ → Junk), (∀ line ∈ lines, cstr line = line ∨
        (key.length < configMaxKeyLength - 1 ∧ matchesKey key line = true)) →
      ∃ outs, Rewrites key value lines outs ∧
        (configSetLoop key value junk lines).2 = outs.flatten ∧
        ((configSetLoop key value junk lines).1 = false → outs = lines)
  | [], _, _ => ⟨[], .nil, rfl, fun _ => rfl⟩
  | line :: lines, junk, hc => by
    obtain ⟨outs, hr, htext, hsame⟩ := configSetLoop_pieces value hk (fun i => junk (i + 1))
      fun l hl => hc l (List.mem_cons_of_mem _ hl)
    unfold configSetLoop
    by_cases hm : fileKey (junk 0) line = some key
    · refine ⟨pairLine key value :: outs, .cons (.inr ⟨matchesKey_of_fileKey hk hm, rfl⟩) hr, ?_, ?_⟩
      · simp only [if_pos hm, htext, List.flatten_cons]
      · simp only [if_pos hm]
        exact fun h => Bool.noConfusion h
    · have hcopy : cstr line = line := (hc line List.mem_cons_self).resolve_right
        fun h => hm ((fileKey_eq_iff h.1 (junk 0) line).mpr h.2)
      refine ⟨line :: outs, .cons (.inl rfl) hr, ?_, ?_⟩
      · simp only [if_neg hm, htext, List.flatten_cons, hcopy]
      · simp only [if_neg hm]
        exact fun h => congrArg (line :: ·) (hsame h)

/-- A file with a piece for the key is updated. -/
theorem configSetLoop_updated (hk : key.length < configMaxKeyLength - 1) :
    ∀ {lines : List (List Char)} (junk : ℕ → Junk), (∃ line ∈ lines, matchesKey key line = true) →
      (configSetLoop key value junk lines).1 = true
  | line :: lines, junk, ⟨l, hl, hm⟩ => by
    unfold configSetLoop
    by_cases hf : fileKey (junk 0) line = some key
    · simp only [if_pos hf]
    · simp only [if_neg hf]
      refine configSetLoop_updated hk _ ⟨l, ?_, hm⟩
      rcases List.mem_cons.mp hl with rfl | hl
      · exact absurd ((fileKey_eq_iff hk _ _).mpr hm) hf
      · exact hl

theorem fullPiece_pairLine (key : ConfigKey) (value : ConfigValue) :
    FullPiece (configMaxLineLength - 1) (pairLine key.str value.str) :=
  .inr ⟨_, newline_not_mem_pair key value, length_pair_lt key value, pairLine_eq _ _⟩

theorem Rewrites.append_left : ∀ {l₁ l₂ outs : List (List Char)}, Rewrites key value (l₁ ++ l₂) outs →
    ∃ o₁ o₂, outs = o₁ ++ o₂ ∧ Rewrites key value l₁ o₁ ∧ Rewrites key value l₂ o₂
  | [], _, outs, h => ⟨[], outs, rfl, .nil, h⟩
  | _ :: _, _, _ :: _, .cons hab h => by
    obtain ⟨o₁, o₂, rfl, h1, h2⟩ := Rewrites.append_left h
    exact ⟨_ :: o₁, o₂, rfl, .cons hab h1, h2⟩

theorem Rewrites.full (key : ConfigKey) (value : ConfigValue) :
    ∀ {ls outs : List (List Char)}, Rewrites key.str value.str ls outs →
      (∀ p ∈ ls, FullPiece (configMaxLineLength - 1) p) →
      ∀ p ∈ outs, FullPiece (configMaxLineLength - 1) p
  | _, _, .nil, _ => by simp
  | _ :: _, _ :: _, .cons hab h, hfull => by
    refine List.forall_mem_cons.mpr
      ⟨?_, Rewrites.full key value h fun p hp => hfull p (List.mem_cons_of_mem _ hp)⟩
    rcases hab with rfl | ⟨-, rfl⟩
    · exact hfull _ List.mem_cons_self
    · exact fullPiece_pairLine key value

/-- **What is written piece by piece is read in the same pieces.** -/
theorem fgetsAll_rewritten (key : ConfigKey) (value : ConfigValue) {s : List Char}
    {outs : List (List Char)}
    (h : Rewrites key.str value.str (fgetsAll (configMaxLineLength - 1) s) outs) :
    fgetsAll (configMaxLineLength - 1) outs.flatten = outs := by
  have hpos : 0 < configMaxLineLength - 1 := by decide
  obtain ⟨hfull, hnl, hlen, -⟩ := fgets_spec hpos s
  rw [fgetsAll_eq hpos] at h
  obtain ⟨o₁, o₂, rfl, h1, h2⟩ := h.append_left
  have hfull1 := h1.full key value hfull
  split_ifs at h2 with hopen
  · cases h2
    have := fgetsAll_flatten hpos hfull1 []
    simpa [fgetsAll, fgetsFrom] using this
  · cases h2 with
    | cons hab hnil =>
      cases hnil
      refine fgetsAll_of_pieces hpos hfull1 ?_
      rcases hab with rfl | ⟨-, rfl⟩
      · exact .inr ⟨hnl, hopen, hlen⟩
      · exact .inl (fullPiece_pairLine key value)

/-! ### Other keys -/

theorem configGetLoop_eq : ∀ (lines : List (List Char)) (junk : ℕ → Junk),
    configGetLoop key buf n junk lines =
      match lookupValue key junk lines with
      | some v => (.success, v.take (n - 1))
      | none => (.errorNotFound, buf)
  | [], _ => rfl
  | line :: lines, junk => by
    have ih := configGetLoop_eq lines fun i => junk (i + 1)
    rw [configGetLoop, lookupValue, hitValue]
    cases parseConfigLine (cstr line) with
    | none => exact ih
    | some kv =>
      simp only
      split_ifs
      · rfl
      · exact ih

/-- Pieces that give the same give the same result. -/
theorem lookupValue_congr : ∀ {ls outs : List (List Char)} (junk : ℕ → Junk),
    List.Forall₂ (fun l o => ∀ j, hitValue key j l = hitValue key j o) ls outs →
      lookupValue key junk ls = lookupValue key junk outs
  | _, _, _, .nil => rfl
  | _ :: _, _ :: _, junk, .cons hab h => by
    rw [lookupValue, lookupValue, hab, lookupValue_congr _ h]

theorem lookupValue_append : ∀ (pre ls : List (List Char)) (junk : ℕ → Junk),
    lookupValue key junk (pre ++ ls) =
      (lookupValue key junk pre).or (lookupValue key (fun i => junk (i + pre.length)) ls)
  | [], _, _ => rfl
  | p :: pre, ls, junk => by
    rw [List.cons_append, lookupValue, lookupValue, lookupValue_append pre ls, Option.or_assoc]
    simp only [List.length_cons, Nat.add_assoc]

theorem lookupValue_eq_none : ∀ {ls : List (List Char)} {junk : ℕ → Junk},
    (∀ i < ls.length, ∀ l ∈ ls, hitValue key (junk i) l = none) → lookupValue key junk ls = none
  | [], _, _ => rfl
  | l :: ls, junk, h => by
    rw [lookupValue, h 0 (Nat.succ_pos _) l List.mem_cons_self]
    exact lookupValue_eq_none fun i hi l' hl =>
      h (i + 1) (Nat.succ_lt_succ hi) l' (List.mem_cons_of_mem _ hl)

theorem lookupValue_isSome : ∀ {ls : List (List Char)} (junk : ℕ → Junk),
    (∃ l ∈ ls, ∀ j, (hitValue key j l).isSome = true) → (lookupValue key junk ls).isSome = true
  | l :: ls, junk, ⟨l', hl, hsome⟩ => by
    rw [lookupValue, Option.isSome_or]
    rcases List.mem_cons.mp hl with rfl | hl
    · rw [hsome, Bool.true_or]
    · rw [lookupValue_isSome _ ⟨l', hl, hsome⟩, Bool.or_true]

/-- A terminated key is found on the pieces that parse to it, whatever the stack holds. -/
theorem hitValue_isSome (hk : key.length < configMaxKeyLength - 1) (junk : Junk) (line : List Char) :
    (hitValue key junk line).isSome = matchesKey key line := by
  unfold hitValue matchesKey
  cases parseConfigLine (cstr line) with
  | none => rfl
  | some kv =>
    obtain ⟨k, w⟩ := kv
    simp only [readArray_key hk]
    by_cases hkw : k = key <;> simp [hkw]

/-- With a byte behind it, an unterminated key is found nowhere. -/
theorem hitValue_none_of_not_defined (hk : key.length < configMaxKeyLength) {line : List Char}
    (h : key.length < configMaxKeyLength - 1 → matchesKey key line = false) (w : CStr) :
    hitValue key ⟨['x'], w⟩ line = none := by
  by_cases hlen : key.length < configMaxKeyLength - 1
  · rw [← Option.not_isSome_iff_eq_none, hitValue_isSome hlen, h hlen]
    exact Bool.false_ne_true
  unfold hitValue
  cases parseConfigLine (cstr line) with
  | none => rfl
  | some kv =>
    refine if_neg fun heq => ?_
    have hsum := congrArg List.length heq
    unfold readArray at hsum
    split_ifs at hsum
    · omega
    · rw [List.length_append, List.length_singleton] at hsum
      omega

/-- A piece that parses to a key gives nothing to another one. -/
theorem hitValue_of_other {k : CStr} {line : List Char} (hk : key.length < configMaxKeyLength)
    (hne : key ≠ k) (h : ∀ k' w, parseConfigLine (cstr line) = some (k', w) → k' = k) (junk : Junk) :
    hitValue key junk line = none := by
  unfold hitValue
  cases hparse : parseConfigLine (cstr line) with
  | none => rfl
  | some kw =>
    obtain ⟨k', w⟩ := kw
    have hk' : k' = k := h k' w hparse
    exact if_neg fun heq => hne ((readArray_eq_imp hk heq).symm.trans hk')

theorem noNul_pairLine (key : ConfigKey) (value : ConfigValue) :
    nul ∉ pairLine key.str value.str := by
  simp only [pairLine, List.mem_append, List.mem_cons, List.not_mem_nil, or_false, not_or]
  exact ⟨key.noNul, by decide, value.noNul, by decide⟩

theorem eq_not_mem_side {k w0 w1 : CStr} (hk : isValidKey k = true) (hw0 : Blank w0) (hw1 : Blank w1) :
    '=' ∉ w0 ++ (k ++ w1) := by
  have hkeq : '=' ∉ k := fun hm => ((isValidKey_iff.mp hk).2.2 _ hm).1 rfl
  simp only [List.mem_append, not_or]
  exact ⟨hw0.not_mem isspace_eq, hkeq, hw1.not_mem isspace_eq⟩

/-- The pair is read as its key, trimmed, or not at all. -/
theorem key_of_parse_pair {w e k w' : CStr} (key : ConfigKey) (value : ConfigValue) (hw : Blank w)
    (h : parseConfigLine (lineOf w key.str [] [] value.str e) = some (k, w')) :
    k = trimWhitespace key.str := by
  obtain ⟨⟨hk, -, hbare, -⟩, w0, w1, w2, w3, hw0, hw1, -, -, heq⟩ := parseConfigLine_iff.mp h
  have hkeq : '=' ∉ key.str := fun hm => ((isValidKey_iff.mp key.valid).2.2 _ hm).1 rfl
  have hl : '=' ∉ w ++ key.str := by
    simp only [List.mem_append, not_or]
    exact ⟨hw.not_mem isspace_eq, hkeq⟩
  have hr : '=' ∉ w0 ++ (k ++ w1) := eq_not_mem_side hk hw0 hw1
  have hcut : (w ++ key.str) ++ '=' :: (value.str ++ e) =
      (w0 ++ (k ++ w1)) ++ '=' :: (w2 ++ (w' ++ w3)) := by
    simpa [lineOf] using heq
  have hside := (cut_unique hcut hl hr).1
  calc k = trim isspace (w0 ++ (k ++ w1)) := (trim_surround hbare hw0 hw1).symm
    _ = trim isspace (w ++ key.str) := by rw [hside]
    _ = trimWhitespace key.str := trim_append_left hw _

/-- The entry of the pair is its key's. -/
theorem key_of_entry_pair {k w : CStr} (key : ConfigKey) (value : ConfigValue)
    (hbare : Bare isspace key.str) (h : entryOf (pairLine key.str value.str) = some (k, w)) :
    k = key.str := by
  have hpair : pairLine key.str value.str = lineOf [] key.str [] [] value.str ['\n'] := by
    simp [pairLine, lineOf]
  rw [entryOf, cstr_of_noNul (noNul_pairLine key value), hpair] at h
  rw [key_of_parse_pair key value (by simp [Blank]) h, trimWhitespace, hbare.trim]

/-- The pair gives nothing to another key. -/
theorem hitValue_pairLine_ne {key' : CStr} (key : ConfigKey) (value : ConfigValue)
    (hbare : Bare isspace key.str) (hk : key'.length < configMaxKeyLength) (hne : key' ≠ key.str)
    (j : Junk) : hitValue key' j (pairLine key.str value.str) = none :=
  hitValue_of_other hk hne (fun _ _ h => key_of_entry_pair key value hbare h) j

/-- A replaced piece and the pair give nothing to another key. -/
theorem hitValue_rewritten {key' : CStr} (key : ConfigKey) (value : ConfigValue)
    (hk : key'.length < configMaxKeyLength) (hne : key' ≠ key.str) {line out : List Char}
    (h : out = line ∨ (matchesKey key.str line = true ∧ out = pairLine key.str value.str)) (j : Junk) :
    hitValue key' j line = hitValue key' j out := by
  rcases h with rfl | ⟨hm, rfl⟩
  · rfl
  obtain ⟨w, hw⟩ := matchesKey_iff.mp hm
  have hline : hitValue key' j line = none := by
    refine hitValue_of_other hk hne (fun k' w' h' => ?_) j
    rw [hw] at h'
    exact (Prod.mk.inj (Option.some.inj h')).1.symm
  rw [hline, hitValue_pairLine_ne key value (parseConfigLine_iff.mp hw).1.2.2.1 hk hne]

/-! ### What is written -/

theorem configSet_eq (key : ConfigKey) (value : ConfigValue) (junk : ℕ → Junk)
    (file : Option (List Char)) : configSet junk key.str value.str file =
      let r := configSetLoop key.str value.str junk (configLines (file.getD []))
      (.success, some (if r.1 then r.2 else r.2 ++ pairLine key.str value.str)) := by
  unfold configSet
  rw [if_neg (by simp [key.valid, value.valid])]

/-- **What `config_set` leaves**: rewritten pieces, or the file with the pair appended. -/
theorem configSet_cases (key : ConfigKey) (value : ConfigValue) (hcopies : CopiesWhole file key.str)
    (junk : ℕ → Junk) :
    (∃ outs, Rewrites key.str value.str (configLines (file.getD [])) outs ∧
        configSet junk key.str value.str file = (.success, some outs.flatten)) ∨
      (¬ Replaced file key.str ∧ configSet junk key.str value.str file =
        (.success, some (file.getD [] ++ pairLine key.str value.str))) := by
  obtain ⟨-, hklen, -⟩ := isValidKey_iff.mp key.valid
  obtain ⟨outs, hr, htext, hsame⟩ :=
    configSetLoop_pieces value.str hklen junk hcopies.cstr
  rw [configSet_eq]
  cases hflag : (configSetLoop key.str value.str junk (configLines (file.getD []))).1 with
  | true =>
    refine .inl ⟨outs, hr, ?_⟩
    simp only [hflag, ↓reduceIte, htext]
  | false =>
    refine .inr ⟨fun h => ?_, ?_⟩
    · rw [configSetLoop_updated h.1 junk h.2] at hflag
      exact Bool.noConfusion hflag
    · have hfile : outs.flatten = file.getD [] := by
        rw [hsame hflag]
        exact flatten_fgetsAll _ _
      simp only [hflag, Bool.false_eq_true, ↓reduceIte, htext, hfile]

/-- If no piece is taken for the key, all are copied. -/
theorem configSetLoop_copies (value : CStr) : ∀ {lines : List (List Char)} {junk : ℕ → Junk},
    (∀ i, ∀ line ∈ lines, fileKey (junk i) line ≠ some key) →
      configSetLoop key value junk lines = (false, lines.flatMap cstr)
  | [], _, _ => rfl
  | line :: lines, junk, h => by
    have ih := configSetLoop_copies value fun i l hl => h (i + 1) l (List.mem_cons_of_mem _ hl)
    rw [configSetLoop, ih, if_neg (h 0 line List.mem_cons_self), List.flatMap_cons]

theorem fileKey_eq_iff_isSome (junk : Junk) (line : List Char) :
    fileKey junk line = some key ↔ (hitValue key junk line).isSome = true := by
  unfold fileKey hitValue
  cases parseConfigLine (cstr line) with
  | none => simp
  | some kv =>
    simp only [Option.map_some, Option.some.injEq]
    split_ifs with h <;> simp [h]

/-- With a byte behind an unterminated key, nothing is replaced. -/
theorem configSet_appended (key : ConfigKey) (value : ConfigValue) (hnul : nul ∉ file.getD [])
    (h : ¬ Replaced file key.str) :
    configSet (fun _ => ⟨['x'], []⟩) key.str value.str file =
      (.success, some (file.getD [] ++ pairLine key.str value.str)) := by
  obtain ⟨-, hklen, -⟩ := isValidKey_iff.mp key.valid
  have hnone : ∀ line ∈ configLines (file.getD []), hitValue key.str ⟨['x'], []⟩ line = none := by
    intro line hline
    refine hitValue_none_of_not_defined hklen (fun hlen => ?_) _
    exact Bool.eq_false_iff.mpr fun hm => h ⟨hlen, line, hline, hm⟩
  have hcopies : configSetLoop key.str value.str (fun _ => ⟨['x'], []⟩) (configLines (file.getD [])) =
      (false, (configLines (file.getD [])).flatMap cstr) := by
    refine configSetLoop_copies value.str fun _ line hline hf => ?_
    rw [fileKey_eq_iff_isSome, hnone line hline] at hf
    exact Bool.noConfusion hf
  have hflat : (configLines (file.getD [])).flatMap cstr = file.getD [] := by
    rw [List.flatMap, List.map_congr_left (cstr_configLines hnul), List.map_id']
    exact flatten_fgetsAll _ _
  rw [configSet_eq, hcopies, hflat]
  rfl

/-! ### The condition is enough for the other keys -/

/-- A missing file has no keys. -/
theorem configGet_eq (junk : ℕ → Junk) (key buf : CStr) (n : ℕ) (file : Option (List Char)) :
    configGet junk key buf n file =
      if !isValidKey key || !isValidValue buf || n = 0 then (.errorInvalidParam, buf)
      else configGetLoop key buf n junk (configLines (file.getD [])) := by
  unfold configGet
  cases file <;> rfl

theorem configGet_congr {f g : Option (List Char)}
    (h : ∀ junk, lookupValue key junk (configLines (f.getD [])) =
      lookupValue key junk (configLines (g.getD []))) (junk : ℕ → Junk) :
    configGet junk key buf n f = configGet junk key buf n g := by
  rw [configGet_eq, configGet_eq, configGetLoop_eq, configGetLoop_eq, h]

theorem lookupValue_rewritten (key : ConfigKey) (value : ConfigValue) (key' : ConfigKey)
    (hne : key'.str ≠ key.str) {lines outs : List (List Char)}
    (h : Rewrites key.str value.str lines outs) (junk : ℕ → Junk) :
    lookupValue key'.str junk lines = lookupValue key'.str junk outs :=
  lookupValue_congr junk <| h.imp fun _ _ hab =>
    hitValue_rewritten key value (isValidKey_iff.mp key'.valid).2.1 hne hab

/-- A file and what is appended to it, piece by piece. -/
theorem configLines_append (f t : List Char) : configLines (f ++ t) =
    fullPieces (configMaxLineLength - 1) f ++
      configLines (openPart (configMaxLineLength - 1) f ++ t) :=
  fgetsAll_append (by decide) f t

theorem lookupValue_appended {k : CStr} {f t : List Char}
    (h : Defined (some f) k ∨ ∀ junk, lookupValue k junk (configLines
        (openPart (configMaxLineLength - 1) f ++ t)) =
      lookupValue k junk (configLines (openPart (configMaxLineLength - 1) f))) (junk : ℕ → Junk) :
    lookupValue k junk (configLines (f ++ t)) = lookupValue k junk (configLines f) := by
  have hf := configLines_append f []
  rw [List.append_nil, List.append_nil] at hf
  rw [configLines_append, hf, lookupValue_append, lookupValue_append]
  rcases h with ⟨hk, p, hp, hm⟩ | h
  · have hsome : (lookupValue k junk (fullPieces (configMaxLineLength - 1) f)).isSome = true :=
      lookupValue_isSome junk ⟨p, hp, fun j => (hitValue_isSome hk j p).trans hm⟩
    rw [Option.or_of_isSome hsome, Option.or_of_isSome hsome]
  · rw [h]

/-! ### The open part with the pair behind it -/

section Glued

variable {o t k w : List Char}

theorem openPart_spec (hnul : nul ∉ file.getD []) :
    '\n' ∉ openPart (configMaxLineLength - 1) (file.getD []) ∧
      (openPart (configMaxLineLength - 1) (file.getD [])).length < configMaxLineLength - 1 ∧
        nul ∉ openPart (configMaxLineLength - 1) (file.getD []) := by
  obtain ⟨-, hnl, hlen, -⟩ := fgets_spec (by decide : 0 < configMaxLineLength - 1) (file.getD [])
  exact ⟨hnl, hlen, fun hm => hnul (mem_of_mem_openPart (by decide) hm)⟩

theorem noNul_of_mem (ho : nul ∉ o) (key : ConfigKey) (value : ConfigValue) {p : List Char}
    (hp : p ∈ [o, glued o (pairLine key.str value.str), outgrown o (pairLine key.str value.str)]) :
    nul ∉ p := by
  have hall : nul ∉ o ++ pairLine key.str value.str := by
    simp only [List.mem_append, not_or]
    exact ⟨ho, noNul_pairLine key value⟩
  simp only [List.mem_cons, List.not_mem_nil, or_false] at hp
  rcases hp with rfl | rfl | rfl
  · exact ho
  · exact fun hm => hall (List.mem_of_mem_take hm)
  · exact fun hm => hall (List.mem_of_mem_drop hm)

theorem key_of_entry {p : List Char} (hp : nul ∉ p) (h : entryOf p = some (k, w)) :
    isValidKey k = true ∧ nul ∉ k := by
  rw [entryOf, cstr_of_noNul hp] at h
  obtain ⟨⟨hvalid, -, -, -⟩, w0, w1, w2, w3, -, -, -, -, rfl⟩ := parseConfigLine_iff.mp h
  refine ⟨hvalid, fun hm => hp ?_⟩
  exact List.mem_append_right _ (List.mem_append_left _ hm)

/-- A piece without the key gives nothing to it. -/
theorem hitValue_eq_none {p : List Char} (hk : k.length < configMaxKeyLength)
    (h : ∀ w, entryOf p ≠ some (k, w)) (j : Junk) : hitValue k j p = none := by
  unfold hitValue
  cases hparse : parseConfigLine (cstr p) with
  | none => rfl
  | some kw =>
    refine if_neg fun heq => h kw.2 ?_
    rw [entryOf, hparse, ← readArray_eq_imp hk heq]

/-- A terminated key is given its value. -/
theorem hitValue_eq_some {p : List Char} (hk : k.length < configMaxKeyLength - 1)
    (h : entryOf p = some (k, w)) (j : Junk) :
    hitValue k j p = some (readArray configMaxValueLength j.value w) := by
  unfold hitValue
  rw [show parseConfigLine (cstr p) = some (k, w) from h]
  exact if_pos ((readArray_key hk _ _).mpr rfl)

/-- With terminated arrays a key is given its value. -/
theorem hitValue_nil_iff {p : List Char} :
    hitValue k ⟨[], []⟩ p = some w ↔ entryOf p = some (k, w) := by
  unfold hitValue entryOf
  cases parseConfigLine (cstr p) with
  | none => simp
  | some kw =>
    obtain ⟨k', w'⟩ := kw
    simp only [readArray_nil]
    split_ifs with hkey
    · simp [hkey]
    · simp [hkey]

/-- Text behind a line with an entry leaves it its key. -/
theorem parse_append_key {k' w' : CStr} (h : parseConfigLine o = some (k, w))
    (h' : parseConfigLine (o ++ t) = some (k', w')) : k' = k := by
  obtain ⟨⟨hk, -, hbare, -⟩, w0, w1, w2, w3, hw0, hw1, -, -, rfl⟩ := parseConfigLine_iff.mp h
  obtain ⟨⟨hk', -, hbare', -⟩, u0, u1, u2, u3, hu0, hu1, -, -, heq⟩ := parseConfigLine_iff.mp h'
  have hcut : (w0 ++ (k ++ w1)) ++ '=' :: (w2 ++ (w ++ w3) ++ t) =
      (u0 ++ (k' ++ u1)) ++ '=' :: (u2 ++ (w' ++ u3)) := by
    simpa [lineOf] using heq
  obtain ⟨hside, -⟩ := cut_unique hcut (eq_not_mem_side hk hw0 hw1) (eq_not_mem_side hk' hu0 hu1)
  rw [← trim_surround hbare hw0 hw1, hside, trim_surround hbare' hu0 hu1]

/-- Text behind a line with an entry leaves it its value if it is blank only. -/
theorem blank_of_parse_append (h : parseConfigLine o = some (k, w))
    (h' : parseConfigLine (o ++ t) = some (k, w)) : Blank t := by
  obtain ⟨⟨hk, -, -, hbare⟩, w0, w1, w2, w3, hw0, hw1, hw2, hw3, rfl⟩ := parseConfigLine_iff.mp h
  obtain ⟨-, u0, u1, u2, u3, hu0, hu1, hu2, hu3, heq⟩ := parseConfigLine_iff.mp h'
  have hcut : (w0 ++ (k ++ w1)) ++ '=' :: (w2 ++ (w ++ (w3 ++ t))) =
      (u0 ++ (k ++ u1)) ++ '=' :: (u2 ++ (w ++ u3)) := by
    simpa [lineOf] using heq
  obtain ⟨-, hside⟩ := cut_unique hcut (eq_not_mem_side hk hw0 hw1) (eq_not_mem_side hk hu0 hu1)
  have hrest : Blank (w3 ++ t) := by
    by_cases hw : w = []
    · rw [hw, List.nil_append, List.nil_append] at hside
      have hall : Blank (w2 ++ (w3 ++ t)) := hside ▸ List.forall_mem_append.mpr ⟨hu2, hu3⟩
      exact (List.forall_mem_append.mp hall).2
    · have hdrop := congrArg (List.dropWhile isspace) hside
      rw [dropWhile_surround hw2 hbare hw, dropWhile_surround hu2 hbare hw] at hdrop
      exact List.append_cancel_left hdrop ▸ hu3
  exact (List.forall_mem_append.mp hrest).2

theorem glued_eq (ho : o.length < configMaxLineLength - 1) :
    glued o t = o ++ t.take (configMaxLineLength - 1 - o.length) := by
  rw [glued, List.take_append, List.take_of_length_le ho.le]

/-- The open part alone. -/
theorem lookupValue_open (ho : '\n' ∉ o) (hlen : o.length < configMaxLineLength - 1)
    (junk : ℕ → Junk) : lookupValue k junk (configLines o) = hitValue k (junk 0) o := by
  by_cases hne : o = []
  · rw [hne]
    rfl
  · rw [configLines, fgetsAll_open ho hne hlen.le, lookupValue, lookupValue, Option.or_none]

/-- With the pair behind it, it is one piece or two. -/
theorem lookupValue_glued (key : ConfigKey) (value : ConfigValue) (ho : '\n' ∉ o)
    (hlen : o.length < configMaxLineLength - 1) (junk : ℕ → Junk) :
    lookupValue k junk (configLines (o ++ pairLine key.str value.str)) =
      (hitValue k (junk 0) (glued o (pairLine key.str value.str))).or
        (hitValue k (junk 1) (outgrown o (pairLine key.str value.str))) := by
  have hpos : 0 < configMaxLineLength - 1 := by decide
  obtain ⟨q, hq⟩ : ∃ q, q = o ++ (key.str ++ '=' :: value.str) := ⟨_, rfl⟩
  have hnl : '\n' ∉ q := by
    rw [hq, List.mem_append, not_or]
    exact ⟨ho, newline_not_mem_pair key value⟩
  have hqlen : q.length < configMaxLineLength - 1 + (configMaxLineLength - 1) := by
    rw [hq, List.length_append]
    exact Nat.add_lt_add hlen (length_pair_lt key value)
  have htext : o ++ pairLine key.str value.str = q ++ ['\n'] := by
    rw [pairLine_eq, hq]
    simp only [List.append_assoc]
  rw [glued, outgrown, htext]
  by_cases hshort : q.length < configMaxLineLength - 1
  · have hpiece : FullPiece (configMaxLineLength - 1) (q ++ ['\n']) := .inr ⟨q, hnl, hshort, rfl⟩
    have hlines : configLines (q ++ ['\n']) = [q ++ ['\n']] := by
      have := fgetsAll_full hpos hpiece []
      rwa [List.append_nil] at this
    rw [hlines, List.take_of_length_le hpiece.length_le, List.drop_of_length_le hpiece.length_le,
      lookupValue, lookupValue]
    rfl
  · obtain ⟨n, hn⟩ : ∃ n, n = configMaxLineLength - 1 := ⟨_, rfl⟩
    rw [← hn] at hshort hqlen hpos ⊢
    have htake : (q ++ ['\n']).take n = q.take n := List.take_append_of_le_length (by omega)
    have hdrop : (q ++ ['\n']).drop n = q.drop n ++ ['\n'] := List.drop_append_of_le_length (by omega)
    have hfirst : FullPiece n (q.take n) := by
      refine .inl ⟨fun hm => hnl (List.mem_of_mem_take hm), ?_⟩
      rw [List.length_take]
      omega
    have hsecond : FullPiece n (q.drop n ++ ['\n']) := by
      refine .inr ⟨_, fun hm => hnl (List.mem_of_mem_drop hm), ?_, rfl⟩
      rw [List.length_drop]
      omega
    have hlines : configLines (q ++ ['\n']) = [q.take n, q.drop n ++ ['\n']] := by
      have hrest := fgetsAll_full hpos hsecond []
      rw [List.append_nil] at hrest
      rw [configLines, ← hn, ← List.take_append_drop n (q ++ ['\n']), htake, hdrop,
        fgetsAll_full hpos hfirst, hrest]
      rfl
    rw [hlines, htake, hdrop, lookupValue, lookupValue, lookupValue, Option.or_none]

/-- What the two pieces give, entry by entry. -/
theorem hitValue_glued_iff (hk : k.length < configMaxKeyLength) (hlen : o.length < configMaxLineLength - 1)
    (ho : nul ∉ o) (ht : nul ∉ t) :
    (∀ j j', (hitValue k j (glued o t)).or (hitValue k j' (outgrown o t)) = hitValue k j o) ↔
      (∀ p ∈ [o, glued o t, outgrown o t], ∀ w, entryOf p ≠ some (k, w)) ∨ ReadsOn o t k := by
  have hopen : entryOf o = parseConfigLine o := congrArg parseConfigLine (cstr_of_noNul ho)
  have hglued : entryOf (glued o t) =
      parseConfigLine (o ++ t.take (configMaxLineLength - 1 - o.length)) := by
    rw [glued_eq hlen, entryOf, cstr_of_noNul]
    simp only [List.mem_append, not_or]
    exact ⟨ho, fun hm => ht (List.mem_of_mem_take hm)⟩
  have hunterminated : ¬ k.length < configMaxKeyLength - 1 → ∀ p v, hitValue k ⟨['x'], v⟩ p = none :=
    fun hlong p v => hitValue_none_of_not_defined hk (fun h => absurd h hlong) v
  constructor
  · intro h
    have hnil := h ⟨[], []⟩ ⟨[], []⟩
    by_cases hentry : ∃ w, entryOf o = some (k, w)
    · obtain ⟨w, hw⟩ := hentry
      refine .inr ⟨w, hw, ?_⟩
      rw [hitValue_nil_iff.mpr hw] at hnil
      cases hfirst : hitValue k ⟨[], []⟩ (glued o t) with
      | some w' =>
        -- the piece still has the key, so it has its value
        rw [hfirst, Option.some_or] at hnil
        have hsame : entryOf (glued o t) = some (k, w) := hitValue_nil_iff.mp (hfirst.trans hnil)
        refine .inl ⟨blank_of_parse_append (hopen ▸ hw) (hglued ▸ hsame), ?_⟩
        refine or_iff_not_imp_left.mpr fun hlong w' hrest => ?_
        have hx := h ⟨['x'], []⟩ ⟨[], []⟩
        rw [hunterminated hlong, hunterminated hlong, Option.none_or, hitValue_nil_iff.mpr hrest] at hx
        exact absurd hx (Option.some_ne_none _)
      | none =>
        rw [hfirst, Option.none_or] at hnil
        have hrest : entryOf (outgrown o t) = some (k, w) := hitValue_nil_iff.mp hnil
        have hnone : entryOf (glued o t) = none := by
          cases hparse : entryOf (glued o t) with
          | none => rfl
          | some kw =>
            obtain ⟨k', w'⟩ := kw
            obtain rfl : k' = k := parse_append_key (hopen ▸ hw) (hglued ▸ hparse)
            rw [hitValue_nil_iff.mpr hparse] at hfirst
            exact absurd hfirst (Option.some_ne_none _)
        have hskip : ∀ j, hitValue k j (glued o t) = none :=
          hitValue_eq_none hk fun w' hw' => Option.some_ne_none _ (hw'.symm.trans hnone)
        have hshort : k.length < configMaxKeyLength - 1 := by
          by_contra hlong
          have hx := h ⟨[], []⟩ ⟨['x'], []⟩
          rw [hskip, Option.none_or, hunterminated hlong, hitValue_nil_iff.mpr hw] at hx
          exact absurd hx.symm (Option.some_ne_none _)
        refine .inr ⟨hnone, hrest, hshort, ?_⟩
        by_contra hlong
        have hx := h ⟨[], []⟩ ⟨[], ['x']⟩
        rw [hskip, Option.none_or, hitValue_eq_some hshort hrest, hitValue_eq_some hshort hw,
          readArray_nil, Option.some.injEq, readArray, if_neg hlong] at hx
        simpa using congrArg List.length hx
    · refine .inl fun p hp w hw => hentry ?_
      have hnone : hitValue k ⟨[], []⟩ o = none :=
        hitValue_eq_none hk (fun w' hw' => hentry ⟨w', hw'⟩) _
      rw [hnone, Option.or_eq_none_iff] at hnil
      simp only [List.mem_cons, List.not_mem_nil, or_false] at hp
      rcases hp with rfl | rfl | rfl
      · exact ⟨w, hw⟩
      · exact absurd (hnil.1.symm.trans (hitValue_nil_iff.mpr hw)) (Option.some_ne_none _).symm
      · exact absurd (hnil.2.symm.trans (hitValue_nil_iff.mpr hw)) (Option.some_ne_none _).symm
  · rintro (hnone | ⟨w, hw, ⟨hblank, hrest⟩ | ⟨hnone, hrest, hshort, hvalue⟩⟩) j j'
    · have hall := fun p hp j => hitValue_eq_none (p := p) hk (hnone p hp) j
      rw [hall o List.mem_cons_self, hall _ (List.mem_cons_of_mem _ List.mem_cons_self),
        hall _ (List.mem_cons_of_mem _ (List.mem_cons_of_mem _ List.mem_cons_self))]
      rfl
    · have hsame : entryOf (glued o t) = entryOf o := by
        rw [hglued, hopen]
        exact parseConfigLine_congr (trim_append_right hblank o)
      have hhit : hitValue k j (glued o t) = hitValue k j o := by
        unfold hitValue
        rw [show parseConfigLine (cstr (glued o t)) = parseConfigLine (cstr o) from hsame]
      rw [hhit]
      rcases hrest with hshort | hrest
      · rw [hitValue_eq_some hshort hw, Option.some_or]
      · rw [hitValue_eq_none hk hrest, Option.or_none]
    · rw [hitValue_eq_none hk (fun w' hw' => Option.some_ne_none _ (hw'.symm.trans hnone)),
        Option.none_or, hitValue_eq_some hshort hrest, hitValue_eq_some hshort hw, readArray,
        if_pos hvalue, readArray, if_pos hvalue]

/-- **The open part with the pair behind it reads alike** for a key that none of
the pieces has, or whose entry is read as before. -/
theorem glued_iff (k key : ConfigKey) (value : ConfigValue) (hnl : '\n' ∉ o)
    (hlen : o.length < configMaxLineLength - 1) (ho : nul ∉ o) :
    (∀ junk, lookupValue k.str junk (configLines (o ++ pairLine key.str value.str)) =
        lookupValue k.str junk (configLines o)) ↔
      (∀ p ∈ [o, glued o (pairLine key.str value.str), outgrown o (pairLine key.str value.str)],
        ∀ w, entryOf p ≠ some (k.str, w)) ∨ ReadsOn o (pairLine key.str value.str) k.str := by
  have hk := (isValidKey_iff.mp k.valid).2.1
  rw [← hitValue_glued_iff hk hlen ho (noNul_pairLine key value)]
  constructor
  · intro h j j'
    have hjunk := h fun i => if i = 0 then j else j'
    rwa [lookupValue_glued key value hnl hlen, lookupValue_open hnl hlen] at hjunk
  · intro h junk
    rw [lookupValue_glued key value hnl hlen, lookupValue_open hnl hlen, h]

end Glued

/-- The other keys read alike where the pair can be appended. -/
theorem Appends.lookup {key : ConfigKey} {value : ConfigValue} (h : Appends file key.str value.str)
    (hnul : nul ∉ file.getD []) (k : ConfigKey) (hk : k.str ≠ key.str) :
    Defined file k.str ∨ ∀ junk, lookupValue k.str junk (configLines
        (openPart (configMaxLineLength - 1) (file.getD []) ++ pairLine key.str value.str)) =
      lookupValue k.str junk (configLines (openPart (configMaxLineLength - 1) (file.getD []))) := by
  refine or_iff_not_imp_left.mpr fun hdefined => ?_
  obtain ⟨hnl, hlen, honul⟩ := openPart_spec hnul
  refine (glued_iff k key value hnl hlen honul).mpr (or_iff_not_imp_right.mpr ?_)
  intro hreads p hp w hentry
  rcases h.otherKeys _ rfl p hp _ w hentry with hkey | hdef | hread
  · exact hk hkey
  · exact hdefined hdef
  · exact hreads hread

/-! ### The condition is enough for comments and blank lines -/

theorem matchesKey_newline (o : List Char) : matchesKey key (o ++ ['\n']) = matchesKey key o := by
  have hparse : parseConfigLine (cstr (o ++ ['\n'])) = parseConfigLine (cstr o) := by
    by_cases hnul : nul ∈ o
    · -- the newline stands behind the terminator
      obtain ⟨a, b, rfl, ha⟩ := List.eq_append_cons_of_mem hnul
      rw [List.append_assoc, List.cons_append, cstr_append_nul ha, cstr_append_nul ha]
    · have hnul' : nul ∉ o ++ ['\n'] := by
        simp only [List.mem_append, List.mem_singleton, not_or]
        exact ⟨hnul, by decide⟩
      rw [cstr_of_noNul hnul, cstr_of_noNul hnul']
      exact parseConfigLine_congr (trim_append_right (by simp [isspace_newline]) o)
  unfold matchesKey
  rw [hparse]

theorem matchesKey_blank {p : List Char} (h : Blank p) : matchesKey key p = false := by
  have htrim : trimWhitespace (cstr p) = [] :=
    trim_eq_nil_iff.mpr fun c hc => h c ((List.takeWhile_prefix _).subset hc)
  simp [matchesKey, parseConfigLine, htrim]

/-- The pieces of a line that parse to the key are the pair itself. -/
def Clean (key value : CStr) (l : List Char) : Prop :=
  ∀ p ∈ configLines l, matchesKey key p = true → p = key ++ '=' :: value

theorem mem_of_mem_configLines {l p : List Char} {c : Char} (hp : p ∈ configLines l) (hc : c ∈ p) :
    c ∈ l := by
  rw [← flatten_fgetsAll (configMaxLineLength - 1) l]
  exact List.mem_flatten.mpr ⟨p, hp, hc⟩

theorem clean_of_blank {l : List Char} (h : Blank l) : Clean key value l := by
  intro p hp hm
  rw [matchesKey_blank fun c hc => h c (mem_of_mem_configLines hp hc)] at hm
  exact Bool.noConfusion hm

theorem Rewrites.eq_self : ∀ {ls outs : List (List Char)}, Rewrites key value ls outs →
    (∀ p ∈ ls, matchesKey key p = true → pairLine key value = p) → outs = ls
  | _, _, .nil, _ => rfl
  | p :: ls, _ :: _, .cons hab h, hself => by
    rw [Rewrites.eq_self h fun q hq => hself q (List.mem_cons_of_mem _ hq)]
    rcases hab with rfl | ⟨hm, rfl⟩
    · rfl
    · rw [hself p List.mem_cons_self hm]

section Lines

variable {key : ConfigKey} {value : ConfigValue} {l t : List Char} {outs : List (List Char)}

/-- The full pieces of a clean line are copied. -/
theorem Clean.fullPieces_eq (hclean : Clean key.str value.str l) (hl : '\n' ∉ l)
    (h : Rewrites key.str value.str (fullPieces (configMaxLineLength - 1) l) outs) :
    outs = fullPieces (configMaxLineLength - 1) l := by
  refine h.eq_self fun p hp hm => ?_
  have hpair : p = key.str ++ '=' :: value.str := by
    refine hclean p ?_ hm
    rw [configLines, fgetsAll_eq (by decide)]
    exact List.mem_append_left _ hp
  have hlen := length_fullPiece_line (by decide) hl hp
  rw [hpair] at hlen
  exact absurd hlen (length_pair_lt key value).ne

/-- A clean line that ends in a newline is copied. -/
theorem Clean.flatten_line (hclean : Clean key.str value.str l) (hl : '\n' ∉ l)
    (h : Rewrites key.str value.str (fullPieces (configMaxLineLength - 1) l ++
      [openPart (configMaxLineLength - 1) l ++ ['\n']]) outs) :
    outs.flatten = l ++ ['\n'] := by
  have hpos : 0 < configMaxLineLength - 1 := by decide
  obtain ⟨-, -, -, hsplit⟩ := fgets_spec hpos l
  obtain ⟨o₁, o₂, rfl, h1, h2⟩ := h.append_left
  have hlast : o₂ = [openPart (configMaxLineLength - 1) l ++ ['\n']] := by
    refine h2.eq_self fun p hp hm => ?_
    rw [List.mem_singleton.mp hp] at hm ⊢
    rw [matchesKey_newline] at hm
    have hne : openPart (configMaxLineLength - 1) l ≠ [] := by
      intro hnil
      rw [hnil, matchesKey_blank (by simp [Blank])] at hm
      exact Bool.noConfusion hm
    have hmem : openPart (configMaxLineLength - 1) l ∈ configLines l := by
      rw [configLines, fgetsAll_eq hpos, if_neg hne]
      exact List.mem_append_right _ List.mem_cons_self
    rw [hclean _ hmem hm, pairLine_eq]
  rw [hclean.fullPieces_eq hl h1, hlast]
  conv_rhs => rw [hsplit]
  simp

/-- A clean last line is copied, or gets a newline. -/
theorem Clean.flatten_last (hclean : Clean key.str value.str l) (hl : '\n' ∉ l)
    (h : Rewrites key.str value.str (configLines l) outs) :
    outs.flatten = l ∨ outs.flatten = l ++ ['\n'] := by
  have hpos : 0 < configMaxLineLength - 1 := by decide
  obtain ⟨-, -, -, hsplit⟩ := fgets_spec hpos l
  have hlines := fgetsAll_eq hpos l
  rw [configLines, hlines] at h
  obtain ⟨o₁, o₂, rfl, h1, h2⟩ := h.append_left
  rw [hclean.fullPieces_eq hl h1]
  split_ifs at h2 with hopen
  · cases h2
    refine .inl ?_
    rw [hopen, List.append_nil] at hsplit
    rw [List.append_nil, ← hsplit]
  · rw [if_neg hopen] at hlines
    cases h2 with
    | cons hab hnil =>
      cases hnil
      rcases hab with rfl | ⟨hm, rfl⟩
      · left
        conv_rhs => rw [hsplit]
        simp
      · right
        have hmem : openPart (configMaxLineLength - 1) l ∈ configLines l := by
          rw [configLines, hlines]
          exact List.mem_append_right _ List.mem_cons_self
        conv_rhs => rw [hsplit, hclean _ hmem hm]
        simp [pairLine]

/-- What is written for a line ends in a newline. -/
theorem Rewrites.exists_line
    (h : Rewrites key.str value.str (fullPieces (configMaxLineLength - 1) l ++
      [openPart (configMaxLineLength - 1) l ++ ['\n']]) outs) :
    ∃ m, outs.flatten = m ++ ['\n'] := by
  obtain ⟨o₁, o₂, rfl, -, h2⟩ := h.append_left
  cases h2 with
  | cons hab hnil =>
    cases hnil
    rcases hab with rfl | ⟨-, rfl⟩
    · exact ⟨o₁.flatten ++ openPart (configMaxLineLength - 1) l, by simp⟩
    · exact ⟨o₁.flatten ++ (key.str ++ '=' :: value.str), by simp [pairLine]⟩

theorem keptLines_append (m t : List Char) :
    keptLines (m ++ '\n' :: t) = keptLines m ++ keptLines t := by
  unfold keptLines textLines
  rw [List.splitOn_append_cons_self, List.filter_append]

/-- **Clean comments and blank lines stay** where pieces are rewritten. -/
theorem keptLines_rewritten {s : List Char}
    (hclean : ∀ l ∈ textLines s, isCommentLine l = true → Clean key.str value.str l)
    (h : Rewrites key.str value.str (configLines s) outs) :
    (keptLines s).Sublist (keptLines outs.flatten) := by
  have hkept : ∀ l ∈ textLines s, isKeptLine l = true → Clean key.str value.str l := by
    intro l hl hk
    rcases Bool.or_eq_true_iff.mp hk with hcomment | hblank
    · exact hclean l hl hcomment
    · exact clean_of_blank (trim_eq_nil_iff.mp (of_decide_eq_true hblank))
  clear hclean
  induction s using lines_induction generalizing outs with
  | last l hl =>
    rw [textLines_last hl] at hkept
    have hlines : keptLines l = [l].filter isKeptLine := by rw [keptLines, textLines_last hl]
    by_cases hk : isKeptLine l = true
    · rcases (hkept l List.mem_cons_self hk).flatten_last hl h with hflat | hflat
      · rw [hflat]
      · rw [hflat, keptLines_append]
        exact List.sublist_append_left _ _
    · rw [hlines, List.filter_cons_of_neg hk]
      exact List.nil_sublist _
  | line l t hl ih =>
    rw [textLines_line hl] at hkept
    rw [configLines, fgetsAll_line (by decide), ← List.singleton_append, ← List.append_assoc] at h
    obtain ⟨o₁, o₂, rfl, h1, h2⟩ := h.append_left
    have hrest : (keptLines t).Sublist (keptLines o₂.flatten) :=
      ih h2 fun l' hl' => hkept l' (List.mem_cons_of_mem _ hl')
    have hcut : ∀ m, o₁.flatten = m ++ ['\n'] →
        keptLines (o₁ ++ o₂).flatten = keptLines m ++ keptLines o₂.flatten := by
      intro m hm
      rw [List.flatten_append, hm, List.append_assoc]
      exact keptLines_append m _
    rw [keptLines_append]
    by_cases hk : isKeptLine l = true
    · have hcopy := (hkept l List.mem_cons_self hk).flatten_line hl h1
      rw [hcut l hcopy]
      exact (List.append_sublist_append_left _).mpr hrest
    · obtain ⟨m, hm⟩ := h1.exists_line
      have hnone : keptLines l = [] := by
        rw [keptLines, textLines_last hl, List.filter_cons_of_neg hk, List.filter_nil]
      rw [hcut m hm, hnone, List.nil_append]
      exact hrest.trans (List.sublist_append_right _ _)

end Lines

/-- **Appending the pair keeps comments and blank lines** if and only if the
last line is neither. -/
theorem keptLines_appended_iff (key : ConfigKey) (value : ConfigValue) (s : List Char) :
    (keptLines s).Sublist (keptLines (s ++ pairLine key.str value.str)) ↔
      ∀ l ∈ (textLines s).getLast?, l = [] ∨ isKeptLine l = false := by
  obtain ⟨init, last, hlast, hlines, happend⟩ := textLines_append s
  have hpair := newline_not_mem_pair key value
  have hnil : isKeptLine [] = true := by decide
  have hafter : keptLines (s ++ pairLine key.str value.str) = init.filter isKeptLine ++
      [last ++ (key.str ++ '=' :: value.str), []].filter isKeptLine := by
    rw [keptLines, pairLine_eq, happend _ [] hpair, textLines_last (by simp), List.filter_append]
  have hbefore : keptLines s = init.filter isKeptLine ++ [last].filter isKeptLine := by
    rw [keptLines, hlines, List.filter_append]
  rw [hbefore, hafter, hlines, List.getLast?_concat]
  simp only [Option.mem_some_iff, forall_eq']
  constructor
  · intro h
    by_contra hno
    rw [not_or, Bool.not_eq_false] at hno
    obtain ⟨hne, hkept⟩ := hno
    -- one occurrence of the last line is lost
    have hcount := h.count_le last
    have hzero : ([last ++ (key.str ++ '=' :: value.str), []].filter isKeptLine).count last = 0 := by
      refine List.count_eq_zero.mpr fun hm => ?_
      rcases List.mem_cons.mp (List.mem_filter.mp hm).1 with heq | heq
      · have := congrArg List.length heq
        simp at this
      · exact hne (List.mem_singleton.mp heq)
    rw [List.count_append, List.count_append, hzero, List.filter_cons_of_pos hkept,
      List.count_cons_self] at hcount
    omega
  · rintro (rfl | hkept)
    · refine (List.append_sublist_append_left _).mpr ?_
      exact (List.sublist_cons_self _ _).filter _
    · rw [List.filter_cons_of_neg (by simp [hkept]), List.filter_nil, List.append_nil]
      exact List.sublist_append_left _ _

/-- **The condition is enough.** -/
theorem FrameKept.frame {key : ConfigKey} {value : ConfigValue} (h : FrameKept file key value) :
    Frame file key value := by
  intro junk _
  rcases configSet_cases key value h.copies junk with ⟨outs, hr, hset⟩ | ⟨hno, hset⟩
  · rw [hset]
    refine ⟨fun key' buf n junk' hne => configGet_congr (fun junk => ?_) junk',
      keptLines_rewritten h.comments hr⟩
    have hlines : configLines outs.flatten = outs := fgetsAll_rewritten key value hr
    rw [Option.getD_some, hlines, lookupValue_rewritten key value key' hne hr]
  · rw [hset]
    have happ := h.ending.resolve_left hno
    refine ⟨fun key' buf n junk' hne => configGet_congr (fun junk => ?_) junk',
      (keptLines_appended_iff key value _).mpr happ.lastLine⟩
    exact lookupValue_appended (happ.lookup (h.copies.noNul hno) key' hne) junk

/-! ### The condition is necessary -/

theorem fileKey_nil (w : CStr) (line : List Char) :
    fileKey ⟨[], w⟩ line = some key ↔ matchesKey key line = true := by
  unfold fileKey matchesKey
  simp only [readArray_nil, decide_eq_true_eq]

/-- What is written if every array is terminated. -/
def replacePieces (key value : CStr) (lines : List (List Char)) : List (List Char) :=
  lines.map fun line => if matchesKey key line = true then pairLine key value else line

theorem configSetLoop_nil (value : CStr) : ∀ {lines : List (List Char)},
    (∀ line ∈ lines, cstr line = line ∨ matchesKey key line = true) →
      configSetLoop key value (fun _ => ⟨[], []⟩) lines =
        (lines.any (matchesKey key), (replacePieces key value lines).flatten)
  | [], _ => rfl
  | line :: lines, h => by
    have ih := configSetLoop_nil value fun l hl => h l (List.mem_cons_of_mem _ hl)
    have hcons : replacePieces key value (line :: lines) =
        (if matchesKey key line = true then pairLine key value else line) ::
          replacePieces key value lines := rfl
    rw [configSetLoop, ih, hcons, List.flatten_cons, List.any_cons]
    by_cases hm : matchesKey key line = true
    · simp only [(fileKey_nil _ _).mpr hm, hm, ↓reduceIte, Bool.true_or]
    · have hf := mt (fileKey_nil [] line).mp hm
      have hcopy : cstr line = line := (h line List.mem_cons_self).resolve_right hm
      rw [Bool.not_eq_true] at hm
      simp only [hf, hm, Bool.false_eq_true, ↓reduceIte, Bool.false_or, hcopy]

theorem replacePieces_rewrites (key value : CStr) : ∀ lines : List (List Char),
    Rewrites key value lines (replacePieces key value lines)
  | [] => .nil
  | line :: lines => by
    refine .cons ?_ (replacePieces_rewrites key value lines)
    by_cases hm : matchesKey key line = true
    · exact .inr ⟨hm, if_pos hm⟩
    · exact .inl (if_neg hm)

/-- Only the pair has the key then. -/
theorem eq_pairLine_of_replaced {lines : List (List Char)} {out : List Char}
    (hout : out ∈ replacePieces key value lines) (hm : matchesKey key out = true) :
    out = pairLine key value := by
  obtain ⟨line, -, rfl⟩ := List.mem_map.mp hout
  split_ifs at hm ⊢
  · rfl
  · contradiction

/-- A comment that stays is clean. -/
theorem Frame.comments {key : ConfigKey} {value : ConfigValue} (h : Frame file key value)
    (hcopies : CopiesWhole file key.str) {l : List Char} (hl : l ∈ textLines (file.getD []))
    (hcomment : isCommentLine l = true) : Clean key.str value.str l := by
  intro p hp hm
  have hpos : 0 < configMaxLineLength - 1 := by decide
  obtain ⟨-, -, hkc⟩ := isValidKey_iff.mp key.valid
  -- the piece is one of the file, up to its newline
  have hexists : ∃ line ∈ configLines (file.getD []), matchesKey key.str line = true := by
    rcases mem_fgetsAll_line hpos hl hp with hpf | hpf
    · exact ⟨p, hpf, hm⟩
    · exact ⟨_, hpf, (matchesKey_newline p).trans hm⟩
  -- so the file is rewritten, and the line is still there
  have hset : configSet (fun _ => ⟨[], []⟩) key.str value.str file =
      (.success, some (replacePieces key.str value.str (configLines (file.getD []))).flatten) := by
    rw [configSet_eq, configSetLoop_nil value.str fun l hl => (hcopies.cstr l hl).imp_right And.right]
    simp only [List.any_eq_true.mpr hexists, ↓reduceIte]
  have hkept := (h _ (by rw [hset])).2
  rw [hset, Option.getD_some] at hkept
  have hlkept : l ∈ keptLines (file.getD []) :=
    List.mem_filter.mpr ⟨hl, Bool.or_eq_true_iff.mpr (.inl hcomment)⟩
  have hlines : configLines (replacePieces key.str value.str (configLines (file.getD []))).flatten =
      replacePieces key.str value.str (configLines (file.getD [])) :=
    fgetsAll_rewritten key value (replacePieces_rewrites _ _ _)
  have hnl : '\n' ∉ p := fun hc => newline_not_mem_line hl (mem_of_mem_configLines hp hc)
  rcases mem_fgetsAll_line hpos (List.mem_filter.mp (hkept.subset hlkept)).1 hp with hpg | hpg
  · rw [← configLines, hlines] at hpg
    refine absurd ?_ hnl
    rw [eq_pairLine_of_replaced hpg hm, pairLine_eq]
    exact List.mem_append_right _ List.mem_cons_self
  · rw [← configLines, hlines] at hpg
    have heq := eq_pairLine_of_replaced hpg ((matchesKey_newline p).trans hm)
    rw [pairLine_eq] at heq
    exact List.append_cancel_right heq

/-- What `config_get` returns for all buffer sizes tells the value it found. -/
theorem lookupValue_ext {f g : Option (List Char)} {junk : ℕ → Junk} (k : ConfigKey)
    (h : ∀ n, configGet junk k.str [] n f = configGet junk k.str [] n g) :
    lookupValue k.str junk (configLines (f.getD [])) =
      lookupValue k.str junk (configLines (g.getD [])) := by
  have hloop : ∀ n, configGetLoop k.str [] (n + 1) junk (configLines (f.getD [])) =
      configGetLoop k.str [] (n + 1) junk (configLines (g.getD [])) := by
    intro n
    have hvalid : ¬ (!isValidKey k.str || !isValidValue [] || n + 1 = 0) = true := by
      simp [k.valid, isValidValue, configMaxValueLength]
    have := h (n + 1)
    rw [configGet_eq, configGet_eq, if_neg hvalid, if_neg hvalid] at this
    exact this
  simp only [configGetLoop_eq, Nat.add_sub_cancel] at hloop
  cases hv : lookupValue k.str junk (configLines (f.getD [])) with
  | none =>
    cases hw : lookupValue k.str junk (configLines (g.getD [])) with
    | none => rfl
    | some w =>
      rw [hv, hw] at hloop
      simpa using hloop 0
  | some v =>
    cases hw : lookupValue k.str junk (configLines (g.getD [])) with
    | none =>
      rw [hv, hw] at hloop
      simpa using hloop 0
    | some w =>
      rw [hv, hw] at hloop
      -- both values fit this buffer
      have heq : v.take (max v.length w.length) = w.take (max v.length w.length) :=
        (Prod.mk.inj (hloop (max v.length w.length))).2
      rw [List.take_of_length_le (le_max_left _ _), List.take_of_length_le (le_max_right _ _)] at heq
      exact congrArg some heq

/-- Another key that no full piece has is read alike on the open part and with
the pair behind it. -/
theorem Frame.lookup {key : ConfigKey} {value : ConfigValue} (h : Frame file key value)
    (hnul : nul ∉ file.getD []) (hno : ¬ Replaced file key.str) {k : ConfigKey} (hk : k.str ≠ key.str)
    (hdefined : ¬ Defined file k.str) (junk : ℕ → Junk) :
    lookupValue k.str junk (configLines (openPart (configMaxLineLength - 1) (file.getD []) ++
        pairLine key.str value.str)) =
      lookupValue k.str junk (configLines (openPart (configMaxLineLength - 1) (file.getD []))) := by
  have hget := (h (fun _ => ⟨['x'], []⟩) (configSet_success key value _ file)).1
  rw [configSet_appended key value hnul hno] at hget
  -- no full piece has the key, if the byte behind it is no terminator
  obtain ⟨full, hfull⟩ : ∃ full, fullPieces (configMaxLineLength - 1) (file.getD []) = full := ⟨_, rfl⟩
  let junk' : ℕ → Junk := fun i => if i < full.length then ⟨['x'], []⟩ else junk (i - full.length)
  have hskip : ∀ ls, lookupValue k.str junk' (full ++ ls) = lookupValue k.str junk ls := by
    intro ls
    have hnone : lookupValue k.str junk' full = none := by
      refine lookupValue_eq_none fun i hi p hp => ?_
      have hj : junk' i = ⟨['x'], []⟩ := if_pos hi
      rw [hj]
      refine hitValue_none_of_not_defined (isValidKey_iff.mp k.valid).2.1 (fun hlen => ?_) _
      exact Bool.eq_false_iff.mpr fun hm => hdefined ⟨hlen, p, hfull ▸ hp, hm⟩
    have hshift : (fun i => junk' (i + full.length)) = junk := by
      funext i
      have hi : ¬ i + full.length < full.length := by omega
      have hj : junk' (i + full.length) = junk (i + full.length - full.length) := if_neg hi
      rw [hj, Nat.add_sub_cancel]
    rw [lookupValue_append, hnone, Option.none_or, hshift]
  have hlookup := lookupValue_ext k fun n => hget k [] n junk' hk
  have hfile := configLines_append (file.getD []) []
  rw [List.append_nil, List.append_nil] at hfile
  rwa [Option.getD_some, configLines_append, hfile, hfull, hskip, hskip] at hlookup

/-- Where the pair is appended, the condition on the ending holds. -/
theorem Frame.appends {key : ConfigKey} {value : ConfigValue} (h : Frame file key value)
    (hnul : nul ∉ file.getD []) (hno : ¬ Replaced file key.str) :
    Appends file key.str value.str := by
  have hkept := (h (fun _ => ⟨['x'], []⟩) (configSet_success key value _ file)).2
  rw [configSet_appended key value hnul hno] at hkept
  refine ⟨(keptLines_appended_iff key value _).mp hkept, fun o ho p hp k w hentry => ?_⟩
  by_cases hk : k = key.str
  · exact .inl hk
  by_cases hdefined : Defined file k
  · exact .inr (.inl hdefined)
  obtain ⟨hopen, hlen, honul⟩ := openPart_spec hnul
  rw [← ho] at hopen hlen honul
  obtain ⟨hvalid, hknul⟩ := key_of_entry (noNul_of_mem honul key value hp) hentry
  have hread := (glued_iff ⟨k, hknul, hvalid⟩ key value hopen hlen honul).mp fun junk => by
    rw [ho]
    exact h.lookup hnul hno (k := ⟨k, hknul, hvalid⟩) hk hdefined junk
  rcases hread with hnone | hreads
  · exact absurd hentry (hnone p hp w)
  · exact .inr (.inr hreads)

/-- **The condition is exact** where no piece with a terminator is copied; it is
enough for all files. -/
theorem configSet_frame_iff (file : Option (List Char)) (key : ConfigKey) (value : ConfigValue) :
    (FrameKept file key value → Frame file key value) ∧
      (CopiesWhole file key.str → Frame file key value → FrameKept file key value) := by
  refine ⟨FrameKept.frame, fun hcopies h => ⟨hcopies, fun l hl hc => h.comments hcopies hl hc, ?_⟩⟩
  by_cases hr : Replaced file key.str
  · exact .inl hr
  · exact .inr (h.appends (hcopies.noNul hr) hr)

/-! ### Files that end in a newline -/

/-- The pair alone is one piece. -/
theorem configLines_pairLine (key : ConfigKey) (value : ConfigValue) :
    configLines (pairLine key.str value.str) = [pairLine key.str value.str] := by
  have := fgetsAll_full (by decide) (fullPiece_pairLine key value) []
  rwa [List.append_nil] at this

/-- After a newline the pair stands on its own. -/
theorem appends_of_newline (f : List Char) (key : ConfigKey) (value : ConfigValue)
    (hbare : Bare isspace key.str) : Appends (some (f ++ ['\n'])) key.str value.str := by
  have hpos : 0 < configMaxLineLength - 1 := by decide
  have hopen : openPart (configMaxLineLength - 1) (f ++ ['\n']) = [] := by
    obtain ⟨hfull, hnl, hlen, hsplit⟩ := fgets_spec hpos f
    have hlast : FullPiece (configMaxLineLength - 1) (openPart (configMaxLineLength - 1) f ++ ['\n']) :=
      .inr ⟨_, hnl, hlen, rfl⟩
    have hall : ∀ p ∈ fullPieces (configMaxLineLength - 1) f ++
        [openPart (configMaxLineLength - 1) f ++ ['\n']], FullPiece (configMaxLineLength - 1) p :=
      List.forall_mem_append.mpr ⟨hfull, List.forall_mem_singleton.mpr hlast⟩
    have htext : f ++ ['\n'] = (fullPieces (configMaxLineLength - 1) f ++
        [openPart (configMaxLineLength - 1) f ++ ['\n']]).flatten ++ [] := by
      conv_lhs => rw [hsplit]
      simp
    rw [htext]
    exact (fullPieces_openPart hpos hall List.not_mem_nil hpos).2
  constructor
  · intro l hl
    obtain ⟨init, last, -, hlines, happend⟩ := textLines_append f
    have htext : textLines (f ++ ['\n']) = init ++ [last, []] := by
      have := happend [] [] List.not_mem_nil
      rwa [List.nil_append, List.append_nil, textLines_last List.not_mem_nil] at this
    rw [Option.getD_some, htext] at hl
    left
    simpa using hl.symm
  · intro o ho p hp k w hentry
    left
    rw [Option.getD_some, hopen] at ho
    have hpair : FullPiece (configMaxLineLength - 1) (pairLine key.str value.str) :=
      fullPiece_pairLine key value
    have hglued : glued o (pairLine key.str value.str) = pairLine key.str value.str := by
      rw [ho, glued, List.nil_append, List.take_of_length_le hpair.length_le]
    have hrest : outgrown o (pairLine key.str value.str) = [] := by
      rw [ho, outgrown, List.nil_append, List.drop_of_length_le hpair.length_le]
    rw [hglued, hrest, ho] at hp
    simp only [List.mem_cons, List.not_mem_nil, or_false] at hp
    rcases hp with rfl | rfl | rfl
    · exact absurd hentry (Option.some_ne_none _).symm
    · exact key_of_entry_pair key value hbare hentry
    · exact absurd hentry (Option.some_ne_none _).symm

/-- A comment and a key, each on a line. -/
def radioFile : Option (List Char) := some ("# radio\nBW = 20".toList ++ ['\n'])

/-- `CHANNEL=11` leaves `radioFile` as it is. -/
theorem configSet_frame_radio : Frame radioFile channelKey channelValue :=
  (configSet_frame_iff radioFile channelKey channelValue).1
    ⟨copiesWhole_of_noNul (by decide), by decide, .inr (appends_of_newline _ _ _ ⟨by decide, by decide⟩)⟩

/-- After a last line without newline the pair becomes part of another value. -/
theorem configSet_frame_no_newline : ¬ Frame (some "BW=20".toList) channelKey channelValue := by
  intro h
  have hget := (h (fun _ => ⟨[], []⟩) (by decide)).1 ⟨"BW".toList, by decide, by decide⟩ [] 32
    (fun _ => ⟨[], []⟩) (by decide)
  revert hget
  decide

end WtslCore
