/-
# The configuration file

`config_set` copies the file piece by piece as `fgets` reads it, with every
piece that parses to the key replaced by `key=value`, and appends the pair if
there was none; `config_get` takes the value of the first piece that parses to
the key. A file is the list of its bytes; a piece is seen as a string, up to
its first terminator.

`parse_config_line` trims and checks both sides of the first `=`
(`parseConfigLine_iff`), and copies them with `strncpy`, which leaves a text
that fills its array without a terminator: what is read from there on
(`Junk`) is whatever the stack held.

Key definitions: `isValidKey`, `isValidValue`, `parseConfigLine`, `readArray`,
`configSet`, `configGet`.
Key theorem: `parseConfigLine_iff`.
-/
import WtslCore.Lib.CStr
import WtslCore.Lib.Fgets
import WtslCore.Lib.Trim

namespace WtslCore

/-- `config_result_t`, as far as the functions of the file return it. -/
inductive ConfigResult
  | success
  | errorNotFound
  | errorInvalidParam
  | errorIo
  | errorFormat
  deriving DecidableEq, Repr

/-- `CONFIG_MAX_KEY_LENGTH`. -/
def configMaxKeyLength : ℕ := 64

/-- `CONFIG_MAX_VALUE_LENGTH`. -/
def configMaxValueLength : ℕ := 256

/-- `CONFIG_MAX_LINE_LENGTH`. -/
def configMaxLineLength : ℕ := 512

/-- What `fgets` reads into `line`, one piece after the other. -/
def configLines (file : List Char) : List (List Char) := fgetsAll (configMaxLineLength - 1) file

/-- `trim_whitespace`. -/
def trimWhitespace (s : CStr) : CStr := trim isspace s

/-- `is_valid_key`. -/
def isValidKey (key : CStr) : Bool :=
  key ≠ [] ∧ key.length < configMaxKeyLength ∧
    ∀ c ∈ key, c ≠ '=' ∧ c ≠ '#' ∧ c ≠ '\n' ∧ c ≠ '\r'

/-- `is_valid_value`. -/
def isValidValue (value : CStr) : Bool :=
  value.length < configMaxValueLength ∧ '\n' ∉ value ∧ '\r' ∉ value

/-- `parse_config_line`, up to the copies into `key` and `value`. A line of
`fgets` fits `work_line`. -/
def parseConfigLine (line : CStr) : Option (CStr × CStr) :=
  let trimmed := trimWhitespace line
  if trimmed = [] ∨ trimmed.head? = some '#' then none
  else if '=' ∉ trimmed then none
  else
    let tempKey := trimWhitespace (trimmed.takeWhile (· ≠ '='))
    let tempValue := trimWhitespace (trimmed.dropWhile (· ≠ '=')).tail
    if isValidKey tempKey ∧ isValidValue tempValue then some (tempKey, tempValue) else none

/-- What follows the last byte of `file_key` and of `file_value`, if
`strncpy` left them without terminator. -/
structure Junk where
  key : CStr
  value : CStr

/-- The string in an array of `n` bytes after `strncpy(array, s, n - 1)`. -/
def readArray (n : ℕ) (junk s : CStr) : CStr := if s.length < n - 1 then s else s ++ junk

/-- The key a piece of the file is taken for. -/
def fileKey (junk : Junk) (line : List Char) : Option CStr :=
  (parseConfigLine (cstr line)).map fun kv => readArray configMaxKeyLength junk.key kv.1

/-- `"%s=%s\n"`. -/
def pairLine (key value : CStr) : List Char := key ++ '=' :: (value ++ ['\n'])

/-- The loop of `config_set`: whether the key was found, and what is written.
`junk i` is the junk of the `i`-th round. -/
def configSetLoop (key value : CStr) : (ℕ → Junk) → List (List Char) → Bool × List Char
  | _, [] => (false, [])
  | junk, line :: lines =>
    let r := configSetLoop key value (fun i => junk (i + 1)) lines
    if fileKey (junk 0) line = some key then (true, pairLine key value ++ r.2)
    else (r.1, cstr line ++ r.2)

/-- `config_set`, with the file operations succeeding. A missing file is
created empty. -/
def configSet (junk : ℕ → Junk) (key value : CStr) (file : Option (List Char)) :
    ConfigResult × Option (List Char) :=
  if !isValidKey key || !isValidValue value then (.errorInvalidParam, file)
  else
    let r := configSetLoop key value junk (configLines (file.getD []))
    (.success, some (if r.1 then r.2 else r.2 ++ pairLine key value))

/-- The loop of `config_get`. -/
def configGetLoop (key buf : CStr) (n : ℕ) : (ℕ → Junk) → List (List Char) → ConfigResult × CStr
  | _, [] => (.errorNotFound, buf)
  | junk, line :: lines =>
    match parseConfigLine (cstr line) with
    | some (fileKey, fileValue) =>
      if readArray configMaxKeyLength (junk 0).key fileKey = key then
        (.success, (readArray configMaxValueLength (junk 0).value fileValue).take (n - 1))
      else configGetLoop key buf n (fun i => junk (i + 1)) lines
    | none => configGetLoop key buf n (fun i => junk (i + 1)) lines

/-- `config_get` into a buffer of `n` bytes that holds `buf`. -/
def configGet (junk : ℕ → Junk) (key buf : CStr) (n : ℕ) (file : Option (List Char)) :
    ConfigResult × CStr :=
  if !isValidKey key || !isValidValue buf || n = 0 then (.errorInvalidParam, buf)
  else
    match file with
    | none => (.errorNotFound, buf)
    | some f => configGetLoop key buf n junk (configLines f)

/-! ### What a line parses to -/

/-- All characters are white space. -/
def Blank (s : CStr) : Prop := ∀ c ∈ s, isspace c = true

instance (s : CStr) : Decidable (Blank s) := inferInstanceAs (Decidable (∀ c ∈ s, isspace c = true))

theorem isValidKey_iff {key : CStr} : isValidKey key = true ↔
    key ≠ [] ∧ key.length < configMaxKeyLength ∧
      ∀ c ∈ key, c ≠ '=' ∧ c ≠ '#' ∧ c ≠ '\n' ∧ c ≠ '\r' := by
  simp only [isValidKey, decide_eq_true_eq]

theorem isValidValue_iff {value : CStr} : isValidValue value = true ↔
    value.length < configMaxValueLength ∧ '\n' ∉ value ∧ '\r' ∉ value := by
  simp only [isValidValue, decide_eq_true_eq]

theorem isspace_eq : isspace '=' = false := rfl

theorem isspace_newline : isspace '\n' = true := rfl

theorem Blank.not_mem {s : CStr} (h : Blank s) {c : Char} (hc : isspace c = false) : c ∉ s :=
  fun hm => by simp [h c hm] at hc

/-- A text with an `=` in it, cut at the first one. -/
theorem takeWhile_cut {a b : CStr} (ha : '=' ∉ a) :
    (a ++ '=' :: b).takeWhile (· ≠ '=') = a ∧ ((a ++ '=' :: b).dropWhile (· ≠ '=')).tail = b := by
  have hpos : ∀ c ∈ a, decide (c ≠ '=') = true := by
    intro c hc
    simpa using fun heq : c = '=' => ha (heq ▸ hc)
  constructor
  · rw [List.takeWhile_append_of_pos hpos, List.takeWhile_cons_of_neg (by simp), List.append_nil]
  · rw [List.dropWhile_append_of_pos hpos, List.dropWhile_cons_of_neg (by simp), List.tail_cons]

/-- A key and a value with white space around them. -/
def lineOf (w0 key w1 w2 value w3 : CStr) : CStr :=
  w0 ++ (key ++ (w1 ++ '=' :: (w2 ++ (value ++ w3))))

/-- **The lines that parse to a pair**: the bare key and value, valid both,
with `=` and white space around them. -/
theorem parseConfigLine_iff {line key value : CStr} :
    parseConfigLine line = some (key, value) ↔
      (isValidKey key = true ∧ isValidValue value = true ∧ Bare isspace key ∧ Bare isspace value) ∧
        ∃ w0 w1 w2 w3, Blank w0 ∧ Blank w1 ∧ Blank w2 ∧ Blank w3 ∧
          line = lineOf w0 key w1 w2 value w3 := by
  constructor
  · intro h
    unfold parseConfigLine at h
    simp only at h
    split_ifs at h with h1 h2 h3
    obtain ⟨rfl, rfl⟩ := Prod.mk.inj (Option.some.inj h)
    refine ⟨⟨h3.1, h3.2, bare_trim _ _, bare_trim _ _⟩, ?_⟩
    obtain ⟨a, b, hab, ha⟩ := List.eq_append_cons_of_mem h2
    obtain ⟨hta, htb⟩ := takeWhile_cut (b := b) ha
    obtain ⟨u, u', hu, hu', hline⟩ := exists_surround isspace line
    obtain ⟨x, w1, hx, hw1, hka⟩ := exists_surround isspace a
    obtain ⟨w2, y, hw2, hy, hvb⟩ := exists_surround isspace b
    refine ⟨u ++ x, w1, w2, y ++ u', List.forall_mem_append.mpr ⟨hu, hx⟩, hw1, hw2,
      List.forall_mem_append.mpr ⟨hy, hu'⟩, ?_⟩
    have hab' : trim isspace line = a ++ '=' :: b := hab
    have hk : trimWhitespace ((trimWhitespace line).takeWhile (· ≠ '=')) = trim isspace a := by
      rw [trimWhitespace, trimWhitespace, hab', hta]
    have hv : trimWhitespace ((trimWhitespace line).dropWhile (· ≠ '=')).tail = trim isspace b := by
      rw [trimWhitespace, trimWhitespace, hab', htb]
    rw [hk, hv, lineOf]
    calc line = u ++ ((a ++ '=' :: b) ++ u') := by rw [← hab']; exact hline
      _ = u ++ (((x ++ (trim isspace a ++ w1)) ++ '=' :: (w2 ++ (trim isspace b ++ y))) ++ u') := by
          rw [← hka, ← hvb]
      _ = _ := by simp only [List.append_assoc, List.cons_append]
  · rintro ⟨⟨hk, hv, hbk, hbv⟩, w0, w1, w2, w3, hw0, hw1, hw2, hw3, rfl⟩
    obtain ⟨hne, -, hchars⟩ := isValidKey_iff.mp hk
    have hkeq : '=' ∉ key := fun h => (hchars _ h).1 rfl
    -- the trimmed line keeps the white space between its ends, if the value has characters
    obtain ⟨w2', hw2', htrim⟩ : ∃ w2', Blank w2' ∧
        trimWhitespace (lineOf w0 key w1 w2 value w3) = key ++ (w1 ++ '=' :: (w2' ++ value)) := by
      by_cases hvne : value = []
      · refine ⟨[], by simp [Blank], ?_⟩
        have hbare : Bare isspace (key ++ w1 ++ ['=']) :=
          hbk.append ⟨by simp [isspace_eq], by simp [isspace_eq]⟩ hne (by simp) w1
        have hsurround := trim_surround hbare hw0
          (List.forall_mem_append.mpr ⟨hw2, hw3⟩ : ∀ c ∈ w2 ++ w3, isspace c = true)
        rw [hvne]
        simpa [trimWhitespace, lineOf] using hsurround
      · refine ⟨w2, hw2, ?_⟩
        have hbare : Bare isspace (key ++ (w1 ++ '=' :: w2) ++ value) := hbk.append hbv hne hvne _
        have hsurround := trim_surround hbare hw0 hw3
        simpa [trimWhitespace, lineOf] using hsurround
    have hnot : '=' ∉ key ++ w1 := by
      intro h
      rcases List.mem_append.mp h with h | h
      · exact hkeq h
      · exact hw1.not_mem isspace_eq h
    obtain ⟨hta, htb⟩ := takeWhile_cut (b := w2' ++ value) hnot
    have hkey : trimWhitespace (key ++ w1) = key := by
      rw [trimWhitespace, trim_append_right hw1, hbk.trim]
    have hvalue : trimWhitespace (w2' ++ value) = value := by
      rw [trimWhitespace, trim_append_left hw2', hbv.trim]
    have hhead : ¬ (key ++ (w1 ++ '=' :: (w2' ++ value)) = [] ∨
        (key ++ (w1 ++ '=' :: (w2' ++ value))).head? = some '#') := by
      cases key with
      | nil => exact absurd rfl hne
      | cons c key =>
        have hc : c ≠ '#' := (hchars c List.mem_cons_self).2.1
        simp [hc]
    rw [← List.append_assoc] at htrim hhead
    unfold parseConfigLine
    simp only
    rw [htrim, if_neg hhead, if_neg (by simp), hta, htb, hkey, hvalue, if_pos ⟨hk, hv⟩]

/-- White space around a line does not matter. -/
theorem parseConfigLine_congr {s t : CStr} (h : trimWhitespace s = trimWhitespace t) :
    parseConfigLine s = parseConfigLine t := by
  unfold parseConfigLine
  rw [h]

/-- A pair is no longer than the line it stands on, without white space at its ends. -/
theorem length_of_parse (w s w' : CStr) {key value : CStr} (hw : Blank w) (hw' : Blank w')
    (h : parseConfigLine (w ++ (s ++ w')) = some (key, value)) :
    key.length + (1 + value.length) ≤ s.length := by
  have hs : parseConfigLine s = some (key, value) := by
    rw [← h]
    refine parseConfigLine_congr ?_
    rw [trimWhitespace, trimWhitespace, trim_append_left hw, trim_append_right hw']
  obtain ⟨-, w0, w1, w2, w3, -, -, -, -, rfl⟩ := parseConfigLine_iff.mp hs
  simp only [lineOf, List.length_append, List.length_cons]
  omega

end WtslCore
