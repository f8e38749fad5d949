/-
# The configuration file over its whole life

What the program keeps is a map from keys to texts; the file is its
representation. `config_set` is called again and again, on a file system that
can refuse to open or to rename a file, and is asked to save what `config_get`
will find. As long as nothing that was written to the temporary file is lost,
the file represents the map of the saves that were reported as successful
(`config_runs`): every later `config_get` of every key of the program, with
whatever is on the stack, has the text of the map.

Key definitions: `Setting`, `SaveCall`, `saveStep`, `SaveCall.Kept`,
`settingsStep`.
Key theorems: `represents_saveStep`, `config_runs`.
-/
import WtslCore.Lib.Run
import WtslCore.Utils.CfgFailure
import WtslCore.Utils.CfgStore

namespace WtslCore

open Runs

/-- A text the program saves: accepted, without terminator and bare. -/
structure Setting extends ConfigValue where
  bare : Bare isspace str

/-- A call of `config_set`: a key of the program, a text, how the file
operations end, and what is on the stack. -/
structure SaveCall where
  key : CStr
  plain : Plain key
  value : Setting
  env : SaveEnv
  junk : ℕ → Junk

/-- The call on the file. -/
def saveStep (file : Option (List Char)) (c : SaveCall) : Option (Option (List Char)) :=
  some (configSetIo c.env c.junk c.key c.value.str file).2

/-- The call returns success. -/
def SaveCall.Saves (c : SaveCall) : Prop := c.env.fopen = true ∧ c.env.rename = true

instance (c : SaveCall) : Decidable c.Saves := inferInstanceAs (Decidable (_ ∧ _))

/-- Nothing is lost on the way to the temporary file: the old file can be read,
and what is written arrives. -/
def SaveCall.Kept (file : Option (List Char)) (c : SaveCall) : Prop :=
  c.Saves → c.env.origFopen = true ∧ ¬ c.env.Fails (configSetWrites c.env c.junk c.key c.value.str file)

/-- The map after a call: the key has the text if the call was successful. -/
def settingsStep (m : CStr → Option CStr) (c : SaveCall) : CStr → Option CStr :=
  if c.Saves then Function.update m c.key (some c.value.str) else m

/-- The file stands for the map, in the keys of the program. -/
structure Stands (file : Option (List Char)) (m : CStr → Option CStr) : Prop where
  settled : Settled file
  stored : ∀ key, Plain key → storedText file key = m key

variable {file file' : Option (List Char)} {m : CStr → Option CStr} {c : SaveCall}

/-- A file and none have the same content if they have the same bytes. -/
theorem Stands.congr (h : Stands file m) (hsame : file'.getD [] = file.getD []) : Stands file' m := by
  refine ⟨⟨hsame ▸ h.settled.noNul, hsame ▸ h.settled.closed⟩, fun key hkey => ?_⟩
  rw [← h.stored key hkey, storedText, storedText, hsame]

/-- The result says whether the map changes. -/
theorem configSetIo_success_iff (c : SaveCall) (file : Option (List Char)) :
    (configSetIo c.env c.junk c.key c.value.str file).1 = .success ↔ c.Saves := by
  have hio := configSetIo_valid c.env c.junk c.plain.key c.value.toConfigValue file
  rw [show configSetIo c.env c.junk c.key c.value.str file = _ from hio]
  unfold SaveCall.Saves
  cases c.env.fopen <;> cases c.env.rename <;> simp

/-- **One call** is one step of the map. -/
theorem represents_saveStep (h : Stands file m) (hkept : c.Kept file)
    (hs : saveStep file c = some file') : Stands file' (settingsStep m c) := by
  obtain rfl := Option.some.inj hs
  unfold settingsStep
  by_cases hsaves : c.Saves
  · obtain ⟨horig, hwritten⟩ := hkept hsaves
    rw [if_pos hsaves, configSetIo_refines hsaves.1 horig hsaves.2 hwritten]
    refine ⟨h.settled.configSet c.plain c.value.noNul c.junk, fun key hkey => ?_⟩
    by_cases heq : key = c.key
    · subst heq
      rw [Function.update_self]
      exact storedText_configSet_self h.settled c.plain c.value.toConfigValue c.value.bare c.junk
    · rw [Function.update_of_ne heq, ← h.stored key hkey]
      exact storedText_configSet_ne h.settled c.plain hkey heq c.value.noNul c.junk
  · rw [if_neg hsaves]
    have herror : (configSetIo c.env c.junk c.key c.value.str file).1 ≠ .success :=
      mt (configSetIo_success_iff c file).mp hsaves
    exact h.congr (@configSetIo_error _ _ _ c.plain.key c.value.toConfigValue herror)

/-- **Every run of saves**: a call reports success if and only if it changes the
map, and every later `config_get` of a key of the program has what the map
has. -/
theorem config_runs {file : Option (List Char)} (hfile : Settled file) {calls : List SaveCall}
    {file' : Option (List Char)} (hrun : Run saveStep SaveCall.Kept file calls file') {key : CStr}
    (hkey : Plain key) {buf : CStr} (hbuf : isValidValue buf = true) {n : ℕ} (hpos : 0 < n)
    (hn : n ≤ configMaxValueLength) (junk : ℕ → Junk) :
    configGet junk key buf n file' =
      ((calls.foldl settingsStep (storedText file)) key).elim (.errorNotFound, buf)
        fun text => (.success, text.take (n - 1)) := by
  have hstands := hrun.refines (R := Stands) ⟨hfile, fun _ _ => rfl⟩
    fun _ _ _ _ h hkept hs => represents_saveStep h hkept hs
  rw [configGet_eq_stored hkey hbuf hpos hn, hstands.stored key hkey]
  cases calls.foldl settingsStep (storedText file) key <;> rfl

theorem plain_channel : Plain "CHANNEL".toList := by decide

/-- A save of the channel. Only the rename can fail. -/
def channelSave (value : Int32) (rename : Bool) : SaveCall :=
  ⟨"CHANNEL".toList, plain_channel, ⟨intValue value, bare_intText value.toInt⟩,
    ⟨true, true, fun _ => none, none, none, rename⟩, fun _ => ⟨[], []⟩⟩

theorem channelSave_kept (value : Int32) (rename : Bool) (file : Option (List Char)) :
    (channelSave value rename).Kept file := by
  refine fun _ => ⟨rfl, ?_⟩
  rintro (⟨i, _, hi⟩ | hi | hi) <;> exact hi rfl

/-- After a save and one that could not be renamed the first value is read. -/
theorem config_runs_channel : ∃ file,
    Run saveStep SaveCall.Kept none [channelSave 11 true, channelSave 36 false] file ∧
      configGet (fun _ => ⟨[], []⟩) "CHANNEL".toList [] 256 file = (.success, "11".toList) := by
  have hfirst : Run saveStep SaveCall.Kept none [channelSave 11 true] _ :=
    Run.nil.snoc (channelSave_kept 11 true none) rfl
  have hrun : Run saveStep SaveCall.Kept none [channelSave 11 true, channelSave 36 false] _ :=
    hfirst.snoc (channelSave_kept 36 false _) rfl
  refine ⟨_, hrun, ?_⟩
  rw [config_runs ⟨by decide, by decide⟩ hrun plain_channel (by decide) (by decide) (by decide)]
  decide

end WtslCore
