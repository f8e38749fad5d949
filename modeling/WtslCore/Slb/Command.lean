/-
# Command lines in a fixed buffer

The rule functions print the start of a command into `char cmd[4096]` with
`snprintf`, which cuts it, and append the rest with `strcat`, which does not
look at the size: `strcatAll` has no outcome (`none`) when the text outgrows
the buffer, or when a NULL `valuestring` is appended. A command is a list of
pieces (`Shell.Piece`), the texts of the source and the values of the request.

Key definitions: `cmdLen`, `lit`, `snprintf`, `optArg`, `strArg`, `concat`,
`strcatAll`, `cmdText`.
Key theorems: `strcatAll_spec`, `concat_block`.
-/
import WtslCore.Json
import WtslCore.Lib.Decimal
import WtslCore.Lib.Shell

namespace WtslCore

open Shell

/-- `ACL_MAX_CMD_LEN` and `QOS_MAX_CMD_LEN`. -/
def cmdLen : ℕ := 4096

/-- A text of the source. -/
def lit (s : String) : Piece := .fixed s.toList

/-- `snprintf` into `n` bytes. -/
def snprintf (n : ℕ) (ps : List Piece) : List Piece := cut (n - 1) ps

/-- A keyword and the `valuestring` of an item, if the item is there. -/
def optArg (kw : String) : Option Json → Option (List Piece)
  | none => some []
  | some j => j.valuestring.map fun s => [lit kw, .value s]

/-- A keyword and a string item, if the item is there and is a string. -/
def strArg (kw : String) : Option Json → List Piece
  | some (.string s) => [lit kw, .value s]
  | _ => []

/-- Parts of a command, one after the other. -/
def concat : List (Option (List Piece)) → Option (List Piece)
  | [] => some []
  | o :: os => o.bind fun p => (concat os).map (p ++ ·)

/-- The `strcat` calls that extend `cmd`. -/
def strcatAll (cmd : List Piece) (parts : List (Option (List Piece))) : Option (List Piece) :=
  (concat parts).bind fun ps =>
    if (text (cmd ++ ps)).length < cmdLen then some (cmd ++ ps) else none

/-- The characters of a command. -/
def cmdText (ps : List Piece) : CStr := (text ps).map Prod.fst

theorem cmdText_nil : cmdText [] = [] := rfl

theorem cmdText_append (ps qs : List Piece) : cmdText (ps ++ qs) = cmdText ps ++ cmdText qs := by
  simp [cmdText]

theorem cmdText_lit (s : String) (ps : List Piece) :
    cmdText (lit s :: ps) = s.toList ++ cmdText ps := by
  simp [cmdText, lit, Piece.text, Function.comp_def]

theorem cmdText_value (v : CStr) (ps : List Piece) : cmdText (.value v :: ps) = v ++ cmdText ps := by
  simp [cmdText, Piece.text, Function.comp_def]

theorem cmdText_snprintf (n : ℕ) (ps : List Piece) :
    cmdText (snprintf n ps) = (cmdText ps).take (n - 1) := by
  rw [cmdText, snprintf, text_cut, List.map_take]
  rfl

/-! ### What the parts bring in -/

/-- The string of an item, as a value at the start of a word. -/
def strValues : Option Json → List (Bool × CStr)
  | some (.string s) => [(true, s)]
  | _ => []

/-- A keyword that is inert and ends a word. -/
def Keyword (kw : String) : Prop := (∀ b, startsAfter b kw.toList = true) ∧ Inert kw.toList

instance (kw : String) : Decidable (Keyword kw) :=
  inferInstanceAs (Decidable ((∀ b, startsAfter b kw.toList = true) ∧ Inert kw.toList))

theorem inert_lit {kw : String} {ps : List Piece} (h : Inert kw.toList)
    (hps : ∀ s, .fixed s ∈ ps → Inert s) : ∀ s, .fixed s ∈ lit kw :: ps → Inert s := by
  intro s hs
  rcases List.mem_cons.mp hs with heq | hs
  · obtain rfl := Piece.fixed.inj heq
    exact h
  · exact hps s hs

theorem inert_value {v : CStr} {ps : List Piece} (hps : ∀ s, .fixed s ∈ ps → Inert s) :
    ∀ s, .fixed s ∈ .value v :: ps → Inert s := by
  intro s hs
  rcases List.mem_cons.mp hs with heq | hs
  · exact nomatch heq
  · exact hps s hs

theorem block_lit (kw : String) (h : Inert kw.toList) : Block [lit kw] [] where
  values_eq _ := rfl
  inert s hs := by
    obtain rfl := Piece.fixed.inj (List.mem_singleton.mp hs)
    exact h

theorem block_value (kw : String) (h : Keyword kw) (s : CStr) :
    Block [lit kw, .value s] [(true, s)] where
  values_eq b := by simp [lit, values, h.1]
  inert s' hs := by
    have : s' = kw.toList := by simpa [lit] using hs
    exact this ▸ h.2

theorem strArg_block (kw : String) (h : Keyword kw) (j : Option Json) :
    Block (strArg kw j) (strValues j) := by
  unfold strArg strValues
  split
  · exact block_value kw h _
  · exact .nil

/-- A part that, where it is defined, brings in the values `vs`. -/
def PartOf (o : Option (List Piece)) (vs : List (Bool × CStr)) : Prop := ∀ ps ∈ o, Block ps vs

theorem PartOf.some {ps : List Piece} {vs : List (Bool × CStr)} (h : Block ps vs) :
    PartOf (Option.some ps) vs := by
  rintro _ ⟨⟩
  exact h

theorem optArg_part (kw : String) (h : Keyword kw) : ∀ j, PartOf (optArg kw j) (strValues j)
  | none => .some .nil
  | Option.some (.string s) => .some (block_value kw h s)
  | Option.some .null | Option.some (.bool _) | Option.some (.number _) | Option.some (.array _)
  | Option.some (.object _) => by rintro _ ⟨⟩

theorem PartOf.ite {o o' : Option (List Piece)} {vs us : List (Bool × CStr)} {P : Prop}
    [Decidable P] (h : PartOf o vs) (h' : PartOf o' us) :
    PartOf (if P then o else o') (if P then vs else us) := by
  split
  · exact h
  · exact h'

/-- The values of a command are those of its parts in order. -/
theorem concat_block {parts : List (Option (List Piece))} {vss : List (List (Bool × CStr))}
    (h : List.Forall₂ PartOf parts vss) : PartOf (concat parts) vss.flatten := by
  induction h with
  | nil => exact .some .nil
  | cons hp _ ih =>
    intro ps hps
    obtain ⟨p, hpe, hq⟩ := Option.bind_eq_some_iff.mp hps
    obtain ⟨q, hqe, rfl⟩ := Option.map_eq_some_iff.mp hq
    exact (hp p hpe).append (ih q hqe)

/-- A command that was built is the start and the parts, in order; if there is
any part with text, the start was not cut. -/
theorem strcatAll_spec {cmd ps : List Piece} {parts : List (Option (List Piece))}
    (h : strcatAll cmd parts = some ps) :
    ∃ more, concat parts = some more ∧ ps = cmd ++ more ∧ (text ps).length < cmdLen := by
  obtain ⟨more, h1, h2⟩ := Option.bind_eq_some_iff.mp h
  split at h2
  · rename_i hlen
    cases h2
    exact ⟨more, h1, rfl, hlen⟩
  · cases h2

end WtslCore
