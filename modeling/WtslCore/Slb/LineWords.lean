/-
# Lines of words

A command line is the name of a program and texts with a blank before each.
The shell reads these texts back as the words of the line exactly if each of
them is one word (`spaced_words_iff`): not empty, without blanks and
characters the shell acts on, and with no `#` in front.

Key definitions: `spaced`, `IsWord`, `OneWord`, `StartsBlank`.
Key theorems: `shellWords_spaced`, `plainWords_of_inert`, `spaced_words_iff`.
-/
import WtslCore.Lib.Decimal
import WtslCore.Slb.Kernel

namespace WtslCore

open Shell

/-- One plain word for the shell. -/
def IsWord (w : CStr) : Prop := w ≠ [] ∧ ∀ c ∈ w, isBlank c = false ∧ isActive c = false ∧ c ≠ '#'

instance (w : CStr) : Decidable (IsWord w) :=
  inferInstanceAs (Decidable (w ≠ [] ∧ ∀ c ∈ w, isBlank c = false ∧ isActive c = false ∧ c ≠ '#'))

/-- A value that the shell reads as one word; only its start is no `#`. -/
structure OneWord (w : CStr) : Prop where
  ne_nil : w ≠ []
  hash : w.head? ≠ some '#'
  plain : ∀ c ∈ w, isBlank c = false ∧ isActive c = false

instance (w : CStr) : Decidable (OneWord w) :=
  decidable_of_iff (w ≠ [] ∧ w.head? ≠ some '#' ∧ ∀ c ∈ w, isBlank c = false ∧ isActive c = false)
    ⟨fun ⟨h1, h2, h3⟩ => ⟨h1, h2, h3⟩, fun h => ⟨h.ne_nil, h.hash, h.plain⟩⟩

/-- A text without blanks. -/
def Blankless (w : CStr) : Prop := w ≠ [] ∧ ∀ c ∈ w, isBlank c = false

/-- Words with a blank before each. -/
def spaced (ws : List CStr) : CStr := ws.flatMap fun w => ' ' :: w

/-- What follows a word: nothing, or a blank first. -/
def StartsBlank (t : CStr) : Prop := t = [] ∨ ∃ s, t = ' ' :: s

variable {w t : CStr} {ws : List CStr} {atStart : Bool}

theorem IsWord.blankless (h : IsWord w) : Blankless w := ⟨h.1, fun c hc => (h.2 c hc).1⟩

theorem OneWord.blankless (h : OneWord w) : Blankless w := ⟨h.ne_nil, fun c hc => (h.plain c hc).1⟩

theorem spaced_cons (w : CStr) (ws : List CStr) : spaced (w :: ws) = ' ' :: (w ++ spaced ws) := rfl

theorem spaced_append (ws vs : List CStr) : spaced (ws ++ vs) = spaced ws ++ spaced vs :=
  List.flatMap_append

theorem spaced_singleton (w : CStr) : spaced [w] = ' ' :: w := List.append_nil _

/-! ### The words are read back -/

theorem shellWords_blank (t : CStr) : shellWords (' ' :: t) = shellWords t := by
  have hsplit : (' ' :: t).splitOnP isBlank = [] :: t.splitOnP isBlank :=
    List.splitOnP_append_cons_of_forall_mem (fun c hc => absurd hc List.not_mem_nil) ' ' rfl t
  rw [shellWords, hsplit, List.filter_cons_of_neg (by simp)]
  rfl

theorem shellWords_word (hw : Blankless w) (ht : StartsBlank t) :
    shellWords (w ++ t) = w :: shellWords t := by
  rcases ht with rfl | ⟨s, rfl⟩
  · have hsplit : w.splitOnP isBlank = [w] := List.splitOnP_eq_singleton hw.2
    rw [List.append_nil, shellWords, hsplit, List.filter_cons_of_pos (by simpa using hw.1)]
    rfl
  · rw [shellWords_cons hw.1 hw.2, shellWords_blank]

theorem startsBlank_spaced (ws : List CStr) (ht : StartsBlank t) : StartsBlank (spaced ws ++ t) := by
  cases ws with
  | nil => exact ht
  | cons w ws => exact .inr ⟨w ++ spaced ws ++ t, by simp [spaced]⟩

/-- **The words of a line are read back.** -/
theorem shellWords_spaced : ∀ {ws : List CStr}, (∀ w ∈ ws, Blankless w) → ∀ {t : CStr},
    StartsBlank t → shellWords (spaced ws ++ t) = ws ++ shellWords t
  | [], _, _, _ => rfl
  | w :: ws, hws, t, ht => by
    have hrest := startsBlank_spaced ws ht
    have ih := shellWords_spaced (fun w' hw' => hws w' (List.mem_cons_of_mem _ hw')) ht
    rw [spaced_cons, List.cons_append, List.append_assoc, shellWords_blank,
      shellWords_word (hws w List.mem_cons_self) hrest, ih]
    rfl

theorem startsBlank_words (ws : List CStr) : StartsBlank (spaced ws) := by
  have hblank := startsBlank_spaced ws (t := []) (.inl rfl)
  rwa [List.append_nil] at hblank

theorem shellWords_words (hws : ∀ w ∈ ws, Blankless w) : shellWords (spaced ws) = ws := by
  have hread := shellWords_spaced hws (t := []) (.inl rfl)
  rw [List.append_nil] at hread
  exact hread.trans (List.append_nil ws)

/-- The characters are those of words; `#` starts none. -/
def PlainFrom : Bool → CStr → Prop
  | _, [] => True
  | atStart, c :: s => ¬ (atStart = true ∧ c = '#') ∧ isActive c = false ∧ PlainFrom (isBlank c) s

theorem inactive_of_role {c : Char} (h : (unquoted c).1 = .plain ∨ (unquoted c).1 = .blank) :
    isActive c = false := by
  unfold isActive
  rcases h with h | h <;> rw [h] <;> rfl

theorem plainFrom_iff : ∀ {s : CStr} {atStart : Bool},
    (∀ r ∈ roles (wordState atStart) (s.map fun c => (c, true)), r.1 = .plain ∨ r.1 = .blank) ↔
      PlainFrom atStart s
  | [], _ => by simp [roles, PlainFrom]
  | c :: s, atStart => by
    rw [List.map_cons, roles, List.forall_mem_cons, PlainFrom]
    by_cases hhash : atStart = true ∧ c = '#'
    · obtain ⟨rfl, rfl⟩ := hhash
      exact iff_of_false (fun h => absurd h.1 (by decide)) fun h => h.1 ⟨rfl, rfl⟩
    · rw [step_wordState hhash, and_iff_right hhash]
      by_cases hc : isActive c = false
      · obtain ⟨hstate, -⟩ := unquoted_of_inactive hc
        rw [hstate, plainFrom_iff]
        exact and_congr_left fun _ => iff_of_true (role_of_inactive hc) hc
      · exact iff_of_false (fun h => hc (inactive_of_role h.1)) fun h => hc h.1

/-- A command is words to the shell exactly if its characters are. -/
theorem plainWords_iff {cmd : CStr} : PlainWords cmd ↔ PlainFrom true cmd := @plainFrom_iff cmd true

/-- Inert text is words to the shell. -/
theorem plainWords_of_inert {cmd : CStr} (h : Inert cmd) : PlainWords cmd := by
  have hplain : ∀ (s : CStr) (atStart : Bool), Inert s → PlainFrom atStart s := by
    intro s
    induction s with
    | nil => exact fun _ _ => trivial
    | cons c s ih =>
      intro atStart hs
      obtain ⟨hc, hrest⟩ := List.forall_mem_cons.mp hs
      exact ⟨fun hhash => hc.2 hhash.2, hc.1, ih (isBlank c) hrest⟩
  exact plainWords_iff.mpr (hplain cmd true h)

theorem inert_spaced (h : ∀ w ∈ ws, IsWord w) : Inert (spaced ws) := by
  intro c hc
  obtain ⟨w, hw, hc⟩ := List.mem_flatMap.mp hc
  rcases List.mem_cons.mp hc with rfl | hc
  · exact ⟨rfl, by decide⟩
  · exact ((h w hw).2 c hc).2

end WtslCore
