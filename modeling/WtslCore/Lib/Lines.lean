/-
# The lines of a text and the pieces `fgets` reads of them

The lines of a text are what its newlines separate; the last one is not
terminated. `fgets` reads one line after the other: the full pieces of the
line, then its open part with the newline (`fgetsAll_line`). So what is read of
a line alone is read in the text too, up to the newline (`mem_fgetsAll_line`).

Key definition: `textLines`.
Key theorems: `lines_induction`, `textLines_terminated`, `textLines_append`,
`fgetsAll_line`, `mem_fgetsAll_line`.
-/
import Mathlib.Data.List.Basic
import WtslCore.Lib.Fgets

namespace WtslCore

/-- The lines of a text; the last one is not terminated. -/
def textLines (s : List Char) : List (List Char) := s.splitOn '\n'

variable {n : ℕ} {l p s : List Char}

theorem textLines_last (hl : '\n' ∉ l) : textLines l = [l] := List.splitOn_eq_singleton hl

theorem textLines_line (hl : '\n' ∉ l) (t : List Char) :
    textLines (l ++ '\n' :: t) = l :: textLines t :=
  List.splitOn_append_cons_self_of_not_mem hl t

/-- A text is its last line, or a line before another text. -/
theorem lines_induction {P : List Char → Prop} (last : ∀ l, '\n' ∉ l → P l)
    (line : ∀ l t, '\n' ∉ l → P t → P (l ++ '\n' :: t)) (s : List Char) : P s := by
  induction hs : s.length using Nat.strongRecOn generalizing s with
  | _ m ih =>
    by_cases hnl : '\n' ∈ s
    · obtain ⟨l, t, rfl, hl⟩ := List.eq_append_cons_of_mem hnl
      refine line l t hl (ih t.length ?_ t rfl)
      rw [List.length_append, List.length_cons] at hs
      omega
    · exact last s hnl

theorem textLines_ne_nil (s : List Char) : textLines s ≠ [] := by
  induction s using lines_induction with
  | last l hl =>
    rw [textLines_last hl]
    exact List.cons_ne_nil _ _
  | line l t hl ih =>
    rw [textLines_line hl]
    exact List.cons_ne_nil _ _

/-- A character in front of a text stands in its first line. -/
theorem textLines_cons {c : Char} (hc : c ≠ '\n') (s : List Char) : ∃ l ls,
    textLines s = l :: ls ∧ textLines (c :: s) = (c :: l) :: ls := by
  have hcons : ∀ {l : List Char}, '\n' ∉ l → '\n' ∉ c :: l := by
    intro l hl hmem
    rcases List.mem_cons.mp hmem with h | h
    · exact hc h.symm
    · exact hl h
  induction s using lines_induction with
  | last l hl => exact ⟨l, [], textLines_last hl, textLines_last (hcons hl)⟩
  | line l t hl _ => exact ⟨l, _, textLines_line hl t, textLines_line (hcons hl) t⟩

/-- The terminated lines of a text that begins with one. -/
theorem dropLast_textLines {l : List Char} (hl : '\n' ∉ l) (t : List Char) :
    (textLines (l ++ '\n' :: t)).dropLast = l :: (textLines t).dropLast := by
  rw [textLines_line hl, List.dropLast_cons_of_ne_nil (textLines_ne_nil t)]

/-- The lines of terminated lines, and of what is behind the last one. -/
theorem textLines_terminated {last : List Char} (hlast : '\n' ∉ last) : ∀ {ls : List (List Char)},
    (∀ l ∈ ls, '\n' ∉ l) → textLines ((ls.map (· ++ ['\n'])).flatten ++ last) = ls ++ [last]
  | [], _ => textLines_last hlast
  | l :: ls, h => by
    have hl := h l List.mem_cons_self
    have ih : textLines ((ls.map (· ++ ['\n'])).flatten ++ last) = ls ++ [last] :=
      textLines_terminated hlast fun l' hl' => h l' (List.mem_cons_of_mem _ hl')
    have hflat : ((l :: ls).map (· ++ ['\n'])).flatten ++ last =
        l ++ '\n' :: ((ls.map (· ++ ['\n'])).flatten ++ last) := by simp
    rw [hflat, textLines_line hl, ih]
    rfl

/-- What is terminated is no longer than the text. -/
theorem length_terminated (s : List Char) :
    ((((textLines s).dropLast).map (· ++ ['\n'])).flatten).length ≤ s.length := by
  induction s using lines_induction with
  | last l hl =>
    rw [textLines_last hl]
    exact Nat.zero_le _
  | line l t hl ih =>
    rw [dropLast_textLines hl, List.map_cons, List.flatten_cons]
    simp only [List.length_append, List.length_cons, List.length_nil]
    omega

theorem newline_not_mem_line (hl : l ∈ textLines s) : '\n' ∉ l := by
  induction s using lines_induction with
  | last l' hl' =>
    rw [textLines_last hl', List.mem_singleton] at hl
    exact hl ▸ hl'
  | line l' t hl' ih =>
    rw [textLines_line hl', List.mem_cons] at hl
    rcases hl with rfl | hl
    · exact hl'
    · exact ih hl

/-- Appended text joins the last line. -/
theorem textLines_append (s : List Char) : ∃ init last, '\n' ∉ last ∧
    textLines s = init ++ [last] ∧
      ∀ x t, '\n' ∉ x → textLines (s ++ (x ++ '\n' :: t)) = init ++ (last ++ x) :: textLines t := by
  induction s using lines_induction with
  | last l hl =>
    refine ⟨[], l, hl, textLines_last hl, fun x t hx => ?_⟩
    rw [← List.append_assoc]
    exact textLines_line (List.not_mem_append hl hx) t
  | line l t hl ih =>
    obtain ⟨init, last, hlast, hlines, happend⟩ := ih
    refine ⟨l :: init, last, hlast, ?_, fun x u hx => ?_⟩
    · rw [textLines_line hl, hlines]
      rfl
    · rw [List.append_assoc, List.cons_append, textLines_line hl, happend x u hx]
      rfl

/-- The full pieces of a line fill their array. -/
theorem length_fullPiece_line (hn : 0 < n) (hl : '\n' ∉ l) (hp : p ∈ fullPieces n l) :
    p.length = n := by
  obtain ⟨hfull, -, -, hsplit⟩ := fgets_spec hn l
  rcases hfull p hp with ⟨-, hlen⟩ | ⟨q, -, -, rfl⟩
  · exact hlen
  · refine absurd ?_ hl
    rw [hsplit]
    exact List.mem_append_left _ (List.mem_flatten.mpr ⟨_, hp, by simp⟩)

/-- **The pieces of a text are those of its first line and of the rest.** -/
theorem fgetsAll_line (hn : 0 < n) (l t : List Char) : fgetsAll n (l ++ '\n' :: t) =
    fullPieces n l ++ (openPart n l ++ ['\n']) :: fgetsAll n t := by
  obtain ⟨-, hnl, hlen, -⟩ := fgets_spec hn l
  rw [fgetsAll_append hn, fgetsAll, fgetsFrom_line hnl hlen]

theorem mem_fgetsAll_line (hn : 0 < n) (hl : l ∈ textLines s) (hp : p ∈ fgetsAll n l) :
    p ∈ fgetsAll n s ∨ p ++ ['\n'] ∈ fgetsAll n s := by
  induction s using lines_induction with
  | last l' hl' =>
    rw [textLines_last hl', List.mem_singleton] at hl
    exact .inl (hl ▸ hp)
  | line l' t hl' ih =>
    rw [textLines_line hl', List.mem_cons] at hl
    rw [fgetsAll_line hn]
    rcases hl with rfl | hl
    · rw [fgetsAll_eq hn, List.mem_append] at hp
      rcases hp with hp | hp
      · exact .inl (List.mem_append_left _ hp)
      · split_ifs at hp with hopen
        · exact absurd hp List.not_mem_nil
        · rw [List.mem_singleton.mp hp]
          exact .inr (List.mem_append_right _ List.mem_cons_self)
    · refine (ih hl).imp ?_ ?_ <;>
        exact fun h => List.mem_append_right _ (List.mem_cons_of_mem _ h)

end WtslCore
