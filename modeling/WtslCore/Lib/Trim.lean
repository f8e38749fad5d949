/-
# Trimming a list

`trim p s` drops the elements at both ends of `s` that satisfy `p`. A list is
bare if there are none; `trim` finds the bare middle of a list, whatever
surrounds it (`trim_surround`), and every list is its trim between two lists
of dropped elements (`exists_surround`).

Key definitions: `trim`, `Bare`.
Key theorems: `trim_surround`, `exists_surround`, `bare_trim`, `trim_eq_self_iff`.
-/
import Mathlib.Data.List.DropRight

namespace WtslCore

variable {α : Type*}

/-- The list without the elements at its ends that satisfy `p`. -/
def trim (p : α → Bool) (s : List α) : List α := (s.dropWhile p).rdropWhile p

/-- No element at an end satisfies `p`. -/
structure Bare (p : α → Bool) (s : List α) : Prop where
  head : ∀ c ∈ s.head?, p c = false
  last : ∀ c ∈ s.getLast?, p c = false

variable {p : α → Bool} {s t w w' : List α}

theorem Bare.nil : Bare p ([] : List α) := ⟨by simp, by simp⟩

theorem Bare.dropWhile (h : Bare p s) : s.dropWhile p = s := by
  cases s with
  | nil => rfl
  | cons c s => exact List.dropWhile_cons_of_neg (by simp [h.head c rfl])

theorem Bare.rdropWhile (h : Bare p s) : s.rdropWhile p = s := by
  refine List.rdropWhile_eq_self_iff.mpr fun hl => ?_
  rw [h.last _ (List.getLast?_eq_some_getLast hl)]
  exact Bool.false_ne_true

theorem Bare.trim (h : Bare p s) : trim p s = s := by
  rw [WtslCore.trim, h.dropWhile, h.rdropWhile]

/-- Two bare ends around anything. -/
theorem Bare.append (hs : Bare p s) (ht : Bare p t) (hne : s ≠ []) (hnt : t ≠ []) (m : List α) :
    Bare p (s ++ m ++ t) where
  head c hc := by
    cases s with
    | nil => exact absurd rfl hne
    | cons d s => exact hs.head c hc
  last c hc := by
    rw [List.getLast?_append_of_ne_nil _ hnt] at hc
    exact ht.last c hc

theorem trim_append_left (hw : ∀ c ∈ w, p c = true) (s : List α) : trim p (w ++ s) = trim p s := by
  rw [trim, trim, List.dropWhile_append_of_pos hw]

theorem rdropWhile_append_of_pos (hw : ∀ c ∈ w, p c = true) (s : List α) :
    (s ++ w).rdropWhile p = s.rdropWhile p := by
  rw [List.rdropWhile, List.reverse_append, List.dropWhile_append_of_pos, ← List.rdropWhile]
  simpa using hw

theorem trim_append_right (hw : ∀ c ∈ w, p c = true) (s : List α) : trim p (s ++ w) = trim p s := by
  rw [trim, trim, List.dropWhile_append]
  by_cases hs : s.dropWhile p = []
  · have hw' : w.dropWhile p = [] := List.dropWhile_eq_nil_iff.mpr hw
    simp [hs, hw']
  · rw [if_neg (by simpa using hs), rdropWhile_append_of_pos hw]

/-- The bare middle is what is left. -/
theorem trim_surround (h : Bare p s) (hw : ∀ c ∈ w, p c = true) (hw' : ∀ c ∈ w', p c = true) :
    trim p (w ++ (s ++ w')) = s := by
  rw [trim_append_left hw, trim_append_right hw', h.trim]

theorem exists_surround (p : α → Bool) (s : List α) :
    ∃ w w', (∀ c ∈ w, p c = true) ∧ (∀ c ∈ w', p c = true) ∧ s = w ++ (trim p s ++ w') := by
  refine ⟨s.takeWhile p, (s.dropWhile p).rtakeWhile p, fun c hc => List.mem_takeWhile_imp hc,
    fun c hc => List.mem_rtakeWhile_imp hc, ?_⟩
  rw [trim, List.rdropWhile_append_rtakeWhile, List.takeWhile_append_dropWhile]

theorem bare_trim (p : α → Bool) (s : List α) : Bare p (trim p s) where
  head c hc := by
    obtain ⟨r, hr⟩ := List.rdropWhile_prefix p (s.dropWhile p)
    have hd : (s.dropWhile p).head? = some c := by
      rw [← hr]
      exact List.mem_head?_append_of_mem_head? hc
    have := List.head?_dropWhile_not p s
    rw [hd] at this
    simpa using this
  last c hc := by
    have hne : trim p s ≠ [] := by
      intro h
      rw [h] at hc
      exact nomatch hc
    have hlast := List.rdropWhile_last_not p (s.dropWhile p) hne
    have : (trim p s).getLast hne = c := by
      rw [List.getLast?_eq_some_getLast hne] at hc
      exact Option.some.inj hc
    rw [← this]
    simpa [trim] using hlast

theorem trim_eq_self_iff : trim p s = s ↔ Bare p s :=
  ⟨fun h => h ▸ bare_trim p s, Bare.trim⟩

theorem length_trim_le (p : α → Bool) (s : List α) : (trim p s).length ≤ s.length := by
  obtain ⟨w, w', -, -, h⟩ := exists_surround p s
  have := congrArg List.length h
  simp only [List.length_append] at this
  omega

/-- A trim is empty if there is nothing to keep. -/
theorem trim_eq_nil_iff : trim p s = [] ↔ ∀ c ∈ s, p c = true := by
  constructor
  · intro h
    obtain ⟨w, w', hw, hw', hs⟩ := exists_surround p s
    rw [h, List.nil_append] at hs
    rw [hs]
    exact List.forall_mem_append.mpr ⟨hw, hw'⟩
  · intro h
    have h0 : ∀ c ∈ ([] : List α), p c = true := by simp
    have := trim_surround Bare.nil h h0
    simpa using this

end WtslCore
