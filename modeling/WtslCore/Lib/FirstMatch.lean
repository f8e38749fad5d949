/-
# Updating the first match of a list

A C function that walks a list to the first element with a property and
writes through the pointer it found is `updateFirst`; `List.find?` is the
read that goes with it. What the write keeps is said once for any key the
update preserves (`map_updateFirst`), for the elements outside a filter
(`filter_updateFirst`) and for the one element it hits
(`filter_updateFirst_eq`).

Key definitions: `updateFirst`.
Key theorems: `updateFirst_of_some`, `updateFirst_eq_set`, `map_updateFirst`, `mem_updateFirst`,
`find?_append_cons`, `find?_eq_find?_iff`, `filter_updateFirst`, `filter_updateFirst_eq`, `filter_eq_singleton`.
-/
import Mathlib.Data.List.Nodup
import Mathlib.Data.Nat.Notation

namespace WtslCore

variable {α β : Type*} {p q : α → Bool} {f : α → α}

/-- The list with the first element that meets `p` rewritten by `f`. -/
def updateFirst (p : α → Bool) (f : α → α) : List α → List α
  | [] => []
  | a :: l => if p a then f a :: l else a :: updateFirst p f l

theorem updateFirst_of_none {l : List α} (h : l.find? p = none) : updateFirst p f l = l := by
  induction l with
  | nil => rfl
  | cons a l ih =>
    rw [List.find?_cons] at h
    cases hp : p a with
    | true => simp [hp] at h
    | false =>
      rw [hp] at h
      simp [updateFirst, hp, ih h]

/-- The update at the first match is the update at its place. -/
theorem updateFirst_of_some {l : List α} {a : α} (h : l.find? p = some a) :
    ∃ l₁ l₂, l = l₁ ++ a :: l₂ ∧ (∀ b ∈ l₁, p b = false) ∧ updateFirst p f l = l₁ ++ f a :: l₂ := by
  induction l with
  | nil => simp at h
  | cons b l ih =>
    rw [List.find?_cons] at h
    cases hp : p b with
    | true =>
      rw [hp] at h
      simp only [Option.some.injEq] at h
      subst h
      exact ⟨[], l, rfl, by simp, by simp [updateFirst, hp]⟩
    | false =>
      rw [hp] at h
      obtain ⟨l₁, l₂, rfl, h1, h2⟩ := ih h
      refine ⟨b :: l₁, l₂, rfl, ?_, by simp [updateFirst, hp, h2]⟩
      intro c hc
      rcases List.mem_cons.mp hc with rfl | hc
      · exact hp
      · exact h1 c hc

/-- An update leaves the list as it is, or rewrites its first match. -/
theorem updateFirst_cases (p : α → Bool) (f : α → α) (l : List α) :
    (l.find? p = none ∧ updateFirst p f l = l) ∨ ∃ l₁ a l₂, l.find? p = some a ∧
      l = l₁ ++ a :: l₂ ∧ updateFirst p f l = l₁ ++ f a :: l₂ := by
  cases hf : l.find? p with
  | none => exact .inl ⟨rfl, updateFirst_of_none hf⟩
  | some a =>
    obtain ⟨l₁, l₂, hl, -, h⟩ := updateFirst_of_some (f := f) hf
    exact .inr ⟨l₁, a, l₂, rfl, hl, h⟩

/-- The first match, when what stands before it is known. -/
theorem find?_append_cons {l₁ l₂ : List α} {a : α} (hbefore : ∀ b ∈ l₁, p b = false)
    (ha : p a = true) : (l₁ ++ a :: l₂).find? p = some a := by
  have hnone : l₁.find? p = none := List.find?_eq_none.mpr fun b hb => by simp [hbefore b hb]
  rw [List.find?_append, hnone, Option.none_or, List.find?_cons, ha]

/-- The update, when the place of the first match is known. -/
theorem updateFirst_eq_set : ∀ {l : List α} {i : ℕ} {a : α}, l[i]? = some a → p a = true →
    (∀ j < i, ∀ b, l[j]? = some b → p b = false) → updateFirst p f l = l.set i (f a)
  | [], _, _, h, _, _ => by simp at h
  | b :: l, 0, a, h, hp, _ => by
    simp only [List.getElem?_cons_zero, Option.some.injEq] at h
    simp [updateFirst, h, hp]
  | b :: l, i + 1, a, h, hp, hb => by
    have h0 : p b = false := hb 0 (by omega) b rfl
    simp only [updateFirst, h0, Bool.false_eq_true, ↓reduceIte, List.set_cons_succ]
    rw [updateFirst_eq_set (by simpa using h) hp fun j hj c hc => hb (j + 1) (by omega) c (by simpa using hc)]

/-- **A weaker test finds the same element** exactly if nothing before it meets the weaker test. -/
theorem find?_eq_find?_iff (hqp : ∀ a, q a = true → p a = true) (l : List α) :
    l.find? p = l.find? q ↔ ∀ a ∈ l.takeWhile (fun a => !q a), p a = false := by
  induction l with
  | nil => simp
  | cons a l ih =>
    rw [List.find?_cons, List.find?_cons, List.takeWhile_cons]
    cases hq : q a with
    | true => simp [hqp a hq]
    | false =>
      cases hp : p a with
      | true =>
        refine iff_of_false (fun h => ?_) fun h => ?_
        · have := List.find?_some h.symm
          rw [hq] at this
          exact Bool.noConfusion this
        · have := h a (by simp)
          rw [hp] at this
          exact Bool.noConfusion this
      | false =>
        simp only [Bool.not_false, ↓reduceIte, List.forall_mem_cons]
        rw [ih]
        exact (and_iff_right hp).symm

theorem length_updateFirst (l : List α) : (updateFirst p f l).length = l.length := by
  rcases updateFirst_cases p f l with ⟨-, h⟩ | ⟨l₁, a, l₂, -, rfl, h⟩
  · rw [h]
  · simp [h]

/-- A key the update keeps on the element it hits is kept on the list. -/
theorem map_updateFirst (g : α → β) {l : List α} (h : ∀ a, l.find? p = some a → g (f a) = g a) :
    (updateFirst p f l).map g = l.map g := by
  rcases updateFirst_cases p f l with ⟨-, hu⟩ | ⟨l₁, a, l₂, hf, rfl, hu⟩
  · rw [hu]
  · simp [hu, h a hf]

theorem mem_updateFirst {l : List α} {b : α} (h : b ∈ updateFirst p f l) :
    b ∈ l ∨ ∃ a, l.find? p = some a ∧ b = f a := by
  rcases updateFirst_cases p f l with ⟨-, hu⟩ | ⟨l₁, a, l₂, hf, rfl, hu⟩
  · rw [hu] at h
    exact Or.inl h
  · rw [hu] at h
    simp only [List.mem_append, List.mem_cons] at h ⊢
    rcases h with h | rfl | h
    · exact Or.inl (Or.inl h)
    · exact Or.inr ⟨a, hf, rfl⟩
    · exact Or.inl (Or.inr (Or.inr h))

/-- The update is in the list it gives. -/
theorem mem_updateFirst_self {l : List α} {a : α} (h : l.find? p = some a) :
    f a ∈ updateFirst p f l := by
  obtain ⟨l₁, l₂, -, -, h2⟩ := updateFirst_of_some (f := f) h
  simp [h2]

/-- A filter that has neither the element hit nor its update sees no change. -/
theorem filter_updateFirst {l : List α}
    (h : ∀ a, l.find? p = some a → q a = false ∧ q (f a) = false) :
    (updateFirst p f l).filter q = l.filter q := by
  rcases updateFirst_cases p f l with ⟨-, hu⟩ | ⟨l₁, a, l₂, hf, rfl, hu⟩
  · rw [hu]
  · simp [hu, h a hf]

/-- If the element hit is all a filter has, the filter has its update. -/
theorem filter_updateFirst_eq {l : List α} {a : α} (hl : l.filter q = [a])
    (hf : l.find? p = some a) (hq : q (f a) = true) : (updateFirst p f l).filter q = [f a] := by
  obtain ⟨l₁, l₂, rfl, -, h2⟩ := updateFirst_of_some (f := f) hf
  have hqa : q a = true := by
    have : a ∈ (l₁ ++ a :: l₂).filter q := by rw [hl]; exact List.mem_singleton_self a
    exact (List.mem_filter.mp this).2
  have hlen := congrArg List.length hl
  simp only [List.filter_append, List.filter_cons, hqa, ↓reduceIte, List.length_append,
    List.length_cons, List.length_nil] at hlen
  have h1 : l₁.filter q = [] := List.length_eq_zero_iff.mp (by omega)
  have h3 : l₂.filter q = [] := List.length_eq_zero_iff.mp (by omega)
  simp [h2, h1, h3, hq]

/-- The one element a filter has, if the list has no element twice. -/
theorem filter_eq_singleton {l : List α} {a : α} (hn : l.Nodup) (ha : a ∈ l) (hq : q a = true)
    (hu : ∀ b ∈ l, q b = true → b = a) : l.filter q = [a] := by
  rw [List.eq_replicate_of_mem (l := l.filter q) (a := a)
    fun b hb => hu b (List.mem_filter.mp hb).1 (List.mem_filter.mp hb).2]
  have hle : (l.filter q).length ≤ 1 := by
    have := hn.filter q
    rw [List.eq_replicate_of_mem (l := l.filter q) (a := a)
      fun b hb => hu b (List.mem_filter.mp hb).1 (List.mem_filter.mp hb).2] at this
    exact List.nodup_replicate.mp this
  have hpos : 0 < (l.filter q).length :=
    List.length_pos_of_mem (List.mem_filter.mpr ⟨ha, hq⟩)
  rw [show (l.filter q).length = 1 by omega]
  rfl

end WtslCore
