/-
# The most recently used

A history lists what was used, the latest first. A table of `n` places is to
hold its `n` most recent distinct elements in that order, and a filler where
there are not enough (`places`). When an element is used again, the table that
puts it in front and drops the last place is right if and only if the element
was in no place but the last (`shift_eq_iff`); the table that stays as it is
is right if and only if the element was in the first (`keep_eq_iff`).

Key definitions: `distinct`, `places`.
Key theorems: `nodup_places`, `shift_eq_iff`, `keep_eq_iff`.
-/
import Mathlib.Data.List.Nodup

namespace WtslCore
namespace Recent

variable {α : Type*} [DecidableEq α]

/-- The elements of a history, each where it was used last. -/
def distinct : List α → List α
  | [] => []
  | a :: hist => a :: (distinct hist).erase a

/-- The table: the most recent distinct elements, and the filler `d` behind them. -/
def places (n : ℕ) (d : α) (hist : List α) : List α :=
  (distinct hist ++ List.replicate n d).take n

variable {a b d : α} {n : ℕ} {hist : List α}

theorem nodup_distinct : ∀ hist : List α, (distinct hist).Nodup
  | [] => List.nodup_nil
  | a :: hist => by
    have ih := nodup_distinct hist
    exact List.nodup_cons.mpr ⟨ih.not_mem_erase, ih.erase a⟩

theorem mem_distinct : ∀ {hist : List α}, b ∈ distinct hist ↔ b ∈ hist
  | [] => Iff.rfl
  | a :: hist => by
    rw [distinct, List.mem_cons, List.mem_cons, (nodup_distinct hist).mem_erase_iff, mem_distinct]
    by_cases hb : b = a
    · exact iff_of_true (.inl hb) (.inl hb)
    · exact or_congr_right (and_iff_right hb)

theorem mem_places (h : b ∈ places n d hist) : b = d ∨ b ∈ hist := by
  rcases List.mem_append.mp (List.mem_of_mem_take h) with helem | hfill
  · exact .inr (mem_distinct.mp helem)
  · exact .inl (List.eq_of_mem_replicate hfill)

theorem length_places (n : ℕ) (d : α) (hist : List α) : (places n d hist).length = n := by
  rw [places, List.length_take, List.length_append, List.length_replicate]
  omega

/-- **No element has two places**, the filler apart. -/
theorem nodup_places (n : ℕ) (d : α) (hist : List α) :
    ((places n d hist).filter fun b => b ≠ d).Nodup := by
  have hfill : (List.replicate n d).filter (fun b => b ≠ d) = [] := by simp
  have hall : ((distinct hist ++ List.replicate n d).filter fun b => b ≠ d).Nodup := by
    rw [List.filter_append, hfill, List.append_nil]
    exact (nodup_distinct hist).filter _
  exact hall.sublist ((List.take_sublist n _).filter _)

/-- Leaving an element out does not change what stands in front of it. -/
theorem take_erase_append : ∀ {l : List α} (r : List α) (k : ℕ), a ∉ (l ++ r).take k →
    (l.erase a ++ r).take k = (l ++ r).take k
  | [], _, _, _ => rfl
  | _ :: _, _, 0, _ => rfl
  | b :: l, r, k + 1, h => by
    rw [List.cons_append, List.take_succ_cons, List.mem_cons, not_or] at h
    have hb : ¬ (b == a) = true := fun heq => h.1 (beq_iff_eq.mp heq).symm
    rw [List.erase_cons_tail hb, List.cons_append, List.cons_append, List.take_succ_cons,
      List.take_succ_cons, take_erase_append r k h.2]

/-- **Shifting** is right exactly for an element that is in no place but the last. -/
theorem shift_eq_iff (had : a ≠ d) :
    (a :: places (n + 1) d hist).take (n + 1) = places (n + 1) d (a :: hist) ↔
      a ∉ (places (n + 1) d hist).take n := by
  have hold : (places (n + 1) d hist).take n =
      (distinct hist ++ List.replicate (n + 1) d).take n := by
    rw [places, List.take_take, Nat.min_eq_left (Nat.le_succ n)]
  have hnew : places (n + 1) d (a :: hist) =
      a :: ((distinct hist).erase a ++ List.replicate (n + 1) d).take n := by
    rw [places, distinct, List.cons_append, List.take_succ_cons]
  rw [hnew, List.take_succ_cons, hold]
  constructor
  · intro h hmem
    rw [(List.cons.inj h).2] at hmem
    rcases List.mem_append.mp (List.mem_of_mem_take hmem) with hrest | hfill
    · exact (nodup_distinct hist).not_mem_erase hrest
    · exact had (List.eq_of_mem_replicate hfill)
  · intro h
    rw [take_erase_append _ n h]

/-- **Staying** is right exactly for the element in the first place. -/
theorem keep_eq_iff (had : a ≠ d) :
    places (n + 1) d hist = places (n + 1) d (a :: hist) ↔
      (places (n + 1) d hist).head? = some a := by
  constructor
  · intro h
    rw [h]
    rfl
  · intro h
    unfold places at h ⊢
    rw [distinct]
    cases hd : distinct hist with
    | nil =>
      rw [hd] at h
      exact absurd (Option.some.inj h).symm had
    | cons b l =>
      rw [hd] at h
      obtain rfl : b = a := Option.some.inj h
      rw [List.erase_cons_head]

end Recent
end WtslCore
