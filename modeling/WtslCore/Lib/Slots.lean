/-
# Tables kept in an array with a count

A table of at most so many elements is an array and a count: the elements in
front of the count are the table, what lies behind is left over. An element
is removed by shifting those after it down by one place (`shiftDown`), and
all that meet a test are removed by a walk that stays where it is after a
removal (`purge`). The table is the array's front, so the first is the removal
from a list (`shiftDown_eq`) and the second a filter (`purge_take`).

Key definitions: `shiftDown`, `purge`.
Key theorems: `shiftDown_eq`, `purge_eq`, `purge_take`, `take_set_length`.
-/
import Mathlib.Data.List.Basic
import Mathlib.Data.Nat.Notation

namespace WtslCore

variable {α : Type*}

/-- `for (j = i; j < i + k; j++) a[j] = a[j + 1];` -/
def shiftDown (a : List α) (i : ℕ) : ℕ → List α
  | 0 => a
  | k + 1 =>
    match a[i + 1]? with
    | none => a
    | some x => shiftDown (a.set i x) (i + 1) k

/-- The walk from place `i` to the count `n` that removes what meets `p`: the
array and the count after it. -/
def purge (p : α → Bool) (a : List α) (i n : ℕ) : List α × ℕ :=
  if i < n then
    if a[i]?.any p then purge p (shiftDown a i (n - 1 - i)) i (n - 1) else purge p a (i + 1) n
  else (a, n)
termination_by n - i

theorem length_shiftDown : ∀ (k i : ℕ) (a : List α), (shiftDown a i k).length = a.length
  | 0, _, _ => rfl
  | k + 1, i, a => by
    unfold shiftDown
    cases a[i + 1]? with
    | none => rfl
    | some x => rw [length_shiftDown k, List.length_set]

theorem mem_shiftDown : ∀ (k i : ℕ) {a : List α} {x : α}, x ∈ shiftDown a i k → x ∈ a
  | 0, _, _, _, h => h
  | k + 1, i, a, x, h => by
    unfold shiftDown at h
    cases hz : a[i + 1]? with
    | none =>
      rw [hz] at h
      exact h
    | some z =>
      rw [hz] at h
      rcases List.mem_or_eq_of_mem_set (mem_shiftDown k (i + 1) h) with hx | rfl
      · exact hx
      · exact List.mem_of_getElem? hz

/-- Neither puts anything new into the array. -/
theorem mem_purge {p : α → Bool} {a : List α} {i n : ℕ} {x : α} (h : x ∈ (purge p a i n).1) :
    x ∈ a := by
  induction a, i, n using purge.induct (p := p) with
  | case1 a i n hlt hp ih =>
    rw [purge, if_pos hlt, if_pos hp] at h
    exact mem_shiftDown _ _ (ih h)
  | case2 a i n hlt hp ih =>
    rw [purge, if_pos hlt, if_neg hp] at h
    exact ih h
  | case3 a i n hlt =>
    rw [purge, if_neg hlt] at h
    exact h

/-- **A shift removes an element**: those after it move up to it, and the last
one is left behind. -/
theorem shiftDown_eq : ∀ (mid pre rest : List α) (x : α),
    ∃ y, shiftDown (pre ++ x :: (mid ++ rest)) pre.length mid.length = pre ++ mid ++ y :: rest
  | [], pre, rest, x => ⟨x, by simp [shiftDown]⟩
  | z :: mid, pre, rest, x => by
    obtain ⟨y, hy⟩ := shiftDown_eq mid (pre ++ [z]) rest z
    refine ⟨y, ?_⟩
    have hget : (pre ++ x :: (z :: mid ++ rest))[pre.length + 1]? = some z := by
      rw [List.getElem?_append_right (by omega)]
      simp
    have hset : (pre ++ x :: (z :: mid ++ rest)).set pre.length z =
        pre ++ [z] ++ z :: (mid ++ rest) := by simp
    rw [List.length_cons, shiftDown, hget]
    dsimp only
    rw [hset]
    simpa using hy

/-- The walk over what is left of the table, `todo`, after what it kept. -/
theorem purge_eq (p : α → Bool) : ∀ (todo pre stale : List α),
    ∃ stale', purge p (pre ++ (todo ++ stale)) pre.length (pre.length + todo.length) =
        (pre ++ (todo.filter (fun x => !p x) ++ stale'),
          pre.length + (todo.filter fun x => !p x).length) ∧
      (todo.filter fun x => !p x).length + stale'.length = todo.length + stale.length
  | [], pre, stale => ⟨stale, by rw [purge]; simp, rfl⟩
  | x :: todo, pre, stale => by
    have hlt : pre.length < pre.length + (x :: todo).length := by simp
    have hget : (pre ++ (x :: todo ++ stale))[pre.length]? = some x := by
      rw [List.getElem?_append_right (Nat.le_refl _)]
      simp
    rw [purge, if_pos hlt, hget, Option.any_some]
    cases hx : p x with
    | true =>
      obtain ⟨y, hy⟩ := shiftDown_eq todo pre stale x
      have hk : pre.length + (x :: todo).length - 1 - pre.length = todo.length := by
        rw [List.length_cons]
        omega
      have hn : pre.length + (x :: todo).length - 1 = pre.length + todo.length := by
        rw [List.length_cons]
        omega
      obtain ⟨stale', h1, h2⟩ := purge_eq p todo pre (y :: stale)
      refine ⟨stale', ?_, ?_⟩
      · rw [if_pos rfl, hk, hn, List.cons_append, hy, List.append_assoc, h1]
        simp [hx]
      · rw [List.filter_cons, hx]
        simp only [List.length_cons] at h2 ⊢
        simpa [Nat.add_comm, Nat.add_left_comm] using h2
    | false =>
      obtain ⟨stale', h1, h2⟩ := purge_eq p todo (pre ++ [x]) stale
      refine ⟨stale', ?_, ?_⟩
      · have harr : pre ++ (x :: todo ++ stale) = pre ++ [x] ++ (todo ++ stale) := by simp
        have hlen : pre.length + 1 = (pre ++ [x]).length := by simp
        have hcount : pre.length + (x :: todo).length = (pre ++ [x]).length + todo.length := by
          simp only [List.length_cons, List.length_append, List.length_nil]
          omega
        rw [if_neg Bool.false_ne_true, harr, hlen, hcount, h1]
        simp only [List.filter_cons, hx, Bool.not_false, ↓reduceIte, List.append_assoc,
          List.cons_append, List.nil_append, List.length_append, List.length_cons, List.length_nil,
          Prod.mk.injEq, true_and]
        omega
      · simp only [List.filter_cons, hx, Bool.not_false, ↓reduceIte, List.length_cons]
        omega

/-- **The walk is a filter of the table**; the array keeps its length. -/
theorem purge_take (p : α → Bool) {a : List α} {n : ℕ} (hn : n ≤ a.length) :
    (purge p a 0 n).1.take (purge p a 0 n).2 = (a.take n).filter (fun x => !p x) ∧
      (purge p a 0 n).1.length = a.length ∧
      (purge p a 0 n).2 = ((a.take n).filter fun x => !p x).length := by
  have hlen : (a.take n).length = n := List.length_take_of_le hn
  obtain ⟨stale', h1, h2⟩ := purge_eq p (a.take n) [] (a.drop n)
  rw [List.nil_append, List.take_append_drop, List.length_nil, Nat.zero_add, Nat.zero_add, hlen] at h1
  rw [h1]
  refine ⟨List.take_left, ?_, rfl⟩
  rw [hlen, List.length_drop] at h2
  rw [List.nil_append, List.length_append]
  omega

/-- An element written at the count is appended to the table. -/
theorem take_set_length {a : List α} {n : ℕ} (hn : n < a.length) (x : α) :
    (a.set n x).take (n + 1) = a.take n ++ [x] := by
  rw [List.take_add_one, List.take_set_of_le (Nat.le_refl n), List.getElem?_set_self hn]
  rfl

end WtslCore
