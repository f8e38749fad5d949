/-
# Taking turns

`n` places are used one after the other, the first behind the last, and now
and then the turn starts over. A trace is in turn if every place that is used
is the one whose turn it was (`InTurn`). Between two restarts the places are
then those of a clock (`InTurn.uses`), so that `n` uses reach every place
(`InTurn.covers`).

Key definitions: `Turn`, `place`, `InTurn`.
Key theorems: `InTurn.use`, `InTurn.uses`, `InTurn.covers`.
-/
import Mathlib.Data.List.Induction

namespace WtslCore
namespace Rotation

/-- The turn starts over, or a place is used. -/
inductive Turn
  | restart
  | use (i : ℕ)
  deriving DecidableEq, Repr

/-- The place behind a place. -/
def next (n i : ℕ) : ℕ := if i + 1 = n then 0 else i + 1

/-- Whose turn it is after one more. -/
def advance (n : ℕ) (_ : ℕ) : Turn → ℕ
  | .restart => 0
  | .use i => next n i

/-- Whose turn it is. -/
def place (n : ℕ) (ts : List Turn) : ℕ := ts.foldl (advance n) 0

/-- Each place is used when it is its turn. -/
def InTurn (n : ℕ) (ts : List Turn) : Prop := ∀ pre i, pre ++ [.use i] <+: ts → i = place n pre

variable {n i : ℕ} {t : Turn} {ts pre : List Turn} {us : List ℕ}

@[simp] theorem place_snoc : place n (ts ++ [t]) = advance n (place n ts) t := by
  unfold place
  rw [List.foldl_append]
  rfl

theorem next_eq_mod (h : i < n) : next n i = (i + 1) % n := by
  unfold next
  split_ifs with hlast
  · rw [hlast, Nat.mod_self]
  · rw [Nat.mod_eq_of_lt (by omega)]

theorem InTurn.of_append (h : InTurn n (ts ++ pre)) : InTurn n ts :=
  fun p i hp => h p i (hp.trans (List.prefix_append ..))

theorem inTurn_nil : InTurn n [] := by
  intro p i hp
  exact absurd (List.prefix_nil.mp hp) (List.append_ne_nil_of_right_ne_nil p (List.cons_ne_nil _ []))

theorem inTurn_snoc : InTurn n (ts ++ [t]) ↔ InTurn n ts ∧ ∀ i, t = .use i → i = place n ts := by
  constructor
  · intro h
    refine ⟨h.of_append, ?_⟩
    rintro i rfl
    exact h ts i List.prefix_rfl
  · rintro ⟨h, hlast⟩ p i hp
    rcases List.prefix_concat_iff.mp hp with heq | hp
    · obtain ⟨rfl, hi⟩ := List.append_inj' heq rfl
      exact hlast i (List.singleton_inj.mp hi).symm
    · exact h p i hp

theorem InTurn.restart (h : InTurn n ts) : InTurn n (ts ++ [.restart]) :=
  inTurn_snoc.mpr ⟨h, nofun⟩

theorem InTurn.use (h : InTurn n ts) : InTurn n (ts ++ [.use (place n ts)]) :=
  inTurn_snoc.mpr ⟨h, fun _ hi => (Turn.use.inj hi).symm⟩

theorem InTurn.place_lt (hn : 0 < n) (h : InTurn n ts) : place n ts < n := by
  induction ts using List.reverseRecOn with
  | nil => exact hn
  | append_singleton ts t ih =>
    obtain ⟨hts, hlast⟩ := inTurn_snoc.mp h
    rw [place_snoc]
    cases t with
    | restart => exact hn
    | use i =>
      have hi := hlast i rfl ▸ ih hts
      rw [advance, next_eq_mod hi]
      exact Nat.mod_lt _ hn

/-- The turn after uses without a restart. -/
theorem InTurn.place_uses (hn : 0 < n) (h : InTurn n (pre ++ us.map .use)) :
    place n (pre ++ us.map .use) = (place n pre + us.length) % n := by
  induction us using List.reverseRecOn with
  | nil =>
    rw [List.map_nil, List.append_nil, List.length_nil, Nat.add_zero] at *
    exact (Nat.mod_eq_of_lt (h.place_lt hn)).symm
  | append_singleton us i ih =>
    rw [List.map_append, List.map_singleton, ← List.append_assoc] at h ⊢
    obtain ⟨hus, hlast⟩ := inTurn_snoc.mp h
    have hi := hlast i rfl
    rw [place_snoc, advance, next_eq_mod (hi ▸ hus.place_lt hn), hi, ih hus, List.length_append,
      Nat.mod_add_mod]
    rfl

/-- **Uses without a restart go round**, from the place whose turn it was. -/
theorem InTurn.uses (hn : 0 < n) (h : InTurn n (pre ++ us.map .use)) :
    us = (List.range us.length).map fun k => (place n pre + k) % n := by
  induction us using List.reverseRecOn with
  | nil => rfl
  | append_singleton us i ih =>
    rw [List.map_append, List.map_singleton, ← List.append_assoc] at h
    obtain ⟨hus, hlast⟩ := inTurn_snoc.mp h
    have hi := (hlast i rfl).trans (hus.place_uses hn)
    rw [List.length_append, List.length_singleton, List.range_succ, List.map_append,
      List.map_singleton, ← ih hus, hi]

/-- **Every place has its turn** in `n` uses without a restart. -/
theorem InTurn.covers (hn : 0 < n) (h : InTurn n (pre ++ us.map .use)) (hlen : n ≤ us.length) {j : ℕ}
    (hj : j < n) : j ∈ us := by
  have hp := h.of_append.place_lt hn
  rw [h.uses hn]
  refine List.mem_map.mpr ⟨(j + (n - place n pre)) % n, List.mem_range.mpr ?_, ?_⟩
  · exact Nat.lt_of_lt_of_le (Nat.mod_lt _ hn) hlen
  · have hsum : place n pre + (j + (n - place n pre)) = j + n := by omega
    rw [Nat.add_mod_mod, hsum, Nat.add_mod_right, Nat.mod_eq_of_lt hj]

end Rotation
end WtslCore
