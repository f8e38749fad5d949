/-
# What a run acquires and releases

A run is a list of events, each of which acquires or releases one thing.
`settle` carries what is held through them and refuses to release what is not
held. A run that starts and ends with nothing in hand releases every thing as
often as it acquires it (`count_released`); if no thing is acquired twice, it
releases each exactly once (`ReleasedOnce.of_settle`).

What a run hands over to its caller is what it still holds at its end
(`ReleasedBut`).

Key definitions: `Event`, `settle`, `ReleasedOnce`, `ReleasedBut`.
Key theorems: `settle_append`, `count_released`, `ReleasedOnce.of_settle`,
`ReleasedBut.of_settle`.
-/
import Mathlib.Data.List.Nodup

namespace WtslCore
namespace Ledger

/-- A step of a run. -/
inductive Event (ρ : Type*)
  | acquire (r : ρ)
  | release (r : ρ)
  deriving DecidableEq, Repr

variable {ρ : Type*}

/-- What is acquired, in order. -/
def acquired : List (Event ρ) → List ρ
  | [] => []
  | .acquire r :: es => r :: acquired es
  | .release _ :: es => acquired es

/-- What is released, in order. -/
def released : List (Event ρ) → List ρ
  | [] => []
  | .acquire _ :: es => released es
  | .release r :: es => r :: released es

theorem acquired_append : ∀ es fs : List (Event ρ), acquired (es ++ fs) = acquired es ++ acquired fs
  | [], _ => rfl
  | .acquire r :: es, fs => congrArg (r :: ·) (acquired_append es fs)
  | .release _ :: es, fs => acquired_append es fs

variable [DecidableEq ρ]

/-- What is held after a run: `none` if something is released that is not held. -/
def settle : List ρ → List (Event ρ) → Option (List ρ)
  | held, [] => some held
  | held, .acquire r :: es => settle (r :: held) es
  | held, .release r :: es => if r ∈ held then settle (held.erase r) es else none

theorem settle_append : ∀ (es fs : List (Event ρ)) (held : List ρ),
    settle held (es ++ fs) = (settle held es).bind fun held' => settle held' fs
  | [], _, _ => rfl
  | .acquire r :: es, fs, held => settle_append es fs (r :: held)
  | .release r :: es, fs, held => by
    simp only [List.cons_append, settle]
    split_ifs
    · exact settle_append es fs (held.erase r)
    · rfl

/-- What is held at the end and what was released is what was held and acquired. -/
theorem count_settle (r : ρ) : ∀ (es : List (Event ρ)) {held held' : List ρ},
    settle held es = some held' →
      held.count r + (acquired es).count r = held'.count r + (released es).count r
  | [], held, held', h => by
    rw [show held = held' from Option.some.inj h]
    rfl
  | .acquire a :: es, held, held', h => by
    have ih := count_settle r es (show settle (a :: held) es = some held' from h)
    rw [List.count_cons] at ih
    rw [acquired, released, List.count_cons, ← ih]
    omega
  | .release a :: es, held, held', h => by
    rw [settle] at h
    split_ifs at h with hmem
    have ih := count_settle r es h
    rw [acquired, released, List.count_cons]
    rw [List.count_erase] at ih
    by_cases har : a = r
    · have hpos : 0 < held.count r := List.count_pos_iff.mpr (har ▸ hmem)
      simp only [har, beq_self_eq_true, if_true] at ih ⊢
      omega
    · simp only [beq_eq_false_iff_ne.mpr har, Bool.false_eq_true, if_false] at ih ⊢
      omega

/-- **Every thing is released as often as it is acquired.** -/
theorem count_released {es : List (Event ρ)} (h : settle [] es = some []) (r : ρ) :
    (released es).count r = (acquired es).count r := by
  have hcount := count_settle r es h
  simp only [List.count_nil, Nat.zero_add] at hcount
  exact hcount.symm

/-- **A run releases what it acquires**: nothing that is not held, everything
exactly once. -/
structure ReleasedOnce (es : List (Event ρ)) : Prop where
  settled : settle [] es = some []
  once : ∀ r ∈ acquired es, (released es).count r = 1

theorem ReleasedOnce.of_settle {es : List (Event ρ)} (h : settle [] es = some [])
    (hnodup : (acquired es).Nodup) : ReleasedOnce es :=
  ⟨h, fun r hr => (count_released h r).trans (List.count_eq_one_of_mem hnodup hr)⟩

/-- **A run releases all but what it hands over**: nothing that is not held,
everything else exactly once. -/
structure ReleasedBut (kept : List ρ) (es : List (Event ρ)) : Prop where
  settled : settle [] es = some kept
  once : ∀ r ∈ acquired es, (released es).count r = if r ∈ kept then 0 else 1

theorem ReleasedBut.of_settle {es : List (Event ρ)} {kept : List ρ} (h : settle [] es = some kept)
    (hnodup : (acquired es).Nodup) : ReleasedBut kept es where
  settled := h
  once r hr := by
    have hcount := count_settle r es h
    have hone := List.count_eq_one_of_mem hnodup hr
    rw [List.count_nil, Nat.zero_add, hone] at hcount
    split_ifs with hkept
    · have hpos := List.count_pos_iff.mpr hkept
      omega
    · have hzero := List.count_eq_zero.mpr hkept
      omega

end Ledger
end WtslCore
