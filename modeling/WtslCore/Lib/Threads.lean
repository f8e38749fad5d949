/-
# Threads over a shared state

A pool is a shared state and the threads that were started so far, each with a
state of its own. A label is a step of one of the threads, which changes the
shared state and its own, or a step of the main program, which changes the
shared state and may start a thread. Both may look at everything.

A thread's state changes by its own steps alone: it stays where it is as long
as it takes none (`exec_unmoved`). What a start and every step of a thread
establish holds of all threads (`forall_step`). And if a thread is started
only when all others are done, one thread at most is at work (`alone_step`).

Key definitions: `Pool`, `Label`, `Pool.step`, `Alone`.
Key theorems: `getElem?_step_ne`, `exec_unmoved`, `forall_step`, `alone_step`.
-/
import WtslCore.Lib.Run

namespace WtslCore
namespace Threads

open Runs

/-- The shared state, and the threads in the order they were started. -/
structure Pool (σ τ : Type*) where
  shared : σ
  threads : List τ

/-- A step of a thread, or of the main program. -/
inductive Label (α μ : Type*)
  | thread (i : ℕ) (a : α)
  | main (m : μ)
  deriving DecidableEq

variable {σ τ α μ : Type*}

/-- One step: a thread's new state is put in its place, a new thread behind the others. -/
def Pool.step (thread : Pool σ τ → ℕ → τ → α → Option (σ × τ))
    (main : Pool σ τ → μ → Option (σ × Option τ)) (p : Pool σ τ) : Label α μ → Option (Pool σ τ)
  | .thread i a => p.threads[i]?.bind fun t =>
      (thread p i t a).map fun r => ⟨r.1, p.threads.set i r.2⟩
  | .main m => (main p m).map fun r => ⟨r.1, p.threads ++ r.2.toList⟩

variable {thread : Pool σ τ → ℕ → τ → α → Option (σ × τ)}
  {main : Pool σ τ → μ → Option (σ × Option τ)} {p p' : Pool σ τ} {i : ℕ} {t : τ} {l : Label α μ}

/-- What a step of a thread is. -/
theorem step_thread_iff {a : α} : p.step thread main (.thread i a) = some p' ↔
    ∃ t r, p.threads[i]? = some t ∧ thread p i t a = some r ∧ p' = ⟨r.1, p.threads.set i r.2⟩ := by
  rw [Pool.step, Option.bind_eq_some_iff]
  constructor
  · rintro ⟨t, ht, hmap⟩
    obtain ⟨r, hr, hp⟩ := Option.map_eq_some_iff.mp hmap
    exact ⟨t, r, ht, hr, hp.symm⟩
  · rintro ⟨t, r, ht, hr, rfl⟩
    exact ⟨t, ht, Option.map_eq_some_iff.mpr ⟨r, hr, rfl⟩⟩

/-- What a step of the main program is. -/
theorem step_main_iff {m : μ} : p.step thread main (.main m) = some p' ↔
    ∃ r, main p m = some r ∧ p' = ⟨r.1, p.threads ++ r.2.toList⟩ := by
  rw [Pool.step, Option.map_eq_some_iff]
  exact exists_congr fun r => and_congr_right fun _ => eq_comm

/-- A step that is none of the thread's leaves the thread. -/
theorem getElem?_step_ne (ht : p.threads[i]? = some t) (hother : ∀ a, l ≠ .thread i a)
    (hs : p.step thread main l = some p') : p'.threads[i]? = some t := by
  cases l with
  | thread j a =>
    obtain ⟨u, r, -, -, rfl⟩ := step_thread_iff.mp hs
    have hne : j ≠ i := by
      rintro rfl
      exact hother a rfl
    rw [List.getElem?_set_ne hne]
    exact ht
  | main m =>
    obtain ⟨r, -, rfl⟩ := step_main_iff.mp hs
    rw [List.getElem?_append_left (List.getElem?_eq_some_iff.mp ht).1]
    exact ht

/-- **A thread stays where it is** while it takes no step that it could take. -/
theorem exec_unmoved {ls : List (Label α μ)} (h : exec (Pool.step thread main) p ls = some p')
    (ht : p.threads[i]? = some t) (hstuck : ∀ a, .thread i a ∈ ls → ∀ q, thread q i t a = none) :
    p'.threads[i]? = some t := by
  induction ls generalizing p with
  | nil =>
    obtain rfl := Option.some.inj h
    exact ht
  | cons l ls ih =>
    obtain ⟨p₁, hs, hrest⟩ := Option.bind_eq_some_iff.mp h
    refine ih hrest (getElem?_step_ne ht (fun a hl => ?_) hs) fun a ha =>
      hstuck a (List.mem_cons_of_mem _ ha)
    subst hl
    obtain ⟨u, r, hu, hr, -⟩ := step_thread_iff.mp hs
    obtain rfl := Option.some.inj (ht.symm.trans hu)
    rw [hstuck a List.mem_cons_self p] at hr
    exact nomatch hr

/-- What a start and every step of a thread establish is kept for all threads. -/
theorem forall_step {P : τ → Prop} (h : ∀ t ∈ p.threads, P t)
    (hthread : ∀ i t a r, P t → thread p i t a = some r → P r.2)
    (hmain : ∀ m r, l = .main m → main p m = some r → ∀ t ∈ r.2, P t)
    (hs : p.step thread main l = some p') : ∀ t ∈ p'.threads, P t := by
  cases l with
  | thread i a =>
    obtain ⟨t, r, ht, hr, rfl⟩ := step_thread_iff.mp hs
    intro u hu
    rcases List.mem_or_eq_of_mem_set hu with hu | rfl
    · exact h u hu
    · exact hthread i t a r (h t (List.mem_of_getElem? ht)) hr
  | main m =>
    obtain ⟨r, hr, rfl⟩ := step_main_iff.mp hs
    intro u hu
    rcases List.mem_append.mp hu with hu | hu
    · exact h u hu
    · exact hmain m r rfl hr u (Option.mem_toList.mp hu)

/-! ### One thread at work -/

/-- No two threads are at work. -/
def Alone (done : τ → Prop) (p : Pool σ τ) : Prop :=
  ∀ (i j : ℕ) (t u : τ), p.threads[i]? = some t → p.threads[j]? = some u → ¬ done t → ¬ done u → i = j

/-- **One thread at most is at work** if a thread that is done stays so, and
one is started only when all others are done. -/
theorem alone_step {done : τ → Prop} (h : Alone done p)
    (hdone : ∀ i t a, done t → thread p i t a = none)
    (hstart : ∀ m r, l = .main m → main p m = some r → r.2.isSome → ∀ t ∈ p.threads, done t)
    (hs : p.step thread main l = some p') : Alone done p' := by
  cases l with
  | thread k a =>
    obtain ⟨t₀, r, ht₀, hr, rfl⟩ := step_thread_iff.mp hs
    have hwork : ¬ done t₀ := by
      intro hd
      rw [hdone k t₀ a hd] at hr
      exact nomatch hr
    -- who is at work afterwards was at work before
    have hbefore : ∀ {i : ℕ} {t : τ}, (p.threads.set k r.2)[i]? = some t → ¬ done t →
        ∃ u, p.threads[i]? = some u ∧ ¬ done u := by
      intro i t hi hd
      by_cases hik : k = i
      · subst hik
        exact ⟨t₀, ht₀, hwork⟩
      · rw [List.getElem?_set_ne hik] at hi
        exact ⟨t, hi, hd⟩
    intro i j t u hi hj hdt hdu
    obtain ⟨t', hi', ht'⟩ := hbefore hi hdt
    obtain ⟨u', hj', hu'⟩ := hbefore hj hdu
    exact h i j t' u' hi' hj' ht' hu'
  | main m =>
    obtain ⟨⟨s, new⟩, hr, rfl⟩ := step_main_iff.mp hs
    cases new with
    | none => simpa [Alone] using h
    | some t₀ =>
      have hall := hstart m _ rfl hr rfl
      -- only the new thread is at work
      have hnew : ∀ {i : ℕ} {t : τ}, (p.threads ++ [t₀])[i]? = some t → ¬ done t → i = p.threads.length := by
        intro i t hi hd
        rcases Nat.lt_trichotomy i p.threads.length with hlt | heq | hgt
        · rw [List.getElem?_append_left hlt] at hi
          exact absurd (hall t (List.mem_of_getElem? hi)) hd
        · exact heq
        · have hlen := (List.getElem?_eq_some_iff.mp hi).1
          rw [List.length_append, List.length_singleton] at hlen
          omega
      intro i j t u hi hj hdt hdu
      exact (hnew hi hdt).trans (hnew hj hdu).symm

end Threads
end WtslCore
