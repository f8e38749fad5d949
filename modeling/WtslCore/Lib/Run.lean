/-
# Runs of a partial step function

A system is a state type `σ`, a label type `α` and a step `σ → α → Option σ`
(`none`: the step has no defined outcome, the run ends there). `Run step ok s₀
as s` says that the labels `as` lead from `s₀` to `s` and that every step of
the way meets the condition `ok` in the state it is taken from. An invariant
is shown once for the start and once for a step (`Run.invariant`), and a fact
about the labels read so far with `Run.induct`, which is `Run`'s own
induction.

Key definitions: `exec`, `Run`, `outputs`.
Key theorems: `Run.invariant`, `Run.stays_iff`, `Run.meets_iff`,
`Run.refines`, `Run.of_exec`, `Run.exec_eq`, `prefix_meets_iff`,
`outputs_induct`, `Run.outputs_le`.
-/
import Mathlib.Data.List.Induction

namespace WtslCore
namespace Runs

variable {σ α : Type*}

/-- The state the labels lead to, if every step on the way is defined. -/
def exec (step : σ → α → Option σ) (s : σ) : List α → Option σ
  | [] => some s
  | a :: as => (step s a).bind fun s' => exec step s' as

/-- A run: the labels in order, the state they lead to, `ok` at each step. -/
inductive Run (step : σ → α → Option σ) (ok : σ → α → Prop) (s₀ : σ) : List α → σ → Prop
  | nil : Run step ok s₀ [] s₀
  | snoc {as : List α} {s s' : σ} {a : α} : Run step ok s₀ as s → ok s a → step s a = some s' →
      Run step ok s₀ (as ++ [a]) s'

variable {step : σ → α → Option σ} {ok : σ → α → Prop} {s₀ s : σ} {as : List α}

theorem exec_append (s : σ) (as bs : List α) :
    exec step s (as ++ bs) = (exec step s as).bind fun s' => exec step s' bs := by
  induction as generalizing s with
  | nil => rfl
  | cons a as ih =>
    simp only [List.cons_append, exec]
    cases step s a with
    | none => rfl
    | some s' => exact ih s'

theorem exec_snoc (s : σ) (as : List α) (a : α) :
    exec step s (as ++ [a]) = (exec step s as).bind fun s' => step s' a := by
  rw [exec_append]
  congr 1
  funext s'
  simp [exec]

/-- What holds at the start and is kept by every step that meets `ok` holds
in every state a run reaches. -/
theorem Run.invariant {I : σ → Prop} (h : Run step ok s₀ as s) (h0 : I s₀)
    (hstep : ∀ s a s', I s → ok s a → step s a = some s' → I s') : I s := by
  induction h with
  | nil => exact h0
  | snoc _ hok hs ih => exact hstep _ _ _ ih hok hs

theorem Run.single {a : α} (hok : ok s₀ a) (hs : step s₀ a = some s) : Run step ok s₀ [a] s :=
  .snoc .nil hok hs

theorem Run.exec_eq (h : Run step ok s₀ as s) : exec step s₀ as = some s := by
  induction h with
  | nil => rfl
  | snoc _ _ hs ih => rw [exec_snoc, ih]; exact hs

/-- Without a condition on the steps, a run is an execution. -/
theorem Run.of_exec : ∀ {as : List α} {s : σ}, exec step s₀ as = some s →
    Run step (fun _ _ => True) s₀ as s := by
  intro as
  induction as using List.reverseRecOn with
  | nil =>
    intro s h
    cases h
    exact .nil
  | append_singleton as a ih =>
    intro s h
    rw [exec_snoc] at h
    obtain ⟨s', h1, h2⟩ := Option.bind_eq_some_iff.mp h
    exact .snoc (ih h1) trivial h2

/-- An execution in which the condition is checked at every step is a run. -/
theorem Run.of_checked [∀ s a, Decidable (ok s a)]
    (h : exec (fun s a => if ok s a then step s a else none) s₀ as = some s) : Run step ok s₀ as s := by
  have hrun := Run.of_exec h
  induction hrun with
  | nil => exact .nil
  | snoc hr _ hs ih =>
    obtain ⟨hok, hs⟩ := Option.ite_none_right_eq_some.mp hs
    exact .snoc (ih hr.exec_eq) hok hs

/-- If, in states with `K`, a step out of `J` stays in `J` exactly under `ok`,
then the runs that stay in `J` are the runs whose steps meet `ok`. -/
theorem Run.stays_iff {K J : σ → Prop} (hK : K s₀) (hJ : J s₀)
    (hKs : ∀ s a s', K s → step s a = some s' → K s')
    (hJs : ∀ s a s', K s → J s → step s a = some s' → (J s' ↔ ok s a)) :
    Run step (fun s a => ∀ s', step s a = some s' → J s') s₀ as s ↔ Run step ok s₀ as s := by
  constructor
  · intro h
    suffices hs : Run step ok s₀ as s ∧ K s ∧ J s from hs.1
    induction h with
    | nil => exact ⟨.nil, hK, hJ⟩
    | snoc _ hok hs ih =>
      obtain ⟨hr, hk, hj⟩ := ih
      have hj' := hok _ hs
      exact ⟨.snoc hr ((hJs _ _ _ hk hj hs).mp hj') hs, hKs _ _ _ hk hs, hj'⟩
  · intro h
    suffices hs : Run step (fun s a => ∀ s', step s a = some s' → J s') s₀ as s ∧ K s ∧ J s from hs.1
    induction h with
    | nil => exact ⟨.nil, hK, hJ⟩
    | snoc _ hok hs ih =>
      obtain ⟨hr, hk, hj⟩ := ih
      have hj' := (hJs _ _ _ hk hj hs).mpr hok
      refine ⟨.snoc hr (fun s' h' => ?_) hs, hKs _ _ _ hk hs, hj'⟩
      rw [hs] at h'
      exact Option.some.inj h' ▸ hj'

/-- If two conditions on a step agree in states with `K`, and steps that meet
them keep `K`, the runs whose steps meet the one are those whose steps meet
the other. -/
theorem Run.meets_iff {K : σ → Prop} {P : σ → α → Prop} (hK : K s₀)
    (h : ∀ s a, K s → (P s a ↔ ok s a))
    (hKs : ∀ s a s', K s → ok s a → step s a = some s' → K s') :
    Run step P s₀ as s ↔ Run step ok s₀ as s := by
  constructor
  · intro hr
    suffices hs : Run step ok s₀ as s ∧ K s from hs.1
    induction hr with
    | nil => exact ⟨.nil, hK⟩
    | snoc _ hp hs ih =>
      have hok := (h _ _ ih.2).mp hp
      exact ⟨.snoc ih.1 hok hs, hKs _ _ _ ih.2 hok hs⟩
  · intro hr
    suffices hs : Run step P s₀ as s ∧ K s from hs.1
    induction hr with
    | nil => exact ⟨.nil, hK⟩
    | snoc _ hok hs ih => exact ⟨.snoc ih.1 ((h _ _ ih.2).mpr hok) hs, hKs _ _ _ ih.2 hok hs⟩

/-- Refinement: what the start satisfies with `t₀` and every step that meets
`ok` keeps against one step of `f` holds of a run and the fold of its labels. -/
theorem Run.refines {τ : Type*} {f : τ → α → τ} {t₀ : τ} {R : σ → τ → Prop}
    (h : Run step ok s₀ as s) (h0 : R s₀ t₀)
    (hstep : ∀ s a s' t, R s t → ok s a → step s a = some s' → R s' (f t a)) :
    R s (as.foldl f t₀) := by
  induction h with
  | nil => exact h0
  | snoc _ hok hs ih =>
    rw [List.foldl_append]
    exact hstep _ _ _ _ ih hok hs

/-! ### Histories

What is asked of a step can depend on the labels before it. They are folded
into a history `τ`, and a simulation `R` ties the states to it. -/

section

variable {τ : Type*} {note : τ → α → τ} {t₀ : τ} {R : σ → τ → Prop} {P : σ → τ → α → Prop}
  {cond : τ → α → Prop}

/-- The state behind labels that all meet the condition. -/
theorem exec_of_cond (h0 : R s₀ t₀)
    (hkeep : ∀ s t a, R s t → cond t a → ∃ s', step s a = some s' ∧ R s' (note t a))
    (hcond : ∀ bs b, bs ++ [b] <+: as → cond (bs.foldl note t₀) b) :
    ∃ s, exec step s₀ as = some s ∧ R s (as.foldl note t₀) := by
  induction as using List.reverseRecOn with
  | nil => exact ⟨s₀, rfl, h0⟩
  | append_singleton as a ih =>
    obtain ⟨s, hs, hR⟩ := ih fun bs b hbs => hcond bs b (hbs.trans (List.prefix_append ..))
    obtain ⟨s', hs', hR'⟩ := hkeep s _ a hR (hcond as a List.prefix_rfl)
    refine ⟨s', ?_, ?_⟩
    · rw [exec_snoc, hs]
      exact hs'
    · rw [List.foldl_append]
      exact hR'

/-- If what is asked of a step and a condition on the history agree in states
that simulate it, and a step under the condition keeps the simulation, then
what is asked holds at every label exactly if the condition does. -/
theorem prefix_meets_iff (h0 : R s₀ t₀) (hiff : ∀ s t a, R s t → (P s t a ↔ cond t a))
    (hkeep : ∀ s t a, R s t → cond t a → ∃ s', step s a = some s' ∧ R s' (note t a)) :
    (∀ bs b, bs ++ [b] <+: as → ∃ s, exec step s₀ bs = some s ∧ P s (bs.foldl note t₀) b) ↔
      ∀ bs b, bs ++ [b] <+: as → cond (bs.foldl note t₀) b := by
  constructor
  · intro h
    induction as using List.reverseRecOn with
    | nil =>
      intro bs b hpre
      exact absurd (List.prefix_nil.mp hpre) (List.append_ne_nil_of_right_ne_nil bs (List.cons_ne_nil b []))
    | append_singleton as a ih =>
      have hbefore := ih fun bs b hbs => h bs b (hbs.trans (List.prefix_append ..))
      intro bs b hpre
      rcases List.prefix_concat_iff.mp hpre with heq | hpre
      · obtain ⟨rfl, hb⟩ := List.append_inj' heq rfl
        obtain rfl := List.singleton_inj.mp hb
        obtain ⟨s, hs, hR⟩ := exec_of_cond h0 hkeep hbefore
        obtain ⟨s', hs', hP⟩ := h bs b List.prefix_rfl
        obtain rfl := Option.some.inj (hs.symm.trans hs')
        exact (hiff s _ b hR).mp hP
      · exact hbefore bs b hpre
  · intro h bs b hpre
    have hbefore : ∀ cs c, cs ++ [c] <+: bs → cond (cs.foldl note t₀) c := fun cs c hcs =>
      h cs c (hcs.trans ((List.prefix_append ..).trans hpre))
    obtain ⟨s, hs, hR⟩ := exec_of_cond h0 hkeep hbefore
    exact ⟨s, hs, (hiff s _ b hR).mpr (h bs b hpre)⟩

end

/-! ### Outputs -/

section

variable {β : Type*} {out : σ → α → List β}

/-- What the steps put out on the way, in order. -/
def outputs (step : σ → α → Option σ) (out : σ → α → List β) (s : σ) : List α → List β
  | [] => []
  | a :: as => out s a ++ (step s a).elim [] fun s' => outputs step out s' as

theorem outputs_snoc : ∀ {as : List α} {s s' : σ} (a : α), exec step s as = some s' →
    outputs step out s (as ++ [a]) = outputs step out s as ++ out s' a
  | [], s, s', a, h => by
    obtain rfl := Option.some.inj h
    cases hs : step s a <;> simp [outputs, hs]
  | b :: as, s, s', a, h => by
    obtain ⟨s₁, hs₁, hrest⟩ := Option.bind_eq_some_iff.mp h
    rw [List.cons_append, outputs, outputs, hs₁, Option.elim_some, Option.elim_some,
      outputs_snoc a hrest, List.append_assoc]

/-- What the start satisfies with no output and every step keeps, with its
output behind what was put out, holds of an execution and its outputs. -/
theorem outputs_induct {I : σ → List β → Prop} (h0 : I s₀ [])
    (hstep : ∀ s a s' bs, I s bs → step s a = some s' → I s' (bs ++ out s a))
    (h : exec step s₀ as = some s) : I s (outputs step out s₀ as) := by
  have hrun := Run.of_exec h
  induction hrun with
  | nil => exact h0
  | snoc hr _ hs ih =>
    rw [outputs_snoc _ hr.exec_eq]
    exact hstep _ _ _ _ (ih hr.exec_eq) hs

/-- If every step pays for what it puts out, a run puts out no more than the
start has. -/
theorem Run.outputs_le {m : σ → ℕ} (h : Run step ok s₀ as s)
    (hstep : ∀ s a s', ok s a → step s a = some s' → (out s a).length + m s' ≤ m s) :
    (outputs step out s₀ as).length + m s ≤ m s₀ := by
  induction h with
  | nil => simp [outputs]
  | snoc hr hok hs ih =>
    have hpaid := hstep _ _ _ hok hs
    rw [outputs_snoc _ hr.exec_eq, List.length_append]
    omega

end

end Runs
end WtslCore
