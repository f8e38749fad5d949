/-
# Computations that note what goes wrong

A computation that meets an error can stop, or go on and say nothing of it. A
`Noted` computation has besides its value the errors it met, in their order,
whatever became of them; it may also end without a value. What is claimed of
its end (`Ends`) is a matter of the value and of all errors met before it, and
is found from the front: what one part notes is passed on to the next.

Key definitions: `Noted`, `Noted.note`, `Noted.undefined`, `Noted.ofOption`,
`Noted.Ends`.
Key theorems: `bind_assoc`, `ends_bind`, `ends_note`, `ends_ofOption`.
-/
import Mathlib.Logic.Basic

namespace WtslCore

/-- A value, if there is one, and the errors met before. -/
structure Noted (ε α : Type) where
  errors : List ε
  value : Option α

namespace Noted

variable {ε α β : Type} {x : Noted ε α} {f : α → Noted ε β} {q : β → List ε → Prop} {es : List ε}

instance : Monad (Noted ε) where
  pure a := ⟨[], some a⟩
  bind x f :=
    match x.value with
    | none => ⟨x.errors, none⟩
    | some a => ⟨x.errors ++ (f a).errors, (f a).value⟩

/-- An error is met. -/
def note (e : ε) : Noted ε Unit := ⟨[e], some ()⟩

/-- No value, and nothing more to note. -/
def undefined : Noted ε α := ⟨[], none⟩

/-- A value that may be missing, and nothing to note. -/
def ofOption (o : Option α) : Noted ε α := ⟨[], o⟩

/-- If the computation has a value, `q` holds of it and of the errors met, the
earlier ones included. -/
def Ends (q : β → List ε → Prop) (es : List ε) (y : Noted ε β) : Prop :=
  ∀ b ∈ y.value, q b (es ++ y.errors)

theorem bind_assoc {γ : Type} {g : β → Noted ε γ} : x >>= f >>= g = x >>= fun a => f a >>= g := by
  obtain ⟨errors, value⟩ := x
  cases value with
  | none => rfl
  | some a =>
    show Bind.bind (⟨errors ++ (f a).errors, (f a).value⟩ : Noted ε β) g =
      (⟨errors ++ (f a >>= g).errors, (f a >>= g).value⟩ : Noted ε γ)
    cases hf : f a with
    | mk errors' value' =>
      cases value' with
      | none => rfl
      | some b =>
        show (⟨(errors ++ errors') ++ (g b).errors, (g b).value⟩ : Noted ε γ) =
          ⟨errors ++ (errors' ++ (g b).errors), (g b).value⟩
        rw [List.append_assoc]

@[simp] theorem ends_undefined : Ends q es undefined := nofun

@[simp] theorem ends_pure {b : β} : Ends q es (pure b) ↔ q b es := by
  have hnil : es ++ (pure b : Noted ε β).errors = es := List.append_nil es
  constructor
  · intro h
    rw [← hnil]
    exact h b rfl
  · rintro h _ ⟨⟩
    rw [hnil]
    exact h

/-- **One part after the other**: the second starts with what the first noted. -/
theorem ends_bind : Ends q es (x >>= f) ↔ ∀ a ∈ x.value, Ends q (es ++ x.errors) (f a) := by
  obtain ⟨errors, value⟩ := x
  cases value with
  | none => exact iff_of_true nofun nofun
  | some a =>
    constructor
    · rintro h _ ⟨⟩ b hb
      rw [List.append_assoc]
      exact h b hb
    · intro h b hb
      have hq := h a rfl b hb
      rw [List.append_assoc] at hq
      exact hq

theorem ends_ofOption {o : Option α} {f : α → Noted ε β} :
    Ends q es (ofOption o >>= f) ↔ ∀ a ∈ o, Ends q es (f a) := by
  rw [ends_bind]
  simp [ofOption]

theorem ends_note {e : ε} {f : Unit → Noted ε β} :
    Ends q es (note e >>= f) ↔ Ends q (es ++ [e]) (f ()) := by
  rw [ends_bind]
  exact ⟨fun h => h () rfl, fun h _ _ => h⟩

end Noted

end WtslCore
