/-
# Numbers in a format

A format of `sscanf` is read one directive at a time: a blank takes any white
space, `%d` skips white space and takes a number, and another character takes
itself. What is assigned are the numbers up to the first mismatch.

A text spells the numbers of a format if it has one number for each `%d`, with
any white space in front of it, and the format's characters between them
(`Spells`). Such a text is scanned to its numbers (`scan_of_spells`), whatever
stands behind it, as long as no digit joins the last number. So is a row that
`%d` prints of them with a blank in front of each (`spells_printRow`).

Key definitions: `Directive`, `scan`, `Spells`, `printRow`.
Key theorems: `strtol_blanks`, `scan_of_spells`, `spells_printRow`.
-/
import Mathlib.Data.List.DropRight
import WtslCore.Lib.Decimal

namespace WtslCore
namespace Scanf

/-- What a format is made of. -/
inductive Directive
  | blank
  | char (c : Char)
  | int
  deriving DecidableEq

/-- The numbers that are assigned. -/
def scan : List Directive → CStr → List ℤ
  | [], _ => []
  | .blank :: f, s => scan f (s.dropWhile isspace)
  | .char _ :: _, [] => []
  | .char c :: f, d :: s => if c = d then scan f s else []
  | .int :: f, s =>
    match strtol s with
    | none => []
    | some (v, s) => v :: scan f s

/-- White space. -/
def Blanks (b : CStr) : Prop := ∀ c ∈ b, isspace c = true

instance : DecidablePred Blanks := fun b => inferInstanceAs (Decidable (∀ c ∈ b, isspace c = true))

/-- No digit is in front. -/
def NoDigit (s : CStr) : Prop := ∀ c ∈ s.head?, c.isDigit = false

instance : DecidablePred NoDigit := fun s => inferInstanceAs (Decidable (∀ c ∈ s.head?, c.isDigit = false))

/-- The text starts with the numbers of a format. -/
inductive Spells : List Directive → List Int32 → CStr → Prop
  | nil (s : CStr) : Spells [] [] s
  | blank {f : List Directive} {vs : List Int32} {b s : CStr} (hb : Blanks b) (h : Spells f vs s) :
      Spells (.blank :: f) vs (b ++ s)
  | char {f : List Directive} {vs : List Int32} {c : Char} {s : CStr} (hc : isspace c = false)
      (h : Spells f vs s) : Spells (.char c :: f) vs (c :: s)
  | int {f : List Directive} {v : Int32} {vs : List Int32} {b s : CStr} (hb : Blanks b)
      (hs : NoDigit s) (h : Spells f vs s) :
      Spells (.int :: f) (v :: vs) (b ++ (intText v.toInt ++ s))

variable {f : List Directive} {vs : List Int32} {b s : CStr}

/-! ### Scanning what is spelled -/

theorem strtol_dropWhile (s : CStr) : strtol (s.dropWhile isspace) = strtol s := by
  unfold strtol
  rw [List.dropWhile_idempotent]

theorem strtol_blanks (hb : Blanks b) (s : CStr) : strtol (b ++ s) = strtol s := by
  unfold strtol
  rw [List.dropWhile_append_of_pos hb]

theorem scan_char {c : Char} (s : CStr) : scan (.char c :: f) (c :: s) = scan f s := by
  rw [scan, if_pos rfl]

theorem scan_int {n : ℤ} {t : CStr} (h : strtol s = some (n, t)) : scan (.int :: f) s = n :: scan f t := by
  rw [scan, h]

/-- A blank takes nothing that belongs to what is behind it. -/
theorem scan_dropWhile (h : Spells f vs s) : scan f (s.dropWhile isspace) = scan f s := by
  cases h with
  | nil s => rfl
  | blank hb h => rw [scan, scan, List.dropWhile_idempotent]
  | char hc h => rw [List.dropWhile_cons_of_neg (by rw [hc]; exact Bool.false_ne_true)]
  | int hb hs h => rw [scan, scan, strtol_dropWhile]

/-- **A text is scanned to the numbers it spells.** -/
theorem scan_of_spells (h : Spells f vs s) : scan f s = vs.map Int32.toInt := by
  induction h with
  | nil s => rfl
  | @blank f vs b s hb h ih => rw [scan, List.dropWhile_append_of_pos hb, scan_dropWhile h, ih]
  | char hc h ih => rw [scan_char, ih]
  | @int f v vs b s hb hs h ih =>
    have hnumber : strtol (b ++ (intText v.toInt ++ s)) = some (v.toInt, s) := by
      rw [strtol_blanks hb, strtol_intText_append v hs]
    rw [scan_int hnumber, ih]
    rfl

/-! ### What is printed -/

theorem noDigit_blank (s : CStr) : NoDigit (' ' :: s) := by
  rintro c ⟨⟩
  rfl

/-- Numbers with a blank in front of each. -/
def printRow (vs : List Int32) : CStr := (vs.map fun v => ' ' :: intText v.toInt).flatten

/-- A row of numbers is spelled by as many `%d`. -/
theorem spells_printRow {rest : CStr} (hrest : NoDigit rest) :
    ∀ vs : List Int32, Spells (List.replicate vs.length .int) vs (printRow vs ++ rest)
  | [] => .nil _
  | v :: vs => by
    have hnext : NoDigit (printRow vs ++ rest) := by
      cases vs with
      | nil => exact hrest
      | cons w ws => exact noDigit_blank _
    have hrow : printRow (v :: vs) ++ rest = [' '] ++ (intText v.toInt ++ (printRow vs ++ rest)) := by
      rw [printRow, List.map_cons, List.flatten_cons, List.append_assoc]
      rfl
    rw [hrow, List.length_cons, List.replicate_succ]
    exact .int (by decide) hnext (spells_printRow hrest vs)

end Scanf
end WtslCore
