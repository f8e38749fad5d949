/-
# Integers as text

`%d` writes an `int`, `strtol` reads one back: blanks, a sign, digits, and
what follows them. `long` has 32 bits on the target, so what does not fit an
`int` saturates, and an `int` is read back as it was written
(`strtol_intText`).

Key definitions: `intText`, `strtol`.
Key theorems: `strtol_intText_append`, `strtol_lt`, `length_intText_le`, `mem_intText`.
-/
import Mathlib.Data.Int.Notation
import Mathlib.Data.List.TakeWhile
import WtslCore.Lib.CStr

namespace WtslCore

/-- `%d`. -/
def intText : ℤ → CStr
  | .ofNat n => Nat.toDigits 10 n
  | .negSucc n => '-' :: Nat.toDigits 10 (n + 1)

/-- The next value of a `long`. -/
def saturate (n : ℤ) : ℤ := max (-2147483648) (min n 2147483647)

/-- `strtol(s, &end, 10)`: the value, and the text at `end`; `none` if there
is no digit, so that `end` is `s`. -/
def strtol (s : CStr) : Option (ℤ × CStr) :=
  let digits (sign : ℤ) (u : CStr) : Option (ℤ × CStr) :=
    if u.takeWhile Char.isDigit = [] then none
    else some (saturate (sign * digitsVal (u.takeWhile Char.isDigit)), u.dropWhile Char.isDigit)
  match s.dropWhile isspace with
  | '-' :: u => digits (-1) u
  | '+' :: u => digits 1 u
  | u => digits 1 u

theorem saturate_toInt (v : Int32) : saturate v.toInt = v.toInt := by
  have h1 := v.toInt_lt
  have h2 := v.le_toInt
  unfold saturate
  omega

theorem isDigit_of_mem_toDigits {n : ℕ} {c : Char} (h : c ∈ Nat.toDigits 10 n) : c.isDigit = true :=
  Nat.isDigit_of_mem_toDigits (by decide) (by decide) h

theorem digitsVal_toDigits (n : ℕ) : digitsVal (Nat.toDigits 10 n) = n := by
  rw [digitsVal, ← Nat.ofDigitChars_eq_foldl]
  exact Nat.ofDigitChars_ten_toDigits

theorem takeWhile_toDigits (n : ℕ) : (Nat.toDigits 10 n).takeWhile Char.isDigit = Nat.toDigits 10 n :=
  List.takeWhile_eq_self_iff.mpr fun _ hc => isDigit_of_mem_toDigits hc

/-- A digit is no white space and no sign. -/
theorem digit_ne {c : Char} (h : c.isDigit = true) : isspace c = false ∧ c ≠ '-' ∧ c ≠ '+' := by
  have hrange : 48 ≤ c.toNat ∧ c.toNat ≤ 57 := by
    simpa [Char.isDigit, UInt32.le_iff_toNat_le] using h
  refine ⟨?_, ?_, ?_⟩
  · have hblank : c ≠ ' ' := by
      rintro rfl
      exact absurd hrange.1 (by decide)
    simp only [isspace, Bool.or_eq_false_iff, beq_eq_false_iff_ne, ne_eq, hblank, not_false_eq_true,
      true_and, Bool.and_eq_false_iff, decide_eq_false_iff_not]
    omega
  · rintro rfl
    exact absurd hrange.1 (by decide)
  · rintro rfl
    exact absurd hrange.1 (by decide)

/-- The digits of a number start with a digit. -/
theorem exists_cons_toDigits (n : ℕ) : ∃ c t, Nat.toDigits 10 n = c :: t ∧ c.isDigit = true := by
  obtain ⟨c, t, h⟩ := List.exists_cons_of_ne_nil (Nat.toDigits_ne_nil (n := n) (b := 10))
  exact ⟨c, t, h, isDigit_of_mem_toDigits (h ▸ List.mem_cons_self)⟩

/-- **An `int` is read back as it was written**, up to what is no digit. -/
theorem strtol_intText_append (v : Int32) {r : CStr} (hr : ∀ c ∈ r.head?, c.isDigit = false) :
    strtol (intText v.toInt ++ r) = some (v.toInt, r) := by
  have hrest : r.takeWhile Char.isDigit = [] ∧ r.dropWhile Char.isDigit = r := by
    cases r with
    | nil => exact ⟨rfl, rfl⟩
    | cons c t =>
      have hc : ¬ c.isDigit = true := by rw [hr c rfl]; exact Bool.false_ne_true
      exact ⟨List.takeWhile_cons_of_neg hc, List.dropWhile_cons_of_neg hc⟩
  have htake : ∀ n : ℕ, (Nat.toDigits 10 n ++ r).takeWhile Char.isDigit = Nat.toDigits 10 n := by
    intro n
    rw [List.takeWhile_append_of_pos fun d hd => isDigit_of_mem_toDigits hd, hrest.1, List.append_nil]
  have hdrop : ∀ n : ℕ, (Nat.toDigits 10 n ++ r).dropWhile Char.isDigit = r := by
    intro n
    rw [List.dropWhile_append_of_pos fun d hd => isDigit_of_mem_toDigits hd, hrest.2]
  have hsat := saturate_toInt v
  generalize v.toInt = n at hsat
  cases n with
  | ofNat n =>
    obtain ⟨d, ds, hdigits, hd⟩ := exists_cons_toDigits n
    obtain ⟨hspace, hminus, hplus⟩ := digit_ne hd
    have htake := htake n
    have hdrop := hdrop n
    have hval := digitsVal_toDigits n
    unfold strtol intText
    simp only
    rw [hdigits] at htake hdrop hval ⊢
    rw [List.cons_append, List.dropWhile_cons_of_neg (by simp [hspace])]
    rw [List.cons_append] at htake hdrop
    split
    · rename_i heq
      exact absurd (List.cons.inj heq).1 hminus
    · rename_i heq
      exact absurd (List.cons.inj heq).1 hplus
    · rw [htake, hdrop, hval, if_neg (List.cons_ne_nil d ds), Int.one_mul]
      exact congrArg (fun n => some (n, r)) hsat
  | negSucc n =>
    have hneg : -1 * ((n + 1 : ℕ) : ℤ) = Int.negSucc n := by omega
    unfold strtol intText
    simp only
    rw [List.cons_append, List.dropWhile_cons_of_neg (by decide)]
    simp only
    rw [htake, hdrop, digitsVal_toDigits, if_neg Nat.toDigits_ne_nil, hneg, hsat]

theorem strtol_intText (v : Int32) : strtol (intText v.toInt) = some (v.toInt, []) := by
  have h := strtol_intText_append v (r := []) fun c hc => nomatch hc
  rwa [List.append_nil] at h

/-- What follows a number is shorter. -/
theorem strtol_lt {s u : CStr} {v : ℤ} (h : strtol s = some (v, u)) : u.length < s.length := by
  have hspace : (s.dropWhile isspace).length ≤ s.length := List.length_dropWhile_le _ s
  have hdigits : ∀ {sign : ℤ} {t : CStr}, (if t.takeWhile Char.isDigit = [] then none
      else some (saturate (sign * digitsVal (t.takeWhile Char.isDigit)), t.dropWhile Char.isDigit)) =
        some (v, u) → u.length < t.length := by
    intro sign t ht
    split_ifs at ht with hne
    obtain ⟨-, rfl⟩ := Prod.mk.inj (Option.some.inj ht)
    have hlen := congrArg List.length (List.takeWhile_append_dropWhile (p := Char.isDigit) (l := t))
    have hpos := List.length_pos_iff.mpr hne
    rw [List.length_append] at hlen
    omega
  unfold strtol at h
  simp only at h
  split at h
  · rename_i t heq
    have hlt := hdigits h
    rw [heq, List.length_cons] at hspace
    omega
  · rename_i t heq
    have hlt := hdigits h
    rw [heq, List.length_cons] at hspace
    omega
  · exact Nat.lt_of_lt_of_le (hdigits h) hspace

/-- The characters of an `int`. -/
theorem mem_intText {n : ℤ} {c : Char} (h : c ∈ intText n) : c = '-' ∨ c.isDigit = true := by
  cases n with
  | ofNat n => exact .inr (isDigit_of_mem_toDigits h)
  | negSucc n => exact (List.mem_cons.mp h).imp_right isDigit_of_mem_toDigits

/-- An `int` takes at most eleven characters. -/
theorem length_intText_le (v : Int32) : (intText v.toInt).length ≤ 11 := by
  have h1 := v.toInt_lt
  have h2 := v.le_toInt
  generalize v.toInt = n at h1 h2
  cases n with
  | ofNat n =>
    refine ((Nat.length_toDigits_le_iff (by decide) (by decide)).mpr ?_).trans (by decide : 10 ≤ 11)
    have : (n : ℤ) < 2147483648 := by simpa using h1
    omega
  | negSucc n =>
    refine Nat.succ_le_succ ((Nat.length_toDigits_le_iff (by decide) (by decide)).mpr ?_)
    have : -2147483648 ≤ -((n : ℤ) + 1) := by simpa [Int.negSucc_eq] using h2
    omega

end WtslCore
