/-
# `strtol` and the width of `long`

`strtol` clamps the number a text stands for to a `long`, and the cast to
`int` that follows drops the high bits: with 32 bits a number out of range
ends at the limit, with 64 bits it wraps. A text without leading white space
is converted as a whole exactly if it is a decimal integer (`decimalValue`),
and a number within `int` comes out as it is (`strtolOf_of_bare`,
`LongSize.saturate_of_inInt`).

Key definitions: `LongSize`, `strtolOf`, `decimalValue`, `InInt`.
Key theorems: `strtolOf_of_bare`, `strtolOf_bits32`, `decimalValue_intText`,
`decimalValue_prefix_ne`.
-/
import Mathlib.Algebra.Group.Nat.Defs
import WtslCore.Lib.Decimal
import WtslCore.Lib.Trim

namespace WtslCore

/-- The width of `long`. -/
inductive LongSize
  | bits32
  | bits64
  deriving DecidableEq

/-- `LONG_MAX`. -/
def LongSize.max : LongSize → ℤ
  | .bits32 => 2147483647
  | .bits64 => 9223372036854775807

/-- The next value of a `long`. -/
def LongSize.saturate (size : LongSize) (n : ℤ) : ℤ := Max.max (-size.max - 1) (min n size.max)

/-- The digits of a text as a number, and what follows them. -/
def leadingDigits (sign : ℤ) (u : CStr) : Option (ℤ × CStr) :=
  if u.takeWhile Char.isDigit = [] then none
  else some (sign * digitsVal (u.takeWhile Char.isDigit), u.dropWhile Char.isDigit)

/-- The number a text starts with, and what follows it. -/
def leadingInteger : CStr → Option (ℤ × CStr)
  | '-' :: u => leadingDigits (-1) u
  | '+' :: u => leadingDigits 1 u
  | u => leadingDigits 1 u

/-- `strtol(s, &end, 10)` of a `long` of the size: the value, and the text at
`end`; `none` if there is no digit, so that `end` is `s`. -/
def strtolOf (size : LongSize) (s : CStr) : Option (ℤ × CStr) :=
  (leadingInteger (s.dropWhile isspace)).map fun p => (size.saturate p.1, p.2)

/-- The number is within `int`. -/
def InInt (n : ℤ) : Prop := -2147483648 ≤ n ∧ n ≤ 2147483647

instance (n : ℤ) : Decidable (InInt n) := inferInstanceAs (Decidable (_ ∧ _))

/-- The number of a text of digits. -/
def digitsValue (sign : ℤ) (u : CStr) : Option ℤ :=
  if u ≠ [] ∧ ∀ c ∈ u, c.isDigit = true then some (sign * digitsVal u) else none

/-- The integer a text stands for: digits, with a sign before them or none. -/
def decimalValue : CStr → Option ℤ
  | '-' :: u => digitsValue (-1) u
  | '+' :: u => digitsValue 1 u
  | u => digitsValue 1 u

variable {size : LongSize} {n : ℤ} {s u : CStr}

/-! ### The widths -/

theorem LongSize.saturate_of_inInt (h : InInt n) : size.saturate n = n := by
  obtain ⟨hlo, hhi⟩ := h
  have hmax : (2147483647 : ℤ) ≤ size.max := by
    cases size with
    | bits32 => decide
    | bits64 => decide
  unfold LongSize.saturate
  omega

theorem inInt_toInt (v : Int32) : InInt v.toInt := by
  have hhi := v.toInt_lt
  have hlo := v.le_toInt
  unfold InInt
  omega

theorem toInt_ofInt_of_inInt (h : InInt n) : (Int32.ofInt n).toInt = n := by
  obtain ⟨hlo, hhi⟩ := h
  exact Int32.toInt_ofInt_of_le hlo (by omega)

/-- **With 32 bits it is `strtol`.** -/
theorem strtolOf_bits32 (s : CStr) : strtolOf .bits32 s = strtol s := by
  have hdigits : ∀ (sign : ℤ) (u : CStr),
      (leadingDigits sign u).map (fun p => (LongSize.saturate .bits32 p.1, p.2)) =
        if u.takeWhile Char.isDigit = [] then none
        else some (saturate (sign * digitsVal (u.takeWhile Char.isDigit)), u.dropWhile Char.isDigit) := by
    intro sign u
    unfold leadingDigits
    split_ifs
    · rfl
    · rfl
  unfold strtolOf strtol leadingInteger
  simp only
  generalize s.dropWhile isspace = t
  split
  · exact hdigits _ _
  · exact hdigits _ _
  · rename_i hminus hplus
    split
    · exact absurd rfl (hminus _)
    · exact absurd rfl (hplus _)
    · exact hdigits _ _

/-! ### Texts that are read as a whole -/

theorem leadingDigits_whole (sign : ℤ) (u : CStr) :
    leadingDigits sign u = some (n, []) ↔ digitsValue sign u = some n := by
  unfold leadingDigits digitsValue
  by_cases hall : ∀ c ∈ u, c.isDigit = true
  · rw [List.takeWhile_eq_self_iff.mpr hall, List.dropWhile_eq_nil_iff.mpr hall]
    by_cases hu : u = []
    · simp [hu]
    · rw [if_neg hu, if_pos ⟨hu, hall⟩]
      simp
  · rw [if_neg fun h : u ≠ [] ∧ ∀ c ∈ u, c.isDigit = true => hall h.2]
    have hrest : u.dropWhile Char.isDigit ≠ [] := fun h => hall (List.dropWhile_eq_nil_iff.mp h)
    split_ifs
    · simp
    · simp [hrest]

/-- **A bare text is converted as a whole exactly if it is a decimal integer.** -/
theorem strtolOf_of_bare (hs : Bare isspace s) {m : ℤ} :
    strtolOf size s = some (m, []) ↔ ∃ n, decimalValue s = some n ∧ m = size.saturate n := by
  have hmap : ∀ o : Option (ℤ × CStr), o.map (fun p => (size.saturate p.1, p.2)) = some (m, []) ↔
      ∃ n, o = some (n, []) ∧ m = size.saturate n := by
    intro o
    cases o with
    | none => simp
    | some p =>
      obtain ⟨k, t⟩ := p
      simp only [Option.map_some, Option.some.injEq, Prod.mk.injEq]
      constructor
      · rintro ⟨rfl, rfl⟩
        exact ⟨k, ⟨rfl, rfl⟩, rfl⟩
      · rintro ⟨n, ⟨rfl, rfl⟩, rfl⟩
        exact ⟨rfl, rfl⟩
  unfold strtolOf decimalValue
  rw [hs.dropWhile, hmap]
  unfold leadingInteger
  split
  · simp only [leadingDigits_whole]
  · simp only [leadingDigits_whole]
  · simp only [leadingDigits_whole]

/-! ### The text of an `int` -/

theorem digitsValue_toDigits (sign : ℤ) (k : ℕ) :
    digitsValue sign (Nat.toDigits 10 k) = some (sign * k) := by
  unfold digitsValue
  rw [if_pos ⟨Nat.toDigits_ne_nil, fun _ hc => isDigit_of_mem_toDigits hc⟩, digitsVal_toDigits]

/-- A text of digits has no sign. -/
theorem decimalValue_of_digit {c : Char} (hc : c.isDigit = true) :
    decimalValue (c :: u) = digitsValue 1 (c :: u) := by
  obtain ⟨-, hminus, hplus⟩ := digit_ne hc
  unfold decimalValue
  split
  · rename_i heq
    exact absurd (List.cons.inj heq).1 hminus
  · rename_i heq
    exact absurd (List.cons.inj heq).1 hplus
  · rfl

/-- **The text of an integer stands for it.** -/
theorem decimalValue_intText (n : ℤ) : decimalValue (intText n) = some n := by
  cases n with
  | ofNat k =>
    obtain ⟨c, t, hdigits, hc⟩ := exists_cons_toDigits k
    have hvalue := digitsValue_toDigits 1 k
    rw [hdigits] at hvalue
    have hsign := decimalValue_of_digit (u := t) hc
    rw [intText, hdigits, hsign, hvalue, Int.one_mul]
    rfl
  | negSucc k =>
    have hneg : -1 * ((k + 1 : ℕ) : ℤ) = Int.negSucc k := by omega
    rw [intText, decimalValue, digitsValue_toDigits, hneg]

/-- So many digits make a number below that power of ten. -/
theorem digitsVal_lt_pow (s : CStr) (h : ∀ c ∈ s, c.isDigit = true) : digitsVal s < 10 ^ s.length := by
  induction s using List.reverseRecOn with
  | nil => exact Nat.one_pos
  | append_singleton s c ih =>
    have hs := ih fun d hd => h d (List.mem_append_left _ hd)
    have hc : c.toNat - '0'.toNat ≤ 9 := by
      have hrange : 48 ≤ c.toNat ∧ c.toNat ≤ 57 := by
        simpa [Char.isDigit, UInt32.le_iff_toNat_le] using h c (List.mem_append_right _ List.mem_cons_self)
      have hzero : '0'.toNat = 48 := rfl
      omega
    have hval : digitsVal (s ++ [c]) = 10 * digitsVal s + (c.toNat - '0'.toNat) := by
      rw [digitsVal, List.foldl_append]
      rfl
    rw [hval, List.length_append, List.length_singleton, Nat.pow_succ]
    omega

/-- A part of the digits of a number stands for a smaller one. -/
theorem digitsVal_prefix_lt {k : ℕ} {p y : CStr} (h : Nat.toDigits 10 k = p ++ y) (hp : p ≠ [])
    (hy : y ≠ []) : digitsVal p < k := by
  have hvalue := digitsVal_toDigits k
  rw [h, digitsVal, ← Nat.ofDigitChars_eq_foldl, Nat.ofDigitChars_append,
    Nat.ofDigitChars_eq_ofDigitChars_zero, Nat.ofDigitChars_eq_foldl] at hvalue
  have hplen := List.length_pos_iff.mpr hp
  have hylen := List.length_pos_iff.mpr hy
  have hpow : 10 ≤ 10 ^ y.length := Nat.le_self_pow (by omega) 10
  have hmul : 10 * digitsVal p ≤ 10 ^ y.length * digitsVal p := Nat.mul_le_mul_right _ hpow
  have hpos : k ≠ 0 := by
    rintro rfl
    have hlen := congrArg List.length h
    rw [Nat.toDigits_zero, List.length_append, List.length_singleton] at hlen
    omega
  rw [digitsVal] at hmul ⊢
  omega

theorem lt_of_digitsValue {k : ℕ} {p y : CStr} {sign m : ℤ} (h : Nat.toDigits 10 k = p ++ y)
    (hy : y ≠ []) (hm : digitsValue sign p = some m) : ∃ a < k, m = sign * a := by
  unfold digitsValue at hm
  split_ifs at hm with hp
  exact ⟨digitsVal p, digitsVal_prefix_lt h hp.1 hy, (Option.some.inj hm).symm⟩

/-- **Part of the text of an `int` stands for another `int`.** -/
theorem decimalValue_prefix_ne {v : Int32} {p y : CStr} {m : ℤ} (h : intText v.toInt = p ++ y)
    (hy : y ≠ []) (hm : decimalValue p = some m) : m ≠ v.toInt ∧ InInt m := by
  have hv := inInt_toInt v
  generalize v.toInt = n at h hv ⊢
  obtain ⟨hlo, hhi⟩ := hv
  cases n with
  | ofNat k =>
    cases p with
    | nil => exact nomatch hm
    | cons c p =>
      have hc : c.isDigit = true := isDigit_of_mem_toDigits (n := k) (by
        rw [show Nat.toDigits 10 k = c :: p ++ y from h]
        exact List.mem_cons_self)
      rw [decimalValue_of_digit hc] at hm
      obtain ⟨a, hlt, rfl⟩ := lt_of_digitsValue h hy hm
      rw [Int.ofNat_eq_natCast] at hhi ⊢
      exact ⟨by omega, by unfold InInt; omega⟩
  | negSucc k =>
    cases p with
    | nil => exact nomatch hm
    | cons c p =>
      obtain ⟨rfl, hdigits⟩ := List.cons.inj h
      obtain ⟨a, hlt, rfl⟩ := lt_of_digitsValue hdigits hy hm
      exact ⟨by omega, by unfold InInt; omega⟩

end WtslCore
