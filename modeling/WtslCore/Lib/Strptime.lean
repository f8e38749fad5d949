/-
# `strptime` and `mktime`

`strptime` reads a text along a format: white space of the format takes any
white space, a conversion takes a number, any other character takes itself.
The two C libraries read a number in their own ways: glibc skips white space
and takes digits as long as the range leaves room for one more, musl takes all
the digits there can be before it looks at the range, takes a sign before a
year and skips nothing. What was not taken is left over, so a text that is
accepted starts with characters of numbers and of the format
(`strptime_takes`), and may end in anything. `mktime` is a clock of the system,
of which only what its result is matters: an existing date and time.

Key definitions: `Tm`, `Tm.Exists`, `Takes`, `CLib`, `getNumber`,
`numericRange`, `numericDigits`, `strptime`, `Mktime`.
Key theorem: `strptime_takes`.
-/
import Mathlib.Data.List.Infix
import WtslCore.Lib.CStr

namespace WtslCore

/-- `struct tm`, as far as `strptime` sets it. -/
structure Tm where
  year : ℤ
  mon : ℤ
  mday : ℤ
  hour : ℤ
  min : ℤ
  sec : ℤ
  deriving DecidableEq

/-- Leap years of the calendar. -/
def isLeapYear (y : ℤ) : Bool := y % 4 = 0 ∧ (y % 100 ≠ 0 ∨ y % 400 = 0)

/-- The days of a month, from 0 on, in a year. -/
def daysInMonth (y : ℤ) (mon : ℤ) : ℤ :=
  if mon = 1 then (if isLeapYear y then 29 else 28)
  else if mon = 3 ∨ mon = 5 ∨ mon = 8 ∨ mon = 10 then 30
  else 31

/-- The date is in the calendar, and the time in the day; a minute may have a leap second. -/
structure Tm.Exists (tm : Tm) : Prop where
  mon : 0 ≤ tm.mon ∧ tm.mon ≤ 11
  mday : 1 ≤ tm.mday ∧ tm.mday ≤ daysInMonth (tm.year + 1900) tm.mon
  hour : 0 ≤ tm.hour ∧ tm.hour ≤ 23
  min : 0 ≤ tm.min ∧ tm.min ≤ 59
  sec : 0 ≤ tm.sec ∧ tm.sec ≤ 60

instance (tm : Tm) : Decidable tm.Exists :=
  decidable_of_iff ((0 ≤ tm.mon ∧ tm.mon ≤ 11) ∧
      (1 ≤ tm.mday ∧ tm.mday ≤ daysInMonth (tm.year + 1900) tm.mon) ∧
      (0 ≤ tm.hour ∧ tm.hour ≤ 23) ∧ (0 ≤ tm.min ∧ tm.min ≤ 59) ∧ 0 ≤ tm.sec ∧ tm.sec ≤ 60)
    ⟨fun ⟨h1, h2, h3, h4, h5⟩ => ⟨h1, h2, h3, h4, h5⟩, fun h => ⟨h.mon, h.mday, h.hour, h.min, h.sec⟩⟩

/-- `mktime`, in whatever time zone: the normalised fields, or `none` for -1. -/
structure Mktime where
  run : Tm → Option Tm
  exists_of_run : ∀ {tm tm' : Tm}, run tm = some tm' → tm'.Exists

/-! ### Reading along a format -/

/-- The digits of a number that is to stay within `hi`, at most `n` of them. -/
def getDigits (hi : ℕ) : ℕ → ℕ → CStr → ℕ × CStr
  | 0, val, s => (val, s)
  | _ + 1, val, [] => (val, [])
  | n + 1, val, c :: s =>
    if val * 10 ≤ hi ∧ c.isDigit = true then
      getDigits hi n (val * 10 + (c.toNat - '0'.toNat)) s
    else (val, c :: s)

/-- `get_number(from, to, n)` of glibc. -/
def getNumber (lo hi n : ℕ) (s : CStr) : Option (ℤ × CStr) :=
  match s.dropWhile isspace with
  | [] => none
  | c :: s =>
    if c.isDigit then
      let r := getDigits hi (n - 1) (c.toNat - '0'.toNat) s
      if lo ≤ r.1 ∧ r.1 ≤ hi then some (r.1, r.2) else none
    else none

/-- The digits at the start of the text, at most `n` of them; `none` without one. -/
def digitsUpTo (n : ℕ) (s : CStr) : Option (ℕ × CStr) :=
  let d := (s.take n).takeWhile Char.isDigit
  if d = [] then none else some (digitsVal d, s.drop d.length)

/-- `numeric_range` of musl, for numbers of two digits. -/
def numericRange (lo hi : ℕ) (s : CStr) : Option (ℤ × CStr) :=
  (digitsUpTo 2 s).bind fun r => if lo ≤ r.1 ∧ r.1 ≤ hi then some (r.1, r.2) else none

/-- `numeric_digits` of musl: a sign may come first. -/
def numericDigits (n : ℕ) : CStr → Option (ℤ × CStr)
  | '+' :: s => (digitsUpTo n s).map fun r => ((r.1 : ℤ), r.2)
  | '-' :: s => (digitsUpTo n s).map fun r => (-(r.1 : ℤ), r.2)
  | s => (digitsUpTo n s).map fun r => ((r.1 : ℤ), r.2)

/-- The C library. -/
inductive CLib
  | glibc
  | musl
  deriving DecidableEq

/-- A number of two digits in a range. -/
def CLib.number (lib : CLib) (lo hi : ℕ) : CStr → Option (ℤ × CStr) :=
  match lib with
  | .glibc => getNumber lo hi 2
  | .musl => numericRange lo hi

/-- A year of four digits. -/
def CLib.year : CLib → CStr → Option (ℤ × CStr)
  | .glibc => getNumber 0 9999 4
  | .musl => numericDigits 4

/-- The last second: glibc has room for two leap seconds. -/
def CLib.maxSec : CLib → ℕ
  | .glibc => 61
  | .musl => 60

/-- A conversion: how its number is read, and where it goes. -/
structure Conversion where
  read : CStr → Option (ℤ × CStr)
  put : ℤ → Tm → Tm

/-- The conversions of dates and times in numbers. -/
def conversion (lib : CLib) : Char → Option Conversion
  | 'Y' => some ⟨lib.year, fun v tm => { tm with year := v - 1900 }⟩
  | 'm' => some ⟨lib.number 1 12, fun v tm => { tm with mon := v - 1 }⟩
  | 'd' => some ⟨lib.number 1 31, fun v tm => { tm with mday := v }⟩
  | 'H' => some ⟨lib.number 0 23, fun v tm => { tm with hour := v }⟩
  | 'M' => some ⟨lib.number 0 59, fun v tm => { tm with min := v }⟩
  | 'S' => some ⟨lib.number 0 lib.maxSec, fun v tm => { tm with sec := v }⟩
  | _ => none

/-- A conversion of the format, at the start of the text. -/
def readField (lib : CLib) (f : Char) (s : CStr) (tm : Tm) : Option (Tm × CStr) :=
  (conversion lib f).bind fun cv => (cv.read s).map fun r => (cv.put r.1 tm, r.2)

/-- A character of the format that stands for itself, at the start of the text. -/
def readLiteral (c : Char) : CStr → Option CStr
  | [] => none
  | d :: s => if d = c then some s else none

/-- `strptime(s, format, tm)`: the fields, and the text at the result. -/
def strptime (lib : CLib) : CStr → CStr → Tm → Option (Tm × CStr)
  | [], s, tm => some (tm, s)
  | '%' :: f :: format, s, tm => (readField lib f s tm).bind fun r => strptime lib format r.2 r.1
  | c :: format, s, tm =>
    if isspace c then strptime lib format (s.dropWhile isspace) tm
    else (readLiteral c s).bind fun s => strptime lib format s tm

/-- The characters of a format that stand for themselves. -/
def literals : CStr → CStr
  | [] => []
  | '%' :: _ :: format => literals format
  | c :: format => c :: literals format

/-! ### What is taken -/

/-- A part of `s` in characters of a kind is taken, and `rest` is left. -/
def Takes (p : Char → Prop) (s rest : CStr) : Prop := ∃ u, s = u ++ rest ∧ ∀ c ∈ u, p c

variable {p q : Char → Prop} {s t rest : CStr}

theorem Takes.refl (s : CStr) : Takes p s s := ⟨[], rfl, by simp⟩

theorem Takes.cons {c : Char} (hc : p c) (h : Takes p s rest) : Takes p (c :: s) rest := by
  obtain ⟨u, rfl, hu⟩ := h
  exact ⟨c :: u, rfl, List.forall_mem_cons.mpr ⟨hc, hu⟩⟩

theorem Takes.trans (h : Takes p s t) (h' : Takes p t rest) : Takes p s rest := by
  obtain ⟨u, rfl, hu⟩ := h
  obtain ⟨u', rfl, hu'⟩ := h'
  exact ⟨u ++ u', (List.append_assoc _ _ _).symm, List.forall_mem_append.mpr ⟨hu, hu'⟩⟩

theorem Takes.mono (h : Takes p s rest) (hpq : ∀ c, p c → q c) : Takes q s rest := by
  obtain ⟨u, hs, hu⟩ := h
  exact ⟨u, hs, fun c hc => hpq c (hu c hc)⟩

/-- Nothing is left: all characters are of the kind. -/
theorem Takes.forall_of_nil (h : Takes p s []) : ∀ c ∈ s, p c := by
  obtain ⟨u, rfl, hu⟩ := h
  rwa [List.append_nil]

theorem takes_dropWhile (s : CStr) : Takes (fun c => isspace c = true) s (s.dropWhile isspace) :=
  ⟨s.takeWhile isspace, List.takeWhile_append_dropWhile.symm, fun _ hc => List.mem_takeWhile_imp hc⟩

theorem takes_getDigits (hi : ℕ) : ∀ (n val : ℕ) (s : CStr),
    Takes (fun c => c.isDigit = true) s (getDigits hi n val s).2
  | 0, _, s => .refl s
  | _ + 1, _, [] => .refl []
  | n + 1, val, c :: s => by
    unfold getDigits
    split_ifs with h
    · exact .cons h.2 (takes_getDigits hi n _ s)
    · exact .refl _

/-- A character of a number: a digit, or white space or a sign before it. -/
def NumberChar (c : Char) : Prop := c.isDigit = true ∨ isspace c = true ∨ c = '+' ∨ c = '-'

theorem numberChar_digit {c : Char} (h : c.isDigit = true) : NumberChar c := .inl h

theorem getNumber_takes {lo hi n : ℕ} {v : ℤ} (h : getNumber lo hi n s = some (v, rest)) :
    Takes NumberChar s rest := by
  unfold getNumber at h
  have hblank := (takes_dropWhile s).mono (q := NumberChar) fun _ hc => .inr (.inl hc)
  generalize s.dropWhile isspace = t at h hblank
  cases t with
  | nil => exact nomatch h
  | cons c t =>
    simp only at h
    split_ifs at h with hc hrange
    have hdigits := (takes_getDigits hi (n - 1) (c.toNat - '0'.toNat) t).mono fun _ => numberChar_digit
    rw [(Prod.mk.inj (Option.some.inj h)).2] at hdigits
    exact hblank.trans (.cons (numberChar_digit hc) hdigits)

theorem digitsUpTo_takes {n v : ℕ} (h : digitsUpTo n s = some (v, rest)) : Takes NumberChar s rest := by
  unfold digitsUpTo at h
  dsimp only at h
  split_ifs at h
  have hpre : (s.take n).takeWhile Char.isDigit <+: s :=
    (List.takeWhile_prefix _).trans (List.take_prefix n s)
  refine ⟨(s.take n).takeWhile Char.isDigit, ?_, fun c hc => numberChar_digit (List.mem_takeWhile_imp hc)⟩
  rw [← (Prod.mk.inj (Option.some.inj h)).2]
  exact (List.prefix_append_drop hpre)

theorem numericRange_takes {lo hi : ℕ} {v : ℤ} (h : numericRange lo hi s = some (v, rest)) :
    Takes NumberChar s rest := by
  obtain ⟨⟨k, u⟩, hdigits, hrange⟩ := Option.bind_eq_some_iff.mp h
  obtain ⟨-, heq⟩ := Option.ite_none_right_eq_some.mp hrange
  rw [← (Prod.mk.inj (Option.some.inj heq)).2]
  exact digitsUpTo_takes hdigits

theorem numericDigits_takes {n : ℕ} {v : ℤ} (h : numericDigits n s = some (v, rest)) :
    Takes NumberChar s rest := by
  have hmap : ∀ {t : CStr} {f : ℕ → ℤ}, (digitsUpTo n t).map (fun r => (f r.1, r.2)) = some (v, rest) →
      Takes NumberChar t rest := by
    intro t f ht
    obtain ⟨⟨k, u⟩, hdigits, heq⟩ := Option.map_eq_some_iff.mp ht
    rw [← (Prod.mk.inj heq).2]
    exact digitsUpTo_takes hdigits
  unfold numericDigits at h
  split at h
  · exact .cons (.inr (.inr (.inl rfl))) (hmap h)
  · exact .cons (.inr (.inr (.inr rfl))) (hmap (f := fun k => -(k : ℤ)) h)
  · exact hmap h

variable {lib : CLib}

theorem number_takes {lo hi : ℕ} {v : ℤ} (h : lib.number lo hi s = some (v, rest)) :
    Takes NumberChar s rest := by
  cases lib with
  | glibc => exact getNumber_takes h
  | musl => exact numericRange_takes h

theorem year_takes {v : ℤ} (h : lib.year s = some (v, rest)) : Takes NumberChar s rest := by
  cases lib with
  | glibc => exact getNumber_takes h
  | musl => exact numericDigits_takes h

/-- Every conversion reads a number. -/
theorem conversion_takes {f : Char} {cv : Conversion} (hcv : conversion lib f = some cv) {v : ℤ}
    (h : cv.read s = some (v, rest)) : Takes NumberChar s rest := by
  unfold conversion at hcv
  split at hcv
  · exact year_takes (Option.some.inj hcv ▸ h)
  all_goals first | exact number_takes (Option.some.inj hcv ▸ h) | exact nomatch hcv

theorem readField_takes {f : Char} {tm tm' : Tm} (h : readField lib f s tm = some (tm', rest)) :
    Takes NumberChar s rest := by
  obtain ⟨cv, hcv, hread⟩ := Option.bind_eq_some_iff.mp h
  obtain ⟨⟨v, u⟩, hnum, heq⟩ := Option.map_eq_some_iff.mp hread
  rw [← (Prod.mk.inj heq).2]
  exact conversion_takes hcv hnum

theorem readLiteral_takes {c : Char} (h : readLiteral c s = some rest) : Takes (· = c) s rest := by
  cases s with
  | nil => exact nomatch h
  | cons d s =>
    rw [readLiteral] at h
    split_ifs at h with hd
    rw [← Option.some.inj h]
    exact .cons hd (.refl s)

/-- **What `strptime` takes**: characters of numbers and of the format. -/
theorem strptime_takes {format : CStr} : ∀ {s : CStr} {tm tm' : Tm} {rest : CStr},
    strptime lib format s tm = some (tm', rest) →
      Takes (fun c => NumberChar c ∨ c ∈ literals format) s rest := by
  induction format using literals.induct with
  | case1 =>
    intro s tm tm' rest h
    cases h
    exact .refl _
  | case2 f format ih =>
    intro s tm tm' rest h
    obtain ⟨⟨tm1, s1⟩, hfield, hrest⟩ := Option.bind_eq_some_iff.mp h
    exact ((readField_takes hfield).mono fun _ hc => .inl hc).trans (ih hrest)
  | case3 c format hc ih =>
    intro s tm tm' rest h
    rw [strptime.eq_3 _ _ _ _ _ hc] at h
    rw [literals.eq_3 _ _ hc]
    have hmore : ∀ d, (NumberChar d ∨ d ∈ literals format) →
        (NumberChar d ∨ d ∈ c :: literals format) :=
      fun d hd => hd.imp_right (List.mem_cons_of_mem c)
    split_ifs at h with hspace
    · exact ((takes_dropWhile s).mono fun _ hd => .inl (.inr (.inl hd))).trans ((ih h).mono hmore)
    · obtain ⟨s1, hliteral, hrest⟩ := Option.bind_eq_some_iff.mp h
      have hself := (readLiteral_takes hliteral).mono
        (q := fun d => NumberChar d ∨ d ∈ c :: literals format) fun _ hd => .inr (hd ▸ List.mem_cons_self)
      exact hself.trans ((ih hrest).mono hmore)

end WtslCore
