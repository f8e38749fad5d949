/-
# C strings

A C string is the list of its characters before the terminator. A `Char`
stands for a byte of the source (U+0000 to U+00FF); the functions here only
compare characters and test them against ASCII, so they behave as the C
library's do in the C locale. A fixed array of `n` bytes is a list of length
`n` (`CharArray`), and `cstr` reads it as a string.

Key definitions: `CharArray`, `cstr`, `strncmpEq`, `strcasecmpEq`,
`strncasecmpEq`, `strtok`, `strstr`, `atoi`, `isspace`.
Key theorems: `strstr_isSome_iff`, `strstr_split`.
-/
import Mathlib.Data.List.Induction
import Mathlib.Data.List.TakeWhile
import Mathlib.Data.Nat.Notation
import Mathlib.Data.Int.Notation
import Mathlib.Tactic.SplitIfs

namespace WtslCore

/-- A string of the source, without its terminator. -/
abbrev CStr := List Char

/-- Strings are compared lawfully; named, for the conditions that test a string. -/
instance lawfulBEqCStr : LawfulBEq CStr := inferInstanceAs (LawfulBEq (List Char))

/-- The terminator of a C string. -/
abbrev nul : Char := '\x00'

/-- An array `char a[n]`. -/
abbrev CharArray (n : ℕ) := { l : List Char // l.length = n }

/-- A property of every character of a string is tested along the string, not over all of `Char`. -/
instance (priority := high) decidableForallMem (s : CStr) (p : Char → Prop) [DecidablePred p] :
    Decidable (∀ c ∈ s, p c) :=
  List.decidableBAll p s

/-- Likewise at an end of a string. -/
instance (priority := high) decidableForallOption (o : Option Char) (p : Char → Prop)
    [DecidablePred p] : Decidable (∀ c ∈ o, p c) :=
  Option.decidableForallMem o

/-- The string at the start of a piece of memory: the characters before the
first terminator. -/
def cstr (mem : List Char) : CStr := mem.takeWhile fun c => c != nul

/-- The array that holds `s` and is filled up with terminators. -/
def CharArray.ofStr (n : ℕ) (s : CStr) : CharArray n :=
  ⟨s.take n ++ List.replicate (n - s.length) nul, by simp; omega⟩

/-- `isspace` in the C locale: blank, or tab to carriage return. -/
def isspace (c : Char) : Bool := c == ' ' || (9 ≤ c.toNat && c.toNat ≤ 13)

/-- `strncmp(a, b, n) == 0`. -/
def strncmpEq (n : ℕ) (a b : CStr) : Bool := a.take n == b.take n

/-- `strcasecmp(a, b) == 0`. -/
def strcasecmpEq (a b : CStr) : Bool := a.map Char.toLower == b.map Char.toLower

/-- `strncasecmp(a, b, n) == 0`. -/
def strncasecmpEq (n : ℕ) (a b : CStr) : Bool := strcasecmpEq (a.take n) (b.take n)

/-- The tokens `strtok` cuts from `s` at the separator `d`: the non-empty
pieces between separators. -/
def strtok (d : Char) (s : CStr) : List CStr := (s.splitOn d).filter fun t => !t.isEmpty

/-- The value of a digit string. -/
def digitsVal (s : CStr) : ℕ := s.foldl (fun n c => 10 * n + (c.toNat - '0'.toNat)) 0

/-- What an `int` keeps of a number. -/
def wrapInt (n : ℤ) : ℤ := (Int32.ofInt n).toInt

/-- `atoi`: blanks, a sign, digits; the rest is ignored. The value is
accumulated in an `int` and wraps; where `atoi` is a cast of a 64-bit `long`
instead, the same bits are dropped. -/
def atoi (s : CStr) : ℤ :=
  let d (u : CStr) : ℕ := digitsVal (u.takeWhile Char.isDigit)
  match s.dropWhile isspace with
  | '-' :: u => wrapInt (-(d u : ℤ))
  | '+' :: u => wrapInt (d u)
  | u => wrapInt (d u)

/-- A number within `int` stays as it is. -/
theorem wrapInt_of_inInt {n : ℤ} (hlo : -2147483648 ≤ n) (hhi : n ≤ 2147483647) : wrapInt n = n :=
  Int32.toInt_ofInt_of_le hlo (by omega)

theorem cstr_of_noNul {s : CStr} (h : nul ∉ s) : cstr s = s := by
  refine List.takeWhile_eq_self_iff.mpr fun c hc => ?_
  simpa using fun heq : c = nul => h (heq ▸ hc)

theorem nul_not_mem_cstr (s : List Char) : nul ∉ cstr s := by
  intro h
  have := List.mem_takeWhile_imp h
  simp at this

/-- What stands behind the terminator is not read. -/
theorem cstr_append_nul {u : CStr} (hu : nul ∉ u) (t : List Char) : cstr (u ++ nul :: t) = u := by
  have hpos : ∀ c ∈ u, (c != nul) = true := by
    intro c hc
    simpa using fun heq : c = nul => hu (heq ▸ hc)
  rw [cstr, List.takeWhile_append_of_pos hpos, List.takeWhile_cons_of_neg (by simp), List.append_nil]

theorem strcasecmpEq_iff (a b : CStr) :
    strcasecmpEq a b = true ↔ a.map Char.toLower = b.map Char.toLower := by
  simp [strcasecmpEq]

@[simp] theorem strcasecmpEq_self (a : CStr) : strcasecmpEq a a = true := by
  simp [strcasecmpEq]

/-- `strstr`: the text before the first occurrence. -/
def strstr (needle : CStr) : CStr → Option CStr
  | [] => if needle = [] then some [] else none
  | c :: s => if needle.isPrefixOf (c :: s) then some [] else (strstr needle s).map (c :: ·)

/-- What stands before the text and what follows it. -/
theorem eq_append_of_strstr {needle : CStr} : ∀ {s pre : CStr}, strstr needle s = some pre →
    ∃ rest, s = pre ++ (needle ++ rest)
  | [], pre, h => by
    rw [strstr] at h
    split_ifs at h with hn
    rw [← Option.some.inj h, hn]
    exact ⟨[], rfl⟩
  | c :: s, pre, h => by
    rw [strstr] at h
    split_ifs at h with hpre
    · obtain ⟨rest, hrest⟩ := List.isPrefixOf_iff_prefix.mp hpre
      rw [← Option.some.inj h]
      exact ⟨rest, hrest.symm⟩
    · obtain ⟨pre', hpre', rfl⟩ := Option.map_eq_some_iff.mp h
      obtain ⟨rest, rfl⟩ := eq_append_of_strstr hpre'
      exact ⟨rest, rfl⟩

/-- `strstr` finds a text if and only if it is there. -/
theorem strstr_isSome_iff {needle : CStr} (s : CStr) : (strstr needle s).isSome = true ↔ needle <:+: s := by
  constructor
  · intro h
    obtain ⟨pre, hpre⟩ := Option.isSome_iff_exists.mp h
    obtain ⟨rest, rfl⟩ := eq_append_of_strstr hpre
    exact ⟨pre, rest, List.append_assoc ..⟩
  · intro h
    induction s with
    | nil => rw [strstr, if_pos (List.infix_nil.mp h)]; rfl
    | cons c s ih =>
      rw [strstr]
      split_ifs with hpre
      · rfl
      · rw [Option.isSome_map]
        rcases List.infix_cons_iff.mp h with hfront | hrest
        · exact absurd (List.isPrefixOf_iff_prefix.mpr hfront) hpre
        · exact ih hrest

theorem infix_of_strstr {needle s pre : CStr} (h : strstr needle s = some pre) : needle <:+: s :=
  (strstr_isSome_iff s).mp (Option.isSome_of_eq_some h)

theorem not_infix_of_strstr {needle s : CStr} (h : strstr needle s = none) : ¬ needle <:+: s := by
  rw [← strstr_isSome_iff, h]
  exact Bool.false_ne_true

/-- A text without `c` is in front of another `c` only if it is in front of what is before it. -/
theorem prefix_of_prefix_append {needle x t : CStr} {c : Char} (hc : c ∉ needle)
    (h : needle <+: x ++ c :: t) : needle <+: x := by
  by_cases hle : needle.length ≤ x.length
  · exact List.prefix_of_prefix_length_le h (List.prefix_append ..) hle
  · refine absurd ?_ hc
    have hx : x ++ [c] <+: x ++ c :: t := ⟨t, by simp⟩
    have hpre : x ++ [c] <+: needle := by
      refine List.prefix_of_prefix_length_le hx h ?_
      rw [List.length_append, List.length_singleton]
      omega
    exact hpre.subset (List.mem_append_right x (List.mem_singleton_self c))

/-- A text without `c` is looked for in front of a `c` and behind it. -/
theorem strstr_split {needle : CStr} {c : Char} (hne : needle ≠ []) (hc : c ∉ needle) (t : CStr) :
    ∀ l : CStr, strstr needle (l ++ c :: t) =
      (strstr needle l).or ((strstr needle t).map fun pre => l ++ c :: pre)
  | [] => by
    have hpre : ¬ needle.isPrefixOf (c :: t) = true := by
      intro h
      exact hne (List.prefix_nil.mp (prefix_of_prefix_append (x := []) hc (List.isPrefixOf_iff_prefix.mp h)))
    have hnil : strstr needle [] = none := by rw [strstr, if_neg hne]
    rw [List.nil_append, hnil, strstr, if_neg hpre]
    rfl
  | a :: l => by
    have hpre : needle.isPrefixOf (a :: (l ++ c :: t)) = true ↔ needle.isPrefixOf (a :: l) = true := by
      rw [List.isPrefixOf_iff_prefix, List.isPrefixOf_iff_prefix]
      constructor
      · intro h
        exact prefix_of_prefix_append (x := a :: l) hc h
      · intro h
        exact h.trans (List.prefix_append (a :: l) (c :: t))
    rw [List.cons_append, strstr, strstr, strstr_split hne hc t l]
    by_cases hfront : needle.isPrefixOf (a :: l) = true
    · rw [if_pos (hpre.mpr hfront), if_pos hfront]
      rfl
    · rw [if_neg fun h => hfront (hpre.mp h), if_neg hfront]
      cases strstr needle l with
      | some pre => rfl
      | none =>
        cases strstr needle t with
        | none => rfl
        | some pre => rfl

end WtslCore
