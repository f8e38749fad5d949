/-
# The time a request sets

`is_valid_time` asks `strptime` for the start of the text and `mktime` whether
that start is a date; what `strptime` left over is not looked at. The whole
text then goes into `date -s "..."` in 32 bytes. So a text that is accepted is
a date, fits and holds only characters of a date exactly if nothing is left
over, it has no more than 21 characters, its white space is blanks, and it has
no `+`, which musl takes before a year (`timeSafe_iff`).

Key definitions: `timeFormat`, `isValidTime`, `TimeSafe`.
Key theorem: `timeSafe_iff`.
-/
import WtslCore.Lib.Strptime
import WtslCore.Node.FieldAccess

namespace WtslCore

/-- `"%Y-%m-%d %H:%M:%S"`. -/
def timeFormat : CStr := "%Y-%m-%d %H:%M:%S".toList

/-- `struct tm tm = {0}`. -/
def Tm.zero : Tm := ⟨0, 0, 0, 0, 0, 0⟩

/-- `is_valid_time`: 0 if the text is legal. -/
def isValidTime (lib : CLib) (mktime : Mktime) (timeStr format : CStr) : ℤ :=
  match strptime lib format timeStr .zero with
  | none => -1
  | some (original, _) =>
    match mktime.run original with
    | none => -1
    | some tm =>
      if tm.year ≠ original.year ∨ tm.mon ≠ original.mon ∨ tm.mday ≠ original.mday ∨
          tm.hour ≠ original.hour ∨ tm.min ≠ original.min ∨ tm.sec ≠ original.sec then -1
      else 0

/-- The whole text is a date and time in the format, one that exists. -/
def DenotesTime (lib : CLib) (s : CStr) : Prop := ∃ tm, strptime lib timeFormat s .zero = some (tm, []) ∧ tm.Exists

/-- The characters of a date. -/
def DateChar (c : Char) : Prop := c.isDigit = true ∨ c = '-' ∨ c = ':' ∨ c = ' '

/-- A text that is accepted is a date, fits the buffer of the command, and
holds nothing else. -/
def TimeSafe (lib : CLib) (mktime : Mktime) (s : CStr) : Prop :=
  isValidTime lib mktime s timeFormat = 0 →
    DenotesTime lib s ∧ (∃ cmd, dateCommand s = .ok cmd) ∧ ∀ c ∈ s, DateChar c

/-- The start of the text is a date that `mktime` leaves as it is, and `rest` follows it. -/
def StartsWithTime (lib : CLib) (mktime : Mktime) (s rest : CStr) : Prop :=
  ∃ tm, strptime lib timeFormat s .zero = some (tm, rest) ∧ mktime.run tm = some tm

variable {lib : CLib} {mktime : Mktime} {s rest : CStr}

/-- **What `is_valid_time` accepts**: texts that start with a date. -/
theorem isValidTime_iff : isValidTime lib mktime s timeFormat = 0 ↔ ∃ rest, StartsWithTime lib mktime s rest := by
  unfold isValidTime StartsWithTime
  cases hparse : strptime lib timeFormat s .zero with
  | none => simp
  | some r =>
    obtain ⟨tm, rest⟩ := r
    simp only [Option.some.injEq, Prod.mk.injEq]
    constructor
    · intro h
      split at h
      · exact absurd h (by decide)
      · rename_i tm' hrun
        split_ifs at h with hfields
        simp only [not_or, not_not] at hfields
        obtain ⟨h1, h2, h3, h4, h5, h6⟩ := hfields
        have heq : tm' = tm := by
          cases tm
          cases tm'
          simp_all
        exact ⟨rest, tm, ⟨rfl, rfl⟩, heq ▸ hrun⟩
    · rintro ⟨rest', tm', ⟨rfl, rfl⟩, hrun⟩
      rw [hrun]
      simp

theorem StartsWithTime.exists_tm (h : StartsWithTime lib mktime s rest) :
    ∃ tm, strptime lib timeFormat s .zero = some (tm, rest) ∧ tm.Exists := by
  obtain ⟨tm, hparse, hrun⟩ := h
  exact ⟨tm, hparse, mktime.exists_of_run hrun⟩

/-- The command fits for texts of up to 21 characters. -/
theorem dateCommand_ok_iff (s : CStr) : (∃ cmd, dateCommand s = .ok cmd) ↔ s.length ≤ 21 := by
  have hlen : ("date -s \x22".toList ++ (s ++ ['\x22'])).length = s.length + 10 := by
    rw [List.length_append, List.length_append, List.length_singleton]
    have : "date -s \x22".toList.length = 9 := by decide
    omega
  unfold dateCommand
  simp only [hlen]
  by_cases h : s.length + 10 < 32
  · rw [if_pos h]
    exact iff_of_true ⟨_, rfl⟩ (by omega)
  · rw [if_neg h]
    refine iff_of_false ?_ (by omega)
    rintro ⟨cmd, hcmd⟩
    exact nomatch hcmd

theorem dateChar_of_taken {c : Char} (h : NumberChar c ∨ c ∈ literals timeFormat)
    (hspace : isspace c = true → c = ' ') (hplus : c ≠ '+') : DateChar c := by
  rcases h with (hdigit | hblank | rfl | rfl) | hliteral
  · exact .inl hdigit
  · exact .inr (.inr (.inr (hspace hblank)))
  · exact absurd rfl hplus
  · exact .inr (.inl rfl)
  · have hall : ∀ c ∈ literals timeFormat, c = '-' ∨ c = ':' ∨ c = ' ' := by decide
    exact .inr (hall c hliteral)

theorem DateChar.space {c : Char} (h : DateChar c) (hspace : isspace c = true) : c = ' ' := by
  rcases h with hdigit | rfl | rfl | rfl
  · rw [(digit_ne hdigit).1] at hspace
    exact Bool.noConfusion hspace
  · exact absurd hspace (by decide)
  · exact absurd hspace (by decide)
  · rfl

theorem DateChar.ne_plus {c : Char} (h : DateChar c) : c ≠ '+' := by
  rintro rfl
  rcases h with h | h | h | h <;> exact absurd h (by decide)

/-- **A time that is set is a date** exactly if nothing follows the date in the
text, it has at most 21 characters, no `+`, and its white space is blanks. -/
theorem timeSafe_iff (lib : CLib) (mktime : Mktime) (s : CStr) : TimeSafe lib mktime s ↔
    ∀ rest, StartsWithTime lib mktime s rest →
      rest = [] ∧ s.length ≤ 21 ∧ ∀ c ∈ s, c ≠ '+' ∧ (isspace c = true → c = ' ') := by
  constructor
  · intro h rest hstart
    obtain ⟨⟨tm, hparse, -⟩, hfits, hchars⟩ := h (isValidTime_iff.mpr ⟨rest, hstart⟩)
    obtain ⟨tm', hparse', -⟩ := hstart
    rw [hparse] at hparse'
    refine ⟨?_, (dateCommand_ok_iff s).mp hfits, fun c hc => ⟨(hchars c hc).ne_plus, (hchars c hc).space⟩⟩
    exact (Prod.mk.inj (Option.some.inj hparse')).2.symm
  · intro h hvalid
    obtain ⟨rest, hstart⟩ := isValidTime_iff.mp hvalid
    obtain ⟨rfl, hlen, hchars⟩ := h rest hstart
    obtain ⟨tm, hparse, hexists⟩ := hstart.exists_tm
    refine ⟨⟨tm, hparse, hexists⟩, (dateCommand_ok_iff s).mpr hlen, fun c hc => ?_⟩
    obtain ⟨hplus, hspace⟩ := hchars c hc
    exact dateChar_of_taken ((strptime_takes hparse).forall_of_nil c hc) hspace hplus

/-- A clock that takes the dates of the calendar as they are. -/
def calendarMktime : Mktime where
  run tm := if tm.Exists then some tm else none
  exists_of_run h := by
    split_ifs at h with hex
    exact Option.some.inj h ▸ hex

/-- A date with a command behind it is accepted, and is run with the date. -/
theorem timeSafe_suffix : ¬ TimeSafe .musl calendarMktime "2023-1-1 0:0:0$(ls)".toList ∧
    dateCommand "2023-1-1 0:0:0$(ls)".toList = .ok "date -s \x222023-1-1 0:0:0$(ls)\x22".toList := by
  constructor
  · intro h
    have hchars := (h (by decide)).2.2 '$' (by decide)
    rcases hchars with hdigit | heq | heq | heq
    · exact absurd hdigit (by decide)
    · exact absurd heq (by decide)
    · exact absurd heq (by decide)
    · exact absurd heq (by decide)
  · rfl

end WtslCore
