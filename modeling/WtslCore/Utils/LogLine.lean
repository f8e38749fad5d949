/-
# The line of a log message

`wtsl_logger_log` prints the prefix of a line into a buffer of 4096 bytes, the
message behind it, and puts a newline and a terminator behind both, or at the
end of the buffer. The two limits and the test leave room for the newline in
each case, whatever is cut. But the lengths are `int`: the length of a message
from 2 GiB on is reported as -1, and the sum of the two lengths may overflow
below that. So a line is right if and only if the sum of the lengths is an
`int` (`logLine_right_iff`).

Key definitions: `LogText`, `vsnprintf`, `assembleLine`, `logLine`, `LineRight`.
Key theorems: `vsnprintf_fits`, `addNewline_spec`, `logLine_right_iff`.
-/
import WtslCore.Lib.Block
import WtslCore.Lib.CStr
import WtslCore.Lib.Strtol

namespace WtslCore

/-! ### The function -/

/-- A text that is printed. -/
structure LogText where
  str : CStr
  noNul : nul ∉ str

/-- What is on the stack: `log_buffer`, and what a `vsnprintf` that fails leaves
of its text. -/
structure LogStack where
  logBuffer : CharArray 4096
  torn : List Char

/-- `vsnprintf` at an offset of the block: what it writes, and what it returns.
It fails for a text whose length is no `int`. -/
def vsnprintf (torn block : List Char) (off : ℤ) (size : ℕ) (text : CStr) :
    Option (List Char × ℤ) :=
  if off < 0 then none
  else if 2147483647 < text.length then
    (writeBytes block off.toNat (torn.take size)).map fun block => (block, -1)
  else if size = 0 then some (block, text.length)
  else (writeBytes block off.toNat (text.take (size - 1) ++ [nul])).map fun block =>
    (block, text.length)

/-- The newline and the terminator. -/
def addNewline (block : List Char) (totalLen : ℤ) : Option (List Char) :=
  if totalLen < 4096 - 2 then
    if totalLen < 0 then none else writeBytes block totalLen.toNat ['\n', nul]
  else writeBytes block (4096 - 2) ['\n', nul]

/-- `log_buffer` as `wtsl_logger_log` fills it; a sum of lengths that is no
`int` has no outcome. -/
def assembleLine (stack : LogStack) (pre msg : LogText) : Option (List Char) :=
  (vsnprintf stack.torn stack.logBuffer.val 0 (4096 - 1) pre.str).bind fun (block, prefixLen) =>
    (vsnprintf stack.torn block prefixLen ((4096 - prefixLen - 1) % 4294967296).toNat msg.str).bind
      fun (block, contentLen) =>
        let totalLen := prefixLen + contentLen
        if InInt totalLen then addNewline block totalLen else none

/-! ### The line -/

/-- The line: the prefix and the message, cut to 4094 characters. -/
def logLine (pre msg : LogText) : CStr := (pre.str ++ msg.str).take 4094

/-- **The line is right**: nothing is written outside of the buffer, it holds
the line, a newline and a terminator, and the line and a newline are what is
printed of it. -/
def LineRight (stack : LogStack) (pre msg : LogText) : Prop :=
  ∃ block, assembleLine stack pre msg = some block ∧
    block.take ((logLine pre msg).length + 2) = logLine pre msg ++ ['\n', nul] ∧
    cstr block = logLine pre msg ++ ['\n']

variable {stack : LogStack} {pre msg : LogText} {torn block : List Char} {text : CStr}

/-- **What fits is printed** in front of a terminator. -/
theorem vsnprintf_fits (torn block : List Char) (text : CStr) (off size : ℕ)
    (hlen : text.length ≤ 2147483647) (hsize : 0 < size) (hroom : off + size ≤ block.length) :
    ∃ block' : List Char, vsnprintf torn block off size text = some (block', (text.length : ℤ)) ∧
      block'.length = block.length ∧
      block'.take (off + min (size - 1) text.length) = block.take off ++ text.take (size - 1) := by
  have hbytes : (text.take (size - 1) ++ [nul]).length = min (size - 1) text.length + 1 := by
    rw [List.length_append, List.length_take, List.length_singleton]
  have hwide : off + (text.take (size - 1) ++ [nul]).length ≤ block.length := by omega
  obtain ⟨block', hwrite, hkept, hfront⟩ := writeBytes_some hwide
  refine ⟨block', ?_, hkept, ?_⟩
  · have hoff : ¬ (off : ℤ) < 0 := by omega
    rw [vsnprintf, if_neg hoff, if_neg (Nat.not_lt.mpr hlen), if_neg (Nat.ne_of_gt hsize),
      Int.toNat_natCast, hwrite, Option.map_some]
  · have hshort := congrArg (List.take (off + min (size - 1) text.length)) hfront
    have htext : (text.take (size - 1)).length = min (size - 1) text.length := List.length_take
    have hoff : (block.take off).length = off := List.length_take_of_le (by omega)
    rw [List.take_take, Nat.min_eq_left (by omega), ← List.append_assoc] at hshort
    rw [hshort, List.take_left' (by rw [List.length_append, hoff, htext])]

/-- The newline goes behind the line, and that is what is printed. -/
theorem addNewline_spec {line : CStr} {total : ℕ} (hblock : block.length = 4096)
    (hline : block.take line.length = line) (hlen : line.length = min total 4094) :
    ∃ block', addNewline block total = some block' ∧
      block'.take (line.length + 2) = line ++ ['\n', nul] := by
  have hat : addNewline block total = writeBytes block line.length ['\n', nul] := by
    unfold addNewline
    by_cases hshort : total < 4094
    · rw [if_pos (by omega), if_neg (by omega), Int.toNat_natCast]
      congr 1
      omega
    · rw [if_neg (by omega)]
      congr 1
      omega
  have hroom : line.length + ['\n', nul].length ≤ block.length := by
    rw [hblock]
    show line.length + 2 ≤ 4096
    omega
  obtain ⟨block', hwrite, -, hfront⟩ := writeBytes_some hroom
  refine ⟨block', hat.trans hwrite, ?_⟩
  rw [hline] at hfront
  exact hfront

theorem nul_notMem_logLine : nul ∉ logLine pre msg ++ ['\n'] := by
  have hnewline : nul ∉ ['\n'] := by decide
  intro h
  rcases List.mem_append.mp h with h | h
  · rcases List.mem_append.mp (List.mem_of_mem_take h) with h | h
    · exact pre.noNul h
    · exact msg.noNul h
  · exact hnewline h

/-- What is printed of a block is what is in front of its terminator. -/
theorem cstr_of_take {n : ℕ} (h : block.take (n + 2) = logLine pre msg ++ ['\n', nul]) :
    cstr block = logLine pre msg ++ ['\n'] := by
  have hline : (logLine pre msg ++ ['\n', nul]) ++ block.drop (n + 2) =
      (logLine pre msg ++ ['\n']) ++ nul :: block.drop (n + 2) := by simp
  rw [← List.take_append_drop (n + 2) block, h, hline]
  exact cstr_append_nul nul_notMem_logLine _

/-- The prefix is printed as a whole. -/
theorem print_prefix (stack : LogStack) (hpre : pre.str.length < 4095) :
    ∃ block : List Char, vsnprintf stack.torn stack.logBuffer.val 0 (4096 - 1) pre.str =
        some (block, (pre.str.length : ℤ)) ∧
      block.length = 4096 ∧ block.take pre.str.length = pre.str := by
  have hbuffer : stack.logBuffer.val.length = 4096 := stack.logBuffer.property
  obtain ⟨block, hprint, hlen, hfront⟩ :=
    vsnprintf_fits stack.torn stack.logBuffer.val pre.str 0 4095 (by omega) (by decide) (by omega)
  refine ⟨block, hprint, hlen.trans hbuffer, ?_⟩
  have hmin : 0 + min (4095 - 1) pre.str.length = pre.str.length := by omega
  rw [hmin] at hfront
  rw [hfront, List.take_zero, List.nil_append, List.take_of_length_le (by omega)]

/-- What is left of the buffer for the message. -/
theorem room_eq {n : ℕ} (hn : n < 4095) : ((4096 - (n : ℤ) - 1) % 4294967296).toNat = 4095 - n := by
  omega

theorem length_logLine (pre msg : LogText) :
    (logLine pre msg).length = min (pre.str.length + msg.str.length) 4094 := by
  rw [logLine, List.length_take, List.length_append, Nat.min_comm]

/-- What is printed of a block ends in front of its first terminator. -/
theorem length_cstr_lt {n : ℕ} (h : nul ∈ block.take n) : (cstr block).length < n := by
  induction block generalizing n with
  | nil =>
    rw [List.take_nil] at h
    exact absurd h List.not_mem_nil
  | cons c block ih =>
    cases n with
    | zero => exact absurd h List.not_mem_nil
    | succ n =>
      by_cases hc : c = nul
      · rw [cstr, List.takeWhile_cons_of_neg (by simp [hc])]
        exact Nat.succ_pos n
      · rw [cstr, List.takeWhile_cons_of_pos (by simpa using hc), List.length_cons]
        rw [List.take_succ_cons] at h
        exact Nat.succ_lt_succ (ih ((List.mem_cons.mp h).resolve_left fun heq => hc heq.symm))

/-- The line once the prefix is printed into `first`. -/
structure Printed (stack : LogStack) (pre msg : LogText) (first : List Char) : Prop where
  length : first.length = 4096
  front : first.take pre.str.length = pre.str
  run : assembleLine stack pre msg =
    (vsnprintf stack.torn first pre.str.length (4095 - pre.str.length) msg.str).bind
      fun (block, contentLen) =>
        if InInt (pre.str.length + contentLen) then addNewline block (pre.str.length + contentLen)
        else none

theorem exists_printed (stack : LogStack) (msg : LogText) (hpre : pre.str.length < 4095) :
    ∃ first, Printed stack pre msg first := by
  obtain ⟨first, hprint, hlength, hfront⟩ := print_prefix stack hpre
  refine ⟨first, hlength, hfront, ?_⟩
  unfold assembleLine
  rw [hprint, Option.bind_some]
  dsimp only
  rw [room_eq hpre]

/-- A line whose length is an `int` is right. -/
theorem lineRight_of_int (stack : LogStack) (hpre : pre.str.length < 4095)
    (hlen : pre.str.length + msg.str.length ≤ 2147483647) : LineRight stack pre msg := by
  obtain ⟨first, hfirst, hfront, hrun⟩ := exists_printed stack msg hpre
  obtain ⟨second, hprint, hsecond, hbody⟩ := vsnprintf_fits stack.torn first msg.str
    pre.str.length (4095 - pre.str.length) (by omega) (by omega) (by omega)
  have hcut : logLine pre msg = pre.str ++ msg.str.take (4094 - pre.str.length) := by
    rw [logLine, List.take_append, List.take_of_length_le (by omega : pre.str.length ≤ 4094)]
  have hline : second.take (logLine pre msg).length = logLine pre msg := by
    have hsize : 4095 - pre.str.length - 1 = 4094 - pre.str.length := by omega
    have hat : pre.str.length + min (4094 - pre.str.length) msg.str.length =
        (logLine pre msg).length := by
      rw [length_logLine]
      omega
    rw [hsize, hat, hfront, ← hcut] at hbody
    exact hbody
  obtain ⟨block, hadd, hblock⟩ := addNewline_spec (hsecond.trans hfirst) hline (length_logLine pre msg)
  rw [hprint, Option.bind_some] at hrun
  dsimp only at hrun
  rw [if_pos (by unfold InInt; omega), ← Int.natCast_add] at hrun
  exact ⟨block, hrun.trans hadd, hblock, cstr_of_take hblock⟩

/-- A message whose length is no `int` cuts the prefix. -/
theorem not_lineRight_long (stack : LogStack) (hpre : pre.str.length < 4095)
    (hmsg : 2147483647 < msg.str.length) : ¬ LineRight stack pre msg := by
  obtain ⟨first, -, -, hrun⟩ := exists_printed stack msg hpre
  rintro ⟨block, hblock, -, hline⟩
  have hoff : ¬ (pre.str.length : ℤ) < 0 := by omega
  rw [hrun, vsnprintf, if_neg hoff, if_pos hmsg] at hblock
  obtain ⟨⟨second, contentLen⟩, hprint, hadd⟩ := Option.bind_eq_some_iff.mp hblock
  obtain ⟨second', -, hsecond⟩ := Option.map_eq_some_iff.mp hprint
  obtain ⟨rfl, rfl⟩ := Prod.mk.inj hsecond
  dsimp only at hadd
  rw [if_pos (by unfold InInt; omega), addNewline, if_pos (by omega)] at hadd
  split_ifs at hadd with hneg
  -- the terminator is at most at 4094, where the newline belongs
  have hroom : (↑pre.str.length + -1 : ℤ).toNat + ['\n', nul].length ≤ second'.length := by
    by_contra hout
    rw [writeBytes_none (Nat.lt_of_not_le hout)] at hadd
    exact Option.some_ne_none _ hadd.symm
  obtain ⟨block', hwrite, -, hfront⟩ := writeBytes_some hroom
  obtain rfl := Option.some.inj (hwrite.symm.trans hadd)
  have hnul : nul ∈ block'.take ((↑pre.str.length + -1 : ℤ).toNat + ['\n', nul].length) := by
    rw [hfront]
    exact List.mem_append_right _ (List.mem_cons_of_mem _ List.mem_cons_self)
  have hshort := length_cstr_lt hnul
  rw [hline, List.length_append, length_logLine] at hshort
  have hpair : ['\n', nul].length = 2 := rfl
  have hone : ['\n'].length = 1 := rfl
  omega

/-- Two lengths whose sum is no `int` have no outcome. -/
theorem not_lineRight_overflow (stack : LogStack) (hpre : pre.str.length < 4095)
    (hmsg : msg.str.length ≤ 2147483647) (hlen : 2147483647 < pre.str.length + msg.str.length) :
    ¬ LineRight stack pre msg := by
  obtain ⟨first, hfirst, -, hrun⟩ := exists_printed stack msg hpre
  obtain ⟨second, hprint, -, -⟩ := vsnprintf_fits stack.torn first msg.str
    pre.str.length (4095 - pre.str.length) hmsg (by omega) (by omega)
  rintro ⟨block, hblock, -⟩
  rw [hrun, hprint, Option.bind_some] at hblock
  dsimp only at hblock
  rw [if_neg (by unfold InInt; omega)] at hblock
  exact Option.some_ne_none _ hblock.symm

/-- **A line is right if and only if** its length without the cut is an `int`. -/
theorem logLine_right_iff (stack : LogStack) (pre msg : LogText) (hpre : pre.str.length < 4095) :
    LineRight stack pre msg ↔ pre.str.length + msg.str.length ≤ 2147483647 := by
  constructor
  · intro h
    by_contra hlen
    by_cases hmsg : msg.str.length ≤ 2147483647
    · exact not_lineRight_overflow stack hpre hmsg (Nat.lt_of_not_le hlen) h
    · exact not_lineRight_long stack hpre (Nat.lt_of_not_le hmsg) h
  · exact lineRight_of_int stack hpre

/-- A cleared stack. -/
def clearedStack : LogStack := ⟨CharArray.ofStr 4096 [], []⟩

/-- A prefix, and a message of so many characters. -/
def uploadPrefix : LogText := ⟨"[12:00:00.000][wtsl][INFO][upload]: ".toList, by decide⟩

def longMessage (n : ℕ) : LogText :=
  ⟨List.replicate n 'x', fun h => absurd (List.eq_of_mem_replicate h) (by decide)⟩

theorem logLine_right_hello :
    LineRight clearedStack uploadPrefix (longMessage 5000) ↔
      uploadPrefix.str.length + (longMessage 5000).str.length ≤ 2147483647 :=
  logLine_right_iff clearedStack uploadPrefix (longMessage 5000) (by decide)

/-- A message of 2 GiB is not printed. -/
theorem logLine_long : ¬ LineRight clearedStack uploadPrefix (longMessage 2147483648) := by
  refine not_lineRight_long clearedStack (by decide) ?_
  show 2147483647 < (List.replicate 2147483648 'x').length
  rw [List.length_replicate]
  decide

end WtslCore
