/-
# The tables of users the driver prints

`view_mcs` and `get_rssi` print a line for every user behind `[SUCC]`. Both
readers collect the output in 1024 bytes, without the lines that do not fit,
and go through what is behind the mark up to the last newline: one skips
carriage returns in front of a line, the other takes the rest of the first
line for a header. So a user is lost whose line does not fit, or is the last
one and not terminated (`driverTables_right_iff`); no table of 256 users fits.

The lines are cut at 255 characters before they are collected. Where that can
matter, for a longer line in an output that does not fit as a whole, or where
the line of the mark is left out, the pieces that fit decide.

Key definitions: `driverBuffer`, `scanMcs`, `scanRssi`, `slbGetViewMcsInfo`,
`slbGetRssiInfo`, `TableFormat`, `markLines`, `TableRight`, `fittingPieces`,
`OutputOk`.
Key theorems: `mcsLoop_eq`, `rssiLoop_eq`, `driverTable_right_iff`,
`driverTables_right_iff`.
-/
import WtslCore.Lib.Lines
import WtslCore.Node.Queries
import WtslCore.Slb.McsBounds

namespace WtslCore

/-! ### The readers -/

/-- `"[SUCC]"`. -/
def succMark : CStr := "[SUCC]".toList

/-- What is behind the first mark. -/
def behindMark (s : CStr) : Option CStr :=
  (strstr succMark s).map fun pre => s.drop (pre.length + succMark.length)

/-- `buffer[1024]` once the output is read. -/
def driverBuffer (output : CStr) : CStr := collectLines 1023 (fgetsLines 256 output)

/-- `mcs_entry_t`. -/
structure McsEntry where
  userIdx : ℤ
  ulMcs : ℤ
  dlMcs : ℤ
  deriving DecidableEq

/-- `rssi_user_info_t`. -/
structure RssiUserInfo where
  userIdx : ℤ
  rssi : ℤ
  rsrp : ℤ
  snr : ℤ
  deriving DecidableEq

/-- `mcs_data_t` and `rssi_data_t`: the count, and 256 users. -/
structure DriverTable (ρ : Type) where
  count : ℕ
  user : List ρ

/-- `sscanf(line, "user=%d:ul_mcs=%d, dl_mcs=%d", ..) == 3` of a line that
starts with `user=`. -/
def scanMcs (line : CStr) : Option McsEntry := do
  let s ← scanLit "user=" line
  let (userIdx, s) ← strtol s
  let s ← scanLit ":ul_mcs=" s
  let (ulMcs, s) ← strtol s
  let s ← scanLit "," s
  let s ← scanLit "dl_mcs=" (s.dropWhile isspace)
  let (dlMcs, _) ← strtol s
  some ⟨userIdx, ulMcs, dlMcs⟩

/-- `sscanf(line_start, "%d %d %d %d", ..) == 4`. -/
def scanRssi (line : CStr) : Option RssiUserInfo :=
  match scanInts 4 line with
  | [userIdx, rssi, rsrp, snr] => some ⟨userIdx, rssi, rsrp, snr⟩
  | _ => none

/-- A row is stored while there are fewer than 256. -/
def storeRow {ρ : Type} (rows : List ρ) : Option ρ → List ρ
  | some row => if rows.length < 256 then rows ++ [row] else rows
  | none => rows

/-- `strchr(line_start, '\n')`: the line in front of it, and what follows. -/
def nextLine (s : CStr) : Option (CStr × CStr) :=
  match s.dropWhile (· != '\n') with
  | [] => none
  | _ :: rest => some (s.takeWhile (· != '\n'), rest)

theorem length_nextLine {s line rest : CStr} (h : nextLine s = some (line, rest)) :
    rest.length < s.length := by
  unfold nextLine at h
  have hle := List.length_dropWhile_le (· != '\n') s
  split at h
  · cases h
  · rename_i c r hdrop
    obtain ⟨-, rfl⟩ := Prod.mk.inj (Option.some.inj h)
    rw [hdrop, List.length_cons] at hle
    exact hle

/-- `'\n'` and `'\r'`, which are skipped in front of a line. -/
def isLineEnd (c : Char) : Bool := c == '\n' || c == '\r'

theorem length_skipped {s line rest : CStr} (h : nextLine s = some (line, rest)) :
    (rest.dropWhile isLineEnd).length < s.length :=
  Nat.lt_of_le_of_lt (List.length_dropWhile_le _ _) (length_nextLine h)

/-- The loop of `slb_get_view_mcs_info`. -/
def mcsLoop (rows : List McsEntry) (lineStart : CStr) : List McsEntry :=
  match _h : nextLine lineStart with
  | none => rows
  | some (line, rest) => mcsLoop (storeRow rows (scanMcs line)) (rest.dropWhile isLineEnd)
termination_by lineStart.length
decreasing_by exact length_skipped _h

/-- The loop of `slb_get_rssi_info`. -/
def rssiLoop (rows : List RssiUserInfo) (lineStart : CStr) : List RssiUserInfo :=
  match _h : nextLine lineStart with
  | none => rows
  | some (line, rest) =>
    if line.dropWhile (fun c => c == ' ' || c == '\t') = [] then rssiLoop rows rest
    else rssiLoop (storeRow rows (scanRssi line)) rest
termination_by lineStart.length
decreasing_by all_goals exact length_nextLine _h

/-- The rows behind the mark, the header line skipped. -/
def rssiRows (pos : CStr) : List RssiUserInfo :=
  match nextLine pos with
  | some (_, rest) => rssiLoop [] rest
  | none => rssiLoop [] pos

/-- What the readers do with the output of their command. -/
def driverTable {ρ : Type} (zero : ρ) (parse : CStr → List ρ) (output : CStr) : ℤ × DriverTable ρ :=
  match behindMark (driverBuffer output) with
  | none => (-1, ⟨0, List.replicate 256 zero⟩)
  | some pos =>
    let rows := parse pos
    (if rows.length = 0 then -1 else 0,
      ⟨rows.length, rows ++ List.replicate (256 - rows.length) zero⟩)

/-- A reader: the device name is checked, and the command run if it can be. -/
def driverReader {ρ : Type} (zero : ρ) (parse : CStr → List ρ) (cmd : CStr → CStr)
    (popen : CStr → Option CStr) (devName : CStr) (data : DriverTable ρ) : ℤ × DriverTable ρ :=
  if devName = [] ∨ maxDeviceNameLen < devName.length then (-1, data)
  else
    match popen (cmd devName) with
    | none => (-1, data)
    | some output => driverTable zero parse output

/-- The command of `slb_get_view_mcs_info`. -/
def viewMcsCmd (devName : CStr) : CStr :=
  ("iwpriv ".toList ++ devName ++ " alg view_mcs".toList).take 63

/-- The command of `slb_get_rssi_info`. -/
def getRssiCmd (devName : CStr) : CStr :=
  ("iwpriv ".toList ++ devName ++ " cfg get_rssi".toList).take 63

/-- `slb_get_view_mcs_info`. -/
def slbGetViewMcsInfo : (CStr → Option CStr) → CStr → DriverTable McsEntry → ℤ × DriverTable McsEntry :=
  driverReader ⟨0, 0, 0⟩ (mcsLoop []) viewMcsCmd

/-- `slb_get_rssi_info`. -/
def slbGetRssiInfo :
    (CStr → Option CStr) → CStr → DriverTable RssiUserInfo → ℤ × DriverTable RssiUserInfo :=
  driverReader ⟨0, 0, 0, 0⟩ rssiRows getRssiCmd

/-! ### What is asked of them -/

/-- The lines of a table: what the rest of the line of the mark holds, and
what a line behind it does. A user needs at least four characters. -/
structure TableFormat (ρ : Type) where
  first : CStr → Option ρ
  row : CStr → Option ρ
  first_long : ∀ l, first l ≠ none → 4 ≤ l.length
  row_long : ∀ l, row l ≠ none → 4 ≤ l.length

/-- The lines from the mark on: what is behind it in its line, and the lines after it. -/
def behindLines : List CStr → List CStr
  | [] => []
  | l :: ls =>
    match behindMark l with
    | some rest => rest :: ls
    | none => behindLines ls

/-- The users of the lines from the mark on. -/
def TableFormat.users {ρ : Type} (fmt : TableFormat ρ) : List CStr → List ρ
  | [] => []
  | rest :: ls => (fmt.first rest).toList ++ ls.filterMap fmt.row

/-- The users of an output. -/
def TableFormat.usersOf {ρ : Type} (fmt : TableFormat ρ) (output : CStr) : List ρ :=
  fmt.users (behindLines (textLines output))

/-- **The table is complete**: the first 256 users in order, their number, and
-1 exactly if there is none. -/
structure TableRight {ρ : Type} (users : List ρ) (res : ℤ × DriverTable ρ) : Prop where
  count : res.2.count = min users.length 256
  stored : res.2.user.take res.2.count = users.take 256
  ret : res.1 = if users = [] then -1 else 0

/-- The lines of an output, each with whether it is terminated and fits behind
those before it that do. -/
def markLines (total : ℕ) : List CStr → List (CStr × Bool)
  | [] => []
  | [l] => [(l, false)]
  | l :: ls =>
    if total + (l.length + 1) < 1023 then (l, true) :: markLines (total + (l.length + 1)) ls
    else (l, false) :: markLines total ls

/-- The first line with the mark: what is behind it, whether the line is
terminated and fits, and the lines after it. -/
def markAt : List (CStr × Bool) → Option (CStr × Bool × List (CStr × Bool))
  | [] => none
  | (l, fits) :: ls =>
    match behindMark l with
    | some rest => some (rest, fits, ls)
    | none => markAt ls

/-- Lines are collected as a whole: no line is cut, or the output fits, and the
line of the mark fits unless it is the last one. -/
structure PlainOutput (output : CStr) : Prop where
  text : nul ∉ output
  lines : (∀ l ∈ textLines output, l.length < 255) ∨ output.length < 1023
  mark : ∀ rest fits post, markAt (markLines 0 (textLines output)) = some (rest, fits, post) →
    fits = true ∨ post = []

/-- Every user behind the mark stands in a line that is terminated and fits. -/
def UserLinesFit {ρ : Type} (fmt : TableFormat ρ) (output : CStr) : Prop :=
  ∀ rest fits post, markAt (markLines 0 (textLines output)) = some (rest, fits, post) →
    (fmt.first rest ≠ none → fits = true) ∧ ∀ x ∈ post, fmt.row x.1 ≠ none → x.2 = true

/-- The pieces of an output that fit one behind the other, with `total`
characters in front of them. -/
def fittingPieces (total : ℕ) : List CStr → List CStr
  | [] => []
  | p :: ps =>
    if total + p.length < 1023 then p :: fittingPieces (total + p.length) ps
    else fittingPieces total ps

/-- The terminated lines of the pieces put together have the users. -/
def PiecesFit {ρ : Type} (fmt : TableFormat ρ) (output : CStr) (pieces : List CStr) : Prop :=
  fmt.users (behindLines (textLines pieces.flatten).dropLast) = fmt.usersOf output

/-- The condition: every user's line is terminated and fits. Where lines are not
collected as a whole, the users stand in terminated lines of the pieces of 255
characters at most, up to a terminator, that fit. -/
structure OutputOk {ρ : Type} (fmt : TableFormat ρ) (output : CStr) : Prop where
  plain : PlainOutput output → UserLinesFit fmt output
  other : ¬ PlainOutput output →
    PiecesFit fmt output (fittingPieces 0 ((fgetsAll 255 output).map cstr))

/-! ### The loops -/

theorem nextLine_line {l : CStr} (hl : '\n' ∉ l) (t : CStr) : nextLine (l ++ '\n' :: t) = some (l, t) := by
  have hall : ∀ c ∈ l, (c != '\n') = true := fun c hc => bne_iff_ne.mpr fun h => hl (h ▸ hc)
  unfold nextLine
  rw [List.dropWhile_append_of_pos hall, List.takeWhile_append_of_pos hall,
    List.dropWhile_cons_of_neg (by decide), List.takeWhile_cons_of_neg (by decide), List.append_nil]

theorem nextLine_last {l : CStr} (hl : '\n' ∉ l) : nextLine l = none := by
  have hall : ∀ c ∈ l, (c != '\n') = true := fun c hc => bne_iff_ne.mpr fun h => hl (h ▸ hc)
  unfold nextLine
  rw [List.dropWhile_eq_nil_iff.mpr hall]

section

variable {ρ : Type}

theorem take_take_append (l m : List ρ) (n : ℕ) : (l.take n ++ m).take n = (l ++ m).take n := by
  rw [List.take_append, List.take_append, List.take_take, Nat.min_self, List.length_take]
  congr 2
  omega

theorem filterMap_cons_eq {α : Type} (f : α → Option ρ) (a : α) (as : List α) :
    (a :: as).filterMap f = (f a).toList ++ as.filterMap f := by
  rw [List.filterMap_cons]
  cases f a with
  | none => rfl
  | some r => rfl

/-- Storing a row keeps the first 256. -/
theorem storeRow_eq {rows : List ρ} (h : rows.length ≤ 256) (row : Option ρ) :
    storeRow rows row = (rows ++ row.toList).take 256 := by
  cases row with
  | none =>
    rw [Option.toList_none, List.append_nil, List.take_of_length_le h]
    rfl
  | some r =>
    rw [storeRow, Option.toList_some]
    split_ifs with hroom
    · rw [List.take_of_length_le]
      rw [List.length_append, List.length_singleton]
      exact hroom
    · rw [List.take_append_of_le_length (by omega), List.take_of_length_le h]

theorem length_storeRow {rows : List ρ} (h : rows.length ≤ 256) (row : Option ρ) :
    (storeRow rows row).length ≤ 256 := by
  rw [storeRow_eq h, List.length_take]
  exact Nat.min_le_left _ _

/-- A row stored in front of the rows that follow. -/
theorem store_then {rows : List ρ} (h : rows.length ≤ 256) (row : Option ρ) (rest : List ρ) :
    (storeRow rows row ++ rest).take 256 = (rows ++ (row.toList ++ rest)).take 256 := by
  rw [storeRow_eq h, take_take_append, List.append_assoc]

end

/-! #### The two formats -/

theorem scanMcs_long (l : CStr) (h : scanMcs l ≠ none) : 4 ≤ l.length := by
  cases hlit : scanLit "user=" l with
  | none => exact absurd (by rw [scanMcs, hlit]; rfl) h
  | some s =>
    unfold scanLit at hlit
    split_ifs at hlit with hpre
    have hle := (List.isPrefixOf_iff_prefix.mp hpre).length_le
    exact Nat.le_trans (by decide) hle

theorem length_scanInts : ∀ (n : ℕ) (s : CStr), (scanInts n s).length ≤ s.length
  | 0, _ => Nat.zero_le _
  | n + 1, s => by
    rw [scanInts]
    cases hs : strtol s with
    | none => exact Nat.zero_le _
    | some p =>
      obtain ⟨v, u⟩ := p
      have hlt := strtol_lt hs
      have ih := length_scanInts n u
      dsimp only
      rw [List.length_cons]
      omega

theorem scanRssi_long (l : CStr) (h : scanRssi l ≠ none) : 4 ≤ l.length := by
  have hlen := length_scanInts 4 l
  unfold scanRssi at h
  split at h
  · rename_i hs
    rw [hs] at hlen
    exact hlen
  · exact absurd rfl h

/-- The carriage returns in front of a line belong to the end of the line before. -/
def dropReturns (l : CStr) : CStr := l.dropWhile (· == '\r')

theorem scanMcs_returns_long (l : CStr) (h : scanMcs (dropReturns l) ≠ none) : 4 ≤ l.length :=
  Nat.le_trans (scanMcs_long _ h) (List.length_dropWhile_le _ l)

theorem none_long (l : CStr) (h : (none : Option RssiUserInfo) ≠ none) : 4 ≤ l.length := absurd rfl h

/-- The table of `view_mcs`. -/
def mcsFormat : TableFormat McsEntry where
  first := scanMcs
  row l := scanMcs (dropReturns l)
  first_long := scanMcs_long
  row_long := scanMcs_returns_long

/-- The table of `get_rssi`: the rest of the line of the mark is a header. -/
def rssiFormat : TableFormat RssiUserInfo where
  first _ := none
  row := scanRssi
  first_long := none_long
  row_long := scanRssi_long

theorem scanLit_append (lit : String) (s : CStr) : scanLit lit (lit.toList ++ s) = some s := by
  rw [scanLit, if_pos (List.isPrefixOf_iff_prefix.mpr (List.prefix_append _ s)), List.drop_left]

/-- **A line of `view_mcs` is read with its numbers**, whatever follows them. -/
theorem scanMcs_line (userIdx ulMcs dlMcs : Int32) {r : CStr} (hr : ∀ c ∈ r.head?, c.isDigit = false) :
    scanMcs ("user=".toList ++ (intText userIdx.toInt ++ (":ul_mcs=".toList ++ (intText ulMcs.toInt ++
      (",".toList ++ (' ' :: ("dl_mcs=".toList ++ (intText dlMcs.toInt ++ r)))))))) =
      some ⟨userIdx.toInt, ulMcs.toInt, dlMcs.toInt⟩ := by
  have hspace : ∀ s : CStr, (' ' :: ("dl_mcs=".toList ++ s)).dropWhile isspace = "dl_mcs=".toList ++ s := by
    intro s
    rfl
  unfold scanMcs
  rw [scanLit_append, Option.bind_eq_bind, Option.bind_some,
    strtol_intText_append userIdx (fun c hc => by rw [← Option.some.inj hc]; rfl)]
  dsimp only [Option.bind_eq_bind, Option.bind_some]
  rw [scanLit_append, Option.bind_some,
    strtol_intText_append ulMcs (fun c hc => by rw [← Option.some.inj hc]; rfl), Option.bind_some]
  dsimp only
  rw [scanLit_append, Option.bind_some, hspace, scanLit_append, Option.bind_some,
    strtol_intText_append dlMcs hr, Option.bind_some]

/-- **A line of `get_rssi` is read with its numbers.** -/
theorem scanRssi_line (userIdx rssi rsrp snr : Int32) {r : CStr} (hr : ∀ c ∈ r.head?, c.isDigit = false) :
    scanRssi (intText userIdx.toInt ++ ' ' :: (intText rssi.toInt ++ ' ' :: (intText rsrp.toInt ++
      ' ' :: (intText snr.toInt ++ r)))) =
      some ⟨userIdx.toInt, rssi.toInt, rsrp.toInt, snr.toInt⟩ := by
  have hint : ∀ (n : ℕ) (v : Int32) {t : CStr}, (∀ c ∈ t.head?, c.isDigit = false) →
      scanInts (n + 1) (intText v.toInt ++ t) = v.toInt :: scanInts n t := by
    intro n v t ht
    rw [scanInts, strtol_intText_append v ht]
  have hspace : ∀ (n : ℕ) (t : CStr), scanInts n (' ' :: t) = scanInts n t := by
    intro n t
    cases n with
    | zero => rfl
    | succ n => rfl
  have hblank : ∀ t : CStr, ∀ c ∈ (' ' :: t).head?, c.isDigit = false := by
    intro t c hc
    rw [← Option.some.inj hc]
    rfl
  unfold scanRssi
  rw [hint 3 _ (hblank _), hspace, hint 2 _ (hblank _), hspace, hint 1 _ (hblank _), hspace, hint 0 _ hr]
  rfl

/-! #### The loops are the formats -/

/-- Line ends in front of a text are skipped: the first line that is left has
no carriage returns in front of it. -/
theorem users_skipped : ∀ t : CStr,
    mcsFormat.users (textLines (t.dropWhile isLineEnd)).dropLast =
      (textLines t).dropLast.filterMap mcsFormat.row
  | [] => rfl
  | c :: t => by
    by_cases hnl : c = '\n'
    · subst hnl
      have hline : textLines ('\n' :: t) = [] :: textLines t := textLines_line List.not_mem_nil t
      rw [List.dropWhile_cons_of_pos rfl, users_skipped t, hline,
        List.dropLast_cons_of_ne_nil (textLines_ne_nil t), List.filterMap_cons_none rfl]
    · obtain ⟨l, ls, htail, hlines⟩ := textLines_cons hnl t
      by_cases hcr : c = '\r'
      · subst hcr
        have hrow : mcsFormat.row ('\r' :: l) = mcsFormat.row l := rfl
        rw [List.dropWhile_cons_of_pos rfl, users_skipped t, htail, hlines]
        cases ls with
        | nil => rfl
        | cons l' ls =>
          rw [List.dropLast_cons_of_ne_nil (List.cons_ne_nil _ _),
            List.dropLast_cons_of_ne_nil (List.cons_ne_nil _ _), List.filterMap_cons, List.filterMap_cons, hrow]
      · have hkeep : ¬ isLineEnd c = true := by simp [isLineEnd, hnl, hcr]
        have hrow : mcsFormat.row (c :: l) = mcsFormat.first (c :: l) := by
          have hdrop : dropReturns (c :: l) = c :: l := List.dropWhile_cons_of_neg (by simpa using hcr)
          change scanMcs (dropReturns _) = scanMcs _
          rw [hdrop]
        rw [List.dropWhile_cons_of_neg hkeep, hlines]
        cases ls with
        | nil => rfl
        | cons l' ls =>
          rw [List.dropLast_cons_of_ne_nil (List.cons_ne_nil _ _), TableFormat.users, ← hrow,
            filterMap_cons_eq]

/-- **The loop over the MCS lines** stores the users of the terminated lines. -/
theorem mcsLoop_eq (s : CStr) : ∀ {rows : List McsEntry}, rows.length ≤ 256 →
    mcsLoop rows s = (rows ++ mcsFormat.users (textLines s).dropLast).take 256 := by
  induction hs : s.length using Nat.strongRecOn generalizing s with
  | _ m ih =>
    intro rows hrows
    rw [mcsLoop]
    by_cases hnl : '\n' ∈ s
    · obtain ⟨l, t, rfl, hl⟩ := List.eq_append_cons_of_mem hnl
      have hnext := nextLine_line hl t
      have hlt := length_skipped hnext
      split
      · rename_i heq
        rw [hnext] at heq
        cases heq
      · rename_i line rest heq
        rw [hnext] at heq
        obtain ⟨rfl, rfl⟩ := Prod.mk.inj (Option.some.inj heq)
        rw [ih _ (hs ▸ hlt) _ rfl (length_storeRow hrows _), store_then hrows, users_skipped,
          dropLast_textLines hl]
        rfl
    · have hnone := nextLine_last hnl
      split
      · rw [textLines_last hnl, List.dropLast_singleton, TableFormat.users, List.append_nil,
          List.take_of_length_le hrows]
      · rename_i line rest heq
        rw [hnone] at heq
        cases heq

/-- The rows behind the mark are the users of its format. -/
theorem mcsRows_eq (s : CStr) : mcsLoop [] s = (mcsFormat.users (textLines s).dropLast).take 256 :=
  mcsLoop_eq s (Nat.zero_le _)

/-- A line of blanks has no user. -/
theorem scanRssi_blank {l : CStr} (h : l.dropWhile (fun c => c == ' ' || c == '\t') = []) :
    scanRssi l = none := by
  have hall := List.dropWhile_eq_nil_iff.mp h
  have hspace : l.dropWhile isspace = [] := by
    refine List.dropWhile_eq_nil_iff.mpr fun c hc => ?_
    have hblank := hall c hc
    simp only [Bool.or_eq_true, beq_iff_eq] at hblank
    rcases hblank with rfl | rfl
    · rfl
    · rfl
  unfold scanRssi scanInts strtol
  rw [hspace]
  rfl

/-- **The loop over the RSSI lines** stores the users of the terminated lines. -/
theorem rssiLoop_eq (s : CStr) : ∀ {rows : List RssiUserInfo}, rows.length ≤ 256 →
    rssiLoop rows s = (rows ++ (textLines s).dropLast.filterMap scanRssi).take 256 := by
  induction hs : s.length using Nat.strongRecOn generalizing s with
  | _ m ih =>
    intro rows hrows
    rw [rssiLoop]
    by_cases hnl : '\n' ∈ s
    · obtain ⟨l, t, rfl, hl⟩ := List.eq_append_cons_of_mem hnl
      have hnext := nextLine_line hl t
      have hlt := length_nextLine hnext
      split
      · rename_i heq
        rw [hnext] at heq
        cases heq
      · rename_i line rest heq
        rw [hnext] at heq
        obtain ⟨rfl, rfl⟩ := Prod.mk.inj (Option.some.inj heq)
        rw [dropLast_textLines hl, filterMap_cons_eq]
        split_ifs with hblank
        · rw [ih _ (hs ▸ hlt) _ rfl hrows, scanRssi_blank hblank]
          rfl
        · rw [ih _ (hs ▸ hlt) _ rfl (length_storeRow hrows _), store_then hrows]
    · have hnone := nextLine_last hnl
      split
      · rw [textLines_last hnl, List.dropLast_singleton, List.filterMap_nil, List.append_nil,
          List.take_of_length_le hrows]
      · rename_i line rest heq
        rw [hnone] at heq
        cases heq

theorem rssiRows_eq (s : CStr) : rssiRows s = (rssiFormat.users (textLines s).dropLast).take 256 := by
  unfold rssiRows
  by_cases hnl : '\n' ∈ s
  · obtain ⟨l, t, rfl, hl⟩ := List.eq_append_cons_of_mem hnl
    rw [nextLine_line hl t, dropLast_textLines hl]
    exact rssiLoop_eq t (Nat.zero_le _)
  · rw [nextLine_last hnl, textLines_last hnl]
    dsimp only
    rw [rssiLoop_eq s (Nat.zero_le _), textLines_last hnl]
    rfl

/-! ### What is collected -/

theorem newline_not_mem_mark : '\n' ∉ succMark := by decide

theorem behindMark_suffix {s rest : CStr} (h : behindMark s = some rest) : rest <:+ s := by
  obtain ⟨pre, -, rfl⟩ := Option.map_eq_some_iff.mp h
  exact List.drop_suffix _ s

/-- The mark is in the first line, or in the text behind it. -/
theorem behindMark_line (l t : CStr) : behindMark (l ++ '\n' :: t) =
    ((behindMark l).map (· ++ '\n' :: t)).or (behindMark t) := by
  unfold behindMark
  rw [strstr_split (by decide) newline_not_mem_mark t l]
  cases hl : strstr succMark l with
  | some pre =>
    obtain ⟨rest, rfl⟩ := eq_append_of_strstr hl
    have hlen : pre.length + succMark.length ≤ (pre ++ (succMark ++ rest)).length := by
      rw [List.length_append, List.length_append]
      omega
    rw [Option.some_or, Option.map_some, Option.map_some, Option.map_some, Option.some_or,
      List.drop_append_of_le_length hlen]
  | none =>
    cases strstr succMark t with
    | none => rfl
    | some pre =>
      have hdrop : (l ++ '\n' :: t).drop ((l ++ '\n' :: pre).length + succMark.length) =
          t.drop (pre.length + succMark.length) := by
        have hfront : l ++ '\n' :: t = (l ++ ['\n']) ++ t := by simp
        have hlen : (l ++ '\n' :: pre).length + succMark.length =
            (l ++ ['\n']).length + (pre.length + succMark.length) := by
          simp only [List.length_append, List.length_cons, List.length_nil]
          omega
        rw [hfront, hlen, List.drop_length_add_append]
      simp only [Option.none_or, Option.map_some, Option.map_none, hdrop]

theorem behindLines_some {l rest : CStr} (h : behindMark l = some rest) (ls : List CStr) :
    behindLines (l :: ls) = rest :: ls := by
  rw [behindLines, h]

theorem behindLines_none {l : CStr} (h : behindMark l = none) (ls : List CStr) :
    behindLines (l :: ls) = behindLines ls := by
  rw [behindLines, h]

/-- **The lines from the mark on** are the lines of what is behind it. -/
theorem behindLines_textLines (s : CStr) :
    behindLines (textLines s) = ((behindMark s).map textLines).getD [] := by
  induction s using lines_induction with
  | last l hl =>
    rw [textLines_last hl]
    cases hmark : behindMark l with
    | none => exact behindLines_none hmark []
    | some rest =>
      have hrest : '\n' ∉ rest := fun h => hl ((behindMark_suffix hmark).subset h)
      rw [behindLines_some hmark, Option.map_some, textLines_last hrest]
      rfl
  | line l t hl ih =>
    rw [textLines_line hl, behindMark_line]
    cases hmark : behindMark l with
    | none =>
      rw [behindLines_none hmark]
      exact ih
    | some rest =>
      have hrest : '\n' ∉ rest := fun h => hl ((behindMark_suffix hmark).subset h)
      rw [behindLines_some hmark, Option.map_some, Option.some_or, Option.map_some, textLines_line hrest]
      rfl

/-- The lines that are terminated and fit, in order. -/
def fittingLines (output : CStr) : List CStr :=
  ((markLines 0 (textLines output)).filter Prod.snd).map Prod.fst

theorem markLines_cons (total : ℕ) (l : CStr) {ls : List CStr} (h : ls ≠ []) :
    markLines total (l :: ls) =
      if total + (l.length + 1) < 1023 then (l, true) :: markLines (total + (l.length + 1)) ls
      else (l, false) :: markLines total ls := by
  obtain ⟨l', ls', rfl⟩ := List.exists_cons_of_ne_nil h
  rfl

/-- The lines are all marked. -/
theorem map_fst_markLines : ∀ (ls : List CStr) (total : ℕ), (markLines total ls).map Prod.fst = ls
  | [], _ => rfl
  | [_], _ => rfl
  | l :: l' :: ls, total => by
    rw [markLines_cons total l (List.cons_ne_nil _ _)]
    split_ifs with hfits
    · rw [List.map_cons, map_fst_markLines]
    · rw [List.map_cons, map_fst_markLines]

/-- One more piece for the buffer. -/
def keepPiece (out piece : CStr) : CStr :=
  if out.length + piece.length < 1023 then out ++ piece else out

/-- **Lines that fit the array of `fgets`** are collected as they are marked. -/
theorem collect_short {s : CStr} (hnul : nul ∉ s) (hshort : ∀ l ∈ textLines s, l.length < 255) :
    ∀ out : CStr, ∃ last, '\n' ∉ last ∧ (fgetsLines 256 s).foldl keepPiece out =
      out ++ ((((markLines out.length (textLines s)).filter Prod.snd).map Prod.fst).map
        (· ++ ['\n'])).flatten ++ last := by
  induction s using lines_induction with
  | last l hl =>
    intro out
    rw [textLines_last hl] at hshort ⊢
    have hlen := hshort l (List.mem_singleton_self l)
    have hmarks : (((markLines out.length [l]).filter Prod.snd).map Prod.fst).map (· ++ ['\n']) =
        ([] : List CStr) := rfl
    by_cases hempty : l = []
    · subst hempty
      exact ⟨[], List.not_mem_nil, by rw [hmarks]; simp [fgetsLines, fgetsAll, fgetsFrom]⟩
    · have hpieces : fgetsLines 256 l = [l] := by
        rw [fgetsLines, fgetsAll_open hl hempty (Nat.le_of_lt hlen), List.map_singleton,
          cstr_of_noNul hnul]
      rw [hpieces, hmarks, List.foldl_cons, List.foldl_nil, keepPiece, List.flatten_nil, List.append_nil]
      split_ifs with hfits
      · exact ⟨l, hl, rfl⟩
      · exact ⟨[], List.not_mem_nil, (List.append_nil out).symm⟩
  | line l t hl ih =>
    intro out
    have hnul' : nul ∉ l ++ ['\n'] ∧ nul ∉ t := by
      simp only [List.mem_append, List.mem_cons, not_or] at hnul ⊢
      exact ⟨⟨hnul.1, hnul.2.1, List.not_mem_nil⟩, hnul.2.2⟩
    rw [textLines_line hl] at hshort ⊢
    have hlen := hshort l List.mem_cons_self
    have ih := ih hnul'.2 fun l' hl' => hshort l' (List.mem_cons_of_mem _ hl')
    have hpieces : fgetsLines 256 (l ++ '\n' :: t) = (l ++ ['\n']) :: fgetsLines 256 t := by
      have hfirst := fgetsFrom_line (n := 255) (s := t) hl hlen
      rw [fgetsLines, fgetsAll, hfirst, List.map_cons, cstr_of_noNul hnul'.1]
      rfl
    have hpiece : (l ++ ['\n']).length = l.length + 1 := List.length_append
    rw [hpieces, List.foldl_cons, keepPiece, hpiece, markLines_cons _ _ (textLines_ne_nil t)]
    split_ifs with hfits
    · obtain ⟨last, hlast, heq⟩ := ih (out ++ (l ++ ['\n']))
      rw [List.length_append, hpiece] at heq
      refine ⟨last, hlast, heq.trans ?_⟩
      simp
    · exact ih out

/-- Pieces that fit together are all collected. -/
theorem foldl_keepPiece_fits : ∀ {pieces : List CStr} {out : CStr},
    out.length + pieces.flatten.length < 1023 → pieces.foldl keepPiece out = out ++ pieces.flatten
  | [], out, _ => (List.append_nil out).symm
  | p :: ps, out, h => by
    rw [List.flatten_cons, List.length_append] at h
    have hfits : out.length + p.length < 1023 := by omega
    have hrest : (out ++ p).length + ps.flatten.length < 1023 := by
      rw [List.length_append]
      omega
    rw [List.foldl_cons, keepPiece, if_pos hfits, foldl_keepPiece_fits hrest, List.flatten_cons,
      List.append_assoc]

theorem driverBuffer_small {s : CStr} (hnul : nul ∉ s) (h : s.length < 1023) : driverBuffer s = s := by
  have hpieces : fgetsLines 256 s = fgetsAll 255 s := by
    have hself : ∀ p ∈ fgetsAll 255 s, cstr p = id p := by
      intro p hp
      refine cstr_of_noNul fun hmem => hnul ?_
      rw [← flatten_fgetsAll 255 s]
      exact List.mem_flatten.mpr ⟨p, hp, hmem⟩
    exact (List.map_congr_left hself).trans (List.map_id _)
  change (fgetsLines 256 s).foldl keepPiece [] = s
  rw [hpieces, foldl_keepPiece_fits, flatten_fgetsAll]
  · rfl
  · rw [flatten_fgetsAll, List.length_nil, Nat.zero_add]
    exact h

/-- In an output that fits, every terminated line does. -/
theorem marked_small {s : CStr} : ∀ {total : ℕ}, total + s.length < 1023 →
    ((markLines total (textLines s)).filter Prod.snd).map Prod.fst = (textLines s).dropLast := by
  induction s using lines_induction with
  | last l hl =>
    intro total _
    rw [textLines_last hl]
    rfl
  | line l t hl ih =>
    intro total h
    rw [List.length_append, List.length_cons] at h
    have hfits : total + (l.length + 1) < 1023 := by omega
    rw [dropLast_textLines hl, textLines_line hl, markLines_cons _ _ (textLines_ne_nil t), if_pos hfits,
      List.filter_cons_of_pos rfl, List.map_cons, ih (by omega)]

/-- **Of an output whose lines are collected as a whole** the terminated lines
that fit are kept. -/
theorem terminated_kept {s : CStr} (hnul : nul ∉ s)
    (h : (∀ l ∈ textLines s, l.length < 255) ∨ s.length < 1023) :
    (textLines (driverBuffer s)).dropLast = fittingLines s := by
  rcases h with hshort | hsmall
  · obtain ⟨last, hlast, heq⟩ := collect_short hnul hshort []
    have hlines : ∀ l ∈ fittingLines s, '\n' ∉ l := by
      intro l hl
      obtain ⟨x, hx, rfl⟩ := List.mem_map.mp hl
      have hmem := List.mem_map_of_mem (f := Prod.fst) (List.mem_filter.mp hx).1
      rw [map_fst_markLines] at hmem
      exact newline_not_mem_line hmem
    have hbuffer : driverBuffer s = ((fittingLines s).map (· ++ ['\n'])).flatten ++ last := heq
    rw [hbuffer, textLines_terminated hlast hlines, List.dropLast_concat]
  · rw [driverBuffer_small hnul hsmall]
    exact (marked_small (by rw [Nat.zero_add]; exact hsmall)).symm

/-! ### The table -/

section

variable {ρ : Type} {fmt : TableFormat ρ} {output : CStr}

/-- The users the reader gets to see. -/
def TableFormat.seen (fmt : TableFormat ρ) (output : CStr) : List ρ :=
  fmt.users (behindLines (textLines (driverBuffer output)).dropLast)

/-- Without its last line a table has no other users than its terminated lines have. -/
theorem users_dropLast (fmt : TableFormat ρ) : ∀ ls : List CStr,
    fmt.users (behindLines ls).dropLast = fmt.users (behindLines ls.dropLast)
  | [] => rfl
  | [l] => by
    rw [behindLines]
    cases behindMark l with
    | none => rfl
    | some rest => rfl
  | l :: l' :: ls => by
    rw [List.dropLast_cons_of_ne_nil (List.cons_ne_nil _ _)]
    cases hmark : behindMark l with
    | none => rw [behindLines_none hmark, behindLines_none hmark, users_dropLast fmt (l' :: ls)]
    | some rest =>
      rw [behindLines_some hmark, behindLines_some hmark,
        List.dropLast_cons_of_ne_nil (List.cons_ne_nil _ _)]

theorem seen_behindMark (fmt : TableFormat ρ) (output : CStr) :
    fmt.seen output = ((behindMark (driverBuffer output)).map fun pos =>
      fmt.users (textLines pos).dropLast).getD [] := by
  rw [TableFormat.seen, ← users_dropLast, behindLines_textLines]
  cases behindMark (driverBuffer output) with
  | none => rfl
  | some pos => rfl

/-- A user takes five characters of a table. -/
theorem length_users (fmt : TableFormat ρ) : ∀ ls : List CStr,
    (fmt.users ls).length * 5 ≤ ((ls.map (· ++ ['\n'])).flatten).length := by
  have hrow : ∀ {f : CStr → Option ρ} (l : CStr), (∀ l, f l ≠ none → 4 ≤ l.length) →
      (f l).toList.length * 5 ≤ (l ++ ['\n']).length := by
    intro f l hlong
    rw [List.length_append, List.length_singleton]
    have hlen := hlong l
    cases hf : f l with
    | none => exact Nat.zero_le _
    | some r =>
      have hle := hlen (by rw [hf]; exact Option.some_ne_none r)
      rw [Option.toList_some, List.length_singleton]
      omega
  have hrows : ∀ ls : List CStr,
      (ls.filterMap fmt.row).length * 5 ≤ ((ls.map (· ++ ['\n'])).flatten).length := by
    intro ls
    induction ls with
    | nil => exact Nat.zero_le _
    | cons l ls ih =>
      have hl := hrow l fmt.row_long
      rw [filterMap_cons_eq, List.map_cons, List.flatten_cons, List.length_append, List.length_append]
      omega
  intro ls
  cases ls with
  | nil => exact Nat.zero_le _
  | cons l ls =>
    have hl := hrow l fmt.first_long
    have hls := hrows ls
    rw [TableFormat.users, List.map_cons, List.flatten_cons, List.length_append, List.length_append]
    omega

/-- The buffer has the pieces that fit. -/
theorem driverBuffer_eq (output : CStr) :
    driverBuffer output = (fittingPieces 0 ((fgetsAll 255 output).map cstr)).flatten := by
  suffices h : ∀ (pieces : List CStr) (out : CStr),
      pieces.foldl keepPiece out = out ++ (fittingPieces out.length pieces).flatten from h _ []
  intro pieces
  induction pieces with
  | nil => exact fun out => (List.append_nil out).symm
  | cons p ps ih =>
    intro out
    rw [List.foldl_cons, ih, keepPiece, fittingPieces]
    split_ifs with hfits
    · rw [List.length_append, List.flatten_cons, List.append_assoc]
    · rfl

theorem length_driverBuffer (output : CStr) : (driverBuffer output).length < 1023 := by
  suffices h : ∀ (pieces : List CStr) {out : CStr}, out.length < 1023 →
      (pieces.foldl keepPiece out).length < 1023 from h _ (by decide)
  intro pieces
  induction pieces with
  | nil => exact fun h => h
  | cons p ps ih =>
    intro out hout
    rw [List.foldl_cons]
    refine ih ?_
    rw [keepPiece]
    split_ifs with hfits
    · rwa [List.length_append]
    · exact hout

/-- The reader never sees as many users as it has room for. -/
theorem length_seen (fmt : TableFormat ρ) (output : CStr) : (fmt.seen output).length < 256 := by
  have hbuffer := length_driverBuffer output
  rw [seen_behindMark]
  cases hmark : behindMark (driverBuffer output) with
  | none => exact Nat.zero_lt_succ _
  | some pos =>
    have husers := length_users fmt (textLines pos).dropLast
    have hlines := length_terminated pos
    have hpos := (behindMark_suffix hmark).length_le
    change (fmt.users (textLines pos).dropLast).length < 256
    omega

/-- The table is what the reader sees. -/
theorem driverTable_eq (fmt : TableFormat ρ) (zero : ρ) {parse : CStr → List ρ}
    (hparse : ∀ pos, parse pos = (fmt.users (textLines pos).dropLast).take 256) (output : CStr) :
    driverTable zero parse output =
      (if fmt.seen output = [] then -1 else 0,
        ⟨(fmt.seen output).length,
          fmt.seen output ++ List.replicate (256 - (fmt.seen output).length) zero⟩) := by
  have hlen := length_seen fmt output
  have hseen := seen_behindMark fmt output
  unfold driverTable
  cases hmark : behindMark (driverBuffer output) with
  | none =>
    rw [hmark] at hseen
    rw [hseen]
    rfl
  | some pos =>
    rw [hmark, Option.map_some, Option.getD_some] at hseen
    have hrows : parse pos = fmt.seen output := by
      rw [hparse, hseen, List.take_of_length_le]
      rw [← hseen]
      exact Nat.le_of_lt hlen
    dsimp only
    rw [hrows]
    simp only [List.length_eq_zero_iff]

/-- **The table is complete** if and only if the reader sees all users. -/
theorem driverTable_seen_iff (fmt : TableFormat ρ) (zero : ρ) {parse : CStr → List ρ}
    (hparse : ∀ pos, parse pos = (fmt.users (textLines pos).dropLast).take 256) (output : CStr)
    (users : List ρ) :
    TableRight users (driverTable zero parse output) ↔ fmt.seen output = users := by
  have hlen := length_seen fmt output
  rw [driverTable_eq fmt zero hparse]
  constructor
  · intro h
    have hcount : (fmt.seen output).length = min users.length 256 := h.count
    have hstored := h.stored
    dsimp only at hstored
    rw [List.take_left, List.take_of_length_le (by omega)] at hstored
    exact hstored
  · rintro rfl
    refine ⟨?_, ?_, rfl⟩
    · dsimp only
      omega
    · dsimp only
      rw [List.take_left, List.take_of_length_le (Nat.le_of_lt hlen)]

/-! ### The condition -/

/-- The lines that are terminated and fit. -/
theorem fitting_cons (l : CStr) (fits : Bool) (ls : List (CStr × Bool)) :
    (((l, fits) :: ls).filter Prod.snd).map Prod.fst =
      (if fits = true then [l] else []) ++ (ls.filter Prod.snd).map Prod.fst := by
  cases fits with
  | true => rfl
  | false => rfl

theorem behindLines_unmarked : ∀ {M : List (CStr × Bool)}, markAt M = none →
    behindLines (M.map Prod.fst) = [] ∧ behindLines ((M.filter Prod.snd).map Prod.fst) = []
  | [], _ => ⟨rfl, rfl⟩
  | (l, fits) :: ls, h => by
    rw [markAt] at h
    cases hmark : behindMark l with
    | some rest =>
      rw [hmark] at h
      cases h
    | none =>
      rw [hmark] at h
      obtain ⟨hall, hkept⟩ := behindLines_unmarked h
      refine ⟨(behindLines_none hmark _).trans hall, ?_⟩
      rw [fitting_cons]
      split_ifs with hfits
      · exact (behindLines_none hmark _).trans hkept
      · exact hkept

/-- The lines from the mark on, of all and of those that fit. -/
theorem behindLines_marked {rest : CStr} {fits : Bool} {post : List (CStr × Bool)} :
    ∀ {M : List (CStr × Bool)}, markAt M = some (rest, fits, post) →
      behindLines (M.map Prod.fst) = rest :: post.map Prod.fst ∧
      behindLines ((M.filter Prod.snd).map Prod.fst) =
        if fits = true then rest :: (post.filter Prod.snd).map Prod.fst
        else behindLines ((post.filter Prod.snd).map Prod.fst)
  | (l, b) :: ls, h => by
    rw [markAt] at h
    cases hmark : behindMark l with
    | some rest' =>
      rw [hmark] at h
      obtain ⟨rfl, rfl, rfl⟩ : rest' = rest ∧ b = fits ∧ ls = post := by simpa using h
      refine ⟨behindLines_some hmark _, ?_⟩
      rw [fitting_cons]
      split_ifs with hfits
      · exact behindLines_some hmark _
      · rfl
    | none =>
      rw [hmark] at h
      obtain ⟨hall, hkept⟩ := behindLines_marked h
      refine ⟨(behindLines_none hmark _).trans hall, ?_⟩
      rw [fitting_cons, ← hkept]
      cases b with
      | true => exact behindLines_none hmark _
      | false => rfl

/-- The users of the lines that fit are all users if each user's line fits. -/
theorem rows_kept_iff (row : CStr → Option ρ) (post : List (CStr × Bool)) :
    ((post.filter Prod.snd).map Prod.fst).filterMap row = (post.map Prod.fst).filterMap row ↔
      ∀ x ∈ post, row x.1 ≠ none → x.2 = true := by
  induction post with
  | nil => exact iff_of_true rfl fun x hx => absurd hx List.not_mem_nil
  | cons x post ih =>
    obtain ⟨l, fits⟩ := x
    have hsub : (((post.filter Prod.snd).map Prod.fst).filterMap row).length ≤
        ((post.map Prod.fst).filterMap row).length :=
      ((List.filter_sublist.map _).filterMap _).length_le
    rw [fitting_cons, List.forall_mem_cons, ← ih, List.map_cons, List.filterMap_append, filterMap_cons_eq]
    cases fits with
    | true =>
      rw [if_pos rfl, filterMap_cons_eq, List.filterMap_nil, List.append_nil, List.append_cancel_left_eq]
      exact (and_iff_right fun _ => rfl).symm
    | false =>
      rw [if_neg Bool.false_ne_true, List.filterMap_nil, List.nil_append]
      cases row l with
      | none =>
        rw [Option.toList_none, List.nil_append]
        exact (and_iff_right fun h => absurd rfl h).symm
      | some r =>
        refine iff_of_false (fun h => ?_) fun h => Bool.false_ne_true (h.1 (Option.some_ne_none r))
        have hlen := congrArg List.length h
        rw [List.length_append, Option.toList_some, List.length_singleton] at hlen
        omega

/-- **Of an output whose lines are collected as a whole** the reader sees all
users if and only if every user's line is terminated and fits. -/
theorem seen_plain_iff (fmt : TableFormat ρ) (h : PlainOutput output) :
    fmt.seen output = fmt.usersOf output ↔ UserLinesFit fmt output := by
  have hlines : (markLines 0 (textLines output)).map Prod.fst = textLines output :=
    map_fst_markLines _ 0
  have hseen : fmt.seen output =
      fmt.users (behindLines (((markLines 0 (textLines output)).filter Prod.snd).map Prod.fst)) := by
    rw [TableFormat.seen, terminated_kept h.text h.lines]
    rfl
  rw [hseen, TableFormat.usersOf, ← hlines]
  unfold UserLinesFit
  rw [hlines]
  cases hmark : markAt (markLines 0 (textLines output)) with
  | none =>
    obtain ⟨hall, hkept⟩ := behindLines_unmarked hmark
    rw [hlines] at hall
    rw [hall, hkept]
    exact iff_of_true rfl fun rest fits post heq => nomatch heq
  | some p =>
    obtain ⟨rest, fits, post⟩ := p
    obtain ⟨hall, hkept⟩ := behindLines_marked hmark
    rw [hlines] at hall
    have hcond : (∀ rest' fits' post', some (rest, fits, post) = some (rest', fits', post') →
        (fmt.first rest' ≠ none → fits' = true) ∧ ∀ x ∈ post', fmt.row x.1 ≠ none → x.2 = true) ↔
        (fmt.first rest ≠ none → fits = true) ∧ ∀ x ∈ post, fmt.row x.1 ≠ none → x.2 = true := by
      constructor
      · intro hcond
        exact hcond rest fits post rfl
      · rintro hcond _ _ _ ⟨⟩
        exact hcond
    rw [hall, hkept, hcond, TableFormat.users]
    cases fits with
    | true =>
      rw [if_pos rfl, TableFormat.users, List.append_cancel_left_eq, rows_kept_iff]
      simp
    | false =>
      obtain hfalse | rfl := h.mark rest false post hmark
      · cases hfalse
      · -- the mark is in the last line, which is not terminated
        cases fmt.first rest with
        | none => simp [behindLines, TableFormat.users]
        | some r => simp [behindLines, TableFormat.users]

/-- **The condition is exact** for a reader of the format. -/
theorem driverTable_right_iff (fmt : TableFormat ρ) (zero : ρ) {parse : CStr → List ρ}
    (hparse : ∀ pos, parse pos = (fmt.users (textLines pos).dropLast).take 256) (output : CStr) :
    TableRight (fmt.usersOf output) (driverTable zero parse output) ↔ OutputOk fmt output := by
  have hpieces : PiecesFit fmt output (fittingPieces 0 ((fgetsAll 255 output).map cstr)) ↔
      fmt.seen output = fmt.usersOf output := by
    rw [PiecesFit, ← driverBuffer_eq]
    rfl
  rw [driverTable_seen_iff fmt zero hparse]
  constructor
  · intro h
    exact ⟨fun hplain => (seen_plain_iff fmt hplain).mp h, fun _ => hpieces.mpr h⟩
  · intro h
    by_cases hplain : PlainOutput output
    · exact (seen_plain_iff fmt hplain).mpr (h.plain hplain)
    · exact hpieces.mp (h.other hplain)

end

/-- The name of a device: not empty, and not too long. -/
structure DevName where
  name : CStr
  nonempty : name ≠ []
  fits : name.length ≤ maxDeviceNameLen

/-- **The tables of the driver are complete**, whatever it prints, exactly
under the condition. -/
theorem driverTables_right_iff (print : CStr → CStr) (dev : DevName) (mcsData : DriverTable McsEntry)
    (rssiData : DriverTable RssiUserInfo) :
    (TableRight (mcsFormat.usersOf (print (viewMcsCmd dev.name)))
        (slbGetViewMcsInfo (fun cmd => some (print cmd)) dev.name mcsData) ↔
      OutputOk mcsFormat (print (viewMcsCmd dev.name))) ∧
    (TableRight (rssiFormat.usersOf (print (getRssiCmd dev.name)))
        (slbGetRssiInfo (fun cmd => some (print cmd)) dev.name rssiData) ↔
      OutputOk rssiFormat (print (getRssiCmd dev.name))) := by
  have hname : ¬ (dev.name = [] ∨ maxDeviceNameLen < dev.name.length) := by
    rintro (h | h)
    · exact dev.nonempty h
    · exact absurd h (Nat.not_lt.mpr dev.fits)
  unfold slbGetViewMcsInfo slbGetRssiInfo driverReader
  rw [if_neg hname, if_neg hname]
  exact ⟨driverTable_right_iff mcsFormat _ mcsRows_eq _, driverTable_right_iff rssiFormat _ rssiRows_eq _⟩

/-- One user, whose line is not terminated. -/
def openMcsTable : CStr := "[SUCC]\nuser=1:ul_mcs=12, dl_mcs=9".toList

/-- Two users behind the header, the second one in a line that is not terminated. -/
def openRssiTable : CStr := "[SUCC]user_idx rssi rsrp snr\n1 -50 -60 20\n2 -51 -61 21".toList

/-- The last user is lost if the output does not end in a newline. -/
theorem driverTables_wrong :
    mcsFormat.usersOf openMcsTable = [⟨1, 12, 9⟩] ∧
    (slbGetViewMcsInfo (fun _ => some openMcsTable) "vap0".toList ⟨0, []⟩).1 = -1 ∧
    ¬ TableRight (mcsFormat.usersOf openMcsTable)
      (slbGetViewMcsInfo (fun _ => some openMcsTable) "vap0".toList ⟨0, []⟩) ∧
    rssiFormat.usersOf openRssiTable = [⟨1, -50, -60, 20⟩, ⟨2, -51, -61, 21⟩] ∧
    (slbGetRssiInfo (fun _ => some openRssiTable) "vap0".toList ⟨0, []⟩).2.count = 1 ∧
    ¬ TableRight (rssiFormat.usersOf openRssiTable)
      (slbGetRssiInfo (fun _ => some openRssiTable) "vap0".toList ⟨0, []⟩) := by
  have hmcs : mcsFormat.usersOf openMcsTable = [⟨1, 12, 9⟩] := by decide
  have hrssi : rssiFormat.usersOf openRssiTable = [⟨1, -50, -60, 20⟩, ⟨2, -51, -61, 21⟩] := by decide
  have hnone : mcsFormat.seen openMcsTable = [] := by decide
  have hone : rssiFormat.seen openRssiTable = [⟨1, -50, -60, 20⟩] := by decide
  have hmcsTable : slbGetViewMcsInfo (fun _ => some openMcsTable) "vap0".toList ⟨0, []⟩ =
      driverTable ⟨0, 0, 0⟩ (mcsLoop []) openMcsTable := rfl
  have hrssiTable : slbGetRssiInfo (fun _ => some openRssiTable) "vap0".toList ⟨0, []⟩ =
      driverTable ⟨0, 0, 0, 0⟩ rssiRows openRssiTable := rfl
  rw [hmcsTable, hrssiTable, driverTable_seen_iff mcsFormat _ mcsRows_eq,
    driverTable_seen_iff rssiFormat _ rssiRows_eq, driverTable_eq mcsFormat _ mcsRows_eq,
    driverTable_eq rssiFormat _ rssiRows_eq, hmcs, hrssi, hnone, hone]
  decide

end WtslCore
