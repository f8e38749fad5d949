/-
# The tables of a trace

For a trace the driver prints a status in brackets and a line for each row of
the feature's table: the row's label, and its numbers or its word. The lines
come in pieces of 127 characters, each is scanned for the status, the
milliseconds and the labels in turn, and the line of the last label ends it.

What is answered is the table that was printed, whatever the order of its
rows, with other lines between them and rows left out: of every row what was
printed for it last, up to the first line of the last label, and zeros for a
row that was not printed (`trace_reads`). Only `mcs` can end without an
answer: its milliseconds are logged as a string.

Key definitions: `TraceCells`, `TraceLine`, `TraceLine.Fits`, `TraceFeature.read`,
`latest`, `TraceFeature.table`.
Key theorems: `scanRows_row`, `scan_lines`, `trace_reads`.
-/
import WtslCore.Lib.Scanf
import WtslCore.Node.Queries

namespace WtslCore

open Noted Scanf

/-! ### What the driver prints -/

/-- What is printed behind a label. -/
inductive TraceCells
  | numbers (vs : List Int32)
  | word (w : CStr)

/-- The cells in the variables of a trace. -/
def TraceCells.value : TraceCells → TraceValue
  | .numbers vs => .numbers (vs.map Int32.toInt)
  | .word w => .word w

/-- A line of a report: a status in brackets, the milliseconds, the row of a
label, and anything else. -/
inductive TraceLine
  | status (before word after : CStr)
  | msec (v : Int32) (text : CStr)
  | row (label : String) (cells : TraceCells) (text : CStr)
  | other (text : CStr)

/-- The line without its newline. -/
def TraceLine.text : TraceLine → CStr
  | .status before word after => before ++ '[' :: (word ++ ']' :: after)
  | .msec _ text => "msec:".toList ++ text
  | .row label _ text => label.toList ++ text
  | .other text => text

/-- The line as it is read. -/
def TraceLine.line (l : TraceLine) : CStr := l.text ++ ['\n']

/-- The output of the command. -/
def reportText (report : List TraceLine) : CStr := (report.map TraceLine.line).flatten

/-- What is behind a label are the cells, of the kind and the number that are traced. -/
def TraceCells.Spelled (text : CStr) : TraceCells → TraceValue → Prop
  | .numbers vs, .numbers zeros =>
    vs.length = zeros.length ∧ Spells (List.replicate vs.length .int) vs text
  | .word w, .word _ =>
    w ≠ [] ∧ (∀ c ∈ w, isspace c = false) ∧ w.length < 16 ∧
      ∃ b rest, Blanks b ∧ text = b ++ (w ++ rest) ∧ ∃ c ∈ rest.head?, isspace c = true
  | _, _ => False

/-- The line is taken for one of the label. -/
def TraceFeature.Shows (t : TraceFeature) (label : String) (line : CStr) : Prop :=
  if t.byLabel then label.toList <:+: line else label.toList <+: line

instance (t : TraceFeature) (label : String) (line : CStr) : Decidable (t.Shows label line) :=
  inferInstanceAs (Decidable (if t.byLabel then label.toList <:+: line else label.toList <+: line))

/-- The line is printed for the feature, and read in one piece. -/
structure TraceLine.Fits (t : TraceFeature) (l : TraceLine) : Prop where
  short : l.text.length < 127
  oneLine : '\n' ∉ l.text
  noNul : nul ∉ l.text
  kind : match l with
    | .status before word _ =>
      before ≠ [] ∧ '[' ∉ before ∧ word ≠ [] ∧ ']' ∉ word ∧ word.length < t.statusSize
    | .msec v text => t.msec = true ∧ '[' ∉ text ∧ Spells [.int] [v] (text ++ ['\n'])
    | .row label cells text =>
      '[' ∉ text ∧ (∃ value, (label, value) ∈ t.rows ∧ cells.Spelled (text ++ ['\n']) value) ∧
        ∀ row ∈ t.rows, row.1 ≠ label → ¬ t.Shows row.1 l.line
    | .other text => '[' ∉ text ∧ (t.msec = true → ¬ "msec:".toList <+: text) ∧
        ∀ row ∈ t.rows, ¬ t.Shows row.1 l.line

/-- What the driver prints for a feature that is traced. -/
structure TraceReport where
  feature : CStr
  traced : TraceFeature
  isTraced : traceFeature feature = some traced
  lines : List TraceLine
  fits : ∀ l ∈ lines, l.Fits traced

/-- The device, whose driver prints the report. -/
def OpEnv.printing (env : OpEnv) (r : TraceReport) (status : WaitStatus) : OpEnv :=
  { env with popen := fun _ => some ⟨reportText r.lines, status⟩ }

/-! ### The table -/

/-- The line of the last label. -/
def TraceLine.ends (t : TraceFeature) : TraceLine → Bool
  | .row label _ _ => t.rows.getLast?.map Prod.fst == some label
  | _ => false

/-- The lines that are read. -/
def TraceFeature.read (t : TraceFeature) : List TraceLine → List TraceLine
  | [] => []
  | l :: ls => if l.ends t then [l] else l :: t.read ls

/-- What was printed last. -/
def latest {α : Type} (f : TraceLine → Option α) : List TraceLine → Option α
  | [] => none
  | l :: ls => (latest f ls).or (f l)

def TraceLine.statusOf : TraceLine → Option CStr
  | .status _ word _ => some word
  | _ => none

def TraceLine.msecOf : TraceLine → Option ℤ
  | .msec v _ => some v.toInt
  | _ => none

def TraceLine.cellsOf (label : String) : TraceLine → Option TraceValue
  | .row l cells _ => if l = label then some cells.value else none
  | _ => none

/-- What is printed in the lines, over what there is. -/
def tableOf (ls : List TraceLine) (st : TraceScan) : TraceScan where
  status := (latest TraceLine.statusOf ls).getD st.status
  msec := (latest TraceLine.msecOf ls).getD st.msec
  rows := st.rows.map fun row => (row.1, (latest (TraceLine.cellsOf row.1) ls).getD row.2)

/-- The table of a report. -/
def TraceFeature.table (t : TraceFeature) (report : List TraceLine) : TraceScan :=
  tableOf (t.read report) ⟨[], 0, t.rows⟩

/-- The milliseconds are logged, as a string. -/
def TraceFeature.breaks (t : TraceFeature) (logsInfo : Bool) (report : List TraceLine) : Bool :=
  logsInfo && (t.read report).any fun l => l.msecOf.isSome

variable {t : TraceFeature} {label : String} {line s : CStr} {st : TraceScan}

/-! ### The features -/

/-- There are no columns. -/
def TraceValue.isEmpty : TraceValue → Bool
  | .numbers vs => vs.isEmpty
  | .word _ => false

/-- What the tables of all features have in common. -/
def TraceFeature.Regular (t : TraceFeature) : Prop :=
  (t.rows.map Prod.fst).Nodup ∧
    ∀ row ∈ t.rows, row.2.isEmpty = false ∧ '[' ∉ row.1.toList ∧ row.1.toList.headD 'm' ≠ 'm'

instance : DecidablePred TraceFeature.Regular := fun t =>
  inferInstanceAs (Decidable ((t.rows.map Prod.fst).Nodup ∧
    ∀ row ∈ t.rows, row.2.isEmpty = false ∧ '[' ∉ row.1.toList ∧ row.1.toList.headD 'm' ≠ 'm'))

theorem traceFeatures_regular : ∀ t ∈ traceFeatures, t.Regular := by decide

/-- Values of one kind, and of one number of columns. -/
def TraceValue.Alike : TraceValue → TraceValue → Prop
  | .numbers vs, .numbers ws => vs.length = ws.length
  | .word _, .word _ => True
  | _, _ => False

/-- Rows of the feature, with other values. -/
def LikeRows (rows rows' : List (String × TraceValue)) : Prop :=
  List.Forall₂ (fun r r' => r.1 = r'.1 ∧ r.2.Alike r'.2) rows rows'

theorem TraceValue.Alike.refl : ∀ v : TraceValue, v.Alike v
  | .numbers _ => rfl
  | .word _ => trivial

theorem LikeRows.refl (rows : List (String × TraceValue)) : LikeRows rows rows :=
  List.forall₂_same.mpr fun r _ => ⟨rfl, .refl r.2⟩

theorem LikeRows.map_fst {rows rows' : List (String × TraceValue)} (h : LikeRows rows rows') :
    rows.map Prod.fst = rows'.map Prod.fst := by
  induction h with
  | nil => rfl
  | cons hr _ ih => exact congrArg₂ List.cons hr.1 ih

theorem LikeRows.exists_of_mem {rows rows' : List (String × TraceValue)} (h : LikeRows rows rows') :
    ∀ {row : String × TraceValue}, row ∈ rows →
      ∃ row' ∈ rows', row.1 = row'.1 ∧ row.2.Alike row'.2 := by
  induction h with
  | nil => exact fun hrow => absurd hrow List.not_mem_nil
  | @cons r r' _ _ hr _ ih =>
    intro row hrow
    rcases List.mem_cons.mp hrow with rfl | hrow
    · exact ⟨r', List.mem_cons_self, hr⟩
    · obtain ⟨row', hmem, h⟩ := ih hrow
      exact ⟨row', List.mem_cons_of_mem _ hmem, h⟩

/-! ### A line -/

theorem scanLit_label (label : String) (s : CStr) : scanLit label (label.toList ++ s) = some s := by
  rw [scanLit, if_pos (List.isPrefixOf_iff_prefix.mpr (List.prefix_append _ _)), List.drop_left]

theorem scanLit_none (h : ¬ label.toList <+: line) : scanLit label line = none := by
  rw [scanLit, if_neg fun hpre => h (List.isPrefixOf_iff_prefix.mp hpre)]

theorem scanBracket_none (h : '[' ∉ line) : scanBracket line = none := by
  have hall : line.dropWhile (fun c => c != '[') = [] :=
    List.dropWhile_eq_nil_iff.mpr fun c hc => by simpa using fun heq : c = '[' => h (heq ▸ hc)
  unfold scanBracket
  rw [hall]
  exact if_pos (.inr rfl)

theorem scanBracket_status {before word after : CStr} (hbefore : before ≠ []) (hopen : '[' ∉ before)
    (hword : word ≠ []) (hclose : ']' ∉ word) :
    scanBracket (before ++ '[' :: (word ++ ']' :: after)) = some (word, ']' :: after) := by
  have hdrop : (before ++ '[' :: (word ++ ']' :: after)).dropWhile (fun c => c != '[') =
      '[' :: (word ++ ']' :: after) := by
    have hpos : ∀ c ∈ before, (c != '[') = true := fun c hc => by
      simpa using fun heq : c = '[' => hopen (heq ▸ hc)
    rw [List.dropWhile_append_of_pos hpos, List.dropWhile_cons_of_neg (by simp)]
  have hin : ∀ c ∈ word, (c != ']') = true := fun c hc => by
    simpa using fun heq : c = ']' => hclose (heq ▸ hc)
  have htake : (word ++ ']' :: after).takeWhile (fun c => c != ']') = word := by
    rw [List.takeWhile_append_of_pos hin, List.takeWhile_cons_of_neg (by simp), List.append_nil]
  have hrest : (word ++ ']' :: after).dropWhile (fun c => c != ']') = ']' :: after := by
    rw [List.dropWhile_append_of_pos hin, List.dropWhile_cons_of_neg (by simp)]
  have hpos := List.length_pos_iff.mpr hbefore
  unfold scanBracket
  rw [hdrop]
  simp only [List.tail_cons, htake, hrest]
  rw [if_neg]
  rw [not_or, List.length_append]
  exact ⟨by omega, hword⟩

theorem scanInts_eq_scan : ∀ (n : ℕ) (s : CStr), scanInts n s = scan (List.replicate n .int) s
  | 0, _ => rfl
  | n + 1, s => by
    rw [scanInts, List.replicate_succ, scan]
    cases strtol s with
    | none => rfl
    | some r =>
      obtain ⟨v, u⟩ := r
      exact congrArg (v :: ·) (scanInts_eq_scan n u)

/-- The word behind a label. -/
theorem scanWord_word {b w rest : CStr} (hb : Blanks b) (hne : w ≠ []) (hw : ∀ c ∈ w, isspace c = false)
    (hrest : ∃ c ∈ rest.head?, isspace c = true) : scanWord (b ++ (w ++ rest)) = some (w, rest) := by
  obtain ⟨c, hc, hspace⟩ := hrest
  cases rest with
  | nil => exact nomatch hc
  | cons d rest =>
    obtain rfl : d = c := Option.some.inj hc
    cases w with
    | nil => exact absurd rfl hne
    | cons e w =>
      have he : isspace e = false := hw e List.mem_cons_self
      have hdrop : (b ++ (e :: w ++ d :: rest)).dropWhile isspace = e :: w ++ d :: rest := by
        rw [List.dropWhile_append_of_pos hb, List.cons_append,
          List.dropWhile_cons_of_neg (by rw [he]; exact Bool.false_ne_true)]
      have hpos : ∀ c ∈ e :: w, (!isspace c) = true := fun c hc => by rw [hw c hc]; rfl
      unfold scanWord
      simp only [hdrop]
      rw [if_neg (by simp), List.takeWhile_append_of_pos hpos, List.dropWhile_append_of_pos hpos,
        List.takeWhile_cons_of_neg (by simp [hspace]), List.dropWhile_cons_of_neg (by simp [hspace]),
        List.append_nil]

/-! ### A label -/

/-- A line that is not for the label leaves its row. -/
theorem scan_other {v : TraceValue} (hv : v.isEmpty = false) (h : ¬ t.Shows label line) :
    v.scan t.byLabel label line = some (v, false) := by
  have hlit : scanLit label line = none := by
    refine scanLit_none fun hpre => h ?_
    unfold TraceFeature.Shows
    split_ifs
    · exact hpre.isInfix
    · exact hpre
  cases v with
  | word w => simp [TraceValue.scan, hlit]
  | numbers vs =>
    have hne : (0 == vs.length) = false := by
      cases vs with
      | nil => exact nomatch hv
      | cons _ _ => rfl
    cases hby : t.byLabel with
    | false => simp [TraceValue.scan, hlit, hne]
    | true =>
      have hoccurs : occurs label line = false := by
        rw [TraceFeature.Shows, hby, if_pos rfl] at h
        rw [occurs, ← Bool.not_eq_true, strstr_isSome_iff]
        exact h
      simp [TraceValue.scan, hoccurs]

/-- The row of the label is what the line says. -/
theorem scan_own {cells : TraceCells} {value v : TraceValue} (hcells : cells.Spelled s value)
    (hv : v.Alike value) (byLabel : Bool) :
    v.scan byLabel label (label.toList ++ s) = some (cells.value, true) := by
  cases cells with
  | numbers vs =>
    cases value with
    | word w => exact hcells.elim
    | numbers zeros =>
      cases v with
      | word w => exact hv.elim
      | numbers ws =>
        obtain ⟨hlen, hspells⟩ := hcells
        have hws : ws.length = vs.length := hv.trans hlen.symm
        have hscan : scanInts vs.length s = vs.map Int32.toInt := by
          rw [scanInts_eq_scan, scan_of_spells hspells]
        have hnone : ws.drop vs.length = [] := List.drop_eq_nil_of_le (Nat.le_of_eq hws)
        have hoccurs : occurs label (label.toList ++ s) = true := by
          rw [occurs, strstr_isSome_iff]
          exact (List.prefix_append _ _).isInfix
        simp [TraceValue.scan, scanLit_label, hscan, hoccurs, hws, hnone, TraceCells.value]
  | word w =>
    cases value with
    | numbers zeros => exact hcells.elim
    | word w' =>
      cases v with
      | numbers ws => exact hv.elim
      | word w'' =>
        obtain ⟨hne, hw, hshort, b, rest, hb, rfl, hrest⟩ := hcells
        simp [TraceValue.scan, scanLit_label, scanWord_word hb hne hw hrest, hshort, TraceCells.value]

/-! ### The rows -/

theorem TraceValue.Alike.isEmpty_eq {v w : TraceValue} (h : v.Alike w) : v.isEmpty = w.isEmpty := by
  cases v with
  | word a =>
    cases w with
    | word b => rfl
    | numbers ws => exact h.elim
  | numbers vs =>
    cases w with
    | word b => exact h.elim
    | numbers ws =>
      have hlen : vs.length = ws.length := h
      cases vs <;> cases ws <;> simp_all [TraceValue.isEmpty]

theorem TraceCells.Spelled.alike {cells : TraceCells} {value : TraceValue} (h : cells.Spelled s value) :
    cells.value.Alike value := by
  cases cells with
  | numbers vs =>
    cases value with
    | word w => exact h.elim
    | numbers zeros => exact (List.length_map _).trans h.1
  | word w =>
    cases value with
    | numbers zeros => exact h.elim
    | word w' => trivial

theorem cellsOf_row {l : String} {cells : TraceCells} {text : CStr} :
    (TraceLine.row l cells text).cellsOf label = if l = label then some cells.value else none := rfl

/-- The rows with what a line prints. -/
def putLine (l : TraceLine) (rows : List (String × TraceValue)) : List (String × TraceValue) :=
  rows.map fun row => (row.1, (l.cellsOf row.1).getD row.2)

theorem putLine_none {l : TraceLine} (h : ∀ label, l.cellsOf label = none)
    (rows : List (String × TraceValue)) : putLine l rows = rows := by
  unfold putLine
  simp only [h, Option.getD_none]
  exact List.map_id _

/-- A line that is for no label leaves the rows. -/
theorem scanRows_other : ∀ {rows : List (String × TraceValue)},
    (∀ row ∈ rows, row.2.isEmpty = false ∧ ¬ t.Shows row.1 line) →
      scanRows t.byLabel line rows = some (rows, false)
  | [], _ => rfl
  | (label, v) :: rows, h => by
    obtain ⟨hv, hshows⟩ := h _ List.mem_cons_self
    unfold scanRows
    rw [scan_other hv hshows]
    simp only
    rw [scanRows_other fun row hrow => h row (List.mem_cons_of_mem _ hrow)]
    rfl

theorem putLine_own {cells : TraceCells} (text : CStr) (v : TraceValue) {rows : List (String × TraceValue)}
    (hout : label ∉ rows.map Prod.fst) :
    putLine (.row label cells text) ((label, v) :: rows) = (label, cells.value) :: rows := by
  have hrest : putLine (.row label cells text) rows = rows := by
    refine (List.map_congr_left fun row hrow => ?_).trans (List.map_id rows)
    have hne : label ≠ row.1 := by
      rintro rfl
      exact hout (List.mem_map_of_mem hrow)
    rw [cellsOf_row, if_neg hne]
    rfl
  have hown : (TraceLine.row label cells text).cellsOf label = some cells.value := if_pos rfl
  rw [putLine, List.map_cons, hown]
  exact congrArg ((label, cells.value) :: ·) hrest

theorem putLine_other {cells : TraceCells} (text : CStr) {l : String} (hl : label ≠ l) (v : TraceValue)
    (rows : List (String × TraceValue)) :
    putLine (.row label cells text) ((l, v) :: rows) = (l, v) :: putLine (.row label cells text) rows := by
  have hnone : (TraceLine.row label cells text).cellsOf l = none := if_neg hl
  rw [putLine, List.map_cons, hnone]
  rfl

/-- A label is the last one if no row follows its own. -/
theorem getLast_label (v : TraceValue) : ∀ {rows : List (String × TraceValue)}, label ∉ rows.map Prod.fst →
    (((label, v) :: rows).getLast?.map Prod.fst == some label) = rows.isEmpty
  | [], _ => by simp
  | row :: rows, hout => by
    rw [List.getLast?_cons_cons, List.isEmpty_cons, beq_eq_false_iff_ne]
    intro heq
    obtain ⟨x, hx, hxl⟩ := Option.map_eq_some_iff.mp heq
    exact hout (hxl ▸ List.mem_map_of_mem (List.mem_of_getLast? hx))

/-- **A row is put where its label is**; the last one ends the loop. -/
theorem scanRows_row {cells : TraceCells} {value : TraceValue} (text : CStr)
    (hcells : cells.Spelled s value) : ∀ {rows trows : List (String × TraceValue)},
      LikeRows rows trows → (trows.map Prod.fst).Nodup → (∀ row ∈ trows, row.2.isEmpty = false) →
      (label, value) ∈ trows →
      (∀ row ∈ trows, row.1 ≠ label → ¬ t.Shows row.1 (label.toList ++ s)) →
      scanRows t.byLabel (label.toList ++ s) rows =
          some (putLine (.row label cells text) rows, trows.getLast?.map Prod.fst == some label) ∧
        LikeRows (putLine (.row label cells text) rows) trows := by
  intro rows trows hlike
  induction hlike with
  | nil => exact fun _ _ hmem => absurd hmem List.not_mem_nil
  | @cons r r' rows trows hr hlike ih =>
    obtain ⟨l, v⟩ := r
    obtain ⟨l', v'⟩ := r'
    obtain ⟨rfl, halike⟩ : l = l' ∧ v.Alike v' := hr
    intro hnodup hfull hmem hother
    obtain ⟨hout, hnodup'⟩ : l ∉ trows.map Prod.fst ∧ (trows.map Prod.fst).Nodup :=
      List.nodup_cons.mp hnodup
    by_cases hl : label = l
    · subst hl
      -- the label's row: its label is in no row behind it
      obtain rfl : v' = value := by
        rcases List.mem_cons.mp hmem with heq | htail
        · exact (Prod.mk.inj heq).2.symm
        · exact absurd (List.mem_map_of_mem (f := Prod.fst) htail) hout
      have hlabels : rows.map Prod.fst = trows.map Prod.fst := LikeRows.map_fst hlike
      have hout' : label ∉ rows.map Prod.fst := hlabels ▸ hout
      have hends : (((label, v') :: trows).getLast?.map Prod.fst == some label) = rows.isEmpty := by
        rw [getLast_label v' hout, ← List.isEmpty_map, ← hlabels, List.isEmpty_map]
      refine ⟨?_, ?_⟩
      · unfold scanRows
        rw [scan_own hcells halike]
        simp only
        rw [putLine_own text v hout', hends]
      · rw [putLine_own text v hout']
        exact .cons ⟨rfl, hcells.alike⟩ hlike
    · have hmem' : (label, value) ∈ trows := by
        rcases List.mem_cons.mp hmem with heq | htail
        · exact absurd (Prod.mk.inj heq).1 hl
        · exact htail
      obtain ⟨hscan, hlike'⟩ := ih hnodup' (fun row hrow => hfull row (List.mem_cons_of_mem _ hrow)) hmem'
        fun row hrow => hother row (List.mem_cons_of_mem _ hrow)
      have hv : v.isEmpty = false := halike.isEmpty_eq.trans (hfull _ List.mem_cons_self)
      have hends : ((l, v') :: trows).getLast? = trows.getLast? := by
        cases trows with
        | nil => exact absurd hmem' List.not_mem_nil
        | cons _ _ => exact List.getLast?_cons_cons
      refine ⟨?_, ?_⟩
      · unfold scanRows
        rw [scan_other hv (hother _ List.mem_cons_self (Ne.symm hl))]
        simp only
        rw [hscan, putLine_other text hl, hends]
        rfl
      · rw [putLine_other text hl]
        exact .cons ⟨rfl, halike⟩ hlike'

/-! ### The loop -/

/-- What is printed first is covered by what is printed later. -/
theorem tableOf_cons (l : TraceLine) (ls : List TraceLine) (st : TraceScan) :
    tableOf (l :: ls) st = tableOf ls (tableOf [l] st) := by
  have hfield : ∀ {α : Type} (f : TraceLine → Option α) (a : α),
      (latest f (l :: ls)).getD a = (latest f ls).getD ((latest f [l]).getD a) := fun f a => Option.getD_or
  have hrows : (tableOf (l :: ls) st).rows = (tableOf ls (tableOf [l] st)).rows := by
    show st.rows.map _ = (st.rows.map _).map _
    rw [List.map_map]
    exact List.map_congr_left fun row _ => congrArg (row.1, ·) (hfield _ _)
  rw [TraceScan.mk.injEq]
  exact ⟨hfield _ _, hfield _ _, hrows⟩

theorem newline_not_msec : '\n' ∉ "msec:".toList := by decide

theorem scanMsec_none {l : CStr} (h : t.msec = true → ¬ "msec:".toList <+: l) : t.scanMsec l = none := by
  unfold TraceFeature.scanMsec
  split_ifs with hmsec
  · rw [scanLit_none (h hmsec)]
    rfl
  · rfl

theorem scanMsec_number {v : Int32} {text : CStr} (hmsec : t.msec = true)
    (h : Spells [.int] [v] text) : t.scanMsec ("msec:".toList ++ text) = some v.toInt := by
  have hscan : scan [.int] text = [v.toInt] := scan_of_spells h
  unfold TraceFeature.scanMsec
  rw [if_pos hmsec, scanLit_label, Option.bind_some]
  cases hs : strtol text with
  | none => simp [scan, hs] at hscan
  | some r =>
    rw [scan_int hs] at hscan
    exact congrArg some (List.cons.inj hscan).1

/-- A line of a label is not one of milliseconds. -/
theorem not_msec_label (hne : label.toList.headD 'm' ≠ 'm') (s : CStr) :
    ¬ "msec:".toList <+: label.toList ++ s := by
  intro hpre
  cases hl : label.toList with
  | nil =>
    rw [hl] at hne
    exact hne rfl
  | cons c cs =>
    rw [hl] at hne hpre
    exact hne (List.cons_prefix_cons.mp hpre).1.symm

theorem bracket_line {text : CStr} (h : '[' ∉ text) : '[' ∉ text ++ ['\n'] := by
  simpa using h

theorem scan_status {word u : CStr} (hword : scanBracket line = some (word, u))
    (hsize : word.length < t.statusSize) (logsInfo : Bool) (lines : List CStr) :
    t.scan logsInfo (line :: lines) st = t.scan logsInfo lines { st with status := word } := by
  rw [TraceFeature.scan, hword]
  exact if_pos hsize

theorem scan_msec {v : ℤ} (hbracket : scanBracket line = none) (hv : t.scanMsec line = some v)
    (logsInfo : Bool) (lines : List CStr) : t.scan logsInfo (line :: lines) st =
      if logsInfo then none else t.scan logsInfo lines { st with msec := v } := by
  rw [TraceFeature.scan, hbracket]
  simp only [hv]

theorem scan_rows {rows : List (String × TraceValue)} {ends : Bool} (hbracket : scanBracket line = none)
    (hmsec : t.scanMsec line = none) (hrows : scanRows t.byLabel line st.rows = some (rows, ends))
    (logsInfo : Bool) (lines : List CStr) : t.scan logsInfo (line :: lines) st =
      if ends then some { st with rows := rows } else t.scan logsInfo lines { st with rows := rows } := by
  rw [TraceFeature.scan, hbracket]
  simp only [hmsec, hrows]
  cases ends <;> rfl

/-- **A line of a report**: what it says is kept, it may end the loop, and
milliseconds that are logged end it without a table. -/
theorem scan_line (hreg : t.Regular) {l : TraceLine} (hl : l.Fits t) (hlike : LikeRows st.rows t.rows)
    (logsInfo : Bool) (lines : List CStr) :
    LikeRows (tableOf [l] st).rows t.rows ∧ t.scan logsInfo (l.line :: lines) st =
      if logsInfo && l.msecOf.isSome then none
      else if l.ends t then some (tableOf [l] st) else t.scan logsInfo lines (tableOf [l] st) := by
  obtain ⟨hnodup, hrows⟩ := hreg
  have hkind := hl.kind
  have hkept : ∀ {l : TraceLine}, (∀ label, l.cellsOf label = none) → (tableOf [l] st).rows = st.rows :=
    fun h => putLine_none h st.rows
  cases l with
  | status before word after =>
    obtain ⟨hbefore, hopen, hword, hclose, hsize⟩ := hkind
    have hst : tableOf [.status before word after] st = { st with status := word } := by
      rw [TraceScan.mk.injEq]
      exact ⟨rfl, rfl, hkept fun _ => rfl⟩
    have hline : scanBracket (TraceLine.status before word after).line =
        some (word, ']' :: (after ++ ['\n'])) := by
      rw [TraceLine.line, TraceLine.text, List.append_assoc, List.cons_append, List.append_assoc,
        List.cons_append]
      exact scanBracket_status hbefore hopen hword hclose
    rw [hst, scan_status hline hsize]
    refine ⟨hlike, ?_⟩
    simp [TraceLine.msecOf, TraceLine.ends]
  | msec v text =>
    obtain ⟨hmsec, hopen, hspells⟩ := hkind
    have hst : tableOf [.msec v text] st = { st with msec := v.toInt } := by
      rw [TraceScan.mk.injEq]
      exact ⟨rfl, rfl, hkept fun _ => rfl⟩
    have hbracket : scanBracket (TraceLine.msec v text).line = none := by
      refine scanBracket_none (bracket_line ?_)
      rw [TraceLine.text, List.mem_append, not_or]
      exact ⟨by decide, hopen⟩
    have hnumber : t.scanMsec (TraceLine.msec v text).line = some v.toInt := by
      rw [TraceLine.line, TraceLine.text, List.append_assoc]
      exact scanMsec_number hmsec hspells
    rw [hst, scan_msec hbracket hnumber]
    refine ⟨hlike, ?_⟩
    simp [TraceLine.msecOf, TraceLine.ends]
  | row label cells text =>
    obtain ⟨hopen, ⟨value, hmem, hcells⟩, hother⟩ := hkind
    obtain ⟨-, hlabel, hne⟩ := hrows _ hmem
    have hline : (TraceLine.row label cells text).line = label.toList ++ (text ++ ['\n']) :=
      List.append_assoc ..
    have hbracket : scanBracket (TraceLine.row label cells text).line = none := by
      refine scanBracket_none (bracket_line ?_)
      rw [TraceLine.text, List.mem_append, not_or]
      exact ⟨hlabel, hopen⟩
    have hnumber : t.scanMsec (TraceLine.row label cells text).line = none := by
      rw [hline]
      exact scanMsec_none fun _ => not_msec_label hne _
    rw [hline] at hother
    obtain ⟨hscan, hlike'⟩ := scanRows_row text hcells hlike hnodup (fun row hrow => (hrows row hrow).1)
      hmem hother
    have hst : tableOf [.row label cells text] st =
        { st with rows := putLine (.row label cells text) st.rows } := rfl
    rw [← hline] at hscan
    rw [hst, scan_rows hbracket hnumber hscan]
    refine ⟨hlike', ?_⟩
    simp only [TraceLine.msecOf, Option.isSome_none, Bool.and_false, Bool.false_eq_true, if_false]
    rfl
  | other text =>
    obtain ⟨hopen, hmsec, hother⟩ := hkind
    have hst : tableOf [.other text] st = st := by
      rw [TraceScan.mk.injEq]
      exact ⟨rfl, rfl, hkept fun _ => rfl⟩
    have hnumber : t.scanMsec (TraceLine.other text).line = none :=
      scanMsec_none fun h hpre => hmsec h (prefix_of_prefix_append newline_not_msec hpre)
    have hscan : scanRows t.byLabel (TraceLine.other text).line st.rows = some (st.rows, false) := by
      refine scanRows_other fun row hrow => ?_
      obtain ⟨row', hrow', hfst, halike⟩ := hlike.exists_of_mem hrow
      rw [hfst]
      exact ⟨halike.isEmpty_eq.trans (hrows row' hrow').1, hother row' hrow'⟩
    have hbracket : scanBracket (TraceLine.other text).line = none := scanBracket_none (bracket_line hopen)
    rw [hst, scan_rows hbracket hnumber hscan]
    refine ⟨hlike, ?_⟩
    simp [TraceLine.msecOf, TraceLine.ends]

/-- **The loop reads the table**, and stops at the line of the last label. -/
theorem scan_lines (hreg : t.Regular) (logsInfo : Bool) : ∀ {ls : List TraceLine} {st : TraceScan},
    (∀ l ∈ ls, l.Fits t) → LikeRows st.rows t.rows →
      t.scan logsInfo (ls.map TraceLine.line) st =
        if t.breaks logsInfo ls then none else some (tableOf (t.read ls) st)
  | [], st, _, _ => by
    have hst : tableOf [] st = st := by
      rw [TraceScan.mk.injEq]
      exact ⟨rfl, rfl, List.map_id _⟩
    rw [List.map_nil, TraceFeature.scan, TraceFeature.breaks, TraceFeature.read, hst]
    simp
  | l :: ls, st, hfits, hlike => by
    obtain ⟨hlike', hscan⟩ := scan_line hreg (hfits l List.mem_cons_self) hlike
      logsInfo (ls.map TraceLine.line)
    have ih := scan_lines hreg logsInfo (fun l hl => hfits l (List.mem_cons_of_mem _ hl)) hlike'
    rw [List.map_cons, hscan, ih, TraceFeature.breaks, TraceFeature.breaks, TraceFeature.read]
    cases hends : l.ends t with
    | true => simp
    | false =>
      rw [if_neg Bool.false_ne_true, if_neg Bool.false_ne_true, List.any_cons, tableOf_cons l (t.read ls)]
      cases logsInfo <;> cases l.msecOf.isSome <;> simp

/-! ### The answer -/

/-- The lines come as they were printed. -/
theorem fgetsLines_report {report : List TraceLine} (hfits : ∀ l ∈ report, l.Fits t) :
    fgetsLines 128 (reportText report) = report.map TraceLine.line := by
  have hfull : ∀ p ∈ report.map TraceLine.line, FullPiece 127 p := by
    intro p hp
    obtain ⟨l, hl, rfl⟩ := List.mem_map.mp hp
    exact .inr ⟨l.text, (hfits l hl).oneLine, (hfits l hl).short, rfl⟩
  have hpieces := fgetsAll_flatten (n := 127) (by decide) hfull []
  rw [List.append_nil] at hpieces
  unfold fgetsLines reportText
  rw [hpieces, fgetsAll, fgetsFrom, List.append_nil]
  refine (List.map_congr_left fun p hp => ?_).trans (List.map_id _)
  obtain ⟨l, hl, rfl⟩ := List.mem_map.mp hp
  refine cstr_of_noNul ?_
  rw [TraceLine.line, List.mem_append, not_or]
  exact ⟨(hfits l hl).noNul, by decide⟩

theorem value_bind {α β : Type} (x : Op α) (f : α → Op β) :
    (x >>= f).value = x.value.bind fun a => (f a).value := by
  obtain ⟨errors, value⟩ := x
  cases value <;> rfl

/-- **A trace answers the table that was printed**, whether its status is
`SUCC` or not; there is no answer where milliseconds are logged. -/
theorem trace_reads (env : OpEnv) (userMac : CStr) (r : TraceReport) (status : WaitStatus) :
    (Op.trace (env.printing r status) r.traced userMac r.feature).value =
      if r.traced.breaks env.logsInfo r.lines then none
      else (env.answer (r.traced.item env.params.type.toInt r.feature userMac
        (r.traced.table r.lines))).value := by
  have hreg := traceFeatures_regular r.traced (List.mem_of_find?_eq_some r.isTraced)
  have hscan : r.traced.scan env.logsInfo (fgetsLines 128 (reportText r.lines)) ⟨[], 0, r.traced.rows⟩ =
      if r.traced.breaks env.logsInfo r.lines then none else some (r.traced.table r.lines) := by
    rw [fgetsLines_report r.fits]
    exact scan_lines hreg env.logsInfo r.fits (.refl _)
  have houtput : ((env.printing r status).output (traceCmd r.feature userMac)).value =
      some (reportText r.lines) := by
    cases status <;> rfl
  unfold Op.trace
  rw [value_bind, houtput, Option.bind_some, value_bind]
  show (r.traced.scan env.logsInfo _ _).bind _ = _
  rw [hscan]
  split_ifs
  · rfl
  · rw [Option.bind_some]
    split_ifs
    · rfl
    · rw [value_bind]
      rfl

/-- A row of numbers, each behind a blank. -/
def numbersRow (label : String) (vs : List Int32) : TraceLine := .row label (.numbers vs) (printRow vs)

theorem numbersRow_fits {vs : List Int32} (zeros : List ℤ) (hmem : (label, .numbers zeros) ∈ t.rows)
    (hlen : vs.length = zeros.length) (hshort : (numbersRow label vs).text.length < 127)
    (hclean : ∀ c ∈ (numbersRow label vs).text, c ≠ '\n' ∧ c ≠ nul ∧ c ≠ '[')
    (hother : ∀ row ∈ t.rows, row.1 ≠ label → ¬ t.Shows row.1 (numbersRow label vs).line) :
    (numbersRow label vs).Fits t where
  short := hshort
  oneLine h := (hclean _ h).1 rfl
  noNul h := (hclean _ h).2.1 rfl
  kind := ⟨fun h => (hclean _ (List.mem_append_right _ h)).2.2 rfl,
    ⟨_, hmem, hlen, spells_printRow (by decide) vs⟩, hother⟩

/-- Two rows of the VIP packets. -/
def vipLines : List TraceLine :=
  [numbersRow "host_tx_h2h" [5, -1, 0, 2], numbersRow "host_rx_deliver" [1, 1, 1, 1]]

def vipReport : TraceReport where
  feature := "vip".toList
  traced := _
  isTraced := rfl
  lines := vipLines
  fits := by
    intro l hl
    rcases List.mem_cons.mp hl with rfl | hl
    · exact numbersRow_fits [0, 0, 0, 0] (by simp [zeroRows]) rfl (by decide) (by decide) (by decide)
    · obtain rfl := List.mem_singleton.mp hl
      exact numbersRow_fits [0, 0, 0, 0] (by simp [zeroRows]) rfl (by decide) (by decide) (by decide)

/-- The rows are answered, those not printed as zeros. -/
theorem trace_reads_vip :
    (vipReport.traced.table vipLines).rows.take 2 =
        [("host_tx_h2h", .numbers [5, -1, 0, 2]), ("host_tx_h2d", .numbers [0, 0, 0, 0])] ∧
      ∀ (env : OpEnv) (status : WaitStatus),
        (Op.trace (env.printing vipReport status) vipReport.traced [] vipReport.feature).value =
          (env.answer (vipReport.traced.item env.params.type.toInt "vip".toList []
            (vipReport.traced.table vipLines))).value := by
  refine ⟨rfl, fun env status => ?_⟩
  have hgoes : vipReport.traced.breaks env.logsInfo vipReport.lines = false := by
    cases env.logsInfo <;> rfl
  rw [trace_reads, hgoes]
  rfl

end WtslCore
