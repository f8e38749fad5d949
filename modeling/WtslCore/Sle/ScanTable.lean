/-
# The table of scanned SLE devices

The seek callback copies every report of a device it has not listed behind the
listed ones; a scan start sets the count back. Addresses are compared with
`strncmp`, which stops at a zero byte both have in one place, so a device that
agrees with a listed one up to there is taken for it. And nothing compares the
count with the size of the table: the report of a further device is copied
behind the array, which has no outcome here.

The table lists the devices reported since the last scan start, each once, in
the order of their first reports and up to `SLE_MAX_CONN` of them, if and only
if at every report of an unlisted address the table is full exactly when a
listed address agrees with it up to a zero byte (`scanTable_right_iff`).

Key definitions: `strncmpZero`, `ScanTable`, `seekResultInfoCbk`, `reported`,
`ScanRight`, `ReportOk`.
Key theorems: `Lists.seek`, `Lists.step_iff`, `scanTable_right_iff`.
-/
import Mathlib.Data.Fin.VecNotation
import Mathlib.Data.Fintype.Basic
import WtslCore.Http.GetAnswers
import WtslCore.Lib.Run

namespace WtslCore

open Runs

/-- `SLE_MAX_CONN`. -/
def sleMaxConn : ℕ := 20

/-- `strncmp(a, b, n) == 0` for arrays of `n` bytes. -/
def strncmpZero : List UInt8 → List UInt8 → Bool
  | a :: as, b :: bs => if a ≠ b then false else if a = 0 then true else strncmpZero as bs
  | _, _ => true

/-- The comparison of two addresses. -/
def sameAddr (a b : Fin 6 → UInt8) : Bool := strncmpZero (List.ofFn a) (List.ofFn b)

/-- `seek_result_info` and `scan_num`. -/
structure ScanTable where
  info : List SeekResult
  scanNum : ℕ

/-- Zeroed, as the program starts. -/
def ScanTable.start : ScanTable := ⟨List.replicate sleMaxConn ⟨0, fun _ => 0⟩, 0⟩

/-- The entries in use. -/
def ScanTable.entries (t : ScanTable) : List SeekResult := t.info.take t.scanNum

/-- A record is copied into the table, if that is inside it. -/
def ScanTable.copy (t : ScanTable) (r : SeekResult) : Option ScanTable :=
  if t.scanNum < sleMaxConn then some ⟨t.info.set t.scanNum r, (t.scanNum + 1) % 256⟩ else none

/-- `sle_sample_seek_result_info_cbk`: the result can be NULL, and so can its data. -/
def seekResultInfoCbk (t : ScanTable) (result : Option (SeekResult × Bool)) : Option ScanTable :=
  match result with
  | some (r, true) =>
    if t.scanNum = 0 then t.copy r
    else if t.entries.all fun e => !sameAddr e.addr r.addr then t.copy r
    else some t
  | _ => some t

/-- What happens to the table. -/
inductive ScanEvent
  | startScan
  | result (result : Option (SeekResult × Bool))

/-- One event; `wtsl_core_sle_start_scan` sets the count to 0. -/
def scanStep (t : ScanTable) : ScanEvent → Option ScanTable
  | .startScan => some { t with scanNum := 0 }
  | .result result => seekResultInfoCbk t result

/-- `wtsl_core_sle_show_bss`: the tree of the answer. -/
def wtslCoreSleShowBss (t : ScanTable) : Item := sleShowBss (t.info.take t.scanNum)

/-! ### What should be listed -/

/-- A report: the first one of its address counts. -/
def noteReport (seen : List SeekResult) (r : SeekResult) : List SeekResult :=
  if r.addr ∈ seen.map SeekResult.addr then seen else seen ++ [r]

/-- The devices of an event. -/
def noteEvent (seen : List SeekResult) : ScanEvent → List SeekResult
  | .startScan => []
  | .result (some (r, true)) => noteReport seen r
  | .result _ => seen

/-- The first reports of the distinct addresses since the last scan start. -/
def reported (events : List ScanEvent) : List SeekResult := events.foldl noteEvent []

/-- **After every step** the table holds the devices reported, up to its size,
and the answer lists them. -/
def ScanRight (events : List ScanEvent) : Prop :=
  ∀ es, es <+: events → ∃ t, exec scanStep .start es = some t ∧
    t.entries = (reported es).take sleMaxConn ∧
    wtslCoreSleShowBss t = sleShowBss ((reported es).take sleMaxConn)

/-- The condition for an event: a report of an address that is not listed
finds the table full exactly if a listed address agrees with it up to a zero
byte. -/
def ReportOk (listed : List SeekResult) : ScanEvent → Prop
  | .result (some (r, true)) => r.addr ∉ listed.map SeekResult.addr →
      (listed.length = sleMaxConn ↔ ∃ e ∈ listed, sameAddr e.addr r.addr = true)
  | _ => True

/-! ### A step -/

/-- `strncmp` finds an array equal to itself. -/
theorem strncmpZero_self : ∀ as : List UInt8, strncmpZero as as = true
  | [] => rfl
  | a :: as => by
    rw [strncmpZero, if_neg (not_not.mpr rfl), strncmpZero_self as]
    split_ifs <;> rfl

/-- The table lists these devices. -/
structure Lists (t : ScanTable) (listed : List SeekResult) : Prop where
  length : t.info.length = sleMaxConn
  scanNum : t.scanNum = listed.length
  entries : t.entries = listed

theorem lists_start : Lists .start [] := ⟨List.length_replicate, rfl, rfl⟩

section

variable {t : ScanTable} {listed seen : List SeekResult} {r : SeekResult}

theorem Lists.length_le (h : Lists t listed) : listed.length ≤ sleMaxConn := by
  have hlen := congrArg List.length h.entries
  rw [ScanTable.entries, List.length_take, h.length] at hlen
  omega

/-- A copy into a table with room lists the device last. -/
theorem Lists.copy (h : Lists t listed) (hroom : listed.length < sleMaxConn) :
    ∃ t', t.copy r = some t' ∧ Lists t' (listed ++ [r]) := by
  have hnum := h.scanNum
  have hlen := h.length
  have hmax : sleMaxConn = 20 := rfl
  refine ⟨⟨t.info.set t.scanNum r, (t.scanNum + 1) % 256⟩, ?_, ?_, ?_, ?_⟩
  · rw [ScanTable.copy, if_pos (by omega)]
  · dsimp only
    rw [List.length_set, hlen]
  · dsimp only
    rw [List.length_append, List.length_singleton]
    omega
  · have hmod : (t.scanNum + 1) % 256 = t.scanNum + 1 := Nat.mod_eq_of_lt (by omega)
    have hentries := h.entries
    rw [ScanTable.entries] at hentries ⊢
    dsimp only
    rw [hmod, List.take_add_one, List.take_set_of_le le_rfl, hentries, List.getElem?_set_self (by omega)]
    rfl

/-- Behind the table nothing can be copied. -/
theorem Lists.copy_full (h : Lists t listed) (hfull : ¬ listed.length < sleMaxConn) :
    t.copy r = none := by
  rw [ScanTable.copy, if_neg (by rwa [h.scanNum])]

/-- What the callback does with a report: nothing if a listed address agrees
with it up to a zero byte, else a copy. -/
theorem Lists.seek (h : Lists t listed) (r : SeekResult) :
    seekResultInfoCbk t (some (r, true)) =
      if ∃ e ∈ listed, sameAddr e.addr r.addr = true then some t else t.copy r := by
  rw [seekResultInfoCbk]
  by_cases hzero : t.scanNum = 0
  · have hnil : listed = [] := List.length_eq_zero_iff.mp (h.scanNum ▸ hzero)
    rw [if_pos hzero, hnil, if_neg]
    rintro ⟨e, he, -⟩
    exact absurd he List.not_mem_nil
  · rw [if_neg hzero, h.entries]
    by_cases hsame : ∃ e ∈ listed, sameAddr e.addr r.addr = true
    · have hall : ¬ (listed.all fun e => !sameAddr e.addr r.addr) = true := by
        obtain ⟨e, he, heq⟩ := hsame
        intro hall
        have hno := List.all_eq_true.mp hall e he
        rw [heq] at hno
        exact nomatch hno
      rw [if_neg hall, if_pos hsame]
    · have hall : (listed.all fun e => !sameAddr e.addr r.addr) = true := by
        refine List.all_eq_true.mpr fun e he => ?_
        rw [Bool.not_eq_true']
        exact Bool.eq_false_iff.mpr fun heq => hsame ⟨e, he, heq⟩
      rw [if_pos hall, if_neg hsame]

/-- The listed devices after a report. -/
theorem take_noteReport (seen : List SeekResult) (r : SeekResult) :
    (noteReport seen r).take sleMaxConn =
      if r.addr ∈ (seen.take sleMaxConn).map SeekResult.addr ∨
        (seen.take sleMaxConn).length = sleMaxConn
      then seen.take sleMaxConn else seen.take sleMaxConn ++ [r] := by
  by_cases hfull : sleMaxConn ≤ seen.length
  · rw [if_pos (.inr (List.length_take_of_le hfull)), noteReport]
    split_ifs with hmem
    · rfl
    · exact List.take_append_of_le_length hfull
  · have htake : seen.take sleMaxConn = seen := List.take_of_length_le (by omega)
    rw [htake, noteReport]
    by_cases hmem : r.addr ∈ seen.map SeekResult.addr
    · rw [if_pos hmem, if_pos (.inl hmem), htake]
    · rw [if_neg hmem, if_neg]
      · refine List.take_of_length_le ?_
        rw [List.length_append, List.length_singleton]
        omega
      · rintro (h | h)
        · exact hmem h
        · omega

/-- **A report is listed rightly** if and only if it meets the condition. -/
theorem Lists.report_iff (h : Lists t (seen.take sleMaxConn)) (r : SeekResult) :
    (∃ t', seekResultInfoCbk t (some (r, true)) = some t' ∧
      Lists t' ((noteReport seen r).take sleMaxConn)) ↔
      ReportOk (seen.take sleMaxConn) (.result (some (r, true))) := by
  have hle := h.length_le
  have hseek := h.seek r
  have hnote := take_noteReport seen r
  by_cases hmem : r.addr ∈ (seen.take sleMaxConn).map SeekResult.addr
  · have hsame : ∃ e ∈ seen.take sleMaxConn, sameAddr e.addr r.addr = true := by
      obtain ⟨e, he, heq⟩ := List.mem_map.mp hmem
      refine ⟨e, he, ?_⟩
      rw [heq]
      exact strncmpZero_self _
    rw [if_pos hsame] at hseek
    rw [if_pos (.inl hmem)] at hnote
    rw [hseek, hnote]
    exact iff_of_true ⟨t, rfl, h⟩ fun hnot => absurd hmem hnot
  have hcond : ReportOk (seen.take sleMaxConn) (.result (some (r, true))) ↔
      ((seen.take sleMaxConn).length = sleMaxConn ↔
        ∃ e ∈ seen.take sleMaxConn, sameAddr e.addr r.addr = true) :=
    ⟨fun hok => hok hmem, fun hok _ => hok⟩
  rw [hcond]
  by_cases hfull : (seen.take sleMaxConn).length = sleMaxConn
  · rw [if_pos (.inr hfull)] at hnote
    by_cases hsame : ∃ e ∈ seen.take sleMaxConn, sameAddr e.addr r.addr = true
    · rw [if_pos hsame] at hseek
      rw [hseek, hnote]
      exact iff_of_true ⟨t, rfl, h⟩ (iff_of_true hfull hsame)
    · -- the copy goes behind the table
      rw [if_neg hsame, h.copy_full (by omega)] at hseek
      rw [hseek]
      refine iff_of_false ?_ fun hiff => hsame (hiff.mp hfull)
      rintro ⟨t', ht', -⟩
      exact nomatch ht'
  · rw [if_neg fun hor => hor.elim hmem hfull] at hnote
    by_cases hsame : ∃ e ∈ seen.take sleMaxConn, sameAddr e.addr r.addr = true
    · -- the device is taken for a listed one
      rw [if_pos hsame] at hseek
      rw [hseek, hnote]
      refine iff_of_false ?_ fun hiff => hfull (hiff.mpr hsame)
      rintro ⟨t', ht', hlists⟩
      obtain rfl := Option.some.inj ht'
      have hlen := congrArg List.length (h.entries.symm.trans hlists.entries)
      rw [List.length_append, List.length_singleton] at hlen
      omega
    · rw [if_neg hsame] at hseek
      rw [hseek, hnote]
      exact iff_of_true (h.copy (by omega)) (iff_of_false hfull hsame)

/-- A step stays inside the table, so a table that lists the right entries is
the right one. -/
theorem Lists.of_step (h : Lists t listed) {e : ScanEvent} {t' : ScanTable}
    (hstep : scanStep t e = some t') {listed' : List SeekResult} (hent : t'.entries = listed') :
    Lists t' listed' := by
  have hle := h.length_le
  have hkept : t'.info.length = sleMaxConn ∧ t'.scanNum ≤ sleMaxConn := by
    have hsame : t.info.length = sleMaxConn ∧ t.scanNum ≤ sleMaxConn := by
      rw [h.scanNum]
      exact ⟨h.length, hle⟩
    rcases e with _ | (_ | ⟨r, _ | _⟩)
    · obtain rfl := Option.some.inj hstep
      exact ⟨h.length, Nat.zero_le _⟩
    · obtain rfl := Option.some.inj hstep
      exact hsame
    · obtain rfl := Option.some.inj hstep
      exact hsame
    · have hseek := h.seek r
      rw [show seekResultInfoCbk t (some (r, true)) = some t' from hstep] at hseek
      split_ifs at hseek
      · obtain rfl := Option.some.inj hseek
        exact hsame
      · by_cases hroom : listed.length < sleMaxConn
        · obtain ⟨t'', ht'', hlists⟩ := h.copy (r := r) hroom
          obtain rfl := Option.some.inj (hseek.trans ht'')
          rw [hlists.scanNum]
          exact ⟨hlists.length, hlists.length_le⟩
        · rw [h.copy_full hroom] at hseek
          exact nomatch hseek
  refine ⟨hkept.1, ?_, hent⟩
  rw [← hent, ScanTable.entries, List.length_take, hkept.1]
  omega

/-- An event is noted rightly if and only if it meets the condition. -/
theorem Lists.step_iff (h : Lists t (seen.take sleMaxConn)) (e : ScanEvent) :
    (∃ t', scanStep t e = some t' ∧ t'.entries = (noteEvent seen e).take sleMaxConn) ↔
      ReportOk (seen.take sleMaxConn) e := by
  have hlists : (∃ t', scanStep t e = some t' ∧ t'.entries = (noteEvent seen e).take sleMaxConn) ↔
      ∃ t', scanStep t e = some t' ∧ Lists t' ((noteEvent seen e).take sleMaxConn) := by
    constructor
    · rintro ⟨t', ht', hent⟩
      exact ⟨t', ht', h.of_step ht' hent⟩
    · rintro ⟨t', ht', hl⟩
      exact ⟨t', ht', hl.entries⟩
  rw [hlists]
  rcases e with _ | (_ | ⟨r, _ | _⟩)
  · exact iff_of_true ⟨_, rfl, h.length, rfl, rfl⟩ trivial
  · exact iff_of_true ⟨t, rfl, h⟩ trivial
  · exact iff_of_true ⟨t, rfl, h⟩ trivial
  · exact h.report_iff r

/-- An event that meets the condition is noted rightly. -/
theorem Lists.keep (h : Lists t (seen.take sleMaxConn)) {e : ScanEvent}
    (hok : ReportOk (seen.take sleMaxConn) e) :
    ∃ t', scanStep t e = some t' ∧ Lists t' ((noteEvent seen e).take sleMaxConn) := by
  obtain ⟨t', ht', hent⟩ := (h.step_iff e).mpr hok
  exact ⟨t', ht', h.of_step ht' hent⟩

end

/-! ### Histories -/

/-- Every event of the history meets the condition. -/
def ReportsOk (events : List ScanEvent) : Prop :=
  ∀ es e, es ++ [e] <+: events → ReportOk ((reported es).take sleMaxConn) e

variable {events : List ScanEvent}

theorem reported_snoc (events : List ScanEvent) (e : ScanEvent) :
    reported (events ++ [e]) = noteEvent (reported events) e := List.foldl_append ..

/-- The table after a history whose events meet the condition. -/
theorem ReportsOk.lists (h : ReportsOk events) :
    ∃ t, exec scanStep .start events = some t ∧ Lists t ((reported events).take sleMaxConn) := by
  have hkeep : ∀ t seen e, Lists t (seen.take sleMaxConn) → ReportOk (seen.take sleMaxConn) e →
      ∃ t', scanStep t e = some t' ∧ Lists t' ((noteEvent seen e).take sleMaxConn) :=
    fun _ _ _ hlists hok => hlists.keep hok
  exact @exec_of_cond _ _ _ ScanTable.start events _ noteEvent []
    (fun t seen => Lists t (seen.take sleMaxConn)) _ lists_start hkeep h

/-- A table that is right after every step has met the condition at each. -/
theorem ScanRight.reportsOk (h : ScanRight events) : ReportsOk events := by
  have hstep : ∀ t seen e, Lists t (seen.take sleMaxConn) →
      ((∃ t', scanStep t e = some t' ∧ t'.entries = (noteEvent seen e).take sleMaxConn) ↔
        ReportOk (seen.take sleMaxConn) e) :=
    fun _ _ e hlists => hlists.step_iff e
  have hiff := @prefix_meets_iff _ _ _ ScanTable.start events _ noteEvent []
    (fun t seen => Lists t (seen.take sleMaxConn)) _ _ lists_start hstep
    fun _ _ _ hlists hok => hlists.keep hok
  refine hiff.mp fun es e hpre => ?_
  -- the table before the event, and the one after it
  obtain ⟨t, ht, -, -⟩ := h es ((List.prefix_append ..).trans hpre)
  obtain ⟨t', ht', hent, -⟩ := h _ hpre
  rw [exec_snoc, ht] at ht'
  rw [reported_snoc] at hent
  exact ⟨t, ht, t', ht', hent⟩

/-- **The table is right after every step** of a history if and only if every
report meets the condition. -/
theorem scanTable_right_iff (events : List ScanEvent) : ScanRight events ↔ ReportsOk events := by
  refine ⟨ScanRight.reportsOk, fun h es hes => ?_⟩
  have hok : ReportsOk es := fun es' e hpre => h es' e (hpre.trans hes)
  obtain ⟨t, ht, hlists⟩ := hok.lists
  refine ⟨t, ht, hlists.entries, ?_⟩
  rw [← hlists.entries]
  rfl

/-- A report of the address `00:n:00:00:00:00`. -/
def zeroReport (n : UInt8) : ScanEvent := .result (some (⟨-60, ![0, n, 0, 0, 0, 0]⟩, true))

/-- A report of the address `01:n:00:00:00:00`. -/
def farReport (n : ℕ) : ScanEvent :=
  .result (some (⟨-60, ![1, UInt8.ofNat n, 0, 0, 0, 0]⟩, true))

/-- Of two devices whose addresses begin with zero only the first is listed;
the twenty-first device is copied behind the table. -/
theorem scanTable_wrong :
    ¬ ScanRight [zeroReport 1, zeroReport 2] ∧
    exec scanStep .start ((List.range 21).map fun n => farReport (n + 1)) = none := by
  refine ⟨fun h => ?_, by decide⟩
  have hok := h.reportsOk [zeroReport 1] (zeroReport 2) List.prefix_rfl
  have hnew : (![0, 2, 0, 0, 0, 0] : Fin 6 → UInt8) ∉
      ((reported [zeroReport 1]).take sleMaxConn).map SeekResult.addr := by decide
  have hsame : ∃ e ∈ (reported [zeroReport 1]).take sleMaxConn,
      sameAddr e.addr ![0, 2, 0, 0, 0, 0] = true := ⟨_, List.mem_cons_self, by decide⟩
  have hfull := (hok hnew).mpr hsame
  exact absurd hfull (by decide)

end WtslCore
