/-
# The configuration of the log

`parse_config_file` reads the file with `fgets` into 256 bytes and looks for a
mode behind a header `[chip log_system]`. Each piece is trimmed; a piece that
starts with a bracket opens a section if there is a closing bracket, and the
first piece of a right section that is a mode is the mode of the file. That is
the file as sections (`sectionsOf`): the lines in front of the first header,
and for each header its name and its lines (`parseConfigFile_eq`). Where no
line is longer than the buffer the pieces are the lines
(`parseConfigFile_lines`).

`wtsl_logger_log` looks at the file every `config_check_interval` seconds and
reads it again if its time is later than that of the last reading. As long as
every change of the file comes with a later time, the mode a message is
filtered by is that of the file as it was less than the interval ago
(`mode_recent`).

Key definitions: `ConfigMode`, `parseConfigMode`, `parseConfigFile`,
`sectionsOf`, `configMode`, `shouldLog`, `ConfigClock`, `configStep`,
`Disciplined`.
Key theorems: `foldl_parseLine`, `parseConfigFile_eq`,
`parseConfigFile_lines`, `mode_recent`.
-/
import WtslCore.Lib.CStr
import WtslCore.Lib.Lines
import WtslCore.Lib.Run
import WtslCore.Lib.Trim

namespace WtslCore

/-! ### The file -/

/-- `config_mode_t`. -/
inductive ConfigMode
  | unknown
  | all
  | product
  deriving DecidableEq, Repr

/-- `log_level_t`. -/
inductive LogLevel
  | debug
  | info
  | warning
  | error
  | fatal
  deriving DecidableEq, Repr

/-- `wtsl_logger_should_log` in a mode. -/
def shouldLog : ConfigMode → LogLevel → Bool
  | .all, _ => true
  | .product, level => level = .warning || level = .error || level = .fatal
  | .unknown, _ => false

/-- `trim_whitespace` of the log manager. -/
def logTrimWhitespace (s : CStr) : CStr := trim isspace s

/-- `parse_config_mode`. -/
def parseConfigMode (modeStr : CStr) : ConfigMode :=
  let upperStr := (modeStr.take 31).map Char.toUpper
  if upperStr = "ALL".toList then .all
  else if upperStr = "PRODUCT".toList then .product
  else .unknown

/-- What `parse_config_file` carries from line to line. -/
structure ParseState where
  inChipLogSystem : Bool
  foundMode : Bool
  newMode : ConfigMode
  deriving DecidableEq

/-- The name in a header: what is between the brackets, trimmed. -/
def headerName (line : CStr) : Option CStr :=
  if line.head? = some '[' ∧ ']' ∈ line then
    some (logTrimWhitespace ((line.takeWhile fun c => c != ']').drop 1))
  else none

/-- The name of the section that is looked for. -/
def isChipLogSystem (name : CStr) : Bool := strcasecmpEq name "chip log_system".toList

/-- The body of the loop, for what `fgets` left in `line`. -/
def parseLine (s : ParseState) (line : CStr) : ParseState :=
  let trimmedLine := logTrimWhitespace (cstr line)
  if trimmedLine = [] then s
  else if trimmedLine.head? = some '[' then
    (headerName trimmedLine).elim s fun name => { s with inChipLogSystem := isChipLogSystem name }
  else if s.inChipLogSystem then
    if trimmedLine.head? = some '#' ∨ trimmedLine.head? = some ';' then s
    else if s.foundMode then s
    else
      let lineMode := parseConfigMode trimmedLine
      if lineMode ≠ .unknown then { s with newMode := lineMode, foundMode := true } else s
  else s

/-- `parse_config_file` for a file, or for none, in a mode: the result and
`current_mode`. -/
def parseConfigFile (file : Option CStr) (currentMode : ConfigMode) : ℤ × ConfigMode :=
  file.elim (-1, currentMode) fun text =>
    let s := (fgetsAll 255 text).foldl parseLine ⟨false, false, .unknown⟩
    (0, if s.foundMode then s.newMode else .all)

/-! ### The file as sections -/

/-- The lines in front of the first header, and the sections. -/
def sectionsOf : List CStr → List CStr × List (CStr × List CStr)
  | [] => ([], [])
  | line :: lines =>
    let (front, sections) := sectionsOf lines
    (headerName line).elim (line :: front, sections) fun name => ([], (name, front) :: sections)

/-- The mode a line is. -/
def lineMode (line : CStr) : Option ConfigMode :=
  if parseConfigMode line = .unknown then none else some (parseConfigMode line)

/-- The first mode in the sections with the right name. -/
def sectionMode (sections : List (CStr × List CStr)) : Option ConfigMode :=
  ((sections.filter fun part => isChipLogSystem part.1).flatMap fun part =>
    part.2.filterMap lineMode).head?

/-- **The mode of a file**, given by its lines. -/
def configMode (lines : List CStr) : ConfigMode := (sectionMode (sectionsOf lines).2).getD .all

/-- A line is trimmed and has no terminator. -/
def trimmedLine (piece : CStr) : CStr := logTrimWhitespace (cstr piece)

theorem lineMode_of_head {line : CStr} {c : Char} (hhead : line.head? = some c)
    (hc : c.toUpper ≠ 'A' ∧ c.toUpper ≠ 'P') : lineMode line = none := by
  cases line with
  | nil => exact nomatch hhead
  | cons d line =>
    obtain rfl := Option.some.inj hhead
    unfold lineMode parseConfigMode
    dsimp only
    have hall : ((d :: line).take 31).map Char.toUpper ≠ "ALL".toList := by
      intro h
      exact hc.1 (List.cons.inj h).1
    have hproduct : ((d :: line).take 31).map Char.toUpper ≠ "PRODUCT".toList := by
      intro h
      exact hc.2 (List.cons.inj h).1
    rw [if_neg hall, if_neg hproduct, if_pos rfl]

theorem lineMode_nil : lineMode [] = none := rfl

/-- A header is no mode. -/
theorem lineMode_of_bracket {line : CStr} (h : line.head? = some '[') : lineMode line = none :=
  lineMode_of_head h (by decide)

/-- The modes that are found from a state on: those in front of the first
header if the section is the right one, then those of the sections. -/
def modesFrom (inside : Bool) (lines : List CStr) : Option ConfigMode :=
  ((if inside then (sectionsOf lines).1.filterMap lineMode else []).head?).or
    (sectionMode (sectionsOf lines).2)

theorem sectionsOf_header {line name : CStr} (h : headerName line = some name)
    (lines : List CStr) : sectionsOf (line :: lines) =
      ([], (name, (sectionsOf lines).1) :: (sectionsOf lines).2) := by
  rw [sectionsOf, h]
  rfl

theorem sectionsOf_line {line : CStr} (h : headerName line = none) (lines : List CStr) :
    sectionsOf (line :: lines) = (line :: (sectionsOf lines).1, (sectionsOf lines).2) := by
  rw [sectionsOf, h]
  rfl

theorem modesFrom_header {inside : Bool} {line name : CStr} (h : headerName line = some name)
    (lines : List CStr) :
    modesFrom inside (line :: lines) = modesFrom (isChipLogSystem name) lines := by
  unfold modesFrom
  rw [sectionsOf_header h, sectionMode, List.filter_cons, sectionMode]
  dsimp only
  cases isChipLogSystem name with
  | true =>
    rw [if_pos rfl, if_pos rfl, List.flatMap_cons, List.head?_append]
    cases inside <;> rfl
  | false =>
    rw [if_neg Bool.false_ne_true, if_neg Bool.false_ne_true]
    cases inside <;> rfl

theorem modesFrom_line {inside : Bool} {line : CStr} (h : headerName line = none)
    (lines : List CStr) : modesFrom inside (line :: lines) =
      (if inside then lineMode line else none).or (modesFrom inside lines) := by
  unfold modesFrom
  rw [sectionsOf_line h]
  cases inside with
  | false => rfl
  | true =>
    rw [if_pos rfl, if_pos rfl, if_pos rfl, List.filterMap_cons]
    cases lineMode line with
    | none => rfl
    | some mode => rfl

/-- What is known when a state is left: the mode that was found. -/
def ParseState.found (s : ParseState) : Option ConfigMode := if s.foundMode then some s.newMode else none

/-- **One line**: a header changes the section, a mode in the right section is
kept if it is the first one. -/
theorem parseLine_spec (s : ParseState) (piece : CStr) :
    (headerName (trimmedLine piece)).elim
      ((parseLine s piece).inChipLogSystem = s.inChipLogSystem ∧ (parseLine s piece).found =
        s.found.or (if s.inChipLogSystem then lineMode (trimmedLine piece) else none))
      (fun name => parseLine s piece = { s with inChipLogSystem := isChipLogSystem name }) := by
  obtain ⟨line, hline⟩ : ∃ line, trimmedLine piece = line := ⟨_, rfl⟩
  obtain ⟨inside, found, mode⟩ := s
  unfold parseLine ParseState.found
  rw [show logTrimWhitespace (cstr piece) = line from hline, hline]
  dsimp only
  by_cases hnil : line = []
  · subst hnil
    cases inside <;> cases found <;> simp [headerName, lineMode_nil]
  rw [if_neg hnil]
  by_cases hbracket : line.head? = some '['
  · rw [if_pos hbracket]
    cases hname : headerName line with
    | some name => rfl
    | none =>
      rw [lineMode_of_bracket hbracket]
      cases inside <;> cases found <;> simp
  rw [if_neg hbracket]
  have hname : headerName line = none := if_neg fun h => hbracket h.1
  rw [hname, Option.elim_none]
  cases inside with
  | false => cases found <;> simp
  | true =>
    by_cases hcomment : line.head? = some '#' ∨ line.head? = some ';'
    · have hmode : lineMode line = none := by
        rcases hcomment with h | h
        · exact lineMode_of_head h (by decide)
        · exact lineMode_of_head h (by decide)
      rw [hmode]
      cases found <;> simp [hcomment]
    · by_cases hunknown : parseConfigMode line = .unknown
      · cases found <;> simp [hcomment, hunknown, lineMode]
      · cases found <;> simp [hcomment, hunknown, lineMode]

/-- **What the loop finds** from any state on. -/
theorem foldl_parseLine : ∀ (pieces : List CStr) (s : ParseState),
    (pieces.foldl parseLine s).found = s.found.or (modesFrom s.inChipLogSystem (pieces.map trimmedLine))
  | [], s => by
    have hnone : modesFrom s.inChipLogSystem [] = none := by
      cases s.inChipLogSystem <;> rfl
    rw [List.foldl_nil, List.map_nil, hnone, Option.or_none]
  | piece :: pieces, s => by
    have hspec := parseLine_spec s piece
    rw [List.foldl_cons, List.map_cons, foldl_parseLine pieces]
    cases hname : headerName (trimmedLine piece) with
    | some name =>
      rw [hname, Option.elim_some] at hspec
      rw [hspec, modesFrom_header hname]
      rfl
    | none =>
      rw [hname, Option.elim_none] at hspec
      rw [hspec.1, hspec.2, modesFrom_line hname, Option.or_assoc]

/-- **The mode of a file is that of its sections**, for the pieces `fgets`
reads. -/
theorem parseConfigFile_eq (text : CStr) (currentMode : ConfigMode) :
    parseConfigFile (some text) currentMode = (0, configMode ((fgetsAll 255 text).map trimmedLine)) := by
  have hfound := foldl_parseLine (fgetsAll 255 text) ⟨false, false, .unknown⟩
  rw [show (ParseState.mk false false .unknown).found = none from rfl, Option.none_or] at hfound
  have hfront : modesFrom false ((fgetsAll 255 text).map trimmedLine) =
      sectionMode (sectionsOf ((fgetsAll 255 text).map trimmedLine)).2 := rfl
  unfold parseConfigFile configMode
  rw [Option.elim_some, ← hfront, ← hfound]
  unfold ParseState.found
  dsimp only
  split_ifs <;> rfl

/-! ### The lines of the file -/

/-- A line that fits the buffer and has no terminator. -/
def FitsBuffer (line : CStr) : Prop := line.length < 255 ∧ nul ∉ line

theorem trimmedLine_terminated {line : CStr} (h : nul ∉ line) :
    trimmedLine (line ++ ['\n']) = logTrimWhitespace line := by
  have hnul : nul ∉ line ++ ['\n'] := by
    rw [List.mem_append]
    exact not_or.mpr ⟨h, by decide⟩
  unfold trimmedLine logTrimWhitespace
  rw [cstr_of_noNul hnul]
  exact trim_append_right (by decide) line

theorem trimmedLine_open {line : CStr} (h : nul ∉ line) : trimmedLine line = logTrimWhitespace line := by
  rw [trimmedLine, cstr_of_noNul h]

/-- One more line in front. -/
theorem modesFrom_congr {line : CStr} {lines lines' : List CStr}
    (h : ∀ inside, modesFrom inside lines = modesFrom inside lines') (inside : Bool) :
    modesFrom inside (line :: lines) = modesFrom inside (line :: lines') := by
  cases hname : headerName line with
  | some name => rw [modesFrom_header hname, modesFrom_header hname, h]
  | none => rw [modesFrom_line hname, modesFrom_line hname, h]

theorem modesFrom_pieces (text : CStr) (hfits : ∀ line ∈ textLines text, FitsBuffer line) :
    ∀ inside, modesFrom inside ((fgetsAll 255 text).map trimmedLine) =
      modesFrom inside ((textLines text).map logTrimWhitespace) := by
  induction text using lines_induction with
  | last line hline =>
    rw [textLines_last hline] at hfits ⊢
    obtain ⟨hlen, hnul⟩ := hfits line (List.mem_singleton_self line)
    intro inside
    by_cases hnil : line = []
    · subst hnil
      cases inside <;> rfl
    · rw [fgetsAll_open hline hnil (Nat.le_of_lt hlen), List.map_singleton, List.map_singleton,
        trimmedLine_open hnul]
  | line l rest hline ih =>
    rw [textLines_line hline] at hfits ⊢
    obtain ⟨hlen, hnul⟩ := hfits l List.mem_cons_self
    have hpieces : fgetsAll 255 (l ++ '\n' :: rest) = (l ++ ['\n']) :: fgetsAll 255 rest :=
      fgetsFrom_line hline hlen
    rw [hpieces, List.map_cons, List.map_cons, trimmedLine_terminated hnul]
    exact modesFrom_congr (ih fun l' hl => hfits l' (List.mem_cons_of_mem _ hl))

/-- **Where every line fits the buffer the mode is that of the lines.** -/
theorem parseConfigFile_lines {text : CStr} (hfits : ∀ line ∈ textLines text, FitsBuffer line)
    (currentMode : ConfigMode) :
    parseConfigFile (some text) currentMode =
      (0, configMode ((textLines text).map logTrimWhitespace)) := by
  have hmodes := modesFrom_pieces text hfits false
  rw [parseConfigFile_eq]
  unfold configMode
  have hfront : ∀ lines, modesFrom false lines = sectionMode (sectionsOf lines).2 := fun _ => rfl
  rw [← hfront, ← hfront, hmodes]

theorem parseConfigFile_lines_product :
    parseConfigFile (some "all\n[ CHIP log_system ]\n; all\n product \nall".toList) .unknown =
      (0, .product) :=
  parseConfigFile_lines (by unfold FitsBuffer; decide) .unknown

/-! ### Reading it again -/

/-- The file with its time of modification. -/
structure ConfigFile where
  mtime : ℤ
  text : CStr

/-- The fields of the log system that belong to the configuration, and the time
`need_config_reload` remembers. -/
structure ConfigClock where
  currentMode : ConfigMode
  lastConfigCheck : ℤ
  lastMtime : ℤ

/-- `DEFAULT_CONFIG_CHECK_INTERVAL`. -/
def configCheckInterval : ℤ := 5

/-- A moment at which the log is used: the time and the file there is. -/
structure Moment where
  now : ℤ
  file : Option ConfigFile

/-- `need_config_reload`. -/
def needConfigReload (c : ConfigClock) (m : Moment) : ConfigClock × Bool :=
  m.file.elim (c, false) fun file =>
    if m.now - c.lastConfigCheck ≥ configCheckInterval then
      if file.mtime > c.lastMtime then
        ({ c with lastConfigCheck := m.now, lastMtime := file.mtime }, true)
      else ({ c with lastConfigCheck := m.now }, false)
    else (c, false)

/-- `wtsl_logger_reload_config`. -/
def wtslLoggerReloadConfig (c : ConfigClock) (m : Moment) : ConfigClock :=
  { c with currentMode := (parseConfigFile (m.file.map ConfigFile.text) c.currentMode).2 }

/-- What `wtsl_logger_log` does first. -/
def configStep (c : ConfigClock) (m : Moment) : ConfigClock :=
  if (needConfigReload c m).2 then wtslLoggerReloadConfig (needConfigReload c m).1 m
  else (needConfigReload c m).1

/-- The configuration `wtsl_logger_init` leaves; a file that cannot be read is
one for all messages. -/
def ConfigClock.start (m : Moment) : ConfigClock :=
  let parsed := parseConfigFile (m.file.map ConfigFile.text) .unknown
  ⟨if parsed.1 ≠ 0 then .all else parsed.2, m.now, 0⟩

/-- The mode of a file; without one, all messages are written. -/
def fileMode (file : Option ConfigFile) : ConfigMode :=
  file.elim .all fun f => configMode ((fgetsAll 255 f.text).map trimmedLine)

/-- A later moment: time does not go back, and a file that has changed has a
later time. -/
def Moment.Before (m m' : Moment) : Prop :=
  m.now ≤ m'.now ∧ ∀ f ∈ m.file, ∀ f' ∈ m'.file,
    f.mtime ≤ f'.mtime ∧ (f.mtime = f'.mtime → f.text = f'.text)

instance : DecidableRel Moment.Before := fun _ _ => inferInstanceAs (Decidable (_ ∧ _))

/-- A history in which every change of the file comes with a later time. -/
structure Disciplined (ms : List Moment) : Prop where
  ordered : ms.Pairwise Moment.Before
  dated : ∀ m ∈ ms, ∀ f ∈ m.file, 0 < f.mtime

theorem start_currentMode (m : Moment) : (ConfigClock.start m).currentMode = fileMode m.file := by
  unfold ConfigClock.start fileMode
  cases m.file with
  | none => rfl
  | some f =>
    rw [Option.map_some, parseConfigFile_eq]
    rfl

/-- The mode is that of the file at the last check, whose time is remembered. -/
structure CheckedAt (c : ConfigClock) (m : Moment) : Prop where
  time : c.lastConfigCheck = m.now
  mode : c.currentMode = fileMode m.file
  mtime : c.lastMtime = 0 ∨ ∃ f ∈ m.file, c.lastMtime = f.mtime

/-- **One use of the log**: the check was made less than the interval ago, or it
is made now. -/
theorem checkedAt_step {c : ConfigClock} {m m' : Moment} (h : CheckedAt c m) (hbefore : m.Before m')
    (hdated : ∀ f ∈ m'.file, 0 < f.mtime) :
    (CheckedAt (configStep c m') m ∧ (m'.file.isSome → m'.now - m.now < configCheckInterval)) ∨
      CheckedAt (configStep c m') m' := by
  unfold configStep needConfigReload
  cases hfile : m'.file with
  | none => exact .inl ⟨h, fun hsome => absurd hsome Bool.false_ne_true⟩
  | some f' =>
    rw [Option.elim_some]
    by_cases hdue : m'.now - c.lastConfigCheck ≥ configCheckInterval
    · right
      rw [if_pos hdue]
      by_cases hlater : f'.mtime > c.lastMtime
      · rw [if_pos hlater, if_pos rfl]
        refine ⟨rfl, ?_, .inr ⟨f', hfile, rfl⟩⟩
        unfold wtslLoggerReloadConfig fileMode
        rw [hfile, Option.map_some, parseConfigFile_eq]
        rfl
      · rw [if_neg hlater, if_neg Bool.false_ne_true]
        -- no later time: the file is the one that was read
        rcases h.mtime with hzero | ⟨f, hf, hmtime⟩
        · rw [hzero] at hlater
          exact absurd (hdated f' hfile) hlater
        · obtain ⟨hle, hsame⟩ := hbefore.2 f hf f' hfile
          have heq : f.mtime = f'.mtime := by omega
          refine ⟨rfl, ?_, .inr ⟨f', hfile, hmtime.trans heq⟩⟩
          have htext : fileMode m.file = fileMode m'.file := by
            rw [hfile, Option.mem_def.mp hf, fileMode, fileMode, Option.elim_some, Option.elim_some,
              hsame heq]
          exact h.mode.trans htext
    · left
      rw [if_neg hdue, if_neg Bool.false_ne_true]
      rw [h.time] at hdue
      exact ⟨h, fun _ => Int.not_le.mp hdue⟩

/-- The check that is in force after any uses of the log. -/
theorem checkedAt_run {start : Moment} : ∀ {calls : List Moment},
    Disciplined (start :: calls) → ∃ m ∈ start :: calls,
      CheckedAt (calls.foldl configStep (ConfigClock.start start)) m := by
  intro calls
  induction calls using List.reverseRecOn with
  | nil =>
    intro _
    exact ⟨start, List.mem_singleton_self start, rfl, start_currentMode start, .inl rfl⟩
  | append_singleton calls last ih =>
    intro h
    have hpre : (start :: calls).Sublist (start :: (calls ++ [last])) :=
      (List.sublist_append_left calls [last]).cons_cons start
    obtain ⟨m, hm, hchecked⟩ := ih ⟨h.ordered.sublist hpre, fun m hm => h.dated m (hpre.subset hm)⟩
    have hlast : last ∈ start :: (calls ++ [last]) :=
      List.mem_cons_of_mem _ (List.mem_append_right _ (List.mem_singleton_self last))
    have hbefore : m.Before last :=
      (List.pairwise_append.mp (show ((start :: calls) ++ [last]).Pairwise _ from h.ordered)).2.2 m hm
        last (List.mem_singleton_self last)
    rw [List.foldl_append, List.foldl_cons, List.foldl_nil]
    rcases checkedAt_step hchecked hbefore (h.dated last hlast) with ⟨hkept, -⟩ | hnow
    · exact ⟨m, hpre.subset hm, hkept⟩
    · exact ⟨last, hlast, hnow⟩

/-- **The mode is recent**: whenever a message is logged and the file is there,
it is filtered by the file as it was less than the interval ago. -/
theorem mode_recent {start : Moment} {calls : List Moment} {last : Moment}
    (h : Disciplined (start :: (calls ++ [last]))) (hfile : last.file.isSome = true) :
    ∃ m ∈ start :: (calls ++ [last]), last.now - m.now < configCheckInterval ∧
      ∀ level, shouldLog ((calls ++ [last]).foldl configStep (ConfigClock.start start)).currentMode
        level = shouldLog (fileMode m.file) level := by
  have hpre : (start :: calls).Sublist (start :: (calls ++ [last])) :=
    (List.sublist_append_left calls [last]).cons_cons start
  have hbegun : Disciplined (start :: calls) :=
    ⟨h.ordered.sublist hpre, fun m hm => h.dated m (hpre.subset hm)⟩
  obtain ⟨m, hm, hchecked⟩ := checkedAt_run hbegun
  have hlast : last ∈ start :: (calls ++ [last]) :=
    List.mem_cons_of_mem _ (List.mem_append_right _ (List.mem_singleton_self last))
  have hbefore : m.Before last :=
    (List.pairwise_append.mp (show ((start :: calls) ++ [last]).Pairwise _ from h.ordered)).2.2 m hm
      last (List.mem_singleton_self last)
  rw [List.foldl_append, List.foldl_cons, List.foldl_nil]
  rcases checkedAt_step hchecked hbefore (h.dated last hlast) with ⟨hkept, hrecent⟩ | hnow
  · exact ⟨m, hpre.subset hm, hrecent hfile, fun level => congrArg (shouldLog · level) hkept.mode⟩
  · refine ⟨last, hlast, ?_, fun level => congrArg (shouldLog · level) hnow.mode⟩
    rw [Int.sub_self]
    decide

theorem mode_recent_reloaded :
    let start : Moment := ⟨100, some ⟨50, []⟩⟩
    let last : Moment := ⟨106, some ⟨104, "[chip log_system]\nproduct".toList⟩⟩
    ∃ m ∈ [start, ⟨103, none⟩, last], 106 - m.now < configCheckInterval ∧ ∀ level,
      shouldLog ([⟨103, none⟩, last].foldl configStep (ConfigClock.start start)).currentMode level =
        shouldLog (fileMode m.file) level := by
  intro start last
  have hordered : [start, ⟨103, none⟩, last].Pairwise Moment.Before := by decide
  have hdated : ∀ m ∈ [start, ⟨103, none⟩, last], ∀ f ∈ m.file, 0 < f.mtime := by decide
  have hd : Disciplined (start :: ([⟨103, none⟩] ++ [last])) := ⟨hordered, hdated⟩
  exact mode_recent hd rfl

end WtslCore
