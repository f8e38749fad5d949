/-
# The networks a terminal joins again

The watcher of the link polls the users of the radio. When a terminal node
finds itself linked, `get_view_users_info` notes the MAC of its G node in
front of three entries and in the configuration file; the entries are tried in
order when the link is lost. `add_mac` lets it do so once after each poll that
sees the link down.

The entries ought to be the last three G nodes the node was linked to, each
once. They are shifted whenever the MAC is not the first of them already, so a
G node that comes back from the second place is there twice, and the last of
the three is lost. What is written to the file is what is in memory.
`autoJoin_iff`: the entries and the file are right after every step exactly
for the runs in which each association is with the first entry, or follows a
loss and is not with the second.

Key definitions: `ViewInfo`, `getViewUsersInfo`, `Shows`, `autoJoinStep`,
`Remembers`, `Joined`.
Key theorems: `poll_loss`, `poll_association`, `remembers_step_iff`,
`autoJoin_iff`.
-/
import WtslCore.Lib.Recent
import WtslCore.Lib.Run
import WtslCore.Node.ViewUsers

namespace WtslCore

open Runs Recent

/-! ### The poll -/

/-- A line of the command, and what the stack holds in the calls of
`config_set` while it is handled. -/
structure PolledLine where
  buffer : CStr
  junk : ℕ → ℕ → Junk

/-- What `get_view_users_info` reads and writes: `global_node_info`, the
configuration file and its own static variables. -/
structure ViewInfo where
  nodeType : SplinkNodeType
  linkState : ℤ
  userNum : ℤ
  needRefresh : Bool
  uid : ℤ
  mac : CStr
  autoJoinNetMac : List CStr
  file : Option (List Char)
  lastUserNum : ℤ
  addMac : Bool

/-- The variables of a call. -/
structure LinkScan where
  state : ℤ
  num : ℤ
  info : ViewInfo

/-- The state of the link in a line with `vap_role`. -/
def lineState (buffer : CStr) : Option ℤ := do
  let s ← scanLit "vap_role[" buffer
  let (_, s) ← strtol s
  let s ← scanLit "]," s
  let s ← scanLit "vap_state[" (s.dropWhile isspace)
  (strtol s).map Prod.fst

/-- A line with `vap_role`. -/
def LinkScan.readStatus (v : LinkScan) (buffer : CStr) : LinkScan :=
  let state := (lineState buffer).getD v.state
  let num := (lineUsers buffer).getD v.num
  { state := state
    num := num
    info :=
      { v.info with
        needRefresh := v.info.lastUserNum ≠ 0 ∧ v.info.lastUserNum ≠ num
        lastUserNum := num
        linkState := state
        userNum := num } }

/-- `sscanf` of the line of a user. A word of more than 17 characters outgrows
the MAC. -/
def ViewInfo.readUser (info : ViewInfo) (buffer : CStr) : Option ViewInfo :=
  match strtol buffer with
  | none => some info
  | some (uid, s) =>
    match scanWord s with
    | none => some { info with uid := uid }
    | some (mac, _) => if mac.length < 18 then some { info with uid := uid, mac := mac } else none

/-- The keys of the entries. -/
def autoJoinKeys : List CStr :=
  ["AUTO_JOIN_NET_MAC0", "AUTO_JOIN_NET_MAC1", "AUTO_JOIN_NET_MAC2"].map String.toList

/-- Each entry moves on by one place and the MAC becomes the first, in memory
and in the file, unless it is the first already. No other is noted then. -/
def ViewInfo.recordMac (info : ViewInfo) (junk : ℕ → ℕ → Junk) : ViewInfo :=
  if info.mac = info.autoJoinNetMac.headD [] then { info with addMac := false }
  else
    let macs := (info.mac :: info.autoJoinNetMac).take 3
    { info with
      autoJoinNetMac := macs
      file := configSetAll junk (autoJoinKeys.zip macs) info.file
      addMac := false }

/-- While the link is down, the next MAC is to be noted. The signal to the
thread that joins is left out. -/
def ViewInfo.rearm (info : ViewInfo) : ViewInfo :=
  if info.linkState ≠ 1 ∧ info.nodeType = .tnode then { info with addMac := true } else info

/-- What a line does. -/
def viewLine (v : LinkScan) (line : PolledLine) : Option LinkScan :=
  let v := if occurs "vap_role" line.buffer then v.readStatus line.buffer else v
  let noted : Option ViewInfo :=
    if occurs "ms" line.buffer = true ∧ v.info.nodeType = .tnode ∧ v.info.addMac = true then
      (v.info.readUser line.buffer).map fun info => info.recordMac line.junk
    else some v.info
  noted.map fun info => { v with info := info.rearm }

/-- `get_view_users_info`, on the lines of the command. -/
def getViewUsersInfo (lines : List PolledLine) (info : ViewInfo) : Option ViewInfo :=
  (lines.foldlM viewLine ⟨-1, -1, info⟩).map LinkScan.info

/-! ### Losses and associations -/

/-- The characters of a MAC. -/
def macChars : CStr := "0123456789abcdefABCDEF:".toList

/-- The MAC of a G node. -/
structure GMac where
  str : CStr
  length : str.length = 17
  chars : ∀ c ∈ str, c ∈ macChars

/-- What happens to the link. -/
inductive LinkEvent
  | loss
  | association (mac : GMac)

/-- A line that is none of the two below. -/
structure Quiet (line : PolledLine) : Prop where
  status : occurs "vap_role" line.buffer = false
  user : occurs "ms" line.buffer = false

/-- The line with the state of the link. -/
structure IsStatus (state : ℤ) (line : PolledLine) : Prop where
  status : occurs "vap_role" line.buffer = true
  user : occurs "ms" line.buffer = false
  state : lineState line.buffer = some state

/-- The line of the G node. -/
structure IsUser (mac : CStr) (line : PolledLine) : Prop where
  status : occurs "vap_role" line.buffer = false
  user : occurs "ms" line.buffer = true
  mac : ∃ uid s rest, strtol line.buffer = some (uid, s) ∧ scanWord s = some (mac, rest)

/-- A poll that shows an event: the link is down and there are no users, or it
is up and the G node is the only one. -/
def Shows : LinkEvent → List PolledLine → Prop
  | .loss, lines => ∃ pre status post state, lines = pre ++ status :: post ∧
      (∀ l ∈ pre ++ post, Quiet l) ∧ IsStatus state status ∧ state ≠ 1
  | .association mac, lines => ∃ pre status mid user post,
      lines = pre ++ status :: (mid ++ user :: post) ∧ (∀ l ∈ pre ++ (mid ++ post), Quiet l) ∧
        IsStatus 1 status ∧ IsUser mac.str user

/-- An event, and the poll that shows it. -/
structure LinkStep where
  event : LinkEvent
  lines : List PolledLine
  shows : Shows event lines

/-- The node, and the G nodes it was linked to, the latest first. -/
structure Tracked where
  info : ViewInfo
  history : List GMac

/-- The history after an event. -/
def LinkEvent.extend (history : List GMac) : LinkEvent → List GMac
  | .loss => history
  | .association mac => mac :: history

/-- One poll. -/
def autoJoinStep (t : Tracked) (e : LinkStep) : Option Tracked :=
  (getViewUsersInfo e.lines t.info).map fun info => ⟨info, e.event.extend t.history⟩

/-- **The history is remembered**: the entries are the three G nodes that were
used last, and the file has what is in memory. -/
structure Remembers (t : Tracked) : Prop where
  entries : t.info.autoJoinNetMac = places 3 [] (t.history.map GMac.str)
  persisted : autoJoinKeys.map (fun key => (storedText t.info.file key).getD []) =
    t.info.autoJoinNetMac

/-- The condition on an event: an association is with the first entry, or
follows a loss and is not with the second. -/
def Joined (t : Tracked) (e : LinkStep) : Prop :=
  match e.event with
  | .loss => True
  | .association mac => t.info.autoJoinNetMac[0]? = some mac.str ∨
      (t.info.addMac = true ∧ t.info.autoJoinNetMac[1]? ≠ some mac.str)

/-- What holds of a terminal node throughout. -/
structure Standing (info : ViewInfo) : Prop where
  tnode : info.nodeType = .tnode
  armed : info.linkState ≠ 1 → info.addMac = true
  settled : Settled info.file
  texts : ∀ mac ∈ info.autoJoinNetMac, nul ∉ mac

variable {info : ViewInfo} {v : LinkScan} {line : PolledLine} {lines : List PolledLine}
  {mac : GMac} {t t' : Tracked}

/-! ### Lines -/

theorem rearm_of_up (h : info.linkState = 1) : info.rearm = info :=
  if_neg fun hdown => hdown.1 h

theorem rearm_of_down (h : info.linkState ≠ 1) (htnode : info.nodeType = .tnode) :
    info.rearm = { info with addMac := true } :=
  if_pos ⟨h, htnode⟩

theorem rearm_of_standing (h : Standing info) : info.rearm = info := by
  by_cases hup : info.linkState = 1
  · exact rearm_of_up hup
  · rw [rearm_of_down hup h.tnode, ← h.armed hup]

/-- A line that shows nothing leaves everything as it is. -/
theorem viewLine_quiet (h : Standing v.info) (hl : Quiet line) : viewLine v line = some v := by
  unfold viewLine
  simp only [hl.status, hl.user, Bool.false_eq_true, false_and, if_false, Option.map_some,
    rearm_of_standing h]

theorem foldlM_quiet : ∀ {lines : List PolledLine}, Standing v.info → (∀ l ∈ lines, Quiet l) →
    lines.foldlM viewLine v = some v
  | [], _, _ => rfl
  | l :: lines, h, hl => by
    rw [List.foldlM_cons, viewLine_quiet h (hl l List.mem_cons_self)]
    exact foldlM_quiet h fun l' h' => hl l' (List.mem_cons_of_mem _ h')

/-- The line with the state sets it, and arms the node if the link is down. -/
theorem viewLine_status {state : ℤ} (hl : IsStatus state line) :
    viewLine v line = some { v.readStatus line.buffer with info := (v.readStatus line.buffer).info.rearm } ∧
      (v.readStatus line.buffer).info.linkState = state := by
  refine ⟨?_, ?_⟩
  · unfold viewLine
    simp only [hl.status, hl.user, Bool.false_eq_true, false_and, if_false, if_true, Option.map_some]
  · rw [LinkScan.readStatus, hl.state]
    rfl

/-- The MAC is noted: it becomes the first entry, unless it is that already. -/
structure Notes (mac : CStr) (info info' : ViewInfo) : Prop where
  nodeType : info'.nodeType = info.nodeType
  addMac : info'.addMac = false
  kept : mac = info.autoJoinNetMac.headD [] →
    info'.autoJoinNetMac = info.autoJoinNetMac ∧ info'.file = info.file
  shifted : mac ≠ info.autoJoinNetMac.headD [] →
    info'.autoJoinNetMac = (mac :: info.autoJoinNetMac).take 3 ∧
      ∃ junk, info'.file = configSetAll junk (autoJoinKeys.zip info'.autoJoinNetMac) info.file

theorem notes_recordMac (info : ViewInfo) (uid : ℤ) (mac : CStr) (junk : ℕ → ℕ → Junk) :
    Notes mac info (({ info with uid := uid, mac := mac } : ViewInfo).recordMac junk) := by
  unfold ViewInfo.recordMac
  split_ifs with hfirst
  · exact ⟨rfl, rfl, fun _ => ⟨rfl, rfl⟩, fun hne => absurd hfirst hne⟩
  · exact ⟨rfl, rfl, fun heq => absurd heq hfirst, fun _ => ⟨rfl, junk, rfl⟩⟩

theorem recordMac_linkState (info : ViewInfo) (junk : ℕ → ℕ → Junk) :
    (info.recordMac junk).linkState = info.linkState := by
  unfold ViewInfo.recordMac
  split_ifs
  · rfl
  · rfl

/-- The line of the G node is noted, if it is to be. -/
theorem viewLine_user {mac : CStr} (hmac : mac.length < 18) (htnode : v.info.nodeType = .tnode)
    (hup : v.info.linkState = 1) (hl : IsUser mac line) :
    ∃ info', viewLine v line = some { v with info := info' } ∧ info'.linkState = 1 ∧
      (v.info.addMac = true → Notes mac v.info info') ∧ (v.info.addMac = false → info' = v.info) := by
  obtain ⟨uid, s, rest, hnum, hword⟩ := hl.mac
  unfold viewLine
  rw [hl.status, if_neg Bool.false_ne_true]
  dsimp only
  cases hadd : v.info.addMac with
  | true =>
    have hread : v.info.readUser line.buffer = some { v.info with uid := uid, mac := mac } := by
      rw [ViewInfo.readUser, hnum]
      simp only [hword, if_pos hmac]
    have hlink := (recordMac_linkState { v.info with uid := uid, mac := mac } line.junk).trans hup
    rw [if_pos ⟨hl.user, htnode, rfl⟩, hread, Option.map_some, Option.map_some, rearm_of_up hlink]
    exact ⟨_, rfl, hlink, fun _ => notes_recordMac v.info uid mac line.junk,
      fun h => absurd h.symm Bool.false_ne_true⟩
  | false =>
    rw [if_neg fun h => Bool.false_ne_true h.2.2, Option.map_some, rearm_of_up hup]
    exact ⟨_, rfl, hup, fun h => absurd h Bool.false_ne_true, fun _ => rfl⟩

/-! ### Polls -/

theorem Standing.of_same (h : Standing info) (info' : ViewInfo) (htnode : info'.nodeType = .tnode)
    (harmed : info'.linkState ≠ 1 → info'.addMac = true)
    (hentries : info'.autoJoinNetMac = info.autoJoinNetMac) (hfile : info'.file = info.file) :
    Standing info' where
  tnode := htnode
  armed := harmed
  settled := hfile ▸ h.settled
  texts := hentries ▸ h.texts

theorem autoJoinKeys_plain : ∀ key ∈ autoJoinKeys, Plain key := by decide

theorem Notes.standing {mac : CStr} {info' : ViewInfo} (hn : Notes mac info info') (h : Standing info)
    (hmac : nul ∉ mac) (hup : info'.linkState = 1) : Standing info' := by
  have harmed : info'.linkState ≠ 1 → info'.addMac = true := fun hdown => absurd hup hdown
  by_cases hfirst : mac = info.autoJoinNetMac.headD []
  · obtain ⟨hentries, hfile⟩ := hn.kept hfirst
    exact h.of_same info' (hn.nodeType.trans h.tnode) harmed hentries hfile
  · obtain ⟨hentries, junk, hfile⟩ := hn.shifted hfirst
    have htexts : ∀ m ∈ info'.autoJoinNetMac, nul ∉ m := by
      intro m hm
      rw [hentries] at hm
      rcases List.mem_cons.mp (List.mem_of_mem_take hm) with rfl | hold
      · exact hmac
      · exact h.texts m hold
    have hpairs : ∀ kv ∈ autoJoinKeys.zip info'.autoJoinNetMac, Plain kv.1 ∧ nul ∉ kv.2 :=
      fun kv hkv => ⟨autoJoinKeys_plain _ (List.of_mem_zip hkv).1, htexts _ (List.of_mem_zip hkv).2⟩
    exact
      { tnode := hn.nodeType.trans h.tnode
        armed := harmed
        settled := hfile ▸ settled_configSetAll junk h.settled hpairs
        texts := htexts }

theorem GMac.noNul (mac : GMac) : nul ∉ mac.str := by
  intro h
  have hno : nul ∉ macChars := by decide
  exact hno (mac.chars nul h)

/-- A poll that sees the link down arms the node. -/
theorem poll_loss (h : Standing info) (hs : Shows .loss lines) :
    ∃ info', getViewUsersInfo lines info = some info' ∧ Standing info' ∧ info'.addMac = true ∧
      info'.autoJoinNetMac = info.autoJoinNetMac ∧ info'.file = info.file := by
  obtain ⟨pre, status, post, state, rfl, hquiet, hstatus, hdown⟩ := hs
  obtain ⟨hpre, hpost⟩ := List.forall_mem_append.mp hquiet
  obtain ⟨hline, hstate⟩ := @viewLine_status ⟨-1, -1, info⟩ _ _ hstatus
  have hlink : (LinkScan.readStatus ⟨-1, -1, info⟩ status.buffer).info.linkState ≠ 1 :=
    fun heq => hdown (hstate.symm.trans heq)
  have hrearm := rearm_of_down hlink h.tnode
  rw [hrearm] at hline
  have hafter := h.of_same { (LinkScan.readStatus ⟨-1, -1, info⟩ status.buffer).info with
    addMac := true } h.tnode (fun _ => rfl) rfl rfl
  refine ⟨_, ?_, hafter, rfl, rfl, rfl⟩
  rw [getViewUsersInfo, List.foldlM_append, foldlM_quiet h hpre]
  show ((status :: post).foldlM viewLine ⟨-1, -1, info⟩).map LinkScan.info = _
  rw [List.foldlM_cons, hline]
  show (post.foldlM viewLine _).map LinkScan.info = _
  rw [foldlM_quiet hafter hpost]
  rfl

/-- A poll that sees the link up notes the MAC, if the node is armed. -/
theorem poll_association (h : Standing info) (hs : Shows (.association mac) lines) :
    ∃ info', getViewUsersInfo lines info = some info' ∧ Standing info' ∧
      ((info.addMac = true ∧ Notes mac.str info info') ∨
        (info.addMac = false ∧ info'.autoJoinNetMac = info.autoJoinNetMac ∧ info'.file = info.file)) := by
  obtain ⟨pre, status, mid, user, post, rfl, hquiet, hstatus, huser⟩ := hs
  obtain ⟨hpre, hrest⟩ := List.forall_mem_append.mp hquiet
  obtain ⟨hmid, hpost⟩ := List.forall_mem_append.mp hrest
  obtain ⟨hline, hup⟩ := @viewLine_status ⟨-1, -1, info⟩ _ _ hstatus
  rw [rearm_of_up hup] at hline
  -- the link is up from here on
  have hafter := h.of_same (LinkScan.readStatus ⟨-1, -1, info⟩ status.buffer).info h.tnode
    (fun hdown => absurd hup hdown) rfl rfl
  have hmac : mac.str.length < 18 := by
    rw [mac.length]
    decide
  obtain ⟨info', huserLine, hlink, hnotes, hkeeps⟩ := viewLine_user hmac hafter.tnode hup huser
  have hend : Standing info' := by
    cases hadd : info.addMac with
    | true => exact (hnotes hadd).standing hafter mac.noNul hlink
    | false =>
      rw [hkeeps hadd]
      exact hafter
  refine ⟨info', ?_, hend, ?_⟩
  · rw [getViewUsersInfo, List.foldlM_append, foldlM_quiet h hpre]
    show ((status :: (mid ++ user :: post)).foldlM viewLine ⟨-1, -1, info⟩).map LinkScan.info = _
    rw [List.foldlM_cons, hline]
    show ((mid ++ user :: post).foldlM viewLine _).map LinkScan.info = _
    rw [List.foldlM_append, foldlM_quiet hafter hmid]
    show ((user :: post).foldlM viewLine _).map LinkScan.info = _
    rw [List.foldlM_cons, huserLine]
    show (post.foldlM viewLine _).map LinkScan.info = _
    rw [foldlM_quiet hend hpost]
    rfl
  · cases hadd : info.addMac with
    | true =>
      have hn := hnotes hadd
      exact .inl ⟨rfl, hn.nodeType, hn.addMac, hn.kept, hn.shifted⟩
    | false =>
      rw [hkeeps hadd]
      exact .inr ⟨rfl, rfl, rfl⟩

/-! ### What is in the file -/

theorem GMac.char_of_mem (mac : GMac) {c : Char} (hc : c ∈ mac.str) :
    c ≠ '\n' ∧ c ≠ '\r' ∧ isspace c = false := by
  have hall : ∀ c ∈ macChars, c ≠ '\n' ∧ c ≠ '\r' ∧ isspace c = false := by decide
  exact hall c (mac.chars c hc)

theorem GMac.storable (mac : GMac) : Storable mac.str where
  noNul := mac.noNul
  valid := by
    refine isValidValue_iff.mpr ⟨?_, fun h => (mac.char_of_mem h).1 rfl,
      fun h => (mac.char_of_mem h).2.1 rfl⟩
    rw [mac.length]
    decide
  bare := ⟨fun _ hc => (mac.char_of_mem (List.mem_of_mem_head? hc)).2.2,
    fun _ hc => (mac.char_of_mem (List.mem_of_mem_getLast? hc)).2.2⟩

theorem GMac.ne_nil (mac : GMac) : mac.str ≠ [] := by
  intro h
  have hlen := mac.length
  rw [h] at hlen
  exact absurd hlen (by decide)

theorem storable_nil : Storable [] where
  noNul := List.not_mem_nil
  valid := by decide
  bare := ⟨nofun, nofun⟩

/-- An entry is empty or a MAC. -/
theorem storable_of_mem_places {history : List GMac} {m : CStr}
    (h : m ∈ places 3 [] (history.map GMac.str)) : Storable m := by
  rcases mem_places h with rfl | hmem
  · exact storable_nil
  · obtain ⟨mac, -, rfl⟩ := List.mem_map.mp hmem
    exact mac.storable

/-- **The file has the entries** that were written to it. -/
theorem persisted_configSetAll {file : Option (List Char)} {macs : List CStr} (hfile : Settled file)
    (hlen : macs.length = 3) (hmacs : ∀ m ∈ macs, Storable m) (junk : ℕ → ℕ → Junk) :
    autoJoinKeys.map (fun key =>
      (storedText (configSetAll junk (autoJoinKeys.zip macs) file) key).getD []) = macs := by
  have hkeys : (autoJoinKeys.zip macs).map Prod.fst = autoJoinKeys :=
    List.map_fst_zip (by rw [hlen]; decide)
  have hvalues : (autoJoinKeys.zip macs).map Prod.snd = macs := List.map_snd_zip (by rw [hlen]; decide)
  have hnodup : ((autoJoinKeys.zip macs).map Prod.fst).Nodup := by
    rw [hkeys]
    decide
  have hpairs : ∀ kv ∈ autoJoinKeys.zip macs, Plain kv.1 ∧ Storable kv.2 :=
    fun kv hkv => ⟨autoJoinKeys_plain _ (List.of_mem_zip hkv).1, hmacs _ (List.of_mem_zip hkv).2⟩
  have hstored := storedText_configSetAll junk hfile hnodup hpairs
  generalize configSetAll junk (autoJoinKeys.zip macs) file = file' at hstored
  calc autoJoinKeys.map (fun key => (storedText file' key).getD [])
      = ((autoJoinKeys.zip macs).map Prod.fst).map (fun key => (storedText file' key).getD []) := by
        rw [hkeys]
    _ = (autoJoinKeys.zip macs).map (fun kv => (storedText file' kv.1).getD []) := List.map_map
    _ = (autoJoinKeys.zip macs).map Prod.snd :=
        List.map_congr_left fun kv hkv => congrArg (Option.getD · []) (hstored kv hkv)
    _ = macs := hvalues

/-! ### Steps -/

theorem mem_take_two {α : Type*} {a : α} : ∀ {l : List α}, a ∈ l.take 2 ↔ l[0]? = some a ∨ l[1]? = some a
  | [] => by simp
  | [x] => by simp [eq_comm]
  | x :: y :: l => by simp [eq_comm]

/-- What is remembered is remembered once. -/
theorem Remembers.nodup (h : Remembers t) : (t.info.autoJoinNetMac.filter fun m => m ≠ []).Nodup := by
  rw [h.entries]
  exact nodup_places 3 [] _

theorem getElem?_zero_iff {m : CStr} (hm : m ≠ []) : ∀ {l : List CStr},
    l[0]? = some m ↔ m = l.headD []
  | [] => by simp [hm]
  | x :: l => by simp [eq_comm]

/-- A poll is handled, and what holds throughout holds after it. -/
theorem autoJoinStep_spec (t : Tracked) (h : Standing t.info) (e : LinkStep) :
    ∃ info', getViewUsersInfo e.lines t.info = some info' ∧ Standing info' ∧
      autoJoinStep t e = some ⟨info', e.event.extend t.history⟩ := by
  obtain ⟨event, lines, hs⟩ := e
  cases event with
  | loss =>
    obtain ⟨info', hpoll, hstand, -⟩ := poll_loss h hs
    exact ⟨info', hpoll, hstand, by rw [autoJoinStep, hpoll]; rfl⟩
  | association mac =>
    obtain ⟨info', hpoll, hstand, -⟩ := poll_association h hs
    exact ⟨info', hpoll, hstand, by rw [autoJoinStep, hpoll]; rfl⟩

theorem Standing.step (h : Standing t.info) {e : LinkStep} (hs : autoJoinStep t e = some t') :
    Standing t'.info := by
  obtain ⟨info', -, hstand, hstep⟩ := autoJoinStep_spec t h e
  rw [hstep] at hs
  exact Option.some.inj hs ▸ hstand

/-- Entries and file that stay are right exactly if the first entry is the MAC. -/
theorem remembers_kept_iff (h : Remembers t) {info' : ViewInfo} (mac : GMac)
    (hentries : info'.autoJoinNetMac = t.info.autoJoinNetMac) (hfile : info'.file = t.info.file) :
    Remembers ⟨info', mac :: t.history⟩ ↔ t.info.autoJoinNetMac[0]? = some mac.str := by
  have hkeep := @keep_eq_iff _ _ mac.str [] 2 (t.history.map GMac.str) mac.ne_nil
  rw [← h.entries, List.head?_eq_getElem?] at hkeep
  rw [← hkeep]
  constructor
  · intro hr
    exact hentries.symm.trans hr.entries
  · intro hright
    refine ⟨hentries.trans hright, ?_⟩
    show autoJoinKeys.map (fun key => (storedText info'.file key).getD []) = info'.autoJoinNetMac
    rw [hfile, hentries]
    exact h.persisted

/-- Shifted entries are right exactly if the MAC is not one of the first two. -/
theorem remembers_shifted_iff (hstand : Standing t.info) (h : Remembers t) {info' : ViewInfo}
    (mac : GMac) (hentries : info'.autoJoinNetMac = (mac.str :: t.info.autoJoinNetMac).take 3)
    {junk : ℕ → ℕ → Junk}
    (hfile : info'.file = configSetAll junk (autoJoinKeys.zip info'.autoJoinNetMac) t.info.file) :
    Remembers ⟨info', mac :: t.history⟩ ↔ mac.str ∉ t.info.autoJoinNetMac.take 2 := by
  have hshift := @shift_eq_iff _ _ mac.str [] 2 (t.history.map GMac.str) mac.ne_nil
  rw [← h.entries] at hshift
  rw [← hshift]
  constructor
  · intro hr
    exact hentries.symm.trans hr.entries
  · intro hright
    refine ⟨hentries.trans hright, ?_⟩
    show autoJoinKeys.map (fun key => (storedText info'.file key).getD []) = info'.autoJoinNetMac
    have hplaces : info'.autoJoinNetMac = places 3 [] ((mac :: t.history).map GMac.str) :=
      hentries.trans hright
    have hmacs : ∀ m ∈ info'.autoJoinNetMac, Storable m :=
      fun m hm => storable_of_mem_places (hplaces ▸ hm)
    rw [hfile]
    exact persisted_configSetAll hstand.settled (by rw [hplaces, length_places]) hmacs junk

/-- **A step remembers exactly under the condition.** -/
theorem remembers_step_iff (hstand : Standing t.info) (h : Remembers t) {e : LinkStep}
    (hs : autoJoinStep t e = some t') : Remembers t' ↔ Joined t e := by
  obtain ⟨event, lines, hshows⟩ := e
  cases event with
  | loss =>
    obtain ⟨info', hpoll, -, -, hentries, hfile⟩ := poll_loss hstand hshows
    rw [autoJoinStep, hpoll] at hs
    obtain rfl := Option.some.inj hs
    refine iff_of_true ⟨hentries.trans h.entries, ?_⟩ trivial
    show autoJoinKeys.map (fun key => (storedText info'.file key).getD []) = info'.autoJoinNetMac
    rw [hfile, hentries]
    exact h.persisted
  | association mac =>
    obtain ⟨info', hpoll, -, hcases⟩ := poll_association hstand hshows
    rw [autoJoinStep, hpoll] at hs
    obtain rfl := Option.some.inj hs
    show Remembers ⟨info', mac :: t.history⟩ ↔ (t.info.autoJoinNetMac[0]? = some mac.str ∨
      (t.info.addMac = true ∧ t.info.autoJoinNetMac[1]? ≠ some mac.str))
    rcases hcases with ⟨hadd, hnotes⟩ | ⟨hadd, hentries, hfile⟩
    · rw [hadd, getElem?_zero_iff mac.ne_nil]
      by_cases hfirst : mac.str = t.info.autoJoinNetMac.headD []
      · obtain ⟨hentries, hfile⟩ := hnotes.kept hfirst
        rw [remembers_kept_iff h mac hentries hfile, getElem?_zero_iff mac.ne_nil]
        exact iff_of_true hfirst (.inl hfirst)
      · obtain ⟨hentries, junk, hfile⟩ := hnotes.shifted hfirst
        rw [remembers_shifted_iff hstand h mac hentries hfile, mem_take_two,
          getElem?_zero_iff mac.ne_nil, not_or]
        exact ⟨fun hno => .inr ⟨rfl, hno.2⟩, fun hok => ⟨hfirst, (hok.resolve_left hfirst).2⟩⟩
    · rw [remembers_kept_iff h mac hentries hfile, hadd]
      exact (or_iff_left fun hno => Bool.false_ne_true hno.1).symm

/-! ### Runs -/

theorem exec_autoJoin_isSome : ∀ {t : Tracked} (es : List LinkStep), Standing t.info →
    (exec autoJoinStep t es).isSome = true
  | _, [], _ => rfl
  | t, e :: es, h => by
    obtain ⟨info', -, hstand, hstep⟩ := autoJoinStep_spec t h e
    rw [exec, hstep]
    exact exec_autoJoin_isSome es hstand

/-- **Auto-join history.** Every sequence of losses and associations is
handled. From a state that remembers its history, it is remembered after every
step exactly if each association is with the first entry, or follows a loss
and is not with the second. -/
theorem autoJoin_iff {t₀ : Tracked} (hstand : Standing t₀.info) (h : Remembers t₀)
    (es : List LinkStep) :
    ∃ t, exec autoJoinStep t₀ es = some t ∧
      (Run autoJoinStep (fun s e => ∀ s', autoJoinStep s e = some s' → Remembers s') t₀ es t ↔
        Run autoJoinStep Joined t₀ es t) := by
  obtain ⟨t, ht⟩ := Option.isSome_iff_exists.mp (exec_autoJoin_isSome es hstand)
  refine ⟨t, ht, ?_⟩
  exact Run.stays_iff (K := fun t => Standing t.info) (J := Remembers) hstand h
    (fun _ _ _ hk hs => hk.step hs) fun _ _ _ hk hj hs => remembers_step_iff hk hj hs

/-! ### A G node that comes back -/

/-- A terminal at its first start. -/
def freshTerminal : Tracked where
  info :=
    { nodeType := .tnode
      linkState := 0
      userNum := 0
      needRefresh := false
      uid := 0
      mac := []
      autoJoinNetMac := [[], [], []]
      file := none
      lastUserNum := 0
      addMac := true }
  history := []

theorem standing_fresh : Standing freshTerminal.info where
  tnode := rfl
  armed _ := rfl
  settled := ⟨List.not_mem_nil, rfl⟩
  texts := by decide

theorem remembers_fresh : Remembers freshTerminal := ⟨rfl, by decide⟩

theorem gMac_length : ∀ c ∈ ['a', 'b'], ("02:00:00:00:00:0".toList ++ [c]).length = 17 := by decide

theorem gMac_chars : ∀ c ∈ ['a', 'b'], ∀ x ∈ "02:00:00:00:00:0".toList ++ [c], x ∈ macChars := by
  decide

/-- Two G nodes. -/
def gMac (c : Char) (hc : c ∈ ['a', 'b']) : GMac where
  str := "02:00:00:00:00:0".toList ++ [c]
  length := gMac_length c hc
  chars := gMac_chars c hc

/-- A line, over a cleared stack. -/
def polled (buffer : CStr) : PolledLine := ⟨buffer, fun _ _ => ⟨[], []⟩⟩

/-- The lines of a poll, with the state of the link and the users. -/
def pollLines (state : Char) (users : List CStr) : List PolledLine :=
  polled ("vap_role[1], vap_state[".toList ++ state :: "], user_num[1]".toList) ::
    polled "uid mac_addr".toList :: users.map polled

theorem shows_loss : Shows .loss (pollLines '4' []) :=
  ⟨[], _, [polled "uid mac_addr".toList], 4, rfl,
    fun l hl => List.mem_singleton.mp hl ▸ ⟨by decide, by decide⟩,
    ⟨by decide, by decide, by decide⟩, by decide⟩

theorem shows_association (c : Char) (hc : c ∈ ['a', 'b']) : Shows (.association (gMac c hc))
    (pollLines '1' ['0' :: ' ' :: ((gMac c hc).str ++ " 5ms".toList)]) := by
  refine ⟨[], _, [polled "uid mac_addr".toList], _, [], rfl,
    fun l hl => List.mem_singleton.mp hl ▸ ⟨by decide, by decide⟩,
    ⟨by decide, by decide, by decide⟩, ?_⟩
  simp only [List.mem_cons, List.not_mem_nil, or_false] at hc
  rcases hc with rfl | rfl
  · exact ⟨rfl, rfl, 0, _, " 5ms".toList, rfl, rfl⟩
  · exact ⟨rfl, rfl, 0, _, " 5ms".toList, rfl, rfl⟩

/-- The link is lost. -/
def loseLink : LinkStep := ⟨.loss, _, shows_loss⟩

/-- The node joins a G node. -/
def joinNode (c : Char) (hc : c ∈ ['a', 'b']) : LinkStep :=
  ⟨.association (gMac c hc), _, shows_association c hc⟩

theorem mem_a : 'a' ∈ ['a', 'b'] := by decide

theorem mem_b : 'b' ∈ ['a', 'b'] := by decide

theorem autoJoin_fresh : ∃ t, exec autoJoinStep freshTerminal [joinNode 'a' mem_a, loseLink] = some t ∧
    (Run autoJoinStep (fun s e => ∀ s', autoJoinStep s e = some s' → Remembers s') freshTerminal
        [joinNode 'a' mem_a, loseLink] t ↔
      Run autoJoinStep Joined freshTerminal [joinNode 'a' mem_a, loseLink] t) :=
  autoJoin_iff standing_fresh remembers_fresh [joinNode 'a' mem_a, loseLink]

/-- The node joins a G node, another one, and the first one again: it has the
first one in two places. -/
theorem autoJoin_duplicate : ∃ t, exec autoJoinStep freshTerminal [joinNode 'a' mem_a, loseLink,
      joinNode 'b' mem_b, loseLink, joinNode 'a' mem_a] = some t ∧
    t.info.autoJoinNetMac = [(gMac 'a' mem_a).str, (gMac 'b' mem_b).str, (gMac 'a' mem_a).str] ∧
      ¬ Remembers t := by
  refine ⟨_, rfl, rfl, fun h => ?_⟩
  exact absurd h.entries (by decide)

end WtslCore
