/-
# The thread that joins a network again

`wtsl_core_splink_auto_join_net` sleeps at one of two condition variables:
while the user has not asked for automatic joining, and while the link is up
and the program runs. Otherwise it scans and tries the remembered networks in order. The watcher of
the link tells it of a loss, the HTTP server of the user's wish; both write
what the thread waits for and signal. The three run side by side, and a mutex
is taken by one of them at a time.

In every interleaving the thread is never asleep for no reason
(`joinLoop_awake`): what it waits for has not come, or the watcher is about to
signal and can go on, and as much for the flag. The end of the program alone is
not signalled: a thread that sleeps then goes on sleeping while the link is up.
Its tries go round the three entries, from the first on after each sleep for
the link (`joinLoop_inTurn`). And while the user has stopped it, the link is up
in a program that runs, or the program has ended, one try at most is still made
(`joinLoop_stops`).

Key definitions: `JoinPc`, `WatcherPc`, `HandlerPc`, `JoinSystem`,
`joinThread`, `joinStep`, `tries`, `JoinInv`.
Key theorems: `joinInv_step`, `joinLoop_awake`, `joinLoop_inTurn`,
`joinLoop_stops`.
-/
import WtslCore.Lib.Monitor
import WtslCore.Lib.Rotation
import WtslCore.Node.AutoJoin

namespace WtslCore

open Runs Rotation Monitor

/-! ### The three threads -/

/-- Where the thread is in `wtsl_core_splink_auto_join_net`: before a lock, at
a test with the mutex held, asleep in `pthread_cond_wait`, or signalled and
before the mutex is its own again. -/
inductive JoinPc
  | top
  | flagLock
  | flagTest
  | flagWait
  | flagWoken
  | netLock
  | linkTest
  | linkWait
  | linkWoken
  | flagAgain
  | scan
  | join
  | ended
  deriving DecidableEq, Repr

/-- Where the watcher is in `get_view_users_info`: before a line, or in one of
the two calls for the signal. -/
inductive WatcherPc
  | line
  | lock
  | signal
  deriving DecidableEq, Repr

/-- Where the HTTP server is in `wtsl_core_auto_join_net`. -/
inductive HandlerPc
  | idle
  | write (value : Int32)
  | signal
  deriving DecidableEq, Repr

/-- Who has a mutex. -/
inductive Holder
  | joiner
  | watcher
  | handler
  deriving DecidableEq, Repr

/-- What the three threads share, and where each of them is. `poll` has
`global_node_info`, as the watcher reads and writes it. -/
structure JoinSystem where
  run : Bool
  type : Int32
  flag : Int32
  poll : LinkScan
  idx : ℕ
  netMutex : Option Holder
  flagMutex : Option Holder
  joiner : JoinPc
  watcher : WatcherPc
  handler : HandlerPc

/-- `link_state`. -/
def JoinSystem.link (s : JoinSystem) : ℤ := s.poll.info.linkState

/-- The thread goes on, if it can. It sleeps four seconds between the scan and
the join, and one after it, with the network's mutex and without. -/
def joinThread (s : JoinSystem) : Option JoinSystem :=
  match s.joiner with
  | .top =>
    if s.run = true ∧ s.type = nodeTypeSlbT then some { s with joiner := .flagLock }
    else some { s with joiner := .ended }
  | .flagLock =>
    if s.flagMutex = none then some { s with flagMutex := some .joiner, joiner := .flagTest } else none
  | .flagTest =>
    if s.flag = 0 then some { s with flagMutex := none, joiner := .flagWait }
    else some { s with flagMutex := none, joiner := .netLock }
  | .flagWait => none
  | .flagWoken =>
    if s.flagMutex = none then some { s with flagMutex := some .joiner, joiner := .flagTest } else none
  | .netLock =>
    if s.netMutex = none then some { s with netMutex := some .joiner, joiner := .linkTest } else none
  | .linkTest =>
    if s.link = 1 ∧ s.run = true then some { s with netMutex := none, joiner := .linkWait }
    else some { s with joiner := .flagAgain }
  | .linkWait => none
  | .linkWoken =>
    if s.netMutex = none then some { s with netMutex := some .joiner, idx := 0, joiner := .linkTest }
    else none
  | .flagAgain =>
    if s.flag = 0 then some { s with netMutex := none, joiner := .top }
    else some { s with joiner := .scan }
  | .scan => some { s with joiner := .join }
  | .join =>
    some
      { s with
        idx := if s.idx = 2 then 0 else s.idx + 1
        netMutex := none
        joiner := .top }
  | .ended => none

/-- The thread is signalled, if it sleeps there. -/
def JoinSystem.wake (s : JoinSystem) (asleep woken : JoinPc) : JoinSystem :=
  if s.joiner = asleep then { s with joiner := woken } else s

/-- The watcher reads a line. While the link of a terminal is down, it is to
signal then. -/
def watchLine (s : JoinSystem) (line : PolledLine) : Option JoinSystem :=
  (viewLine s.poll line).map fun poll =>
    { s with
      poll := poll
      watcher := if poll.info.linkState ≠ 1 ∧ poll.info.nodeType = .tnode then .lock else .line }

/-- What one of the threads does next. `post` is `wtsl_core_auto_join_net` up
to its lock, `startScan` what `wtsl_core_start_scan` does to the flag, `setType`
a setting of the node's type, `stop` the end of the program. A thread can also
wake without a signal. -/
inductive JoinAct
  | joiner
  | spurious
  | poll
  | line (line : PolledLine)
  | watcher
  | post (value : Int32)
  | handler
  | startScan
  | setType (type : Int32)
  | stop

/-- One step of one thread. -/
def joinStep (s : JoinSystem) : JoinAct → Option JoinSystem
  | .joiner => joinThread s
  | .spurious =>
    match s.joiner with
    | .flagWait => some { s with joiner := .flagWoken }
    | .linkWait => some { s with joiner := .linkWoken }
    | _ => none
  | .poll => if s.watcher = .line then some { s with poll := ⟨-1, -1, s.poll.info⟩ } else none
  | .line line => if s.watcher = .line then watchLine s line else none
  | .watcher =>
    match s.watcher with
    | .line => none
    | .lock =>
      if s.netMutex = none then some { s with netMutex := some .watcher, watcher := .signal } else none
    | .signal => some { s.wake .linkWait .linkWoken with netMutex := none, watcher := .line }
  | .post value =>
    if s.handler = .idle ∧ s.flagMutex = none then
      some { s with flagMutex := some .handler, handler := .write value }
    else none
  | .handler =>
    match s.handler with
    | .idle => none
    | .write value => some { s with flag := value, handler := .signal }
    | .signal => some { s.wake .flagWait .flagWoken with flagMutex := none, handler := .idle }
  | .startScan => if s.handler = .idle then some { s with flag := 0 } else none
  | .setType type => if s.handler = .idle then some { s with type := type } else none
  | .stop => some { s with run := false }

/-! ### What holds throughout -/

/-- The thread has the network's mutex. -/
def JoinPc.inNet : JoinPc → Bool
  | .linkTest | .flagAgain | .scan | .join => true
  | _ => false

/-- Who is in code that has the network's mutex. -/
def JoinSystem.holdsNet (s : JoinSystem) : Holder → Prop
  | .joiner => s.joiner.inNet = true
  | .watcher => s.watcher = .signal
  | .handler => False

/-- Who is in code that has the flag's mutex. -/
def JoinSystem.holdsFlag (s : JoinSystem) : Holder → Prop
  | .joiner => s.joiner = .flagTest
  | .watcher => False
  | .handler => s.handler ≠ .idle

/-- Each mutex is with the thread that is in its code, and who is asleep waits
for what is not so yet, or is about to be signalled. -/
structure JoinInv (s : JoinSystem) : Prop where
  terminal : s.poll.info.nodeType = .tnode
  net : Owned s.netMutex s.holdsNet
  flagOwned : Owned s.flagMutex s.holdsFlag
  link : s.joiner = .linkWait → s.link = 1 ∨ s.watcher ≠ .line
  flag : s.joiner = .flagWait → s.flag = 0 ∨ s.handler = .signal

variable {s s' : JoinSystem} {a : JoinAct}

/-- A step of the thread alone. It falls asleep only if it has a reason. -/
structure JoinerStep (s s' : JoinSystem) : Prop where
  poll : s'.poll = s.poll
  flag : s'.flag = s.flag
  watcher : s'.watcher = s.watcher
  handler : s'.handler = s.handler
  net : Owned s.netMutex s.holdsNet → Owned s'.netMutex s'.holdsNet
  flagOwned : Owned s.flagMutex s.holdsFlag → Owned s'.flagMutex s'.holdsFlag
  linkWait : s'.joiner = .linkWait → s.link = 1
  flagWait : s'.joiner = .flagWait → s.flag = 0

theorem JoinerStep.joinInv (h : JoinInv s) (hs : JoinerStep s s') : JoinInv s' where
  terminal := hs.poll ▸ h.terminal
  net := hs.net h.net
  flagOwned := hs.flagOwned h.flagOwned
  link hwait := .inl ((congrArg (fun v => v.info.linkState) hs.poll).trans (hs.linkWait hwait))
  flag hwait := .inl (hs.flag.trans (hs.flagWait hwait))

/-- The others stay where they are. -/
theorem holdsNet_of_ne (hwatcher : s'.watcher = s.watcher) :
    ∀ j, j ≠ .joiner → (s'.holdsNet j ↔ s.holdsNet j)
  | .joiner, h => absurd rfl h
  | .watcher, _ => by simp only [JoinSystem.holdsNet, hwatcher]
  | .handler, _ => Iff.rfl

theorem holdsFlag_of_ne (hhandler : s'.handler = s.handler) :
    ∀ j, j ≠ .joiner → (s'.holdsFlag j ↔ s.holdsFlag j)
  | .joiner, h => absurd rfl h
  | .watcher, _ => Iff.rfl
  | .handler, _ => by simp only [JoinSystem.holdsFlag, hhandler]

theorem holdsNet_congr (hwatcher : s'.watcher = s.watcher) (hjoiner : s'.joiner.inNet = s.joiner.inNet) :
    ∀ j, s'.holdsNet j ↔ s.holdsNet j
  | .joiner => by simp only [JoinSystem.holdsNet, hjoiner]
  | .watcher => by simp only [JoinSystem.holdsNet, hwatcher]
  | .handler => Iff.rfl

theorem holdsFlag_congr (hhandler : s'.handler = s.handler)
    (hjoiner : s'.joiner = .flagTest ↔ s.joiner = .flagTest) : ∀ j, s'.holdsFlag j ↔ s.holdsFlag j
  | .joiner => hjoiner
  | .watcher => Iff.rfl
  | .handler => by simp only [JoinSystem.holdsFlag, hhandler]

/-- It goes on without a mutex more or less. -/
theorem JoinerStep.go (pc : JoinPc) (hnet : pc.inNet = s.joiner.inNet)
    (hflag : pc = .flagTest ↔ s.joiner = .flagTest) (hawake : pc ≠ .linkWait ∧ pc ≠ .flagWait) :
    JoinerStep s { s with joiner := pc } where
  poll := rfl
  flag := rfl
  watcher := rfl
  handler := rfl
  net h := h.congr (holdsNet_congr rfl hnet)
  flagOwned h := h.congr (holdsFlag_congr rfl hflag)
  linkWait h := absurd h hawake.1
  flagWait h := absurd h hawake.2

/-- It takes the network's mutex. -/
theorem JoinerStep.takeNet (idx : ℕ) (hfree : s.netMutex = none) (hflag : s.joiner ≠ .flagTest) :
    JoinerStep s { s with netMutex := some .joiner, idx := idx, joiner := .linkTest } where
  poll := rfl
  flag := rfl
  watcher := rfl
  handler := rfl
  net h := (hfree ▸ h).acquire rfl (holdsNet_of_ne rfl)
  flagOwned h := h.congr (holdsFlag_congr rfl (iff_of_false nofun hflag))
  linkWait h := nomatch h
  flagWait h := nomatch h

/-- It gives the network's mutex back. -/
theorem JoinerStep.leaveNet (idx : ℕ) (pc : JoinPc) (hnet : s.joiner.inNet = true)
    (hflag : s.joiner ≠ .flagTest) (hpc : pc = .top ∨ (pc = .linkWait ∧ s.link = 1)) :
    JoinerStep s { s with idx := idx, netMutex := none, joiner := pc } where
  poll := rfl
  flag := rfl
  watcher := rfl
  handler := rfl
  net h := by
    refine h.release (i := .joiner) hnet ?_ (holdsNet_of_ne rfl)
    rcases hpc with rfl | ⟨rfl, _⟩
    · exact Bool.false_ne_true
    · exact Bool.false_ne_true
  flagOwned h := by
    refine h.congr (holdsFlag_congr rfl (iff_of_false ?_ hflag))
    rcases hpc with rfl | ⟨rfl, _⟩
    · exact nofun
    · exact nofun
  linkWait h := by
    rcases hpc with rfl | ⟨rfl, hlink⟩
    · exact nomatch h
    · exact hlink
  flagWait h := by
    rcases hpc with rfl | ⟨rfl, _⟩
    · exact nomatch h
    · exact nomatch h

/-- It takes the flag's mutex. -/
theorem JoinerStep.takeFlag (hfree : s.flagMutex = none) (hnet : s.joiner.inNet = false) :
    JoinerStep s { s with flagMutex := some .joiner, joiner := .flagTest } where
  poll := rfl
  flag := rfl
  watcher := rfl
  handler := rfl
  net h := h.congr (holdsNet_congr rfl hnet.symm)
  flagOwned h := (hfree ▸ h).acquire rfl (holdsFlag_of_ne rfl)
  linkWait h := nomatch h
  flagWait h := nomatch h

/-- It gives the flag's mutex back. -/
theorem JoinerStep.leaveFlag (pc : JoinPc) (hflag : s.joiner = .flagTest)
    (hpc : pc = .netLock ∨ (pc = .flagWait ∧ s.flag = 0)) :
    JoinerStep s { s with flagMutex := none, joiner := pc } where
  poll := rfl
  flag := rfl
  watcher := rfl
  handler := rfl
  net h := by
    refine h.congr (holdsNet_congr rfl ?_)
    rw [hflag]
    rcases hpc with rfl | ⟨rfl, _⟩
    · rfl
    · rfl
  flagOwned h := by
    refine h.release (i := .joiner) hflag ?_ (holdsFlag_of_ne rfl)
    rcases hpc with rfl | ⟨rfl, _⟩
    · exact nofun
    · exact nofun
  linkWait h := by
    rcases hpc with rfl | ⟨rfl, _⟩
    · exact nomatch h
    · exact nomatch h
  flagWait h := by
    rcases hpc with rfl | ⟨rfl, hzero⟩
    · exact nomatch h
    · exact hzero

/-- **The thread's own steps**, by where it is. -/
theorem joinerStep_joinThread (hs : joinThread s = some s') : JoinerStep s s' := by
  have hout : ∀ {pc : JoinPc}, s.joiner = pc → pc ≠ .flagTest → s.joiner ≠ .flagTest :=
    fun hpc hne => hpc ▸ hne
  unfold joinThread at hs
  cases hpc : s.joiner with
  | top =>
    simp only [hpc] at hs
    split_ifs at hs <;> obtain rfl := Option.some.inj hs
    · exact .go _ (hpc ▸ rfl) (by simp [hpc]) ⟨nofun, nofun⟩
    · exact .go _ (hpc ▸ rfl) (by simp [hpc]) ⟨nofun, nofun⟩
  | flagLock =>
    simp only [hpc, Option.ite_none_right_eq_some] at hs
    obtain ⟨hfree, hs⟩ := hs
    obtain rfl := Option.some.inj hs
    exact .takeFlag hfree (hpc ▸ rfl)
  | flagTest =>
    simp only [hpc] at hs
    split_ifs at hs with hzero <;> obtain rfl := Option.some.inj hs
    · exact .leaveFlag _ hpc (.inr ⟨rfl, hzero⟩)
    · exact .leaveFlag _ hpc (.inl rfl)
  | flagWait =>
    simp only [hpc] at hs
    exact nomatch hs
  | flagWoken =>
    simp only [hpc, Option.ite_none_right_eq_some] at hs
    obtain ⟨hfree, hs⟩ := hs
    obtain rfl := Option.some.inj hs
    exact .takeFlag hfree (hpc ▸ rfl)
  | netLock =>
    simp only [hpc, Option.ite_none_right_eq_some] at hs
    obtain ⟨hfree, hs⟩ := hs
    obtain rfl := Option.some.inj hs
    exact .takeNet s.idx hfree (hout hpc nofun)
  | linkTest =>
    simp only [hpc] at hs
    split_ifs at hs with hup <;> obtain rfl := Option.some.inj hs
    · exact .leaveNet s.idx _ (hpc ▸ rfl) (hout hpc nofun) (.inr ⟨rfl, hup.1⟩)
    · exact .go _ (hpc ▸ rfl) (by simp [hpc]) ⟨nofun, nofun⟩
  | linkWait =>
    simp only [hpc] at hs
    exact nomatch hs
  | linkWoken =>
    simp only [hpc, Option.ite_none_right_eq_some] at hs
    obtain ⟨hfree, hs⟩ := hs
    obtain rfl := Option.some.inj hs
    exact .takeNet 0 hfree (hout hpc nofun)
  | flagAgain =>
    simp only [hpc] at hs
    split_ifs at hs <;> obtain rfl := Option.some.inj hs
    · exact .leaveNet s.idx _ (hpc ▸ rfl) (hout hpc nofun) (.inl rfl)
    · exact .go _ (hpc ▸ rfl) (by simp [hpc]) ⟨nofun, nofun⟩
  | scan =>
    simp only [hpc] at hs
    obtain rfl := Option.some.inj hs
    exact .go _ (hpc ▸ rfl) (by simp [hpc]) ⟨nofun, nofun⟩
  | join =>
    simp only [hpc] at hs
    obtain rfl := Option.some.inj hs
    exact .leaveNet _ _ (hpc ▸ rfl) (hout hpc nofun) (.inl rfl)
  | ended =>
    simp only [hpc] at hs
    exact nomatch hs

/-! ### Steps of the others -/

theorem nodeType_readUser {info info' : ViewInfo} {buffer : CStr} (h : info.readUser buffer = some info') :
    info'.nodeType = info.nodeType := by
  unfold ViewInfo.readUser at h
  split at h
  · exact Option.some.inj h ▸ rfl
  · split at h
    · exact Option.some.inj h ▸ rfl
    · split_ifs at h
      exact Option.some.inj h ▸ rfl

theorem nodeType_recordMac (info : ViewInfo) (junk : ℕ → ℕ → Junk) :
    (info.recordMac junk).nodeType = info.nodeType := by
  unfold ViewInfo.recordMac
  split_ifs
  · rfl
  · rfl

theorem nodeType_rearm (info : ViewInfo) : info.rearm.nodeType = info.nodeType := by
  unfold ViewInfo.rearm
  split_ifs
  · rfl
  · rfl

/-- A line leaves the type of the node as it is. -/
theorem nodeType_viewLine {v v' : LinkScan} {line : PolledLine} (h : viewLine v line = some v') :
    v'.info.nodeType = v.info.nodeType := by
  unfold viewLine at h
  obtain ⟨info, hnoted, rfl⟩ := Option.map_eq_some_iff.mp h
  refine (nodeType_rearm info).trans ?_
  split_ifs at hnoted with hstat huser huser
  · obtain ⟨read, hread, rfl⟩ := Option.map_eq_some_iff.mp hnoted
    have htype := nodeType_readUser hread
    exact (nodeType_recordMac read _).trans htype
  · exact Option.some.inj hnoted ▸ rfl
  · obtain ⟨read, hread, rfl⟩ := Option.map_eq_some_iff.mp hnoted
    have htype := nodeType_readUser hread
    exact (nodeType_recordMac read _).trans htype
  · exact Option.some.inj hnoted ▸ rfl

/-- The watcher reads a line while it has no mutex. -/
theorem JoinInv.watchLine (h : JoinInv s) (hw : s.watcher = .line) {line : PolledLine}
    (hs : watchLine s line = some s') : JoinInv s' := by
  unfold WtslCore.watchLine at hs
  obtain ⟨poll, hline, rfl⟩ := Option.map_eq_some_iff.mp hs
  have hterminal : poll.info.nodeType = .tnode := (nodeType_viewLine hline).trans h.terminal
  refine ⟨hterminal, h.net.congr ?_, h.flagOwned.congr fun j => by cases j <;> rfl, fun _ => ?_, h.flag⟩
  · intro j
    cases j with
    | joiner => exact Iff.rfl
    | watcher =>
      refine iff_of_false ?_ fun hsig => nomatch hw.symm.trans hsig
      show ¬ (if _ then _ else _) = WatcherPc.signal
      split_ifs <;> exact nofun
    | handler => exact Iff.rfl
  · by_cases hup : poll.info.linkState = 1
    · exact .inl hup
    · refine .inr ?_
      show ¬ (if poll.info.linkState ≠ 1 ∧ poll.info.nodeType = .tnode then _ else _) = WatcherPc.line
      rw [if_pos ⟨hup, hterminal⟩]
      exact nofun

theorem wake_cases (s : JoinSystem) (asleep woken : JoinPc) :
    (s.joiner = asleep ∧ s.wake asleep woken = { s with joiner := woken }) ∨
      (s.joiner ≠ asleep ∧ s.wake asleep woken = s) := by
  unfold JoinSystem.wake
  by_cases h : s.joiner = asleep
  · exact .inl ⟨h, if_pos h⟩
  · exact .inr ⟨h, if_neg h⟩

/-- The watcher signals and gives the mutex back. -/
theorem JoinInv.signalLink (h : JoinInv s) (hw : s.watcher = .signal) :
    JoinInv { s.wake .linkWait .linkWoken with netMutex := none, watcher := .line } := by
  have hnet : ∀ pc : JoinPc, pc.inNet = s.joiner.inNet →
      Owned none ({ s with joiner := pc, netMutex := none, watcher := .line } : JoinSystem).holdsNet := by
    intro pc hpc
    refine h.net.release (i := .watcher) hw nofun fun j hj => ?_
    cases j with
    | joiner => exact iff_of_eq (congrArg (· = true) hpc)
    | watcher => exact absurd rfl hj
    | handler => exact Iff.rfl
  rcases wake_cases s .linkWait .linkWoken with ⟨hpc, heq⟩ | ⟨hpc, heq⟩
  · rw [heq]
    refine ⟨h.terminal, hnet _ (hpc ▸ rfl), h.flagOwned.congr ?_, nofun, nofun⟩
    exact holdsFlag_congr rfl (iff_of_false nofun fun hft => nomatch hpc.symm.trans hft)
  · rw [heq]
    refine ⟨h.terminal, hnet _ rfl, h.flagOwned.congr ?_, fun hwait => absurd hwait hpc, h.flag⟩
    exact holdsFlag_congr rfl Iff.rfl

/-- The HTTP server signals and gives the mutex back. -/
theorem JoinInv.signalFlag (h : JoinInv s) (hh : s.handler = .signal) :
    JoinInv { s.wake .flagWait .flagWoken with flagMutex := none, handler := .idle } := by
  have hflag : ∀ pc : JoinPc, (pc = .flagTest ↔ s.joiner = .flagTest) →
      Owned none ({ s with joiner := pc, flagMutex := none, handler := .idle } : JoinSystem).holdsFlag := by
    intro pc hpc
    have hin : s.holdsFlag .handler := fun hidle => nomatch hh.symm.trans hidle
    refine h.flagOwned.release hin (fun hne => hne rfl) fun j hj => ?_
    cases j with
    | joiner => exact hpc
    | watcher => exact Iff.rfl
    | handler => exact absurd rfl hj
  rcases wake_cases s .flagWait .flagWoken with ⟨hpc, heq⟩ | ⟨hpc, heq⟩
  · rw [heq]
    refine ⟨h.terminal, h.net.congr (holdsNet_congr rfl (hpc ▸ rfl)), hflag _ ?_, nofun, nofun⟩
    exact iff_of_false nofun fun hft => nomatch hpc.symm.trans hft
  · rw [heq]
    exact ⟨h.terminal, h.net.congr (holdsNet_congr rfl rfl), hflag _ Iff.rfl, h.link,
      fun hwait => absurd hwait hpc⟩

/-- The watcher takes the mutex, to signal. -/
theorem JoinInv.lockNet (h : JoinInv s) (hfree : s.netMutex = none) :
    JoinInv { s with netMutex := some .watcher, watcher := .signal } := by
  have hnet : Owned none s.holdsNet := hfree ▸ h.net
  refine ⟨h.terminal, hnet.acquire (i := Holder.watcher) rfl fun j hj => ?_,
    h.flagOwned.congr (holdsFlag_congr rfl Iff.rfl), fun _ => .inr nofun, h.flag⟩
  cases j with
  | joiner => exact Iff.rfl
  | watcher => exact absurd rfl hj
  | handler => exact Iff.rfl

/-- The HTTP server takes the mutex, to write the flag. -/
theorem JoinInv.lockFlag (h : JoinInv s) (hidle : s.handler = .idle) (hfree : s.flagMutex = none)
    (value : Int32) : JoinInv { s with flagMutex := some .handler, handler := .write value } := by
  have hflag : Owned none s.holdsFlag := hfree ▸ h.flagOwned
  refine ⟨h.terminal, h.net.congr (holdsNet_congr rfl rfl),
    hflag.acquire (i := Holder.handler) (fun hi => nomatch hi) fun j hj => ?_, h.link, fun hwait => ?_⟩
  · cases j with
    | joiner => exact Iff.rfl
    | watcher => exact Iff.rfl
    | handler => exact absurd rfl hj
  · rcases h.flag hwait with hzero | hsig
    · exact .inl hzero
    · exact nomatch hidle.symm.trans hsig

/-- It writes the flag, and is to signal then. -/
theorem JoinInv.writeFlag (h : JoinInv s) {value : Int32} (hh : s.handler = .write value) (flag : Int32) :
    JoinInv { s with flag := flag, handler := .signal } := by
  refine ⟨h.terminal, h.net.congr (holdsNet_congr rfl rfl), h.flagOwned.congr fun j => ?_, h.link,
    fun _ => .inr rfl⟩
  cases j with
  | joiner => exact Iff.rfl
  | watcher => exact Iff.rfl
  | handler => exact iff_of_true nofun fun hidle => nomatch hh.symm.trans hidle

/-- No thread moves: what the loop waits for is as it was, or comes. -/
theorem JoinInv.set (h : JoinInv s) (run : Bool) (type flag : Int32) (poll : LinkScan)
    (hinfo : poll.info = s.poll.info) (hflag : flag = s.flag ∨ flag = 0) :
    JoinInv { s with run := run, type := type, flag := flag, poll := poll } where
  terminal := (congrArg (·.nodeType) hinfo).trans h.terminal
  net := h.net.congr (holdsNet_congr rfl rfl)
  flagOwned := h.flagOwned.congr (holdsFlag_congr rfl Iff.rfl)
  link hwait := (h.link hwait).imp_left (congrArg (·.linkState) hinfo).trans
  flag hwait := by
    rcases hflag with rfl | rfl
    · exact h.flag hwait
    · exact .inl rfl

/-- **Every step of every thread keeps it.** -/
theorem joinInv_step (h : JoinInv s) (hs : joinStep s a = some s') : JoinInv s' := by
  cases a with
  | joiner => exact (joinerStep_joinThread hs).joinInv h
  | spurious =>
    unfold joinStep at hs
    dsimp only at hs
    split at hs
    next hpc =>
      obtain rfl := Option.some.inj hs
      exact (JoinerStep.go .flagWoken (hpc ▸ rfl) (by simp [hpc]) ⟨nofun, nofun⟩).joinInv h
    next hpc =>
      obtain rfl := Option.some.inj hs
      exact (JoinerStep.go .linkWoken (hpc ▸ rfl) (by simp [hpc]) ⟨nofun, nofun⟩).joinInv h
    next => exact nomatch hs
  | poll =>
    obtain ⟨-, hs⟩ := Option.ite_none_right_eq_some.mp hs
    obtain rfl := Option.some.inj hs
    exact h.set _ _ _ _ rfl (.inl rfl)
  | line line =>
    obtain ⟨hw, hs⟩ := Option.ite_none_right_eq_some.mp hs
    exact h.watchLine hw hs
  | watcher =>
    unfold joinStep at hs
    cases hw : s.watcher with
    | line =>
      simp only [hw] at hs
      exact nomatch hs
    | lock =>
      simp only [hw, Option.ite_none_right_eq_some] at hs
      obtain ⟨hfree, hs⟩ := hs
      obtain rfl := Option.some.inj hs
      exact h.lockNet hfree
    | signal =>
      simp only [hw] at hs
      obtain rfl := Option.some.inj hs
      exact h.signalLink hw
  | post value =>
    obtain ⟨⟨hidle, hfree⟩, hs⟩ := Option.ite_none_right_eq_some.mp hs
    obtain rfl := Option.some.inj hs
    exact h.lockFlag hidle hfree value
  | handler =>
    unfold joinStep at hs
    cases hh : s.handler with
    | idle =>
      simp only [hh] at hs
      exact nomatch hs
    | write value =>
      simp only [hh] at hs
      obtain rfl := Option.some.inj hs
      exact h.writeFlag hh _
    | signal =>
      simp only [hh] at hs
      obtain rfl := Option.some.inj hs
      exact h.signalFlag hh
  | startScan =>
    obtain ⟨-, hs⟩ := Option.ite_none_right_eq_some.mp hs
    obtain rfl := Option.some.inj hs
    exact h.set _ _ _ _ rfl (.inr rfl)
  | setType type =>
    obtain ⟨-, hs⟩ := Option.ite_none_right_eq_some.mp hs
    obtain rfl := Option.some.inj hs
    exact h.set _ _ _ _ rfl (.inl rfl)
  | stop =>
    obtain rfl := Option.some.inj hs
    exact h.set _ _ _ _ rfl (.inl rfl)

/-- The threads are created: none has gone anywhere, and no mutex is taken. -/
structure JoinStart (s : JoinSystem) : Prop where
  terminal : s.poll.info.nodeType = .tnode
  idx : s.idx = 0
  netMutex : s.netMutex = none
  flagMutex : s.flagMutex = none
  joiner : s.joiner = .top
  watcher : s.watcher = .line
  handler : s.handler = .idle

theorem JoinStart.joinInv (h : JoinStart s) : JoinInv s where
  terminal := h.terminal
  net i := by
    rw [h.netMutex]
    refine iff_of_false nofun ?_
    cases i <;> simp [JoinSystem.holdsNet, h.joiner, h.watcher, JoinPc.inNet]
  flagOwned i := by
    rw [h.flagMutex]
    refine iff_of_false nofun ?_
    cases i <;> simp [JoinSystem.holdsFlag, h.joiner, h.handler]
  link hwait := nomatch h.joiner.symm.trans hwait
  flag hwait := nomatch h.joiner.symm.trans hwait

theorem JoinStart.reached {s₀ : JoinSystem} (h : JoinStart s₀) {as : List JoinAct}
    (hrun : exec joinStep s₀ as = some s) : JoinInv s :=
  (Run.of_exec hrun).invariant h.joinInv fun _ _ _ hi _ hs => joinInv_step hi hs

/-! ### No sleep without a reason -/

/-- At most `n` steps of a kind lead to a state with the property. -/
def Within (n : ℕ) (a : JoinAct) (s : JoinSystem) (P : JoinSystem → Prop) : Prop :=
  ∃ k ≤ n, ∃ s', exec joinStep s (List.replicate k a) = some s' ∧ P s'

theorem Within.now {n : ℕ} {P : JoinSystem → Prop} (h : P s) : Within n a s P :=
  ⟨0, Nat.zero_le n, s, rfl, h⟩

theorem Within.step {n : ℕ} {P : JoinSystem → Prop} (hs : joinStep s a = some s') (h : Within n a s' P) :
    Within (n + 1) a s P := by
  obtain ⟨k, hk, s₁, hrun, hP⟩ := h
  refine ⟨k + 1, Nat.succ_le_succ hk, s₁, ?_, hP⟩
  rw [List.replicate_succ, exec, hs]
  exact hrun

/-- `global_node_info.link_state == 1 && g_is_run`, the condition of the wait for
the link. -/
def JoinSystem.LinkHolds (s : JoinSystem) : Prop := s.link = 1 ∧ s.run = true

/-- The program has ended while the link is up: the condition of the wait is
over, and nobody signals. -/
def JoinSystem.Forgotten (s : JoinSystem) : Prop := s.link = 1 ∧ s.run = false

/-- **The thread is awake when it is to be**: it sleeps while the condition of its
wait holds, or the program has ended meanwhile, or two steps of the other thread
wake it; a mutex it waits for is given back in two steps, and it gives one back
in four. -/
structure JoinAwake (s : JoinSystem) : Prop where
  link : s.joiner = .linkWait → s.LinkHolds ∨ s.Forgotten ∨
    Within 2 .watcher s fun s' => s'.joiner = .linkWoken
  flag : s.joiner = .flagWait → s.flag = 0 ∨ Within 1 .handler s fun s' => s'.joiner = .flagWoken
  blocked : joinThread s = none → s.joiner = .ended ∨ s.joiner = .linkWait ∨ s.joiner = .flagWait ∨
    Within 1 .watcher s (fun s' => (joinThread s').isSome) ∨
    Within 2 .handler s (fun s' => (joinThread s').isSome)
  blocking : s.watcher = .lock → Within 4 .joiner s fun s' => (joinStep s' .watcher).isSome

/-- The watcher's signal. -/
theorem joinStep_signalLink (hw : s.watcher = .signal) :
    joinStep s .watcher = some { s.wake .linkWait .linkWoken with netMutex := none, watcher := .line } := by
  simp only [joinStep, hw]

theorem joinStep_signalFlag (hh : s.handler = .signal) :
    joinStep s .handler =
      some { s.wake .flagWait .flagWoken with flagMutex := none, handler := .idle } := by
  simp only [joinStep, hh]

/-- The watcher's signal wakes the thread. -/
theorem wakes_link (hw : s.watcher = .signal) (hpc : s.joiner = .linkWait) :
    Within 1 .watcher s fun s' => s'.joiner = .linkWoken := by
  refine .step (joinStep_signalLink hw) (.now ?_)
  show (s.wake .linkWait .linkWoken).joiner = .linkWoken
  rw [JoinSystem.wake, if_pos hpc]

theorem wakes_flag (hh : s.handler = .signal) (hpc : s.joiner = .flagWait) :
    Within 1 .handler s fun s' => s'.joiner = .flagWoken := by
  refine .step (joinStep_signalFlag hh) (.now ?_)
  show (s.wake .flagWait .flagWoken).joiner = .flagWoken
  rw [JoinSystem.wake, if_pos hpc]

/-- A mutex that is taken is with a thread that is not the one outside. -/
theorem owner_of_ne_none {m : Option Holder} {holds : Holder → Prop} (h : Owned m holds) (hm : m ≠ none)
    (hj : ¬ holds .joiner) : holds .watcher ∨ holds .handler := by
  obtain ⟨i, rfl⟩ := Option.ne_none_iff_exists'.mp hm
  cases i with
  | joiner => exact absurd ((h .joiner).mp rfl) hj
  | watcher => exact .inl ((h .watcher).mp rfl)
  | handler => exact .inr ((h .handler).mp rfl)

theorem Within.mono {m n : ℕ} {P : JoinSystem → Prop} (h : Within m a s P) (hle : m ≤ n) :
    Within n a s P := by
  obtain ⟨k, hk, s', hrun, hP⟩ := h
  exact ⟨k, hk.trans hle, s', hrun, hP⟩

/-- A lock on the network's mutex gets it after the watcher's signal. -/
theorem unblocked_net (h : JoinInv s) (hm : s.netMutex ≠ none)
    (hpc : s.joiner = .netLock ∨ s.joiner = .linkWoken) :
    Within 1 .watcher s fun s' => (joinThread s').isSome := by
  have hout : ¬ s.holdsNet .joiner := by
    rcases hpc with hpc | hpc <;> simp [JoinSystem.holdsNet, hpc, JoinPc.inNet]
  have hw : s.watcher = .signal := (owner_of_ne_none h.net hm hout).resolve_right id
  refine .step (joinStep_signalLink hw) (.now ?_)
  have hne : s.joiner ≠ .linkWait := by
    rcases hpc with hpc | hpc <;> exact fun hwait => nomatch hpc.symm.trans hwait
  rw [show s.wake .linkWait .linkWoken = s from if_neg hne]
  rcases hpc with hpc | hpc <;> simp [joinThread, hpc]

/-- A lock on the flag's mutex gets it after the HTTP server's signal. -/
theorem unblocked_flag (h : JoinInv s) (hm : s.flagMutex ≠ none)
    (hpc : s.joiner = .flagLock ∨ s.joiner = .flagWoken) :
    Within 2 .handler s fun s' => (joinThread s').isSome := by
  have hout : ¬ s.holdsFlag .joiner := by
    rcases hpc with hpc | hpc <;> simp [JoinSystem.holdsFlag, hpc]
  have hh : s.handler ≠ .idle := (owner_of_ne_none h.flagOwned hm hout).resolve_left id
  have hsignalled : ∀ t : JoinSystem, t.joiner = s.joiner → t.handler = .signal →
      Within 1 .handler t fun s' => (joinThread s').isSome := by
    intro t ht hsig
    refine .step (joinStep_signalFlag hsig) (.now ?_)
    have hne : t.joiner ≠ .flagWait := by
      rw [ht]
      rcases hpc with hpc | hpc <;> exact fun hwait => nomatch hpc.symm.trans hwait
    rw [show t.wake .flagWait .flagWoken = t from if_neg hne]
    rcases hpc with hpc | hpc <;> simp [joinThread, ht, hpc]
  cases hcase : s.handler with
  | idle => exact absurd hcase hh
  | write value =>
    have hstep : joinStep s .handler = some { s with flag := value, handler := .signal } := by
      simp only [joinStep, hcase]
    exact .step hstep (hsignalled _ rfl rfl)
  | signal => exact (hsignalled s rfl hcase).mono (by decide)

theorem lock_free (hw : s.watcher = .lock) (hm : s.netMutex = none) : (joinStep s .watcher).isSome := by
  simp [joinStep, hw, hm]

/-- The thread gives the network's mutex back. -/
theorem gives_net (h : JoinInv s) (hw : s.watcher = .lock) :
    Within 4 .joiner s fun s' => (joinStep s' .watcher).isSome := by
  by_cases hm : s.netMutex = none
  · exact .now (lock_free hw hm)
  -- from the last place back to the first
  have hjoin : ∀ t : JoinSystem, t.watcher = .lock → t.joiner = .join →
      Within 1 .joiner t fun s' => (joinStep s' .watcher).isSome := by
    intro t ht hpc
    have hstep : joinStep t .joiner = some
        { t with idx := if t.idx = 2 then 0 else t.idx + 1, netMutex := none, joiner := .top } := by
      simp only [joinStep, joinThread, hpc]
    exact .step hstep (.now (lock_free ht rfl))
  have hscan : ∀ t : JoinSystem, t.watcher = .lock → t.joiner = .scan →
      Within 2 .joiner t fun s' => (joinStep s' .watcher).isSome := by
    intro t ht hpc
    have hstep : joinStep t .joiner = some { t with joiner := .join } := by
      simp only [joinStep, joinThread, hpc]
    exact .step hstep (hjoin _ ht rfl)
  have hagain : ∀ t : JoinSystem, t.watcher = .lock → t.joiner = .flagAgain →
      Within 3 .joiner t fun s' => (joinStep s' .watcher).isSome := by
    intro t ht hpc
    by_cases hzero : t.flag = 0
    · have hstep : joinStep t .joiner = some { t with netMutex := none, joiner := .top } := by
        simp only [joinStep, joinThread, hpc, if_pos hzero]
      exact .step hstep (.now (lock_free ht rfl))
    · have hstep : joinStep t .joiner = some { t with joiner := .scan } := by
        simp only [joinStep, joinThread, hpc, if_neg hzero]
      exact .step hstep (hscan _ ht rfl)
  have hin : s.holdsNet .joiner := by
    by_contra hout
    rcases owner_of_ne_none h.net hm hout with hsig | hfalse
    · exact nomatch hw.symm.trans hsig
    · exact hfalse
  cases hpc : s.joiner <;> simp [JoinSystem.holdsNet, hpc, JoinPc.inNet] at hin
  case linkTest =>
    by_cases hup : s.link = 1 ∧ s.run = true
    · have hstep : joinStep s .joiner = some { s with netMutex := none, joiner := .linkWait } := by
        simp only [joinStep, joinThread, hpc, if_pos hup]
      exact .step hstep (.now (lock_free hw rfl))
    · have hstep : joinStep s .joiner = some { s with joiner := .flagAgain } := by
        simp only [joinStep, joinThread, hpc, if_neg hup]
      exact .step hstep (hagain _ hw rfl)
  case flagAgain => exact (hagain s hw hpc).mono (by decide)
  case scan => exact (hscan s hw hpc).mono (by decide)
  case join => exact (hjoin s hw hpc).mono (by decide)

/-- **No thread waits for nothing.** In every state that any interleaving
reaches, the thread that joins sleeps only while it is to, or was when the
program ended, and no two threads wait for each other. -/
theorem joinLoop_awake {s₀ : JoinSystem} (h : JoinStart s₀) {as : List JoinAct}
    (hrun : exec joinStep s₀ as = some s) : JoinAwake s := by
  have hinv := h.reached hrun
  refine ⟨fun hpc => ?_, fun hpc => ?_, fun hnone => ?_, gives_net hinv⟩
  · rw [← or_assoc]
    refine (hinv.link hpc).imp (fun hup => ?_) fun hw => ?_
    · cases hrun : s.run with
      | true => exact .inl ⟨hup, hrun⟩
      | false => exact .inr ⟨hup, hrun⟩
    cases hcase : s.watcher with
    | line => exact absurd hcase hw
    | lock =>
      have hfree : s.netMutex = none := by
        by_contra hm
        have hout : ¬ s.holdsNet .joiner := by simp [JoinSystem.holdsNet, hpc, JoinPc.inNet]
        rcases owner_of_ne_none hinv.net hm hout with hsig | hfalse
        · exact nomatch hcase.symm.trans hsig
        · exact hfalse
      have hstep : joinStep s .watcher = some { s with netMutex := some .watcher, watcher := .signal } := by
        simp only [joinStep, hcase, if_pos hfree]
      exact .step hstep (wakes_link rfl hpc)
    | signal => exact (wakes_link hcase hpc).mono (by decide)
  · exact (hinv.flag hpc).imp_right fun hsig => wakes_flag hsig hpc
  · cases hpc : s.joiner <;> simp [joinThread, hpc] at hnone
    case top => split_ifs at hnone
    case flagTest => split_ifs at hnone
    case linkTest => split_ifs at hnone
    case flagAgain => split_ifs at hnone
    case flagLock => exact .inr (.inr (.inr (.inr (unblocked_flag hinv hnone (.inl hpc)))))
    case flagWait => exact .inr (.inr (.inl rfl))
    case flagWoken => exact .inr (.inr (.inr (.inr (unblocked_flag hinv hnone (.inr hpc)))))
    case netLock => exact .inr (.inr (.inr (.inl (unblocked_net hinv hnone (.inl hpc)))))
    case linkWait => exact .inr (.inl rfl)
    case linkWoken => exact .inr (.inr (.inr (.inl (unblocked_net hinv hnone (.inr hpc)))))
    case ended => exact .inl rfl

/-! ### The order of the tries -/

/-- What the thread does with `idx` in a step: it starts over behind its sleep
for the link, or tries the entry. -/
def turns (s : JoinSystem) : JoinAct → List Turn
  | .joiner =>
    match s.joiner with
    | .linkWoken => if s.netMutex = none then [.restart] else []
    | .join => [.use s.idx]
    | _ => []
  | _ => []

/-- `idx` is the place whose turn it is. -/
structure Rotates (s : JoinSystem) (ts : List Turn) : Prop where
  idx : s.idx = place 3 ts
  inTurn : InTurn 3 ts

theorem next_three (i : ℕ) : next 3 i = if i = 2 then 0 else i + 1 := by
  unfold next
  by_cases h : i = 2
  · rw [if_pos h, if_pos (by omega)]
  · rw [if_neg h, if_neg (by omega)]

/-- What the others do to the thread: they wake it, or leave it where it is. -/
structure OthersStep (s s' : JoinSystem) : Prop where
  idx : s'.idx = s.idx
  joiner : s'.joiner = s.joiner ∨ (s.joiner = .flagWait ∧ s'.joiner = .flagWoken) ∨
    (s.joiner = .linkWait ∧ s'.joiner = .linkWoken)

theorem othersStep_joinStep (hne : a ≠ .joiner) (hs : joinStep s a = some s') : OthersStep s s' := by
  cases a with
  | joiner => exact absurd rfl hne
  | spurious =>
    unfold joinStep at hs
    dsimp only at hs
    split at hs
    next hpc =>
      obtain rfl := Option.some.inj hs
      exact ⟨rfl, .inr (.inl ⟨hpc, rfl⟩)⟩
    next hpc =>
      obtain rfl := Option.some.inj hs
      exact ⟨rfl, .inr (.inr ⟨hpc, rfl⟩)⟩
    next => exact nomatch hs
  | line line =>
    obtain ⟨-, hs⟩ := Option.ite_none_right_eq_some.mp hs
    obtain ⟨poll, -, rfl⟩ := Option.map_eq_some_iff.mp hs
    exact ⟨rfl, .inl rfl⟩
  | poll | post value | startScan | setType type =>
    obtain ⟨-, hs⟩ := Option.ite_none_right_eq_some.mp hs
    exact Option.some.inj hs ▸ ⟨rfl, .inl rfl⟩
  | watcher =>
    unfold joinStep at hs
    cases hw : s.watcher with
    | line =>
      simp only [hw] at hs
      exact nomatch hs
    | lock =>
      simp only [hw, Option.ite_none_right_eq_some] at hs
      exact Option.some.inj hs.2 ▸ ⟨rfl, .inl rfl⟩
    | signal =>
      simp only [hw] at hs
      obtain rfl := Option.some.inj hs
      rcases wake_cases s .linkWait .linkWoken with ⟨hpc, heq⟩ | ⟨-, heq⟩
      · rw [heq]
        exact ⟨rfl, .inr (.inr ⟨hpc, rfl⟩)⟩
      · rw [heq]
        exact ⟨rfl, .inl rfl⟩
  | handler =>
    unfold joinStep at hs
    cases hh : s.handler with
    | idle =>
      simp only [hh] at hs
      exact nomatch hs
    | write value =>
      simp only [hh] at hs
      exact Option.some.inj hs ▸ ⟨rfl, .inl rfl⟩
    | signal =>
      simp only [hh] at hs
      obtain rfl := Option.some.inj hs
      rcases wake_cases s .flagWait .flagWoken with ⟨hpc, heq⟩ | ⟨-, heq⟩
      · rw [heq]
        exact ⟨rfl, .inr (.inl ⟨hpc, rfl⟩)⟩
      · rw [heq]
        exact ⟨rfl, .inl rfl⟩
  | stop => exact Option.some.inj hs ▸ ⟨rfl, .inl rfl⟩

theorem turns_of_ne (hne : a ≠ .joiner) : turns s a = [] := by
  cases a <;> first | rfl | exact absurd rfl hne

/-- A step does that with `idx`. -/
theorem idx_joinStep (hs : joinStep s a = some s') :
    s'.idx = (turns s a).foldl (Rotation.advance 3) s.idx := by
  by_cases hj : a = .joiner
  · subst hj
    unfold joinStep joinThread at hs
    unfold turns
    cases hpc : s.joiner with
    | linkWoken =>
      simp only [hpc, Option.ite_none_right_eq_some] at hs
      obtain ⟨hfree, hs⟩ := hs
      simp only [if_pos hfree]
      exact Option.some.inj hs ▸ rfl
    | join =>
      simp only [hpc] at hs
      obtain rfl := Option.some.inj hs
      exact (next_three s.idx).symm
    | flagWait | linkWait | ended =>
      simp only [hpc] at hs
      exact nomatch hs
    | scan =>
      simp only [hpc] at hs
      exact Option.some.inj hs ▸ rfl
    | flagLock | flagWoken | netLock =>
      simp only [hpc, Option.ite_none_right_eq_some] at hs
      exact Option.some.inj hs.2 ▸ rfl
    | top | flagTest | linkTest | flagAgain =>
      simp only [hpc] at hs
      split_ifs at hs <;> exact Option.some.inj hs ▸ rfl
  · rw [turns_of_ne hj]
    exact (othersStep_joinStep hj hs).idx

theorem rotates_step {ts : List Turn} (h : Rotates s ts) (hs : joinStep s a = some s') :
    Rotates s' (ts ++ turns s a) := by
  refine ⟨?_, ?_⟩
  · rw [idx_joinStep hs, h.idx, place, place, List.foldl_append]
  · have hcases : turns s a = [] ∨ turns s a = [.restart] ∨ turns s a = [.use s.idx] := by
      unfold turns
      split
      · split
        · split_ifs
          · exact .inr (.inl rfl)
          · exact .inl rfl
        · exact .inr (.inr rfl)
        · exact .inl rfl
      · exact .inl rfl
    rcases hcases with heq | heq | heq
    · rw [heq, List.append_nil]
      exact h.inTurn
    · rw [heq]
      exact h.inTurn.restart
    · rw [heq, h.idx]
      exact h.inTurn.use

/-- **The tries go round**, in every interleaving: each is of the entry behind
the one before, and of the first entry behind a sleep for the link. Three in a
row without such a sleep are of all three entries. -/
theorem joinLoop_inTurn {s₀ : JoinSystem} (h : JoinStart s₀) {as : List JoinAct}
    (hrun : exec joinStep s₀ as = some s) :
    InTurn 3 (outputs joinStep turns s₀ as) ∧
      ∀ (pre : List Turn) (us : List ℕ) (post : List Turn),
        outputs joinStep turns s₀ as = pre ++ us.map .use ++ post → 3 ≤ us.length →
        ∀ j < 3, j ∈ us := by
  have hrot := outputs_induct (I := Rotates) ⟨h.idx, inTurn_nil⟩
    (fun _ _ _ _ hi hs => rotates_step hi hs) hrun
  refine ⟨hrot.inTurn, fun pre us post heq hlen j hj => ?_⟩
  exact (heq ▸ hrot.inTurn).of_append.covers (by decide) hlen hj

/-! ### When the tries end -/

/-- The network that is tried in a step. -/
def tries (s : JoinSystem) : JoinAct → List CStr
  | .joiner =>
    match s.joiner with
    | .join => [s.poll.info.autoJoinNetMac.getD s.idx []]
    | _ => []
  | _ => []

/-- What ends the tries: the user has stopped them, the link is up while the
program runs, or the program has ended. -/
inductive JoinStop
  | user
  | linked
  | program
  deriving DecidableEq, Repr

def JoinStop.Holds (s : JoinSystem) : JoinStop → Prop
  | .user => s.flag = 0
  | .linked => s.link = 1 ∧ s.run = true
  | .program => s.run = false

/-- The tries the thread can still make, by where it is. -/
def JoinStop.left : JoinStop → JoinPc → ℕ
  | .user, .scan | .user, .join => 1
  | .user, _ => 0
  | .linked, .flagAgain | .linked, .scan | .linked, .join => 1
  | .linked, _ => 0
  | .program, .top | .program, .ended => 0
  | .program, _ => 1

variable {r : JoinStop}

theorem JoinStop.left_le (r : JoinStop) (pc : JoinPc) : r.left pc ≤ 1 := by
  cases r <;> cases pc <;> decide

/-- The thread pays for a try with what is left. -/
theorem tries_joinThread (hr : r.Holds s) (hs : joinThread s = some s') :
    (tries s .joiner).length + r.left s'.joiner ≤ r.left s.joiner := by
  unfold joinThread at hs
  unfold tries
  cases hpc : s.joiner with
  | top =>
    simp only [hpc] at hs
    split_ifs at hs with hon <;> obtain rfl := Option.some.inj hs
    · cases r with
      | user => exact le_rfl
      | linked => exact le_rfl
      | program => exact nomatch hon.1.symm.trans hr
    · cases r <;> exact le_rfl
  | flagLock | flagWoken | netLock | linkWoken =>
    simp only [hpc, Option.ite_none_right_eq_some] at hs
    obtain rfl := Option.some.inj hs.2
    cases r <;> exact le_rfl
  | flagTest =>
    simp only [hpc] at hs
    split_ifs at hs <;> obtain rfl := Option.some.inj hs <;> cases r <;> exact le_rfl
  | flagWait | linkWait | ended =>
    simp only [hpc] at hs
    exact nomatch hs
  | linkTest =>
    simp only [hpc] at hs
    split_ifs at hs with hup <;> obtain rfl := Option.some.inj hs
    · cases r <;> exact le_rfl
    · cases r with
      | user => exact le_rfl
      | linked => exact absurd hr hup
      | program => exact le_rfl
  | flagAgain =>
    simp only [hpc] at hs
    split_ifs at hs with hzero <;> obtain rfl := Option.some.inj hs
    · cases r <;> exact Nat.zero_le _
    · cases r with
      | user => exact absurd hr hzero
      | linked => exact le_rfl
      | program => exact le_rfl
  | scan =>
    simp only [hpc] at hs
    obtain rfl := Option.some.inj hs
    cases r <;> exact le_rfl
  | join =>
    simp only [hpc] at hs
    obtain rfl := Option.some.inj hs
    cases r <;> exact le_rfl

/-- A step of another thread leaves what is left. -/
theorem left_joinStep (hne : a ≠ .joiner) (hs : joinStep s a = some s') :
    r.left s'.joiner = r.left s.joiner := by
  rcases (othersStep_joinStep hne hs).joiner with heq | ⟨hpc, heq⟩ | ⟨hpc, heq⟩
  · rw [heq]
  · rw [heq, hpc]
    cases r <;> rfl
  · rw [heq, hpc]
    cases r <;> rfl

theorem tries_of_ne (hne : a ≠ .joiner) : tries s a = [] := by
  cases a <;> first | rfl | exact absurd rfl hne

/-- **The tries end.** From any state on, as long as one of these holds throughout,
that the user has stopped them, that the link is up in a program that runs, or
that the program has ended, every interleaving has one more try at most. -/
theorem joinLoop_stops (r : JoinStop) {as : List JoinAct}
    (hrun : Run joinStep (fun s _ => r.Holds s) s as s') : (outputs joinStep tries s as).length ≤ 1 := by
  have hstep : ∀ s a s', r.Holds s → joinStep s a = some s' →
      (tries s a).length + r.left s'.joiner ≤ r.left s.joiner := by
    intro s a s' hr hs
    by_cases hj : a = .joiner
    · subst hj
      exact tries_joinThread hr hs
    · rw [left_joinStep hj hs, tries_of_ne hj, List.length_nil, Nat.zero_add]
  have hle := hrun.outputs_le (m := fun s => r.left s.joiner) hstep
  exact (Nat.le_add_right _ _).trans (hle.trans (r.left_le s.joiner))

/-! ### A terminal that is not linked -/

/-- The threads at the first start, and the user has not asked yet. -/
def joinFresh : JoinSystem where
  run := true
  type := nodeTypeSlbT
  flag := 0
  poll := ⟨-1, -1, freshTerminal.info⟩
  idx := 0
  netMutex := none
  flagMutex := none
  joiner := .top
  watcher := .line
  handler := .idle

theorem joinStart_fresh : JoinStart joinFresh := ⟨rfl, rfl, rfl, rfl, rfl, rfl, rfl⟩

/-- The thread falls asleep, the user asks, and the thread tries `n` times. -/
def joinTries (n : ℕ) : List JoinAct :=
  List.replicate 3 .joiner ++ [.post 1, .handler, .handler] ++ List.replicate (8 * n - 1) .joiner

theorem joinLoop_awake_fresh : ∃ s, exec joinStep joinFresh (joinTries 1) = some s ∧ JoinAwake s := by
  have hrun : exec joinStep joinFresh (joinTries 1) = some _ := rfl
  exact ⟨_, hrun, joinLoop_awake joinStart_fresh hrun⟩

theorem joinLoop_inTurn_fresh : outputs joinStep turns joinFresh (joinTries 4) =
      [.use 0, .use 1, .use 2, .use 0] ∧ InTurn 3 (outputs joinStep turns joinFresh (joinTries 4)) := by
  have hrun : exec joinStep joinFresh (joinTries 4) = some _ := rfl
  exact ⟨rfl, (joinLoop_inTurn joinStart_fresh hrun).1⟩

theorem joinLoop_stops_fresh :
    (outputs joinStep tries { joinFresh with joiner := .scan } [.joiner, .joiner]).length ≤ 1 := by
  have hscan : Run joinStep (fun s _ => JoinStop.user.Holds s) { joinFresh with joiner := .scan }
    [.joiner] _ := Run.nil.snoc rfl rfl
  have hrun : Run joinStep (fun s _ => JoinStop.user.Holds s) { joinFresh with joiner := .scan }
    [.joiner, .joiner] _ := hscan.snoc rfl rfl
  exact joinLoop_stops .user hrun

end WtslCore
