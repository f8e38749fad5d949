/-
# The multicast thread and a peer that keeps sending

One pass of `wtsl_core_splink_gnode_service` reads the clock; once every
`HEARTBEAT_INTERVAL` it sends its heartbeat and cleans the table, and every
pass waits up to a second for a datagram. The clock is exact and a pass takes
no time but its waiting; `time(NULL)` is the clock's whole seconds. A peer's
heartbeats come an interval apart, and none is lost.

The cleanings of this node are one interval apart too (`Paced.sent`), so each
of them finds the peer's last heartbeat equally old: as old as the peer's
phase says, between one cleaning and the next. The timeout is shorter than the
interval, and a peer whose phase is longer than the timeout is removed though
it never stops sending (`peer_removed_of_phase`); a peer whose heartbeats fall
into the second of the cleaning is removed when a datagram of somebody else
wakes the thread first (`peer_kept_iff`).

Key definitions: `McService`, `McService.send`, `McService.recvHeartbeats`, `Watch`,
`Pass.Timely`, `Schedule`, `PeerKept`.
Key theorems: `Paced.step`, `peer_removed_of_phase`, `peer_kept_iff`.
-/
import Mathlib.Algebra.Order.Archimedean.Basic
import Mathlib.Algebra.Order.Floor.Ring
import Mathlib.Data.Rat.Floor
import WtslCore.Lib.Run
import WtslCore.Splink.McNodes

namespace WtslCore

open Runs

/-- `HEARTBEAT_INTERVAL`, in seconds. -/
def heartbeatInterval : ℤ := 60

/-- A datagram on the multicast port. -/
structure McDatagram where
  sender : McIp
  text : List Char

/-- `strstr(buffer, "HEARTBEAT:") == buffer`, for the 127 bytes that are read. -/
def McDatagram.isHeartbeat (d : McDatagram) : Bool :=
  "HEARTBEAT:".toList.isPrefixOf (cstr (d.text.take 127))

/-- The thread: the table, and when it last sent. -/
structure McService where
  table : McTable
  lastSendTime : ℤ

/-- Before the first pass. -/
def McService.start : McService := ⟨.start, 0⟩

/-- The first half of a pass, at time `now`: the heartbeat, and the cleaning. -/
def McService.send (s : McService) (now : ℤ) : McService :=
  if heartbeatInterval ≤ now - s.lastSendTime then ⟨cleanTimeoutMcNodes s.table now, now⟩ else s

/-- `recv_heartbeats`, at time `now`: `none` if `select` timed out. -/
def McService.recvHeartbeats (s : McService) (now : ℤ) : Option McDatagram → McService
  | none => s
  | some d => if d.isHeartbeat then { s with table := updateNodeList s.table now d.sender.1 } else s

/-- The time of an address in the table. -/
def McTable.get (t : McTable) (ip : CStr) : Option ℤ := t.entries.lookup ip

/-- A pass: how long it waits, and the datagram it reads, if one comes. -/
structure Pass (T : Type*) where
  wait : T
  datagram : Option McDatagram

section

variable {T : Type*}

/-- The datagram is a heartbeat of the peer. -/
def Pass.fromPeer (peer : McIp) (p : Pass T) : Bool :=
  p.datagram.any fun d => d.sender == peer && d.isHeartbeat

variable {peer : McIp} {p : Pass T}

/-! ### What a pass does to the table -/

theorem Tabulates.get_eq {t : McTable} {m : HeartbeatMap} (h : Tabulates t m) (ip : CStr) :
    t.get ip = m.get ip := by
  unfold McTable.get HeartbeatMap.get
  rw [h.entries_eq]

/-- The table after the first half of a pass. -/
theorem send_table {s : McService} {m : HeartbeatMap} (h : Tabulates s.table m) (now : ℤ) :
    Tabulates (s.send now).table
      (if heartbeatInterval ≤ now - s.lastSendTime then m.clean now else m) := by
  unfold McService.send
  split_ifs
  · exact tabulates_clean h now
  · exact h

/-- The table after the second half. -/
theorem recvHeartbeats_table {s : McService} {m : HeartbeatMap} (h : Tabulates s.table m) (now : ℤ)
    (d : Option McDatagram) : ∃ m', Tabulates (s.recvHeartbeats now d).table m' ∧
      ((∃ d' ∈ d, d'.isHeartbeat = true ∧ m' = m.heartbeat now d'.sender.1) ∨
        (∀ d' ∈ d, d'.isHeartbeat = false) ∧ m' = m) := by
  cases d with
  | none => exact ⟨m, h, .inr ⟨nofun, rfl⟩⟩
  | some d =>
    unfold McService.recvHeartbeats
    cases hd : d.isHeartbeat with
    | true =>
      dsimp only
      rw [if_pos hd]
      exact ⟨_, tabulates_heartbeat h now d.sender, .inl ⟨d, rfl, hd, rfl⟩⟩
    | false =>
      dsimp only
      rw [if_neg (by rw [hd]; exact Bool.false_ne_true)]
      refine ⟨m, h, .inr ⟨?_, rfl⟩⟩
      rintro _ ⟨⟩
      exact hd

theorem recvHeartbeats_lastSendTime (s : McService) (now : ℤ) (d : Option McDatagram) :
    (s.recvHeartbeats now d).lastSendTime = s.lastSendTime := by
  cases d with
  | none => rfl
  | some d =>
    unfold McService.recvHeartbeats
    dsimp only
    split_ifs <;> rfl

theorem get_send {s : McService} {m : HeartbeatMap} (h : Tabulates s.table m) (now : ℤ) (ip : CStr) :
    (s.send now).table.get ip =
      if heartbeatInterval ≤ now - s.lastSendTime then
        (s.table.get ip).filter fun time => decide (now - time ≤ nodeTimeout)
      else s.table.get ip := by
  rw [(send_table h now).get_eq, h.get_eq]
  split_ifs
  · exact get_clean m now ip
  · rfl

/-- A time the peer has after a pass is that of the heartbeat read, or it had
it before. -/
theorem get_pass {s : McService} {m : HeartbeatMap} (h : Tabulates s.table m) (now now' : ℤ)
    {time : ℤ} (htime : time ∈ ((s.send now).recvHeartbeats now' p.datagram).table.get peer.1) :
    p.fromPeer peer = true ∧ time = now' ∨
      p.fromPeer peer = false ∧ time ∈ s.table.get peer.1 := by
  obtain ⟨m₀, htab₀⟩ : ∃ m₀, Tabulates (s.send now).table m₀ := ⟨_, send_table h now⟩
  obtain ⟨m', htab', hm'⟩ := recvHeartbeats_table htab₀ now' p.datagram
  have hold : time ∈ (s.send now).table.get peer.1 → time ∈ s.table.get peer.1 := by
    rw [get_send h]
    split_ifs
    · exact fun ht => (Option.mem_filter_iff.mp ht).1
    · exact id
  rw [htab'.get_eq] at htime
  unfold Pass.fromPeer
  rcases hm' with ⟨d, hd, hbeat, rfl⟩ | ⟨hnone, rfl⟩
  · rw [Option.mem_def.mp hd, Option.any_some, hbeat, Bool.and_true]
    by_cases hsender : d.sender = peer
    · left
      refine ⟨beq_iff_eq.mpr hsender, ?_⟩
      rw [← hsender, get_heartbeat_self] at htime
      split_ifs at htime
      · exact (Option.mem_some_iff.mp htime).symm
      · exact absurd htime (Option.not_mem_none time)
    · right
      refine ⟨beq_false_of_ne hsender, hold ?_⟩
      have hip : peer.1 ≠ d.sender.1 := fun heq => hsender (Subtype.ext heq.symm)
      rw [get_heartbeat_ne _ _ hip, ← htab₀.get_eq] at htime
      exact htime
  · right
    refine ⟨?_, hold ?_⟩
    · rw [Option.any_eq_false]
      intro d hd
      rw [hnone d hd, Bool.and_false]
    · rw [htab₀.get_eq]
      exact htime

/-! ### Exact clocks -/

/-- The thread, the clock at the start of a pass, and when the peer's next
heartbeat comes. -/
structure Watch (T : Type*) where
  service : McService
  clock : T
  next : T

variable [Field T] [LinearOrder T]

/-- What a pass can be: it waits a second at most, and all of it if nothing
came; the peer's heartbeat is read when it comes, and nothing is read after it
before. -/
structure Pass.Timely (peer : McIp) (w : Watch T) (p : Pass T) : Prop where
  wait_nonneg : 0 ≤ p.wait
  wait_le : p.wait ≤ 1
  timeout : p.datagram = none → p.wait = 1 ∧ w.clock + 1 < w.next
  clock_le : w.clock + p.wait ≤ w.next
  beat : p.fromPeer peer = true → w.clock + p.wait = w.next

/-- When the thread starts, as a time since the Epoch, and when the peer's
first heartbeat comes. -/
structure Schedule (T : Type*) [Field T] [LinearOrder T] where
  start : T
  first : T
  start_nonneg : 0 ≤ start
  start_le : start ≤ first

/-- Before the first pass. -/
def Schedule.watch (sch : Schedule T) : Watch T := ⟨.start, sch.start, sch.first⟩

section

variable [FloorRing T]

/-- One pass. -/
def passStep (peer : McIp) (w : Watch T) (p : Pass T) : Option (Watch T) :=
  some {
    service := (w.service.send ⌊w.clock⌋).recvHeartbeats ⌊w.clock + p.wait⌋ p.datagram
    clock := w.clock + p.wait
    next := if p.fromPeer peer then w.next + 60 else w.next }

/-- The second in which the thread sends and cleans first: it starts with a
`last_send_time` of 0. -/
def Schedule.firstSend (sch : Schedule T) : ℤ := max 60 ⌊sch.start⌋

/-- The phase of the peer, in seconds: how long after its heartbeat this node
cleans, modulo the interval. -/
def Schedule.phase (sch : Schedule T) : ℤ := (sch.firstSend - ⌊sch.first⌋) % heartbeatInterval

/-- The next pass does not clean the peer away. -/
def PeerKept (peer : McIp) (w : Watch T) : Prop :=
  (w.service.table.get peer.1).isSome = true →
    ((w.service.send ⌊w.clock⌋).table.get peer.1).isSome = true

end

variable {sch : Schedule T} {w w' : Watch T} {passes : List (Pass T)}

/-- Something else comes. -/
def junkPass (peer : McIp) (wait : T) : Pass T := ⟨wait, some ⟨peer, []⟩⟩

theorem junkPass_timely (peer : McIp) {wait : T} (h0 : 0 ≤ wait) (h1 : wait ≤ 1)
    (hle : w.clock + wait ≤ w.next) : (junkPass peer wait).Timely peer w where
  wait_nonneg := h0
  wait_le := h1
  timeout := nofun
  clock_le := hle
  beat := by
    intro hbeat
    rw [Pass.fromPeer, junkPass, Option.any_some, Bool.and_eq_true] at hbeat
    exact nomatch hbeat.2

/-! ### The cycle of the thread and the peer's -/

variable [FloorRing T]

/-- The thread sends a whole number of intervals after it sent first, and its
next time is not over; the peer's heartbeats come a whole number of intervals
after its first; and its time in the table is that of its last one. -/
structure Paced (peer : McIp) (sch : Schedule T) (w : Watch T) : Prop where
  table : ∃ m, Tabulates w.service.table m
  started : 0 ≤ ⌊w.clock⌋ ∧ ⌊sch.start⌋ ≤ ⌊w.clock⌋
  clock_le : w.clock ≤ w.next
  next_eq : (⌊w.next⌋ - ⌊sch.first⌋) % 60 = 0
  sent : w.service.lastSendTime = 0 ∧ ⌊w.clock⌋ ≤ sch.firstSend ∨
    60 ≤ w.service.lastSendTime ∧ (w.service.lastSendTime - sch.firstSend) % 60 = 0 ∧
      w.service.lastSendTime ≤ ⌊w.clock⌋ ∧ ⌊w.clock⌋ ≤ w.service.lastSendTime + 60
  heard : ∀ time ∈ w.service.table.get peer.1, time = ⌊w.next⌋ - 60 ∧ time ≤ ⌊w.clock⌋

theorem paced_start (peer : McIp) (sch : Schedule T) : Paced peer sch sch.watch where
  table := ⟨.empty, tabulates_start⟩
  started := ⟨Int.floor_nonneg.mpr sch.start_nonneg, Int.le_refl _⟩
  clock_le := sch.start_le
  next_eq := by
    show (⌊sch.first⌋ - ⌊sch.first⌋) % 60 = 0
    rw [sub_self]
    rfl
  sent := .inl ⟨rfl, le_max_right _ _⟩
  heard := nofun

/-- A pass that cleans does so a whole number of intervals after the first. -/
theorem Paced.due (h : Paced peer sch w)
    (hdue : heartbeatInterval ≤ ⌊w.clock⌋ - w.service.lastSendTime) :
    60 ≤ ⌊w.clock⌋ ∧ (⌊w.clock⌋ - sch.firstSend) % 60 = 0 := by
  have hstart := h.started
  unfold heartbeatInterval at hdue
  rcases h.sent with ⟨hzero, hle⟩ | ⟨hpos, hmod, hge, hle⟩
  · unfold Schedule.firstSend at hle ⊢
    omega
  · omega

theorem junkPass_step (peer : McIp) (w : Watch T) (wait : T) : passStep peer w (junkPass peer wait) =
    some ⟨w.service.send ⌊w.clock⌋, w.clock + wait, w.next⟩ := by
  have hnot : (junkPass peer wait).fromPeer peer = false := by
    rw [Pass.fromPeer, junkPass, Option.any_some]
    exact Bool.and_false _
  unfold passStep
  rw [hnot]
  rfl

/-- A cleaning finds the peer's last heartbeat as old as its phase says; with
phase 0, it is of this second or a whole interval old. -/
theorem Paced.age (h : Paced peer sch w)
    (hdue : heartbeatInterval ≤ ⌊w.clock⌋ - w.service.lastSendTime) {time : ℤ}
    (htime : time ∈ w.service.table.get peer.1) :
    ⌊w.clock⌋ - time = sch.phase ∨ ⌊w.clock⌋ - time = 60 ∧ sch.phase = 0 := by
  obtain ⟨htime, hle⟩ := h.heard time htime
  obtain ⟨-, hmod⟩ := h.due hdue
  have hclock : ⌊w.clock⌋ ≤ ⌊w.next⌋ := Int.floor_mono h.clock_le
  have hnext := h.next_eq
  unfold Schedule.phase heartbeatInterval
  omega

/-- **A peer whose phase is within the timeout is kept.** -/
theorem Paced.kept (h : Paced peer sch w) (hphase : 1 ≤ sch.phase ∧ sch.phase ≤ nodeTimeout) :
    PeerKept peer w := by
  obtain ⟨m, htab⟩ := h.table
  intro hsome
  obtain ⟨time, htime⟩ := Option.isSome_iff_exists.mp hsome
  rw [get_send htab]
  split_ifs with hdue
  · rw [htime, Option.filter_some, if_pos]
    · rfl
    · rw [decide_eq_true_eq]
      rcases h.age hdue htime with hage | ⟨-, hzero⟩
      · omega
      · omega
  · exact hsome

section

variable [IsStrictOrderedRing T]

theorem Pass.Timely.floor_clock (hp : p.Timely peer w) :
    ⌊w.clock⌋ ≤ ⌊w.clock + p.wait⌋ ∧ ⌊w.clock + p.wait⌋ ≤ ⌊w.clock⌋ + 1 := by
  constructor
  · exact Int.floor_mono (le_add_of_nonneg_right hp.wait_nonneg)
  · rw [← Int.floor_add_one]
    exact Int.floor_mono (add_le_add_right hp.wait_le _)

/-- **A pass keeps the pace.** -/
theorem Paced.step (h : Paced peer sch w) (hp : p.Timely peer w)
    (hs : passStep peer w p = some w') : Paced peer sch w' := by
  obtain ⟨m, htab⟩ := h.table
  obtain ⟨hge, hle⟩ := hp.floor_clock
  obtain ⟨m', htab', hm'⟩ :=
    recvHeartbeats_table (send_table htab ⌊w.clock⌋) ⌊w.clock + p.wait⌋ p.datagram
  cases hs
  have hstart := h.started
  refine ⟨⟨m', htab'⟩, ⟨?_, ?_⟩, ?_, ?_, ?_, ?_⟩
  · exact hstart.1.trans hge
  · exact hstart.2.trans hge
  · show w.clock + p.wait ≤ if _ then _ else _
    split_ifs
    · exact hp.clock_le.trans (le_add_of_nonneg_right (by norm_num))
    · exact hp.clock_le
  · have hnext := h.next_eq
    show (⌊if _ then _ else _⌋ - _) % 60 = 0
    split_ifs
    · rw [Int.floor_add_ofNat]
      omega
    · exact hnext
  · show ((w.service.send ⌊w.clock⌋).recvHeartbeats _ _).lastSendTime = 0 ∧ _ ∨ _
    rw [recvHeartbeats_lastSendTime]
    by_cases hdue : heartbeatInterval ≤ ⌊w.clock⌋ - w.service.lastSendTime
    · obtain ⟨hpos, hmod⟩ := h.due hdue
      have hsend : (w.service.send ⌊w.clock⌋).lastSendTime = ⌊w.clock⌋ := by
        unfold McService.send
        rw [if_pos hdue]
      rw [hsend]
      right
      dsimp only
      omega
    · have hsend : (w.service.send ⌊w.clock⌋).lastSendTime = w.service.lastSendTime := by
        unfold McService.send
        rw [if_neg hdue]
      rw [hsend]
      unfold heartbeatInterval at hdue
      have hfirst : 60 ≤ sch.firstSend := le_max_left _ _
      dsimp only
      rcases h.sent with ⟨hzero, hle'⟩ | ⟨hpos, hmod, hge', hle'⟩
      · left
        omega
      · right
        omega
  · intro time htime
    rcases get_pass htab _ _ htime with ⟨hpeer, rfl⟩ | ⟨hother, hmem⟩
    · refine ⟨?_, Int.le_refl _⟩
      show _ = ⌊if _ then _ else _⌋ - 60
      rw [if_pos hpeer, Int.floor_add_ofNat, hp.beat hpeer, add_sub_cancel_right]
    · show time = ⌊if _ then _ else _⌋ - 60 ∧ _
      rw [if_neg (by rw [hother]; exact Bool.false_ne_true)]
      exact ⟨(h.heard time hmem).1, (h.heard time hmem).2.trans hge⟩

/-- The thread as a system whose passes are timely. -/
abbrev McRun (peer : McIp) (sch : Schedule T) : List (Pass T) → Watch T → Prop :=
  Run (passStep peer) (fun w p => p.Timely peer w) sch.watch

theorem paced_run (h : McRun peer sch passes w) : Paced peer sch w :=
  Run.invariant h (paced_start peer sch) fun _ _ _ hI hok hs => hI.step hok hs

/-! ### A peer that is removed -/

theorem send_entries_nil {s : McService} {m : HeartbeatMap} (h : Tabulates s.table m)
    (hnil : s.table.entries = []) (now : ℤ) : (s.send now).table.entries = [] := by
  have hm : m.entries = [] := by rw [← h.entries_eq, hnil]
  rw [(send_table h now).entries_eq]
  split_ifs
  · show m.entries.filter _ = []
    rw [hm]
    rfl
  · exact hm

/-- Other datagrams keep the thread awake until the peer's first heartbeat. -/
theorem reach_first (peer : McIp) : ∀ (n : ℕ) {passes : List (Pass T)} {w : Watch T}, McRun peer sch passes w →
    w.next = sch.first → w.service.table.entries = [] → sch.first - w.clock ≤ n →
      ∃ passes' w', McRun peer sch passes' w' ∧ w'.clock = sch.first ∧ w'.next = sch.first ∧
        w'.service.table.entries = []
  | 0, passes, w, hrun, hnext, hnil, hn => by
    have hle : w.clock ≤ sch.first := hnext ▸ (paced_run hrun).clock_le
    have hge : sch.first ≤ w.clock := by simpa using hn
    exact ⟨passes, w, hrun, le_antisymm hle hge, hnext, hnil⟩
  | n + 1, passes, w, hrun, hnext, hnil, hn => by
    obtain ⟨m, htab⟩ := (paced_run hrun).table
    have hle : w.clock ≤ sch.first := hnext ▸ (paced_run hrun).clock_le
    -- a pass of a second, or what is left of it
    have hwait : w.clock + min 1 (sch.first - w.clock) ≤ w.next := by
      rw [hnext]
      have := min_le_right 1 (sch.first - w.clock)
      linarith
    have htimely : (junkPass peer (min 1 (sch.first - w.clock))).Timely peer w :=
      junkPass_timely peer (le_min zero_le_one (sub_nonneg.mpr hle)) (min_le_left _ _) hwait
    have hnil' := send_entries_nil htab hnil ⌊w.clock⌋
    refine reach_first peer n (hrun.snoc htimely (junkPass_step peer w _)) hnext hnil' ?_
    show sch.first - (w.clock + min 1 (sch.first - w.clock)) ≤ n
    have hn0 : (0 : T) ≤ n := Nat.cast_nonneg n
    push_cast at hn
    rcases le_total 1 (sch.first - w.clock) with h1 | h1
    · rw [min_eq_left h1]
      linarith
    · rw [min_eq_right h1]
      linarith

/-- The peer's heartbeat comes. -/
def beatPass (peer : McIp) : Pass T := ⟨0, some ⟨peer, "HEARTBEAT:".toList⟩⟩

/-- Its first heartbeat brings the peer into the table. -/
theorem reach_beat (peer : McIp) (sch : Schedule T) : ∃ passes w, McRun peer sch passes w ∧
    w.clock = sch.first ∧ w.next = sch.first + 60 ∧ (w.service.table.get peer.1).isSome = true := by
  obtain ⟨n, hn⟩ := exists_nat_ge (sch.first - sch.start)
  obtain ⟨passes, w, hrun, hclock, hnext, hnil⟩ := reach_first peer n .nil rfl rfl hn
  obtain ⟨m, htab⟩ := (paced_run hrun).table
  have hnil' := send_entries_nil htab hnil ⌊w.clock⌋
  have htab' := send_table htab ⌊w.clock⌋
  have hbeat : (beatPass (T := T) peer).fromPeer peer = true := by
    rw [Pass.fromPeer, beatPass, Option.any_some, beq_self_eq_true, Bool.true_and]
    rfl
  have htimely : (beatPass peer).Timely peer w := by
    refine ⟨le_refl 0, zero_le_one, nofun, ?_, fun _ => ?_⟩
    · rw [hclock, hnext]
      exact le_of_eq (add_zero _)
    · rw [hclock, hnext]
      exact add_zero _
  refine ⟨_, _, hrun.snoc htimely rfl, ?_, ?_, ?_⟩
  · show w.clock + 0 = sch.first
    rw [hclock, add_zero]
  · show (if _ then _ else _) = sch.first + 60
    rw [if_pos hbeat, hnext]
  · show ((updateNodeList _ _ peer.1).get peer.1).isSome = true
    rw [(tabulates_heartbeat htab' _ peer).get_eq, get_heartbeat_self, if_pos]
    · rfl
    · right
      rw [← htab'.entries_eq, hnil']
      exact Nat.zero_lt_succ _

/-- Then other datagrams come second by second, as long as the peer is kept. -/
theorem reach_idle (hkept : ∀ passes w, McRun peer sch passes w → PeerKept peer w) :
    ∀ k : ℕ, k ≤ 60 → ∃ passes w, McRun peer sch passes w ∧ w.clock = sch.first + k ∧
      w.next = sch.first + 60 ∧ (w.service.table.get peer.1).isSome = true ∧
        (0 < k → w.service.lastSendTime < ⌊w.clock⌋)
  | 0, _ => by
    obtain ⟨passes, w, hrun, hclock, hnext, hsome⟩ := reach_beat peer sch
    refine ⟨passes, w, hrun, ?_, hnext, hsome, fun h => absurd h (Nat.lt_irrefl 0)⟩
    rw [hclock, Nat.cast_zero, add_zero]
  | k + 1, hk => by
    obtain ⟨passes, w, hrun, hclock, hnext, hsome, -⟩ := reach_idle hkept k (by omega)
    have hpaced := paced_run hrun
    have hwait : w.clock + 1 ≤ w.next := by
      have hk' : ((k + 1 : ℕ) : T) ≤ 60 := by exact_mod_cast hk
      rw [hclock, hnext, add_assoc]
      push_cast at hk'
      exact add_le_add_right hk' _
    have htimely := junkPass_timely peer zero_le_one (le_refl 1) hwait
    refine ⟨_, _, hrun.snoc htimely (junkPass_step peer w 1), ?_, hnext, ?_, fun _ => ?_⟩
    · show w.clock + 1 = _
      rw [hclock]
      push_cast
      ring
    · exact hkept passes w hrun hsome
    · show (w.service.send ⌊w.clock⌋).lastSendTime < ⌊w.clock + 1⌋
      rw [Int.floor_add_one]
      have hstarted := hpaced.started
      unfold McService.send
      split_ifs
      · exact Int.lt_succ _
      · rcases hpaced.sent with ⟨hzero, -⟩ | ⟨-, -, hle, -⟩
        · omega
        · omega

/-- **A peer with any other phase is removed in some run.** -/
theorem peer_removed_of_phase (sch : Schedule T) (peer : McIp) (hphase : ¬ (1 ≤ sch.phase ∧ sch.phase ≤ nodeTimeout)) :
    ∃ passes w, McRun peer sch passes w ∧ ¬ PeerKept peer w := by
  by_contra hnone
  push Not at hnone
  -- this node cleans so many seconds after the peer's first heartbeat
  obtain ⟨k, hk⟩ : ∃ k : ℕ, (k : ℤ) = if sch.phase = 0 then 60 else sch.phase := by
    refine ⟨(if sch.phase = 0 then 60 else sch.phase).toNat, Int.toNat_of_nonneg ?_⟩
    unfold Schedule.phase heartbeatInterval
    split_ifs <;> omega
  have hk60 : 16 ≤ k ∧ k ≤ 60 := by
    unfold Schedule.phase heartbeatInterval nodeTimeout at *
    split_ifs at hk <;> omega
  obtain ⟨passes, w, hrun, hclock, hnext, hsome, hlast⟩ := reach_idle hnone k hk60.2
  have hpaced := paced_run hrun
  obtain ⟨m, htab⟩ := hpaced.table
  obtain ⟨time, htime⟩ := Option.isSome_iff_exists.mp hsome
  have hage := (hpaced.heard time htime).1
  rw [hnext, Int.floor_add_ofNat] at hage
  have hfloor : ⌊w.clock⌋ = ⌊sch.first⌋ + k := by rw [hclock, Int.floor_add_natCast]
  have hdue : heartbeatInterval ≤ ⌊w.clock⌋ - w.service.lastSendTime := by
    have hlt := hlast (by omega)
    have hstarted := hpaced.started
    have hfirst : 0 ≤ ⌊sch.first⌋ := Int.floor_nonneg.mpr (sch.start_nonneg.trans sch.start_le)
    have hmod : (⌊w.clock⌋ - sch.firstSend) % 60 = 0 := by
      unfold Schedule.phase heartbeatInterval at hk
      split_ifs at hk <;> omega
    unfold heartbeatInterval
    rcases hpaced.sent with ⟨hzero, hle⟩ | ⟨hpos, hsent, -, hle⟩
    · unfold Schedule.firstSend at hmod hle
      omega
    · omega
  have hgone := hnone passes w hrun hsome
  rw [get_send htab, if_pos hdue, htime, Option.filter_some, if_neg] at hgone
  · exact nomatch hgone
  · unfold nodeTimeout
    simp only [decide_eq_true_eq]
    omega

/-- A peer whose heartbeats come an interval apart is never cleaned away in
any run, if and only if this node cleans between one second and the timeout
after them. -/
theorem peer_kept_iff (peer : McIp) (sch : Schedule T) :
    (∀ passes w, McRun peer sch passes w → PeerKept peer w) ↔
      1 ≤ sch.phase ∧ sch.phase ≤ nodeTimeout := by
  constructor
  · intro hall
    by_contra hphase
    obtain ⟨passes, w, hrun, hgone⟩ := peer_removed_of_phase sch peer hphase
    exact hgone (hall passes w hrun)
  · intro hphase passes w hrun
    exact (paced_run hrun).kept hphase

end

end

/-- A node of the network. -/
def neighbour : McIp := ⟨"10.0.0.2".toList, by decide⟩

/-- The peer's first heartbeat comes a second after this node cleaned. -/
def lateSchedule : Schedule ℚ := ⟨60, 61, by norm_num, by norm_num⟩

/-- The peer is 59 seconds old at every cleaning, and removed at the first. -/
theorem late_peer_removed :
    ¬ ∀ passes w, McRun neighbour lateSchedule passes w → PeerKept neighbour w := by
  intro hall
  have hphase : lateSchedule.phase = 59 := by
    simp [Schedule.phase, Schedule.firstSend, lateSchedule, heartbeatInterval]
  obtain ⟨passes, w, hrun, hgone⟩ :=
    peer_removed_of_phase lateSchedule neighbour (by rw [hphase]; decide)
  exact hgone (hall passes w hrun)

/-- The peer's heartbeats come ten seconds before this node cleans. -/
def earlySchedule : Schedule ℚ := ⟨60, 110, by norm_num, by norm_num⟩

theorem early_peer_kept : earlySchedule.phase = 10 ∧
    ∀ passes w, McRun neighbour earlySchedule passes w → PeerKept neighbour w := by
  have hphase : earlySchedule.phase = 10 := by
    simp [Schedule.phase, Schedule.firstSend, earlySchedule, heartbeatInterval]
  refine ⟨hphase, (peer_kept_iff neighbour earlySchedule).mpr ?_⟩
  rw [hphase]
  decide

end WtslCore
