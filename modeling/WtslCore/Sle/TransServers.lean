/-
# Restarting the servers of the transparent transport

A server of the TCP or the UDP bridge is a thread of its own, which opens a
socket for the port in memory, and looks at a flag between two calls that
wait. A request for another port takes the flag down, waits a second for the
thread to leave, puts the flag up again and starts a new thread. The threads
and the request are interleaved as they come; that a port which is listened on
cannot be bound again is the system's part.

A thread that waits does not see the flag. A TCP server that waits for a
client is on its port after any number of requests, as long as its `accept`
does not return, and when a request goes back to that port the program exits
(`tcpServers_stale`). A UDP server that leaves late takes the descriptor away
from its successor: no datagram is sent any more until the next request
(`udpSend_lost`). If every old thread is gone when a new one starts, the one
server there is has the descriptor and the port in memory; between its `close`
and the `-1` a call reports success and sends nothing (`udpServers_single`).

Key definitions: `BridgeState`, `BridgeState.op`, `tcpThread`, `udpThread`,
`udpServerSend`, `udpSent`, `StartsAlone`, `Single`.
Key theorems: `tcpServers_stale`, `udpSend_lost`, `single_step`,
`udpServers_single`.
-/
import WtslCore.Lib.Threads
import WtslCore.Sle.TransConfig

namespace WtslCore

open Runs Threads

/-! ### Requests -/

/-- Where a request for a port is: none is served, the port is assigned and
saved, the server is stopped. -/
inductive RestartPc
  | idle
  | assigned
  | stopped
  deriving DecidableEq

/-- What the threads of a server and the requests share: the port in memory
and `g_tcp_running`, or the UDP server's. -/
structure BridgeState where
  port : Int32
  running : Bool
  restart : RestartPc
  booted : Bool
  exited : Bool
  deriving DecidableEq

/-- `tcp_init` or `udp_init` of `wtsl_core_sle`, and the steps of a request:
the port, `sle_stop_..`, and `.._init` after a second. -/
inductive ServerOp
  | boot
  | assign (port : Int32)
  | stop
  | init
  deriving DecidableEq

/-- A step of the program, and whether it starts a thread. The TCP server's
request is guarded: it does nothing for the port there is. What `shutdown`
does to a call that waits is left to the call. -/
def BridgeState.op (guarded : Bool) (s : BridgeState) : ServerOp → Option (BridgeState × Bool)
  | .boot =>
    if s.exited ∨ s.booted then none else some ({ s with booted := true, running := true }, true)
  | .assign port =>
    if s.exited ∨ s.restart ≠ .idle ∨ (guarded = true ∧ port = s.port) then none
    else some ({ s with port := port, restart := .assigned }, false)
  | .stop =>
    if s.exited ∨ s.restart ≠ .assigned then none
    else some ({ s with running := false, restart := .stopped }, false)
  | .init =>
    if s.exited ∨ s.restart ≠ .stopped then none
    else some ({ s with running := true, restart := .idle }, true)

/-- `htons(port)`. -/
def sinPort (port : Int32) : UInt16 := port.toUInt32.toUInt16

/-- A port can be bound: nobody listens on it. Port 0 is any that is free. -/
def PortFree (ports : List (Option UInt16)) (q : UInt16) : Prop := q = 0 ∨ some q ∉ ports

instance (ports : List (Option UInt16)) (q : UInt16) : Decidable (PortFree ports q) :=
  inferInstanceAs (Decidable (q = 0 ∨ some q ∉ ports))

/-! ### The TCP server -/

/-- Where a thread of `create_tcp_server` is, with the thread of its client:
before `bind`, at the test of the flag, in `accept`, at the client's test, in
`recv`, and in `pthread_join`. -/
inductive TcpServer
  | starting
  | test (q : UInt16)
  | accepting (q : UInt16)
  | recvTest (q : UInt16)
  | receiving (q : UInt16)
  | joining (q : UInt16)
  | ended
  deriving DecidableEq

/-- The port it listens on. -/
def TcpServer.port : TcpServer → Option UInt16
  | starting | ended => none
  | test q | accepting q | recvTest q | receiving q | joining q => some q

/-- How a call ends. -/
inductive TcpAct
  | bind (ok : Bool)
  | test
  | accept (ok : Bool)
  | recvTest
  | recv (received : Bool)
  | join
  deriving DecidableEq

abbrev TcpServers := Pool BridgeState TcpServer

/-- `create_tcp_server` and its `recv_msg`. A call of the first that fails ends the program. -/
def tcpThread (p : TcpServers) (_ : ℕ) (t : TcpServer) (a : TcpAct) : Option (BridgeState × TcpServer) :=
  let s := p.shared
  if s.exited then none
  else
    match t, a with
    | .starting, .bind true =>
      if PortFree (p.threads.map TcpServer.port) (sinPort s.port) then some (s, .test (sinPort s.port))
      else none
    | .starting, .bind false => some ({ s with exited := true }, .ended)
    | .test q, .test => some (s, if s.running then .accepting q else .ended)
    | .accepting q, .accept true => some (s, .recvTest q)
    | .accepting _, .accept false => some ({ s with exited := true }, .ended)
    | .recvTest q, .recvTest => some (s, if s.running then .receiving q else .joining q)
    | .receiving q, .recv received => some (s, if received then .recvTest q else .joining q)
    | .joining q, .join => some (s, .test q)
    | _, _ => none

/-- `tcp_init`, and the request for a TCP port. -/
def tcpMain (p : TcpServers) (m : ServerOp) : Option (BridgeState × Option TcpServer) :=
  (p.shared.op true m).map fun (s, started) => (s, if started then some .starting else none)

def tcpStep : TcpServers → Label TcpAct ServerOp → Option TcpServers := Pool.step tcpThread tcpMain

/-- No server is started. -/
def TcpServers.start (port : Int32) : TcpServers := ⟨⟨port, true, .idle, false, false⟩, []⟩

/-! ### The UDP server -/

/-- Where a thread of `create_udp_server` is, with its receiving thread:
before `socket`, before `bind`, at the test of the flag, in `recvfrom`, before
`close`, and before the descriptor is cleared. -/
inductive UdpServer
  | starting
  | opened
  | test (q : UInt16)
  | receiving (q : UInt16)
  | closing (q : UInt16)
  | closed
  | ended
  deriving DecidableEq

/-- The port it is bound to. -/
def UdpServer.port : UdpServer → Option UInt16
  | starting | opened | closed | ended => none
  | test q | receiving q | closing q => some q

inductive UdpAct
  | socket (ok : Bool)
  | bind (ok : Bool)
  | test
  | recv (received : Bool)
  | close
  | clear
  deriving DecidableEq

/-- `g_udp_server_fd`, as the number of the thread whose socket it is, and
`g_udp_has_client`, besides what all servers share. -/
structure UdpState extends BridgeState where
  fd : Option ℕ
  hasClient : Bool
  deriving DecidableEq

abbrev UdpServers := Pool UdpState UdpServer

/-- `create_udp_server` and its `udp_recv_msg`. -/
def udpThread (p : UdpServers) (i : ℕ) (t : UdpServer) (a : UdpAct) : Option (UdpState × UdpServer) :=
  let s := p.shared
  if s.exited then none
  else
    match t, a with
    | .starting, .socket true => some ({ s with fd := some i }, .opened)
    | .starting, .socket false => some ({ s with exited := true }, .ended)
    | .opened, .bind true =>
      if PortFree (p.threads.map UdpServer.port) (sinPort s.port) then
        some ({ s with hasClient := false }, .test (sinPort s.port))
      else none
    | .opened, .bind false => some ({ s with exited := true }, .ended)
    | .test q, .test => some (s, if s.running then .receiving q else .closing q)
    | .receiving q, .recv true => some ({ s with hasClient := true }, .test q)
    | .receiving q, .recv false => some (s, .closing q)
    | .closing _, .close => some (s, .closed)
    | .closed, .clear => some ({ s with fd := none }, .ended)
    | _, _ => none

/-- `udp_init`, and the request for a UDP port; stopping forgets the client. -/
def udpMain (p : UdpServers) (m : ServerOp) : Option (UdpState × Option UdpServer) :=
  (p.shared.toBridgeState.op false m).map fun (s, started) =>
    (⟨s, p.shared.fd, p.shared.hasClient && m ≠ .stop⟩, if started then some .starting else none)

def udpStep : UdpServers → Label UdpAct ServerOp → Option UdpServers := Pool.step udpThread udpMain

def UdpServers.start (port : Int32) : UdpServers := ⟨⟨⟨port, true, .idle, false, false⟩, none, false⟩, []⟩

/-- `sle_udp_server_send`: what it returns, and the descriptor `sendto` gets. -/
def udpServerSend (s : UdpState) (buffer : List UInt8) : ℤ × Option ℕ :=
  if s.fd = none ∨ s.hasClient = false ∨ buffer.length = 0 then (-1, none) else (0, s.fd)

/-- A thread has a socket that is open. -/
def UdpServer.HasSocket : UdpServer → Bool
  | starting | closed | ended => false
  | opened | test _ | receiving _ | closing _ => true

/-- The server through whose socket the datagram goes: `sendto` fails on a
descriptor that was closed. -/
def udpSent (p : UdpServers) (buffer : List UInt8) : Option ℕ :=
  (udpServerSend p.shared buffer).2.filter fun i => p.threads[i]?.any UdpServer.HasSocket

/-! ### What waits stays -/

theorem portFree_false {ports : List (Option UInt16)} {q : UInt16} (hq : q ≠ 0) (h : some q ∈ ports) :
    ¬ PortFree ports q := by
  rintro (h0 | hfree)
  · exact hq h0
  · exact hfree h

section

variable {p p' : TcpServers} {q : UInt16} {i : ℕ} {ls : List (Label TcpAct ServerOp)}

/-- A thread that binds is starting, and gets a free port, or the program ends. -/
theorem tcpThread_bind {t : TcpServer} {ok : Bool} {r : BridgeState × TcpServer}
    (hr : tcpThread p i t (.bind ok) = some r) :
    PortFree (p.threads.map TcpServer.port) (sinPort p.shared.port) ∨ r.1.exited = true := by
  obtain ⟨-, hr⟩ := Option.ite_none_left_eq_some.mp hr
  cases t with
  | starting =>
    cases ok with
    | false =>
      obtain rfl := Option.some.inj hr
      exact .inr rfl
    | true => exact .inl (Option.ite_none_right_eq_some.mp hr).1
  | _ => exact nomatch hr

/-- **A TCP server that waits for a client is not stopped.** As long as its
`accept` does not return, it listens on its port whatever is requested, and a
new server for that port ends the program. -/
theorem tcpServers_stale (h : exec tcpStep p ls = some p')
    (hi : p.threads[i]? = some (.accepting q)) (hq : q ≠ 0)
    (hwaits : ∀ ok, .thread i (.accept ok) ∉ ls) :
    p'.threads[i]? = some (.accepting q) ∧ (sinPort p'.shared.port = q →
      ∀ j ok p'', tcpStep p' (.thread j (.bind ok)) = some p'' → p''.shared.exited = true) := by
  have hstay : p'.threads[i]? = some (.accepting q) := by
    refine exec_unmoved h hi fun a ha r => ?_
    unfold tcpThread
    cases a with
    | accept ok => exact absurd ha (hwaits ok)
    | _ => simp
  have hheld : some q ∈ p'.threads.map TcpServer.port :=
    List.mem_map.mpr ⟨_, List.mem_of_getElem? hstay, rfl⟩
  refine ⟨hstay, fun hport j ok p'' hs => ?_⟩
  obtain ⟨t, r, -, hr, rfl⟩ := step_thread_iff.mp hs
  rcases tcpThread_bind hr with hfree | hexit
  · rw [hport] at hfree
    exact absurd hfree (portFree_false hq hheld)
  · exact hexit

/-- From 9981 to 9982 and back, while the first server waits. -/
theorem tcpServers_stale_back : ∃ p p' p'' : TcpServers,
    exec tcpStep (.start 9981) [.main .boot, .thread 0 (.bind true), .thread 0 .test] = some p ∧
    exec tcpStep p [.main (.assign 9982), .main .stop, .main .init, .thread 1 (.bind true),
      .thread 1 .test, .main (.assign 9981), .main .stop, .main .init] = some p' ∧
    p'.threads[0]? = some (.accepting 9981) ∧
    tcpStep p' (.thread 2 (.bind false)) = some p'' ∧ p''.shared.exited = true := by
  have hrun : exec tcpStep ⟨⟨9981, true, .idle, true, false⟩, [.accepting 9981]⟩
      [.main (.assign 9982), .main .stop, .main .init, .thread 1 (.bind true),
        .thread 1 .test, .main (.assign 9981), .main .stop, .main .init] =
      some ⟨⟨9981, true, .idle, true, false⟩, [.accepting 9981, .accepting 9982, .starting]⟩ := rfl
  obtain ⟨hstay, hexit⟩ := tcpServers_stale (i := 0) (q := 9981) hrun rfl (by decide) (by decide)
  exact ⟨_, _, _, rfl, hrun, hstay, rfl, hexit rfl 2 false _ rfl⟩

end

/-! ### Whose the descriptor is -/

section

variable {p p' : UdpServers} {i : ℕ} {t : UdpServer} {r : UdpState × UdpServer}

/-- A thread has opened its socket and has not cleared the descriptor. -/
def UdpServer.OwnsFd : UdpServer → Prop
  | starting | ended => False
  | _ => True

/-- What a step of a thread does: it takes the descriptor, clears it, leaves
it, or the program ends. The port it is bound to is the one in memory when it
binds. -/
theorem udpThread_cases {a : UdpAct} (hr : udpThread p i t a = some r) :
    (t = .starting ∧ r = ({ p.shared with fd := some i }, .opened)) ∨
    (t = .closed ∧ r = ({ p.shared with fd := none }, .ended)) ∨
    (t.OwnsFd ∧ r.2.OwnsFd ∧ (∃ c, r.1 = { p.shared with hasClient := c }) ∧
      ∀ q, r.2.port = some q → t.port = some q ∨ q = sinPort p.shared.port) ∨
    r = ({ p.shared with exited := true }, .ended) := by
  obtain ⟨-, hr⟩ := Option.ite_none_left_eq_some.mp hr
  cases t with
  | starting =>
    cases a with
    | socket ok =>
      cases ok with
      | false =>
        obtain rfl := Option.some.inj hr
        exact .inr (.inr (.inr rfl))
      | true =>
        obtain rfl := Option.some.inj hr
        exact .inl ⟨rfl, rfl⟩
    | _ => exact nomatch hr
  | opened =>
    cases a with
    | bind ok =>
      cases ok with
      | false =>
        obtain rfl := Option.some.inj hr
        exact .inr (.inr (.inr rfl))
      | true =>
        obtain ⟨-, hr⟩ := Option.ite_none_right_eq_some.mp hr
        obtain rfl := Option.some.inj hr
        exact .inr (.inr (.inl ⟨trivial, trivial, ⟨_, rfl⟩, fun _ hq => .inr (Option.some.inj hq).symm⟩))
    | _ => exact nomatch hr
  | test q =>
    cases a with
    | test =>
      obtain rfl := Option.some.inj hr
      cases p.shared.running <;> exact .inr (.inr (.inl ⟨trivial, trivial, ⟨_, rfl⟩, fun _ => .inl⟩))
    | _ => exact nomatch hr
  | receiving q =>
    cases a with
    | recv received =>
      cases received <;>
      · obtain rfl := Option.some.inj hr
        exact .inr (.inr (.inl ⟨trivial, trivial, ⟨_, rfl⟩, fun _ => .inl⟩))
    | _ => exact nomatch hr
  | closing q =>
    cases a with
    | close =>
      obtain rfl := Option.some.inj hr
      exact .inr (.inr (.inl ⟨trivial, trivial, ⟨_, rfl⟩, fun _ hq => nomatch hq⟩))
    | _ => exact nomatch hr
  | closed =>
    cases a with
    | clear =>
      obtain rfl := Option.some.inj hr
      exact .inr (.inl ⟨rfl, rfl⟩)
    | _ => exact nomatch hr
  | ended => exact nomatch hr

/-- What a step of a request does: it starts a thread, or a request is under way. -/
theorem udpMain_cases {m : ServerOp} {r : UdpState × Option UdpServer} (hr : udpMain p m = some r) :
    r.1.fd = p.shared.fd ∧ r.1.exited = p.shared.exited ∧
      ((m = .boot ∨ m = .init) ∧ r.2 = some .starting ∨ r.2 = none ∧ r.1.restart ≠ .idle) := by
  obtain ⟨⟨s, started⟩, hop, rfl⟩ := Option.map_eq_some_iff.mp hr
  unfold BridgeState.op at hop
  cases m with
  | boot =>
    obtain ⟨-, hop⟩ := (Option.ite_none_left_eq_some).mp hop
    obtain ⟨rfl, rfl⟩ := Prod.mk.inj (Option.some.inj hop)
    exact ⟨rfl, rfl, .inl ⟨.inl rfl, rfl⟩⟩
  | assign port =>
    obtain ⟨-, hop⟩ := (Option.ite_none_left_eq_some).mp hop
    obtain ⟨rfl, rfl⟩ := Prod.mk.inj (Option.some.inj hop)
    exact ⟨rfl, rfl, .inr ⟨rfl, by simp⟩⟩
  | stop =>
    obtain ⟨-, hop⟩ := (Option.ite_none_left_eq_some).mp hop
    obtain ⟨rfl, rfl⟩ := Prod.mk.inj (Option.some.inj hop)
    exact ⟨rfl, rfl, .inr ⟨rfl, by simp⟩⟩
  | init =>
    obtain ⟨-, hop⟩ := (Option.ite_none_left_eq_some).mp hop
    obtain ⟨rfl, rfl⟩ := Prod.mk.inj (Option.some.inj hop)
    exact ⟨rfl, rfl, .inl ⟨.inr rfl, rfl⟩⟩

/-- Nobody has the descriptor or is about to take it. -/
def Cleared (p : UdpServers) : Prop := p.shared.fd = none ∧ ∀ t ∈ p.threads, t ≠ .starting

/-- So it stays unless a server is started. -/
theorem cleared_step {l : Label UdpAct ServerOp} (h : Cleared p) (hboot : l ≠ .main .boot)
    (hinit : l ≠ .main .init) (hs : udpStep p l = some p') : Cleared p' := by
  refine ⟨?_, forall_step h.2 (fun i t a r ht hr => ?_) (fun m r hl hr t ht => ?_) hs⟩
  · cases l with
    | thread i a =>
      obtain ⟨t, r, ht, hr, rfl⟩ := step_thread_iff.mp hs
      rcases udpThread_cases hr with ⟨hstart, -⟩ | ⟨-, rfl⟩ | ⟨-, -, ⟨c, hc⟩, -⟩ | rfl
      · exact absurd hstart (h.2 t (List.mem_of_getElem? ht))
      · rfl
      · rw [hc]
        exact h.1
      · exact h.1
    | main m =>
      obtain ⟨r, hr, rfl⟩ := step_main_iff.mp hs
      exact (udpMain_cases hr).1.trans h.1
  · rcases udpThread_cases hr with ⟨hstart, -⟩ | ⟨-, rfl⟩ | ⟨-, hsock, -⟩ | rfl
    · exact absurd hstart ht
    · exact UdpServer.noConfusion
    · rintro heq
      rw [heq] at hsock
      exact hsock
    · exact UdpServer.noConfusion
  · rcases (udpMain_cases hr).2.2 with ⟨hm | hm, -⟩ | ⟨hnone, -⟩
    · exact absurd (hm ▸ hl) hboot
    · exact absurd (hm ▸ hl) hinit
    · rw [hnone] at ht
      exact nomatch ht

/-- **A server that leaves late silences its successor.** When the descriptor
was cleared and no thread is about to open one, nothing is sent, whatever the
threads do, until the next request starts a server. -/
theorem udpSend_lost {ls : List (Label UdpAct ServerOp)} (h : exec udpStep p ls = some p')
    (hfd : p.shared.fd = none) (hnone : ∀ t ∈ p.threads, t ≠ .starting)
    (hboot : .main .boot ∉ ls) (hinit : .main .init ∉ ls) (buffer : List UInt8) :
    udpServerSend p'.shared buffer = (-1, none) := by
  suffices hlost : Cleared p' by rw [udpServerSend, if_pos (.inl hlost.1)]
  induction ls generalizing p with
  | nil =>
    obtain rfl := Option.some.inj h
    exact ⟨hfd, hnone⟩
  | cons l ls ih =>
    obtain ⟨p₁, hs, hrest⟩ := Option.bind_eq_some_iff.mp h
    rw [List.mem_cons, not_or] at hboot hinit
    obtain ⟨hfd', hnone'⟩ := cleared_step ⟨hfd, hnone⟩ (Ne.symm hboot.1) (Ne.symm hinit.1) hs
    exact ih hrest hfd' hnone' hboot.2 hinit.2

/-- The old server saw the flag down, and leaves when the new one is up. -/
theorem udpSend_lost_late : ∃ p p' : UdpServers,
    exec udpStep (.start 9982) [.main .boot, .thread 0 (.socket true), .thread 0 (.bind true),
      .thread 0 .test, .main (.assign 9983), .main .stop, .thread 0 (.recv true), .thread 0 .test,
      .main .init, .thread 1 (.socket true), .thread 1 (.bind true), .thread 0 .close,
      .thread 0 .clear] = some p ∧
    exec udpStep p [.thread 1 .test, .thread 1 (.recv true)] = some p' ∧
    p'.shared.hasClient = true ∧ udpServerSend p'.shared [1] = (-1, none) := by
  have hrun : exec udpStep ⟨⟨⟨9983, true, .idle, true, false⟩, none, false⟩, [.ended, .test 9983]⟩
      [.thread 1 .test, .thread 1 (.recv true)] =
    some ⟨⟨⟨9983, true, .idle, true, false⟩, none, true⟩, [.ended, .test 9983]⟩ := rfl
  exact ⟨_, _, rfl, hrun, rfl, udpSend_lost hrun rfl (by decide) (by decide) (by decide) [1]⟩

/-- A server is started when all others are gone. -/
def StartsAlone (p : UdpServers) (l : Label UdpAct ServerOp) : Prop :=
  l = .main .boot ∨ l = .main .init → ∀ t ∈ p.threads, t = .ended

instance (p : UdpServers) (l : Label UdpAct ServerOp) : Decidable (StartsAlone p l) :=
  inferInstanceAs (Decidable (_ → _))

/-- One server at most is at work, the descriptor is its own until it is cleared,
and it is bound to the port in memory unless a request is under way. -/
structure Single (p : UdpServers) : Prop where
  alone : Alone (· = .ended) p
  owner : p.shared.exited = false →
    ∀ i, p.shared.fd = some i ↔ ∃ t, p.threads[i]? = some t ∧ t.OwnsFd
  agrees : p.shared.restart = .idle →
    ∀ t ∈ p.threads, ∀ q, t.port = some q → q = sinPort p.shared.port

theorem udpThread_ended {a : UdpAct} : udpThread p i .ended a = none := by
  unfold udpThread
  cases a <;> simp

/-- Only the thread at work owns the descriptor, whatever it becomes. -/
theorem socket_set_iff {k : ℕ} (h : Alone (· = .ended) p) (ht : p.threads[k]? = some t)
    (hwork : t ≠ .ended) (v : UdpServer) :
    (∃ u, (p.threads.set k v)[i]? = some u ∧ u.OwnsFd) ↔ i = k ∧ v.OwnsFd := by
  constructor
  · rintro ⟨u, hu, hsock⟩
    by_cases hik : k = i
    · subst hik
      rw [List.getElem?_set_self (List.getElem?_eq_some_iff.mp ht).1] at hu
      obtain rfl := Option.some.inj hu
      exact ⟨rfl, hsock⟩
    · rw [List.getElem?_set_ne hik] at hu
      have hbusy : u ≠ .ended := by
        rintro rfl
        exact hsock
      exact absurd (h k i t u ht hu hwork hbusy) hik
  · rintro ⟨rfl, hsock⟩
    exact ⟨v, List.getElem?_set_self (List.getElem?_eq_some_iff.mp ht).1, hsock⟩

theorem single_thread {k : ℕ} {a : UdpAct} (h : Single p) (ht : p.threads[k]? = some t)
    (hr : udpThread p k t a = some r) (hexit : r.1.exited = false) :
    r.1.fd = some i ↔ ∃ u, (p.threads.set k r.2)[i]? = some u ∧ u.OwnsFd := by
  have hwork : t ≠ .ended := by
    rintro rfl
    rw [udpThread_ended] at hr
    exact nomatch hr
  have hbefore : p.shared.exited = false → (p.shared.fd = some i ↔ i = k ∧ t.OwnsFd) := fun hrun => by
    have hset : p.threads.set k t = p.threads := by
      obtain ⟨hk, rfl⟩ := List.getElem?_eq_some_iff.mp ht
      exact List.set_getElem_self hk
    have hiff := socket_set_iff (i := i) h.alone ht hwork t
    rw [hset] at hiff
    exact (h.owner hrun i).trans hiff
  rw [socket_set_iff h.alone ht hwork]
  rcases udpThread_cases hr with ⟨-, rfl⟩ | ⟨-, rfl⟩ | ⟨hsock, hsock', ⟨c, hc⟩, -⟩ | rfl
  · constructor
    · intro heq
      exact ⟨(Option.some.inj heq).symm, trivial⟩
    · rintro ⟨rfl, -⟩
      rfl
  · constructor
    · exact fun heq => nomatch heq
    · exact fun ⟨_, hno⟩ => hno.elim
  · rw [hc] at hexit ⊢
    rw [hbefore hexit]
    exact and_congr_right fun _ => iff_of_true hsock hsock'
  · exact nomatch hexit

/-- A thread leaves the port in memory, and is bound to it or to its own. -/
theorem udpThread_port {a : UdpAct} (hr : udpThread p i t a = some r) :
    r.1.port = p.shared.port ∧ r.1.restart = p.shared.restart ∧
      ∀ q, r.2.port = some q → t.port = some q ∨ q = sinPort p.shared.port := by
  rcases udpThread_cases hr with ⟨-, rfl⟩ | ⟨-, rfl⟩ | ⟨-, -, ⟨c, hc⟩, hport⟩ | rfl
  · exact ⟨rfl, rfl, fun q hq => nomatch hq⟩
  · exact ⟨rfl, rfl, fun q hq => nomatch hq⟩
  · rw [hc]
    exact ⟨rfl, rfl, hport⟩
  · exact ⟨rfl, rfl, fun q hq => nomatch hq⟩

theorem single_start (port : Int32) : Single (.start port) where
  alone _ _ _ _ hi := nomatch hi
  owner _ i := by simp [UdpServers.start]
  agrees _ _ ht := nomatch ht

theorem single_step {l : Label UdpAct ServerOp} (h : Single p) (hok : StartsAlone p l)
    (hs : udpStep p l = some p') : Single p' := by
  have hstarts : ∀ m r, l = .main m → udpMain p m = some r → r.2.isSome → ∀ t ∈ p.threads, t = .ended := by
    rintro m r rfl hr hsome
    rcases (udpMain_cases hr).2.2 with ⟨hm, -⟩ | ⟨hnone, -⟩
    · exact hok (hm.imp (congrArg _) (congrArg _))
    · rw [hnone] at hsome
      exact nomatch hsome
  refine ⟨alone_step h.alone (fun i t a hd => hd ▸ udpThread_ended) hstarts hs, ?_, ?_⟩
  · intro hexit i
    cases l with
    | thread k a =>
      obtain ⟨t, r, ht, hr, rfl⟩ := step_thread_iff.mp hs
      exact single_thread h ht hr hexit
    | main m =>
      obtain ⟨r, hr, rfl⟩ := step_main_iff.mp hs
      obtain ⟨hfd, hexit', hnew⟩ := udpMain_cases hr
      rw [hexit'] at hexit
      rw [hfd, h.owner hexit i]
      rcases hnew with ⟨-, hnew⟩ | ⟨hnone, -⟩
      · rw [hnew]
        constructor
        · rintro ⟨t, ht, hsock⟩
          refine ⟨t, ?_, hsock⟩
          rw [List.getElem?_append_left (List.getElem?_eq_some_iff.mp ht).1]
          exact ht
        · rintro ⟨t, ht, hsock⟩
          refine ⟨t, ?_, hsock⟩
          by_cases hlt : i < p.threads.length
          · rw [List.getElem?_append_left hlt] at ht
            exact ht
          · rw [List.getElem?_append_right (not_lt.mp hlt)] at ht
            obtain rfl := List.mem_singleton.mp (List.mem_of_getElem? ht)
            exact hsock.elim
      · simp [hnone]
  · intro hidle
    cases l with
    | thread k a =>
      obtain ⟨t, r, ht, hr, rfl⟩ := step_thread_iff.mp hs
      obtain ⟨hport, hrestart, hbound⟩ := udpThread_port hr
      have hold := h.agrees (hrestart.symm.trans hidle)
      intro u hu q hq
      rw [hport]
      rcases List.mem_or_eq_of_mem_set hu with hu | rfl
      · exact hold u hu q hq
      · exact (hbound q hq).elim (hold t (List.mem_of_getElem? ht) q) id
    | main m =>
      obtain ⟨r, hr, rfl⟩ := step_main_iff.mp hs
      rcases (udpMain_cases hr).2.2 with ⟨hm, hnew⟩ | ⟨-, hbusy⟩
      · rw [hnew]
        intro t ht q hq
        have hall := hok (hm.imp (congrArg _) (congrArg _))
        rcases List.mem_append.mp ht with ht | ht
        · rw [hall t ht] at hq
          exact nomatch hq
        · rw [List.mem_singleton.mp ht] at hq
          exact nomatch hq
      · exact absurd hidle hbusy

theorem ownsFd_of_hasSocket (h : t.HasSocket = true) : t.OwnsFd := by
  cases t <;> trivial

/-- **One UDP server at a time.** If every server is started when the one
before it is gone, then at most one is at work; a datagram goes through its
socket as long as that is open, a call reports success until the descriptor is
cleared; and between the requests the server is bound to the port in memory. -/
theorem udpServers_single {port : Int32} {ls : List (Label UdpAct ServerOp)}
    (hrun : Run udpStep StartsAlone (.start port) ls p) (hexit : p.shared.exited = false) :
    Alone (· = .ended) p ∧
    (∀ i buffer, udpSent p buffer = some i ↔
      (∃ t, p.threads[i]? = some t ∧ t.HasSocket = true) ∧ p.shared.hasClient = true ∧ buffer ≠ []) ∧
    (∀ i buffer, udpServerSend p.shared buffer = (0, some i) ↔
      (∃ t, p.threads[i]? = some t ∧ (t.HasSocket = true ∨ t = .closed)) ∧
        p.shared.hasClient = true ∧ buffer ≠ []) ∧
    (p.shared.restart = .idle → ∀ t ∈ p.threads, ∀ q, t.port = some q → q = sinPort p.shared.port) := by
  have h : Single p :=
    hrun.invariant (single_start port) fun _ _ _ hI hok hs => single_step hI hok hs
  have hreported : ∀ i buffer, udpServerSend p.shared buffer = (0, some i) ↔
      (∃ t, p.threads[i]? = some t ∧ t.OwnsFd) ∧ p.shared.hasClient = true ∧ buffer ≠ [] := by
    intro i buffer
    rw [← h.owner hexit i, udpServerSend]
    cases p.shared.fd <;> cases p.shared.hasClient <;> cases buffer <;> simp
  refine ⟨h.alone, fun i buffer => ?_, fun i buffer => ?_, h.agrees⟩
  · have hsecond : (udpServerSend p.shared buffer).2 = some i ↔
        udpServerSend p.shared buffer = (0, some i) := by
      unfold udpServerSend
      split_ifs <;> simp
    rw [udpSent, Option.filter_eq_some_iff, hsecond, hreported, Option.any_eq_true]
    constructor
    · rintro ⟨⟨-, hclient, hbuffer⟩, t, ht, hsock⟩
      exact ⟨⟨t, ht, hsock⟩, hclient, hbuffer⟩
    · rintro ⟨⟨t, ht, hsock⟩, hclient, hbuffer⟩
      exact ⟨⟨⟨t, ht, ownsFd_of_hasSocket hsock⟩, hclient, hbuffer⟩, t, ht, hsock⟩
  · rw [hreported]
    refine and_congr_left fun _ => exists_congr fun t => and_congr_right fun _ => ?_
    cases t <;> simp [UdpServer.OwnsFd, UdpServer.HasSocket]

/-- A request, with the old server gone in time. -/
theorem udpServers_single_moved : ∃ p : UdpServers,
    exec udpStep (.start 9982) [.main .boot, .thread 0 (.socket true), .thread 0 (.bind true),
      .main (.assign 9983), .main .stop, .thread 0 .test, .thread 0 .close, .thread 0 .clear,
      .main .init, .thread 1 (.socket true), .thread 1 (.bind true)] = some p ∧
    p.threads = [.ended, .test 9983] ∧ ∀ t ∈ p.threads, ∀ q, t.port = some q → q = 9983 := by
  have hrun : Run udpStep StartsAlone (.start 9982) [.main .boot, .thread 0 (.socket true),
      .thread 0 (.bind true), .main (.assign 9983), .main .stop, .thread 0 .test, .thread 0 .close,
      .thread 0 .clear, .main .init, .thread 1 (.socket true), .thread 1 (.bind true)]
      ⟨⟨⟨9983, true, .idle, true, false⟩, some 1, false⟩, [.ended, .test 9983]⟩ := .of_checked rfl
  exact ⟨_, hrun.exec_eq, rfl, (udpServers_single hrun rfl).2.2.2 rfl⟩

end

end WtslCore
