/-
# The ports of the transparent transport

`wtsl_core_set_sle_trans_config` is to save a port and restart its server when
the request has another one. For TCP it does; for UDP the braces are missing,
so the comparison guards the assignment alone, and the port is saved and the
server restarted by every request that has it. Memory and file agree after
any request (`Saved.transConfig`), but a request is handled as meant, and does
nothing when it comes again, exactly if it has no UDP port
(`transConfig_iff`).

Key definitions: `TransServer`, `TransEffect`, `setTransTcpPort`,
`setTransUdpPort`, `wtslCoreSetSleTransConfig`, `TransState`, `TransMeets`.
Key theorems: `Saved.transConfig`, `transConfig_iff`.
-/
import WtslCore.Node.Switches

namespace WtslCore

/-- The two servers. -/
inductive TransServer
  | tcp
  | udp
  deriving DecidableEq

namespace TransServer

/-- The field of the request. -/
def field : TransServer → CStr
  | tcp => "trans_tcp_port".toList
  | udp => "trans_udp_port".toList

/-- The key of the configuration. -/
def key : TransServer → CStr
  | tcp => "TRANS_TCP_PORT".toList
  | udp => "TRANS_UDP_PORT".toList

/-- The port in memory. -/
def port (p : NodeParams) : TransServer → Int32
  | tcp => p.transTcpPort
  | udp => p.transUdpPort

/-- The port a restart reads. -/
def savedPort (file : Option (List Char)) (s : TransServer) : Int32 :=
  (storedInt file s.key).getD (s.port (paramDefault 0))

end TransServer

/-- What a request does besides memory: a port is saved, a server stopped, and
started on a port. -/
inductive TransEffect
  | saved (s : TransServer) (port : Int32)
  | stopped (s : TransServer)
  | started (s : TransServer) (port : Int32)
  deriving DecidableEq

/-- The branch of the TCP port. -/
def setTransTcpPort (junk : ℕ → Junk) (root : Json) (st : LocalNode) : LocalNode × List TransEffect :=
  match root.getObjectItem "trans_tcp_port".toList with
  | none => (st, [])
  | some transTcpPort =>
    if st.params.transTcpPort ≠ Int32.ofInt transTcpPort.valueint then
      let p := { st.params with transTcpPort := Int32.ofInt transTcpPort.valueint }
      (⟨p, (configSetInt junk "TRANS_TCP_PORT".toList p.transTcpPort st.file).2⟩,
        [.saved .tcp p.transTcpPort, .stopped .tcp, .started .tcp p.transTcpPort])
    else (st, [])

/-- The branch of the UDP port. The comparison guards the assignment only. -/
def setTransUdpPort (junk : ℕ → Junk) (root : Json) (st : LocalNode) : LocalNode × List TransEffect :=
  match root.getObjectItem "trans_udp_port".toList with
  | none => (st, [])
  | some transUdpPort =>
    let p :=
      if st.params.transUdpPort ≠ Int32.ofInt transUdpPort.valueint then
        { st.params with transUdpPort := Int32.ofInt transUdpPort.valueint }
      else st.params
    (⟨p, (configSetInt junk "TRANS_UDP_PORT".toList p.transUdpPort st.file).2⟩,
      [.saved .udp p.transUdpPort, .stopped .udp, .started .udp p.transUdpPort])

/-- `wtsl_core_set_sle_trans_config`: the node, and what was done. A body that
is no JSON changes nothing. -/
def wtslCoreSetSleTransConfig (junk : ℕ → ℕ → Junk) (body : Option Json) (st : LocalNode) :
    LocalNode × List TransEffect :=
  match body with
  | none => (st, [])
  | some root =>
    let t := setTransTcpPort (junk 0) root st
    let u := setTransUdpPort (junk 1) root t.1
    (u.1, t.2 ++ u.2)

/-- The port a request has for a server. -/
def requestedPort (root : Json) (s : TransServer) : Option Int32 :=
  (root.getObjectItem s.field).map fun j => Int32.ofInt j.valueint

/-- What a request is to do for a server: save the port and restart it, if the port is another one. -/
def wantedEffects (root : Json) (p : NodeParams) (s : TransServer) : List TransEffect :=
  match requestedPort root s with
  | some v => if v ≠ s.port p then [.saved s v, .stopped s, .started s v] else []
  | none => []

/-- The file has the ports of memory. -/
structure Saved (st : LocalNode) : Prop where
  settled : Settled st.file
  ports : ∀ s : TransServer, s.savedPort st.file = s.port st.params

/-- A node whose ports are saved. -/
structure TransState where
  node : LocalNode
  saved : Saved node

/-- A request is handled as meant: what it does, what memory and file hold
afterwards, and that nothing happens when it comes again. -/
structure TransMeets (root : Json) (st : LocalNode) : Prop where
  effects : ∀ junk, (wtslCoreSetSleTransConfig junk (some root) st).2 =
    wantedEffects root st.params .tcp ++ wantedEffects root st.params .udp
  memory : ∀ junk (s : TransServer), s.port (wtslCoreSetSleTransConfig junk (some root) st).1.params =
    (requestedPort root s).getD (s.port st.params)
  config : ∀ junk (s : TransServer),
    s.savedPort (wtslCoreSetSleTransConfig junk (some root) st).1.file =
      (requestedPort root s).getD (s.port st.params)
  again : ∀ junk junk', wtslCoreSetSleTransConfig junk' (some root)
      (wtslCoreSetSleTransConfig junk (some root) st).1 =
    ((wtslCoreSetSleTransConfig junk (some root) st).1, [])

variable {root : Json} {st : LocalNode}

/-! ### What a branch does -/

/-- The ports after the TCP branch. -/
theorem setTransTcpPort_port (junk : ℕ → Junk) (root : Json) (st : LocalNode) :
    (setTransTcpPort junk root st).1.params.transTcpPort =
        (requestedPort root .tcp).getD st.params.transTcpPort ∧
      (setTransTcpPort junk root st).1.params.transUdpPort = st.params.transUdpPort := by
  unfold setTransTcpPort requestedPort TransServer.field
  cases root.getObjectItem "trans_tcp_port".toList with
  | none => exact ⟨rfl, rfl⟩
  | some j =>
    simp only [Option.map_some, Option.getD_some]
    split_ifs with h
    · exact ⟨rfl, rfl⟩
    · exact ⟨not_not.mp h, rfl⟩

/-- The ports after the UDP branch. -/
theorem setTransUdpPort_port (junk : ℕ → Junk) (root : Json) (st : LocalNode) :
    (setTransUdpPort junk root st).1.params.transUdpPort =
        (requestedPort root .udp).getD st.params.transUdpPort ∧
      (setTransUdpPort junk root st).1.params.transTcpPort = st.params.transTcpPort := by
  unfold setTransUdpPort requestedPort TransServer.field
  cases root.getObjectItem "trans_udp_port".toList with
  | none => exact ⟨rfl, rfl⟩
  | some j =>
    simp only [Option.map_some, Option.getD_some]
    split_ifs with h
    · exact ⟨rfl, rfl⟩
    · exact ⟨not_not.mp h, rfl⟩

/-- **The TCP branch does what it is to do.** -/
theorem setTransTcpPort_effects (junk : ℕ → Junk) (root : Json) (st : LocalNode) :
    (setTransTcpPort junk root st).2 = wantedEffects root st.params .tcp := by
  unfold setTransTcpPort wantedEffects requestedPort TransServer.field
  cases root.getObjectItem "trans_tcp_port".toList with
  | none => rfl
  | some j =>
    simp only [Option.map_some]
    by_cases h : st.params.transTcpPort = Int32.ofInt j.valueint
    · rw [if_neg (not_not.mpr h)]
      exact (if_neg (not_not.mpr h.symm)).symm
    · rw [if_pos h]
      exact (if_pos (Ne.symm h)).symm

/-- **The UDP branch restarts the server** whenever the port is there. -/
theorem setTransUdpPort_effects (junk : ℕ → Junk) (root : Json) (st : LocalNode) :
    (setTransUdpPort junk root st).2 =
      match requestedPort root .udp with
      | some v => [.saved .udp v, .stopped .udp, .started .udp v]
      | none => [] := by
  have hport := (setTransUdpPort_port junk root st).1
  unfold setTransUdpPort requestedPort TransServer.field at hport ⊢
  cases hitem : root.getObjectItem "trans_udp_port".toList with
  | none => rfl
  | some j =>
    rw [hitem] at hport
    simp only [Option.map_some, Option.getD_some] at hport ⊢
    rw [hport]

/-- A TCP port that memory has already changes nothing. -/
theorem setTransTcpPort_same (junk : ℕ → Junk)
    (h : (requestedPort root .tcp).getD st.params.transTcpPort = st.params.transTcpPort) :
    setTransTcpPort junk root st = (st, []) := by
  unfold setTransTcpPort
  unfold requestedPort TransServer.field at h
  cases hitem : root.getObjectItem "trans_tcp_port".toList with
  | none => rfl
  | some j =>
    rw [hitem] at h
    exact if_neg (not_not.mpr h.symm)

theorem setTransUdpPort_absent (junk : ℕ → Junk) (st : LocalNode) (h : requestedPort root .udp = none) :
    setTransUdpPort junk root st = (st, []) := by
  unfold setTransUdpPort
  rw [show root.getObjectItem "trans_udp_port".toList = none from Option.map_eq_none_iff.mp h]

/-! ### Memory and file -/

/-- Both keys are keys of the program. -/
theorem plain_transKey (s : TransServer) : Plain s.key := by
  cases s with
  | tcp => decide
  | udp => decide

/-- **A port that is set in memory and file stays saved.** -/
theorem Saved.set (h : Saved st) (s : TransServer) {p : NodeParams} (junk : ℕ → Junk)
    (hother : ∀ s', s' ≠ s → s'.port p = s'.port st.params) :
    Saved ⟨p, (configSetInt junk s.key (s.port p) st.file).2⟩ where
  settled := h.settled.configSetInt (plain_transKey s) _ junk
  ports s' := by
    unfold TransServer.savedPort
    rw [storedInt_configSetInt h.settled (plain_transKey s) (plain_transKey s')]
    by_cases heq : s' = s
    · rw [heq, if_pos rfl, Option.getD_some]
    · have hkey : s'.key ≠ s.key := by
        cases s <;> cases s' <;> first | exact absurd rfl heq | decide
      rw [if_neg hkey, hother s' heq]
      exact h.ports s'

theorem Saved.setTransTcpPort (h : Saved st) (junk : ℕ → Junk) (root : Json) :
    Saved (setTransTcpPort junk root st).1 := by
  unfold WtslCore.setTransTcpPort
  split
  · exact h
  · split_ifs
    · refine h.set .tcp junk fun s' hs' => ?_
      cases s' with
      | tcp => exact absurd rfl hs'
      | udp => rfl
    · exact h

theorem Saved.setTransUdpPort (h : Saved st) (junk : ℕ → Junk) (root : Json) :
    Saved (setTransUdpPort junk root st).1 := by
  unfold WtslCore.setTransUdpPort
  split
  · exact h
  · refine h.set .udp junk fun s' hs' => ?_
    cases s' with
    | udp => exact absurd rfl hs'
    | tcp =>
      split_ifs
      · rfl
      · rfl

/-- **Memory and file agree after any request.** -/
theorem Saved.transConfig (h : Saved st) (junk : ℕ → ℕ → Junk) (body : Option Json) :
    Saved (wtslCoreSetSleTransConfig junk body st).1 := by
  cases body with
  | none => exact h
  | some root => exact (h.setTransTcpPort (junk 0) root).setTransUdpPort (junk 1) root

/-- **Memory has the ports of the request**, and its own where there are none. -/
theorem transConfig_port (junk : ℕ → ℕ → Junk) (root : Json) (st : LocalNode) (s : TransServer) :
    s.port (wtslCoreSetSleTransConfig junk (some root) st).1.params =
      (requestedPort root s).getD (s.port st.params) := by
  obtain ⟨htcp, hudp⟩ := setTransTcpPort_port (junk 0) root st
  obtain ⟨hudp', htcp'⟩ := setTransUdpPort_port (junk 1) root (setTransTcpPort (junk 0) root st).1
  cases s with
  | tcp => exact htcp'.trans htcp
  | udp => exact hudp'.trans (congrArg _ hudp)

/-! ### The request as meant -/

/-- A request without a UDP port is handled as meant. -/
theorem transMeets_of_absent (h : requestedPort root .udp = none) (hsaved : Saved st) :
    TransMeets root st := by
  have hstep : ∀ junk st, wtslCoreSetSleTransConfig junk (some root) st =
      setTransTcpPort (junk 0) root st := by
    intro junk st
    unfold wtslCoreSetSleTransConfig
    simp only [setTransUdpPort_absent _ _ h, List.append_nil]
  refine ⟨fun junk => ?_, fun junk s => transConfig_port junk root st s, fun junk s => ?_,
    fun junk junk' => ?_⟩
  · have hnone : wantedEffects root st.params .udp = [] := by
      unfold wantedEffects
      rw [h]
    rw [hstep, setTransTcpPort_effects, hnone, List.append_nil]
  · rw [(hsaved.transConfig junk (some root)).ports, transConfig_port]
  · rw [hstep junk, hstep junk', setTransTcpPort_same]
    rw [(setTransTcpPort_port (junk 0) root st).1]
    cases requestedPort root .tcp with
    | none => rfl
    | some v => rfl

/-- **A request is handled as meant exactly if it has no UDP port.** -/
theorem transConfig_iff (root : Json) (st : TransState) :
    TransMeets root st.node ↔ requestedPort root .udp = none := by
  refine ⟨fun h => ?_, fun h => transMeets_of_absent h st.saved⟩
  by_contra hne
  obtain ⟨v, hv⟩ := Option.ne_none_iff_exists'.mp hne
  -- the second request stops the server again
  have hagain := congrArg Prod.snd (h.again (fun _ _ => ⟨[], []⟩) (fun _ _ => ⟨[], []⟩))
  have hudp := setTransUdpPort_effects (fun _ => ⟨[], []⟩) root
    (setTransTcpPort (fun _ => ⟨[], []⟩) root
      (wtslCoreSetSleTransConfig (fun _ _ => ⟨[], []⟩) (some root) st.node).1).1
  rw [hv] at hudp
  have hnil := (List.append_eq_nil_iff.mp hagain).2
  rw [hudp] at hnil
  exact nomatch hnil

/-- The node with the default parameters and no file. -/
def defaultTransState : TransState where
  node := ⟨paramDefault 0, none⟩
  saved :=
    { settled := ⟨by decide, by decide⟩
      ports := fun s => by cases s <;> decide }

/-- A request for the UDP port that is in use restarts the server. -/
theorem transConfig_same_udp :
    ¬ TransMeets (.object [("trans_udp_port".toList, .number ⟨9982, "9982".toList, by decide⟩)])
        defaultTransState.node := by
  intro h
  exact absurd (h.effects fun _ _ => ⟨[], []⟩) (by decide)

end WtslCore
