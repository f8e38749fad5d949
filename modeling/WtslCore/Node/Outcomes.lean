/-
# When the status of a node operation is right

The `POST` operations of a node, each with the condition under which its
status is right. Three patterns make up most of them. An operation that
returns NULL for the failure of one call is right if no other call fails where
that one succeeds; an operation that always answers with the same text is
right if nothing fails; and one that answers with strings of the request or of
the device is right if one of them has `errmsg` in it exactly where something
failed (`Node.AnswerTexts` says which these are).

Key definitions: `postOperation`, `PostOk`.
Key theorems: `ends_checked`, `ends_succeeded`, `postOperation_tells_iff`.
-/
import WtslCore.Node.AnswerTexts

namespace WtslCore

open Noted

/-- What the callback of a `POST` operation does with the body. -/
def postOperation (env : OpEnv) (data : List Char) : NodeFunc → Op Ptr
  | .setNodeBasicinfo => Op.setNodeBasicinfo env data
  | .setNodeAdvinfo => Op.setNodeAdvinfo env data
  | .doConnect => Op.doConnect env data
  | .doAutojoinNetwork => Op.autoJoinNet env data
  | .doTimeSync => Op.doTimeSync env data
  | .doReboot => Op.doReboot env data
  | .doDisconnect => Op.doDisconnect env data
  | .doRestore => Op.doRestore env
  | .doAifh => Op.switch env data aifh
  | .doChswitch => Op.switch env data chswitch
  | .getNodeTraffic => Op.getNodeTraffic env data
  | .getSecalg => Op.getSecalg env data
  | .setAdaptivemcs => Op.setAdaptivemcs env data
  | .doClearschmcs => Op.doClearschmcs env data
  | .getMcsboundinfo => Op.getMcsboundinfo env data
  | .setMcsbound => Op.setMcsbound env data
  | .getAdaptivemcsinfo => Op.getAdaptivemcsinfo env data
  | .getTraceinfo => Op.getTraceinfo env data
  | .doThroughputTest => Op.doThroughput env
  | .doShortrangeTest => Op.doShortrange env
  | .doRemoterangeTest => Op.doRemoterange env
  | .doLowpowTest => Op.doLowpow env
  | .doLowlatencyTest => Op.doLowlatency env
  | .doSleConnect => Op.sleConnect env data
  | .setSleBasicinfo => Op.setSleBasicinfo env data
  | .setSleAnnounceId => Op.setAnnounceId env data
  | .configVap0Mac => Op.configVap0Mac env data
  | .setSleTransConfig => Op.setSleTransConfig env data
  | .doUpload => Op.doUpload env data
  | .doUpgrade => Op.doUpgrade env
  | .qosSwitch => Op.qosSwitch env data
  | .qosSetRules => Op.qosSetRules env data
  | .aclSwitch => Op.aclSwitch env data
  | .aclSetRules => Op.aclSetRules env data
  -- the operations of `GET`
  | _ => reject .refused

/-! ### The conditions -/

section

variable (env : OpEnv) (data : List Char)

/-- Every body that is JSON is as said. -/
def OpEnv.ForBody (k : Json → Prop) : Prop := ∀ root ∈ env.parse (cstr data), k root

/-- A command that starts and answers `SUCC` exits with 0. -/
def OpEnv.SuccExits (cmd : CStr) : Prop :=
  ∀ run ∈ env.popen cmd, ∀ p ∈ statusIn run.output, p.1 = succText → run.status = .exited 0

/-- A value of `aifh` or `chswitch` that is set is also saved. -/
def SwitchOk (sw : Switch) : Prop :=
  env.ForBody data fun root => sw.accepts (sw.requested root env.params) = true →
    env.Fine (.system (sw.command (sw.requested root env.params))) → env.Fine (.configSet sw.key.toList)

/-- A request of rules whose answer repeats `strings`: one of them has `errmsg` in
it exactly if the command fails. An answer that is cut has `errmsg` in what is left. -/
def RulesOk (cmd : CStr) (runs : Bool) (item : Item) (strings : List CStr) : Prop :=
  ∀ s ∈ env.print item, (s.take 8191).length ≤ data.length →
    (s.length < 8192 →
      ((∀ t ∈ strings, mentionsErrmsg t = false) ↔ runs = true ∧ env.Exits cmd)) ∧
    (8192 ≤ s.length → hasErrmsg (s.take 8191) = true)

/-- The condition on an operation. -/
def PostOk : NodeFunc → Prop
  | .setNodeBasicinfo => env.ForBody data fun root => ∀ p, setnodeAssign root env.params = .ok p →
      ∀ rows ∈ mcsRows env, env.Fine .updateWtslNodeBasicinfo →
        env.AllFine (setNodeCalls env p rows) ∧ env.AllFine (configSets (setnodePairs p)) ∧
          env.Fine .renameLog
  | .setNodeAdvinfo => env.ForBody data fun root => ∀ rows ∈ mcsRows env,
      env.Fine .updateWtslNodeBasicinfo →
        env.AllFine (setNodeCalls env (advinfoAssign root env.params) rows) ∧
          env.AllFine (configSets (intPairs (advinfoInts (advinfoAssign root env.params))))
  | .doConnect => env.ForBody data fun root =>
      (root.getObjectItem "index".toList).bind Json.valuestring ≠ none →
        env.Fine (.slb .tNodeStartJoin) → env.AllFine Op.joinedCalls
  | .doAutojoinNetwork => env.ForBody data fun root =>
      root.getObjectItem "aj_flag".toList ≠ none → env.Fine (.configSet "AUTO_JOIN_NET".toList)
  | .doChswitch => SwitchOk env data chswitch
  | .doAifh => SwitchOk env data aifh
  | .doTimeSync => env.ForBody data fun root =>
      ∀ t ∈ (root.getObjectItem "time".toList).bind Json.valuestring, env.validTime t = true →
        ∀ cmd, dateCommand t = .ok cmd → env.Fine (.system cmd) ∧ env.Fine .renameLog
  | .doRestore => env.Fine (.system "rm /home/wt/env_config".toList) →
      env.Fine (.system "reboot".toList)
  | .configVap0Mac => env.ForBody data fun root => ∀ j ∈ root.getObjectItem "vap0_mac".toList,
      ∀ mac, strcpy 18 j.valuestring = .ok mac → env.Fine (.system Op.dumpCommand) ∧
        env.AllFine ((Op.flashCommands mac (env.call (.system Op.grepCommand) 0 == 0)).map .system)
  | .doThroughputTest => env.Fine (.fopen Op.affinityScript) ∧ env.AllFine Op.throughputCalls
  | .doShortrangeTest => env.Fine .updateWtslNodeBasicinfo → env.AllFine (rangeCalls [])
  | .doRemoterangeTest => env.Fine .updateWtslNodeBasicinfo → env.AllFine (rangeCalls [.setRangeOpt])
  | .doLowlatencyTest => env.Fine .updateWtslNodeBasicinfo → env.AllFine Op.lowlatencyCalls
  | .doSleConnect => env.ForBody data fun root => ∀ mac, copyField 18 root "mac" [] = .ok mac →
      env.AllFine Op.sleConnectCalls
  | .setSleBasicinfo => env.ForBody data fun root => ∀ name, copyField 32 root "sle_name" [] = .ok name →
      env.AllFine (Op.sleBasicinfoCalls env root)
  | .setSleTransConfig => env.ForBody data fun root => env.AllFine (Op.sleTransCalls env root)
  | .qosSwitch => env.ForBody data fun root => ∀ enabled,
      root.getObjectItemCaseSensitive "enabled".toList = some (.bool enabled) →
        env.AllFine ((Op.qosSwitchCommands env enabled).map .system)
  | .aclSwitch => env.ForBody data fun root => ∀ enabled,
      root.getObjectItem "enabled".toList = some (.bool enabled) →
        ∀ cmd ∈ Op.aclSwitchCommands env enabled, env.Exits cmd
  | .aclSetRules => env.ForBody data fun root =>
      ∀ action ∈ stringOr (root.getObjectItem "action".toList) "list",
        ∀ chain ∈ stringOr (root.getObjectItem "chain".toList) "FORWARD",
          ∀ cmd ∈ aclHandleRequest action chain root,
            RulesOk env data (cmdText cmd) true (aclAnswer env.toCallEnv action chain cmd)
              (aclStrings env.toCallEnv action chain (cmdText cmd))
  | .qosSetRules => env.ForBody data fun root => ∀ cmd ∈ Op.qosSetCommand env root,
      RulesOk env data (cmd ++ " 2>&1".toList) (cmd.length + 5 < cmdLen + 8)
        (qosAnswer (qosExCommand env.toCallEnv cmd)) (qosStrings env.toCallEnv cmd)
  | .doUpload => env.Fine (.fopen Op.upgradeBin) →
      (∃ r, parseJsonExtractFileHeader (Op.uploadEnv env) (Op.uploaded env data) = .ok r) →
        ∃ header, (Op.uploadEnv env).Accepts (Op.uploaded env data) header ∧
          ((∀ s ∈ pastedFields header, hasErrmsg s = false) ↔
            env.Fine (.fwrite Op.upgradeBin) ∧ env.upload.short = none)
  | .doUpgrade => env.Fine (.fopen Op.upgradeBin) → Op.headerTerminated env →
      ∃ root, readHeader env.parse (cstr (env.upgradeBin.take 1024)) = .ok root ∧
        env.Fine .platformVerify ∧ env.Fine .extractAndVerifyFirmware ∧
          env.Fine (Op.upgradeCall (firmwareHeader root)).1 ∧
            (env.Submits → ∀ s ∈ upgradeFields (firmwareHeader root), hasErrmsg s = false)
  | .doDisconnect => env.ForBody data fun root => ∀ mac, copyField 18 root "mac" [] = .ok mac →
      ∀ run ∈ env.popen (kickUserCmd mac), ∀ status ∈ firstStatus run.output,
        if status = succText then
          env.print (Op.disconnectItem "success") ≠ none → run.status = .exited 0
        else env.print (Op.disconnectItem "failed") = none
  | .getNodeTraffic => env.ForBody data fun root =>
      ∀ interface, copyField 64 root "interface" [] = .ok interface →
        ∀ run ∈ env.popen (ifconfigCmd interface), ∀ date ∈ env.popen dateCmd,
          env.print (Op.trafficItem run.output date.output) ≠ none →
            run.status = .exited 0 ∧ date.status = .exited 0
  | .getSecalg => env.ForBody data fun root => ∀ mac, copyField 18 root "user_mac" [] = .ok mac →
      ∀ run ∈ env.popen (getSecAlgCmd mac), ∀ p ∈ statusIn run.output,
        ∀ algorithm ∈ scanAlgorithm p.2, p.1 = succText →
          env.print (Op.secalgItem algorithm) ≠ none →
            (mentionsErrmsg algorithm = false ↔ run.status = .exited 0)
  | .setAdaptivemcs => env.ForBody data fun root =>
      ∀ userMac, copyField 18 root "user_mac" [] = .ok userMac →
        ∀ resType, copyField 18 root "res_type" [] = .ok resType →
          ∀ dir, copyField 18 root "dir" [] = .ok dir →
            env.SuccExits (schResTypeMcsCmd root userMac resType dir)
  | .doClearschmcs => env.ForBody data fun root =>
      ∀ userMac, copyField 18 root "user_mac" [] = .ok userMac → env.SuccExits (clearSchMcsCmd userMac)
  | .setMcsbound => env.ForBody data fun root =>
      ∀ userMac, copyField 18 root "user_mac" [] = .ok userMac →
        env.SuccExits (setMcsBoundCmd root userMac)
  | .getAdaptivemcsinfo => env.ForBody data fun root =>
      ∀ userMac, copyField 18 root "user_mac" [] = .ok userMac →
        ∀ resType, copyField 18 root "res_type" [] = .ok resType →
          ∀ dir, copyField 18 root "dir" [] = .ok dir →
            ∀ run ∈ env.popen (getSchResTypeMcsCmd userMac resType dir),
              ∀ p ∈ statusIn run.output, p.1 = succText →
                env.print (Op.adaptivemcsItem userMac resType dir p.2) ≠ none →
                  ((mentionsErrmsg userMac || mentionsErrmsg resType || mentionsErrmsg dir) = false ↔
                    run.status = .exited 0)
  | .getMcsboundinfo => env.ForBody data fun root =>
      ∀ userMac, copyField 18 root "user_mac" [] = .ok userMac →
        ∀ run ∈ env.popen (getMcsBoundCmd userMac), ∀ p ∈ statusIn run.output, p.1 = succText →
          env.print (Op.mcsboundItem p.2) ≠ none → run.status = .exited 0
  | .getTraceinfo => env.ForBody data fun root =>
      ∀ userMac, copyField 18 root "user_mac" [] = .ok userMac →
        ∀ feature, copyField 18 root "feature" [] = .ok feature →
          ∀ t ∈ traceFeature feature, ∀ run ∈ env.popen (traceCmd feature userMac),
            ∀ st ∈ t.scan env.logsInfo (fgetsLines 128 run.output) ⟨[], 0, t.rows⟩,
              env.print (t.item env.params.type.toInt feature userMac st) ≠ none →
                (traceMentions feature userMac st = false ↔
                  run.status = .exited 0 ∧ st.status = succText)
  | _ => True

end

variable {env : OpEnv} {data : List Char} {es : List OpError} {s : CStr} {c : Callee}

/-! ### The patterns -/

theorem forall_mem_const {α : Type} {o : Option α} {p : Prop} : (∀ a ∈ o, p) ↔ (o ≠ none → p) := by
  cases o with
  | none => simp
  | some a => simp

/-- A body that is no JSON is refused; otherwise it is a matter of what is in it. -/
theorem tells_body {k : Json → Op Ptr} {p : Json → Prop} (h : ∀ root, (k root).Tells ↔ p root) :
    (env.withBody data k).Tells ↔ env.ForBody data p := by
  unfold Op.Tells at *
  rw [ends_withBody]
  exact forall_congr' fun root => forall_congr' fun _ => h root

/-- The calls of which a failure is any result but 0. -/
def Callee.Checks (c : Callee) : Prop := ∀ n, c.failed n = (n != 0)

theorem fine_iff (hc : c.Checks) : env.Fine c ↔ env.call c 0 = 0 := by
  unfold OpEnv.Fine
  rw [hc]
  simp

/-- **NULL for the failure of one call, a text otherwise.** -/
theorem ends_checked (hc : c.Checks) (hs : hasErrmsg s = false) :
    Ends PostRight es (env.run c >>= fun ret => if ret ≠ 0 then pure .null else pure (.text s)) ↔
      (env.Fine c → es = []) := by
  rw [ends_run]
  by_cases h : env.Fine c
  · rw [if_neg (not_not_intro ((fine_iff hc).mp h)), ends_text hs]
    simp [h]
  · rw [if_pos (mt (fine_iff hc).mpr h)]
    simp [h]

/-- The same, with calls in between that nobody looks at. -/
theorem ends_checkedAll {cs : List Callee} (hc : c.Checks) (hs : hasErrmsg s = false) :
    Ends PostRight es (env.run c >>= fun ret => env.runAll cs >>= fun _ =>
        if ret ≠ 0 then pure .null else pure (.text s)) ↔
      (env.Fine c → es = [] ∧ env.AllFine cs) := by
  rw [ends_run, ends_runAll]
  by_cases h : env.Fine c
  · rw [if_neg (not_not_intro ((fine_iff hc).mp h)), ends_text hs]
    simp [h]
  · rw [if_pos (mt (fine_iff hc).mpr h)]
    simp [h]

theorem ends_updateList {answer : String} (hs : hasErrmsg answer.toList = false) :
    Ends PostRight es (env.updateList answer) ↔ (env.Fine .updateWtslNodeBasicinfo → es = []) :=
  ends_checked (fun _ => rfl) hs

/-- Calls that nobody looks at, and a text in any case. -/
theorem ends_unchecked {cs : List Callee} (hs : hasErrmsg s = false) :
    Ends PostRight es (env.runAll cs >>= fun _ => pure (.text s)) ↔ es = [] ∧ env.AllFine cs := by
  rw [ends_runAll, ends_text hs, List.append_eq_nil_iff, failures_eq_nil]

/-- The calls of a node that is set, and what follows. -/
theorem ends_setNode {p : NodeParams} {f : Unit → Op Ptr} :
    Ends PostRight es (env.setNode p >>= f) ↔ ∀ rows ∈ mcsRows env,
      Ends PostRight (es ++ env.failures (setNodeCalls env p rows)) (f ()) := by
  unfold OpEnv.setNode
  cases mcsRows env with
  | none => simp [ends_bind, undefined]
  | some rows =>
    rw [ends_runAll]
    simp

/-! ### The parameters of the node -/

theorem tells_setNodeBasicinfo :
    (Op.setNodeBasicinfo env data).Tells ↔ PostOk env data .setNodeBasicinfo := by
  refine tells_body fun root => ?_
  unfold Op.Tells
  rw [ends_copied]
  refine forall_congr' fun p => forall_congr' fun _ => ?_
  rw [ends_setNode]
  refine forall_congr' fun rows => forall_congr' fun _ => ?_
  rw [ends_runAll, ends_run, ends_updateList (by decide)]
  simp only [List.nil_append, List.append_eq_nil_iff, failures_eq_nil, failure_eq_nil, and_assoc]

theorem tells_setNodeAdvinfo :
    (Op.setNodeAdvinfo env data).Tells ↔ PostOk env data .setNodeAdvinfo := by
  refine tells_body fun root => ?_
  unfold Op.Tells
  rw [ends_setNode]
  refine forall_congr' fun rows => forall_congr' fun _ => ?_
  rw [ends_runAll, ends_updateList (by decide)]
  simp only [List.nil_append, List.append_eq_nil_iff, failures_eq_nil]

theorem tells_doConnect : (Op.doConnect env data).Tells ↔ PostOk env data .doConnect := by
  refine tells_body fun root => ?_
  unfold Op.Tells
  rw [ends_fieldString, forall_mem_const, ends_checkedAll (fun _ => rfl) (by decide)]
  simp only [true_and]

theorem tells_autoJoinNet : (Op.autoJoinNet env data).Tells ↔ PostOk env data .doAutojoinNetwork := by
  refine tells_body fun root => ?_
  unfold Op.Tells
  cases root.getObjectItem "aj_flag".toList with
  | none => simp
  | some j =>
    rw [ends_run, ends_text (by decide)]
    simp

/-- `aifh` and `chswitch`. -/
theorem tells_switch (sw : Switch) : (Op.switch env data sw).Tells ↔ SwitchOk env data sw := by
  refine tells_body fun root => ?_
  unfold Op.Tells
  dsimp only
  cases sw.accepts (sw.requested root env.params) with
  | false => simp [ends_reject]
  | true =>
    show Ends PostRight [] (env.run _ >>= fun _ => env.run _ >>= fun ret =>
      if ret ≠ 0 then pure .null else pure (.text "success".toList)) ↔ _
    rw [ends_run, ends_checked (fun _ => rfl) (by decide)]
    simp

/-! ### The device -/

theorem tells_doTimeSync : (Op.doTimeSync env data).Tells ↔ PostOk env data .doTimeSync := by
  refine tells_body fun root => ?_
  unfold Op.Tells
  rw [ends_fieldString]
  refine forall_congr' fun t => forall_congr' fun _ => ?_
  cases env.validTime t with
  | false => simp [ends_reject]
  | true =>
    cases dateCommand t with
    | error e => simp
    | ok cmd =>
      simp only [↓reduceIte, forall_const, Except.ok.injEq, forall_eq']
      have hc : (Callee.system cmd).Checks := fun _ => rfl
      rw [ends_run]
      by_cases h : env.Fine (.system cmd)
      · rw [if_neg (not_not_intro ((fine_iff hc).mp h)), ends_run, ends_text (by decide)]
        simp
      · rw [if_pos (mt (fine_iff hc).mpr h), ends_text (by decide)]
        simp [h]

/-- Nobody has the permission. -/
theorem tells_doReboot : (Op.doReboot env data).Tells ↔ PostOk env data .doReboot := by
  refine (tells_body (p := fun _ => True) fun root => ?_).trans (by simp [OpEnv.ForBody, PostOk])
  unfold Op.Tells
  rw [iff_true, ends_fieldString]
  intro username _
  rw [ends_fieldString]
  intro timestr _
  rw [ends_fieldString]
  intro tokenstr _
  split_ifs with h1 h2
  · exact ends_reject
  · exact absurd h2 (show (-1 : ℤ) ≠ 0 by decide)
  · exact ends_reject

theorem tells_doRestore : (Op.doRestore env).Tells ↔ PostOk env data .doRestore := by
  have hc : (Callee.system "rm /home/wt/env_config".toList).Checks := fun _ => rfl
  show Ends PostRight [] (env.run _ >>= _) ↔ (env.Fine _ → env.Fine _)
  rw [ends_run]
  by_cases h : env.Fine (.system "rm /home/wt/env_config".toList)
  · rw [if_neg (not_not_intro ((fine_iff hc).mp h)), ends_run, ends_text (by decide),
      failure_eq_nil.mpr h, List.nil_append, List.nil_append, failure_eq_nil]
    exact ⟨fun hf _ => hf, fun hf => hf h⟩
  · rw [if_pos (mt (fine_iff hc).mpr h), ends_pure, postRight_null, List.nil_append, ne_eq,
      failure_eq_nil]
    exact iff_of_true h fun hf => absurd hf h

theorem tells_configVap0Mac : (Op.configVap0Mac env data).Tells ↔ PostOk env data .configVap0Mac := by
  refine tells_body fun root => ?_
  unfold Op.Tells
  cases root.getObjectItem "vap0_mac".toList with
  | none => exact iff_of_true ((ends_text (by decide)).mpr rfl) nofun
  | some j =>
    simp only [Option.mem_def, Option.some.injEq, forall_eq']
    rw [ends_copied]
    refine forall_congr' fun mac => forall_congr' fun _ => ?_
    rw [ends_run, ends_ask, ends_unchecked (by decide)]
    simp

/-! ### The tests -/

theorem tells_doThroughput : (Op.doThroughput env).Tells ↔ PostOk env data .doThroughputTest := by
  show Ends PostRight [] (env.run _ >>= _) ↔ env.Fine _ ∧ _
  have hc : (Callee.fopen Op.affinityScript).Checks := fun _ => rfl
  rw [ends_run]
  by_cases h : env.Fine (.fopen Op.affinityScript)
  · rw [if_neg (not_not_intro ((fine_iff hc).mp h)), ends_unchecked (by decide)]
    simp
  · rw [if_pos (mt (fine_iff hc).mpr h)]
    simp [h]

/-- The tests that set the node for a range or a latency. -/
theorem tells_test {cs : List Callee} {answer : String} (hs : hasErrmsg answer.toList = false) :
    Op.Tells (env.runAll cs >>= fun _ => env.updateList answer) ↔
      (env.Fine .updateWtslNodeBasicinfo → env.AllFine cs) := by
  unfold Op.Tells
  rw [ends_runAll, ends_updateList hs]
  simp

theorem tells_doShortrange : (Op.doShortrange env).Tells ↔ PostOk env data .doShortrangeTest :=
  tells_test (by decide)

theorem tells_doRemoterange : (Op.doRemoterange env).Tells ↔ PostOk env data .doRemoterangeTest :=
  tells_test (by decide)

theorem tells_doLowlatency : (Op.doLowlatency env).Tells ↔ PostOk env data .doLowlatencyTest :=
  tells_test (by decide)

theorem tells_doLowpow : (Op.doLowpow env).Tells ↔ PostOk env data .doLowpowTest :=
  (ends_updateList (by decide)).trans (iff_of_true (fun _ => rfl) trivial)

/-! ### SLE -/

theorem tells_sleConnect : (Op.sleConnect env data).Tells ↔ PostOk env data .doSleConnect := by
  refine tells_body fun root => ?_
  unfold Op.Tells
  rw [ends_copied]
  refine forall_congr' fun mac => forall_congr' fun _ => ?_
  rw [ends_unchecked (by decide)]
  exact and_iff_right rfl

theorem tells_setSleBasicinfo :
    (Op.setSleBasicinfo env data).Tells ↔ PostOk env data .setSleBasicinfo := by
  refine tells_body fun root => ?_
  unfold Op.Tells
  rw [ends_copied]
  refine forall_congr' fun name => forall_congr' fun _ => ?_
  rw [ends_unchecked (by decide)]
  exact and_iff_right rfl

theorem tells_setAnnounceId :
    (Op.setAnnounceId env data).Tells ↔ PostOk env data .setSleAnnounceId := by
  refine (tells_body (p := fun _ => True) fun root => ?_).trans (by simp [OpEnv.ForBody, PostOk])
  unfold Op.Tells
  dsimp only
  rw [iff_true]
  split_ifs
  · simp
  · exact (ends_text (by decide)).mpr rfl

theorem tells_setSleTransConfig :
    (Op.setSleTransConfig env data).Tells ↔ PostOk env data .setSleTransConfig := by
  refine tells_body fun root => ?_
  unfold Op.Tells
  rw [ends_unchecked (by decide)]
  exact and_iff_right rfl

/-! ### QoS and ACL -/

theorem tells_qosSwitch : (Op.qosSwitch env data).Tells ↔ PostOk env data .qosSwitch := by
  refine tells_body fun root => ?_
  unfold Op.Tells
  cases root.getObjectItemCaseSensitive "enabled".toList with
  | none => exact iff_of_true ((ends_text (by decide)).mpr rfl) nofun
  | some j =>
    cases j with
    | bool enabled =>
      refine (ends_unchecked (by decide)).trans ?_
      simp
    | _ => exact iff_of_true ((ends_text (by decide)).mpr rfl) nofun

theorem tells_aclSwitch : (Op.aclSwitch env data).Tells ↔ PostOk env data .aclSwitch := by
  refine tells_body fun root => ?_
  unfold Op.Tells
  cases root.getObjectItem "enabled".toList with
  | none => exact iff_of_true ((ends_text (by decide)).mpr rfl) nofun
  | some j =>
    cases j with
    | bool enabled =>
      refine ends_popenAll.trans ?_
      rw [ends_text (by decide)]
      simp
    | _ => exact iff_of_true ((ends_text (by decide)).mpr rfl) nofun

/-- An answer that is copied to the body, once `es` has been met. -/
theorem ends_answerInto {item : Item} : Ends PostRight es (Op.answerInto env data item) ↔
    ∀ s ∈ env.print item, (s.take 8191).length ≤ data.length →
      (hasErrmsg (s.take 8191) = false ↔ es = [] ∧ s.length < 8192) := by
  unfold Op.answerInto
  cases env.print item with
  | none => simp
  | some s =>
    simp only [Option.mem_def, Option.some.injEq, forall_eq']
    split_ifs with hdata hlen
    · exact iff_of_true ends_undefined fun h => absurd hdata (Nat.not_lt.mpr h)
    · rw [ends_pure, postRight_text, forall_prop_of_true (Nat.not_lt.mp hdata)]
      simp only [hlen, and_true]
    · rw [ends_note, ends_pure, postRight_text, forall_prop_of_true (Nat.not_lt.mp hdata)]
      simp [hlen]

/-- The same for the answer to a request of rules. -/
theorem ends_rules {cmd : CStr} {runs : Bool} {item : Item} {strings : List CStr}
    (hprint : PrintsTexts env.print) (hitem : item.mentions = strings.any mentionsErrmsg)
    (hes : es = [] ↔ runs = true ∧ env.Exits cmd) :
    Ends PostRight es (Op.answerInto env data item) ↔ RulesOk env data cmd runs item strings := by
  rw [ends_answerInto]
  refine forall_congr' fun s => forall_congr' fun hs => forall_congr' fun _ => ?_
  have hstrings : hasErrmsg s = false ↔ ∀ t ∈ strings, mentionsErrmsg t = false := by
    rw [hprint item s hs, hitem, List.any_eq_false]
    simp only [Bool.not_eq_true]
  by_cases hlen : s.length < 8192
  · rw [List.take_of_length_le (by omega), hstrings, hes]
    simp [hlen]
  · simp [hlen, Nat.le_of_not_lt hlen]

/-- The answer to a request of QoS rules is that to its command. -/
theorem qosSetAnswer_eq (env : OpEnv) (root : Json) : qosSetAnswer env.toCallEnv root =
    (Op.qosSetCommand env root).map fun cmd => qosAnswer (qosExCommand env.toCallEnv cmd) := by
  unfold qosSetAnswer Op.qosSetCommand
  cases stringOr (root.getObjectItem "action".toList) "show" with
  | none => rfl
  | some action =>
    cases stringOr (root.getObjectItem "type".toList) "qdisc" with
    | none => rfl
    | some objType =>
      simp only [Option.bind_eq_bind, Option.bind_some]
      cases tcCommandOn env.qosDevice action objType root with
      | none => rfl
      | some cmd => rfl

theorem tells_aclSetRules (hprint : PrintsTexts env.print) :
    (Op.aclSetRules env data).Tells ↔ PostOk env data .aclSetRules := by
  refine tells_body fun root => ?_
  unfold Op.Tells wtslCoreAclSetRules aclSetAnswer
  cases stringOr (root.getObjectItem "action".toList) "list" with
  | none => simp
  | some action =>
    cases stringOr (root.getObjectItem "chain".toList) "FORWARD" with
    | none => simp
    | some chain =>
      simp only [Option.bind_eq_bind, Option.bind_some, Option.mem_def, Option.some.injEq, forall_eq']
      cases aclHandleRequest action chain root with
      | none => simp
      | some cmd =>
        simp only [Option.bind_some, Option.some.injEq, forall_eq']
        rw [ends_popened_const]
        refine ends_rules hprint (aclAnswer_mentions _ _ _ _) ?_
        rw [List.nil_append, popened_errors_eq_nil]
        simp

theorem tells_qosSetRules (hprint : PrintsTexts env.print) :
    (Op.qosSetRules env data).Tells ↔ PostOk env data .qosSetRules := by
  refine tells_body fun root => ?_
  unfold Op.Tells
  rw [qosSetAnswer_eq]
  cases Op.qosSetCommand env root with
  | none => simp
  | some cmd =>
    simp only [Option.map_some, Option.mem_def, Option.some.injEq, forall_eq']
    by_cases hlong : cmdLen + 8 ≤ cmd.length + 5
    · rw [if_pos hlong, ends_note]
      refine ends_rules hprint (qosAnswer_mentions _ _) ?_
      simp only [List.append_eq_nil_iff, List.cons_ne_nil, and_false, decide_eq_true_eq,
        Nat.not_lt.mpr hlong, false_and]
    · rw [if_neg hlong, ends_popened_const]
      refine ends_rules hprint (qosAnswer_mentions _ _) ?_
      rw [List.nil_append, popened_errors_eq_nil]
      simp only [decide_eq_true_eq, Nat.not_le.mp hlong, true_and]

/-! ### The firmware -/

/-- An error that is answered with a text is told as a success. -/
theorem not_ends_complain {e : OpError} {message : String}
    (h : hasErrmsg (Op.errorText message) = false) :
    ¬ Ends PostRight es (Op.complain e message) := by
  unfold Op.complain
  rw [ends_note, ends_text h]
  simp

theorem hasErrmsg_uploadMessages : ∀ m ∈ uploadMessages, hasErrmsg (Op.errorText m) = false := by
  decide

theorem tells_doUpload : (Op.doUpload env data).Tells ↔ PostOk env data .doUpload := by
  have hc : (Callee.fopen Op.upgradeBin).Checks := fun _ => rfl
  show Ends PostRight [] (env.run _ >>= _) ↔ (env.Fine _ → _ → _)
  rw [ends_run]
  by_cases h : env.Fine (.fopen Op.upgradeBin)
  · rw [if_neg (not_not_intro ((fine_iff hc).mp h)), ends_run, forall_prop_of_true h,
      failure_eq_nil.mpr h, List.nil_append, List.nil_append]
    cases hr : parseJsonExtractFileHeader (Op.uploadEnv env) (Op.uploaded env data) with
    | error fault => simp
    | ok r =>
      obtain ⟨reply, upgrade⟩ := r
      rw [forall_prop_of_true ⟨_, rfl⟩]
      obtain ⟨header, rfl, hacc⟩ | ⟨⟨message, hm, rfl⟩, hno⟩ := extract_cases hr
      · obtain ⟨-, -, root, -, rfl⟩ := (hacc header).mpr rfl
        simp only [hacc, exists_eq_left]
        rw [← hasErrmsg_uploadText]
        cases env.upload.short with
        | none =>
          refine ends_pure.trans ?_
          rw [postRight_text]
          simp
        | some k =>
          refine ends_note.trans ?_
          rw [ends_pure, postRight_text]
          simp
      · refine iff_of_false (not_ends_complain (hasErrmsg_uploadMessages _ hm)) ?_
        rintro ⟨header, hacc, -⟩
        exact hno header hacc
  · rw [if_pos (mt (fine_iff hc).mpr h)]
    simp [h]

/-- A check of the upgrade: past it only if the call does not fail. -/
theorem tells_orComplain {message : String} {k : Op Ptr} (hc : c.Checks)
    (hm : hasErrmsg (Op.errorText message) = false) :
    Ends PostRight es (Op.orComplain env c message k) ↔ env.Fine c ∧ Ends PostRight es k := by
  rw [Op.ends_orComplain, fine_iff hc, postRight_text]
  by_cases h : env.call c 0 = 0
  · simp [h]
  · simp [h, hm]

theorem upgradeCall_cases (header : FirmwareHeader) : (Op.upgradeCall header).1.Checks ∧
    hasErrmsg (Op.errorText (Op.upgradeCall header).2) = false := by
  unfold Op.upgradeCall
  split_ifs
  · exact ⟨fun _ => rfl, by decide⟩
  · exact ⟨fun _ => rfl, by decide⟩

theorem tells_doUpgrade : (Op.doUpgrade env).Tells ↔ PostOk env data .doUpgrade := by
  have hc : (Callee.fopen Op.upgradeBin).Checks := fun _ => rfl
  show Ends PostRight [] (env.run _ >>= _) ↔ (env.Fine _ → _ → _)
  rw [ends_run]
  by_cases h : env.Fine (.fopen Op.upgradeBin) ∧ Op.headerTerminated env
  · obtain ⟨hopen, hterm⟩ := h
    rw [if_neg (by simp [(fine_iff hc).mp hopen, hterm]), forall_prop_of_true hopen,
      forall_prop_of_true hterm, failure_eq_nil.mpr hopen, List.append_nil]
    cases hread : readHeader env.parse (cstr (env.upgradeBin.take 1024)) with
    | error message =>
      refine iff_of_false (not_ends_complain
        (hasErrmsg_uploadMessages _ (readHeader_error hread))) ?_
      rintro ⟨root, hroot, -⟩
      exact nomatch hroot
    | ok root =>
      have hu := upgradeCall_cases (firmwareHeader root)
      simp only [Except.ok.injEq, exists_eq_left']
      rw [tells_orComplain (fun _ => rfl) (by decide), tells_orComplain (fun _ => rfl) (by decide),
        tells_orComplain hu.1 hu.2, ends_pure, postRight_text, hasErrmsg_upgradeText]
      simp
  · rw [if_pos (by rw [← not_and_or]; exact fun hf => h ⟨(fine_iff hc).mpr hf.1, hf.2⟩)]
    exact iff_of_true ends_undefined fun hopen hterm => absurd ⟨hopen, hterm⟩ h

/-! ### The operations that ask the driver -/

/-- A string of the body, and what follows for each. -/
theorem ends_field18 {root : Json} {field : String} {f : CStr → Op Ptr} {p : CStr → Prop}
    (h : ∀ t, Ends PostRight es (f t) ↔ p t) :
    Ends PostRight es (Op.field18 root field >>= f) ↔
      ∀ t, copyField 18 root field [] = .ok t → p t := by
  unfold Op.field18
  rw [ends_copied]
  exact forall_congr' fun t => forall_congr' fun _ => h t

/-- The status of a command, and what follows for each. -/
theorem ends_statusLine {cmd : CStr} {f : CStr × CStr → Op Ptr}
    {p : CommandRun → CStr × CStr → Prop}
    (h : ∀ run st, Ends PostRight (es ++ exitErrors cmd run) (f st) ↔ p run st) :
    Ends PostRight es (env.statusLine cmd >>= f) ↔
      ∀ run ∈ env.popen cmd, ∀ st ∈ statusIn run.output, p run st := by
  unfold OpEnv.statusLine
  rw [bind_assoc, ends_output]
  refine forall_congr' fun run => forall_congr' fun _ => ?_
  rw [ends_ofOption]
  exact forall_congr' fun st => forall_congr' fun _ => h run st

theorem ends_succeeded {status : CStr} {k : Op Ptr} : Ends PostRight es (succeeded status k) ↔
    (status = succText → Ends PostRight es k) := by
  unfold succeeded
  split_ifs with h
  · exact ⟨fun hk _ => hk, fun hk => hk h⟩
  · exact iff_of_true ends_reject fun hs => absurd hs h

/-- A command that answers nothing but its status. -/
theorem tells_command {cmd : CStr} : (Op.command env cmd).Tells ↔ env.SuccExits cmd := by
  unfold Op.Tells Op.command
  refine ends_statusLine fun run p => ?_
  refine ends_succeeded.trans ?_
  rw [ends_text (by decide)]
  simp

theorem tells_doDisconnect (hprint : PrintsTexts env.print) :
    (Op.doDisconnect env data).Tells ↔ PostOk env data .doDisconnect := by
  refine tells_body fun root => ?_
  unfold Op.Tells
  refine ends_field18 fun mac => ?_
  rw [ends_output]
  refine forall_congr' fun run => forall_congr' fun _ => ?_
  rw [ends_ofOption]
  refine forall_congr' fun status => forall_congr' fun _ => ?_
  split_ifs with h
  · rw [ends_answer hprint, show (Op.disconnectItem "success").mentions = false by rfl]
    simp
  · rw [ends_note, ends_answer hprint, show (Op.disconnectItem "failed").mentions = false by rfl]
    simp

theorem secalgItem_mentions (algorithm : CStr) :
    (Op.secalgItem algorithm).mentions = mentionsErrmsg algorithm := by
  have h : (Op.secalgItem algorithm).mentions = ((false || mentionsErrmsg algorithm) || false) := rfl
  rw [h, Bool.or_false, Bool.false_or]

theorem adaptivemcsItem_mentions (userMac resType dir s : CStr) :
    (Op.adaptivemcsItem userMac resType dir s).mentions =
      (mentionsErrmsg userMac || mentionsErrmsg resType || mentionsErrmsg dir) := by
  have h : (Op.adaptivemcsItem userMac resType dir s).mentions =
      (mentionsErrmsg userMac || (mentionsErrmsg resType || (mentionsErrmsg dir || false))) := rfl
  rw [h, Bool.or_false, Bool.or_assoc]

theorem tells_getSecalg (hprint : PrintsTexts env.print) :
    (Op.getSecalg env data).Tells ↔ PostOk env data .getSecalg := by
  refine tells_body fun root => ?_
  unfold Op.Tells
  refine ends_field18 fun mac => ?_
  refine ends_statusLine fun run p => ?_
  refine ends_ofOption.trans ?_
  refine forall_congr' fun algorithm => forall_congr' fun _ => ?_
  rw [ends_succeeded, ends_answer hprint]
  rw [secalgItem_mentions, List.nil_append, exitErrors_eq_nil]

theorem tells_setAdaptivemcs :
    (Op.setAdaptivemcs env data).Tells ↔ PostOk env data .setAdaptivemcs := by
  refine tells_body fun root => ?_
  unfold Op.Tells
  refine ends_field18 fun userMac => ?_
  refine ends_field18 fun resType => ?_
  exact ends_field18 fun dir => tells_command

theorem tells_doClearschmcs :
    (Op.doClearschmcs env data).Tells ↔ PostOk env data .doClearschmcs := by
  refine tells_body fun root => ?_
  unfold Op.Tells
  exact ends_field18 fun userMac => tells_command

theorem tells_setMcsbound : (Op.setMcsbound env data).Tells ↔ PostOk env data .setMcsbound := by
  refine tells_body fun root => ?_
  unfold Op.Tells
  exact ends_field18 fun userMac => tells_command

theorem tells_getAdaptivemcsinfo (hprint : PrintsTexts env.print) :
    (Op.getAdaptivemcsinfo env data).Tells ↔ PostOk env data .getAdaptivemcsinfo := by
  refine tells_body fun root => ?_
  unfold Op.Tells
  refine ends_field18 fun userMac => ?_
  refine ends_field18 fun resType => ?_
  refine ends_field18 fun dir => ?_
  refine ends_statusLine fun run p => ?_
  refine ends_succeeded.trans ?_
  rw [ends_answer hprint, adaptivemcsItem_mentions, List.nil_append, exitErrors_eq_nil]

theorem tells_getMcsboundinfo (hprint : PrintsTexts env.print) :
    (Op.getMcsboundinfo env data).Tells ↔ PostOk env data .getMcsboundinfo := by
  refine tells_body fun root => ?_
  unfold Op.Tells
  refine ends_field18 fun userMac => ?_
  refine ends_statusLine fun run p => ?_
  refine ends_succeeded.trans ?_
  rw [ends_answer hprint, show (Op.mcsboundItem p.2).mentions = false by rfl, List.nil_append,
    exitErrors_eq_nil]
  simp

theorem tells_getNodeTraffic (hprint : PrintsTexts env.print) :
    (Op.getNodeTraffic env data).Tells ↔ PostOk env data .getNodeTraffic := by
  refine tells_body fun root => ?_
  unfold Op.Tells
  rw [ends_copied]
  refine forall_congr' fun interface => forall_congr' fun _ => ?_
  rw [ends_popened]
  cases env.popen (ifconfigCmd interface) with
  | none => simp
  | some run =>
    dsimp only
    rw [ends_popened]
    cases env.popen dateCmd with
    | none => simp
    | some date =>
      dsimp only
      rw [ends_answer hprint, show (Op.trafficItem run.output date.output).mentions = false by rfl]
      simp

theorem tells_getTraceinfo (hprint : PrintsTexts env.print) :
    (Op.getTraceinfo env data).Tells ↔ PostOk env data .getTraceinfo := by
  refine tells_body fun root => ?_
  unfold Op.Tells
  refine ends_field18 fun userMac => ?_
  refine ends_field18 fun feature => ?_
  cases ht : traceFeature feature with
  | none => exact iff_of_true ends_reject nofun
  | some t =>
    simp only [Option.mem_def, Option.some.injEq, forall_eq']
    refine ends_output.trans ?_
    refine forall_congr' fun run => forall_congr' fun _ => ?_
    rw [ends_ofOption]
    refine forall_congr' fun st => forall_congr' fun hst => ?_
    have hitem : (t.item env.params.type.toInt feature userMac st).mentions =
        traceMentions feature userMac st :=
      TraceFeature.item_mentions (List.mem_of_find?_eq_some ht) (TraceFeature.scan_labels hst)
    split_ifs with h
    · rw [ends_answer hprint, hitem]
      simp [h]
    · rw [ends_note, ends_answer hprint, hitem]
      simp [h]

/-! ### Every operation -/

/-- **The status of a `POST` operation is right exactly under its condition.** -/
theorem postOperation_tells_iff (env : OpEnv) (data : List Char) (func : NodeFunc)
    (hprint : PrintsTexts env.print) :
    (postOperation env data func).Tells ↔ PostOk env data func := by
  cases func with
  | setNodeBasicinfo => exact tells_setNodeBasicinfo
  | setNodeAdvinfo => exact tells_setNodeAdvinfo
  | doConnect => exact tells_doConnect
  | doAutojoinNetwork => exact tells_autoJoinNet
  | doTimeSync => exact tells_doTimeSync
  | doReboot => exact tells_doReboot
  | doDisconnect => exact tells_doDisconnect hprint
  | doRestore => exact tells_doRestore
  | doAifh => exact tells_switch aifh
  | doChswitch => exact tells_switch chswitch
  | getNodeTraffic => exact tells_getNodeTraffic hprint
  | getSecalg => exact tells_getSecalg hprint
  | setAdaptivemcs => exact tells_setAdaptivemcs
  | doClearschmcs => exact tells_doClearschmcs
  | getMcsboundinfo => exact tells_getMcsboundinfo hprint
  | setMcsbound => exact tells_setMcsbound
  | getAdaptivemcsinfo => exact tells_getAdaptivemcsinfo hprint
  | getTraceinfo => exact tells_getTraceinfo hprint
  | doThroughputTest => exact tells_doThroughput
  | doShortrangeTest => exact tells_doShortrange
  | doRemoterangeTest => exact tells_doRemoterange
  | doLowpowTest => exact tells_doLowpow
  | doLowlatencyTest => exact tells_doLowlatency
  | doSleConnect => exact tells_sleConnect
  | setSleBasicinfo => exact tells_setSleBasicinfo
  | setSleAnnounceId => exact tells_setAnnounceId
  | configVap0Mac => exact tells_configVap0Mac
  | setSleTransConfig => exact tells_setSleTransConfig
  | doUpload => exact tells_doUpload
  | doUpgrade => exact tells_doUpgrade
  | qosSwitch => exact tells_qosSwitch
  | qosSetRules => exact tells_qosSetRules hprint
  | aclSwitch => exact tells_aclSwitch
  | aclSetRules => exact tells_aclSetRules hprint
  | _ => exact iff_of_true ends_reject trivial

end WtslCore
