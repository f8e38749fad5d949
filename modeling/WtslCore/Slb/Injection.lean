/-
# What the shell sees of a rule request

A request for a rule becomes a command line that `popen` hands to the shell.
The characters of the request are to be arguments of iptables or tc and
nothing else (`SingleInvocation`). The rule functions check none of them, so
this is so exactly if the request has no character in it that the shell acts
on (`popen_single_invocation_iff`).

Key definitions: `RuleRequest`, `RuleRequest.popenText`,
`RuleRequest.inserted`, `SingleInvocation`.
Key theorems: `tcCommand_of`, `iptablesCommand_of`,
`wtslCoreAclSetRules_of`, `popen_single_invocation_iff`.
-/
import WtslCore.Slb.QosCore

namespace WtslCore

open Shell

/-! ### The parts of the commands bring in what the request says -/

/-- A command of the form a rule function writes: the printed start, then
parts that bring in `vs`. -/
structure CommandOf (program : String) (ps : List Piece) (vs : List (Bool × CStr)) : Prop where
  values_eq : values true ps = vs
  inert : ∀ s, .fixed s ∈ ps → Inert s
  program_prefix : ∃ rest, text ps = (lit (program ++ " ")).text ++ rest

theorem CommandOf.append {program : String} {base ps : List Piece} {vs us : List (Bool × CStr)}
    (hb : CommandOf program base vs) (hp : Block ps us) :
    CommandOf program (base ++ ps) (vs ++ us) where
  values_eq := by
    obtain ⟨b, h⟩ := values_append base ps true
    rw [h, hb.values_eq, hp.values_eq]
  inert s hs := (List.mem_append.mp hs).elim (hb.inert s) (hp.inert s)
  program_prefix := by
    obtain ⟨rest, h⟩ := hb.program_prefix
    exact ⟨rest ++ text ps, by rw [text_append, h, List.append_assoc]⟩

/-- The printed start is such a command. -/
theorem commandOf_snprintf (program kw : String) {ps : List Piece}
    (hlen : kw.toList.length < cmdLen) (hkw : ∃ s, kw.toList = (program ++ " ").toList ++ s)
    (h : ∀ s, .fixed s ∈ lit kw :: ps → Inert s) :
    CommandOf program (snprintf cmdLen (lit kw :: ps))
      (values true (snprintf cmdLen (lit kw :: ps))) where
  values_eq := rfl
  inert := inert_cut h
  program_prefix := by
    obtain ⟨s, hs⟩ := hkw
    have hcut : snprintf cmdLen (lit kw :: ps) = lit kw :: cut (cmdLen - 1 - kw.toList.length) ps := by
      rw [snprintf, lit, cut, List.take_of_length_le (by omega)]
    refine ⟨(s.map fun c => (c, false)) ++ text (cut (cmdLen - 1 - kw.toList.length) ps), ?_⟩
    rw [hcut, text_cons, lit, Piece.text, hs, List.map_append, List.append_assoc]
    rfl

theorem strcatAll_command {program : String} {base ps : List Piece} {vs : List (Bool × CStr)}
    {parts : List (Option (List Piece))} {vss : List (List (Bool × CStr))}
    (h : strcatAll base parts = some ps) (hb : CommandOf program base vs)
    (hp : List.Forall₂ PartOf parts vss) : CommandOf program ps (vs ++ vss.flatten) := by
  obtain ⟨more, h1, rfl, -⟩ := strcatAll_spec h
  exact hb.append (concat_block hp more h1)

theorem tcArg_block (objType : CStr) (item : CStr × Json) :
    Block (tcArg objType item) (tcArgInserted objType item) := by
  unfold tcArg tcArgInserted
  cases argText item.2 with
  | none => exact .nil
  | some val =>
    by_cases hm : objType = "filter".toList ∧ item.1 = "match".toList
    · simp only [if_pos hm]
      exact block_value _ (by decide) val
    · simp only [if_neg hm]
      exact (block_value _ (by decide) item.1).append (block_value _ (by decide) val)

theorem parentOfClassid_block : ∀ classid : Option Json,
    Block (parentOfClassid classid) (majorInserted classid)
  | some (.string s) => by
    unfold parentOfClassid majorInserted
    cases h : classMajor s with
    | none => simpa [h] using Block.nil
    | some major =>
      simp only [h]
      exact (block_value " parent " (by decide) major).append (block_lit _ (by decide))
  | none | some .null | some (.bool _) | some (.number _) | some (.array _) | some (.object _) => .nil

theorem tcParent_part (objType : CStr) (parent classid : Option Json) :
    PartOf (tcParent objType parent classid) (parentInserted objType parent classid) := by
  unfold tcParent parentInserted
  by_cases hp : parent.isSome = true
  · simp only [if_pos hp, ite_self]
    exact optArg_part _ (by decide) parent
  · simp only [if_neg hp]
    by_cases hq : objType = "qdisc".toList
    · have hc : objType ≠ "class".toList := by
        subst hq
        decide
      rw [if_pos hq, if_neg hc]
      exact .some (block_lit _ (by decide))
    · rw [if_neg hq]
      by_cases hc : objType = "class".toList
      · rw [if_pos hc, if_pos hc]
        exact .some (parentOfClassid_block classid)
      · rw [if_neg hc, if_neg hc]
        exact .some .nil

theorem prioArg_block : ∀ prio : Option Json, Block (prioArg prio) (prioInserted prio)
  | none => .nil
  | some j => by
    have h : prioArg (some j) = [lit " prio ", .value ((intText j.valueint).take 9)] := rfl
    rw [h]
    exact block_value _ (by decide) _

/-- A part behind a condition brings in its values under the condition. -/
theorem PartOf.when {o : Option (List Piece)} {vs : List (Bool × CStr)} (P : Prop) [Decidable P]
    (h : PartOf o vs) : PartOf (if P then o else Option.some []) (if P then vs else []) :=
  h.ite (.some .nil)

/-- An optional part with its keyword behind a condition. -/
theorem optArg_when (kw : String) (h : Keyword kw) (P : Prop) [Decidable P] (j : Option Json) :
    PartOf (if P then optArg kw j else some []) (if P then strValues j else []) :=
  (optArg_part kw h j).when P

theorem devPiece_inert (params : Json) : ∀ s, .fixed s ∈ [devPiece params] → Inert s := by
  unfold devPiece
  split
  · exact inert_value (by simp)
  · exact inert_lit (by decide) (by simp)

/-- **A tc command brings in what `tcInserted` lists.** -/
theorem tcCommand_of {action objType : CStr} {params : Json} {ps : List Piece}
    (h : tcCommand action objType params = some ps) :
    CommandOf "tc" ps (values true (snprintf cmdLen (tcBase action objType (devPiece params))) ++
      tcInserted action objType params) := by
  have hbase : CommandOf "tc" (snprintf cmdLen (tcBase action objType (devPiece params)))
      (values true (snprintf cmdLen (tcBase action objType (devPiece params)))) := by
    have hdev := devPiece_inert params
    unfold tcBase
    split_ifs
    · exact commandOf_snprintf _ _ (by decide) ⟨_, rfl⟩ (inert_lit (by decide) hdev)
    · exact commandOf_snprintf _ _ (by decide) ⟨_, rfl⟩ (inert_lit (by decide) hdev)
    · exact commandOf_snprintf _ _ (by decide) ⟨_, rfl⟩ (inert_lit (by decide) hdev)
    · exact commandOf_snprintf _ _ (by decide) ⟨_, rfl⟩ (inert_lit (by decide) hdev)
    · exact commandOf_snprintf _ _ (by decide) ⟨_, rfl⟩ (inert_lit (by decide) (inert_value
        (inert_lit (by decide) (inert_value (inert_lit (by decide) hdev)))))
  by_cases hdel : isDelete action = true
  · unfold tcCommand at h
    simp only [if_pos hdel] at h
    have := strcatAll_command h hbase
      (.cons (optArg_part _ (by decide) _) (.cons (optArg_part _ (by decide) _) .nil))
    simpa only [tcInserted, if_pos hdel, List.flatten_cons, List.flatten_nil, List.append_nil]
      using this
  · unfold tcCommand at h
    simp only [if_neg hdel] at h
    have hclassid := optArg_when " classid " (by decide)
    have hhandle := optArg_when " handle " (by decide)
    have hprotocol := optArg_when " protocol " (by decide)
    have hkind := optArg_when " " (by decide)
    have hflowid := optArg_when " flowid " (by decide)
    have := strcatAll_command h hbase (.cons (tcParent_part objType _ _)
      (.cons (hclassid _ _) (.cons (hhandle _ _) (.cons (hprotocol _ _)
        (.cons (.when _ (.some (prioArg_block _))) (.cons (hkind _ _)
          (.cons (.some (Block.flatMap (tcArg_block objType) _)) (.cons (hflowid _ _) .nil))))))))
    simpa only [tcInserted, if_neg hdel, List.flatten_cons, List.flatten_nil, List.append_nil,
      List.append_assoc] using this

theorem devPiece_block (kw : String) (h : Keyword kw) (params : Json) :
    Block [lit kw, devPiece params] (strValues (params.getObjectItemCaseSensitive "device".toList)) := by
  unfold devPiece strValues
  generalize params.getObjectItemCaseSensitive "device".toList = j
  have hdflt : Block [lit kw, lit netBridgeName] [] :=
    (block_lit kw h.2).append (block_lit netBridgeName (by decide))
  match j with
  | some (.string s) => exact block_value kw h s
  | none | some .null | some (.bool _) | some (.number _) | some (.array _) | some (.object _) =>
    exact hdflt

theorem interfaceArgs_part (chain : CStr) (params : Json) :
    PartOf (interfaceArgs chain params) (interfaceInserted chain params) := by
  unfold interfaceArgs interfaceInserted
  refine PartOf.ite ?_ ?_
  · by_cases hi : chain = "INPUT".toList ∨ chain = "FORWARD".toList
    · have hm : chain ∈ ["INPUT".toList, "FORWARD".toList, "OUTPUT".toList] := by
        rcases hi with rfl | rfl <;> decide
      rw [if_pos hi, if_pos hm]
      exact .some (devPiece_block _ (by decide) params)
    · rw [if_neg hi]
      by_cases ho : chain = "OUTPUT".toList
      · have hm : chain ∈ ["INPUT".toList, "FORWARD".toList, "OUTPUT".toList] := by
          subst ho
          decide
        rw [if_pos ho, if_pos hm]
        exact .some (devPiece_block _ (by decide) params)
      · have hm : chain ∉ ["INPUT".toList, "FORWARD".toList, "OUTPUT".toList] := by
          intro hm
          rcases List.mem_cons.mp hm with h | hm
          · exact hi (.inl h)
          · rcases List.mem_cons.mp hm with h | hm
            · exact hi (.inr h)
            · exact ho (List.mem_singleton.mp hm)
        rw [if_neg ho, if_neg hm]
        exact .some .nil
  · have hin := optArg_part " -i " (by decide)
      (params.getObjectItemCaseSensitive "in_interface".toList)
    have hout := optArg_part " -o " (by decide)
      (params.getObjectItemCaseSensitive "out_interface".toList)
    simpa using concat_block (.cons hin (.cons hout .nil))

theorem iptablesOption_of_mem {key : CStr} (h : key ∈ iptablesKeys) :
    ∃ kw, Keyword kw ∧ iptablesOption key = [lit kw] := by
  unfold iptablesKeys at h
  simp only [List.map_cons, List.map_nil, List.mem_cons, List.not_mem_nil, or_false] at h
  rcases h with rfl | rfl | rfl | rfl | rfl | rfl | rfl | rfl
  all_goals exact ⟨_, by decide, rfl⟩

theorem iptablesOption_of_not_mem {key : CStr} (h : key ∉ iptablesKeys) :
    iptablesOption key = [lit " --", .value key, lit " "] := by
  unfold iptablesKeys at h
  simp only [List.map_cons, List.map_nil, List.mem_cons, List.not_mem_nil, or_false, not_or] at h
  obtain ⟨h1, h2, h3, h4, h5, h6, h7, h8⟩ := h
  unfold iptablesOption
  rw [if_neg (by simp only [h1, h2, or_self, not_false_eq_true]),
    if_neg (by simp only [h3, h4, or_self, not_false_eq_true]), if_neg h5, if_neg h6,
    if_neg (by simp only [h7, h8, or_self, not_false_eq_true])]

theorem iptablesArg_block (item : CStr × Json) :
    Block (iptablesArg item) (iptablesArgInserted item) := by
  unfold iptablesArg iptablesArgInserted
  cases argIntText item.2 with
  | none => exact .nil
  | some val =>
    by_cases hk : item.1 ∈ iptablesKeys
    · obtain ⟨kw, hkw, heq⟩ := iptablesOption_of_mem hk
      simp only [if_pos hk, heq]
      exact block_value kw hkw val
    · simp only [if_neg hk, iptablesOption_of_not_mem hk]
      have hkey : Block [lit " --", .value item.1] [(false, item.1)] :=
        ⟨fun _ => rfl, inert_lit (by decide) (inert_value (by simp))⟩
      exact hkey.append (block_value " " (by decide) val)

theorem actionFlag_inert (action : CStr) : Inert (actionFlag action).toList := by
  unfold actionFlag
  split_ifs <;> decide

/-- **An iptables command of the QoS core brings in what `iptablesInserted` lists.** -/
theorem iptablesCommand_of {action chain : CStr} {params : Json} {ps : List Piece}
    (h : iptablesCommand action chain params = some ps) :
    CommandOf "iptables" ps
      (values true (snprintf cmdLen [lit "iptables ", lit (actionFlag action), lit " ", .value chain]) ++
        iptablesInserted chain params) := by
  have hinert : ∀ s, Piece.fixed s ∈ [lit "iptables ", lit (actionFlag action), lit " ",
      Piece.value chain] → Inert s :=
    inert_lit (by decide) (inert_lit (actionFlag_inert action) (inert_lit (by decide)
      (inert_value (by simp))))
  have hbase := commandOf_snprintf "iptables" "iptables " (by decide) ⟨[], rfl⟩ hinert
  have := strcatAll_command h hbase (.cons (.some (strArg_block " -p " (by decide) _))
    (.cons (interfaceArgs_part chain params)
      (.cons (.some (Block.flatMap iptablesArg_block _)) .nil)))
  simpa only [iptablesInserted, List.flatten_cons, List.flatten_nil, List.append_nil,
    List.append_assoc] using this

theorem portArgs_block (rule : Json) : Block (portArgs rule)
    (strValues (rule.getObjectItemCaseSensitive "source_port".toList) ++
      strValues (rule.getObjectItemCaseSensitive "dest_port".toList)) := by
  unfold portArgs
  generalize rule.getObjectItemCaseSensitive "source_port".toList = sport
  generalize rule.getObjectItemCaseSensitive "dest_port".toList = dport
  by_cases hp : (dport.isSome || sport.isSome) = true
  · simp only [if_pos hp]
    have hmod : ∀ P : Prop, [Decidable P] →
        Block (if P then [lit " -m udp"] else [lit " -m tcp"]) [] := by
      intro P _
      split_ifs
      · exact block_lit _ (by decide)
      · exact block_lit _ (by decide)
    have hports := (strArg_block " --sport " (by decide) sport).append
      (strArg_block " --dport " (by decide) dport)
    exact (hmod _).append hports
  · simp only [if_neg hp]
    have hnone : dport = none ∧ sport = none := by simpa using hp
    rw [hnone.1, hnone.2]
    exact .nil

theorem iptablesBase_of (action chain : CStr) (params : Json) :
    CommandOf "iptables" (snprintf cmdLen (iptablesBase action chain params))
      (values true (snprintf cmdLen (iptablesBase action chain params))) := by
  have hend : ∀ numBuf, ∀ s, .fixed s ∈ [.value chain, lit " ", .value numBuf] → Inert s :=
    fun _ => inert_value (inert_lit (by decide) (inert_value (by simp)))
  have hflag : ∀ ps, (∀ s, .fixed s ∈ ps → Inert s) →
      ∀ s, .fixed s ∈ lit "iptables -w " :: lit (actionFlag action) :: lit " " :: ps → Inert s :=
    fun _ hps => inert_lit (by decide) (inert_lit (actionFlag_inert action) (inert_lit (by decide) hps))
  unfold iptablesBase
  cases ruleNum params with
  | none => exact commandOf_snprintf _ _ (by decide) ⟨_, rfl⟩ (hflag _ (inert_value (by simp)))
  | some n =>
    simp only
    split_ifs
    · exact commandOf_snprintf _ _ (by decide) ⟨_, rfl⟩ (inert_lit (by decide) (hend _))
    · exact commandOf_snprintf _ _ (by decide) ⟨_, rfl⟩ (inert_lit (by decide) (hend _))
    · exact commandOf_snprintf _ _ (by decide) ⟨_, rfl⟩ (inert_lit (by decide) (hend _))
    · exact commandOf_snprintf _ _ (by decide) ⟨_, rfl⟩ (hflag _ (hend _))

/-- **An ACL command brings in what `aclInserted` lists.** -/
theorem wtslCoreAclSetRules_of {root : Json} {ps : List Piece}
    (h : wtslCoreAclSetRules root = some ps) : CommandOf "iptables" ps (aclInserted root) := by
  unfold wtslCoreAclSetRules at h
  obtain ⟨action, ha, h⟩ := Option.bind_eq_some_iff.mp h
  obtain ⟨chain, hc, h⟩ := Option.bind_eq_some_iff.mp h
  unfold aclInserted
  simp only [ha, hc, aclBaseInserted]
  unfold aclHandleRequest at h
  by_cases hl : action = "list".toList ∨ action = "get".toList
  · rw [if_pos hl] at h
    cases h
    have hl' : action = "list".toList ∨ action = "get".toList ∨
        (ruleNum root).isSome = true ∧ isDelete action = true :=
      hl.elim .inl fun hg => .inr (.inl hg)
    rw [if_pos hl, if_pos hl', List.append_nil]
    exact commandOf_snprintf _ _ (by decide) ⟨_, rfl⟩ (inert_lit (by decide) (inert_value (by simp)))
  · rw [if_neg hl] at h
    rw [if_neg hl]
    have hbase := iptablesBase_of action chain root
    unfold buildIptablesCmd at h
    by_cases hd : (ruleNum root).isSome = true ∧ isDelete action = true
    · rw [if_pos (by simpa using hd)] at h
      cases h
      rw [if_pos (.inr (.inr hd)), List.append_nil]
      exact hbase
    · have hl' : ¬ (action = "list".toList ∨ action = "get".toList ∨
          (ruleNum root).isSome = true ∧ isDelete action = true) := by
        rintro (h1 | h1 | h1)
        · exact hl (.inl h1)
        · exact hl (.inr h1)
        · exact hd h1
      rw [if_neg (by simpa using hd)] at h
      rw [if_neg hl']
      have := strcatAll_command h hbase (.cons (.some (strArg_block " -p " (by decide) _))
        (.cons (.some (strArg_block " -s " (by decide) _))
          (.cons (.some (strArg_block " -d " (by decide) _))
            (.cons (.some (strArg_block " -i " (by decide) _))
              (.cons (.some (strArg_block " -o " (by decide) _))
                (.cons (.some (portArgs_block _))
                  (.cons (.some (strArg_block " -j " (by decide) _)) .nil)))))))
      simpa only [ruleInserted, List.flatten_cons, List.flatten_nil, List.append_nil,
        List.map_cons, List.map_nil, List.flatMap_cons, List.flatMap_nil, List.append_assoc]
        using this

/-! ### The request and the shell -/

/-- A request that ends in a command line: the two callbacks with the tree
`cJSON_Parse` made of the body, and `iptables_handle_request`, which no
callback calls. -/
inductive RuleRequest
  | acl (root : Json)
  | qos (root : Json)
  | iptables (action chain : CStr) (params : Json)

namespace RuleRequest

/-- The program the command line is for. -/
def program : RuleRequest → String
  | .acl _ | .iptables _ _ _ => "iptables"
  | .qos _ => "tc"

/-- What `ex_command` of the QoS core appends. It leaves room for it, so a
command that fits its buffer is never too long there. -/
def redirect : Text := (lit " 2>&1").text

/-- The text handed to `popen`, with the characters of the request marked. -/
def popenText : RuleRequest → Option Text
  | .acl root => (wtslCoreAclSetRules root).map text
  | .qos root => (wtslCoreQosSetRules root).map fun ps => text ps ++ redirect
  | .iptables action chain params =>
    (iptablesCommand action chain params).map fun ps => text ps ++ redirect

/-- The values of the request that get into the command line, in order. -/
def inserted : RuleRequest → List (Bool × CStr)
  | .acl root => aclInserted root
  | .qos root =>
    match stringOr (root.getObjectItem "action".toList) "show",
      stringOr (root.getObjectItem "type".toList) "qdisc" with
    | some action, some objType =>
      values true (snprintf cmdLen (tcBase action objType (devPiece root))) ++
        tcInserted action objType root
    | _, _ => []
  | .iptables action chain params =>
    values true
        (snprintf cmdLen [lit "iptables ", lit (actionFlag action), lit " ", .value chain]) ++
      iptablesInserted chain params

end RuleRequest

/-- The text is one command of the program, and no marked character is
anything but text to the shell. -/
def SingleInvocation (program : String) (t : Text) : Prop :=
  InjectionFree .start t ∧ OneCommand .start t ∧ ∃ rest, t = (lit (program ++ " ")).text ++ rest

/-- A command with a fixed tail is a single invocation if its values are safe. -/
theorem singleInvocation_iff {program : String} {ps : List Piece} {vs : List (Bool × CStr)}
    (h : CommandOf program ps vs) {tail : Text}
    (ht : ∀ st ∈ [State.start, .word, .comment], OneCommand st tail)
    (htf : ∀ x ∈ tail, x.2 = false ∧ x.1 ≠ '\n') :
    SingleInvocation program (text ps ++ tail) ↔ ValuesSafe vs := by
  have hsingle := singleCommand_iff h.inert ht htf
  rw [h.values_eq] at hsingle
  obtain ⟨rest, hrest⟩ := h.program_prefix
  rw [← hsingle]
  refine ⟨fun hs => ⟨hs.1, hs.2.1⟩, fun hs => ⟨hs.1, hs.2, rest ++ tail, ?_⟩⟩
  rw [hrest, List.append_assoc]

/-- **What a rule request hands to `popen` is a single invocation of its
program exactly if the values it inserts are safe.** -/
theorem popen_single_invocation_iff (r : RuleRequest) (t : Text) (h : r.popenText = some t) :
    SingleInvocation r.program t ↔ ValuesSafe r.inserted := by
  have hredirect : ∀ st ∈ [State.start, .word, .comment], OneCommand st RuleRequest.redirect := by
    decide
  cases r with
  | acl root =>
    obtain ⟨ps, hps, rfl⟩ := Option.map_eq_some_iff.mp h
    have hnil : ∀ st ∈ [State.start, .word, .comment], OneCommand st [] := by decide
    have := singleInvocation_iff (wtslCoreAclSetRules_of hps) hnil (by simp)
    rwa [List.append_nil] at this
  | qos root =>
    obtain ⟨ps, hps, rfl⟩ := Option.map_eq_some_iff.mp h
    unfold wtslCoreQosSetRules at hps
    obtain ⟨action, ha, hps⟩ := Option.bind_eq_some_iff.mp hps
    obtain ⟨objType, ho, hps⟩ := Option.bind_eq_some_iff.mp hps
    simp only [RuleRequest.inserted, ha, ho]
    exact singleInvocation_iff (tcCommand_of hps) hredirect (by decide)
  | iptables action chain params =>
    obtain ⟨ps, hps, rfl⟩ := Option.map_eq_some_iff.mp h
    exact singleInvocation_iff (iptablesCommand_of hps) hredirect (by decide)

/-- A request that adds a qdisc. -/
def addQdiscRequest : RuleRequest :=
  .qos (.object [("action".toList, .string "add".toList), ("type".toList, .string "qdisc".toList),
    ("handle".toList, .string "1:".toList), ("kind".toList, .string "htb".toList)])

/-- `addQdiscRequest` runs tc once, with what it names. -/
theorem popen_single_invocation_add_qdisc :
    ∃ t, addQdiscRequest.popenText = some t ∧
      t.map Prod.fst = "tc qdisc add dev wt_br0 root handle 1: htb 2>&1".toList ∧
      SingleInvocation "tc" t :=
  ⟨_, rfl, rfl, (popen_single_invocation_iff addQdiscRequest _ rfl).mpr (by decide)⟩

/-- A request whose source address ends the command. -/
def injectingRequest : RuleRequest :=
  .acl (.object [("action".toList, .string "add".toList),
    ("source".toList, .string "10.0.0.1; reboot".toList)])

/-- `injectingRequest` hands the shell two commands. -/
theorem popen_injection :
    ∃ t, injectingRequest.popenText = some t ∧
      t.map Prod.fst = "iptables -w -A FORWARD -s 10.0.0.1; reboot".toList ∧
      ¬ SingleInvocation injectingRequest.program t := by
  refine ⟨_, rfl, rfl, fun h => ?_⟩
  have hfree := h.1
  revert hfree
  decide

end WtslCore
