/-
# The length of the rule commands

A rule function prints the start of a command into 4096 bytes, cut to size,
and appends the rest without a look at the size; it rejects nothing. So the
command fits exactly if the lengths of what the branch taken appends, the
start included, add up to less than the buffer, and every item that is
appended is a string (`ruleCommand_fits_iff`).

The lengths are those of the request's fields and of the default device, which
is a parameter here: `tcCommandOn` and `iptablesCommandOn` are the commands of
`Slb.QosCore` on any default device.

Key definitions: `CommandFits`, `aclLength`, `tcLength`, `iptablesLength`.
Key theorems: `strcatAll_fits_iff`, `ruleCommand_fits_iff`.
-/
import Mathlib.Algebra.GroupWithZero.Nat
import WtslCore.Slb.Injection

namespace WtslCore

open Shell

/-! ### The commands on any default device -/

/-- `dev`, for any default device. -/
def devPieceOn (dflt : CStr) (params : Json) : Piece :=
  match params.getObjectItemCaseSensitive "device".toList with
  | some (.string s) => .value s
  | _ => .fixed dflt

/-- What `tc_handle_request` appends to the start of the command. -/
def tcParts (action objType : CStr) (params : Json) : List (Option (List Piece)) :=
  let get name := params.getObjectItemCaseSensitive name
  let isFilter := objType = "filter".toList
  let takesKind :=
    action = "add".toList ∨ action = "replace".toList ∨ action = "change".toList
  if isDelete action then
    [optArg " parent " (get "parent".toList), optArg " handle " (get "handle".toList)]
  else
    [tcParent objType (get "parent".toList) (get "classid".toList),
      if objType = "class".toList then optArg " classid " (get "classid".toList) else some [],
      if objType = "qdisc".toList then optArg " handle " (get "handle".toList) else some [],
      if isFilter then optArg " protocol " (get "protocol".toList) else some [],
      if isFilter then some (prioArg (get "prio".toList)) else some [],
      if takesKind then optArg " " (get "kind".toList) else some [],
      some ((argItems (get "args".toList)).flatMap (tcArg objType)),
      if isFilter then optArg " flowid " (get "flowid".toList) else some []]

/-- The command of `tc_handle_request`. -/
def tcCommandOn (dflt action objType : CStr) (params : Json) : Option (List Piece) :=
  strcatAll (snprintf cmdLen (tcBase action objType (devPieceOn dflt params)))
    (tcParts action objType params)

/-- What `iptables_handle_request` appends for the interfaces. -/
def interfaceArgsOn (dflt chain : CStr) (params : Json) : Option (List Piece) :=
  let jIn := params.getObjectItemCaseSensitive "in_interface".toList
  let jOut := params.getObjectItemCaseSensitive "out_interface".toList
  if jIn.isNone ∧ jOut.isNone then
    some (if chain = "INPUT".toList ∨ chain = "FORWARD".toList then
        [lit " -i ", devPieceOn dflt params]
      else if chain = "OUTPUT".toList then [lit " -o ", devPieceOn dflt params]
      else [])
  else concat [optArg " -i " jIn, optArg " -o " jOut]

/-- The command of `iptables_handle_request`. -/
def iptablesCommandOn (dflt action chain : CStr) (params : Json) : Option (List Piece) :=
  let get name := params.getObjectItemCaseSensitive name
  strcatAll
    (snprintf cmdLen [lit "iptables ", lit (actionFlag action), lit " ", .value chain])
    [some (strArg " -p " (get "protocol".toList)),
      interfaceArgsOn dflt chain params,
      some ((argItems (get "args".toList)).flatMap iptablesArg)]

theorem tcCommand_eq (action objType : CStr) (params : Json) :
    tcCommand action objType params = tcCommandOn netBridgeName.toList action objType params := by
  unfold tcCommand tcCommandOn tcParts
  rfl

theorem iptablesCommand_eq (action chain : CStr) (params : Json) :
    iptablesCommand action chain params =
      iptablesCommandOn netBridgeName.toList action chain params := rfl

/-- A command is assembled, and shorter than its buffer. -/
def CommandFits (cmd : Option (List Piece)) : Prop := ∃ ps ∈ cmd, (text ps).length < cmdLen

/-! ### Lengths of fields -/

/-- What an item that is a string takes, with its keyword. -/
def argLength (kw : String) : Option Json → ℕ
  | some (.string s) => kw.toList.length + s.length
  | _ => 0

/-- The item is a string, if it is there. -/
def TextOrMissing (j : Option Json) : Prop := ∀ v ∈ j, v.valuestring.isSome = true

/-- The length of a part that is appended. -/
def partLength (o : Option (List Piece)) : ℕ := (text (o.getD [])).length

@[simp] theorem length_text_lit (s : String) : (lit s).text.length = s.toList.length := by
  simp [lit, Piece.text]

@[simp] theorem length_text_value (s : CStr) : (Piece.value s).text.length = s.length := by
  simp [Piece.text]

@[simp] theorem length_text_fixed (s : CStr) : (Piece.fixed s).text.length = s.length := by
  simp [Piece.text]

theorem concat_isSome {parts : List (Option (List Piece))} :
    (concat parts).isSome = true ↔ ∀ o ∈ parts, o.isSome = true := by
  induction parts with
  | nil => simp [concat]
  | cons o os ih =>
    cases o with
    | none => simp [concat]
    | some p => simp [concat, ih]

theorem partLength_concat {parts : List (Option (List Piece))}
    (h : ∀ o ∈ parts, o.isSome = true) :
    partLength (concat parts) = (parts.map partLength).sum := by
  induction parts with
  | nil => rfl
  | cons o os ih =>
    obtain ⟨p, rfl⟩ := Option.isSome_iff_exists.mp (h o List.mem_cons_self)
    have hos : ∀ o ∈ os, o.isSome = true := fun o ho => h o (List.mem_cons_of_mem _ ho)
    obtain ⟨q, hq⟩ := Option.isSome_iff_exists.mp (concat_isSome.mpr hos)
    rw [List.map_cons, List.sum_cons, ← ih hos]
    simp [concat, hq, partLength]

theorem length_snprintf (n : ℕ) (ps : List Piece) :
    (text (snprintf n ps)).length = min (n - 1) (text ps).length := by
  rw [snprintf, text_cut, List.length_take]

/-- **A command fits** exactly if no part is NULL and the lengths add up to
less than the buffer. -/
theorem strcatAll_fits_iff {base : List Piece} {parts : List (Option (List Piece))} :
    CommandFits (strcatAll (snprintf cmdLen base) parts) ↔
      (∀ o ∈ parts, o.isSome = true) ∧
        min 4095 (text base).length + (parts.map partLength).sum < 4096 := by
  have hbase := length_snprintf cmdLen base
  unfold CommandFits strcatAll
  constructor
  · rintro ⟨ps, hps, hfits⟩
    obtain ⟨more, hmore, hite⟩ := Option.bind_eq_some_iff.mp hps
    have hall := concat_isSome.mp (Option.isSome_iff_exists.mpr ⟨more, hmore⟩)
    split_ifs at hite with hlen
    refine ⟨hall, ?_⟩
    rw [← partLength_concat hall, hmore]
    rw [text_append, List.length_append, hbase] at hlen
    exact hlen
  · rintro ⟨hall, hsum⟩
    obtain ⟨more, hmore⟩ := Option.isSome_iff_exists.mp (concat_isSome.mpr hall)
    rw [← partLength_concat hall, hmore] at hsum
    have hlen : (text (snprintf cmdLen base ++ more)).length < cmdLen := by
      rw [text_append, List.length_append, hbase]
      exact hsum
    exact ⟨_, by rw [hmore, Option.bind_some, if_pos hlen]; rfl, hlen⟩

theorem optArg_isSome {kw : String} : ∀ {j : Option Json}, (optArg kw j).isSome = true ↔ TextOrMissing j
  | none => by simp [optArg, TextOrMissing]
  | some j => by simp [optArg, TextOrMissing]

@[simp] theorem partLength_optArg (kw : String) : ∀ j, partLength (optArg kw j) = argLength kw j
  | some (.string s) => by simp [optArg, Json.valuestring, partLength, argLength]
  | none | some .null | some (.bool _) | some (.number _) | some (.array _) | some (.object _) => rfl

@[simp] theorem length_strArg (kw : String) : ∀ j, (text (strArg kw j)).length = argLength kw j
  | some (.string s) => by simp [strArg, argLength]
  | none | some .null | some (.bool _) | some (.number _) | some (.array _) | some (.object _) => rfl

@[simp] theorem partLength_some (ps : List Piece) : partLength (some ps) = (text ps).length := rfl

theorem partLength_when (P : Prop) [Decidable P] (o : Option (List Piece)) :
    partLength (if P then o else some []) = if P then partLength o else 0 := by
  split_ifs <;> rfl

theorem length_text_flatMap {α : Type*} {f : α → List Piece} {g : α → ℕ}
    (h : ∀ a, (text (f a)).length = g a) (l : List α) :
    (text (l.flatMap f)).length = (l.map g).sum := by
  induction l with
  | nil => rfl
  | cons a l ih => simp [ih, h]

/-! ### The ACL command -/

/-- A blank and the rule number. -/
def ruleNumLength : Option ℤ → ℕ
  | some n => 1 + (intText n).length
  | none => 0

/-- The ports and the module of their protocol. -/
def portLength (rule : Json) : ℕ :=
  let dport := rule.getObjectItemCaseSensitive "dest_port".toList
  let sport := rule.getObjectItemCaseSensitive "source_port".toList
  if dport.isSome || sport.isSome then 7 + argLength " --sport " sport + argLength " --dport " dport
  else 0

/-- The length `build_iptables_cmd` needs. -/
def aclLength (action chain : CStr) (params : Json) : ℕ :=
  let field (kw name : String) :=
    argLength kw ((ruleParams params).getObjectItemCaseSensitive name.toList)
  min 4095 (15 + chain.length + ruleNumLength (ruleNum params)) +
    if (ruleNum params).isSome && isDelete action then 0
    else
      field " -p " "protocol" + field " -s " "source" + field " -d " "destination" +
        field " -i " "in_interface" + field " -o " "out_interface" +
        portLength (ruleParams params) + field " -j " "target"

theorem length_actionFlag (action : CStr) : (actionFlag action).toList.length = 2 := by
  unfold actionFlag
  split_ifs <;> rfl

theorem length_iptablesBase (action chain : CStr) (params : Json) :
    (text (iptablesBase action chain params)).length =
      15 + chain.length + ruleNumLength (ruleNum params) := by
  have hflag := length_actionFlag action
  unfold iptablesBase ruleNumLength
  cases ruleNum params with
  | none =>
    simp only [text_cons, text_nil, List.length_append, length_text_lit, length_text_value, hflag,
      List.length_nil]
    have h1 : "iptables -w ".toList.length = 12 := rfl
    have h2 : " ".toList.length = 1 := rfl
    omega
  | some n =>
    have h1 : "iptables -w ".toList.length = 12 := rfl
    have h2 : " ".toList.length = 1 := rfl
    have hR : "iptables -w -R ".toList.length = 15 := rfl
    have hI : "iptables -w -I ".toList.length = 15 := rfl
    have hD : "iptables -w -D ".toList.length = 15 := rfl
    dsimp only
    split_ifs
    all_goals
      simp only [text_cons, text_nil, List.length_append, length_text_lit, length_text_value, hflag,
        List.length_nil]
      omega

theorem length_portArgs (rule : Json) : (text (portArgs rule)).length = portLength rule := by
  unfold portArgs portLength
  dsimp only
  split_ifs
  · simp [Nat.add_assoc]
  · simp [Nat.add_assoc]
  · rfl

/-- **`build_iptables_cmd` fits its buffer** exactly if the fields are short enough. -/
theorem buildIptablesCmd_fits_iff (action chain : CStr) (params : Json) :
    CommandFits (buildIptablesCmd action chain params) ↔ aclLength action chain params < 4096 := by
  have hbase := length_iptablesBase action chain params
  unfold buildIptablesCmd aclLength
  dsimp only
  by_cases hdel : ((ruleNum params).isSome && isDelete action) = true
  · rw [if_pos hdel, if_pos hdel]
    have hlen := length_snprintf cmdLen (iptablesBase action chain params)
    refine iff_of_true ⟨_, rfl, ?_⟩ (by omega)
    rw [hlen]
    exact lt_of_le_of_lt (Nat.min_le_left _ _) (by decide)
  · rw [if_neg hdel, if_neg hdel, strcatAll_fits_iff, hbase]
    simp only [List.mem_cons, List.not_mem_nil, or_false, forall_eq_or_imp, forall_eq, Option.isSome_some,
      true_and, List.map_cons, List.map_nil, List.sum_cons, List.sum_nil, partLength_some,
      length_strArg, length_portArgs, Nat.add_assoc, Nat.add_zero]

/-! ### The commands of the QoS core -/

/-- The device of the request, or the default device. -/
def devLength (dflt : CStr) (params : Json) : ℕ :=
  match params.getObjectItemCaseSensitive "device".toList with
  | some (.string s) => s.length
  | _ => dflt.length

/-- The start of a tc command, with a device of length `dev`. -/
def tcBaseLength (action objType : CStr) (dev : ℕ) : ℕ :=
  if isDelete action then 17 + dev
  else if objType = "qdisc".toList ∧ action = "add".toList then 17 + dev
  else if objType = "class".toList ∧ action = "add".toList then 17 + dev
  else if objType = "filter".toList ∧ action = "add".toList then 18 + dev
  else 9 + objType.length + action.length + dev

/-- The parent, if the request names none. -/
def rootLength (objType : CStr) (classid : Option Json) : ℕ :=
  if objType = "qdisc".toList then 5
  else if objType = "class".toList then
    match classid.bind Json.valuestring with
    | some s => ((classMajor s).map fun major => 10 + major.length).getD 0
    | none => 0
  else 0

/-- `" prio %d"`, cut to 15 characters. -/
def prioLength : Option Json → ℕ
  | some j => min 15 (6 + (intText j.valueint).length)
  | none => 0

/-- A member of `args` of a tc request. -/
def tcArgLength (objType : CStr) (item : CStr × Json) : ℕ :=
  match argText item.2 with
  | none => 0
  | some val =>
    if objType = "filter".toList ∧ item.1 = "match".toList then 7 + val.length
    else 2 + item.1.length + val.length

/-- The fields a tc command takes as they are, with their keywords. -/
def tcFields (action objType : CStr) : List (String × String) :=
  if isDelete action then [(" parent ", "parent"), (" handle ", "handle")]
  else
    [(" parent ", "parent")] ++
      (if objType = "class".toList then [(" classid ", "classid")] else []) ++
      (if objType = "qdisc".toList then [(" handle ", "handle")] else []) ++
      (if objType = "filter".toList then [(" protocol ", "protocol"), (" flowid ", "flowid")] else []) ++
      (if action = "add".toList ∨ action = "replace".toList ∨ action = "change".toList
        then [(" ", "kind")] else [])

/-- What a tc command has besides its start and those fields. -/
def tcRestLength (action objType : CStr) (params : Json) : ℕ :=
  let get (name : String) := params.getObjectItemCaseSensitive name.toList
  if isDelete action then 0
  else
    (if (get "parent").isSome then 0 else rootLength objType (get "classid")) +
      (if objType = "filter".toList then prioLength (get "prio") else 0) +
      ((argItems (get "args")).map (tcArgLength objType)).sum

/-- The length `tc_handle_request` needs. -/
def tcLength (dflt action objType : CStr) (params : Json) : ℕ :=
  min 4095 (tcBaseLength action objType (devLength dflt params)) +
    ((tcFields action objType).map fun f =>
      argLength f.1 (params.getObjectItemCaseSensitive f.2.toList)).sum +
    tcRestLength action objType params

/-- The condition for a tc request: the fields taken as they are are strings,
and the command is short enough. -/
def TcFits (dflt action objType : CStr) (params : Json) : Prop :=
  (∀ f ∈ tcFields action objType, TextOrMissing (params.getObjectItemCaseSensitive f.2.toList)) ∧
    tcLength dflt action objType params < 4096

theorem length_devPieceOn (dflt : CStr) (params : Json) :
    (devPieceOn dflt params).text.length = devLength dflt params := by
  unfold devPieceOn devLength
  split
  · exact length_text_value _
  · exact length_text_fixed _

theorem length_tcBase (action objType : CStr) (dev : Piece) :
    (text (tcBase action objType dev)).length = tcBaseLength action objType dev.text.length := by
  unfold tcBase tcBaseLength
  split_ifs
  all_goals
    simp only [text_cons, text_nil, List.length_append, length_text_lit, length_text_value,
      List.length_nil]
  · rfl
  · rfl
  · rfl
  · rfl
  · have h1 : "tc ".toList.length = 3 := rfl
    have h2 : " ".toList.length = 1 := rfl
    have h3 : " dev ".toList.length = 5 := rfl
    omega

theorem length_tcArg (objType : CStr) (item : CStr × Json) :
    (text (tcArg objType item)).length = tcArgLength objType item := by
  unfold tcArg tcArgLength
  cases argText item.2 with
  | none => rfl
  | some val =>
    dsimp only
    split_ifs
    · simp [Nat.add_comm]
    · simp [Nat.add_comm, Nat.add_left_comm]

theorem length_prioArg : ∀ prio : Option Json, (text (prioArg prio)).length = prioLength prio
  | none => rfl
  | some j => by
    rw [prioArg, length_snprintf]
    simp [prioLength]

/-- The parent a class id gives. -/
theorem length_parentOfClassid : ∀ classid : Option Json,
    (text (parentOfClassid classid)).length =
      match classid.bind Json.valuestring with
      | some s => ((classMajor s).map fun major => 10 + major.length).getD 0
      | none => 0
  | some (.string s) => by
    show (text (match classMajor s with
      | some major => [lit " parent ", .value major, lit ":0"]
      | none => [])).length = ((classMajor s).map fun major => 10 + major.length).getD 0
    cases classMajor s with
    | none => rfl
    | some major =>
      simp only [text_cons, text_nil, List.length_append, length_text_lit, length_text_value,
        List.length_nil, Option.map_some, Option.getD_some]
      have h1 : " parent ".toList.length = 8 := rfl
      have h2 : ":0".toList.length = 2 := rfl
      omega
  | none | some .null | some (.bool _) | some (.number _) | some (.array _) | some (.object _) => rfl

theorem tcParent_isSome {objType : CStr} {parent classid : Option Json} :
    (tcParent objType parent classid).isSome = true ↔ TextOrMissing parent := by
  unfold tcParent
  cases parent with
  | none =>
    refine iff_of_true ?_ nofun
    split_ifs <;> rfl
  | some j => simp [optArg_isSome]

theorem partLength_tcParent (objType : CStr) (parent classid : Option Json) :
    partLength (tcParent objType parent classid) =
      argLength " parent " parent + if parent.isSome then 0 else rootLength objType classid := by
  unfold tcParent rootLength
  cases parent with
  | some j => simp
  | none =>
    by_cases hq : objType = "qdisc".toList
    · rw [if_pos hq]
      simp [hq, argLength]
    · by_cases hc : objType = "class".toList
      · simp [hc, argLength, length_parentOfClassid]
      · simp only [if_neg hq, if_neg hc]
        rfl

theorem forall_mem_when {α : Type*} {q : α → Prop} {l : List α} (P : Prop) [Decidable P] :
    (∀ x ∈ (if P then l else []), q x) ↔ (P → ∀ x ∈ l, q x) := by
  split_ifs with h
  · simp [h]
  · simp [h]

theorem isSome_when (P : Prop) [Decidable P] {o : Option (List Piece)} :
    (if P then o else some []).isSome = true ↔ (P → o.isSome = true) := by
  split_ifs with h
  · simp [h]
  · simp [h]

/-- No part is NULL if the fields taken as they are are strings. -/
theorem tcParts_isSome {action objType : CStr} {params : Json} :
    (∀ o ∈ tcParts action objType params, o.isSome = true) ↔
      ∀ f ∈ tcFields action objType,
        TextOrMissing (params.getObjectItemCaseSensitive f.2.toList) := by
  unfold tcParts tcFields
  dsimp only
  by_cases hdel : isDelete action = true
  · simp only [if_pos hdel, List.mem_cons, List.not_mem_nil, or_false, forall_eq_or_imp, forall_eq,
      optArg_isSome]
  · simp only [if_neg hdel, List.mem_cons, List.not_mem_nil, or_false, forall_eq_or_imp, forall_eq,
      isSome_when, optArg_isSome, tcParent_isSome, Option.isSome_some, List.forall_mem_append,
      forall_mem_when, true_and, implies_true]
    constructor
    · rintro ⟨hparent, hclassid, hhandle, hprotocol, hkind, hflowid⟩
      exact ⟨⟨⟨⟨hparent, hclassid⟩, hhandle⟩, fun h => ⟨hprotocol h, hflowid h⟩⟩, hkind⟩
    · rintro ⟨⟨⟨⟨hparent, hclassid⟩, hhandle⟩, hfilter⟩, hkind⟩
      exact ⟨hparent, hclassid, hhandle, fun h => (hfilter h).1, hkind, fun h => (hfilter h).2⟩

theorem sum_map_when {α : Type*} (f : α → ℕ) (a : α) (P : Prop) [Decidable P] :
    ((if P then [a] else []).map f).sum = if P then f a else 0 := by
  split_ifs
  · simp
  · rfl

theorem sum_tcParts (action objType : CStr) (params : Json) :
    ((tcParts action objType params).map partLength).sum =
      ((tcFields action objType).map fun f =>
        argLength f.1 (params.getObjectItemCaseSensitive f.2.toList)).sum +
      tcRestLength action objType params := by
  unfold tcParts tcFields tcRestLength
  dsimp only
  by_cases hdel : isDelete action = true
  · simp only [if_pos hdel, List.map_cons, List.map_nil, List.sum_cons, List.sum_nil,
      partLength_optArg, Nat.add_zero]
  · simp only [if_neg hdel, List.map_cons, List.map_nil, List.sum_cons, List.sum_nil,
      List.map_append, List.sum_append, partLength_when, partLength_tcParent, partLength_optArg,
      partLength_some, length_prioArg, length_text_flatMap (length_tcArg objType), sum_map_when]
    by_cases hf : objType = "filter".toList
    · simp only [if_pos hf, List.map_cons, List.map_nil, List.sum_cons, List.sum_nil]
      omega
    · simp only [if_neg hf, List.map_nil, List.sum_nil]
      omega

/-- **`tc_handle_request` fits its buffer** exactly under the condition. -/
theorem tcCommandOn_fits_iff (dflt action objType : CStr) (params : Json) :
    CommandFits (tcCommandOn dflt action objType params) ↔ TcFits dflt action objType params := by
  unfold tcCommandOn TcFits tcLength
  rw [strcatAll_fits_iff, tcParts_isSome, sum_tcParts, length_tcBase, length_devPieceOn,
    Nat.add_assoc]

/-- The keyword of a member of `args` of an iptables request. -/
def optionLength (key : CStr) : ℕ :=
  if key = "sport".toList ∨ key = "dport".toList then 9
  else if key ∈ iptablesKeys then 4
  else 4 + key.length

/-- A member of `args` of an iptables request. -/
def iptablesArgLength (item : CStr × Json) : ℕ :=
  match argIntText item.2 with
  | none => 0
  | some val => optionLength item.1 + val.length

/-- The interfaces: those of the request, or the device by the chain. -/
def interfaceLength (dflt chain : CStr) (params : Json) : ℕ :=
  let jIn := params.getObjectItemCaseSensitive "in_interface".toList
  let jOut := params.getObjectItemCaseSensitive "out_interface".toList
  if jIn.isNone ∧ jOut.isNone then
    if chain ∈ ["INPUT".toList, "FORWARD".toList, "OUTPUT".toList] then 4 + devLength dflt params
    else 0
  else argLength " -i " jIn + argLength " -o " jOut

/-- The length `iptables_handle_request` needs. -/
def iptablesLength (dflt chain : CStr) (params : Json) : ℕ :=
  min 4095 (12 + chain.length) +
    argLength " -p " (params.getObjectItemCaseSensitive "protocol".toList) +
    interfaceLength dflt chain params +
    ((argItems (params.getObjectItemCaseSensitive "args".toList)).map iptablesArgLength).sum

/-- The condition for an iptables request: interfaces are strings, and the
command is short enough. -/
def IptablesFits (dflt chain : CStr) (params : Json) : Prop :=
  TextOrMissing (params.getObjectItemCaseSensitive "in_interface".toList) ∧
    TextOrMissing (params.getObjectItemCaseSensitive "out_interface".toList) ∧
    iptablesLength dflt chain params < 4096

theorem length_iptablesOption (key : CStr) :
    (text (iptablesOption key)).length = optionLength key := by
  unfold optionLength
  by_cases hk : key ∈ iptablesKeys
  · rw [if_pos hk]
    unfold iptablesKeys at hk
    simp only [List.map_cons, List.map_nil, List.mem_cons, List.not_mem_nil, or_false] at hk
    rcases hk with rfl | rfl | rfl | rfl | rfl | rfl | rfl | rfl
    all_goals rfl
  · have hports : ¬ (key = "sport".toList ∨ key = "dport".toList) := by
      rintro (rfl | rfl)
      · exact hk (by decide)
      · exact hk (by decide)
    rw [if_neg hports, if_neg hk, iptablesOption_of_not_mem hk]
    simp only [text_cons, text_nil, List.length_append, length_text_lit, length_text_value,
      List.length_nil]
    have h1 : " --".toList.length = 3 := rfl
    have h2 : " ".toList.length = 1 := rfl
    omega

theorem length_iptablesArg (item : CStr × Json) :
    (text (iptablesArg item)).length = iptablesArgLength item := by
  unfold iptablesArg iptablesArgLength
  cases argIntText item.2 with
  | none => rfl
  | some val => simp [length_iptablesOption]

theorem interfaceArgsOn_isSome (dflt chain : CStr) {params : Json} :
    (interfaceArgsOn dflt chain params).isSome = true ↔
      TextOrMissing (params.getObjectItemCaseSensitive "in_interface".toList) ∧
        TextOrMissing (params.getObjectItemCaseSensitive "out_interface".toList) := by
  unfold interfaceArgsOn
  dsimp only
  by_cases hnone : (params.getObjectItemCaseSensitive "in_interface".toList).isNone = true ∧
      (params.getObjectItemCaseSensitive "out_interface".toList).isNone = true
  · rw [if_pos hnone, Option.isNone_iff_eq_none.mp hnone.1, Option.isNone_iff_eq_none.mp hnone.2]
    exact iff_of_true rfl ⟨nofun, nofun⟩
  · rw [if_neg hnone, concat_isSome]
    simp only [List.mem_cons, List.not_mem_nil, or_false, forall_eq_or_imp, forall_eq, optArg_isSome]

theorem partLength_interfaceArgsOn {dflt chain : CStr} {params : Json}
    (h : (interfaceArgsOn dflt chain params).isSome = true) :
    partLength (interfaceArgsOn dflt chain params) = interfaceLength dflt chain params := by
  unfold interfaceArgsOn at h ⊢
  unfold interfaceLength
  dsimp only at h ⊢
  by_cases hnone : (params.getObjectItemCaseSensitive "in_interface".toList).isNone = true ∧
      (params.getObjectItemCaseSensitive "out_interface".toList).isNone = true
  · rw [if_pos hnone, if_pos hnone, partLength_some]
    simp only [List.mem_cons, List.not_mem_nil, or_false]
    by_cases hi : chain = "INPUT".toList ∨ chain = "FORWARD".toList
    · have hany : chain = "INPUT".toList ∨ chain = "FORWARD".toList ∨ chain = "OUTPUT".toList := by
        tauto
      rw [if_pos hi, if_pos hany]
      simp [length_devPieceOn]
    · by_cases ho : chain = "OUTPUT".toList
      · rw [if_neg hi, if_pos ho, if_pos (.inr (.inr ho))]
        simp [length_devPieceOn]
      · have hany : ¬ (chain = "INPUT".toList ∨ chain = "FORWARD".toList ∨ chain = "OUTPUT".toList) := by
          tauto
        rw [if_neg hi, if_neg ho, if_neg hany]
        rfl
  · rw [if_neg hnone] at h ⊢
    rw [if_neg hnone, partLength_concat (concat_isSome.mp h)]
    simp only [List.map_cons, List.map_nil, List.sum_cons, List.sum_nil, partLength_optArg,
      Nat.add_zero]

/-- **`iptables_handle_request` fits its buffer** exactly under the condition. -/
theorem iptablesCommandOn_fits_iff (dflt action chain : CStr) (params : Json) :
    CommandFits (iptablesCommandOn dflt action chain params) ↔ IptablesFits dflt chain params := by
  have hbase : (text [lit "iptables ", lit (actionFlag action), lit " ", .value chain]).length =
      12 + chain.length := by
    simp only [text_cons, text_nil, List.length_append, length_text_lit, length_text_value,
      length_actionFlag, List.length_nil]
    have h1 : "iptables ".toList.length = 9 := rfl
    have h2 : " ".toList.length = 1 := rfl
    omega
  unfold iptablesCommandOn IptablesFits
  dsimp only
  rw [strcatAll_fits_iff, hbase, ← and_assoc, ← interfaceArgsOn_isSome dflt chain]
  simp only [List.mem_cons, List.not_mem_nil, or_false, forall_eq_or_imp, forall_eq,
    Option.isSome_some, true_and, and_true]
  refine and_congr_right fun hif => ?_
  simp only [List.map_cons, List.map_nil, List.sum_cons, List.sum_nil, partLength_some,
    length_strArg, partLength_interfaceArgsOn hif, length_text_flatMap length_iptablesArg,
    iptablesLength]
  omega

/-- **A rule command fits its buffer** exactly if its fields are short enough,
and those that are taken as they are are strings. -/
theorem ruleCommand_fits_iff (dflt action chain objType : CStr) (params : Json) :
    (CommandFits (buildIptablesCmd action chain params) ↔ aclLength action chain params < 4096) ∧
      (CommandFits (tcCommandOn dflt action objType params) ↔ TcFits dflt action objType params) ∧
      (CommandFits (iptablesCommandOn dflt action chain params) ↔ IptablesFits dflt chain params) :=
  ⟨buildIptablesCmd_fits_iff action chain params, tcCommandOn_fits_iff dflt action objType params,
    iptablesCommandOn_fits_iff dflt action chain params⟩

/-- A rule for a source. -/
def sourceRule (source : CStr) : Json := .object [("source".toList, .string source)]

/-- A kind and nothing else. -/
def kindRule (kind : CStr) : Json := .object [("kind".toList, .string kind)]

theorem sourceRule_long {source : CStr} (h : 4092 ≤ source.length) :
    ¬ CommandFits (buildIptablesCmd "add".toList "FORWARD".toList (sourceRule source)) := by
  have hrule : ruleParams (sourceRule source) = sourceRule source := rfl
  have hnum : ruleNum (sourceRule source) = none := rfl
  have hsource : (sourceRule source).getObjectItemCaseSensitive "source".toList =
      some (.string source) := rfl
  have hlen : argLength " -s " (some (.string source)) = 4 + source.length := rfl
  rw [buildIptablesCmd_fits_iff]
  unfold aclLength
  simp only [hnum, hrule, hsource, hlen, Option.isSome_none, Bool.false_and, if_false,
    Bool.false_eq_true]
  omega

theorem kindRule_long {kind : CStr} (h : 4095 ≤ kind.length) :
    ¬ CommandFits (tcCommandOn netBridgeName.toList "add".toList "class".toList (kindRule kind)) := by
  have hkind : (kindRule kind).getObjectItemCaseSensitive "kind".toList = some (.string kind) :=
    rfl
  have hfields : tcFields "add".toList "class".toList =
      [(" parent ", "parent"), (" classid ", "classid"), (" ", "kind")] := by decide
  have hlen : argLength " " (some (.string kind)) = 1 + kind.length := rfl
  rw [tcCommandOn_fits_iff]
  rintro ⟨_, hfits⟩
  unfold tcLength at hfits
  rw [hfields] at hfits
  simp only [List.map_cons, List.map_nil, List.sum_cons, List.sum_nil, hkind, hlen] at hfits
  omega

/-- A source or a kind of 4096 characters overruns the buffer; nothing rejects it. -/
theorem ruleCommand_overflow :
    ¬ CommandFits (buildIptablesCmd "add".toList "FORWARD".toList
      (sourceRule (List.replicate 4096 '1'))) ∧
    ¬ CommandFits (tcCommandOn netBridgeName.toList "add".toList "class".toList
      (kindRule (List.replicate 4096 '1'))) := by
  have hlen : (List.replicate 4096 '1').length = 4096 := List.length_replicate
  exact ⟨sourceRule_long (by omega), kindRule_long (by omega)⟩

end WtslCore
