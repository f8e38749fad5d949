/-
# What a tc delete request deletes

The same request that adds an object, with `delete` as its action, should
delete it: qdisc, class or filter, by the parameters that tell it from the
others. `tc_handle_request` writes `tc qdisc del` for every type, names the
parent and the handle and nothing else, and where the add command says `root`
for a missing parent, it says nothing. So a delete names and removes what the
add put there if and only if it is a qdisc with a parent
(`tcDelete_iff`).

A tc line is read as tc reads it: the options that say where an object is, up
to the first word that is none of them, its kind. What the commands do is the
matter of `Slb.Kernel`.

Key definitions: `TcType`, `tcOptions`, `tcIdentity`, `readTc`, `ValidAdd`,
`DeletesAdded`.
Key theorem: `tcDelete_iff`.
-/
import WtslCore.Slb.CmdLength
import WtslCore.Slb.LineWords
import WtslCore.Slb.QosSwitch

namespace WtslCore

open Shell

/-! ### What tc reads -/

/-- The object types. -/
inductive TcType
  | qdisc
  | trafficClass
  | filter
  deriving DecidableEq, Repr

/-- `obj_type`. -/
def TcType.word : TcType → CStr
  | .qdisc => "qdisc".toList
  | .trafficClass => "class".toList
  | .filter => "filter".toList

/-- The options with a value. -/
def tcOptionWords : List CStr := ["parent", "handle", "classid", "protocol", "prio"].map String.toList

/-- The options in front of the kind. -/
def tcOptions : List CStr → List (CStr × CStr)
  | [] => []
  | [w] => if w = "root".toList then [(w, [])] else []
  | w :: v :: ws =>
    if w = "root".toList then (w, []) :: tcOptions (v :: ws)
    else if w ∈ tcOptionWords then (w, v) :: tcOptions ws
    else []

/-- The root, or the parent that is named. -/
def tcPlace (options : List (CStr × CStr)) : Option CStr :=
  if (options.lookup "root".toList).isSome then some "root".toList
  else options.lookup "parent".toList

/-- What the words after the device say of an object: the place and the handle
of a qdisc, the id of a class, or parent, protocol and priority of a filter. -/
def tcIdentity (t : TcType) (spec : List CStr) : List (Option CStr) :=
  let options := tcOptions spec
  match t with
  | .qdisc => [tcPlace options, options.lookup "handle".toList]
  | .trafficClass => [options.lookup "classid".toList]
  | .filter => ["parent", "protocol", "prio"].map fun kw => options.lookup kw.toList

/-- A line for tc: `tc <type> <action> dev <dev> ...`. -/
structure TcLine where
  objType : CStr
  action : CStr
  dev : CStr
  spec : List CStr

/-- The line a command is. -/
def readTc (cmd : CStr) : Option TcLine :=
  match shellWords cmd with
  | prog :: objType :: action :: kw :: dev :: spec =>
    if prog = "tc".toList ∧ kw = "dev".toList then some ⟨objType, action, dev, spec⟩ else none
  | _ => none

/-! ### Valid requests -/

/-- `dev`, as a text. -/
def deviceName (params : Json) : CStr := cmdText [devPiece params]

/-- A number of a qdisc or a class. -/
def IsTcId (s : CStr) : Prop := s ≠ [] ∧ ∀ c ∈ s, c ∈ "0123456789abcdefABCDEF:".toList

/-- What stands for a parent. -/
def IsTcParent (s : CStr) : Prop := s = "root".toList ∨ IsTcId s

/-- The name of a kind: a word that is no option. -/
def IsKind (s : CStr) : Prop :=
  IsWord s ∧ s ∉ "root".toList :: "ingress".toList :: "clsact".toList :: tcOptionWords

instance (s : CStr) : Decidable (IsTcId s) := inferInstanceAs (Decidable (_ ∧ _))
instance (s : CStr) : Decidable (IsTcParent s) := inferInstanceAs (Decidable (_ ∨ _))
instance (s : CStr) : Decidable (IsKind s) := inferInstanceAs (Decidable (_ ∧ _))

/-- The item is missing, or a string of the form. -/
def MissingOr (P : CStr → Prop) (j : Option Json) : Prop := ∀ v ∈ j, ∃ s, v = .string s ∧ P s

/-- **An add request is valid**: its command is built and is words to the
shell, device and ids are what tc takes, there is a kind, and nothing stands
where the object will be. -/
structure ValidAdd (t : TcType) (params : Json) (k : Kernel) (add : CStr) : Prop where
  built : (tcCommand "add".toList t.word params).map cmdText = some add
  plain : PlainWords add
  device : IsWord (deviceName params) ∧ (deviceName params).length ≤ 15
  parent : MissingOr IsTcParent (params.getObjectItemCaseSensitive "parent".toList)
  handle : t = .qdisc → MissingOr IsTcId (params.getObjectItemCaseSensitive "handle".toList)
  classid : t = .trafficClass →
    ∃ s, params.getObjectItemCaseSensitive "classid".toList = some (.string s) ∧ IsTcId s
  protocol : t = .filter →
    MissingOr IsWord (params.getObjectItemCaseSensitive "protocol".toList)
  kind : ∃ s, params.getObjectItemCaseSensitive "kind".toList = some (.string s) ∧ IsKind s
  noIngress : "ingress".toList ∉ shellWords add
  free : t = .qdisc → ∀ p, params.getObjectItemCaseSensitive "parent".toList = some (.string p) →
    ∀ r ∈ k, addressed "qdisc".toList (deviceName params) ["parent".toList, p] r = false

/-- **A command deletes what another one added**: it is a delete of the type,
names the same object, and takes that and nothing else from the rules. -/
structure DeletesAdded (shell : Kernel → CStr → Kernel) (t : TcType) (k : Kernel) (add del : CStr) :
    Prop where
  named : ∃ line ∈ readTc add, ∃ line' ∈ readTc del, line'.objType = t.word ∧
    line'.action = "del".toList ∧ line'.dev = line.dev ∧
    tcIdentity t line'.spec = tcIdentity t line.spec
  removed : run shell (run shell k add) del = k

/-! ### The words of the commands -/

/-- The words of an optional item. -/
def optWords (kw : CStr) : Option Json → List CStr
  | some (.string s) => [kw, s]
  | _ => []

/-- The words of the place of a qdisc. -/
def placeWords (params : Json) : List CStr :=
  if (params.getObjectItemCaseSensitive "parent".toList).isSome then
    optWords "parent".toList (params.getObjectItemCaseSensitive "parent".toList)
  else ["root".toList]

variable {t : TcType} {params : Json} {k : Kernel} {add action : CStr}

theorem IsTcId.isWord {s : CStr} (h : IsTcId s) : IsWord s := by
  have hall : ∀ c ∈ "0123456789abcdefABCDEF:".toList,
      isBlank c = false ∧ isActive c = false ∧ c ≠ '#' := by decide
  exact ⟨h.1, fun c hc => hall c (h.2 c hc)⟩

theorem IsTcParent.isWord {s : CStr} (h : IsTcParent s) : IsWord s := by
  rcases h with rfl | h
  · decide
  · exact h.isWord

/-- A keyword is no number. -/
theorem IsTcId.ne_word {s : CStr} (h : IsTcId s) :
    s ≠ "root".toList ∧ s ≠ "ingress".toList ∧ s ≠ "handle".toList := by
  refine ⟨?_, ?_, ?_⟩ <;> rintro rfl <;> exact absurd h (by decide)

/-- The text of the parts of a command. -/
theorem cmdText_concat : ∀ {parts : List (Option (List Piece))} {ps : List Piece},
    concat parts = some ps → cmdText ps = parts.flatMap fun o => cmdText (o.getD [])
  | [], ps, h => by
    rw [← Option.some.inj h]
    rfl
  | o :: os, ps, h => by
    obtain ⟨p, ho, hmap⟩ := Option.bind_eq_some_iff.mp h
    obtain ⟨q, hq, rfl⟩ := Option.map_eq_some_iff.mp hmap
    rw [cmdText_append, List.flatMap_cons, cmdText_concat hq, ho]
    rfl

theorem cmdText_optArg (word : CStr) (s : String) (hs : s.toList = ' ' :: (word ++ [' ']))
    (j : Option Json) : cmdText ((optArg s j).getD []) = spaced (optWords word j) := by
  cases j with
  | none => rfl
  | some v =>
    cases v with
    | string v =>
      show cmdText [lit s, .value v] = _
      rw [cmdText_lit, cmdText_value, cmdText_nil, hs]
      simp [optWords, spaced]
    | _ => rfl

/-- The words in front of the place. -/
def startWords (act : String) (params : Json) : List CStr :=
  ["qdisc".toList, act.toList, "dev".toList] ++ [deviceName params]

/-- The start of a command with a short device is not cut. -/
theorem cmdText_start {start : String} (act : String) (hstart : start.toList =
      "tc".toList ++ (spaced ["qdisc".toList, act.toList, "dev".toList] ++ [' ']))
    (hlen : start.toList.length ≤ 20) (hdev : (deviceName params).length ≤ 15) :
    cmdText (snprintf cmdLen [lit start, devPiece params]) =
      "tc".toList ++ spaced (startWords act params) := by
  have htext : cmdText [lit start, devPiece params] = start.toList ++ deviceName params :=
    cmdText_lit start [devPiece params]
  have hshort : (start.toList ++ deviceName params).length ≤ cmdLen - 1 := by
    rw [List.length_append]
    show _ ≤ 4095
    omega
  rw [cmdText_snprintf, htext, List.take_of_length_le hshort, hstart, startWords, spaced_append,
    spaced_singleton]
  simp only [List.append_assoc, List.cons_append, List.nil_append]

theorem isWord_optWords {P : CStr → Prop} (hP : ∀ s, P s → IsWord s) {kw : CStr} (hkw : IsWord kw)
    {j : Option Json} (h : MissingOr P j) : ∀ w ∈ optWords kw j, IsWord w := by
  cases j with
  | none => exact fun w hw => absurd hw List.not_mem_nil
  | some v =>
    obtain ⟨s, rfl, hs⟩ := h v rfl
    intro w hw
    rcases List.mem_cons.mp hw with rfl | hw
    · exact hkw
    · rw [List.mem_singleton.mp hw]
      exact hP s hs

theorem isWord_placeWords (h : MissingOr IsTcParent (params.getObjectItemCaseSensitive "parent".toList)) :
    ∀ w ∈ placeWords params, IsWord w := by
  unfold placeWords
  split_ifs
  · exact isWord_optWords (fun _ => IsTcParent.isWord) (by decide) h
  · intro w hw
    rw [List.mem_singleton.mp hw]
    decide

theorem startsBlank_args (objType : CStr) (items : List (CStr × Json)) :
    StartsBlank (cmdText (items.flatMap (tcArg objType))) := by
  induction items with
  | nil => exact .inl rfl
  | cons item items ih =>
    rw [List.flatMap_cons, cmdText_append]
    unfold tcArg
    cases argText item.2 with
    | none => exact ih
    | some val =>
      dsimp only
      split_ifs
      · exact .inr ⟨_, by rw [cmdText_lit]; rfl⟩
      · exact .inr ⟨_, by rw [cmdText_lit]; rfl⟩

/-- The words of a line that starts with `tc`. -/
theorem shellWords_tc {ws : List CStr} (hws : ∀ w ∈ ws, IsWord w) {tail : CStr} (ht : StartsBlank tail) :
    shellWords ("tc".toList ++ (spaced ws ++ tail)) = "tc".toList :: (ws ++ shellWords tail) := by
  have htc : IsWord "tc".toList := by decide
  rw [shellWords_word htc.blankless (startsBlank_spaced ws ht),
    shellWords_spaced (fun w hw => (hws w hw).blankless) ht]

theorem isWord_startWords (act : String) (hact : IsWord act.toList) (hdev : IsWord (deviceName params)) :
    ∀ w ∈ startWords act params, IsWord w := by
  intro w hw
  simp only [startWords, List.cons_append, List.nil_append, List.mem_cons, List.not_mem_nil,
    or_false] at hw
  rcases hw with rfl | rfl | rfl | rfl
  · decide
  · exact hact
  · decide
  · exact hdev

/-- The handle of a request, as words. -/
def handleWords (params : Json) : List CStr :=
  optWords "handle".toList (params.getObjectItemCaseSensitive "handle".toList)

/-- The text of a valid add of a qdisc. -/
theorem text_of_add (h : ValidAdd .qdisc params k add) : ∃ kind args, IsKind kind ∧ StartsBlank args ∧
    add.length < cmdLen ∧ add = "tc".toList ++
      (spaced (startWords "add" params ++ (placeWords params ++ (handleWords params ++ [kind]))) ++
        args) := by
  obtain ⟨kind, hkind, hkindOk⟩ := h.kind
  obtain ⟨ps, hps, rfl⟩ := Option.map_eq_some_iff.mp h.built
  have hcmd : tcCommand "add".toList TcType.qdisc.word params =
      strcatAll (snprintf cmdLen [lit "tc qdisc add dev ", devPiece params])
        [tcParent "qdisc".toList (params.getObjectItemCaseSensitive "parent".toList)
            (params.getObjectItemCaseSensitive "classid".toList), some [],
          optArg " handle " (params.getObjectItemCaseSensitive "handle".toList), some [], some [],
          optArg " " (params.getObjectItemCaseSensitive "kind".toList),
          some ((argItems (params.getObjectItemCaseSensitive "args".toList)).flatMap
            (tcArg "qdisc".toList)), some []] := rfl
  rw [hcmd] at hps
  obtain ⟨more, hmore, rfl, hlen⟩ := strcatAll_spec hps
  have hplace : cmdText ((tcParent "qdisc".toList (params.getObjectItemCaseSensitive "parent".toList)
      (params.getObjectItemCaseSensitive "classid".toList)).getD []) = spaced (placeWords params) := by
    unfold tcParent placeWords
    rw [if_pos rfl]
    split_ifs
    · exact cmdText_optArg _ _ rfl _
    · rfl
  have hhandle : cmdText ((optArg " handle "
      (params.getObjectItemCaseSensitive "handle".toList)).getD []) = spaced (handleWords params) :=
    cmdText_optArg _ _ rfl _
  have hkindText : cmdText ((optArg " " (params.getObjectItemCaseSensitive "kind".toList)).getD []) =
      spaced [kind] := by
    rw [hkind]
    show cmdText [lit " ", .value kind] = _
    rw [cmdText_lit, cmdText_value, cmdText_nil, List.append_nil, spaced_singleton]
    rfl
  refine ⟨kind, _, hkindOk, startsBlank_args "qdisc".toList
    (argItems (params.getObjectItemCaseSensitive "args".toList)), ?_, ?_⟩
  · rw [cmdText, List.length_map]
    exact hlen
  · rw [cmdText_append, cmdText_start "add" rfl (by decide) h.device.2, cmdText_concat hmore]
    simp only [List.flatMap_cons, List.flatMap_nil, hplace, hhandle, hkindText, Option.getD_some,
      cmdText_nil, spaced_append, List.append_assoc, List.nil_append, List.append_nil]

/-- **What a valid add of a qdisc says.** -/
theorem words_of_add (h : ValidAdd .qdisc params k add) : ∃ kind rest, IsKind kind ∧
    shellWords add = "tc".toList :: "qdisc".toList :: "add".toList :: "dev".toList ::
      deviceName params :: (placeWords params ++ (handleWords params ++ kind :: rest)) := by
  obtain ⟨kind, args, hkind, hargs, -, htext⟩ := text_of_add h
  have hws : ∀ w ∈ startWords "add" params ++ (placeWords params ++ (handleWords params ++ [kind])),
      IsWord w := by
    intro w hw
    rcases List.mem_append.mp hw with hw | hw
    · exact isWord_startWords _ (by decide) h.device.1 w hw
    rcases List.mem_append.mp hw with hw | hw
    · exact isWord_placeWords h.parent w hw
    rcases List.mem_append.mp hw with hw | hw
    · exact isWord_optWords (fun _ => IsTcId.isWord) (by decide) (h.handle rfl) w hw
    · rw [List.mem_singleton.mp hw]
      exact hkind.1
  refine ⟨kind, shellWords args, hkind, ?_⟩
  rw [htext, shellWords_tc hws hargs]
  simp only [startWords, List.append_assoc, List.cons_append, List.nil_append]

/-- The options of a delete. -/
def deleteParts (params : Json) : List (Option (List Piece)) :=
  [optArg " parent " (params.getObjectItemCaseSensitive "parent".toList),
    optArg " handle " (params.getObjectItemCaseSensitive "handle".toList)]

/-- A delete is written in the same way for every type. -/
theorem tcCommand_del (hact : isDelete action = true) (objType : CStr) (params : Json) :
    tcCommand action objType params =
      strcatAll (snprintf cmdLen [lit "tc qdisc del dev ", devPiece params]) (deleteParts params) := by
  unfold tcCommand tcBase deleteParts
  simp only [if_pos hact]

/-- The options of a delete, as words. -/
def deleteWords (params : Json) : List CStr :=
  optWords "parent".toList (params.getObjectItemCaseSensitive "parent".toList) ++ handleWords params

theorem cmdText_del (hdev : (deviceName params).length ≤ 15) {more : List Piece}
    (hmore : concat (deleteParts params) = some more) :
    cmdText (snprintf cmdLen [lit "tc qdisc del dev ", devPiece params] ++ more) =
      "tc".toList ++ (spaced (startWords "del" params) ++ spaced (deleteWords params)) := by
  rw [cmdText_append, cmdText_start "del" rfl (by decide) hdev, cmdText_concat hmore]
  simp only [deleteParts, deleteWords, List.flatMap_cons, List.flatMap_nil, spaced_append,
    List.append_assoc, List.append_nil, cmdText_optArg "parent".toList " parent " rfl,
    handleWords, cmdText_optArg "handle".toList " handle " rfl]

/-- What a delete says: the type is always `qdisc`. -/
theorem text_of_del (hact : isDelete action = true) (hdev : (deviceName params).length ≤ 15)
    {objType : CStr} {ps : List Piece} (h : tcCommand action objType params = some ps) :
    cmdText ps = "tc".toList ++ (spaced (startWords "del" params) ++ spaced (deleteWords params)) := by
  rw [tcCommand_del hact] at h
  obtain ⟨more, hmore, rfl, -⟩ := strcatAll_spec h
  exact cmdText_del hdev hmore

/-- A delete is read as a delete of a qdisc. -/
theorem readTc_del (hact : isDelete action = true)
    (hdev : IsWord (deviceName params) ∧ (deviceName params).length ≤ 15)
    {objType : CStr} {ps : List Piece} (h : tcCommand action objType params = some ps) :
    readTc (cmdText ps) = some ⟨"qdisc".toList, "del".toList, deviceName params,
      shellWords (spaced (deleteWords params))⟩ := by
  have hstart := isWord_startWords "del" (by decide) hdev.1
  unfold readTc
  rw [text_of_del hact hdev.2 h, shellWords_tc hstart (startsBlank_words _)]
  rfl

/-- A valid add can be asked to be deleted: the delete is shorter. -/
theorem exists_del (hact : isDelete action = true) (h : ValidAdd .qdisc params k add) :
    ∃ ps, tcCommand action TcType.qdisc.word params = some ps := by
  have hstring : ∀ {P : CStr → Prop} {j : Option Json}, MissingOr P j → TextOrMissing j := by
    intro P j hj v hv
    obtain ⟨s, rfl, -⟩ := hj v hv
    rfl
  have hsome : ∀ o ∈ deleteParts params, o.isSome = true := by
    simp only [deleteParts, List.mem_cons, List.not_mem_nil, or_false, forall_eq_or_imp, forall_eq,
      optArg_isSome]
    exact ⟨hstring h.parent, hstring (h.handle rfl)⟩
  obtain ⟨more, hmore⟩ := Option.isSome_iff_exists.mp (concat_isSome.mpr hsome)
  have hplace : (spaced (optWords "parent".toList
      (params.getObjectItemCaseSensitive "parent".toList))).length ≤
        (spaced (placeWords params)).length := by
    unfold placeWords
    cases params.getObjectItemCaseSensitive "parent".toList with
    | none => exact Nat.zero_le _
    | some v => exact Nat.le_refl _
  have hstart : (spaced (startWords "del" params)).length =
      (spaced (startWords "add" params)).length := by
    have hwords : (spaced ["qdisc".toList, "del".toList, "dev".toList]).length =
        (spaced ["qdisc".toList, "add".toList, "dev".toList]).length := by decide
    rw [startWords, startWords, spaced_append, spaced_append, List.length_append, List.length_append,
      hwords]
  have hshort : (text (snprintf cmdLen [lit "tc qdisc del dev ", devPiece params] ++ more)).length <
      cmdLen := by
    obtain ⟨kind, args, -, -, hlen, htext⟩ := text_of_add h
    have hdel := congrArg List.length (cmdText_del h.device.2 hmore)
    rw [cmdText, List.length_map] at hdel
    rw [htext] at hlen
    simp only [deleteWords, spaced_append, List.length_append] at hlen hdel
    omega
  rw [tcCommand_del hact, strcatAll, hmore, Option.bind_some, if_pos hshort]
  exact ⟨_, rfl⟩

/-! ### The objects they name -/

theorem tcOptions_root (ws : List CStr) :
    tcOptions ("root".toList :: ws) = ("root".toList, []) :: tcOptions ws := by
  cases ws with
  | nil => rfl
  | cons v ws => rw [tcOptions, if_pos rfl]

theorem tcOptions_option {kw : CStr} (hkw : kw ∈ tcOptionWords) (v : CStr) (ws : List CStr) :
    tcOptions (kw :: v :: ws) = (kw, v) :: tcOptions ws := by
  have hroot : kw ≠ "root".toList := by
    rintro rfl
    exact absurd hkw (by decide)
  rw [tcOptions, if_neg hroot, if_pos hkw]

theorem tcOptions_kind {kind : CStr} (h : IsKind kind) (ws : List CStr) :
    tcOptions (kind :: ws) = [] := by
  obtain ⟨hroot, hother⟩ := not_or.mp (mt List.mem_cons.mpr h.2)
  have hoption : kind ∉ tcOptionWords := fun hmem =>
    hother (List.mem_cons_of_mem _ (List.mem_cons_of_mem _ hmem))
  cases ws with
  | nil => rw [tcOptions, if_neg hroot]
  | cons v ws => rw [tcOptions, if_neg hroot, if_neg hoption]

/-- The handle as an option. -/
def handleOptions (params : Json) : List (CStr × CStr) :=
  match params.getObjectItemCaseSensitive "handle".toList with
  | some (.string s) => [("handle".toList, s)]
  | _ => []

theorem tcOptions_handle (params : Json) (ws : List CStr) :
    tcOptions (handleWords params ++ ws) = handleOptions params ++ tcOptions ws := by
  unfold handleWords handleOptions optWords
  split
  · exact tcOptions_option (by decide) _ _
  · rfl

theorem tcOptions_handleWords (params : Json) : tcOptions (handleWords params) = handleOptions params := by
  have htail := tcOptions_handle params []
  rwa [List.append_nil, tcOptions, List.append_nil] at htail

/-- The handle is neither a root nor a parent. -/
theorem lookup_handleOptions (params : Json) :
    (handleOptions params).lookup "root".toList = none ∧
      (handleOptions params).lookup "parent".toList = none := by
  unfold handleOptions
  split
  · exact ⟨rfl, rfl⟩
  · exact ⟨rfl, rfl⟩

section

variable {kind p : CStr} {rest : List CStr}

/-- With a parent, add and delete say the same. -/
theorem identity_of_parent (hkind : IsKind kind)
    (hparent : params.getObjectItemCaseSensitive "parent".toList = some (.string p)) :
    tcIdentity .qdisc (deleteWords params) =
      tcIdentity .qdisc (placeWords params ++ (handleWords params ++ kind :: rest)) := by
  have hdel : tcOptions (deleteWords params) = ("parent".toList, p) :: handleOptions params := by
    rw [deleteWords, hparent]
    show tcOptions ("parent".toList :: p :: handleWords params) = _
    rw [tcOptions_option (by decide), tcOptions_handleWords]
  have hadd : tcOptions (placeWords params ++ (handleWords params ++ kind :: rest)) =
      ("parent".toList, p) :: handleOptions params := by
    rw [placeWords, hparent]
    show tcOptions ("parent".toList :: p :: (handleWords params ++ kind :: rest)) = _
    rw [tcOptions_option (by decide), tcOptions_handle, tcOptions_kind hkind, List.append_nil]
  unfold tcIdentity
  rw [hdel, hadd]

/-- Without one, the add says `root` and the delete says nothing. -/
theorem identity_of_root (hparent : params.getObjectItemCaseSensitive "parent".toList = none) :
    tcIdentity .qdisc (deleteWords params) ≠
      tcIdentity .qdisc (placeWords params ++ (handleWords params ++ kind :: rest)) := by
  have hdel : tcOptions (deleteWords params) = handleOptions params := by
    rw [deleteWords, hparent]
    exact tcOptions_handleWords params
  have hplace : tcPlace (tcOptions (deleteWords params)) = none := by
    obtain ⟨hroot, hpar⟩ := lookup_handleOptions params
    rw [hdel, tcPlace, hroot, hpar]
    rfl
  have hadd : tcPlace (tcOptions (placeWords params ++ (handleWords params ++ kind :: rest))) =
      some "root".toList := by
    rw [placeWords, hparent]
    show tcPlace (tcOptions ("root".toList :: (handleWords params ++ kind :: rest))) = _
    rw [tcOptions_root, tcPlace, List.lookup_cons]
    rfl
  intro h
  have hhead := (List.cons.inj h).1
  rw [hplace, hadd] at hhead
  exact absurd hhead.symm (Option.some_ne_none _)

/-! ### What they do -/

/-- What words address that name neither the root nor the ingress. -/
theorem addressed_iff {words : List CStr} (hroot : "root".toList ∉ words)
    (hingress : "ingress".toList ∉ words) (hne : words ≠ []) {dev t d : CStr} {spec : List CStr} :
    addressed "qdisc".toList dev words (.tc t d spec) = true ↔ d = dev ∧ t = "qdisc".toList ∧
      ∀ kw ∈ ["parent".toList, "handle".toList],
        wordAfter kw words = none ∨ wordAfter kw spec = wordAfter kw words := by
  simp only [addressed, decide_eq_true_eq, if_neg hroot, if_neg hingress, ne_eq, hne,
    not_false_eq_true, true_and]

/-- The root is addressed by what follows `parent`. -/
theorem addressed_root {words : List CStr} (hroot : "root".toList ∈ words) {dev t d : CStr}
    {spec : List CStr} : addressed "qdisc".toList dev words (.tc t d spec) = true ↔
      d = dev ∧ underIngress spec = false := by
  simp only [addressed, decide_eq_true_eq, if_pos hroot]

theorem wordAfter_head (kw v : CStr) (ws : List CStr) : wordAfter kw (kw :: v :: ws) = some v := by
  rw [wordAfter, if_pos rfl]

theorem wordAfter_skip {kw w : CStr} (hne : w ≠ kw) (ws : List CStr) :
    wordAfter kw (w :: ws) = wordAfter kw ws := by
  cases ws with
  | nil => rfl
  | cons v ws => rw [wordAfter, if_neg hne]

theorem deleteWords_of_parent
    (hparent : params.getObjectItemCaseSensitive "parent".toList = some (.string p)) :
    deleteWords params = "parent".toList :: p :: handleWords params := by
  rw [deleteWords, hparent]
  rfl

theorem placeWords_of_parent
    (hparent : params.getObjectItemCaseSensitive "parent".toList = some (.string p)) :
    placeWords params = ["parent".toList, p] := by
  rw [placeWords, hparent]
  rfl

/-- No word of a delete with a number as its parent is a name of a place. -/
theorem notMem_deleteWords (hp : IsTcId p)
    (hhandle : MissingOr IsTcId (params.getObjectItemCaseSensitive "handle".toList)) :
    "root".toList ∉ "parent".toList :: p :: handleWords params ∧
      "ingress".toList ∉ "parent".toList :: p :: handleWords params := by
  obtain ⟨hroot, hingress, -⟩ := hp.ne_word
  have hwords : ∀ w ∈ handleWords params, w = "handle".toList ∨ IsTcId w := by
    unfold handleWords optWords
    split
    · rename_i s hs
      obtain ⟨s', hs', hid⟩ := hhandle _ hs
      cases hs'
      intro w hw
      rcases List.mem_cons.mp hw with rfl | hw
      · exact .inl rfl
      · exact .inr (List.mem_singleton.mp hw ▸ hid)
    · exact fun w hw => absurd hw List.not_mem_nil
  have hnot : ∀ w : CStr, w ≠ "parent".toList → w ≠ p → w ≠ "handle".toList → ¬ IsTcId w →
      w ∉ "parent".toList :: p :: handleWords params := by
    intro w h₁ h₂ h₃ h₄ hw
    rcases List.mem_cons.mp hw with h | hw
    · exact h₁ h
    rcases List.mem_cons.mp hw with h | hw
    · exact h₂ h
    · exact (hwords w hw).elim h₃ h₄
  exact ⟨hnot _ (by decide) hroot.symm (by decide) (by decide),
    hnot _ (by decide) hingress.symm (by decide) (by decide)⟩

/-- A delete takes no more than what stands at its parent. -/
theorem addressed_place {dev : CStr} {r : KernelRule} (hp : IsTcParent p)
    (hhandle : MissingOr IsTcId (params.getObjectItemCaseSensitive "handle".toList))
    (hparent : params.getObjectItemCaseSensitive "parent".toList = some (.string p))
    (h : addressed "qdisc".toList dev (deleteWords params) r = true) :
    addressed "qdisc".toList dev ["parent".toList, p] r = true := by
  rw [deleteWords_of_parent hparent] at h
  cases r with
  | iptables c spec => exact h
  | tc t d spec =>
    rcases hp with rfl | hp
    · rw [addressed_root (by simp)] at h ⊢
      exact h
    · obtain ⟨hroot, hingress⟩ := notMem_deleteWords hp hhandle
      have hsub : ∀ w, w ∉ "parent".toList :: p :: handleWords params →
          w ∉ ["parent".toList, p] := by
        intro w hw hmem
        exact hw (List.mem_append_left (handleWords params) hmem)
      rw [addressed_iff hroot hingress (List.cons_ne_nil _ _)] at h
      rw [addressed_iff (hsub _ hroot) (hsub _ hingress) (List.cons_ne_nil _ _)]
      obtain ⟨hdev, ht, hall⟩ := h
      refine ⟨hdev, ht, fun kw hkw => ?_⟩
      rcases List.mem_cons.mp hkw with rfl | hkw
      · have hparentWord := hall _ List.mem_cons_self
        rw [wordAfter_head] at hparentWord ⊢
        exact hparentWord
      · rw [List.mem_singleton.mp hkw, wordAfter_skip (by decide), wordAfter_skip hp.ne_word.2.2]
        exact .inl rfl

/-- What a valid add adds is what its delete takes. -/
theorem addressed_added (dev : CStr) (hp : IsTcParent p)
    (hhandle : MissingOr IsTcId (params.getObjectItemCaseSensitive "handle".toList))
    (hparent : params.getObjectItemCaseSensitive "parent".toList = some (.string p))
    (hingress : "ingress".toList ∉ placeWords params ++ (handleWords params ++ kind :: rest)) :
    addressed "qdisc".toList dev (deleteWords params) (.tc "qdisc".toList dev
      (placeWords params ++ (handleWords params ++ kind :: rest))) = true := by
  rw [placeWords_of_parent hparent] at hingress ⊢
  rw [deleteWords_of_parent hparent]
  have hspec : ["parent".toList, p] ++ (handleWords params ++ kind :: rest) =
      "parent".toList :: p :: (handleWords params ++ kind :: rest) := rfl
  rw [hspec] at hingress ⊢
  rcases hp with rfl | hp
  · rw [addressed_root (by simp)]
    refine ⟨rfl, ?_⟩
    unfold underIngress
    rw [wordAfter_head]
    simp only [hingress, false_or, decide_eq_false_iff_not]
    decide
  · obtain ⟨hroot, hing⟩ := notMem_deleteWords hp hhandle
    rw [addressed_iff hroot hing (List.cons_ne_nil _ _)]
    refine ⟨rfl, rfl, fun kw hkw => ?_⟩
    rcases List.mem_cons.mp hkw with rfl | hkw
    · rw [wordAfter_head, wordAfter_head]
      exact .inr rfl
    · have hskip : ∀ ws : List CStr,
          wordAfter "handle".toList ("parent".toList :: p :: ws) = wordAfter "handle".toList ws := by
        intro ws
        rw [wordAfter_skip (by decide), wordAfter_skip hp.ne_word.2.2]
      rw [List.mem_singleton.mp hkw, hskip, hskip]
      unfold handleWords optWords
      split
      · rw [wordAfter_head]
        exact .inr (wordAfter_head _ _ _)
      · exact .inl rfl

theorem isWord_deleteWords (h : ValidAdd .qdisc params k add) : ∀ w ∈ deleteWords params, IsWord w := by
  intro w hw
  rcases List.mem_append.mp hw with hw | hw
  · exact isWord_optWords (fun _ => IsTcParent.isWord) (by decide) h.parent w hw
  · exact isWord_optWords (fun _ => IsTcId.isWord) (by decide) (h.handle rfl) w hw

/-- A valid add of a qdisc appends it. -/
theorem run_add (shell : Kernel → CStr → Kernel) (h : ValidAdd .qdisc params k add) {spec : List CStr}
    (hwords : shellWords add = "tc".toList :: "qdisc".toList :: "add".toList :: "dev".toList ::
      deviceName params :: spec) :
    run shell k add = k ++ [.tc "qdisc".toList (deviceName params) spec] := by
  have hparse : parseCommand add = some (.append (.tc "qdisc".toList (deviceName params) spec)) := by
    unfold parseCommand
    rw [hwords]
    rfl
  rw [run, if_pos h.plain, hparse]
  rfl

/-- Its delete takes what it addresses. -/
theorem run_del (shell : Kernel → CStr → Kernel) (hact : isDelete action = true)
    (h : ValidAdd .qdisc params k add) {ps : List Piece}
    (hps : tcCommand action TcType.qdisc.word params = some ps) (k' : Kernel) :
    run shell k' (cmdText ps) = k'.filter fun r =>
      !addressed "qdisc".toList (deviceName params) (deleteWords params) r := by
  have htext := text_of_del hact h.device.2 hps
  have hstart := isWord_startWords "del" (by decide) h.device.1
  have hwords := isWord_deleteWords h
  have hinert : Inert (cmdText ps) := by
    rw [htext]
    have htc : Inert "tc".toList := by decide
    exact List.forall_mem_append.mpr ⟨htc,
      List.forall_mem_append.mpr ⟨inert_spaced hstart, inert_spaced hwords⟩⟩
  have hparse : parseCommand (cmdText ps) = some (.deleteObjects "qdisc".toList
      (deviceName params) (deleteWords params)) := by
    unfold parseCommand
    rw [htext, shellWords_tc hstart (startsBlank_words _),
      shellWords_words fun w hw => (hwords w hw).blankless]
    rfl
  rw [run, if_pos (plainWords_of_inert hinert), hparse]
  rfl

/-- **A delete undoes a valid add with a parent.** -/
theorem run_delete_add (shell : Kernel → CStr → Kernel) (hact : isDelete action = true)
    (h : ValidAdd .qdisc params k add)
    (hparent : params.getObjectItemCaseSensitive "parent".toList = some (.string p))
    {ps : List Piece} (hps : tcCommand action TcType.qdisc.word params = some ps) :
    run shell (run shell k add) (cmdText ps) = k := by
  obtain ⟨p', hp', hp⟩ := h.parent _ hparent
  cases hp'
  obtain ⟨kind, rest, hkind, hwords⟩ := words_of_add h
  have hold : ∀ r ∈ k, (!addressed "qdisc".toList (deviceName params) (deleteWords params) r) = true := by
    intro r hr
    rw [Bool.not_eq_true', Bool.eq_false_iff]
    intro haddr
    have hfree := h.free rfl p hparent r hr
    rw [addressed_place hp (h.handle rfl) hparent haddr] at hfree
    exact Bool.noConfusion hfree
  have hingress : "ingress".toList ∉ placeWords params ++ (handleWords params ++ kind :: rest) := by
    intro hmem
    refine h.noIngress ?_
    rw [hwords]
    exact List.mem_cons_of_mem _ (List.mem_cons_of_mem _ (List.mem_cons_of_mem _
      (List.mem_cons_of_mem _ (List.mem_cons_of_mem _ hmem))))
  have hnew := addressed_added (deviceName params) hp (h.handle rfl) hparent hingress
  rw [run_add shell h hwords, run_del shell hact h hps, List.filter_append,
    List.filter_eq_self.mpr hold, List.filter_cons_of_neg]
  · exact List.append_nil k
  · rw [hnew]
    exact Bool.noConfusion

end

/-- **A delete deletes what the same request adds if and only if** it is about
a qdisc with a parent. -/
theorem tcDelete_iff (shell : Kernel → CStr → Kernel) (hact : isDelete action = true)
    (h : ValidAdd t params k add) :
    (∃ ps ∈ tcCommand action t.word params, DeletesAdded shell t k add (cmdText ps)) ↔
      t = .qdisc ∧ (params.getObjectItemCaseSensitive "parent".toList).isSome = true := by
  have htype : ∀ ps ∈ tcCommand action t.word params, DeletesAdded shell t k add (cmdText ps) →
      t.word = "qdisc".toList := by
    rintro ps hps ⟨⟨line, -, line', hline', hword, -⟩, -⟩
    rw [readTc_del hact h.device hps] at hline'
    rw [← Option.some.inj hline'] at hword
    exact hword.symm
  cases t with
  | trafficClass =>
    refine iff_of_false (fun ⟨ps, hps, hdel⟩ => ?_) fun hq => TcType.noConfusion hq.1
    exact absurd (htype ps hps hdel) (by decide)
  | filter =>
    refine iff_of_false (fun ⟨ps, hps, hdel⟩ => ?_) fun hq => TcType.noConfusion hq.1
    exact absurd (htype ps hps hdel) (by decide)
  | qdisc =>
    rw [and_iff_right rfl]
    obtain ⟨kind, rest, hkind, hwords⟩ := words_of_add h
    have hadd : readTc add = some ⟨"qdisc".toList, "add".toList, deviceName params,
        placeWords params ++ (handleWords params ++ kind :: rest)⟩ := by
      unfold readTc
      rw [hwords]
      rfl
    have hread : ∀ ps ∈ tcCommand action TcType.qdisc.word params, readTc (cmdText ps) =
        some ⟨"qdisc".toList, "del".toList, deviceName params, deleteWords params⟩ := by
      intro ps hps
      rw [readTc_del hact h.device hps,
        shellWords_words fun w hw => (isWord_deleteWords h w hw).blankless]
    constructor
    · rintro ⟨ps, hps, ⟨line, hline, line', hline', -, -, -, hsame⟩, -⟩
      rw [hadd] at hline
      rw [hread ps hps] at hline'
      rw [← Option.some.inj hline, ← Option.some.inj hline'] at hsame
      cases hparent : params.getObjectItemCaseSensitive "parent".toList with
      | none => exact absurd hsame (identity_of_root hparent)
      | some v => rfl
    · intro hparent
      obtain ⟨v, hv⟩ := Option.isSome_iff_exists.mp hparent
      obtain ⟨p, rfl, -⟩ := h.parent v hv
      obtain ⟨ps, hps⟩ := exists_del hact h
      exact ⟨ps, hps, ⟨_, hadd, _, hread ps hps, rfl, rfl, rfl, identity_of_parent hkind hv⟩,
        run_delete_add shell hact h hv hps⟩

/-- An htb qdisc at the root of the default device. -/
def rootHtb : Kernel :=
  [.tc "qdisc".toList netBridgeName.toList (["root", "handle", "1:", "htb"].map String.toList)]

/-- A qdisc below class 1:10. -/
def leafParams : Json :=
  .object [("parent".toList, .string "1:10".toList), ("handle".toList, .string "10:".toList),
    ("kind".toList, .string "sfq".toList)]

/-- A class of the root qdisc. -/
def classParams : Json :=
  .object [("parent".toList, .string "1:".toList), ("classid".toList, .string "1:10".toList),
    ("kind".toList, .string "htb".toList)]

theorem missingOr_string {P : CStr → Prop} {s : CStr} (h : P s) : MissingOr P (some (.string s)) :=
  fun _ hv => ⟨s, (Option.some.inj hv).symm, h⟩

theorem validAdd_leaf : ValidAdd .qdisc leafParams rootHtb
    "tc qdisc add dev wt_br0 parent 1:10 handle 10: sfq".toList where
  built := rfl
  plain := by decide
  device := by decide
  parent := missingOr_string (by decide)
  handle _ := missingOr_string (by decide)
  classid h := TcType.noConfusion h
  protocol h := TcType.noConfusion h
  kind := ⟨"sfq".toList, rfl, by decide⟩
  noIngress := by decide
  free _ p hp r hr := by
    cases hp
    rw [List.mem_singleton.mp hr]
    rfl

theorem validAdd_class : ValidAdd .trafficClass classParams rootHtb
    "tc class add dev wt_br0 parent 1: classid 1:10 htb".toList where
  built := rfl
  plain := by decide
  device := by decide
  parent := missingOr_string (by decide)
  handle h := TcType.noConfusion h
  classid _ := ⟨"1:10".toList, rfl, by decide⟩
  protocol h := TcType.noConfusion h
  kind := ⟨"htb".toList, rfl, by decide⟩
  noIngress := by decide
  free h := TcType.noConfusion h

/-- A qdisc with a parent is deleted. -/
theorem tcDelete_leaf : ∃ ps ∈ tcCommand "delete".toList TcType.qdisc.word leafParams,
    DeletesAdded wordsOnly .qdisc rootHtb
      "tc qdisc add dev wt_br0 parent 1:10 handle 10: sfq".toList (cmdText ps) :=
  (tcDelete_iff _ (by decide) validAdd_leaf).mpr ⟨rfl, rfl⟩

/-- The class of the documentation is not: a qdisc is deleted in its place. -/
theorem tcDelete_class :
    ValidAdd .trafficClass classParams rootHtb
        "tc class add dev wt_br0 parent 1: classid 1:10 htb".toList ∧
      (tcCommand "delete".toList TcType.trafficClass.word classParams).map cmdText =
        some "tc qdisc del dev wt_br0 parent 1:".toList ∧
      ¬ ∃ ps ∈ tcCommand "delete".toList TcType.trafficClass.word classParams,
        DeletesAdded wordsOnly .trafficClass rootHtb
          "tc class add dev wt_br0 parent 1: classid 1:10 htb".toList (cmdText ps) := by
  have htext : (tcCommand "delete".toList TcType.trafficClass.word classParams).map cmdText =
      some "tc qdisc del dev wt_br0 parent 1:".toList := rfl
  refine ⟨validAdd_class, htext, ?_⟩
  rintro ⟨ps, hps, ⟨line, -, line', hline', hword, -⟩, -⟩
  rw [hps, Option.map_some] at htext
  rw [Option.some.inj htext, show readTc "tc qdisc del dev wt_br0 parent 1:".toList =
    some ⟨"qdisc".toList, "del".toList, "wt_br0".toList, ["parent".toList, "1:".toList]⟩ from rfl]
    at hline'
  rw [← Option.some.inj hline'] at hword
  exact absurd hword (by decide)

end WtslCore
