/-
# The tc and iptables commands of a QoS request

`tc_handle_request` and `iptables_handle_request` write one command each from
the request. Here is the text of the command; what becomes of it is in
`Slb.QosSwitch`.

Key definitions: `tcBase`, `tcCommand`, `iptablesCommand`,
`wtslCoreQosSetRules`, `tcInserted`, `iptablesInserted`.
-/
import WtslCore.Slb.AclCore

namespace WtslCore

open Shell

/-- `NET_BRIDGE_NAME`, the default device `qos_init_state` is called with. -/
def netBridgeName : String := "wt_br0"

/-- `dev`: the string `device` of the request, or the default device. -/
def devPiece (params : Json) : Piece :=
  match params.getObjectItemCaseSensitive "device".toList with
  | some (.string s) => .value s
  | _ => lit netBridgeName

/-- The start of a tc command. -/
def tcBase (action objType : CStr) (dev : Piece) : List Piece :=
  if isDelete action then [lit "tc qdisc del dev ", dev]
  else if objType = "qdisc".toList ∧ action = "add".toList then [lit "tc qdisc add dev ", dev]
  else if objType = "class".toList ∧ action = "add".toList then [lit "tc class add dev ", dev]
  else if objType = "filter".toList ∧ action = "add".toList then [lit "tc filter add dev ", dev]
  else [lit "tc ", .value objType, lit " ", .value action, lit " dev ", dev]

/-- The part of a class id before the colon, if it has one that fits `parent_buf`. -/
def classMajor (classid : CStr) : Option CStr :=
  let major := classid.takeWhile fun c => c != ':'
  if ':' ∈ classid ∧ major ≠ [] ∧ major.length < 32 - 3 then some major else none

/-- The parent of a class, from its id. -/
def parentOfClassid : Option Json → List Piece
  | some (.string s) =>
    match classMajor s with
    | some major => [lit " parent ", .value major, lit ":0"]
    | none => []
  | _ => []

/-- Where the object hangs. -/
def tcParent (objType : CStr) (parent classid : Option Json) : Option (List Piece) :=
  if objType = "qdisc".toList then
    if parent.isSome then optArg " parent " parent else some [lit " root"]
  else if parent.isSome then optArg " parent " parent
  else some (if objType = "class".toList then parentOfClassid classid else [])

/-- The text of a string or number in `args`. -/
def argText : Json → Option CStr
  | .string s => some s
  | .number n => some n.gText
  | _ => none

/-- The members of `args`. -/
def argItems : Option Json → List (CStr × Json)
  | some (.object ms) => ms
  | _ => []

/-- One member of `args` of a tc request. -/
def tcArg (objType : CStr) (item : CStr × Json) : List Piece :=
  match argText item.2 with
  | none => []
  | some val =>
    if objType = "filter".toList ∧ item.1 = "match".toList then [lit " match ", .value val]
    else [lit " ", .value item.1, lit " ", .value val]

/-- `" prio %d"`, in 16 bytes. -/
def prioArg : Option Json → List Piece
  | some j => snprintf 16 [lit " prio ", .value (intText j.valueint)]
  | none => []

/-- The command of `tc_handle_request`. -/
def tcCommand (action objType : CStr) (params : Json) : Option (List Piece) :=
  let get name := params.getObjectItemCaseSensitive name
  let isQdisc := objType = "qdisc".toList
  let isClass := objType = "class".toList
  let isFilter := objType = "filter".toList
  let takesKind :=
    action = "add".toList ∨ action = "replace".toList ∨ action = "change".toList
  strcatAll (snprintf cmdLen (tcBase action objType (devPiece params)))
    (if isDelete action then
      [optArg " parent " (get "parent".toList), optArg " handle " (get "handle".toList)]
    else
      [tcParent objType (get "parent".toList) (get "classid".toList),
        if isClass then optArg " classid " (get "classid".toList) else some [],
        if isQdisc then optArg " handle " (get "handle".toList) else some [],
        if isFilter then optArg " protocol " (get "protocol".toList) else some [],
        if isFilter then some (prioArg (get "prio".toList)) else some [],
        if takesKind then optArg " " (get "kind".toList) else some [],
        some ((argItems (get "args".toList)).flatMap (tcArg objType)),
        if isFilter then optArg " flowid " (get "flowid".toList) else some []])

/-- `wtsl_core_qos_set_rules`, up to the command. -/
def wtslCoreQosSetRules (root : Json) : Option (List Piece) := do
  let action ← stringOr (root.getObjectItem "action".toList) "show"
  let objType ← stringOr (root.getObjectItem "type".toList) "qdisc"
  tcCommand action objType root

/-- The option of `iptables` for a member of `args`. -/
def iptablesOption (key : CStr) : List Piece :=
  if key = "source".toList ∨ key = "src".toList then [lit " -s "]
  else if key = "destination".toList ∨ key = "dst".toList then [lit " -d "]
  else if key = "sport".toList then [lit " --sport "]
  else if key = "dport".toList then [lit " --dport "]
  else if key = "jump".toList ∨ key = "target".toList then [lit " -j "]
  else [lit " --", .value key, lit " "]

/-- The text of a string or number in `args`, as an integer. -/
def argIntText : Json → Option CStr
  | .string s => some s
  | .number n => some (intText n.valueint)
  | _ => none

/-- One member of `args` of an iptables request. -/
def iptablesArg (item : CStr × Json) : List Piece :=
  match argIntText item.2 with
  | none => []
  | some val => iptablesOption item.1 ++ [.value val]

/-- The interfaces: those of the request, or the device by the chain. -/
def interfaceArgs (chain : CStr) (params : Json) : Option (List Piece) :=
  let jIn := params.getObjectItemCaseSensitive "in_interface".toList
  let jOut := params.getObjectItemCaseSensitive "out_interface".toList
  if jIn.isNone ∧ jOut.isNone then
    some (if chain = "INPUT".toList ∨ chain = "FORWARD".toList then [lit " -i ", devPiece params]
      else if chain = "OUTPUT".toList then [lit " -o ", devPiece params]
      else [])
  else concat [optArg " -i " jIn, optArg " -o " jOut]

/-- The command of `iptables_handle_request`. -/
def iptablesCommand (action chain : CStr) (params : Json) : Option (List Piece) :=
  let get name := params.getObjectItemCaseSensitive name
  strcatAll
    (snprintf cmdLen [lit "iptables ", lit (actionFlag action), lit " ", .value chain])
    [some (strArg " -p " (get "protocol".toList)),
      interfaceArgs chain params,
      some ((argItems (get "args".toList)).flatMap iptablesArg)]

/-! ### The values of the request that get into the commands -/

/-- What a member of `args` inserts into a tc command: its value, and its name
unless it is the `match` of a filter. -/
def tcArgInserted (objType : CStr) (item : CStr × Json) : List (Bool × CStr) :=
  match argText item.2 with
  | none => []
  | some val =>
    if objType = "filter".toList ∧ item.1 = "match".toList then [(true, val)]
    else [(true, item.1), (true, val)]

/-- The major number of a class id, where it names the parent. -/
def majorInserted : Option Json → List (Bool × CStr)
  | some (.string s) => ((classMajor s).map fun m => (true, m)).toList
  | _ => []

/-- The parent a tc command names. -/
def parentInserted (objType : CStr) (parent classid : Option Json) : List (Bool × CStr) :=
  if parent.isSome then strValues parent
  else if objType = "class".toList then majorInserted classid
  else []

/-- The digits of `prio` that fit. -/
def prioInserted (prio : Option Json) : List (Bool × CStr) :=
  (prio.map fun j => (true, (intText j.valueint).take 9)).toList

/-- What a tc request inserts after the start of the command. -/
def tcInserted (action objType : CStr) (params : Json) : List (Bool × CStr) :=
  let str (name : String) := strValues (params.getObjectItemCaseSensitive name.toList)
  if isDelete action then str "parent" ++ str "handle"
  else
    parentInserted objType (params.getObjectItemCaseSensitive "parent".toList)
        (params.getObjectItemCaseSensitive "classid".toList) ++
      (if objType = "class".toList then str "classid" else []) ++
      (if objType = "qdisc".toList then str "handle" else []) ++
      (if objType = "filter".toList then str "protocol" else []) ++
      (if objType = "filter".toList
        then prioInserted (params.getObjectItemCaseSensitive "prio".toList) else []) ++
      (if action = "add".toList ∨ action = "replace".toList ∨ action = "change".toList
        then str "kind" else []) ++
      (argItems (params.getObjectItemCaseSensitive "args".toList)).flatMap (tcArgInserted objType) ++
      (if objType = "filter".toList then str "flowid" else [])

/-- What the interfaces insert. -/
def interfaceInserted (chain : CStr) (params : Json) : List (Bool × CStr) :=
  let str (name : String) := strValues (params.getObjectItemCaseSensitive name.toList)
  if (params.getObjectItemCaseSensitive "in_interface".toList).isNone ∧
      (params.getObjectItemCaseSensitive "out_interface".toList).isNone then
    if chain ∈ ["INPUT".toList, "FORWARD".toList, "OUTPUT".toList] then str "device" else []
  else str "in_interface" ++ str "out_interface"

/-- The members of `args` that have an option of their own. -/
def iptablesKeys : List CStr :=
  ["source", "src", "destination", "dst", "sport", "dport", "jump", "target"].map String.toList

/-- What a member of `args` inserts into an iptables command: its value, and
its name, after two dashes, if it has no option. -/
def iptablesArgInserted (item : CStr × Json) : List (Bool × CStr) :=
  match argIntText item.2 with
  | none => []
  | some val =>
    if item.1 ∈ iptablesKeys then [(true, val)]
    else [(false, item.1), (true, val)]

/-- What an iptables request inserts after the start of the command. -/
def iptablesInserted (chain : CStr) (params : Json) : List (Bool × CStr) :=
  strValues (params.getObjectItemCaseSensitive "protocol".toList) ++
    interfaceInserted chain params ++
    (argItems (params.getObjectItemCaseSensitive "args".toList)).flatMap iptablesArgInserted

end WtslCore
