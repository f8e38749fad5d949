/-
# Routing a request

A URL is cut at its slashes and routed by its prefix, the number of its
segments and the segments themselves, to a node operation or to a handler of
the user manager. `list_get(...)->str` of a segment that is not there, an
operation on a node that is not there and a read past the end of the URL have
no defined outcome (`Routed.fault`). The chains of comparisons are tables
whose entries are tried in order (`FuncEntry`), in the order of the source.

Key definitions: `Routed`, `FuncEntry`, `wtslCoreGetNodesFunctions`,
`wtslCorePostNodesFunctions`, `wtcoreapiParseHttpGetCmd`,
`wtcoreapiParseHttpPostCmd`, `requestHandler`.
-/
import WtslCore.Node.Manager
import WtslCore.User.Manager

namespace WtslCore

/-- Where a request ends up. -/
inductive Routed
  /-- A missing list element, a NULL node or a byte past the URL is read. -/
  | fault
  /-- Refused, or answered as an error. -/
  | error
  /-- Answered with the static buffer as a success; no operation ran. -/
  | stale
  /-- Nothing to do yet, or a fixed answer that routes nothing. -/
  | noRoute
  /-- An operation on a node. -/
  | call (func : NodeFunc) (node : Node)
  /-- The user manager; `none` if no item of its table matches. -/
  | user (route : Option UserRoute)
  deriving DecidableEq

/-- An entry of a chain of comparisons: `strcmp` with the name, or `strncmp`
over `len` characters. -/
structure FuncEntry where
  name : CStr
  len : Option ℕ
  func : NodeFunc

/-- The comparison of an entry. -/
def FuncEntry.matches (e : FuncEntry) (s : CStr) : Bool :=
  match e.len with
  | none => s == e.name
  | some n => strncmpEq n s e.name

/-- The `GET` operations of a node. -/
def getFuncs : List FuncEntry :=
  [⟨"basicinfo".toList, some 9, .getNodeBasicinfo⟩, ⟨"conninfo".toList, some 8, .getNodeConninfo⟩,
    ⟨"advinfo".toList, some 7, .getNodeAdvinfo⟩, ⟨"scan".toList, some 4, .startScan⟩,
    ⟨"resourcesinfo".toList, some 13, .getHwResourcesInfo⟩,
    ⟨"show_bss_info".toList, some 14, .showBssInfo⟩, ⟨"sle_scan".toList, some 8, .doSleScan⟩,
    ⟨"sle_show_bss".toList, some 12, .getSleScanResult⟩,
    ⟨"sle_conninfo".toList, some 12, .getSleConninfo⟩,
    ⟨"sle_basicinfo".toList, some 13, .getSleBasicinfo⟩,
    ⟨"sle_trans_config".toList, some 16, .getSleTransConfig⟩]

/-- What `GET .../qos/` is followed by. -/
def getQosWays : List FuncEntry :=
  [⟨"status".toList, some 6, .qosGetStatus⟩, ⟨"rules".toList, some 5, .qosGetRules⟩]

/-- What `GET .../acl/` is followed by. -/
def getAclWays : List FuncEntry :=
  [⟨"status".toList, some 6, .aclGetStatus⟩, ⟨"rules".toList, some 5, .aclGetRules⟩]

/-- The `POST` operations of a node. -/
def postFuncs : List FuncEntry :=
  [⟨"basicinfo".toList, none, .setNodeBasicinfo⟩, ⟨"advinfo".toList, none, .setNodeAdvinfo⟩,
    ⟨"connect".toList, none, .doConnect⟩, ⟨"autojoinNetwork".toList, none, .doAutojoinNetwork⟩,
    ⟨"timesync".toList, none, .doTimeSync⟩, ⟨"reboot".toList, none, .doReboot⟩,
    ⟨"disconnect".toList, none, .doDisconnect⟩, ⟨"restore".toList, none, .doRestore⟩,
    ⟨"aifh".toList, none, .doAifh⟩, ⟨"chanswitch".toList, none, .doChswitch⟩,
    ⟨"secalg".toList, none, .getSecalg⟩, ⟨"adaptivemcs".toList, none, .setAdaptivemcs⟩,
    ⟨"clearschmcs".toList, none, .doClearschmcs⟩, ⟨"mcsboundinfo".toList, none, .getMcsboundinfo⟩,
    ⟨"mcsbound".toList, none, .setMcsbound⟩,
    ⟨"adaptivemcsinfo".toList, some 14, .getAdaptivemcsinfo⟩,
    ⟨"traceinfo".toList, some 9, .getTraceinfo⟩,
    ⟨"throughput_test".toList, some 15, .doThroughputTest⟩,
    ⟨"shortrange_test".toList, some 15, .doShortrangeTest⟩,
    ⟨"remoterange_test".toList, some 16, .doRemoterangeTest⟩,
    ⟨"lowpow_test".toList, some 11, .doLowpowTest⟩,
    ⟨"lowlatency_test".toList, some 15, .doLowlatencyTest⟩,
    ⟨"sle_connect".toList, some 11, .doSleConnect⟩,
    ⟨"sle_basicinfo".toList, some 13, .setSleBasicinfo⟩,
    ⟨"sle_announce_id".toList, some 13, .setSleAnnounceId⟩,
    ⟨"config_vap0_mac".toList, some 15, .configVap0Mac⟩,
    ⟨"sle_trans_config".toList, some 16, .setSleTransConfig⟩]

/-- What `POST .../firmware/` is followed by. -/
def firmwareWays : List FuncEntry :=
  [⟨"upload".toList, some 6, .doUpload⟩, ⟨"upgrade".toList, some 7, .doUpgrade⟩]

/-- What `POST .../qos/` is followed by. -/
def postQosWays : List FuncEntry :=
  [⟨"switch".toList, some 6, .qosSwitch⟩, ⟨"rules".toList, some 5, .qosSetRules⟩]

/-- What `POST .../acl/` is followed by. -/
def postAclWays : List FuncEntry :=
  [⟨"switch".toList, some 6, .aclSwitch⟩, ⟨"rules".toList, some 5, .aclSetRules⟩]

/-- `strncmp(api_str, "nodes", 5) == 0`. -/
def isNodes (apiStr : CStr) : Bool := strncmpEq 5 apiStr "nodes".toList

/-- `strncmp(func_str, "firmware", 8) == 0`. -/
def isFirmware (funcStr : CStr) : Bool := strncmpEq 8 funcStr "firmware".toList

/-- `strncmp(func_str, "qos", 3) == 0`. -/
def isQos (funcStr : CStr) : Bool := strncmpEq 3 funcStr "qos".toList

/-- `strncmp(func_str, "acl", 3) == 0`. -/
def isAcl (funcStr : CStr) : Bool := strncmpEq 3 funcStr "acl".toList

/-- `((UrlData *)list_get(g_url_list, i))->str`, and what is done with it. -/
def listGetStr (urlList : List CStr) (i : ℕ) (k : CStr → Routed) : Routed :=
  match urlList[i]? with
  | none => .fault
  | some s => k s

/-- `find_wtsl_node_by_id` on the global list, which may not be there yet. -/
def findNode (nodes : Option (List Node)) (id : ℤ) : Option Node :=
  nodes.bind fun l => findWtslNodeById l id

/-- A call of the first entry that matches, and what comes after the chain. -/
def callFirst (entries : List FuncEntry) (s : CStr) (node : Node) (otherwise : Routed) : Routed :=
  match entries.find? (·.matches s) with
  | none => otherwise
  | some e => .call e.func node

/-- `wtsl_core_get_nodes_functions`. -/
def wtslCoreGetNodesFunctions (nodes : Option (List Node)) (urlList : List CStr) : Routed :=
  listGetStr urlList 2 fun apiStr =>
    if !isNodes apiStr then .error
    else if urlList.length ≤ 3 then
      match findNode nodes 0 with
      | none => .fault
      | some node => .call .getAllNodesInfo node
    else if urlList.length = 5 then
      listGetStr urlList 3 fun idStr => listGetStr urlList 4 fun funcStr =>
        match findNode nodes (atoi idStr) with
        | none => .error
        | some node => callFirst getFuncs funcStr node .error
    else if 6 ≤ urlList.length then
      listGetStr urlList 3 fun idStr => listGetStr urlList 4 fun funcStr =>
        match findNode nodes (atoi idStr) with
        | none => .error
        | some node =>
          if isQos funcStr then
            listGetStr urlList 5 fun funcWayStr => callFirst getQosWays funcWayStr node .stale
          else if isAcl funcStr then
            listGetStr urlList 5 fun funcWayStr => callFirst getAclWays funcWayStr node .stale
          else .error
    else .stale

/-- The end of `wtsl_core_post_nodes_functions`: the traffic of a node. -/
def postTraffic (nodes : Option (List Node)) (urlList : List CStr) : Routed :=
  if urlList.length = 6 then
    listGetStr urlList 3 fun idStr => listGetStr urlList 5 fun funcStr =>
      match findNode nodes (atoi idStr) with
      | none => .error
      | some node => if strncmpEq 7 funcStr "traffic".toList then .call .getNodeTraffic node else .error
  else .error

/-- `wtsl_core_post_nodes_functions`. The three chains with a sub-operation
check the size once more, against 5, before they read segment 5. -/
def wtslCorePostNodesFunctions (nodes : Option (List Node)) (urlList : List CStr) : Routed :=
  if urlList.length < 5 then .error
  else
    listGetStr urlList 2 fun _ => listGetStr urlList 3 fun idStr => listGetStr urlList 4 fun funcStr =>
      match findNode nodes (atoi idStr) with
      | none => .error
      | some node =>
        callFirst postFuncs funcStr node <|
          if isFirmware funcStr then
            if urlList.length < 5 then .error
            else listGetStr urlList 5 fun funcWayStr =>
              callFirst firmwareWays funcWayStr node (postTraffic nodes urlList)
          else if isQos funcStr then
            if urlList.length < 5 then .error
            else listGetStr urlList 5 fun funcWayStr =>
              callFirst postQosWays funcWayStr node (postTraffic nodes urlList)
          else if isAcl funcStr then
            if urlList.length < 5 then .error
            else listGetStr urlList 5 fun funcWayStr =>
              callFirst postAclWays funcWayStr node (postTraffic nodes urlList)
          else postTraffic nodes urlList

/-- `wtsl_core_post_users_functions`: the items are compared with the URL from
its eighth character. -/
def wtslCorePostUsersFunctions (url : CStr) : Routed :=
  .user ((gRouteTable.find? fun item => item.1 == url.drop 7).map Prod.snd)

/-- `"/api/v1/"` and the name of an API. -/
def apiUrl (apiname : CStr) : CStr := "/api/v1/".toList ++ apiname

/-- The URL is one of the API of nodes: `strncmp(url, "/api/v1/nodes", 13) == 0`. -/
def isNodesUrl (url : CStr) : Bool :=
  strncmpEq (apiUrl "nodes".toList).length url (apiUrl "nodes".toList)

/-- The URL is one of the API of users. -/
def isUserUrl (url : CStr) : Bool :=
  strncmpEq (apiUrl "user".toList).length url (apiUrl "user".toList)

/-- `strncmp(api_name_in_url, apiname, strlen(api_name_in_url)) == 0`. -/
def isApiName (apiNameInUrl apiname : CStr) : Bool :=
  strncmpEq apiNameInUrl.length apiNameInUrl apiname

/-- `wtcoreapi_parse_http_get_cmd`. The handler of `user` answers NULL. -/
def wtcoreapiParseHttpGetCmd (nodes : Option (List Node)) (url : CStr) : Routed :=
  let urlList := strtok '/' url
  if urlList.length < 3 then .error
  else
    listGetStr urlList 2 fun apiNameInUrl =>
      if isApiName apiNameInUrl "nodes".toList && isNodesUrl url then
        wtslCoreGetNodesFunctions nodes urlList
      else if isApiName apiNameInUrl "user".toList && isUserUrl url then .error
      else .error

/-- `wtcoreapi_parse_http_post_cmd`; its `strncmp` has the arguments the other
way round. -/
def wtcoreapiParseHttpPostCmd (nodes : Option (List Node)) (url : CStr) : Routed :=
  let urlList := strtok '/' url
  if isNodesUrl url then wtslCorePostNodesFunctions nodes urlList
  else if isUserUrl url then wtslCorePostUsersFunctions url
  else .error

/-- The method of a request, as far as it is compared. -/
inductive Method
  | get
  | post
  | options
  | other
  deriving DecidableEq, Repr

/-- The URLs a `POST` may have without `Authorization`, from the eighth
character on. -/
def noAuthUrls : List CStr :=
  ["/user/register".toList, "/user/login".toList, "/user/change_pwd".toList]

/-- `request_handler`, when the body has been read; `isComplete` says that the
expected size was reached. -/
def requestHandler (nodes : Option (List Node)) (method : Method) (url : CStr) (authHdr : Option CStr)
    (isComplete : Bool) : Routed :=
  match method with
  | .options | .other => .noRoute
  | .get =>
    match authHdr with
    | none => .error
    | some _ => wtcoreapiParseHttpGetCmd nodes url
  | .post =>
    if !isComplete then .noRoute
    -- `url + 7` is printed, whatever the length of the URL
    else if url.length < 7 then .fault
    else if authHdr.isNone && !noAuthUrls.contains (url.drop 7) then .error
    else wtcoreapiParseHttpPostCmd nodes url

end WtslCore
