/-
# The buffer of a response

A `GET` hands its operation a static buffer of 8192 bytes, a `POST` the body
of its request, with the length of the body as the size. The body lies in an
array that grows with the uploads; once the expected size has come in, the
array has one byte more than the body (`capacity_of_complete`).

An operation keeps to its buffer if its copy is guarded, or if it is cut to
8192 bytes and only a `GET` leads to it. The others depend on what there is
to answer (`response_fits_iff`): the copies of the users and the scan, which
nothing guards, and the answers to the rules of a `POST`, which are cut to
8192 bytes in a buffer as long as the request.

Key definitions: `RequestData`, `HttpCall`, `ResponseFits`, `CallFits`.
Key theorems: `sized_uploads`, `requestHandler_call`, `response_fits_iff`.
-/
import WtslCore.Http.RestfulApi
import WtslCore.Node.Responses
import WtslCore.Node.Service

namespace WtslCore

/-- `struct request_data`, as far as it holds the body. -/
structure RequestData where
  expectedSize : ℕ
  bufferCapacity : ℕ
  data : CStr
  isComplete : Bool

/-- `init_request_data`. -/
def initRequestData (expectedSize : ℕ) : RequestData :=
  ⟨expectedSize, if 0 < expectedSize then expectedSize + 1 else 1024, [], false⟩

/-- `request_handler` with a part of the body. -/
def RequestData.upload (rd : RequestData) (uploadData : CStr) : RequestData :=
  let size := rd.data.length + uploadData.length
  { rd with
    bufferCapacity := if rd.bufferCapacity < size + 1 then size + 1 else rd.bufferCapacity
    data := rd.data ++ uploadData
    isComplete := rd.isComplete || (0 < rd.expectedSize && rd.expectedSize ≤ size) }

/-- A request with the parts in which its body comes in. -/
structure HttpCall where
  method : Method
  url : CStr
  authHdr : Option CStr
  contentLength : ℕ
  uploads : List CStr

/-- The body as it has come in. -/
def HttpCall.requestData (r : HttpCall) : RequestData :=
  r.uploads.foldl RequestData.upload (initRequestData r.contentLength)

/-- The buffer an operation gets. -/
def HttpCall.buffer (r : HttpCall) (env : CallEnv) : CStr :=
  match r.method with
  | .post => r.requestData.data
  | .get | .options | .other => env.recvBss

/-- The size it gets with the buffer. -/
def HttpCall.size (r : HttpCall) : ℕ :=
  match r.method with
  | .post => r.requestData.data.length
  | .get | .options | .other => 8192

/-- The request makes the callback of `func` run on `node`. -/
def HttpCall.Runs (r : HttpCall) (env : CallEnv) (ctx : UserContext) (func : NodeFunc) (node : Node) :
    Prop :=
  requestHandler env.nodes r.method r.url r.authHdr r.requestData.isComplete = .call func node ∧
    interfaceWrapper env.splink node func ctx = .callback

/-- The callback that runs, if one does, writes no more than `size` bytes. -/
def ResponseFits (env : CallEnv) (ctx : UserContext) (r : HttpCall) : Prop :=
  ∀ func node, r.Runs env ctx func node →
    (callbackWrites env func node (r.buffer env) r.size).length ≤ r.size

/-- The text of an item, with its terminator, fits `size` bytes. -/
def TextFits (env : CallEnv) (size : ℕ) (item : Item) : Prop :=
  ∀ s ∈ env.print item, s.length < size

/-- The condition on a call. On a `GET`, the table of users and the table of
the scan are short enough for the static buffer; the scan is only answered by
the first node. On a `POST` of rules, the body is as long as the cut copy or
longer than the text of the outcome. -/
def CallFits (env : CallEnv) (body : CStr) (func : NodeFunc) (node : Node) : Prop :=
  match func with
  | .getNodeConninfo => ∀ nodes ∈ env.nodes, ∀ users ∈ viewUsers env nodes, TextFits env 8192 users
  | .startScan | .showBssInfo => node.id = 0 → ∀ scan ∈ showBss env, TextFits env 8192 scan
  | .aclSetRules => 8192 ≤ body.length ∨ ∀ root ∈ env.parse (cstr body),
      ∀ outcome ∈ aclSetAnswer env root, TextFits env body.length outcome
  | .qosSetRules => 8192 ≤ body.length ∨ ∀ root ∈ env.parse (cstr body),
      ∀ outcome ∈ qosSetAnswer env root, TextFits env body.length outcome
  | _ => True

/-- The callback that runs, if one does, fits. -/
def ResponseOk (env : CallEnv) (ctx : UserContext) (r : HttpCall) : Prop :=
  ∀ func node, r.Runs env ctx func node → CallFits env r.requestData.data func node

/-! ### The body -/

/-- The array is as long as at first, or as the body with its terminator; a
complete body has the expected size. -/
structure Sized (rd : RequestData) : Prop where
  capacity : rd.bufferCapacity =
    max (initRequestData rd.expectedSize).bufferCapacity (rd.data.length + 1)
  complete : rd.isComplete = true → 0 < rd.expectedSize ∧ rd.expectedSize ≤ rd.data.length

theorem sized_init (n : ℕ) : Sized (initRequestData n) where
  capacity := by
    unfold initRequestData
    dsimp only
    split_ifs
    · simp
    · simp
  complete := nofun

/-- One part of the body. -/
theorem Sized.upload {rd : RequestData} (h : Sized rd) (uploadData : CStr) :
    Sized (rd.upload uploadData) where
  capacity := by
    have hcap := h.capacity
    show (if rd.bufferCapacity < rd.data.length + uploadData.length + 1 then _ else _) =
      max (initRequestData rd.expectedSize).bufferCapacity ((rd.data ++ uploadData).length + 1)
    rw [List.length_append]
    split_ifs with hlt
    · omega
    · omega
  complete := by
    show (rd.isComplete || _) = true → 0 < rd.expectedSize ∧
      rd.expectedSize ≤ (rd.data ++ uploadData).length
    rw [List.length_append, Bool.or_eq_true]
    rintro (hc | hc)
    · obtain ⟨hpos, hle⟩ := h.complete hc
      exact ⟨hpos, by omega⟩
    · simpa using hc

/-- The whole body. -/
theorem sized_uploads : ∀ (uploads : List CStr) {rd : RequestData}, Sized rd →
    Sized (uploads.foldl RequestData.upload rd)
  | [], _, h => h
  | part :: uploads, _, h => sized_uploads uploads (h.upload part)

/-- **A complete body fills its array up to the terminator.** -/
theorem capacity_of_complete {rd : RequestData} (h : Sized rd) (hc : rd.isComplete = true) :
    rd.bufferCapacity = rd.data.length + 1 := by
  obtain ⟨hpos, hle⟩ := h.complete hc
  have hcap := h.capacity
  have hinit : (initRequestData rd.expectedSize).bufferCapacity = rd.expectedSize + 1 := if_pos hpos
  omega

/-! ### The operations of the two dispatchers -/

/-- The operations a `GET` leads to. -/
def getTargets : List NodeFunc :=
  .getAllNodesInfo :: (getFuncs ++ (getQosWays ++ getAclWays)).map FuncEntry.func

/-- The operations a `POST` leads to. -/
def postTargets : List NodeFunc :=
  .getNodeTraffic :: (postFuncs ++ (firmwareWays ++ (postQosWays ++ postAclWays))).map FuncEntry.func

section

variable {nodes : Option (List Node)} {urlList : List CStr} {url : CStr} {func : NodeFunc}
  {node node' : Node}

theorem listGetStr_call {i : ℕ} {k : CStr → Routed} (h : listGetStr urlList i k = .call func node) :
    ∃ s, k s = .call func node := by
  unfold listGetStr at h
  split at h
  · exact nomatch h
  · exact ⟨_, h⟩

theorem callFirst_call {entries : List FuncEntry} {s : CStr} {r : Routed}
    (h : callFirst entries s node' r = .call func node) :
    func ∈ entries.map FuncEntry.func ∨ r = .call func node := by
  unfold callFirst at h
  split at h
  · exact .inr h
  · rename_i e he
    obtain ⟨rfl, -⟩ := Routed.call.inj h
    exact .inl (List.mem_map_of_mem (List.mem_of_find?_eq_some he))

/-- A call from one of the chains, or from what comes after it. -/
theorem callFirst_targets {entries all : List FuncEntry} {first : NodeFunc} {s : CStr} {r : Routed}
    (hsub : entries ⊆ all) (h : callFirst entries s node' r = .call func node)
    (hr : r = .call func node → func ∈ first :: all.map FuncEntry.func) :
    func ∈ first :: all.map FuncEntry.func := by
  rcases callFirst_call h with hf | h
  · exact List.mem_cons_of_mem _ (List.map_subset _ hsub hf)
  · exact hr h

theorem getNodes_call (h : wtslCoreGetNodesFunctions nodes urlList = .call func node) :
    func ∈ getTargets := by
  obtain ⟨apiStr, h⟩ := listGetStr_call h
  split_ifs at h with h1 h2 h3 h4
  · split at h
    · exact nomatch h
    · obtain ⟨rfl, -⟩ := Routed.call.inj h
      exact List.mem_cons_self
  · obtain ⟨idStr, h⟩ := listGetStr_call h
    obtain ⟨funcStr, h⟩ := listGetStr_call h
    split at h
    · exact nomatch h
    · exact callFirst_targets (List.subset_append_left _ _) h nofun
  · obtain ⟨idStr, h⟩ := listGetStr_call h
    obtain ⟨funcStr, h⟩ := listGetStr_call h
    split at h
    · exact nomatch h
    · split_ifs at h with h5 h6
      · obtain ⟨way, h⟩ := listGetStr_call h
        exact callFirst_targets (fun e he => by simp [he]) h nofun
      · obtain ⟨way, h⟩ := listGetStr_call h
        exact callFirst_targets (fun e he => by simp [he]) h nofun

theorem postTraffic_call (h : postTraffic nodes urlList = .call func node) : func ∈ postTargets := by
  unfold postTraffic at h
  split_ifs at h
  obtain ⟨idStr, h⟩ := listGetStr_call h
  obtain ⟨funcStr, h⟩ := listGetStr_call h
  split at h
  · exact nomatch h
  · split_ifs at h
    obtain ⟨rfl, -⟩ := Routed.call.inj h
    exact List.mem_cons_self

theorem postNodes_call (h : wtslCorePostNodesFunctions nodes urlList = .call func node) :
    func ∈ postTargets := by
  -- a chain with a sub-operation, and the traffic behind it
  have hway : ∀ {entries : List FuncEntry} {n : Node},
      entries ⊆ postFuncs ++ (firmwareWays ++ (postQosWays ++ postAclWays)) →
      listGetStr urlList 5 (fun s => callFirst entries s n (postTraffic nodes urlList)) =
        .call func node → func ∈ postTargets := by
    intro entries n hsub hs
    obtain ⟨way, hs⟩ := listGetStr_call hs
    exact callFirst_targets hsub hs postTraffic_call
  unfold wtslCorePostNodesFunctions at h
  split_ifs at h with h1
  obtain ⟨apiStr, h⟩ := listGetStr_call h
  obtain ⟨idStr, h⟩ := listGetStr_call h
  obtain ⟨funcStr, h⟩ := listGetStr_call h
  split at h
  · exact nomatch h
  · refine callFirst_targets (List.subset_append_left _ _) h fun h => ?_
    split_ifs at h with h2 h3 h4
    · exact hway (fun e he => by simp [he]) h
    · exact hway (fun e he => by simp [he]) h
    · exact hway (fun e he => by simp [he]) h
    · exact postTraffic_call h

/-- **What a request leads to**: an operation of the `GET` dispatcher, or one
of the `POST` dispatcher with a complete body. -/
theorem requestHandler_call {method : Method} {authHdr : Option CStr} {isComplete : Bool}
    (h : requestHandler nodes method url authHdr isComplete = .call func node) :
    (method = .get ∧ func ∈ getTargets) ∨ (method = .post ∧ isComplete = true ∧ func ∈ postTargets) := by
  cases method with
  | options | other => exact nomatch h
  | get =>
    refine .inl ⟨rfl, ?_⟩
    cases authHdr with
    | none => exact nomatch h
    | some auth =>
      unfold requestHandler wtcoreapiParseHttpGetCmd at h
      dsimp only at h
      split_ifs at h
      obtain ⟨api, h⟩ := listGetStr_call h
      split_ifs at h
      exact getNodes_call h
  | post =>
    cases isComplete with
    | false => exact nomatch h
    | true =>
      refine .inr ⟨rfl, rfl, ?_⟩
      unfold requestHandler wtcoreapiParseHttpPostCmd wtslCorePostUsersFunctions at h
      dsimp only at h
      split_ifs at h
      exact postNodes_call h

end

/-! ### The writes of the operations -/

variable {env : CallEnv} {func : NodeFunc} {node : Node}

theorem forall_mem_bind {α β : Type*} {o : Option α} {f : α → Option β} {p : β → Prop} :
    (∀ b ∈ o.bind f, p b) ↔ ∀ a ∈ o, ∀ b ∈ f a, p b := by
  cases o with
  | none => simp
  | some a => simp

theorem strcpy_fits_iff {item : Option Item} {n : ℕ} :
    (writeItem env item strcpyBytes).length ≤ n ↔ ∀ i ∈ item, TextFits env n i := by
  rw [length_writeItem_le]
  simp only [length_strcpyBytes, TextFits, Nat.lt_iff_add_one_le]

theorem checked_fits (item : Option Item) (n : ℕ) :
    (writeItem env item (checkedBytes n)).length ≤ n :=
  length_writeItem_le.mpr fun _ _ s _ => length_checkedBytes_le n s

theorem cut_fits (item : Option Item) : (writeItem env item cutBytes).length ≤ 8192 := by
  refine length_writeItem_le.mpr fun _ _ s _ => ?_
  rw [length_cutBytes]
  omega

theorem cut_fits_iff {item : Option Item} {n : ℕ} :
    (writeItem env item cutBytes).length ≤ n ↔ 8192 ≤ n ∨ ∀ i ∈ item, TextFits env n i := by
  rw [length_writeItem_le]
  simp only [length_cutBytes, TextFits]
  constructor
  · intro h
    by_cases hn : 8192 ≤ n
    · exact .inl hn
    · refine .inr fun i hi s hs => ?_
      have := h i hi s hs
      omega
  · rintro (hn | h) i hi s hs
    · omega
    · have := h i hi s hs
      omega

/-- The answer to the rules of a `POST`. -/
theorem rules_fits_iff {answer : Json → Option Item} {body : CStr} :
    (writeItem env ((env.parse (cstr body)).bind answer) cutBytes).length ≤ body.length ↔
      8192 ≤ body.length ∨ ∀ root ∈ env.parse (cstr body), ∀ outcome ∈ answer root,
        TextFits env body.length outcome := by
  rw [cut_fits_iff, forall_mem_bind]

theorem showBss_fits_iff : (wtslCoreShowBss env node 8192).length ≤ 8192 ↔
    (node.id = 0 → ∀ scan ∈ showBss env, TextFits env 8192 scan) := by
  unfold wtslCoreShowBss
  split_ifs with h
  · simp [h, strcpy_fits_iff]
  · exact iff_of_true (length_checkedBytes_le 8192 _) fun h0 => absurd h0 h

theorem hwResources_fits : (wtslCoreGetHwResourcesUsage env).length ≤ 8192 := by
  unfold wtslCoreGetHwResourcesUsage
  cases env.hwResources with
  | none => simp
  | some s =>
    rw [Option.map_some, Option.getD_some, length_strcpyBytes, List.length_take]
    omega

/-- An operation of the `GET` dispatcher, with the static buffer. -/
theorem getCallback_fits_iff (hf : func ∈ getTargets) (data body : CStr) :
    (callbackWrites env func node data 8192).length ≤ 8192 ↔ CallFits env body func node := by
  cases func with
  | getAllNodesInfo | getNodeBasicinfo | getNodeAdvinfo | qosGetStatus | aclGetStatus =>
    exact iff_of_true (checked_fits _ _) trivial
  | aclGetRules | qosGetRules => exact iff_of_true (cut_fits _) trivial
  | getHwResourcesInfo => exact iff_of_true hwResources_fits trivial
  | getNodeConninfo =>
    show (writeItem env (env.nodes.bind (viewUsers env)) strcpyBytes).length ≤ 8192 ↔ _
    rw [strcpy_fits_iff, forall_mem_bind]
    rfl
  | startScan | showBssInfo => exact showBss_fits_iff
  | aclSetRules | qosSetRules => exact absurd hf (by decide)
  | _ => exact iff_of_true (Nat.zero_le _) trivial

/-- An operation of the `POST` dispatcher, with the body. -/
theorem postCallback_fits_iff (hf : func ∈ postTargets) (body : CStr) :
    (callbackWrites env func node body body.length).length ≤ body.length ↔
      CallFits env body func node := by
  cases func with
  | getAllNodesInfo | getNodeBasicinfo | getNodeAdvinfo | qosGetStatus | aclGetStatus | aclGetRules
  | qosGetRules | getHwResourcesInfo | getNodeConninfo | startScan | showBssInfo =>
    exact absurd hf (by decide)
  | aclSetRules | qosSetRules => exact rules_fits_iff
  | _ => exact iff_of_true (Nat.zero_le _) trivial

/-- **A response keeps to its buffer exactly under the condition.** The buffer
of a `POST` has one byte more than the body, and the callback that runs, if
one does, writes no more than `size` bytes if and only if its call fits. -/
theorem response_fits_iff (env : CallEnv) (ctx : UserContext) (r : HttpCall) :
    (r.requestData.isComplete = true →
        r.requestData.bufferCapacity = r.requestData.data.length + 1) ∧
      (ResponseFits env ctx r ↔ ResponseOk env ctx r) := by
  constructor
  · exact capacity_of_complete (sized_uploads _ (sized_init _))
  · refine forall_congr' fun func => forall_congr' fun node => forall_congr' fun hruns => ?_
    rcases requestHandler_call hruns.1 with ⟨hm, hf⟩ | ⟨hm, -, hf⟩
    · have hsize : r.size = 8192 := by rw [HttpCall.size, hm]
      rw [hsize]
      exact getCallback_fits_iff hf _ _
    · have hbuf : r.buffer env = r.requestData.data := by rw [HttpCall.buffer, hm]
      have hsize : r.size = r.requestData.data.length := by rw [HttpCall.size, hm]
      rw [hbuf, hsize]
      exact postCallback_fits_iff hf _

/-- The text of `{"success": true}`. -/
def successText : CStr := "\x7b\n\t\x22success\x22:\ttrue\n\x7d".toList

/-- A device whose only node is its own and whose commands succeed. -/
def quietDevice : CallEnv where
  parse s := if s = "\x7b\x7d".toList then some (.object []) else none
  print
    | .object [("success", .bool true)] => some successText
    | _ => none
  popen _ := some ⟨[], .exited 0⟩
  nodes := some NodeState.alone.list
  splink := NodeState.alone.splink
  extra _ := ⟨[], 0, 0, 0, 0⟩
  behind _ := []
  advInfo := ⟨0, 0, 0, 0, 0, 0, 0, 0, 0, [], 0, 0, 0, 0, 0, 0, 0, 0, [], 0, 0, []⟩
  qosEnabled := true
  snapshotCount := 0
  qosDevice := netBridgeName.toList
  aclEnabled := false
  ruleCount := 0
  aclDevice := netBridgeName.toList
  hwResources := none
  role := 0
  num := 0
  uid := 0
  recvBss := []

/-- An administrator. -/
def adminContext : UserContext := ⟨1, 0, 0, "t".toList, .admin⟩

/-- `POST .../qos/rules` with the body of an empty object. -/
def emptyRule : HttpCall :=
  ⟨.post, "/api/v1/nodes/0/qos/rules".toList, some "t".toList, 2, ["\x7b\x7d".toList]⟩

/-- The answer to a request of two bytes is 21 bytes, in an array of three. -/
theorem response_overflow :
    emptyRule.requestData.bufferCapacity = 3 ∧ emptyRule.size = 2 ∧
      (∃ node, emptyRule.Runs quietDevice adminContext .qosSetRules node ∧
        (callbackWrites quietDevice .qosSetRules node (emptyRule.buffer quietDevice)
          emptyRule.size).length = 21) ∧
      ¬ ResponseFits quietDevice adminContext emptyRule := by
  have hruns : emptyRule.Runs quietDevice adminContext .qosSetRules
      (NodeState.alone.list.head (by decide)) := ⟨by decide, by decide⟩
  have hlen : (callbackWrites quietDevice .qosSetRules (NodeState.alone.list.head (by decide))
      (emptyRule.buffer quietDevice) emptyRule.size).length = 21 := by
    rfl
  refine ⟨rfl, rfl, ⟨_, hruns, hlen⟩, fun h => ?_⟩
  have hle := h _ _ hruns
  rw [hlen] at hle
  exact absurd hle (by decide)

end WtslCore
