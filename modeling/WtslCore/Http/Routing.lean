/-
# Which requests are routed safely

A request is routed safely when nothing missing is read and no success is
answered without an operation (`Routed.Safe`). The URLs for which the
dispatchers fail are described exactly: `GetGap` for the node operations under
`GET` (no node 0 for the list of all nodes, four segments, a sub-operation of
`qos` or `acl` that is none), `PostGap` under `POST` (`firmware`, `qos` or
`acl` without a sub-operation), and every `POST` shorter than the seven
characters the handler skips. `requestHandler_safe_iff` puts them together.

Key definitions: `Routed.Safe`, `GetGap`, `PostGap`, `RouteOk`.
Key theorems: `getNodes_cases`, `getNodes_safe_iff`, `postNodes_safe_iff`,
`requestHandler_safe_iff`.
-/
import WtslCore.Http.RestfulApi
import WtslCore.Node.Service

namespace WtslCore

/-- Nothing missing is read, and what is not supported is answered as an error. -/
def Routed.Safe (r : Routed) : Prop := r ≠ .fault ∧ r ≠ .stale

instance (r : Routed) : Decidable r.Safe := inferInstanceAs (Decidable (_ ∧ _))

/-- The gaps in the dispatch of `GET` on nodes. -/
def GetGap (nodes : Option (List Node)) (urlList : List CStr) : Prop :=
  (urlList.length = 3 ∧ findNode nodes 0 = none) ∨ urlList.length = 4 ∨
    ∃ idStr funcStr funcWayStr node, urlList[3]? = some idStr ∧ urlList[4]? = some funcStr ∧
      urlList[5]? = some funcWayStr ∧ findNode nodes (atoi idStr) = some node ∧
      ((isQos funcStr = true ∧ getQosWays.find? (·.matches funcWayStr) = none) ∨
        (isQos funcStr = false ∧ isAcl funcStr = true ∧
          getAclWays.find? (·.matches funcWayStr) = none))

/-- The gaps in the dispatch of `POST` on nodes. -/
def PostGap (nodes : Option (List Node)) (urlList : List CStr) : Prop :=
  urlList.length = 5 ∧ ∃ idStr funcStr node, urlList[3]? = some idStr ∧ urlList[4]? = some funcStr ∧
    findNode nodes (atoi idStr) = some node ∧
    (isFirmware funcStr = true ∨ isQos funcStr = true ∨ isAcl funcStr = true)

/-- The condition on a request and the list of nodes. -/
def RouteOk (nodes : Option (List Node)) (method : Method) (url : CStr) (authHdr : Option CStr)
    (isComplete : Bool) : Prop :=
  match method with
  | .options | .other => True
  | .get => authHdr = none ∨ ¬ (isNodesUrl url = true ∧
      (strtok '/' url)[2]? = some "nodes".toList ∧ GetGap nodes (strtok '/' url))
  | .post => isComplete = false ∨ (7 ≤ url.length ∧
      (authHdr = none ∨ ¬ (isNodesUrl url = true ∧ PostGap nodes (strtok '/' url))))

variable {nodes : Option (List Node)} {urlList : List CStr}

@[simp] theorem Routed.safe_error : Routed.error.Safe := by decide

@[simp] theorem Routed.safe_noRoute : Routed.noRoute.Safe := by decide

@[simp] theorem Routed.not_safe_fault : ¬ Routed.fault.Safe := by decide

@[simp] theorem Routed.not_safe_stale : ¬ Routed.stale.Safe := by decide

@[simp] theorem Routed.safe_call (func : NodeFunc) (node : Node) : (Routed.call func node).Safe := by
  simp [Routed.Safe]

@[simp] theorem Routed.safe_user (route : Option UserRoute) : (Routed.user route).Safe := by
  simp [Routed.Safe]

/-! ### The tables -/

/-- Only what comes after a chain can fail. -/
theorem callFirst_safe_iff {entries : List FuncEntry} {s : CStr} {node : Node} {r : Routed} :
    (callFirst entries s node r).Safe ↔ (entries.find? (·.matches s) = none → r.Safe) := by
  unfold callFirst
  split <;> simp_all

theorem listGetStr_of_some {i : ℕ} {s : CStr} (h : urlList[i]? = some s) (k : CStr → Routed) :
    listGetStr urlList i k = k s := by
  simp [listGetStr, h]

/-- Names compared over at least `n` characters agree on `n` characters. -/
theorem take_eq_of_matches {e : FuncEntry} {s : CStr} {n : ℕ} (h : e.matches s = true)
    (hn : ∀ m, e.len = some m → n ≤ m) : s.take n = e.name.take n := by
  unfold FuncEntry.matches at h
  cases hl : e.len with
  | none =>
    rw [hl] at h
    rw [beq_iff_eq.mp h]
  | some m =>
    rw [hl] at h
    have htake : s.take m = e.name.take m := by simpa [strncmpEq] using h
    have := congrArg (List.take n) htake
    rwa [List.take_take, List.take_take, Nat.min_eq_left (hn m hl)] at this

/-- None of the plain `POST` operations starts like one with a sub-operation. -/
theorem postFuncs_find?_of_prefix {s : CStr}
    (h : s.take 3 = "fir".toList ∨ s.take 3 = "qos".toList ∨ s.take 3 = "acl".toList) :
    postFuncs.find? (·.matches s) = none := by
  have hnames : ∀ e ∈ postFuncs, e.name.take 3 ≠ "fir".toList ∧ e.name.take 3 ≠ "qos".toList ∧
      e.name.take 3 ≠ "acl".toList := by decide
  have hlen : ∀ e ∈ postFuncs, ∀ m, e.len = some m → 3 ≤ m := by
    have : ∀ e ∈ postFuncs, 3 ≤ e.len.getD 3 := by decide
    intro e he m hm
    simpa [hm] using this e he
  rw [List.find?_eq_none]
  intro e he hm
  have ht := take_eq_of_matches hm (hlen e he)
  obtain ⟨h1, h2, h3⟩ := hnames e he
  rcases h with h | h | h
  · exact h1 (ht ▸ h)
  · exact h2 (ht ▸ h)
  · exact h3 (ht ▸ h)

theorem take_three_of_strncmpEq {n : ℕ} {s name : CStr} (hn : 3 ≤ n) (h : strncmpEq n s name = true) :
    s.take 3 = name.take 3 :=
  take_eq_of_matches (e := ⟨name, some n, .getAllNodesInfo⟩) h (by simpa using hn)

/-- A prefix of "nodes" that starts with it. -/
theorem nodes_of_prefix {s : CStr} (h1 : isApiName s "nodes".toList = true)
    (h2 : isNodes s = true) : s = "nodes".toList := by
  have h1 : s = "nodes".toList.take s.length := by simpa [isApiName, strncmpEq] using h1
  have h2 : s.take 5 = "nodes".toList := by simpa [isNodes, strncmpEq] using h2
  have hlen : 5 ≤ s.length := by
    have := congrArg List.length h2
    simp at this
    omega
  rw [h1, List.take_of_length_le (by simpa using hlen)]

/-! ### The dispatchers of node operations -/

/-- What a path of the node API is dispatched to, by its number of segments. -/
theorem getNodes_cases (nodes : Option (List Node)) (h2 : urlList[2]? = some "nodes".toList) :
    (urlList.length = 3 ∧ wtslCoreGetNodesFunctions nodes urlList =
      match findNode nodes 0 with
      | none => .fault
      | some node => .call .getAllNodesInfo node) ∨
    (urlList.length = 4 ∧ wtslCoreGetNodesFunctions nodes urlList = .stale) ∨
    (∃ idStr funcStr, urlList.length = 5 ∧ urlList[3]? = some idStr ∧ urlList[4]? = some funcStr ∧
      wtslCoreGetNodesFunctions nodes urlList =
        match findNode nodes (atoi idStr) with
        | none => .error
        | some node => callFirst getFuncs funcStr node .error) ∨
    ∃ idStr funcStr funcWayStr, 6 ≤ urlList.length ∧ urlList[3]? = some idStr ∧
      urlList[4]? = some funcStr ∧ urlList[5]? = some funcWayStr ∧
      wtslCoreGetNodesFunctions nodes urlList =
        match findNode nodes (atoi idStr) with
        | none => .error
        | some node =>
          if isQos funcStr then callFirst getQosWays funcWayStr node .stale
          else if isAcl funcStr then callFirst getAclWays funcWayStr node .stale
          else .error := by
  have hlen : 3 ≤ urlList.length := by
    have := (List.getElem?_eq_some_iff.mp h2).1
    omega
  have hsegment : ∀ i < urlList.length, ∃ s, urlList[i]? = some s :=
    fun i hi => ⟨urlList[i], List.getElem?_eq_getElem hi⟩
  unfold wtslCoreGetNodesFunctions
  rw [listGetStr_of_some h2, if_neg (by decide)]
  by_cases h3 : urlList.length ≤ 3
  · exact .inl ⟨by omega, if_pos h3⟩
  rw [if_neg h3]
  by_cases h4 : urlList.length = 4
  · rw [if_neg (by omega), if_neg (by omega)]
    exact .inr (.inl ⟨h4, rfl⟩)
  obtain ⟨idStr, hid⟩ := hsegment 3 (by omega)
  obtain ⟨funcStr, hfunc⟩ := hsegment 4 (by omega)
  simp only [listGetStr_of_some hid, listGetStr_of_some hfunc]
  by_cases h5 : urlList.length = 5
  · rw [if_pos h5]
    exact .inr (.inr (.inl ⟨idStr, funcStr, h5, hid, hfunc, rfl⟩))
  · obtain ⟨funcWayStr, hway⟩ := hsegment 5 (by omega)
    rw [if_neg h5, if_pos (by omega)]
    simp only [listGetStr_of_some hway]
    exact .inr (.inr (.inr ⟨idStr, funcStr, funcWayStr, by omega, hid, hfunc, hway, rfl⟩))

theorem getNodes_safe_iff (h2 : urlList[2]? = some "nodes".toList) :
    (wtslCoreGetNodesFunctions nodes urlList).Safe ↔ ¬ GetGap nodes urlList := by
  unfold GetGap
  rcases getNodes_cases nodes h2 with ⟨h3, heq⟩ | ⟨h4, heq⟩ | ⟨idStr, funcStr, h5, hid, hfunc, heq⟩ |
    ⟨idStr, funcStr, funcWayStr, h6, hid, hfunc, hway, heq⟩
  · rw [heq]
    cases hf : findNode nodes 0 with
    | none => simp [h3]
    | some node => simp [h3]
  · rw [heq]
    simp [h4]
  · rw [heq]
    cases findNode nodes (atoi idStr) with
    | none => simp [h5]
    | some node => simp [callFirst_safe_iff, h5]
  · rw [heq]
    simp only [hid, hfunc, hway, Option.some.injEq, show urlList.length ≠ 3 by omega,
      show urlList.length ≠ 4 by omega, false_and, false_or, exists_eq_left', exists_and_left]
    cases findNode nodes (atoi idStr) with
    | none => simp
    | some node =>
      simp only [Option.some.injEq, exists_eq_left']
      by_cases hq : isQos funcStr = true
      · rw [if_pos hq, callFirst_safe_iff]
        simp [hq]
      · by_cases ha : isAcl funcStr = true
        · rw [if_neg hq, if_pos ha, callFirst_safe_iff]
          simp [hq, ha]
        · rw [if_neg hq, if_neg ha]
          simp [hq, ha]

theorem postTraffic_safe : (postTraffic nodes urlList).Safe := by
  unfold postTraffic
  split
  · rename_i h6
    rw [listGetStr_of_some (List.getElem?_eq_getElem (by omega : 3 < urlList.length)),
      listGetStr_of_some (List.getElem?_eq_getElem (by omega : 5 < urlList.length))]
    split
    · simp
    · split <;> simp
  · simp

/-- A chain with a sub-operation is safe when segment 5 is there. -/
theorem subOperation_safe_iff {entries : List FuncEntry} {node : Node}
    (h5 : ¬ urlList.length < 5) :
    (if urlList.length < 5 then Routed.error
      else listGetStr urlList 5 fun way =>
        callFirst entries way node (postTraffic nodes urlList)).Safe ↔ urlList.length ≠ 5 := by
  rw [if_neg h5]
  by_cases he : urlList.length = 5
  · simp [listGetStr, he]
  · rw [listGetStr_of_some (List.getElem?_eq_getElem (by omega : 5 < urlList.length)),
      callFirst_safe_iff]
    exact iff_of_true (fun _ => postTraffic_safe) he

theorem postNodes_safe_iff :
    (wtslCorePostNodesFunctions nodes urlList).Safe ↔ ¬ PostGap nodes urlList := by
  unfold wtslCorePostNodesFunctions
  by_cases h5 : urlList.length < 5
  · rw [if_pos h5]
    simp only [Routed.safe_error, PostGap, true_iff, not_and]
    omega
  · rw [if_neg h5, listGetStr_of_some (List.getElem?_eq_getElem (by omega : 2 < urlList.length)),
      listGetStr_of_some (List.getElem?_eq_getElem (by omega : 3 < urlList.length)),
      listGetStr_of_some (List.getElem?_eq_getElem (by omega : 4 < urlList.length))]
    unfold PostGap
    simp only [List.getElem?_eq_getElem (by omega : 3 < urlList.length),
      List.getElem?_eq_getElem (by omega : 4 < urlList.length), Option.some.injEq,
      exists_eq_left', exists_and_left]
    cases findNode nodes (atoi urlList[3]) with
    | none => simp
    | some node =>
      simp only [Option.some.injEq, exists_eq_left', callFirst_safe_iff]
      by_cases hf : isFirmware urlList[4] = true
      · rw [if_pos hf, subOperation_safe_iff h5,
          postFuncs_find?_of_prefix (Or.inl (take_three_of_strncmpEq (by omega) hf))]
        simp [hf]
      · rw [if_neg hf]
        by_cases hq : isQos urlList[4] = true
        · rw [if_pos hq, subOperation_safe_iff h5,
            postFuncs_find?_of_prefix (Or.inr (Or.inl (take_three_of_strncmpEq (by omega) hq)))]
          simp [hq]
        · rw [if_neg hq]
          by_cases ha : isAcl urlList[4] = true
          · rw [if_pos ha, subOperation_safe_iff h5,
              postFuncs_find?_of_prefix (Or.inr (Or.inr (take_three_of_strncmpEq (by omega) ha)))]
            simp [ha]
          · rw [if_neg ha]
            simp [hf, hq, ha, postTraffic_safe]

/-! ### Every request -/

/-- Under `GET` only the API of nodes reaches a dispatcher. -/
theorem getCmd_cases (nodes : Option (List Node)) (url : CStr) :
    (isNodesUrl url = true ∧ (strtok '/' url)[2]? = some "nodes".toList ∧
        wtcoreapiParseHttpGetCmd nodes url = wtslCoreGetNodesFunctions nodes (strtok '/' url)) ∨
      (¬ (isNodesUrl url = true ∧ (strtok '/' url)[2]? = some "nodes".toList) ∧
        wtcoreapiParseHttpGetCmd nodes url = .error) := by
  unfold wtcoreapiParseHttpGetCmd
  by_cases h3 : (strtok '/' url).length < 3
  · have hnone : (strtok '/' url)[2]? = none := List.getElem?_eq_none (by omega)
    refine .inr ⟨fun h => ?_, if_pos h3⟩
    exact nomatch hnone.symm.trans h.2
  · have h2 : (strtok '/' url)[2]? = some (strtok '/' url)[2] := List.getElem?_eq_getElem (by omega)
    simp only [h3, ↓reduceIte]
    rw [listGetStr_of_some h2]
    by_cases hm : (isApiName (strtok '/' url)[2] "nodes".toList && isNodesUrl url) = true
    · obtain ⟨ha, hu⟩ := Bool.and_eq_true_iff.mp hm
      rw [if_pos hm]
      by_cases hn : isNodes (strtok '/' url)[2] = true
      · exact .inl ⟨hu, nodes_of_prefix ha hn ▸ h2, rfl⟩
      · -- a proper prefix of "nodes" is refused by the dispatcher
        refine .inr ⟨fun h => ?_, ?_⟩
        · have hname := Option.some.inj (h2.symm.trans h.2)
          exact hn (hname ▸ by decide)
        · unfold wtslCoreGetNodesFunctions
          rw [listGetStr_of_some h2, if_pos (by rw [Bool.not_eq_true] at hn; rw [hn]; rfl)]
    · rw [if_neg hm]
      refine .inr ⟨fun h => ?_, by split <;> rfl⟩
      have hname := Option.some.inj (h2.symm.trans h.2)
      rw [hname, h.1] at hm
      exact hm (by decide)

theorem getCmd_safe_iff {url : CStr} : (wtcoreapiParseHttpGetCmd nodes url).Safe ↔
    ¬ (isNodesUrl url = true ∧ (strtok '/' url)[2]? = some "nodes".toList ∧
      GetGap nodes (strtok '/' url)) := by
  rcases getCmd_cases nodes url with ⟨hu, h2, heq⟩ | ⟨hno, heq⟩
  · rw [heq, getNodes_safe_iff h2]
    simp only [hu, h2, true_and]
  · rw [heq]
    exact iff_of_true Routed.safe_error fun h => hno ⟨h.1, h.2.1⟩

/-- Without `Authorization` no node operation is reached under `POST`. -/
theorem not_nodesUrl_of_noAuth {url : CStr} (h : noAuthUrls.contains (url.drop 7) = true) :
    isNodesUrl url = false := by
  by_contra hc
  have hurl : url.take 13 = "/api/v1/nodes".toList := by
    rw [Bool.not_eq_false] at hc
    exact beq_iff_eq.mp hc
  have h6 : (url.drop 7).take 6 = "/nodes".toList := by
    rw [List.take_drop, hurl]
    rfl
  have hall : ∀ u ∈ noAuthUrls, u.take 6 ≠ "/nodes".toList := by decide
  exact hall _ (List.contains_iff_mem.mp h) h6

theorem postCmd_safe_iff {url : CStr} : (wtcoreapiParseHttpPostCmd nodes url).Safe ↔
    ¬ (isNodesUrl url = true ∧ PostGap nodes (strtok '/' url)) := by
  unfold wtcoreapiParseHttpPostCmd
  by_cases hu : isNodesUrl url = true
  · rw [if_pos hu, postNodes_safe_iff]
    simp [hu]
  · rw [if_neg hu]
    refine iff_of_true ?_ fun h => hu h.1
    split
    · simp [wtslCorePostUsersFunctions]
    · simp

/-- A request is routed safely exactly outside the gaps: for every list of
nodes, also none, and every URL. -/
theorem requestHandler_safe_iff (nodes : Option (List Node)) (method : Method) (url : CStr)
    (authHdr : Option CStr) (isComplete : Bool) :
    (requestHandler nodes method url authHdr isComplete).Safe ↔
      RouteOk nodes method url authHdr isComplete := by
  cases method with
  | options | other => simp [requestHandler, RouteOk]
  | get =>
    cases authHdr with
    | none => simp [requestHandler, RouteOk]
    | some auth => simp [requestHandler, RouteOk, getCmd_safe_iff]
  | post =>
    unfold requestHandler RouteOk
    cases isComplete with
    | false => simp
    | true =>
      by_cases h7 : url.length < 7
      · simp [h7]
      · simp only [h7, Bool.not_true, Bool.false_eq_true, ↓reduceIte,
          show 7 ≤ url.length by omega, true_and]
        cases authHdr with
        | some auth => simp [postCmd_safe_iff]
        | none =>
          cases hc : noAuthUrls.contains (url.drop 7) with
          | false => simp
          | true => simp [postCmd_safe_iff, not_nodesUrl_of_noAuth hc]

/-- `POST /api/v1/nodes/0/qos` to a device with its local node reads the sixth
of five segments. -/
theorem requestHandler_fault_qos :
    requestHandler (some NodeState.alone.list) .post "/api/v1/nodes/0/qos".toList (some "t".toList) true =
        .fault ∧
      ¬ (requestHandler (some NodeState.alone.list) .post "/api/v1/nodes/0/qos".toList
        (some "t".toList) true).Safe := by
  have h : requestHandler (some NodeState.alone.list) .post "/api/v1/nodes/0/qos".toList
      (some "t".toList) true = .fault := by decide
  exact ⟨h, by rw [h]; exact Routed.not_safe_fault⟩

end WtslCore
