/-
# The calls of one POST request

The HTTP library calls `request_handler` once to begin with, once for every
part of the body and once with nothing to end with; it stops at a refusal and
when a response is queued. The first call allocates the request's data, the
parts are collected, and the last call hands the body to the operation if it
is complete. Complete it is when as many bytes came in as the Content-Length
header announces, if it announces any: a request without the header, with an
empty body or with a body that is too short ends with success and no response
(`one_response_iff`).

Memory may run out, and the operation a body is handed to may not return;
both are parameters.

Key definitions: `Chunk`, `HttpPost`, `PostEnv`, `handlerCall`, `serve`,
`OneResponse`, `PostServed`.
Key theorems: `serve_uploads`, `one_response_iff`.
-/
import WtslCore.Dataparser.FirmwareHeader
import WtslCore.Http.ResponseBuffer

namespace WtslCore

/-- A part of a body; the library delivers no empty one. -/
abbrev Chunk := { c : CStr // c ≠ [] }

/-- A `POST` request: its headers and the parts in which its body comes in. -/
structure HttpPost where
  url : CStr
  authHdr : Option CStr
  contentLength : Option CStr
  uploads : List Chunk

/-- The body. -/
def bodyOf (uploads : List Chunk) : CStr := (uploads.map Subtype.val).flatten

/-- What the calls meet: whether the two blocks of a request are allocated, to
which sizes the second one can grow, the list of nodes, and whether the
operation a body is handed to returns. -/
structure PostEnv where
  malloc : Bool
  mallocData : Bool
  realloc : ℕ → Bool
  nodes : Option (List Node)
  returns : CStr → Bool

/-- `enum MHD_Result`. -/
inductive MhdResult
  | yes
  | no
  deriving DecidableEq, Repr

/-- What has become of a request: its data, the responses queued and the
bodies processed so far. -/
structure PostState where
  conCls : Option RequestData
  queued : ℕ
  processed : List CStr

/-- Before the first call. -/
def PostState.start : PostState := ⟨none, 0, []⟩

/-- `expected_size` of a request. -/
def HttpPost.expectedSize (r : HttpPost) : ℕ :=
  match r.contentLength with
  | some contentLength => sizeT (atoi contentLength)
  | none => 0

/-- The data of a request as `init_request_data` leaves it; the capacity is a
`size_t`. -/
def HttpPost.initData (r : HttpPost) : RequestData :=
  { initRequestData r.expectedSize with
    bufferCapacity := (initRequestData r.expectedSize).bufferCapacity % 4294967296 }

/-- The body is handed to an operation that needs no `Authorization`, or the header is there. -/
def HttpPost.authorized (r : HttpPost) : Bool := r.authHdr.isSome || noAuthUrls.contains (r.url.drop 7)

section

variable (env : PostEnv) (r : HttpPost)

/-- `init_request_data`. -/
def HttpPost.init : Option RequestData :=
  if env.malloc = false then none
  else if env.mallocData = false then none
  else some r.initData

/-- A part of the body. If the array cannot grow, its pointer is overwritten
with NULL and the part is copied there. -/
def receive (rd : RequestData) (uploadData : CStr) : Option RequestData :=
  let newCap := rd.data.length + uploadData.length + 1
  if rd.bufferCapacity < newCap ∧ env.realloc newCap = false then none
  else some (rd.upload uploadData)

/-- `wtsl_core_http_deal_post_data` comes to its response. -/
def wtslCoreHttpDealPostData (body : CStr) : Bool :=
  match wtcoreapiParseHttpPostCmd env.nodes r.url with
  | .fault => false
  | .call _ _ | .user _ => env.returns body
  | .error | .stale | .noRoute => true

/-- The last call: `none` if it goes wrong. -/
def lastCall (rd : RequestData) (st : PostState) : Option (MhdResult × PostState) :=
  if rd.isComplete = false then some (.yes, st)
  -- `url + 7` is printed, whatever the length of the URL
  else if r.url.length < 7 then none
  else if r.authorized = false then some (.no, st)
  else if wtslCoreHttpDealPostData env r rd.data = false then none
  else some (.yes, { st with queued := st.queued + 1, processed := st.processed ++ [rd.data] })

/-- `request_handler` of a `POST`, with `upload_data`; `none` if it goes wrong. -/
def handlerCall (uploadData : CStr) (st : PostState) : Option (MhdResult × PostState) :=
  match st.conCls with
  | none =>
    match r.init env with
    | none => some (.yes, { st with queued := st.queued + 1 })
    | some rd => some (.yes, { st with conCls := some rd })
  | some rd =>
    if uploadData ≠ [] then
      (receive env rd uploadData).map fun rd => (.yes, { st with conCls := some rd })
    else lastCall env r rd st

/-- The calls of the library: no more of them after a refusal or a response. -/
def serve : List CStr → PostState → Option (MhdResult × PostState)
  | [], st => some (.yes, st)
  | uploadData :: calls, st =>
    (handlerCall env r uploadData st).bind fun x =>
      if x.1 = .no ∨ 0 < x.2.queued then some x else serve calls x.2

/-- The first call, one for each part of the body, the last call. -/
def HttpPost.calls : List CStr := [] :: (r.uploads.map Subtype.val ++ [[]])

/-- The calls end with one response queued, or with a refusal and none; the
body is processed once at most, and as a whole. -/
def OneResponse : Prop :=
  ∃ result st, serve env r r.calls .start = some (result, st) ∧
    ((result = .yes ∧ st.queued = 1) ∨ (result = .no ∧ st.queued = 0)) ∧
      (st.processed = [] ∨ st.processed = [bodyOf r.uploads])

/-- The array can grow to every size that the parts ask for which come after
those it holds. -/
def Grows (held parts : List Chunk) : Prop :=
  ∀ p, p ≠ [] → p <+: parts → r.initData.bufferCapacity < (bodyOf (held ++ p)).length + 1 →
    env.realloc ((bodyOf (held ++ p)).length + 1) = true

/-- The condition on a request: memory is out at once, or the header announces
a body that is not empty and comes in, for which there is memory, and the
request is refused or its operation returns. -/
def PostServed : Prop :=
  r.init env = none ∨
    (0 < r.expectedSize ∧ r.expectedSize ≤ (bodyOf r.uploads).length ∧
      Grows env r [] r.uploads ∧
      7 ≤ r.url.length ∧
        (r.authorized = false ∨ wtslCoreHttpDealPostData env r (bodyOf r.uploads) = true))

variable {env r}

/-! ### The parts of the body -/

theorem bodyOf_snoc (parts : List Chunk) (c : Chunk) : bodyOf (parts ++ [c]) = bodyOf parts ++ c.1 := by
  simp [bodyOf]

/-- The data after the parts `parts`: the array has its first length, or it
was grown to the body with its terminator. -/
structure Received (r : HttpPost) (parts : List Chunk) (rd : RequestData) : Prop where
  expectedSize : rd.expectedSize = r.expectedSize
  data : rd.data = bodyOf parts
  isComplete : rd.isComplete =
    decide (0 < r.expectedSize ∧ r.expectedSize ≤ (bodyOf parts).length)
  capacity : rd.bufferCapacity = r.initData.bufferCapacity ∨
    (rd.bufferCapacity = (bodyOf parts).length + 1 ∧
      r.initData.bufferCapacity ≤ (bodyOf parts).length + 1)

theorem received_init : Received r [] r.initData where
  expectedSize := rfl
  data := rfl
  isComplete := by
    refine (decide_eq_false ?_).symm
    rintro ⟨hpos, hle⟩
    have hnil : (bodyOf []).length = 0 := rfl
    omega
  capacity := .inl rfl

/-- A part makes the array grow exactly if the body outgrows its first length. -/
theorem Received.grow_iff {parts : List Chunk} {rd : RequestData} (h : Received r parts rd) (c : Chunk) :
    rd.bufferCapacity < rd.data.length + c.1.length + 1 ↔
      r.initData.bufferCapacity < (bodyOf (parts ++ [c])).length + 1 := by
  have hc : 0 < c.1.length := List.length_pos_iff.mpr c.2
  rw [h.data, bodyOf_snoc, List.length_append]
  rcases h.capacity with hcap | ⟨hcap, hle⟩
  · rw [hcap]
  · rw [hcap]
    omega

theorem Received.upload {parts : List Chunk} {rd : RequestData} (h : Received r parts rd) (c : Chunk) :
    Received r (parts ++ [c]) (rd.upload c.1) where
  expectedSize := h.expectedSize
  data := by
    rw [bodyOf_snoc, ← h.data]
    rfl
  isComplete := by
    show (rd.isComplete || (0 < rd.expectedSize && rd.expectedSize ≤ rd.data.length + c.1.length)) = _
    rw [h.isComplete, h.expectedSize, h.data, bodyOf_snoc, List.length_append, Bool.eq_iff_iff]
    simp only [Bool.or_eq_true, Bool.and_eq_true, decide_eq_true_eq]
    omega
  capacity := by
    have hgrow := h.grow_iff c
    show (if rd.bufferCapacity < rd.data.length + c.1.length + 1 then _ else _) = _ ∨ _
    by_cases hlt : rd.bufferCapacity < rd.data.length + c.1.length + 1
    · rw [if_pos hlt]
      refine .inr ⟨?_, ?_⟩
      · show (if rd.bufferCapacity < rd.data.length + c.1.length + 1 then _ else _) = _
        rw [if_pos hlt, bodyOf_snoc, List.length_append, h.data]
      · have := hgrow.mp hlt
        omega
    · rw [if_neg hlt]
      rcases h.capacity with hcap | ⟨hcap, -⟩
      · exact .inl hcap
      · have hc : 0 < c.1.length := List.length_pos_iff.mpr c.2
        rw [hcap, h.data] at hlt
        omega

theorem grows_cons {held rest : List Chunk} {c : Chunk} : Grows env r held (c :: rest) ↔
    (r.initData.bufferCapacity < (bodyOf (held ++ [c])).length + 1 →
      env.realloc ((bodyOf (held ++ [c])).length + 1) = true) ∧ Grows env r (held ++ [c]) rest := by
  constructor
  · intro h
    refine ⟨h [c] (List.cons_ne_nil c []) ?_, fun p hp hpre => ?_⟩
    · rw [List.cons_prefix_cons]
      exact ⟨rfl, List.nil_prefix⟩
    · have := h (c :: p) (List.cons_ne_nil c p) (List.cons_prefix_cons.mpr ⟨rfl, hpre⟩)
      rwa [List.append_assoc, List.singleton_append]
  · rintro ⟨hc, hrest⟩ p hp hpre
    cases p with
    | nil => exact absurd rfl hp
    | cons c' p =>
      obtain ⟨rfl, hpre'⟩ := List.cons_prefix_cons.mp hpre
      cases p with
      | nil => exact hc
      | cons d p =>
        have := hrest (d :: p) (List.cons_ne_nil d p) hpre'
        rwa [List.append_assoc, List.singleton_append] at this

/-- One part: the array grows, or the call goes wrong. -/
theorem receive_eq {held : List Chunk} {rd : RequestData} (h : Received r held rd) (c : Chunk) :
    receive env rd c.1 =
      if r.initData.bufferCapacity < (bodyOf (held ++ [c])).length + 1 ∧
          env.realloc ((bodyOf (held ++ [c])).length + 1) = false then none
      else some (rd.upload c.1) := by
  have hlen : rd.data.length + c.1.length + 1 = (bodyOf (held ++ [c])).length + 1 := by
    rw [h.data, bodyOf_snoc, List.length_append]
  show (if rd.bufferCapacity < rd.data.length + c.1.length + 1 ∧ _ then _ else _) = _
  refine if_congr (and_congr (h.grow_iff c) ?_) rfl rfl
  rw [hlen]

/-- The last call ends the calls. -/
theorem serve_last {rd : RequestData} : serve env r [[]] ⟨some rd, 0, []⟩ =
    lastCall env r rd ⟨some rd, 0, []⟩ := by
  show (lastCall env r rd ⟨some rd, 0, []⟩).bind _ = _
  unfold lastCall
  split_ifs <;> rfl

/-- **The calls for the parts of a body**: they all go well and the last call
follows, or one of them goes wrong. -/
theorem serve_uploads : ∀ (rest : List Chunk) {held : List Chunk} {rd : RequestData},
    Received r held rd →
      (Grows env r held rest → ∃ rd', Received r (held ++ rest) rd' ∧
        serve env r (rest.map Subtype.val ++ [[]]) ⟨some rd, 0, []⟩ =
          lastCall env r rd' ⟨some rd', 0, []⟩) ∧
      (¬ Grows env r held rest →
        serve env r (rest.map Subtype.val ++ [[]]) ⟨some rd, 0, []⟩ = none)
  | [], held, rd, h => by
    refine ⟨fun _ => ⟨rd, by rwa [List.append_nil], serve_last⟩, fun hg => ?_⟩
    exact absurd (fun p hp hpre => absurd (List.prefix_nil.mp hpre) hp) hg
  | c :: rest, held, rd, h => by
    have hcall : serve env r ((c :: rest).map Subtype.val ++ [[]]) ⟨some rd, 0, []⟩ =
        (receive env rd c.1).bind fun rd' =>
          serve env r (rest.map Subtype.val ++ [[]]) ⟨some rd', 0, []⟩ := by
      show (if c.1 ≠ [] then _ else _ : Option (MhdResult × PostState)).bind _ = _
      rw [if_pos c.2]
      cases receive env rd c.1 with
      | none => rfl
      | some rd' => rfl
    rw [hcall, receive_eq h c, grows_cons]
    by_cases hc : r.initData.bufferCapacity < (bodyOf (held ++ [c])).length + 1 ∧
        env.realloc ((bodyOf (held ++ [c])).length + 1) = false
    · rw [if_pos hc]
      refine ⟨fun hg => ?_, fun _ => rfl⟩
      have := hg.1 hc.1
      rw [hc.2] at this
      exact nomatch this
    · rw [if_neg hc]
      have hgrow : r.initData.bufferCapacity < (bodyOf (held ++ [c])).length + 1 →
          env.realloc ((bodyOf (held ++ [c])).length + 1) = true := by
        intro hlt
        simpa [hlt] using hc
      obtain ⟨h1, h2⟩ := serve_uploads rest (h.upload c)
      refine ⟨fun hg => ?_, fun hg => h2 fun hrest => hg ⟨hgrow, hrest⟩⟩
      have := h1 hg.2
      rwa [List.append_assoc, List.singleton_append] at this

/-! ### The whole request -/

/-- With memory for the request's data, the calls are those for the parts. -/
theorem serve_calls (h : r.init env = some r.initData) :
    serve env r r.calls .start = serve env r (r.uploads.map Subtype.val ++ [[]]) ⟨some r.initData, 0, []⟩ := by
  show (handlerCall env r [] .start).bind _ = _
  unfold handlerCall
  simp only [PostState.start, h]
  rfl

/-- Without, the first call queues the response of an error. -/
theorem serve_no_memory (h : r.init env = none) :
    serve env r r.calls .start = some (.yes, ⟨none, 1, []⟩) := by
  show (handlerCall env r [] .start).bind _ = _
  unfold handlerCall
  simp only [PostState.start, h]
  rfl

/-- What the last call comes to. -/
theorem lastCall_ok_iff {rd : RequestData} (h : Received r r.uploads rd) :
    (∃ result st, lastCall env r rd ⟨some rd, 0, []⟩ = some (result, st) ∧
      ((result = .yes ∧ st.queued = 1) ∨ (result = .no ∧ st.queued = 0)) ∧
        (st.processed = [] ∨ st.processed = [bodyOf r.uploads])) ↔
      0 < r.expectedSize ∧ r.expectedSize ≤ (bodyOf r.uploads).length ∧ 7 ≤ r.url.length ∧
        (r.authorized = false ∨ wtslCoreHttpDealPostData env r (bodyOf r.uploads) = true) := by
  unfold lastCall
  rw [h.isComplete, h.data]
  by_cases hc : 0 < r.expectedSize ∧ r.expectedSize ≤ (bodyOf r.uploads).length
  · rw [if_neg (by simp [hc])]
    simp only [hc.1, hc.2, true_and]
    by_cases hurl : r.url.length < 7
    · rw [if_pos hurl]
      refine iff_of_false ?_ fun hall => absurd hall.1 (by omega)
      rintro ⟨result, st, hst, -⟩
      exact nomatch hst
    · rw [if_neg hurl]
      by_cases hauth : r.authorized = false
      · rw [if_pos hauth]
        exact iff_of_true ⟨_, _, rfl, .inr ⟨rfl, rfl⟩, .inl rfl⟩ ⟨by omega, .inl hauth⟩
      · rw [if_neg hauth]
        by_cases hdeal : wtslCoreHttpDealPostData env r (bodyOf r.uploads) = false
        · rw [if_pos hdeal]
          refine iff_of_false ?_ fun hall => ?_
          · rintro ⟨result, st, hst, -⟩
            exact nomatch hst
          · have := hall.2.resolve_left hauth
            rw [hdeal] at this
            exact nomatch this
        · rw [if_neg hdeal]
          refine iff_of_true ⟨_, _, rfl, .inl ⟨rfl, rfl⟩, .inr rfl⟩ ⟨by omega, .inr ?_⟩
          exact (Bool.not_eq_false _).mp hdeal
  · rw [if_pos (by simpa using hc)]
    refine iff_of_false ?_ fun hall => hc ⟨hall.1, hall.2.1⟩
    rintro ⟨result, st, hst, hres, -⟩
    obtain ⟨rfl, rfl⟩ := Prod.mk.inj (Option.some.inj hst)
    simp at hres

/-- **One response per request, exactly under the condition.** -/
theorem one_response_iff (env : PostEnv) (r : HttpPost) : OneResponse env r ↔ PostServed env r := by
  cases hinit : r.init env with
  | none =>
    refine iff_of_true ?_ (.inl hinit)
    exact ⟨.yes, ⟨none, 1, []⟩, serve_no_memory hinit, .inl ⟨rfl, rfl⟩, .inl rfl⟩
  | some rd =>
    obtain rfl : r.initData = rd := by
      unfold HttpPost.init at hinit
      split_ifs at hinit
      exact Option.some.inj hinit
    have hne : r.init env ≠ none := by rw [hinit]; exact Option.some_ne_none _
    unfold OneResponse PostServed
    rw [serve_calls hinit, or_iff_right hne]
    obtain ⟨hgrows, hfails⟩ := @serve_uploads env r r.uploads _ _ received_init
    by_cases hg : Grows env r [] r.uploads
    · obtain ⟨rd', hrd', hserve⟩ := hgrows hg
      rw [hserve, lastCall_ok_iff hrd']
      simp only [hg, true_and]
    · rw [hfails hg]
      refine iff_of_false ?_ fun hall => hg hall.2.2.1
      rintro ⟨result, st, hst, -⟩
      exact nomatch hst

end

/-- There is memory, and every operation returns. -/
def calmEnv : PostEnv := ⟨true, true, fun _ => true, some NodeState.alone.list, fun _ => true⟩

/-- A login whose body comes in as one part of a chunked transfer. -/
def chunkedLogin : HttpPost :=
  ⟨"/api/v1/user/login".toList, none, none, [⟨"\x7b\x7d".toList, by decide⟩]⟩

/-- Without the header the body is read and never processed: the last call
succeeds, and no response is queued. -/
theorem chunked_unanswered :
    serve calmEnv chunkedLogin chunkedLogin.calls .start =
      some (.yes, ⟨some (chunkedLogin.initData.upload "\x7b\x7d".toList), 0, []⟩) ∧
    ¬ OneResponse calmEnv chunkedLogin := by
  have hserve : serve calmEnv chunkedLogin chunkedLogin.calls .start =
      some (.yes, ⟨some (chunkedLogin.initData.upload "\x7b\x7d".toList), 0, []⟩) := rfl
  refine ⟨hserve, ?_⟩
  rintro ⟨result, st, hst, hres, -⟩
  rw [hserve] at hst
  obtain ⟨rfl, rfl⟩ := Prod.mk.inj (Option.some.inj hst)
  simp at hres

end WtslCore
