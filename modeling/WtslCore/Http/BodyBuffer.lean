/-
# The buffer of a request's body

The body of a `POST` comes in parts, which `request_handler` copies one behind
the other into a block of memory: as long as the Content-Length header
announces and one byte more, or of 1024 bytes, and grown to an exact fit by a
part that is longer than what is left. The announced number is an `int` that
becomes a `size_t`, and the sums are sums of 32 bits. The block is modelled
byte for byte; a write outside of it, or through NULL, has no outcome.

A reallocation that fails sets an answer and goes on, and the part is copied to
NULL. So the parts are collected if and only if every reallocation succeeds
that is needed, the body ends below the last address, and the first block has a
byte at all, which it does not have for the length `-1`
(`bodyAccumulates_iff`). Up to there it is the data of the model without memory
(`uploadBuffer_refines`).

Key definitions: `RequestBuffer`, `initRequestBuffer`, `growBuffer`, `copyPart`,
`uploadBuffer`, `Accumulated`, `BodyRight`, `BodyFits`.
Key theorems: `growBuffer_some`, `copyPart_some`, `uploadBuffer_some`, `uploadBuffer_none`,
`bodyAccumulates_iff`.
-/
import WtslCore.Http.PostCalls
import WtslCore.Lib.Block

namespace WtslCore

/-! ### The functions -/

/-- What allocations meet: whether the two blocks of a request are there, and
what lies in memory that was not written. -/
structure BufferEnv where
  malloc : Bool
  mallocData : Bool
  fresh : ℕ → Char

/-- `struct request_data`; `data` is a block or NULL. -/
structure RequestBuffer where
  expectedSize : ℕ
  bufferCapacity : ℕ
  data : Option (List Char)
  dataSize : ℕ
  isComplete : Bool
  dataReceived : Bool
  responseStr : CStr
  responseValid : Bool

/-- `expected_size`. -/
def announcedSize (contentLength : Option CStr) : ℕ :=
  match contentLength with
  | some s => sizeT (atoi s)
  | none => 0

/-- The first `buffer_capacity`. -/
def firstCapacity (contentLength : Option CStr) : ℕ :=
  if 0 < announcedSize contentLength then (announcedSize contentLength + 1) % 4294967296 else 1024

/-- `init_request_data`: NULL without memory, no outcome for a write outside of it. -/
def initRequestBuffer (env : BufferEnv) (contentLength : Option CStr) : Option (Option RequestBuffer) :=
  if env.malloc = false then some none
  else if env.mallocData = false then some none
  else (writeBytes (freshBlock env.fresh (firstCapacity contentLength)) 0 [nul]).map fun data =>
    some ⟨announcedSize contentLength, firstCapacity contentLength, some data, 0, false, false, [], false⟩

/-- The block is grown if the part needs it. A reallocation that fails sets
the answer, and NULL is kept as the block. -/
def growBuffer (fresh : ℕ → Char) (rd : RequestBuffer) (newCap : ℕ) (realloc : Bool) : RequestBuffer :=
  if newCap ≤ rd.bufferCapacity then rd
  else if realloc = true then
    { rd with data := rd.data.map (resizeBlock fresh newCap), bufferCapacity := newCap }
  else
    { rd with data := none, bufferCapacity := newCap, isComplete := true, responseValid := true,
              responseStr := "\x7b\x22error\x22:\x22Buffer full\x22\x7d".toList }

/-- The part and a NUL are copied behind what is there. -/
def copyPart (rd : RequestBuffer) (uploadData : CStr) : Option RequestBuffer :=
  let dataSize := (rd.dataSize + uploadData.length) % 4294967296
  (rd.data.bind fun data => (writeBytes data rd.dataSize uploadData).bind fun data =>
    writeBytes data dataSize [nul]).map fun data =>
      { rd with
        data := some data
        dataSize := dataSize
        isComplete := rd.isComplete || (0 < rd.expectedSize && rd.expectedSize ≤ dataSize) }

/-- `request_handler` with a part of the body. -/
def uploadBuffer (fresh : ℕ → Char) (rd : RequestBuffer) (uploadData : CStr) (realloc : Bool) :
    Option RequestBuffer :=
  let newCap := (rd.dataSize + uploadData.length + 1) % 4294967296
  copyPart (growBuffer fresh { rd with dataReceived := true } newCap realloc) uploadData

/-! ### What should hold after a part -/

/-- **The parts are collected**: the block has the capacity's length, the body
and a NUL are in front of it, and its size is below the capacity. -/
structure Accumulated (rd : RequestBuffer) (body : CStr) : Prop where
  block : ∃ data, rd.data = some data ∧ data.length = rd.bufferCapacity ∧
    data.take (body.length + 1) = body ++ [nul]
  dataSize : rd.dataSize = body.length
  room : rd.dataSize < rd.bufferCapacity

/-- The part makes the block grow, and that fails. -/
def ReallocFails (rd : RequestBuffer) (c : CStr) (realloc : Bool) : Prop :=
  rd.bufferCapacity < (rd.dataSize + c.length + 1) % 4294967296 ∧ realloc = false

/-- The request is rejected, and nothing copied. -/
structure Rejected (rd rd' : RequestBuffer) : Prop where
  responseValid : rd'.responseValid = true
  data : rd'.data = rd.data
  dataSize : rd'.dataSize = rd.dataSize

/-- **After every part**, until a reallocation fails, the parts so far are
collected; if one fails, the request is rejected. A part comes with the outcome
of its reallocation. -/
def BodyRight (fresh : ℕ → Char) : RequestBuffer → CStr → List (Chunk × Bool) → Prop
  | _, _, [] => True
  | rd, body, (c, realloc) :: parts => ∃ rd', uploadBuffer fresh rd c.1 realloc = some rd' ∧
      (ReallocFails rd c.1 realloc → Rejected rd rd') ∧
      (¬ ReallocFails rd c.1 realloc →
        Accumulated rd' (body ++ c.1) ∧ BodyRight fresh rd' (body ++ c.1) parts)

/-- The body of a request is collected, from the first call on. -/
def BodyAccumulates (env : BufferEnv) (contentLength : Option CStr) (parts : List (Chunk × Bool)) :
    Prop :=
  ∃ init, initRequestBuffer env contentLength = some init ∧
    ∀ rd ∈ init, BodyRight env.fresh rd [] parts

/-- The condition on the parts: each ends below the last address, and the
reallocation of each that ends behind the first capacity succeeds. -/
def BodyFits (capacity : ℕ) : ℕ → List (Chunk × Bool) → Prop
  | _, [] => True
  | size, (c, realloc) :: parts =>
    size + c.1.length + 1 < 4294967296 ∧ (capacity < size + c.1.length + 1 → realloc = true) ∧
      BodyFits capacity (size + c.1.length) parts

/-! ### A part -/

section

variable {fresh : ℕ → Char} {rd : RequestBuffer} {body c : CStr} {realloc : Bool}

/-- The part and its NUL are written into a block with room for them. -/
theorem write_part {data : List Char} (hbody : data.take (body.length + 1) = body ++ [nul])
    (hroom : body.length + c.length < data.length) :
    ∃ data₁ data₂, writeBytes data body.length c = some data₁ ∧
      writeBytes data₁ (body.length + c.length) [nul] = some data₂ ∧ data₂.length = data.length ∧
      data₂.take ((body ++ c).length + 1) = (body ++ c) ++ [nul] := by
  have hfront : data.take body.length = body := by
    have htake := congrArg (List.take body.length) hbody
    rwa [List.take_take, List.take_left, Nat.min_eq_left (Nat.le_succ _)] at htake
  obtain ⟨data₁, h₁, hlen₁, htake₁⟩ := writeBytes_some (Nat.le_of_lt hroom)
  have hroom' : body.length + c.length + [nul].length ≤ data₁.length := by
    rw [hlen₁]
    exact hroom
  obtain ⟨data₂, h₂, hlen₂, htake₂⟩ := writeBytes_some hroom'
  refine ⟨data₁, data₂, h₁, h₂, hlen₂.trans hlen₁, ?_⟩
  rw [List.length_append]
  rw [htake₁, hfront] at htake₂
  exact htake₂

/-- In a block without room for a part and its NUL the one or the other is
written behind it. -/
theorem write_part_none {data : List Char} {off : ℕ} (hroom : data.length ≤ off + c.length)
    (hoff : data.length < 4294967296) :
    ((writeBytes data off c).bind fun data =>
      writeBytes data ((off + c.length) % 4294967296) [nul]) = none := by
  by_cases hfit : off + c.length ≤ data.length
  · obtain ⟨data₁, h₁, hlen₁, -⟩ := writeBytes_some hfit
    rw [h₁, Option.bind_some]
    apply writeBytes_none
    rw [List.length_singleton, Nat.mod_eq_of_lt (by omega)]
    omega
  · rw [writeBytes_none (Nat.lt_of_not_le hfit), Option.bind_none]

/-- A block that grows, or need not, keeps what was collected. -/
theorem growBuffer_some (fresh : ℕ → Char) {newCap : ℕ} (h : Accumulated rd body)
    (hgrow : rd.bufferCapacity < newCap → realloc = true) :
    Accumulated (growBuffer fresh rd newCap realloc) body ∧
      (growBuffer fresh rd newCap realloc).bufferCapacity = max rd.bufferCapacity newCap ∧
      (growBuffer fresh rd newCap realloc).expectedSize = rd.expectedSize ∧
      (growBuffer fresh rd newCap realloc).isComplete = rd.isComplete := by
  unfold growBuffer
  by_cases hfit : newCap ≤ rd.bufferCapacity
  · rw [if_pos hfit]
    exact ⟨h, (Nat.max_eq_left hfit).symm, rfl, rfl⟩
  · have hlt : rd.bufferCapacity < newCap := Nat.lt_of_not_le hfit
    obtain ⟨data, hdata, hlen, htake⟩ := h.block
    have hroom := h.room
    rw [h.dataSize] at hroom
    have htake' : (resizeBlock fresh newCap data).take (body.length + 1) = body ++ [nul] := by
      rw [resizeBlock, List.take_append_of_le_length, List.take_take, Nat.min_eq_left (by omega), htake]
      rw [List.length_take]
      omega
    rw [if_neg hfit, if_pos (hgrow hlt)]
    refine ⟨⟨⟨resizeBlock fresh newCap data, ?_, length_resizeBlock .., htake'⟩, h.dataSize, ?_⟩,
      (Nat.max_eq_right (Nat.le_of_lt hlt)).symm, rfl, rfl⟩
    · dsimp only
      rw [hdata, Option.map_some]
    · exact Nat.lt_trans h.room hlt

/-- A part is copied into a block with room for it. -/
theorem copyPart_some (h : Accumulated rd body) (hcap : rd.bufferCapacity < 4294967296)
    (hroom : body.length + c.length < rd.bufferCapacity) :
    ∃ rd', copyPart rd c = some rd' ∧ Accumulated rd' (body ++ c) ∧
      rd'.bufferCapacity = rd.bufferCapacity ∧ rd'.expectedSize = rd.expectedSize ∧
      rd'.isComplete = (rd.isComplete ||
        (0 < rd.expectedSize && rd.expectedSize ≤ body.length + c.length)) := by
  obtain ⟨data, hdata, hlen, htake⟩ := h.block
  have hmod : (body.length + c.length) % 4294967296 = body.length + c.length :=
    Nat.mod_eq_of_lt (Nat.lt_trans hroom hcap)
  have hbodylen : (body ++ c).length = body.length + c.length := List.length_append
  obtain ⟨data₁, data₂, h₁, h₂, hlen₂, htake₂⟩ := write_part (c := c) htake (by rwa [hlen])
  unfold copyPart
  dsimp only
  rw [hdata, h.dataSize, hmod, Option.bind_some, h₁, Option.bind_some, h₂, Option.map_some]
  exact ⟨_, rfl, ⟨⟨data₂, rfl, hlen₂.trans hlen, htake₂⟩, hbodylen.symm, hroom⟩, rfl, rfl, rfl⟩

/-- A part for which there is no room has no outcome. -/
theorem copyPart_none (h : Accumulated rd body) (hcap : rd.bufferCapacity < 4294967296)
    (hroom : rd.bufferCapacity ≤ body.length + c.length) : copyPart rd c = none := by
  obtain ⟨data, hdata, hlen, -⟩ := h.block
  unfold copyPart
  dsimp only
  rw [hdata, h.dataSize, Option.bind_some, write_part_none (by omega) (by omega)]
  rfl

/-- A part is copied as if its data had been noted before. -/
theorem Accumulated.received (h : Accumulated rd body) :
    Accumulated { rd with dataReceived := true } body := ⟨h.block, h.dataSize, h.room⟩

/-- **A part with room, or that gets it, is collected.** -/
theorem uploadBuffer_some (h : Accumulated rd body) (hcap : rd.bufferCapacity < 4294967296)
    (hsize : body.length + c.length + 1 < 4294967296)
    (hgrow : rd.bufferCapacity < body.length + c.length + 1 → realloc = true) :
    ∃ rd', uploadBuffer fresh rd c realloc = some rd' ∧ Accumulated rd' (body ++ c) ∧
      rd'.bufferCapacity = max rd.bufferCapacity (body.length + c.length + 1) ∧
      rd'.expectedSize = rd.expectedSize ∧
      rd'.isComplete = (rd.isComplete ||
        (0 < rd.expectedSize && rd.expectedSize ≤ body.length + c.length)) := by
  obtain ⟨hacc, hcap₁, hexp₁, hcomplete₁⟩ := growBuffer_some fresh h.received hgrow
  dsimp only at hcap₁ hexp₁ hcomplete₁
  obtain ⟨rd', hrd', hacc', hcap₂, hexp₂, hcomplete₂⟩ :=
    copyPart_some (c := c) hacc (by omega) (by omega)
  have hnewCap : (rd.dataSize + c.length + 1) % 4294967296 = body.length + c.length + 1 := by
    rw [h.dataSize, Nat.mod_eq_of_lt hsize]
  refine ⟨rd', ?_, hacc', hcap₂.trans hcap₁, hexp₂.trans hexp₁, ?_⟩
  · unfold uploadBuffer
    dsimp only
    rw [hnewCap]
    exact hrd'
  · rw [hcomplete₂, hexp₁, hcomplete₁]

/-- **Any other part has no outcome**: it is copied to NULL or behind the block. -/
theorem uploadBuffer_none (h : Accumulated rd body) (hcap : rd.bufferCapacity < 4294967296)
    (hnot : ¬ (body.length + c.length + 1 < 4294967296 ∧
      (rd.bufferCapacity < body.length + c.length + 1 → realloc = true))) :
    uploadBuffer fresh rd c realloc = none := by
  have hnewCap : (rd.dataSize + c.length + 1) % 4294967296 =
      (body.length + c.length + 1) % 4294967296 := by rw [h.dataSize]
  unfold uploadBuffer
  dsimp only
  rw [hnewCap]
  by_cases hgrow : rd.bufferCapacity < (body.length + c.length + 1) % 4294967296 → realloc = true
  · -- the sum wrapped around
    have hwrap : ¬ body.length + c.length + 1 < 4294967296 := by
      intro hlt
      rw [Nat.mod_eq_of_lt hlt] at hgrow
      exact hnot ⟨hlt, hgrow⟩
    obtain ⟨hacc, hcap₁, -, -⟩ := growBuffer_some fresh h.received hgrow
    dsimp only at hcap₁
    exact copyPart_none hacc (by omega) (by omega)
  · obtain ⟨hlt, hfalse⟩ := Classical.not_imp.mp hgrow
    unfold growBuffer
    rw [if_neg (Nat.not_le.mpr hlt), if_neg hfalse]
    rfl

/-! ### Refinement -/

/-- The buffer holds the data of the model without memory. -/
structure HoldsData (rd : RequestBuffer) (a : RequestData) : Prop where
  accumulated : Accumulated rd a.data
  expectedSize : rd.expectedSize = a.expectedSize
  bufferCapacity : rd.bufferCapacity = a.bufferCapacity
  isComplete : rd.isComplete = a.isComplete

/-- **A part below the last address does to the buffer what it does to the data.** -/
theorem uploadBuffer_refines {env : PostEnv} {a : RequestData} (h : HoldsData rd a)
    (hcap : rd.bufferCapacity < 4294967296) (hsize : a.data.length + c.length + 1 < 4294967296)
    (henv : env.realloc (a.data.length + c.length + 1) = realloc) :
    (uploadBuffer fresh rd c realloc = none ∧ receive env a c = none) ∨
      ∃ rd', uploadBuffer fresh rd c realloc = some rd' ∧ receive env a c = some (a.upload c) ∧
        HoldsData rd' (a.upload c) := by
  have hcapacity := h.bufferCapacity
  by_cases hgrow : a.bufferCapacity < a.data.length + c.length + 1 ∧ realloc = false
  · refine .inl ⟨uploadBuffer_none h.accumulated hcap fun hfits => ?_, ?_⟩
    · have htrue := hfits.2 (by rw [hcapacity]; exact hgrow.1)
      rw [hgrow.2] at htrue
      exact nomatch htrue
    · rw [receive, henv]
      exact if_pos hgrow
  · have hgrow' : rd.bufferCapacity < a.data.length + c.length + 1 → realloc = true := by
      intro hlt
      rw [hcapacity] at hlt
      by_contra hfalse
      exact hgrow ⟨hlt, (Bool.not_eq_true _).mp hfalse⟩
    obtain ⟨rd', hrd', hacc, hcap', hexp, hcomplete⟩ := uploadBuffer_some h.accumulated hcap hsize hgrow'
    refine .inr ⟨rd', hrd', ?_, hacc, hexp.trans h.expectedSize, ?_, ?_⟩
    · rw [receive, henv]
      exact if_neg hgrow
    · rw [hcap', hcapacity]
      dsimp only [RequestData.upload]
      split_ifs with hlt
      · exact Nat.max_eq_right (Nat.le_of_lt hlt)
      · exact Nat.max_eq_left (Nat.le_of_not_lt hlt)
    · rw [hcomplete, h.isComplete, h.expectedSize]
      rfl

/-! ### The parts -/

/-- The parts are collected if and only if they fit. -/
theorem bodyRight_iff {capacity : ℕ} {parts : List (Chunk × Bool)} (h : Accumulated rd body)
    (hcap : rd.bufferCapacity = max capacity (body.length + 1)) (hlt : rd.bufferCapacity < 4294967296) :
    BodyRight fresh rd body parts ↔ BodyFits capacity body.length parts := by
  induction parts generalizing rd body with
  | nil => exact Iff.rfl
  | cons part parts ih =>
    obtain ⟨c, realloc⟩ := part
    have hc : 0 < c.1.length := List.length_pos_iff.mpr c.2
    have hneeds : rd.bufferCapacity < body.length + c.1.length + 1 ↔
        capacity < body.length + c.1.length + 1 := by omega
    rw [BodyRight, BodyFits]
    by_cases hfits : body.length + c.1.length + 1 < 4294967296 ∧
        (capacity < body.length + c.1.length + 1 → realloc = true)
    · obtain ⟨rd', hrd', hacc, hcap', -, -⟩ := uploadBuffer_some h hlt hfits.1
        fun hlt => hfits.2 (hneeds.mp hlt)
      have hno : ¬ ReallocFails rd c.1 realloc := by
        rintro ⟨hlt, hfalse⟩
        rw [h.dataSize, Nat.mod_eq_of_lt hfits.1] at hlt
        have htrue := hfits.2 (hneeds.mp hlt)
        rw [hfalse] at htrue
        exact nomatch htrue
      have hlen : (body ++ c.1).length = body.length + c.1.length := List.length_append
      have hrest := ih hacc (by rw [hcap', hcap, hlen]; omega) (by rw [hcap']; omega)
      rw [hlen] at hrest
      rw [← and_assoc, and_iff_right hfits, ← hrest]
      constructor
      · rintro ⟨rd'', hrd'', -, hright⟩
        obtain rfl := Option.some.inj (hrd'.symm.trans hrd'')
        exact (hright hno).2
      · intro hright
        exact ⟨rd', hrd', fun hfails => absurd hfails hno, fun _ => ⟨hacc, hright⟩⟩
    · have hnone : uploadBuffer fresh rd c.1 realloc = none :=
        uploadBuffer_none h hlt fun hfits' => hfits ⟨hfits'.1, fun hlt => hfits'.2 (hneeds.mpr hlt)⟩
      rw [hnone]
      refine iff_of_false ?_ fun hbody => hfits ⟨hbody.1, hbody.2.1⟩
      rintro ⟨rd', hrd', -⟩
      exact nomatch hrd'

end

/-! ### The first call -/

theorem firstCapacity_lt (contentLength : Option CStr) : firstCapacity contentLength < 4294967296 := by
  unfold firstCapacity
  split_ifs
  · exact Nat.mod_lt _ (by omega)
  · omega

/-- The first block has no byte for the one length that is `SIZE_MAX`. -/
theorem firstCapacity_eq_zero (contentLength : Option CStr) :
    firstCapacity contentLength = 0 ↔ announcedSize contentLength = 4294967295 := by
  have hlt : announcedSize contentLength < 4294967296 := by
    unfold announcedSize sizeT
    cases contentLength with
    | none => exact Nat.succ_pos _
    | some s =>
      dsimp only
      omega
  unfold firstCapacity
  by_cases hpos : 0 < announcedSize contentLength
  · rw [if_pos hpos]
    omega
  · rw [if_neg hpos]
    omega

/-- With memory, and a byte of it, nothing has been collected yet. -/
theorem initRequestBuffer_some {env : BufferEnv} {contentLength : Option CStr}
    (hmalloc : env.malloc = true) (hdata : env.mallocData = true)
    (hcap : firstCapacity contentLength ≠ 0) :
    ∃ rd, initRequestBuffer env contentLength = some (some rd) ∧ Accumulated rd [] ∧
      rd.bufferCapacity = firstCapacity contentLength ∧
      rd.expectedSize = announcedSize contentLength ∧ rd.isComplete = false := by
  have hlen := length_freshBlock env.fresh (firstCapacity contentLength)
  have hroom : 0 + [nul].length ≤ (freshBlock env.fresh (firstCapacity contentLength)).length := by
    rw [hlen, List.length_singleton]
    omega
  obtain ⟨data, hwrite, hlen', htake⟩ := writeBytes_some hroom
  refine ⟨⟨announcedSize contentLength, firstCapacity contentLength, some data, 0, false, false, [],
    false⟩, ?_, ⟨⟨data, rfl, hlen'.trans hlen, htake⟩, rfl, Nat.pos_of_ne_zero hcap⟩, rfl, rfl, rfl⟩
  unfold initRequestBuffer
  rw [if_neg (by rw [hmalloc]; exact Bool.noConfusion), if_neg (by rw [hdata]; exact Bool.noConfusion),
    hwrite]
  rfl

/-- Without a byte in it, the first NUL is written outside of the block. -/
theorem initRequestBuffer_none {env : BufferEnv} {contentLength : Option CStr}
    (hmalloc : env.malloc = true) (hdata : env.mallocData = true)
    (hcap : firstCapacity contentLength = 0) : initRequestBuffer env contentLength = none := by
  have hroom : (freshBlock env.fresh (firstCapacity contentLength)).length < 0 + [nul].length := by
    rw [length_freshBlock, hcap]
    exact Nat.one_pos
  unfold initRequestBuffer
  rw [if_neg (by rw [hmalloc]; exact Bool.noConfusion), if_neg (by rw [hdata]; exact Bool.noConfusion),
    writeBytes_none hroom]
  rfl

/-- The buffer begins as the data of the model without memory. -/
theorem initRequestBuffer_refines {env : BufferEnv} (r : HttpPost) (hmalloc : env.malloc = true)
    (hdata : env.mallocData = true) (hcap : r.initData.bufferCapacity ≠ 0) :
    ∃ rd, initRequestBuffer env r.contentLength = some (some rd) ∧ HoldsData rd r.initData := by
  have hsize : announcedSize r.contentLength = r.expectedSize := rfl
  have hfirst : firstCapacity r.contentLength = r.initData.bufferCapacity := by
    unfold firstCapacity HttpPost.initData initRequestData
    rw [hsize]
    dsimp only
    split_ifs <;> rfl
  obtain ⟨rd, hinit, hacc, hrdcap, hexp, hcomplete⟩ :=
    initRequestBuffer_some hmalloc hdata (hfirst ▸ hcap)
  exact ⟨rd, hinit, hacc, hexp, hrdcap.trans hfirst, hcomplete⟩

/-- **A body is collected if and only if** there is no memory for the request
at all, or its first block has a byte, every reallocation that is needed
succeeds, and it ends below the last address. -/
theorem bodyAccumulates_iff (env : BufferEnv) (contentLength : Option CStr)
    (parts : List (Chunk × Bool)) :
    BodyAccumulates env contentLength parts ↔
      (env.malloc = true → env.mallocData = true →
        firstCapacity contentLength ≠ 0 ∧ BodyFits (firstCapacity contentLength) 0 parts) := by
  unfold BodyAccumulates
  by_cases hmem : env.malloc = true ∧ env.mallocData = true
  · obtain ⟨hmalloc, hdata⟩ := hmem
    rw [forall_prop_of_true hmalloc, forall_prop_of_true hdata]
    by_cases hcap : firstCapacity contentLength = 0
    · rw [initRequestBuffer_none hmalloc hdata hcap]
      refine iff_of_false ?_ fun h => h.1 hcap
      rintro ⟨init, hinit, -⟩
      exact nomatch hinit
    · obtain ⟨rd, hinit, hacc, hrdcap, -, -⟩ := initRequestBuffer_some hmalloc hdata hcap
      have hmax : rd.bufferCapacity = max (firstCapacity contentLength) (([] : CStr).length + 1) := by
        rw [hrdcap]
        exact (Nat.max_eq_left (Nat.pos_of_ne_zero hcap)).symm
      have hlt : rd.bufferCapacity < 4294967296 := hrdcap ▸ firstCapacity_lt contentLength
      have hparts : BodyRight env.fresh rd [] parts ↔ BodyFits (firstCapacity contentLength) 0 parts :=
        bodyRight_iff hacc hmax hlt
      rw [and_iff_right hcap, ← hparts, hinit]
      constructor
      · rintro ⟨init, heq, hall⟩
        obtain rfl := Option.some.inj heq
        exact hall rd rfl
      · intro hright
        exact ⟨some rd, rfl, fun rd' hrd' => Option.some.inj hrd' ▸ hright⟩
  · have hnull : initRequestBuffer env contentLength = some none := by
      unfold initRequestBuffer
      split_ifs with hmalloc hdata
      · rfl
      · rfl
      · exact absurd ⟨(Bool.not_eq_false _).mp hmalloc, (Bool.not_eq_false _).mp hdata⟩ hmem
    rw [hnull]
    refine iff_of_true ⟨none, rfl, fun rd hrd => (nomatch hrd)⟩ fun hmalloc hdata => ?_
    exact absurd ⟨hmalloc, hdata⟩ hmem

/-- A part of two bytes. -/
def twoBytes : Chunk := ⟨"ab".toList, by decide⟩

/-- Two bytes where one was announced, with a reallocation that fails, are
copied to NULL; and the length `-1` allocates a block without a byte. -/
theorem body_not_accumulated :
    ¬ BodyAccumulates ⟨true, true, fun _ => 'x'⟩ (some "1".toList) [(twoBytes, false)] ∧
    ¬ BodyAccumulates ⟨true, true, fun _ => 'x'⟩ (some "-1".toList) [] := by
  constructor
  · rintro ⟨init, hinit, hall⟩
    obtain rfl := Option.some.inj hinit
    obtain ⟨rd', hrd', -⟩ := hall _ rfl
    exact nomatch hrd'
  · rintro ⟨init, hinit, -⟩
    rw [initRequestBuffer_none rfl rfl ((firstCapacity_eq_zero _).mpr (by decide))] at hinit
    exact nomatch hinit

end WtslCore
