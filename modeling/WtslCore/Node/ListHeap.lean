/-
# The node list in the heap

`WTSLNodeList` keeps three things that must agree: the chain from the head,
the pointer to its last node and the counter. An addition at the tail writes
through the tail pointer and a removal sets it back to the node before, so the
pointer is the last node of the chain after every call (`HoldsNodes`).

A node's interface is a block of its own. An addition copies the node with the
pointer to it, and a removal frees it; freeing a block that is not allocated is
a fault. So the list holds the sequence that the operations on sequences give,
and its next call is the call on the sequence exactly if it removes no node
whose interface was freed before (`nodeList_refines_iff`), as it is for two
copies of one node. A node that is added with an interface of its own, as
`create_new_wtsl_node` makes it, keeps it until it is removed
(`releasable_of_own`). For a `Node` the operations on the sequence are the
look-up and the removal of the models over plain lists (`find?_listed`,
`seqDelete_listed`).

Key definitions: `ListedNode`, `WTSLNodeList`, `NodeListOp`, `nodeListCall`,
`HoldsNodes`, `Releasable`.
Key theorems: `addTail_cells`, `heapFind_cells`, `heapDelete_found`,
`nodeListCall_iff`, `nodeList_refines_iff`, `releasable_of_own`.
-/
import WtslCore.Lib.Chain
import WtslCore.Node.Removal

namespace WtslCore

open Runs

/-- `WTSLNode`: what the list reads of it, and the fields it only copies. -/
structure ListedNode (β : Type*) where
  id : ℤ
  interface : Option Addr
  rest : β
  deriving DecidableEq

variable {β : Type*}

/-- `WTSLNodeList`, with the nodes its links can lead to. -/
structure WTSLNodeList (β : Type*) where
  heap : Heap Addr (ListedNode β)
  head : Option Addr
  tail : Option Addr
  nodeCount : ℤ
  /-- The interface blocks that are allocated. -/
  interfaces : Addr → Bool

/-- `create_wtsl_node_list`. -/
def createWtslNodeList : WTSLNodeList β := ⟨fun _ => none, none, none, 0, fun _ => false⟩

/-- `create_node_interface`; `iface` is what `malloc` returns. -/
def createNodeInterface (l : WTSLNodeList β) (iface : Option Addr) : WTSLNodeList β :=
  match iface with
  | some a => { l with interfaces := Function.update l.interfaces a true }
  | none => l

/-- `add_wtsl_node_to_list_tail`; `new_node` is what `malloc` returns. -/
def addWtslNodeToListTail (l : WTSLNodeList β) (nodeData : Option (ListedNode β))
    (newNode : Option Addr) : Option (WTSLNodeList β × ℤ) :=
  match nodeData, newNode with
  | some x, some a =>
    let heap := l.heap.write a ⟨x, none⟩
    match l.head with
    | none => some (⟨heap, some a, some a, toInt32 (l.nodeCount + 1), l.interfaces⟩, 0)
    | some _ =>
      l.tail.bind fun t => (heap t).bind fun c =>
        some (⟨heap.write t ⟨c.data, some a⟩, l.head, some a, toInt32 (l.nodeCount + 1), l.interfaces⟩, 0)
  | _, _ => some (l, -1)

/-- `add_wtsl_node_to_list_head`. -/
def addWtslNodeToListHead (l : WTSLNodeList β) (nodeData : Option (ListedNode β))
    (newNode : Option Addr) : WTSLNodeList β × ℤ :=
  match nodeData, newNode with
  | some x, some a =>
    (⟨l.heap.write a ⟨x, l.head⟩, some a, if l.tail = none then some a else l.tail,
      toInt32 (l.nodeCount + 1), l.interfaces⟩, 0)
  | _, _ => (l, -1)

/-- The node has the id. -/
def hasId (id : ℤ) (x : ListedNode β) : Bool := decide (x.id = id)

/-- `find_wtsl_node_by_id`: the node's address, or NULL. -/
def heapFindWtslNodeById (l : WTSLNodeList β) (id : ℤ) : Option (Option Addr) :=
  (seek l.heap (hasId id) rounds none l.head).map Prod.snd

/-- The link that leads past a node: the head, or the next link of the node before. -/
def relink (l : WTSLNodeList β) (prev next : Option Addr) :
    Option (Heap Addr (ListedNode β) × Option Addr) :=
  match prev with
  | none => some (l.heap, next)
  | some b => (l.heap b).map fun d => (l.heap.write b ⟨d.data, next⟩, l.head)

/-- `if (iface) free(iface);` No outcome if the block is not allocated. -/
def freeInterface (interfaces : Addr → Bool) (iface : Option Addr) : Option (Addr → Bool) :=
  match iface with
  | none => some interfaces
  | some b => if interfaces b = true then some (Function.update interfaces b false) else none

/-- `delete_wtsl_node_by_id`. -/
def heapDeleteWtslNodeById (l : WTSLNodeList β) (id : ℤ) : Option (WTSLNodeList β × ℤ) :=
  match l.head with
  | none => some (l, -1)
  | some _ =>
    (seek l.heap (hasId id) rounds none l.head).bind fun (prev, current) =>
      match current with
      | none => some (l, -1)
      | some cur =>
        (l.heap cur).bind fun c => (relink l prev c.next).bind fun (heap, head) =>
          (freeInterface l.interfaces c.data.interface).bind fun interfaces =>
            some (⟨heap.free cur, head, if l.tail = some cur then prev else l.tail,
              toInt32 (l.nodeCount - 1), interfaces⟩, 0)

/-! ### Calls -/

/-- A call, with what `malloc` returns in it; the data can be NULL. Between the
calls of the list, nodes are created, each with an interface. -/
inductive NodeListOp (β : Type*)
  | create (iface : Option Addr)
  | addHead (nodeData : Option (ListedNode β)) (newNode : Option Addr)
  | addTail (nodeData : Option (ListedNode β)) (newNode : Option Addr)
  | delete (id : ℤ)

/-- A call of the code; without an outcome if it follows a link that is not
there, or frees a block that is not allocated. -/
def nodeListCall (l : WTSLNodeList β) : NodeListOp β → Option (WTSLNodeList β × ℤ)
  | .create iface => some (createNodeInterface l iface, 0)
  | .addHead nodeData newNode => some (addWtslNodeToListHead l nodeData newNode)
  | .addTail nodeData newNode => addWtslNodeToListTail l nodeData newNode
  | .delete id => heapDeleteWtslNodeById l id

/-- What `malloc` returns: NULL, or a block that is not in use. -/
def NewOrNull (l : WTSLNodeList β) (p : Option Addr) : Prop :=
  ∀ a ∈ p, l.heap a = none ∧ l.interfaces a = false

/-- `malloc` fails or returns a block that is not in use. -/
def NodeListOp.Malloc (l : WTSLNodeList β) : NodeListOp β → Prop
  | .create iface => NewOrNull l iface
  | .addHead _ newNode => NewOrNull l newNode
  | .addTail _ newNode => NewOrNull l newNode
  | .delete _ => True

/-! ### Sequences -/

/-- The first element with an id goes. -/
def seqDelete (xs : List (ListedNode β)) (id : ℤ) : List (ListedNode β) × ℤ :=
  if ∃ x ∈ xs, x.id = id then (xs.eraseP (hasId id), 0) else (xs, -1)

/-- What a call means on the sequence of the nodes. -/
def seqNodes (xs : List (ListedNode β)) : NodeListOp β → List (ListedNode β) × ℤ
  | .addHead (some x) (some _) => (x :: xs, 0)
  | .addTail (some x) (some _) => (xs ++ [x], 0)
  | .delete id => seqDelete xs id
  | .create _ => (xs, 0)
  | _ => (xs, -1)

/-- **The call frees what is allocated**: the interface of the node it removes,
if it has one. -/
def Releasable (l : WTSLNodeList β) (xs : List (ListedNode β)) : NodeListOp β → Prop
  | .delete id => ∀ x ∈ xs.find? (hasId id), ∀ b ∈ x.interface, l.interfaces b = true
  | _ => True

/-! ### The list and its sequence -/

/-- The chain from the head is `as`; the tail and the counter agree with it. -/
structure NodeCells (l : WTSLNodeList β) (as : List (Addr × ListedNode β)) : Prop where
  seg : Seg l.heap l.head as none
  tail : l.tail = (as.map Prod.fst).getLast?
  nodeCount : l.nodeCount = as.length

/-- **The list holds the sequence.** -/
def HoldsNodes (l : WTSLNodeList β) (xs : List (ListedNode β)) : Prop :=
  ∃ as, NodeCells l as ∧ as.map Prod.snd = xs

section

variable {l : WTSLNodeList β} {as bs : List (Addr × ListedNode β)} {a : Addr} {x : ListedNode β}
  {id : ℤ}

theorem NodeCells.toInt32_succ (h : NodeCells l as) : toInt32 (l.nodeCount + 1) = as.length + 1 := by
  rw [h.nodeCount, h.seg.toInt32_succ]

theorem NodeCells.toInt32_pred (h : NodeCells l as) : toInt32 (l.nodeCount - 1) = as.length - 1 := by
  rw [h.nodeCount, h.seg.toInt32_pred]

/-- The tail is NULL exactly when the list is empty. -/
theorem NodeCells.tail_eq_none (h : NodeCells l as) : l.tail = none ↔ as = [] := by
  rw [h.tail, List.getLast?_eq_none_iff, List.map_eq_nil_iff]

theorem addHead_cells (h : NodeCells l as) (ha : l.heap a = none) :
    NodeCells (addWtslNodeToListHead l (some x) (some a)).1 ((a, x) :: as) := by
  refine ⟨h.seg.push ha x, ?_, h.toInt32_succ⟩
  dsimp only [addWtslNodeToListHead]
  rw [List.map_cons]
  rcases as with _ | ⟨b, as⟩
  · rw [if_pos (h.tail_eq_none.mpr rfl)]
    rfl
  · rw [if_neg (fun hn => List.cons_ne_nil _ _ (h.tail_eq_none.mp hn)), h.tail, List.map_cons,
      List.getLast?_cons_cons]

theorem addTail_cells (h : NodeCells l as) (ha : l.heap a = none) :
    ∃ l', addWtslNodeToListTail l (some x) (some a) = some (l', 0) ∧ NodeCells l' (as ++ [(a, x)]) := by
  have hlast : some a = ((as ++ [(a, x)]).map Prod.fst).getLast? := by
    rw [List.map_append]
    exact List.getLast?_concat.symm
  have hcount : toInt32 (l.nodeCount + 1) = (as ++ [(a, x)]).length := by
    rw [h.toInt32_succ, List.length_append]
    rfl
  rcases List.eq_nil_or_concat as with rfl | ⟨as', ⟨b, y⟩, rfl⟩
  · have hhead : l.head = none := h.seg
    refine ⟨⟨l.heap.write a ⟨x, none⟩, some a, some a, toInt32 (l.nodeCount + 1), l.interfaces⟩, ?_,
      ⟨?_, hlast, hcount⟩⟩
    · rw [addWtslNodeToListTail, hhead]
    · have hs := h.seg.push ha x
      rwa [hhead] at hs
  · rw [List.concat_eq_append] at h hcount hlast ⊢
    obtain ⟨hb, hs⟩ := h.seg.snoc ha x
    have htail : l.tail = some b := by
      rw [h.tail, List.map_append]
      exact List.getLast?_concat
    obtain ⟨head, hhead⟩ := h.seg.head_some
    refine ⟨⟨(l.heap.write a ⟨x, none⟩).write b ⟨y, some a⟩, l.head, some a,
      toInt32 (l.nodeCount + 1), l.interfaces⟩, ?_, ⟨hs, hlast, hcount⟩⟩
    rw [addWtslNodeToListTail, hhead]
    dsimp only
    rw [htail, Option.bind_some, write_of_ne _ _ (ne_of_new ha hb), hb, Option.bind_some]

/-- The nodes before the first one with an id, and it. -/
theorem first_split (as : List (Addr × ListedNode β)) (id : ℤ) :
    (∀ c ∈ as, hasId id c.2 = false) ∨
      ∃ as₁ a x as₂, as = as₁ ++ (a, x) :: as₂ ∧ (∀ c ∈ as₁, hasId id c.2 = false) ∧
        hasId id x = true := by
  cases hf : as.find? fun c => hasId id c.2 with
  | none =>
    refine .inl fun c hc => ?_
    have hno := List.find?_eq_none.mp hf c hc
    exact Bool.eq_false_iff.mpr hno
  | some c =>
    obtain ⟨hx, as₁, as₂, heq, hno⟩ := List.find?_eq_some_iff_append.mp hf
    refine .inr ⟨as₁, c.1, c.2, as₂, heq, fun d hd => ?_, hx⟩
    have hd' := hno d hd
    rwa [Bool.not_eq_true'] at hd'

/-- The sequence of nodes without the id. -/
theorem not_hasId (hno : ∀ c ∈ as, hasId id c.2 = false) :
    ∀ y ∈ as.map Prod.snd, ¬ hasId id y = true := by
  intro y hy
  obtain ⟨c, hc, rfl⟩ := List.mem_map.mp hy
  rw [hno c hc]
  exact Bool.false_ne_true

/-- The look-up's result, on the sequence. -/
theorem find?_split {as₁ as₂ : List (Addr × ListedNode β)}
    (hno : ∀ c ∈ as₁, hasId id c.2 = false) (hx : hasId id x = true) :
    ((as₁ ++ (a, x) :: as₂).map Prod.snd).find? (hasId id) = some x := by
  rw [List.map_append, List.find?_append, List.map_cons, List.find?_cons, hx, Option.or_eq_some_iff]
  exact .inr ⟨List.find?_eq_none.mpr (not_hasId hno), rfl⟩

theorem find?_missed (hno : ∀ c ∈ as, hasId id c.2 = false) :
    (as.map Prod.snd).find? (hasId id) = none :=
  List.find?_eq_none.mpr (not_hasId hno)

/-- **The look-up finds the first node with the id.** -/
theorem heapFind_cells (h : NodeCells l as) (id : ℤ) :
    ∃ p, heapFindWtslNodeById l id = some p ∧
      p.map (fun a => (l.heap a).map Cell.data) = ((as.map Prod.snd).find? (hasId id)).map some := by
  rcases first_split as id with hno | ⟨as₁, a, x, as₂, rfl, hno, hx⟩
  · refine ⟨none, ?_, ?_⟩
    · rw [heapFindWtslNodeById, seek_missed h.seg h.seg.lt_rounds hno]
      rfl
    · rw [find?_missed hno]
      rfl
  · obtain ⟨r, -, -, n, hn, -⟩ := seg_append.mp h.seg
    refine ⟨some a, ?_, ?_⟩
    · rw [heapFindWtslNodeById, seek_found h.seg h.seg.lt_rounds_left hno hx]
      rfl
    · rw [find?_split hno hx, Option.map_some, Option.map_some, hn]
      rfl

/-- **A removal without a match** changes nothing. -/
theorem heapDelete_missed (h : NodeCells l as) (hno : ∀ c ∈ as, hasId id c.2 = false) :
    heapDeleteWtslNodeById l id = some (l, -1) := by
  rw [heapDeleteWtslNodeById]
  cases hhead : l.head with
  | none => rfl
  | some head =>
    dsimp only
    rw [← hhead, seek_missed h.seg h.seg.lt_rounds hno]
    rfl

/-- **A removal takes the first node with the id out**, if its interface can be
freed, and the tail pointer goes back if it was the last one. -/
theorem heapDelete_found {as₁ as₂ : List (Addr × ListedNode β)}
    (h : NodeCells l (as₁ ++ (a, x) :: as₂)) (hno : ∀ c ∈ as₁, hasId id c.2 = false)
    (hx : hasId id x = true) :
    ∃ l' : (Addr → Bool) → WTSLNodeList β, (∀ i, NodeCells (l' i) (as₁ ++ as₂) ∧ (l' i).interfaces = i) ∧
      heapDeleteWtslNodeById l id = (freeInterface l.interfaces x.interface).map fun i => (l' i, 0) := by
  have hseek := seek_found h.seg h.seg.lt_rounds_left hno hx
  have htail : (if l.tail = some a then (as₁.map Prod.fst).getLast? else l.tail) =
      ((as₁ ++ as₂).map Prod.fst).getLast? := by
    have hright := h.seg.notMem_right
    rw [h.tail]
    rcases List.eq_nil_or_concat as₂ with rfl | ⟨as₃, ⟨d, z⟩, rfl⟩
    · rw [if_pos, List.append_nil]
      rw [List.map_append]
      exact List.getLast?_concat
    · rw [List.concat_eq_append] at hright ⊢
      have hd : d ≠ a := by
        rintro rfl
        rw [List.map_append] at hright
        exact hright (List.mem_append_right _ List.mem_cons_self)
      have hlast : ∀ cs : List (Addr × ListedNode β),
          ((cs ++ (as₃ ++ [(d, z)])).map Prod.fst).getLast? = some d := by
        intro cs
        rw [← List.append_assoc, List.map_append]
        exact List.getLast?_concat
      rw [List.append_cons, hlast, hlast, if_neg fun heq => hd (Option.some.inj heq)]
  have hcount : toInt32 (l.nodeCount - 1) = (as₁ ++ as₂).length := by
    rw [h.toInt32_pred]
    simp only [List.length_append, List.length_cons]
    omega
  obtain ⟨head, hhead⟩ := h.seg.head_some
  rcases List.eq_nil_or_concat as₁ with rfl | ⟨as₀, ⟨b, y⟩, rfl⟩
  · obtain ⟨n, hn, -, hs⟩ := h.seg.pop
    refine ⟨fun i => ⟨l.heap.free a, n, if l.tail = some a then none else l.tail,
      toInt32 (l.nodeCount - 1), i⟩, fun i => ⟨⟨hs, htail, hcount⟩, rfl⟩, ?_⟩
    rw [heapDeleteWtslNodeById, hhead]
    dsimp only
    rw [← hhead, hseek, Option.bind_some]
    dsimp only
    rw [hn, Option.bind_some]
    exact Option.map_eq_bind.symm
  · rw [List.concat_eq_append] at h hseek htail hcount ⊢
    have hlast : ((as₀ ++ [(b, y)]).map Prod.fst).getLast? = some b := by
      rw [List.map_append]
      exact List.getLast?_concat
    rw [hlast] at hseek htail
    have hseg : Seg l.heap l.head (as₀ ++ (b, y) :: (a, x) :: as₂) none := by
      have hs := h.seg
      rwa [List.append_assoc] at hs
    obtain ⟨n, hb, ha, hs⟩ := hseg.removeAfter
    refine ⟨fun i => ⟨(l.heap.write b ⟨y, n⟩).free a, l.head, if l.tail = some a then some b else l.tail,
      toInt32 (l.nodeCount - 1), i⟩, fun i => ⟨⟨?_, htail, hcount⟩, rfl⟩, ?_⟩
    · rw [List.append_assoc]
      exact hs
    · rw [heapDeleteWtslNodeById, hhead]
      dsimp only
      rw [← hhead, hseek, Option.bind_some]
      dsimp only
      rw [ha, Option.bind_some, relink]
      dsimp only
      rw [hb, Option.map_some, Option.bind_some]
      exact Option.map_eq_bind.symm

/-! ### Calls -/

theorem seqDelete_missed (hno : ∀ c ∈ as, hasId id c.2 = false) :
    seqDelete (as.map Prod.snd) id = (as.map Prod.snd, -1) := by
  refine if_neg ?_
  rintro ⟨x, hx, hid⟩
  exact not_hasId hno x hx (decide_eq_true hid)

theorem seqDelete_found {as₁ as₂ : List (Addr × ListedNode β)}
    (hno : ∀ c ∈ as₁, hasId id c.2 = false) (hx : hasId id x = true) :
    seqDelete ((as₁ ++ (a, x) :: as₂).map Prod.snd) id = ((as₁ ++ as₂).map Prod.snd, 0) := by
  have hmem : x ∈ (as₁ ++ (a, x) :: as₂).map Prod.snd :=
    List.mem_map.mpr ⟨(a, x), List.mem_append_right _ List.mem_cons_self, rfl⟩
  rw [seqDelete, if_pos ⟨x, hmem, of_decide_eq_true hx⟩, List.map_append, List.map_append,
    List.eraseP_append_right _ (not_hasId hno), List.map_cons, List.eraseP_cons_of_pos hx]

/-- **A call is right**: it returns what the call on the sequence does, leaves a
list that holds the new sequence, and changes nothing if it fails. -/
def CallRight (l : WTSLNodeList β) (xs : List (ListedNode β)) (op : NodeListOp β) : Prop :=
  ∃ l', nodeListCall l op = some (l', (seqNodes xs op).2) ∧ HoldsNodes l' (seqNodes xs op).1 ∧
    ((seqNodes xs op).2 = -1 → l' = l)

theorem HoldsNodes.create {xs : List (ListedNode β)} (h : HoldsNodes l xs) (iface : Option Addr) :
    HoldsNodes (createNodeInterface l iface) xs := by
  obtain ⟨as, has, rfl⟩ := h
  cases iface with
  | none => exact ⟨as, has, rfl⟩
  | some a => exact ⟨as, ⟨has.seg, has.tail, has.nodeCount⟩, rfl⟩

/-- An interface is freed exactly if it is allocated. -/
theorem freeInterface_isSome_iff (interfaces : Addr → Bool) (iface : Option Addr) :
    (∃ i, freeInterface interfaces iface = some i) ↔ ∀ b ∈ iface, interfaces b = true := by
  cases iface with
  | none => simp [freeInterface]
  | some b =>
    unfold freeInterface
    dsimp only
    by_cases hb : interfaces b = true
    · rw [if_pos hb]
      exact iff_of_true ⟨_, rfl⟩ fun c hc => Option.some.inj hc ▸ hb
    · rw [if_neg hb]
      exact iff_of_false (fun ⟨_, h⟩ => nomatch h) fun h => hb (h b rfl)

/-- **A call is right exactly if it frees what is allocated.** -/
theorem nodeListCall_iff {xs : List (ListedNode β)} (h : HoldsNodes l xs) {op : NodeListOp β}
    (hop : op.Malloc l) : CallRight l xs op ↔ Releasable l xs op := by
  have hsame := h
  obtain ⟨as, has, rfl⟩ := h
  have hzero : (0 : ℤ) ≠ -1 := by omega
  cases op with
  | create iface => exact iff_of_true ⟨_, rfl, hsame.create iface, fun h0 => absurd h0 hzero⟩ trivial
  | addHead nodeData newNode =>
    refine iff_of_true ?_ trivial
    rcases nodeData with _ | x
    · exact ⟨l, rfl, hsame, fun _ => rfl⟩
    rcases newNode with _ | a
    · exact ⟨l, rfl, hsame, fun _ => rfl⟩
    · exact ⟨_, rfl, ⟨_, addHead_cells has (hop a rfl).1, rfl⟩, fun h0 => absurd h0 hzero⟩
  | addTail nodeData newNode =>
    refine iff_of_true ?_ trivial
    rcases nodeData with _ | x
    · exact ⟨l, rfl, hsame, fun _ => rfl⟩
    rcases newNode with _ | a
    · exact ⟨l, rfl, hsame, fun _ => rfl⟩
    · obtain ⟨l', hl', h'⟩ := addTail_cells (x := x) has (hop a rfl).1
      exact ⟨l', hl', ⟨_, h', List.map_append⟩, fun h0 => absurd h0 hzero⟩
  | delete id =>
    unfold CallRight
    rw [nodeListCall, seqNodes, Releasable]
    rcases first_split as id with hno | ⟨as₁, a, x, as₂, rfl, hno, hx⟩
    · rw [seqDelete_missed hno, find?_missed hno]
      exact iff_of_true ⟨l, heapDelete_missed has hno, hsame, fun _ => rfl⟩ nofun
    · rw [seqDelete_found hno hx, find?_split hno hx]
      obtain ⟨l', h', hdelete⟩ := heapDelete_found has hno hx
      rw [hdelete]
      constructor
      · rintro ⟨l₁, hfreed, -⟩ y hy
        obtain ⟨i, hi, -⟩ := Option.map_eq_some_iff.mp hfreed
        exact Option.some.inj hy ▸ (freeInterface_isSome_iff _ _).mp ⟨i, hi⟩
      · intro hlive
        obtain ⟨i, hi⟩ := (freeInterface_isSome_iff l.interfaces x.interface).mpr (hlive x rfl)
        rw [hi]
        exact ⟨l' i, rfl, ⟨_, (h' i).1, rfl⟩, fun h0 => absurd h0 hzero⟩

/-- A call that has an outcome frees what is allocated. -/
theorem releasable_of_some {xs : List (ListedNode β)} (h : HoldsNodes l xs) {op : NodeListOp β}
    {r : WTSLNodeList β × ℤ} (hr : nodeListCall l op = some r) : Releasable l xs op := by
  cases op with
  | create | addHead | addTail => exact trivial
  | delete id =>
    obtain ⟨as, has, rfl⟩ := h
    rw [Releasable]
    rcases first_split as id with hno | ⟨as₁, a, x, as₂, rfl, hno, hx⟩
    · rw [find?_missed hno]
      exact nofun
    · rw [find?_split hno hx]
      obtain ⟨l', -, hdelete⟩ := heapDelete_found has hno hx
      obtain ⟨i, hi, -⟩ := Option.map_eq_some_iff.mp (hdelete.symm.trans hr)
      exact fun y hy => Option.some.inj hy ▸ (freeInterface_isSome_iff _ _).mp ⟨i, hi⟩

end

/-! ### The models over plain lists -/

/-- A node of the models over plain lists, with its interface. -/
def Node.listed (interface : Node → Option Addr) (n : Node) : ListedNode Node :=
  ⟨n.id, interface n, n⟩

/-- The look-up in the sequence is the look-up in the list of the nodes. -/
theorem find?_listed (interface : Node → Option Addr) (ns : List Node) (id : ℤ) :
    (ns.map (Node.listed interface)).find? (hasId id) =
      (findWtslNodeById ns id).map (Node.listed interface) :=
  List.find?_map ..

/-- The removal from the sequence is the removal from the list of the nodes. -/
theorem seqDelete_listed (interface : Node → Option Addr) (ns : List Node) (id : ℤ) :
    seqDelete (ns.map (Node.listed interface)) id =
      ((deleteWtslNodeById ns id).2.map (Node.listed interface), (deleteWtslNodeById ns id).1) := by
  rw [deleteWtslNodeById, seqDelete]
  cases hfind : findWtslNodeById ns id with
  | none =>
    refine if_neg ?_
    rintro ⟨x, hx, hid⟩
    obtain ⟨n, hn, rfl⟩ := List.mem_map.mp hx
    exact List.find?_eq_none.mp hfind n hn (beq_iff_eq.mpr hid)
  | some n =>
    have hn : n ∈ ns := List.mem_of_find?_eq_some hfind
    have hfind' : ns.find? (fun n => (n.id : ℤ) == id) = some n := hfind
    have hid := List.find?_some hfind'
    rw [if_pos ⟨_, List.mem_map_of_mem hn, beq_iff_eq.mp hid⟩, List.eraseP_map]
    rfl

/-! ### Runs -/

/-- A call, as a step of the list. -/
def nodeListStep (l : WTSLNodeList β) (op : NodeListOp β) : Option (WTSLNodeList β) :=
  (nodeListCall l op).map Prod.fst

/-- The sequence after calls on an empty one. -/
def seqNodesRun (ops : List (NodeListOp β)) : List (ListedNode β) :=
  ops.foldl (fun xs op => (seqNodes xs op).1) []

theorem holdsNodes_create : HoldsNodes (createWtslNodeList : WTSLNodeList β) [] :=
  ⟨[], ⟨rfl, rfl, rfl⟩, rfl⟩

/-- A call that has an outcome leaves the sequence. -/
theorem holdsNodes_call {l : WTSLNodeList β} {xs : List (ListedNode β)} (h : HoldsNodes l xs)
    {op : NodeListOp β} (hop : op.Malloc l) {r : WTSLNodeList β × ℤ} (hr : nodeListCall l op = some r) :
    HoldsNodes r.1 (seqNodes xs op).1 := by
  obtain ⟨l', hcall, h', -⟩ := (nodeListCall_iff h hop).mpr (releasable_of_some h hr)
  rw [hr] at hcall
  rwa [Option.some.inj hcall]

/-- A list that was reached holds the sequence. -/
theorem holdsNodes_run {ops : List (NodeListOp β)} {l : WTSLNodeList β}
    (hrun : Run nodeListStep NodeListOp.Malloc createWtslNodeList ops l) :
    HoldsNodes l (seqNodesRun ops) := by
  refine hrun.refines holdsNodes_create fun l op l' xs hxs hop hstep => ?_
  obtain ⟨r, hr, rfl⟩ := Option.map_eq_some_iff.mp hstep
  exact holdsNodes_call hxs hop hr

/-- **The node list refines a sequence.** After any calls on a list created
empty that had an outcome it holds the sequence the operations give: the
counter is the number of the nodes the head leads to, the tail is the last of
them, NULL exactly when there is none, and the look-up returns the first node
with the id. The next call, whichever it is, is right exactly if it removes no
node whose interface is not allocated. -/
theorem nodeList_refines_iff {ops : List (NodeListOp β)} {l : WTSLNodeList β}
    (hrun : Run nodeListStep NodeListOp.Malloc createWtslNodeList ops l) :
    HoldsNodes l (seqNodesRun ops) ∧ (l.tail = none ↔ seqNodesRun ops = []) ∧
      (∀ id, ∃ p, heapFindWtslNodeById l id = some p ∧
        p.map (fun a => (l.heap a).map Cell.data) =
          ((seqNodesRun ops).find? (hasId id)).map some) ∧
      ∀ op : NodeListOp β, op.Malloc l →
        (CallRight l (seqNodesRun ops) op ↔ Releasable l (seqNodesRun ops) op) := by
  have hl := holdsNodes_run hrun
  refine ⟨hl, ?_, ?_, fun op hop => nodeListCall_iff hl hop⟩
  · obtain ⟨as, has, hxs⟩ := hl
    rw [has.tail_eq_none, ← hxs, List.map_eq_nil_iff]
  · obtain ⟨as, has, hxs⟩ := hl
    rw [← hxs]
    exact heapFind_cells has

/-- One node and its copy: both have the interface in block 8. -/
def copiedNode : ListedNode Unit := ⟨0, some 8, ()⟩

/-- The node is added twice, and removed once. -/
def copiedCalls : List (NodeListOp Unit) :=
  [.create (some 8), .addTail (some copiedNode) (some 1), .addTail (some copiedNode) (some 0), .delete 0]

/-- The same is done with two nodes of one id, each with an interface. -/
def ownCalls : List (NodeListOp Unit) :=
  [.create (some 8), .addTail (some copiedNode) (some 1), .create (some 9),
    .addTail (some ⟨0, some 9, ()⟩) (some 0), .delete 0]

theorem newOrNull_some {l : WTSLNodeList β} {a : Addr} (hcell : l.heap a = none)
    (hiface : l.interfaces a = false) : NewOrNull l (some a) := by
  intro b hb
  obtain rfl := Option.some.inj hb
  exact ⟨hcell, hiface⟩

/-- **A node that was added twice is removed twice**: the second removal frees
the interface again. -/
theorem nodeList_doubleFree : ∃ l : WTSLNodeList Unit,
    Run nodeListStep NodeListOp.Malloc createWtslNodeList copiedCalls l ∧
      seqNodesRun copiedCalls = [copiedNode] ∧ nodeListCall l (.delete 0) = none ∧
      ¬ CallRight l (seqNodesRun copiedCalls) (.delete 0) := by
  have hrun : Run nodeListStep NodeListOp.Malloc (createWtslNodeList : WTSLNodeList Unit)
      ([.create (some 8)] ++ [.addTail (some copiedNode) (some 1)] ++
        [.addTail (some copiedNode) (some 0)] ++ [.delete 0]) _ :=
    .snoc (.snoc (.snoc (.single (newOrNull_some rfl rfl) rfl) (newOrNull_some rfl rfl) rfl)
      (newOrNull_some rfl rfl) rfl) trivial rfl
  refine ⟨_, hrun, rfl, rfl, ?_⟩
  rintro ⟨l', hcall, -⟩
  exact nomatch hcall

theorem nodeList_refines_own : ∃ l : WTSLNodeList Unit,
    HoldsNodes l (seqNodesRun ownCalls) ∧ CallRight l (seqNodesRun ownCalls) (.delete 0) := by
  have hrun : Run nodeListStep NodeListOp.Malloc (createWtslNodeList : WTSLNodeList Unit)
      ([.create (some 8)] ++ [.addTail (some copiedNode) (some 1)] ++ [.create (some 9)] ++
        [.addTail (some ⟨0, some 9, ()⟩) (some 0)] ++ [.delete 0]) _ :=
    .snoc (.snoc (.snoc (.snoc (.single (newOrNull_some rfl rfl) rfl) (newOrNull_some rfl rfl) rfl)
      (newOrNull_some rfl rfl) rfl) (newOrNull_some rfl rfl) rfl) trivial rfl
  have h := nodeList_refines_iff hrun
  refine ⟨_, h.1, (h.2.2.2 (.delete 0) trivial).mpr ?_⟩
  rintro x ⟨⟩ b ⟨⟩
  rfl

/-! ### Interfaces of their own -/

/-- Two nodes do not share an interface. -/
def Apart (x y : ListedNode β) : Prop := ∀ b ∈ x.interface, y.interface ≠ some b

theorem Apart.symm {x y : ListedNode β} (h : Apart x y) : Apart y x :=
  fun b hy hx => h b hx hy

/-- A node that is added brings an interface that is allocated and no node's of
the list, as a node that was just created does. -/
def OwnInterface (l : WTSLNodeList β) : NodeListOp β → Prop
  | .addHead (some x) _ | .addTail (some x) _ => (∀ b ∈ x.interface, l.interfaces b = true) ∧
      ∀ xs, HoldsNodes l xs → ∀ y ∈ xs, Apart x y
  | _ => True

/-- Every node of the sequence has its own interface, or none. -/
structure OwnsInterfaces (l : WTSLNodeList β) (xs : List (ListedNode β)) : Prop where
  allocated : ∀ x ∈ xs, ∀ b ∈ x.interface, l.interfaces b = true
  apart : xs.Pairwise Apart

theorem OwnsInterfaces.releasable {l : WTSLNodeList β} {xs : List (ListedNode β)}
    (h : OwnsInterfaces l xs) (op : NodeListOp β) : Releasable l xs op := by
  cases op with
  | delete id => exact fun x hx => h.allocated x (List.mem_of_find?_eq_some hx)
  | create | addHead | addTail => exact trivial

/-- One more node, in front or behind. -/
theorem OwnsInterfaces.add {l l' : WTSLNodeList β} {xs : List (ListedNode β)} {x : ListedNode β}
    (h : OwnsInterfaces l xs) (hl : l'.interfaces = l.interfaces)
    (hlive : ∀ b ∈ x.interface, l.interfaces b = true) (hx : ∀ y ∈ xs, Apart x y) :
    OwnsInterfaces l' (x :: xs) ∧ OwnsInterfaces l' (xs ++ [x]) := by
  refine ⟨⟨?_, List.pairwise_cons.mpr ⟨hx, h.apart⟩⟩, ?_, ?_⟩
  · rw [hl]
    exact List.forall_mem_cons.mpr ⟨hlive, h.allocated⟩
  · rw [hl]
    intro y hy
    rcases List.mem_append.mp hy with hy | hy
    · exact h.allocated y hy
    · exact List.mem_singleton.mp hy ▸ hlive
  · refine List.pairwise_append.mpr ⟨h.apart, List.pairwise_singleton _ _, fun y hy z hz => ?_⟩
    exact List.mem_singleton.mp hz ▸ (hx y hy).symm

theorem interfaces_of_addTail {l l' : WTSLNodeList β} {x : Option (ListedNode β)} {a : Option Addr}
    {r : ℤ} (h : addWtslNodeToListTail l x a = some (l', r)) : l'.interfaces = l.interfaces := by
  unfold addWtslNodeToListTail at h
  split at h
  · dsimp only at h
    split at h
    · rw [← (Prod.mk.inj (Option.some.inj h)).1]
    · obtain ⟨t, -, h⟩ := Option.bind_eq_some_iff.mp h
      obtain ⟨c, -, h⟩ := Option.bind_eq_some_iff.mp h
      rw [← (Prod.mk.inj (Option.some.inj h)).1]
  · rw [← (Prod.mk.inj (Option.some.inj h)).1]

theorem freeInterface_of_ne {interfaces i : Addr → Bool} {iface : Option Addr} {b : Addr}
    (h : freeInterface interfaces iface = some i) (hb : iface ≠ some b) (hlive : interfaces b = true) :
    i b = true := by
  cases iface with
  | none => exact Option.some.inj h ▸ hlive
  | some c =>
    obtain ⟨-, hi⟩ := Option.ite_none_right_eq_some.mp h
    have hne : b ≠ c := fun heq => hb (heq ▸ rfl)
    rwa [← Option.some.inj hi, Function.update_of_ne hne]

/-- A removal takes a node and its interface. -/
theorem OwnsInterfaces.delete {l l' : WTSLNodeList β} {xs : List (ListedNode β)} {id : ℤ}
    (h : OwnsInterfaces l xs) (hl : HoldsNodes l xs) {r : ℤ}
    (hs : heapDeleteWtslNodeById l id = some (l', r)) : OwnsInterfaces l' (seqDelete xs id).1 := by
  obtain ⟨as, has, rfl⟩ := hl
  rcases first_split as id with hno | ⟨as₁, a, x, as₂, rfl, hno, hx⟩
  · rw [heapDelete_missed has hno] at hs
    rw [seqDelete_missed hno]
    obtain ⟨rfl, -⟩ := Prod.mk.inj (Option.some.inj hs)
    exact h
  · obtain ⟨l₁, hl₁, hdelete⟩ := heapDelete_found has hno hx
    obtain ⟨i, hi, hli⟩ := Option.map_eq_some_iff.mp (hdelete.symm.trans hs)
    obtain ⟨rfl, -⟩ := Prod.mk.inj hli
    rw [seqDelete_found hno hx]
    have hall := h.allocated
    have hapart := h.apart
    rw [List.map_append, List.map_cons] at hall hapart
    obtain ⟨hout, hrest⟩ := List.pairwise_cons.mp ((List.pairwise_middle Apart.symm).mp hapart)
    rw [← List.map_append] at hout hrest
    refine ⟨fun y hy b hb => ?_, hrest⟩
    have hlive : l.interfaces b = true := by
      refine hall y ?_ b hb
      rw [List.map_append] at hy
      rcases List.mem_append.mp hy with hy | hy
      · exact List.mem_append_left _ hy
      · exact List.mem_append_right _ (List.mem_cons_of_mem _ hy)
    rw [(hl₁ i).2]
    exact freeInterface_of_ne hi (fun hxb => hout y hy b hxb hb) hlive

/-- **A node that was added with an interface of its own is removed with it**:
after calls that all add such nodes, every call frees what is allocated. -/
theorem releasable_of_own {ops : List (NodeListOp β)} {l : WTSLNodeList β}
    (hrun : Run nodeListStep (fun l op => op.Malloc l ∧ OwnInterface l op) createWtslNodeList ops l)
    (op : NodeListOp β) : Releasable l (seqNodesRun ops) op := by
  suffices h : HoldsNodes l (seqNodesRun ops) ∧ OwnsInterfaces l (seqNodesRun ops) from h.2.releasable op
  refine hrun.refines (R := fun l xs => HoldsNodes l xs ∧ OwnsInterfaces l xs)
    ⟨holdsNodes_create, nofun, List.Pairwise.nil⟩ fun l op l' xs ⟨hl, howns⟩ ⟨hop, hown⟩ hstep => ?_
  obtain ⟨r, hr, rfl⟩ := Option.map_eq_some_iff.mp hstep
  refine ⟨holdsNodes_call hl hop hr, ?_⟩
  cases op with
  | create iface =>
    obtain rfl := Option.some.inj hr
    cases iface with
    | none => exact howns
    | some a =>
      refine ⟨fun x hx b hb => ?_, howns.apart⟩
      have hlive := howns.allocated x hx b hb
      dsimp only [createNodeInterface]
      rw [Function.update_apply]
      split_ifs
      · rfl
      · exact hlive
  | addHead nodeData newNode =>
    obtain rfl := Option.some.inj hr
    rcases nodeData with _ | x
    · exact howns
    rcases newNode with _ | a
    · exact howns
    · have hsame : (addWtslNodeToListHead l (some x) (some a)).1.interfaces = l.interfaces := rfl
      exact (howns.add hsame hown.1 (hown.2 xs hl)).1
  | addTail nodeData newNode =>
    have hsame := interfaces_of_addTail hr
    rcases nodeData with _ | x
    · obtain rfl := Option.some.inj hr
      exact howns
    rcases newNode with _ | a
    · obtain rfl := Option.some.inj hr
      exact howns
    · exact (howns.add hsame hown.1 (hown.2 xs hl)).2
  | delete id => exact howns.delete hl hr


end WtslCore
