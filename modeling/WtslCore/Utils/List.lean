/-
# The generic list

`wtsl_core_list.c` keeps a chain of nodes and a counter. The counter decides
which index is valid, and every walk trusts it: nothing but the counter keeps
a loop from a NULL link. A node owns a copy of the data it was made with, so
its cell holds the data itself; what `malloc` returns for it is an argument of
the calls that make a node. The list is there: the NULL checks of `list` itself
and the callbacks that free what the data refers to are left out.

The list holds the sequence that the operations on sequences give, and each
call returns what the sequence says, without following a NULL link
(`list_refines`).

Key definitions: `LinkedList`, `ListOp`, `listCall`, `seqCall`, `Holds`.
Key theorems: `listFindFrom_seg`, `listCall_holds`, `list_refines`.
-/
import WtslCore.Lib.Chain
import WtslCore.Lib.Run

namespace WtslCore

open Runs

/-- `List`, with the nodes its links can lead to. -/
structure LinkedList (α : Type*) where
  heap : Heap Addr α
  head : Option Addr
  size : ℤ

variable {α : Type*}

/-- `list_create`. -/
def listCreate : LinkedList α := ⟨fun _ => none, none, 0⟩

/-! ### The functions -/

/-- `create_node`: the block `malloc` returned, if any, holds the data. -/
def createNode (heap : Heap Addr α) (data : α) (node : Option Addr) : Option (Heap Addr α × Addr) :=
  node.map fun a => (heap.write a ⟨data, none⟩, a)

/-- `list_insert_head`. -/
def listInsertHead (l : LinkedList α) (data : Option α) (node : Option Addr) : LinkedList α :=
  match data with
  | none => l
  | some x =>
    match createNode l.heap x node with
    | none => l
    | some (heap, a) => ⟨heap.write a ⟨x, l.head⟩, some a, toInt32 (l.size + 1)⟩

/-- `list_insert_tail`. -/
def listInsertTail (l : LinkedList α) (data : Option α) (node : Option Addr) :
    Option (LinkedList α) :=
  match data with
  | none => some l
  | some x =>
    match createNode l.heap x node with
    | none => some l
    | some (heap, a) =>
      match l.head with
      | none => some ⟨heap, some a, toInt32 (l.size + 1)⟩
      | some head =>
        (lastCell heap rounds head).bind fun cur => (heap cur).bind fun c =>
          some ⟨heap.write cur ⟨c.data, some a⟩, l.head, toInt32 (l.size + 1)⟩

/-- `list_insert_at`. -/
def listInsertAt (l : LinkedList α) (index : ℤ) (data : Option α) (node : Option Addr) :
    Option (LinkedList α × ℤ) :=
  match data with
  | none => some (l, -1)
  | some x =>
    if index < 0 ∨ l.size < index then some (l, -1)
    else if index = 0 then some (listInsertHead l data node, 0)
    else
      (advance l.heap (index - 1).toNat l.head).bind fun p =>
        match createNode l.heap x node with
        | none => some (l, -1)
        | some (heap, a) =>
          p.bind fun cur => (heap cur).bind fun c =>
            some (⟨(heap.write a ⟨x, c.next⟩).write cur ⟨c.data, some a⟩, l.head,
              toInt32 (l.size + 1)⟩, 0)

/-- The loop of `list_find`: the rounds left, `i` and `cur`. -/
def listFindFrom (heap : Heap Addr α) (hit : α → Bool) : ℕ → ℤ → Option Addr → Option ℤ
  | 0, _, _ => some (-1)
  | n + 1, i, cur => (heap.deref cur).bind fun c =>
    if hit c.data then some i else listFindFrom heap hit n (i + 1) c.next

/-- `list_find`. -/
def listFind (l : LinkedList α) (target : Option α) (compare : Option (α → α → ℤ)) : Option ℤ :=
  match target, compare with
  | some t, some cmp =>
    if l.size = 0 then some (-1)
    else listFindFrom l.heap (fun x => decide (cmp x t = 0)) l.size.toNat 0 l.head
  | _, _ => some (-1)

/-- `list_get`: the data, or NULL. -/
def listGet (l : LinkedList α) (index : ℤ) : Option (Option α) :=
  if l.size = 0 ∨ index < 0 ∨ l.size ≤ index then some none
  else
    (advance l.heap index.toNat l.head).bind fun cur =>
      (l.heap.deref cur).map fun c => some c.data

/-- `list_remove_head`. -/
def listRemoveHead (l : LinkedList α) : Option (LinkedList α × ℤ) :=
  if l.size = 0 then some (l, -1)
  else
    l.head.bind fun temp => (l.heap temp).bind fun c =>
      some (⟨l.heap.free temp, c.next, toInt32 (l.size - 1)⟩, 0)

/-- `list_remove_tail`. -/
def listRemoveTail (l : LinkedList α) : Option (LinkedList α × ℤ) :=
  if l.size = 0 then some (l, -1)
  else if l.size = 1 then listRemoveHead l
  else
    (l.head.bind (beforeLast l.heap rounds)).bind fun cur => (l.heap cur).bind fun c =>
      c.next.bind fun temp => (l.heap temp).bind fun _ =>
        some (⟨(l.heap.write cur ⟨c.data, none⟩).free temp, l.head, toInt32 (l.size - 1)⟩, 0)

/-- `list_remove_at`. -/
def listRemoveAt (l : LinkedList α) (index : ℤ) : Option (LinkedList α × ℤ) :=
  if index < 0 ∨ l.size ≤ index then some (l, -1)
  else if index = 0 then listRemoveHead l
  else
    (advance l.heap (index - 1).toNat l.head).bind fun p =>
      p.bind fun cur => (l.heap cur).bind fun c =>
        c.next.bind fun temp => (l.heap temp).bind fun d =>
          some (⟨(l.heap.write cur ⟨c.data, d.next⟩).free temp, l.head, toInt32 (l.size - 1)⟩, 0)

/-- `list_remove_by_value`. -/
def listRemoveByValue (l : LinkedList α) (target : Option α) (compare : Option (α → α → ℤ)) :
    Option (LinkedList α × ℤ) :=
  (listFind l target compare).bind fun index =>
    if index = -1 then some (l, -1) else listRemoveAt l index

/-! ### Calls -/

/-- A call, with what `malloc` returns in it. An argument can be NULL. -/
inductive ListOp (α : Type*)
  | insertHead (data : Option α) (node : Option Addr)
  | insertTail (data : Option α) (node : Option Addr)
  | insertAt (index : ℤ) (data : Option α) (node : Option Addr)
  | find (target : Option α) (compare : Option (α → α → ℤ))
  | get (index : ℤ)
  | removeHead
  | removeTail
  | removeAt (index : ℤ)
  | removeByValue (target : Option α) (compare : Option (α → α → ℤ))
  | size

/-- What a call returns. -/
inductive ListRet (α : Type*)
  | void
  | int (n : ℤ)
  | data (x : Option α)

/-- A call of the code; without an outcome if it follows a link that is not there. -/
def listCall (l : LinkedList α) : ListOp α → Option (LinkedList α × ListRet α)
  | .insertHead data node => some (listInsertHead l data node, .void)
  | .insertTail data node => (listInsertTail l data node).map fun l' => (l', .void)
  | .insertAt index data node => (listInsertAt l index data node).map (.map id .int)
  | .find target compare => (listFind l target compare).map fun r => (l, .int r)
  | .get index => (listGet l index).map fun r => (l, .data r)
  | .removeHead => (listRemoveHead l).map (.map id .int)
  | .removeTail => (listRemoveTail l).map (.map id .int)
  | .removeAt index => (listRemoveAt l index).map (.map id .int)
  | .removeByValue target compare => (listRemoveByValue l target compare).map (.map id .int)
  | .size => some (l, .int l.size)

/-- The calls that make a node get a new block. -/
def ListOp.Allocates (l : LinkedList α) : ListOp α → Prop
  | .insertHead (some _) node => NewBlock l.heap node
  | .insertTail (some _) node => NewBlock l.heap node
  | .insertAt index (some _) node => 0 ≤ index → index ≤ l.size → NewBlock l.heap node
  | _ => True

/-! ### Sequences -/

/-- The place of the first element that compares equal. -/
def seqFind (xs : List α) (target : Option α) (compare : Option (α → α → ℤ)) : Option ℕ :=
  match target, compare with
  | some t, some cmp => xs.findIdx? fun x => decide (cmp x t = 0)
  | _, _ => none

/-- An index, or `-1`. -/
def indexRet (i : Option ℕ) : ℤ := (i.map Nat.cast).getD (-1)

/-- The sequence without the element at a place. -/
def seqRemove (xs : List α) (i : Option ℕ) : List α × ListRet α :=
  match i with
  | some i => (xs.eraseIdx i, .int 0)
  | none => (xs, .int (-1))

/-- The place an index names. -/
def place (n : ℕ) (index : ℤ) : Option ℕ :=
  if 0 ≤ index ∧ index < n then some index.toNat else none

/-- What a call means on the sequence of the elements. -/
def seqCall (xs : List α) : ListOp α → List α × ListRet α
  | .insertHead (some x) _ => (x :: xs, .void)
  | .insertHead none _ => (xs, .void)
  | .insertTail (some x) _ => (xs ++ [x], .void)
  | .insertTail none _ => (xs, .void)
  | .insertAt index (some x) _ =>
    match place (xs.length + 1) index with
    | some i => (xs.insertIdx i x, .int 0)
    | none => (xs, .int (-1))
  | .insertAt _ none _ => (xs, .int (-1))
  | .find target compare => (xs, .int (indexRet (seqFind xs target compare)))
  | .get index => (xs, .data ((place xs.length index).bind fun i => xs[i]?))
  | .removeHead => seqRemove xs (place xs.length 0)
  | .removeTail => seqRemove xs (place xs.length (xs.length - 1))
  | .removeAt index => seqRemove xs (place xs.length index)
  | .removeByValue target compare => seqRemove xs (seqFind xs target compare)
  | .size => (xs, .int xs.length)

/-! ### The list and its sequence -/

/-- The chain from the head is `as`, and the counter counts it. -/
structure Cells (l : LinkedList α) (as : List (Addr × α)) : Prop where
  seg : Seg l.heap l.head as none
  size : l.size = as.length

/-- **The list holds the sequence.** -/
def Holds (l : LinkedList α) (xs : List α) : Prop := ∃ as, Cells l as ∧ as.map Prod.snd = xs

section

variable {l : LinkedList α} {as : List (Addr × α)} {a : Addr} {x : α} {k : ℕ}

theorem Cells.toInt32_succ (h : Cells l as) : toInt32 (l.size + 1) = as.length + 1 := by
  rw [h.size, h.seg.toInt32_succ]

theorem Cells.toInt32_pred (h : Cells l as) : toInt32 (l.size - 1) = as.length - 1 := by
  rw [h.size, h.seg.toInt32_pred]

/-- With the head NULL the list is empty. -/
theorem Cells.nil_head (h : Cells l []) : l.head = none := h.seg

/-! ### Insertions -/

theorem insertIdx_after {β : Type*} (y z : β) (zs : List β) : ∀ ys : List β,
    (ys ++ y :: zs).insertIdx (ys.length + 1) z = ys ++ y :: z :: zs
  | [] => rfl
  | w :: ys => congrArg (w :: ·) (insertIdx_after y z zs ys)

theorem eraseIdx_after {β : Type*} (y z : β) (zs : List β) : ∀ ys : List β,
    (ys ++ y :: z :: zs).eraseIdx (ys.length + 1) = ys ++ y :: zs
  | [] => rfl
  | w :: ys => congrArg (w :: ·) (eraseIdx_after y z zs ys)

theorem listInsertHead_cells (h : Cells l as) (ha : l.heap a = none) :
    Cells (listInsertHead l (some x) (some a)) ((a, x) :: as) := by
  refine ⟨?_, h.toInt32_succ⟩
  have hs := h.seg.push ha x
  rwa [← write_write l.heap a ⟨x, none⟩] at hs

theorem listInsertTail_cells (h : Cells l as) (ha : l.heap a = none) :
    ∃ l', listInsertTail l (some x) (some a) = some l' ∧ Cells l' (as ++ [(a, x)]) := by
  rcases List.eq_nil_or_concat as with rfl | ⟨as', ⟨b, y⟩, rfl⟩
  · refine ⟨_, by rw [listInsertTail, h.nil_head]; rfl, ⟨?_, h.toInt32_succ⟩⟩
    have hs := h.seg.push ha x
    rwa [h.nil_head] at hs
  · rw [List.concat_eq_append] at h ⊢
    obtain ⟨hlast, hs⟩ := h.seg.snoc ha x
    -- the walk to the last node does not meet the new one
    have hw : Seg (l.heap.write a ⟨x, none⟩) l.head (as' ++ [(b, y)]) none :=
      h.seg.write (h.seg.fresh ha) _
    have hwalk := lastCell_seg h.seg.lt_rounds_left hw
    obtain ⟨head, hhead⟩ := h.seg.head_some
    rw [hhead, Option.bind_some] at hwalk
    refine ⟨⟨(l.heap.write a ⟨x, none⟩).write b ⟨y, some a⟩, l.head, toInt32 (l.size + 1)⟩, ?_, hs, ?_⟩
    · rw [listInsertTail, hhead]
      dsimp only [createNode, Option.map_some]
      rw [hwalk, Option.bind_some, write_of_ne _ _ (ne_of_new ha hlast), hlast, Option.bind_some]
    · have hlen : (as' ++ [(b, y)] ++ [(a, x)]).length = (as' ++ [(b, y)]).length + 1 :=
        List.length_append
      rw [hlen]
      exact h.toInt32_succ

/-- An insertion behind the node before the index. -/
theorem listInsertAt_cells (h : Cells l as) (ha : l.heap a = none) (hk : k ≤ as.length) :
    ∃ l', listInsertAt l k (some x) (some a) = some (l', 0) ∧ Cells l' (as.insertIdx k (a, x)) := by
  have hsize := h.size
  rw [listInsertAt, if_neg (by omega)]
  cases k with
  | zero => exact ⟨_, if_pos rfl, listInsertHead_cells h ha⟩
  | succ k =>
    rw [if_neg (by omega), show ((k + 1 : ℕ) - 1 : ℤ).toNat = k by omega]
    obtain ⟨as₁, b, y, as₂, rfl, rfl, hadv⟩ := h.seg.reach hk
    obtain ⟨n, hn, hs⟩ := h.seg.insertAfter ha x
    have hab : b ≠ a := ne_of_new ha hn
    refine ⟨⟨(l.heap.write a ⟨x, n⟩).write b ⟨y, some a⟩, l.head, toInt32 (l.size + 1)⟩, ?_, ?_, ?_⟩
    · rw [hadv, Option.bind_some]
      dsimp only [createNode, Option.map_some]
      rw [Option.bind_some, write_of_ne _ _ hab, hn, Option.bind_some, write_write]
    · rw [insertIdx_after]
      exact hs
    · rw [h.toInt32_succ, List.length_insertIdx_of_le_length hk]
      rfl

/-! ### Walks that read -/

theorem listFindFrom_seg {heap : Heap Addr α} (hit : α → Bool) : ∀ {as : List (Addr × α)}
    {p : Option Addr} (i : ℤ), Seg heap p as none →
      listFindFrom heap hit as.length i p =
        some ((((as.map Prod.snd).findIdx? hit).map fun k : ℕ => i + k).getD (-1))
  | [], _, _, _ => rfl
  | (a, x) :: as, _, i, ⟨hp, n, hn, hs⟩ => by
    rw [hp, List.length_cons, listFindFrom, Heap.deref, Option.bind_some, hn, Option.bind_some,
      List.map_cons, List.findIdx?_cons, listFindFrom_seg hit (i + 1) hs]
    dsimp only
    split_ifs with hx
    · exact congrArg some (Int.add_zero i).symm
    · rw [Option.map_map]
      congr 3
      funext k
      dsimp only [Function.comp_apply]
      omega

theorem listFind_cells (h : Cells l as) (target : Option α) (compare : Option (α → α → ℤ)) :
    listFind l target compare = some (indexRet (seqFind (as.map Prod.snd) target compare)) := by
  rcases target with _ | t
  · rfl
  rcases compare with _ | cmp
  · rfl
  dsimp only [listFind, seqFind]
  rw [h.size, Int.toNat_natCast, listFindFrom_seg _ _ h.seg]
  split_ifs with hzero
  · obtain rfl : as = [] := List.length_eq_zero_iff.mp (by omega)
    rfl
  · unfold indexRet
    congr 3
    funext k
    exact Int.zero_add _

theorem listGet_cells (h : Cells l as) (index : ℤ) :
    listGet l index = some ((place (as.map Prod.snd).length index).bind fun i =>
      (as.map Prod.snd)[i]?) := by
  unfold listGet place
  rw [List.length_map, h.size]
  by_cases hi : 0 ≤ index ∧ index < as.length
  · rw [if_neg (by omega), if_pos hi, Option.bind_some]
    obtain ⟨as₁, b, y, as₂, rfl, hlen, hadv⟩ := h.seg.reach (k := index.toNat) (by omega)
    obtain ⟨r, -, hr, n, hn, -⟩ := seg_append.mp h.seg
    rw [hadv, Option.bind_some, Heap.deref, Option.bind_some, hn, Option.map_some, List.map_append,
      List.map_cons, ← hlen, ← List.length_map (f := Prod.snd), List.getElem?_append_right le_rfl,
      Nat.sub_self, List.getElem?_cons_zero]
  · rw [if_pos (by omega), if_neg hi]
    rfl

/-! ### Removals -/

theorem listRemoveHead_cells (h : Cells l as) (hpos : 0 < as.length) :
    ∃ l', listRemoveHead l = some (l', 0) ∧ Cells l' (as.eraseIdx 0) := by
  obtain ⟨⟨a, x⟩, as, rfl⟩ := List.exists_cons_of_length_pos hpos
  obtain ⟨n, hn, hp, hs⟩ := h.seg.pop
  have hsize : l.size ≠ 0 := by
    rw [h.size]
    omega
  refine ⟨⟨l.heap.free a, n, toInt32 (l.size - 1)⟩, ?_, hs, ?_⟩
  · rw [listRemoveHead, if_neg hsize, hp, Option.bind_some, hn, Option.bind_some]
  · refine h.toInt32_pred.trans ?_
    rw [List.eraseIdx_cons_zero, List.length_cons]
    omega

theorem listRemoveAt_cells (h : Cells l as) (hk : k < as.length) :
    ∃ l', listRemoveAt l k = some (l', 0) ∧ Cells l' (as.eraseIdx k) := by
  have hsize := h.size
  rw [listRemoveAt, if_neg (by omega)]
  cases k with
  | zero =>
    rw [if_pos Int.natCast_zero]
    exact listRemoveHead_cells h hk
  | succ k =>
    rw [if_neg (by omega), show ((k + 1 : ℕ) - 1 : ℤ).toNat = k by omega]
    obtain ⟨as₁, b, y, as₂, rfl, rfl, hadv⟩ := h.seg.reach (Nat.lt_of_succ_lt hk)
    rw [List.length_append, List.length_cons] at hk
    obtain ⟨⟨a, x⟩, as₃, rfl⟩ := List.exists_cons_of_length_pos (l := as₂) (by omega)
    obtain ⟨n, hb, ha, hs⟩ := h.seg.removeAfter
    refine ⟨⟨(l.heap.write b ⟨y, n⟩).free a, l.head, toInt32 (l.size - 1)⟩, ?_, ?_, ?_⟩
    · rw [hadv, Option.bind_some, Option.bind_some, hb, Option.bind_some, Option.bind_some, ha,
        Option.bind_some]
    · rw [eraseIdx_after]
      exact hs
    · rw [h.toInt32_pred, eraseIdx_after]
      simp only [List.length_append, List.length_cons]
      omega

theorem listRemoveTail_cells (h : Cells l as) (hpos : 0 < as.length) :
    ∃ l', listRemoveTail l = some (l', 0) ∧ Cells l' (as.eraseIdx (as.length - 1)) := by
  have hsize := h.size
  rw [listRemoveTail, if_neg (by omega)]
  by_cases hone : as.length = 1
  · rw [if_pos (by omega), hone]
    exact listRemoveHead_cells h hpos
  · rw [if_neg (by omega)]
    obtain ⟨as₁, b, y, as₂, rfl, hlen, -⟩ := h.seg.reach (k := as.length - 2) (by omega)
    rw [List.length_append, List.length_cons] at hpos hone hlen
    obtain ⟨⟨a, x⟩, rfl⟩ : ∃ c, as₂ = [c] := List.length_eq_one_iff.mp (by omega)
    have hwalk := beforeLast_seg h.seg.lt_rounds_left h.seg
    obtain ⟨n, hb, ha, hs⟩ := h.seg.removeAfter
    have hseg : Seg l.heap l.head ((as₁ ++ [(b, y)]) ++ [(a, x)]) none := by
      rw [List.append_assoc]
      exact h.seg
    have hlast := hseg.last
    rw [ha] at hlast
    obtain rfl : n = none := congrArg Cell.next (Option.some.inj hlast)
    have herase : (as₁ ++ [(b, y), (a, x)]).eraseIdx ((as₁ ++ [(b, y), (a, x)]).length - 1) =
        as₁ ++ [(b, y)] := by
      rw [show (as₁ ++ [(b, y), (a, x)]).length - 1 = as₁.length + 1 by simp, eraseIdx_after]
    refine ⟨⟨(l.heap.write b ⟨y, none⟩).free a, l.head, toInt32 (l.size - 1)⟩, ?_, ?_, ?_⟩
    · rw [hwalk, Option.bind_some, hb, Option.bind_some, Option.bind_some, ha, Option.bind_some]
    · rw [herase]
      exact hs
    · refine h.toInt32_pred.trans ?_
      rw [herase]
      simp only [List.length_append, List.length_cons, List.length_nil]
      omega

/-! ### Calls -/

theorem place_of_lt {n : ℕ} (hk : k < n) : place n k = some k := by
  unfold place
  rw [if_pos (by omega), Int.toNat_natCast]

theorem place_of_not {n : ℕ} {index : ℤ} (hi : index < 0 ∨ n ≤ index) : place n index = none :=
  if_neg (by omega)

/-- A valid index is a place. -/
theorem place_cases (n : ℕ) (index : ℤ) :
    (∃ k < n, index = (k : ℤ) ∧ place n index = some k) ∨
      (index < 0 ∨ n ≤ index) ∧ place n index = none := by
  by_cases hi : index < 0 ∨ n ≤ index
  · exact .inr ⟨hi, place_of_not hi⟩
  · obtain ⟨k, rfl⟩ := Int.eq_ofNat_of_zero_le (a := index) (by omega)
    have hk : k < n := by omega
    exact .inl ⟨k, hk, rfl, place_of_lt hk⟩

theorem seqFind_lt {xs : List α} {target : Option α} {compare : Option (α → α → ℤ)}
    (hfind : seqFind xs target compare = some k) : k < xs.length := by
  rcases target with _ | t
  · exact nomatch hfind
  rcases compare with _ | cmp
  · exact nomatch hfind
  obtain ⟨hk, -⟩ := List.findIdx?_eq_some_iff_getElem.mp hfind
  exact hk

/-- What a call of the code does where the sequence gets `r`. -/
def Meets (l : LinkedList α) (xs : List α) (code : Option (LinkedList α × ListRet α))
    (r : List α × ListRet α) : Prop :=
  ∃ l', code = some (l', r.2) ∧ Holds l' r.1 ∧ (r.1 = xs → l' = l)

theorem Meets.same (h : Cells l as) (ret : ListRet α) :
    Meets l (as.map Prod.snd) (some (l, ret)) (as.map Prod.snd, ret) :=
  ⟨l, rfl, ⟨as, h, rfl⟩, fun _ => rfl⟩

/-- An element went. -/
theorem Meets.removed {r : Option (LinkedList α × ℤ)} (hk : k < as.length)
    (hr : ∃ l', r = some (l', 0) ∧ Cells l' (as.eraseIdx k)) :
    Meets l (as.map Prod.snd) (r.map (.map id .int)) (seqRemove (as.map Prod.snd) (some k)) := by
  obtain ⟨l', rfl, h'⟩ := hr
  refine ⟨l', rfl, ⟨_, h', (List.eraseIdx_map ..).symm⟩, fun heq => ?_⟩
  have hlen := congrArg List.length heq
  rw [seqRemove, List.length_eraseIdx_of_lt (by rwa [List.length_map])] at hlen
  rw [List.length_map] at hlen
  omega

/-- An element came. -/
theorem Meets.inserted {l' : LinkedList α} (ret : ListRet α) (hk : k ≤ as.length)
    (h' : Cells l' (as.insertIdx k (a, x))) :
    Meets l (as.map Prod.snd) (some (l', ret)) ((as.map Prod.snd).insertIdx k x, ret) := by
  refine ⟨l', rfl, ⟨_, h', List.map_insertIdx ..⟩, fun heq => ?_⟩
  have hlen := congrArg List.length heq
  rw [List.length_insertIdx_of_le_length (by rwa [List.length_map])] at hlen
  omega

theorem listRemoveAt_meets (h : Cells l as) (index : ℤ) :
    Meets l (as.map Prod.snd) ((listRemoveAt l index).map (.map id .int))
      (seqRemove (as.map Prod.snd) (place as.length index)) := by
  rcases place_cases as.length index with ⟨k, hk, rfl, hp⟩ | ⟨hi, hp⟩
  · rw [hp]
    exact .removed hk (listRemoveAt_cells h hk)
  · rw [hp, listRemoveAt, h.size, if_pos hi]
    exact .same h _

/-- **A call is the call on the sequence.** -/
theorem listCall_meets (h : Cells l as) {op : ListOp α} (hop : op.Allocates l) :
    Meets l (as.map Prod.snd) (listCall l op) (seqCall (as.map Prod.snd) op) := by
  have hsize := h.size
  cases op with
  | insertHead data node =>
    rcases data with _ | x
    · exact .same h _
    · obtain ⟨a, rfl, ha⟩ := hop
      exact .inserted _ (Nat.zero_le _) (listInsertHead_cells h ha)
  | insertTail data node =>
    rcases data with _ | x
    · exact .same h _
    · obtain ⟨a, rfl, ha⟩ := hop
      obtain ⟨l', hl', h'⟩ := listInsertTail_cells (x := x) h ha
      rw [← List.insertIdx_length_self] at h'
      have hm := Meets.inserted (l := l) .void le_rfl h'
      rw [listCall, hl', seqCall]
      rwa [← List.length_map (f := Prod.snd), List.insertIdx_length_self] at hm
  | insertAt index data node =>
    rcases data with _ | x
    · exact .same h _
    · rw [seqCall, List.length_map]
      rcases place_cases (as.length + 1) index with ⟨k, hk, rfl, hp⟩ | ⟨hi, hp⟩
      · obtain ⟨a, rfl, ha⟩ := hop (by omega) (by omega)
        obtain ⟨l', hl', h'⟩ := listInsertAt_cells (x := x) h ha (Nat.le_of_lt_succ hk)
        rw [hp, listCall, hl']
        exact .inserted _ (Nat.le_of_lt_succ hk) h'
      · rw [hp, listCall, listInsertAt, if_pos (by omega)]
        exact .same h _
  | find target compare =>
    rw [listCall, listFind_cells h]
    exact .same h _
  | get index =>
    rw [listCall, listGet_cells h]
    exact .same h _
  | removeHead =>
    rw [seqCall, List.length_map, listCall]
    rcases Nat.eq_zero_or_pos as.length with hz | hpos
    · rw [hz, place_of_not (.inr (Int.le_refl 0)), listRemoveHead, if_pos (by omega)]
      exact .same h _
    · rw [show (0 : ℤ) = (0 : ℕ) from rfl, place_of_lt hpos]
      exact .removed hpos (listRemoveHead_cells h hpos)
  | removeTail =>
    rw [seqCall, List.length_map, listCall]
    rcases Nat.eq_zero_or_pos as.length with hz | hpos
    · rw [hz, place_of_not (.inl (by omega)), listRemoveTail, if_pos (by omega)]
      exact .same h _
    · rw [show (as.length - 1 : ℤ) = (as.length - 1 : ℕ) by omega, place_of_lt (by omega)]
      exact .removed (by omega) (listRemoveTail_cells h hpos)
  | removeAt index =>
    rw [seqCall, List.length_map]
    exact listRemoveAt_meets h index
  | removeByValue target compare =>
    rw [listCall, listRemoveByValue, listFind_cells h, Option.bind_some, seqCall]
    cases hfind : seqFind (as.map Prod.snd) target compare with
    | none => exact .same h _
    | some k =>
      have hk : k < as.length := by
        have hlt := seqFind_lt hfind
        rwa [List.length_map] at hlt
      have hm := listRemoveAt_meets h k
      rw [place_of_lt hk] at hm
      rw [if_neg (by rw [indexRet, Option.map_some, Option.getD_some]; omega)]
      exact hm
  | size =>
    rw [listCall, hsize, seqCall, List.length_map]
    exact .same h _

end

/-! ### Runs -/

/-- A call, as a step of the list. -/
def listCallStep (l : LinkedList α) (op : ListOp α) : Option (LinkedList α) :=
  (listCall l op).map Prod.fst

/-- The sequence after calls on an empty one. -/
def seqRun (ops : List (ListOp α)) : List α := ops.foldl (fun xs op => (seqCall xs op).1) []

theorem holds_create : Holds (listCreate : LinkedList α) [] := ⟨[], ⟨rfl, rfl⟩, rfl⟩

theorem listCall_holds {l : LinkedList α} {xs : List α} (h : Holds l xs) {op : ListOp α}
    (hop : op.Allocates l) : Meets l xs (listCall l op) (seqCall xs op) := by
  obtain ⟨as, has, rfl⟩ := h
  exact listCall_meets has hop

/-- **The generic list refines a sequence.** After any calls on a created list,
with any indices and values and with every allocation served, the list holds
the sequence the operations give, and the next call, whichever it is, follows
no link that is not there, returns what the sequence says and leaves a list
that holds the new sequence; a call that leaves the sequence as it is leaves
the list as it is. -/
theorem list_refines {ops : List (ListOp α)} {l : LinkedList α}
    (hrun : Run listCallStep ListOp.Allocates listCreate ops l) :
    Holds l (seqRun ops) ∧ ∀ op : ListOp α, op.Allocates l →
      ∃ l', listCall l op = some (l', (seqCall (seqRun ops) op).2) ∧
        Holds l' (seqRun (ops ++ [op])) ∧ (seqRun (ops ++ [op]) = seqRun ops → l' = l) := by
  have hl : Holds l (seqRun ops) := by
    refine hrun.refines holds_create fun l op l' xs hxs hop hstep => ?_
    obtain ⟨l₁, hcall, h₁, -⟩ := listCall_holds hxs hop
    rw [listCallStep, hcall] at hstep
    exact Option.some.inj hstep ▸ h₁
  refine ⟨hl, fun op hop => ?_⟩
  have hnext : seqRun (ops ++ [op]) = (seqCall (seqRun ops) op).1 := List.foldl_append ..
  rw [hnext]
  exact listCall_holds hl hop

theorem list_refines_two : ∃ l : LinkedList ℕ, Holds l [30, 10] := by
  have hrun : Run listCallStep ListOp.Allocates (listCreate : LinkedList ℕ)
      ([.insertTail (some 10) (some 1)] ++ [.insertHead (some 30) (some 0)]) _ :=
    .snoc (.single ⟨1, rfl, rfl⟩ rfl) ⟨0, rfl, rfl⟩ rfl
  exact ⟨_, (list_refines hrun).1⟩

end WtslCore
