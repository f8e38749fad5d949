/-
# Removing nodes from the list

`delete_wtsl_node_by_id` takes the first node with an id out of the list and
leaves the ids of the others; a new node gets the number of nodes as its id.
The loops of the service and of the HTTP answers ask for the ids 0, 1, … up to
the count. They meet every node once as long as the ids are the numbers below
the count (`IdsDense`), and a removal keeps that exactly when it takes the last
id or none (`ids_dense_iff`).

Whatever is removed, no id gets below the place of its node (`AbovePlace`), so
ids that are dense are in order.

Key definitions: `deleteWtslNodeById`, `ListEvent`, `listStep`, `IdsDense`,
`visited`, `RemovesLast`.
Key theorems: `dense_of_idsDense`, `idsDense_delete_iff`, `ids_dense_iff`.
-/
import WtslCore.Node.Service

namespace WtslCore

open Runs

/-- `delete_wtsl_node_by_id`: the result and the list after it. -/
def deleteWtslNodeById (l : List Node) (id : ℤ) : ℤ × List Node :=
  match findWtslNodeById l id with
  | none => (-1, l)
  | some _ => (0, l.eraseP fun n => (n.id : ℤ) == id)

/-- What happens to the node list. -/
inductive ListEvent
  | heartbeat (h : Heartbeat)
  | delete (id : ℤ)

/-- One event; it is defined on every list. -/
def listStep (l : List Node) : ListEvent → Option (List Node)
  | .heartbeat h => some (parseDataHeartbeat l h)
  | .delete id => some (deleteWtslNodeById l id).2

/-- The ids are distinct, and they are the numbers below the count. -/
structure IdsDense (l : List Node) : Prop where
  nodup : (l.map Node.id).Nodup
  mem_iff : ∀ i, i ∈ l.map Node.id ↔ i < l.length

/-- The nodes a loop over the ids below the count meets. -/
def visited (l : List Node) : List Node :=
  (List.range l.length).filterMap fun i : ℕ => findWtslNodeById l i

/-- The condition on an event: a removal takes the last id, or finds none. -/
def RemovesLast (l : List Node) : ListEvent → Prop
  | .heartbeat _ => True
  | .delete id => ∀ n ∈ l, (n.id : ℤ) = id → n.id + 1 = l.length

/-- No id is below the place of its node. -/
def AbovePlace (l : List Node) : Prop := ∀ (i : ℕ) (n : Node), l[i]? = some n → i ≤ n.id

variable {l l' : List Node}

/-! ### Dense ids are in order -/

/-- Distinct numbers below the length, none of them below its place. -/
theorem eq_range_of_above_place (xs : List ℕ) (hnodup : xs.Nodup) (hlt : ∀ x ∈ xs, x < xs.length)
    (hplace : ∀ i x : ℕ, xs[i]? = some x → i ≤ x) : xs = List.range xs.length := by
  induction xs using List.reverseRecOn with
  | nil => rfl
  | append_singleton xs x ih =>
    -- the last one can only be the greatest, the others are below it
    have hx : x = xs.length := by
      have h1 := hplace xs.length x List.getElem?_concat_length
      have h2 := hlt x (List.mem_append_right _ (List.mem_singleton_self x))
      rw [List.length_append, List.length_singleton] at h2
      omega
    have hrest : xs = List.range xs.length := by
      refine ih hnodup.of_append_left (fun y hy => ?_) fun i y hi => ?_
      · have hne : y ≠ x := by
          rintro rfl
          exact (List.disjoint_of_nodup_append hnodup) hy (List.mem_singleton_self y)
        have hy' := hlt y (List.mem_append_left _ hy)
        rw [List.length_append, List.length_singleton] at hy'
        omega
      · refine hplace i y ?_
        rw [List.getElem?_append_left (List.getElem?_eq_some_iff.mp hi).1]
        exact hi
    rw [List.length_append, List.length_singleton, List.range_succ, ← hrest, hx]

theorem dense_of_idsDense (h : IdsDense l) (hp : AbovePlace l) : Dense l := by
  have hrange := eq_range_of_above_place (l.map Node.id) h.nodup
    (fun x hx => by rw [List.length_map]; exact (h.mem_iff x).mp hx)
    (fun i x hi => by
      rw [List.getElem?_map, Option.map_eq_some_iff] at hi
      obtain ⟨n, hn, rfl⟩ := hi
      exact hp i n hn)
  rwa [List.length_map] at hrange

theorem Dense.idsDense (h : Dense l) : IdsDense l where
  nodup := h.nodup
  mem_iff i := by
    rw [show l.map Node.id = List.range l.length from h]
    exact List.mem_range

/-- On a dense list the loop walks the list. -/
theorem visited_dense (h : Dense l) : visited l = l := by
  have hlook : (fun i : ℕ => findWtslNodeById l i) = fun i => l[i]? :=
    funext fun i => findWtslNodeById_dense h i
  have hmap : (List.range l.length).map (fun i => l[i]?) = l.map some := by
    refine List.ext_getElem (by simp) fun i h1 h2 => ?_
    rw [List.length_map] at h2
    simp [h2]
  calc visited l = ((List.range l.length).map fun i => l[i]?).filterMap id := by
        rw [visited, hlook, List.filterMap_map, Function.id_comp]
    _ = l := by rw [hmap, List.filterMap_map, Function.id_comp, List.filterMap_some]

/-! ### What an event keeps -/

/-- A heartbeat renames no node; a new one stands at its id. -/
theorem AbovePlace.heartbeat (hp : AbovePlace l) (h : Heartbeat) :
    AbovePlace (parseDataHeartbeat l h) := by
  unfold parseDataHeartbeat
  split_ifs with hnew
  · intro i n hi
    rcases Nat.lt_or_ge i l.length with hlt | hge
    · rw [List.getElem?_append_left hlt] at hi
      exact hp i n hi
    · have hlen := (List.getElem?_eq_some_iff.mp hi).1
      rw [List.length_append, List.length_singleton] at hlen
      obtain rfl : i = l.length := by omega
      rw [List.getElem?_concat_length] at hi
      obtain rfl := Option.some.inj hi
      exact le_rfl
  · have hids : (updateHeartbeat l h).map Node.id = l.map Node.id := by
      unfold updateHeartbeat
      dsimp only
      split
      · rfl
      · exact map_updateFirst _ fun _ _ => rfl
    intro i n hi
    have hid : ((updateHeartbeat l h).map Node.id)[i]? = some n.id := by
      rw [List.getElem?_map, hi, Option.map_some]
    rw [hids, List.getElem?_map, Option.map_eq_some_iff] at hid
    obtain ⟨m, hm, he⟩ := hid
    exact he ▸ hp i m hm

/-- A removal moves nodes to smaller places only. -/
theorem above_eraseP (p : Node → Bool) : ∀ (l : List Node) (k : ℕ),
    (∀ (i : ℕ) (n : Node), l[i]? = some n → k + i ≤ n.id) →
      ∀ (i : ℕ) (n : Node), (l.eraseP p)[i]? = some n → k + i ≤ n.id
  | [], _, _, i, n, hi => by simp at hi
  | a :: l, k, h, i, n, hi => by
    have htail : ∀ (j : ℕ) (m : Node), l[j]? = some m → k + 1 + j ≤ m.id := fun j m hj => by
      have := h (j + 1) m hj
      omega
    cases hpa : p a with
    | true =>
      rw [List.eraseP_cons_of_pos hpa] at hi
      have := htail i n hi
      omega
    | false =>
      rw [List.eraseP_cons_of_neg (by simp [hpa])] at hi
      cases i with
      | zero => exact h 0 n hi
      | succ i =>
        have := above_eraseP p l (k + 1) htail i n hi
        omega

theorem AbovePlace.delete (hp : AbovePlace l) (id : ℤ) : AbovePlace (deleteWtslNodeById l id).2 := by
  unfold deleteWtslNodeById
  split
  · exact hp
  · intro i n hi
    have := above_eraseP _ l 0 (fun j m hj => by have := hp j m hj; omega) i n hi
    omega

theorem AbovePlace.step {e : ListEvent} (hp : AbovePlace l) (h : listStep l e = some l') :
    AbovePlace l' := by
  cases e with
  | heartbeat hb => exact Option.some.inj h ▸ hp.heartbeat hb
  | delete id => exact Option.some.inj h ▸ hp.delete id

theorem AbovePlace.of_dense (h : Dense l) : AbovePlace l := fun _ _ hi => (h.id_eq hi).ge

/-- A node is taken out of a dense list at its id. -/
theorem delete_dense (hd : Dense l) {n : Node} (hn : n ∈ l) :
    ∃ l₁ l₂, l = l₁ ++ n :: l₂ ∧ n.id = l₁.length ∧ (deleteWtslNodeById l n.id).2 = l₁ ++ l₂ := by
  have hfind : findWtslNodeById l n.id = some n := by
    obtain ⟨i, hi⟩ := List.mem_iff_getElem?.mp hn
    rw [findWtslNodeById_dense hd, hd.id_eq hi]
    exact hi
  have hdel : (deleteWtslNodeById l n.id).2 = l.eraseP fun m => (m.id : ℤ) == n.id := by
    unfold deleteWtslNodeById
    rw [hfind]
  obtain ⟨a, l₁, l₂, -, ha, hl, he⟩ :=
    List.exists_of_eraseP (p := fun m : Node => (m.id : ℤ) == n.id) hn (by simp)
  have hid : (a.id : ℤ) = n.id := by simpa using ha
  obtain rfl : a = n := hd.eq_of_id (hl ▸ by simp) hn (Int.ofNat.inj hid)
  refine ⟨l₁, l₂, hl, hd.id_eq (i := l₁.length) ?_, hdel.trans he⟩
  rw [hl, List.getElem?_append_right le_rfl, Nat.sub_self]
  rfl

/-- **A removal keeps dense ids exactly if it takes the last one or none.** -/
theorem idsDense_delete_iff (hd : Dense l) (id : ℤ) :
    IdsDense (deleteWtslNodeById l id).2 ↔ RemovesLast l (.delete id) := by
  by_cases hex : ∃ n ∈ l, (n.id : ℤ) = id
  · obtain ⟨n, hn, rfl⟩ := hex
    obtain ⟨l₁, l₂, rfl, hid, hdel⟩ := delete_dense hd hn
    rw [hdel]
    constructor
    · -- a node behind the removed one would have an id that is too great
      intro h m hm hmid
      obtain rfl := hd.eq_of_id hm hn (by omega)
      rw [List.length_append, List.length_cons]
      by_contra hne
      obtain ⟨y, hy⟩ : ∃ y, l₂.getLast? = some y := by
        cases hl₂ : l₂.getLast? with
        | some y => exact ⟨y, rfl⟩
        | none =>
          rw [List.getLast?_eq_none_iff.mp hl₂, List.length_nil] at hne
          omega
      rw [List.getLast?_eq_getElem?] at hy
      have hlt := (List.getElem?_eq_some_iff.mp hy).1
      have hplace : (l₁ ++ m :: l₂)[l₁.length + l₂.length]? = some y := by
        rw [List.getElem?_append_right (by omega), show l₁.length + l₂.length - l₁.length =
          (l₂.length - 1) + 1 by omega, List.getElem?_cons_succ]
        exact hy
      have hyid := hd.id_eq hplace
      have hymem : y.id ∈ (l₁ ++ l₂).map Node.id :=
        List.mem_map_of_mem (List.mem_append_right _ (List.mem_of_getElem? hy))
      have hbound := (h.mem_iff y.id).mp hymem
      rw [List.length_append] at hbound
      omega
    · intro h
      have hlast := h n hn rfl
      rw [List.length_append, List.length_cons] at hlast
      have hnil : l₂ = [] := List.length_eq_zero_iff.mp (by omega)
      subst hnil
      rw [List.append_nil]
      refine Dense.idsDense ?_
      have hall : (l₁ ++ [n]).map Node.id = List.range (l₁ ++ [n]).length := hd
      rw [List.map_append, List.length_append, List.length_singleton, List.range_succ] at hall
      exact (List.append_inj' hall rfl).1
  · have hsame : (deleteWtslNodeById l id).2 = l := by
      have hnone : findWtslNodeById l id = none := by
        rw [findWtslNodeById, List.find?_eq_none]
        intro n hn hid
        exact hex ⟨n, hn, by simpa using hid⟩
      unfold deleteWtslNodeById
      rw [hnone]
    rw [hsame]
    exact iff_of_true hd.idsDense fun n hn hid => absurd ⟨n, hn, hid⟩ hex

/-- One event on a list with dense ids. -/
theorem idsDense_step_iff {e : ListEvent} (hp : AbovePlace l) (h : IdsDense l)
    (hs : listStep l e = some l') : IdsDense l' ↔ RemovesLast l e := by
  have hd := dense_of_idsDense h hp
  cases e with
  | heartbeat hb =>
    obtain rfl := Option.some.inj hs
    exact iff_of_true (dense_parseDataHeartbeat hd).idsDense trivial
  | delete id =>
    obtain rfl := Option.some.inj hs
    exact idsDense_delete_iff hd id

/-- **The ids stay dense in exactly the runs whose removals take the last id**,
or none; there every loop over the ids meets each node once, in order. -/
theorem ids_dense_iff (g : SplinkInfo) (c : ConnInfo) (a : Bool) (addr : SockAddrIn) (t : ℕ)
    (es : List ListEvent) (l : List Node) :
    (Run listStep (fun l e => ∀ l', listStep l e = some l' → IdsDense l')
          (NodeState.start g c a addr t).list es l ↔
        Run listStep RemovesLast (NodeState.start g c a addr t).list es l) ∧
      (Run listStep RemovesLast (NodeState.start g c a addr t).list es l →
        IdsDense l ∧ visited l = l) := by
  have hd := dense_start g c a addr t
  refine ⟨Run.stays_iff (AbovePlace.of_dense hd) hd.idsDense (fun _ _ _ hp hs => hp.step hs)
    fun _ _ _ hp h hs => idsDense_step_iff hp h hs, fun hrun => ?_⟩
  have hdense : Dense l := by
    refine hrun.invariant hd fun l e l' hd hok hs => ?_
    have hp := AbovePlace.of_dense hd
    exact dense_of_idsDense ((idsDense_step_iff hp hd.idsDense hs).mpr hok) (hp.step hs)
  exact ⟨hdense.idsDense, visited_dense hdense⟩

/-- Three peers report, and the second node is removed before the third one
comes: its id is taken twice and the loop meets one of the two only. -/
theorem ids_collide : ∃ l,
    exec listStep NodeState.alone.list
        [.heartbeat (.blank "0a:00:00:00:00:02".toList ⟨0x0a000002, 9000⟩ 10),
          .heartbeat (.blank "0a:00:00:00:00:03".toList ⟨0x0a000003, 9000⟩ 10), .delete 1,
          .heartbeat (.blank "0a:00:00:00:00:04".toList ⟨0x0a000004, 9000⟩ 20)] = some l ∧
      l.map Node.id = [0, 2, 2] ∧ (visited l).map Node.id = [0, 2] ∧ ¬ IdsDense l := by
  refine ⟨_, rfl, by decide, by decide, fun h => ?_⟩
  exact absurd h.nodup (by decide)

end WtslCore
