/-
# Chains of cells in a heap

A linked list is a chain of cells: each holds a value and the address of the
next. A heap is a partial function from addresses to cells, and following the
link of a pointer that is NULL, or of a cell that is not there, has no outcome.
`Seg h p as q` says that the links lead from `p` over the cells `as` to `q`;
a chain is a segment to NULL, so no cell is on it twice (`Seg.nodup`). A walk
along a chain is a walk along the list of its cells (`advance_seg`,
`lastCell_seg`, `seek_found`), and a cell is linked in or out by one write
before it (`Seg.push`, `Seg.insertAfter`, `Seg.snoc`, `Seg.removeAfter`). In a 32-bit
address space a chain is too short for an `int` counter to overflow
(`Seg.toInt32_succ`).

Key definitions: `Cell`, `Heap`, `Seg`, `advance`, `lastCell`, `beforeLast`, `seek`, `Addr`.
Key theorems: `seg_append`, `Seg.nodup`, `Seg.insertAfter`, `Seg.removeAfter`,
`advance_seg`, `lastCell_seg`, `beforeLast_seg`, `seek_found`, `Seg.length_le`.
-/
import Mathlib.Data.Fintype.Card
import Mathlib.Data.List.Nodup
import Mathlib.Logic.Function.Basic

namespace WtslCore

/-- A cell: its value, and the next cell's address or NULL. -/
structure Cell (A α : Type*) where
  data : α
  next : Option A
  deriving DecidableEq

/-- The cells that are allocated. -/
abbrev Heap (A α : Type*) := A → Option (Cell A α)

variable {A α : Type*}

/-- The cell a pointer points to. -/
def Heap.deref (h : Heap A α) (p : Option A) : Option (Cell A α) := p.bind h

/-! ### Walks -/

section

variable (h : Heap A α)

/-- `for (i = 0; i < k; i++) p = p->next;` -/
def advance : ℕ → Option A → Option (Option A)
  | 0, p => some p
  | k + 1, p => (h.deref p).bind fun c => advance k c.next

/-- `while (a->next) a = a->next;`, for a number of rounds. -/
def lastCell : ℕ → A → Option A
  | 0, _ => none
  | n + 1, a => (h a).bind fun c =>
    match c.next with
    | none => some a
    | some b => lastCell n b

/-- `while (a->next->next) a = a->next;`, for a number of rounds. -/
def beforeLast : ℕ → A → Option A
  | 0, _ => none
  | n + 1, a => (h a).bind fun c =>
    match c.next with
    | none => none
    | some b => (h b).bind fun d =>
      match d.next with
      | none => some a
      | some _ => beforeLast n b

/-- `while (p && !stop(p->data)) { prev = p; p = p->next; }`, for a number of rounds. -/
def seek (stop : α → Bool) : ℕ → Option A → Option A → Option (Option A × Option A)
  | 0, _, _ => none
  | _ + 1, prev, none => some (prev, none)
  | n + 1, prev, some a => (h a).bind fun c =>
    if stop c.data then some (prev, some a) else seek stop n (some a) c.next

/-! ### Segments -/

/-- The links lead from `p` over the cells `as` to `q`. -/
def Seg : Option A → List (A × α) → Option A → Prop
  | p, [], q => p = q
  | p, (a, x) :: as, q => p = some a ∧ ∃ n, h a = some ⟨x, n⟩ ∧ Seg n as q

end

variable {h h' : Heap A α} {p q r : Option A} {a b : A} {x y : α} {as bs : List (A × α)}

theorem seg_append : ∀ {as : List (A × α)} {p : Option A},
    Seg h p (as ++ bs) q ↔ ∃ r, Seg h p as r ∧ Seg h r bs q
  | [], p => by simp [Seg]
  | (a, x) :: as, p => by
    rw [List.cons_append]
    constructor
    · rintro ⟨hp, n, hn, hs⟩
      obtain ⟨r, h1, h2⟩ := seg_append.mp hs
      exact ⟨r, ⟨hp, n, hn, h1⟩, h2⟩
    · rintro ⟨r, ⟨hp, n, hn, h1⟩, h2⟩
      exact ⟨hp, n, hn, seg_append.mpr ⟨r, h1, h2⟩⟩

/-- A segment only depends on its own cells. -/
theorem Seg.congr : ∀ {as : List (A × α)} {p : Option A}, Seg h p as q →
    (∀ c ∈ as.map Prod.fst, h' c = h c) → Seg h' p as q
  | [], _, hs, _ => hs
  | (a, x) :: as, _, ⟨hp, n, hn, hs⟩, heq => by
    refine ⟨hp, n, ?_, hs.congr fun c hc => heq c (List.mem_cons_of_mem _ hc)⟩
    rw [heq a List.mem_cons_self, hn]

theorem Seg.allocated : ∀ {as : List (A × α)} {p : Option A}, Seg h p as q →
    ∀ c ∈ as.map Prod.fst, h c ≠ none
  | [], _, _, _, hc => absurd hc List.not_mem_nil
  | (a, x) :: as, _, ⟨_, n, hn, hs⟩, c, hc => by
    rcases List.mem_cons.mp hc with rfl | hc
    · rw [hn]
      exact Option.some_ne_none _
    · exact hs.allocated c hc

/-- A new block is on no chain. -/
theorem Seg.fresh (hs : Seg h p as q) (ha : h a = none) : a ∉ as.map Prod.fst :=
  fun hmem => hs.allocated a hmem ha

/-- From one pointer the links lead to NULL in one way. -/
theorem Seg.unique : ∀ {as bs : List (A × α)} {p : Option A}, Seg h p as none → Seg h p bs none →
    as = bs
  | [], [], _, _, _ => rfl
  | [], (_, _) :: _, _, h1, ⟨h2, _⟩ => by
    rw [show _ = none from h1] at h2
    exact nomatch h2
  | (_, _) :: _, [], _, ⟨h1, _⟩, h2 => by
    rw [show _ = none from h2] at h1
    exact nomatch h1
  | (a, x) :: as, (b, y) :: bs, _, ⟨h1, n, hn, hs⟩, ⟨h2, m, hm, ht⟩ => by
    rw [h1] at h2
    obtain rfl := Option.some.inj h2
    rw [hn] at hm
    obtain ⟨rfl, rfl⟩ := Cell.mk.inj (Option.some.inj hm)
    rw [hs.unique ht]

/-- **No cell is on a chain twice.** -/
theorem Seg.nodup : ∀ {as : List (A × α)} {p : Option A}, Seg h p as none → (as.map Prod.fst).Nodup
  | [], _, _ => List.nodup_nil
  | (a, x) :: as, p, hs => by
    obtain ⟨hp, n, hn, ht⟩ := hs
    refine List.nodup_cons.mpr ⟨fun hmem => ?_, ht.nodup⟩
    -- the links from a second visit lead to NULL over all of the chain again
    obtain ⟨⟨b, y⟩, hy, hb⟩ := List.mem_map.mp hmem
    obtain rfl : b = a := hb
    obtain ⟨as₁, as₂, rfl⟩ := List.append_of_mem hy
    obtain ⟨r, -, hr⟩ := seg_append.mp ht
    have hra := hr.1
    subst hra
    have hall : Seg h (some b) ((b, x) :: (as₁ ++ (b, y) :: as₂)) none := ⟨rfl, n, hn, ht⟩
    have hlen := congrArg List.length (hall.unique hr)
    simp only [List.length_cons, List.length_append] at hlen
    omega

theorem Seg.notMem_left (hs : Seg h p (as ++ (b, y) :: bs) none) : b ∉ as.map Prod.fst := by
  have hn := hs.nodup
  rw [List.map_append, List.map_cons, List.nodup_middle] at hn
  exact fun hmem => (List.nodup_cons.mp hn).1 (List.mem_append_left _ hmem)

theorem Seg.notMem_right (hs : Seg h p (as ++ (b, y) :: bs) none) : b ∉ bs.map Prod.fst := by
  have hn := hs.nodup
  rw [List.map_append, List.map_cons, List.nodup_middle] at hn
  exact fun hmem => (List.nodup_cons.mp hn).1 (List.mem_append_right _ hmem)

/-- The last cell of a chain has no next one. -/
theorem Seg.last (hs : Seg h p (as ++ [(b, y)]) none) : h b = some ⟨y, none⟩ := by
  obtain ⟨r, -, -, n, hn, hnone⟩ := seg_append.mp hs
  rw [hn, show n = none from hnone]

/-- A segment with a cell on it does not start at NULL. -/
theorem Seg.head_some (hs : Seg h p (as ++ (a, x) :: bs) q) : ∃ b, p = some b := by
  rcases as with _ | ⟨b, as⟩
  · exact ⟨_, hs.1⟩
  · exact ⟨_, hs.1⟩

/-- A block in use is not a new one. -/
theorem ne_of_new {c : Cell A α} (ha : h a = none) (hb : h b = some c) : b ≠ a := by
  rintro rfl
  rw [ha] at hb
  exact nomatch hb

/-! ### Walks along a chain -/

/-- As many steps as a segment has cells lead to its end. -/
theorem advance_seg : ∀ {as : List (A × α)} {p : Option A}, Seg h p as q →
    advance h as.length p = some q
  | [], _, hs => congrArg some hs
  | (a, x) :: as, _, ⟨hp, n, hn, hs⟩ => by
    rw [hp, List.length_cons, advance, Heap.deref, Option.bind_some, hn, Option.bind_some]
    exact advance_seg hs

/-- `k` steps along a chain lead to the cell with index `k`. -/
theorem Seg.reach (hs : Seg h p as none) {k : ℕ} (hk : k < as.length) :
    ∃ as₁ b y as₂, as = as₁ ++ (b, y) :: as₂ ∧ as₁.length = k ∧ advance h k p = some (some b) := by
  have hsplit : as = as.take k ++ as[k] :: as.drop (k + 1) := by
    rw [List.getElem_cons_drop, List.take_append_drop]
  have hlen : (as.take k).length = k := List.length_take_of_le (Nat.le_of_lt hk)
  refine ⟨as.take k, as[k].1, as[k].2, as.drop (k + 1), hsplit, hlen, ?_⟩
  rw [hsplit] at hs
  obtain ⟨r, h1, hr, -⟩ := seg_append.mp hs
  subst hr
  have hadv := advance_seg h1
  rwa [hlen] at hadv

theorem lastCell_seg : ∀ {as : List (A × α)} {p : Option A} {n : ℕ}, as.length < n →
    Seg h p (as ++ [(b, y)]) none → p.bind (lastCell h n) = some b
  | _, _, 0, hn, _ => absurd hn (Nat.not_lt_zero _)
  | [], _, n + 1, _, ⟨hp, m, hm, hs⟩ => by
    rw [hp, Option.bind_some, lastCell, hm, Option.bind_some, show m = none from hs]
  | (a, x) :: as, _, n + 1, hn, ⟨hp, m, hm, hs⟩ => by
    have ih := lastCell_seg (Nat.lt_of_succ_lt_succ hn) hs
    rw [hp, Option.bind_some, lastCell, hm, Option.bind_some]
    cases m with
    | none => exact nomatch ih
    | some c => exact ih

theorem beforeLast_seg : ∀ {as : List (A × α)} {p : Option A} {n : ℕ}, as.length < n →
    Seg h p (as ++ [(b, y), (a, x)]) none → p.bind (beforeLast h n) = some b
  | _, _, 0, hn, _ => absurd hn (Nat.not_lt_zero _)
  | [], _, n + 1, _, ⟨hp, m, hm, hm', k, hk, hs⟩ => by
    subst hm'
    rw [hp, Option.bind_some, beforeLast, hm, Option.bind_some]
    dsimp only
    rw [hk, Option.bind_some, show k = none from hs]
  | (c, z) :: as, _, n + 1, hn, ⟨hp, m, hm, hs⟩ => by
    have ih := beforeLast_seg (Nat.lt_of_succ_lt_succ hn) hs
    rw [hp, Option.bind_some, beforeLast, hm, Option.bind_some]
    obtain ⟨d, w, ds, hds⟩ : ∃ d w ds, as ++ [(b, y), (a, x)] = (d, w) :: ds := by
      cases as with
      | nil => exact ⟨_, _, _, rfl⟩
      | cons e as => exact ⟨_, _, _, rfl⟩
    have hds' : ds ≠ [] := by
      rintro rfl
      have := congrArg List.length hds
      simp at this
    have hs' : Seg h m (as ++ [(b, y), (a, x)]) none := hs
    rw [hds] at hs'
    obtain ⟨rfl, k, hk, hs'⟩ := hs'
    dsimp only
    rw [hk, Option.bind_some]
    cases k with
    | some e => exact ih
    | none =>
      cases ds with
      | nil => exact absurd rfl hds'
      | cons f fs => exact nomatch hs'.1

/-- A search passes the cells that do not match. -/
theorem seek_seg {stop : α → Bool} : ∀ {as : List (A × α)} {p prev : Option A} {n : ℕ},
    as.length < n → (∀ c ∈ as, stop c.2 = false) → Seg h p as q →
      seek h stop n prev p =
        seek h stop (n - as.length) ((as.map Prod.fst).getLast?.or prev) q
  | [], _, _, n, _, _, hs => by
    rw [show _ = q from hs]
    rfl
  | (a, x) :: as, p, prev, 0, hn, _, _ => absurd hn (Nat.not_lt_zero _)
  | (a, x) :: as, p, prev, n + 1, hn, hstop, ⟨hp, m, hm, hs⟩ => by
    have hx : stop x = false := hstop (a, x) List.mem_cons_self
    have hlast : (((a, x) :: as).map Prod.fst).getLast?.or prev =
        (as.map Prod.fst).getLast?.or (some a) := by
      rw [List.map_cons, ← List.singleton_append, List.getLast?_append, Option.or_assoc]
      rfl
    rw [hp, seek, hm, Option.bind_some, if_neg (by rw [hx]; exact Bool.false_ne_true),
      seek_seg (Nat.lt_of_succ_lt_succ hn) (fun c hc => hstop c (List.mem_cons_of_mem _ hc)) hs,
      List.length_cons, Nat.add_sub_add_right, hlast]

/-- **A search stops at the first match**, with the cell before it. -/
theorem seek_found {stop : α → Bool} {n : ℕ} (hs : Seg h p (as ++ (a, x) :: bs) q)
    (hn : as.length < n) (hstop : ∀ c ∈ as, stop c.2 = false) (hx : stop x = true) :
    seek h stop n none p = some ((as.map Prod.fst).getLast?, some a) := by
  obtain ⟨r, h1, hr, m, hm, -⟩ := seg_append.mp hs
  obtain ⟨k, hk⟩ : ∃ k, n - as.length = k + 1 := Nat.exists_eq_succ_of_ne_zero (by omega)
  rw [seek_seg hn hstop h1, hr, hk, seek, hm, Option.bind_some, if_pos hx, Option.or_none]

/-- A search without a match ends at NULL. -/
theorem seek_missed {stop : α → Bool} {n : ℕ} (hs : Seg h p as none) (hn : as.length < n)
    (hstop : ∀ c ∈ as, stop c.2 = false) :
    seek h stop n none p = some ((as.map Prod.fst).getLast?, none) := by
  obtain ⟨k, hk⟩ : ∃ k, n - as.length = k + 1 := Nat.exists_eq_succ_of_ne_zero (by omega)
  rw [seek_seg hn hstop hs, hk, seek, Option.or_none]

/-! ### Linking in and out -/

section

variable [DecidableEq A]

/-- A cell is written. -/
def Heap.write (h : Heap A α) (a : A) (c : Cell A α) : Heap A α := Function.update h a (some c)

/-- A cell is freed. -/
def Heap.free (h : Heap A α) (a : A) : Heap A α := Function.update h a none

@[simp] theorem write_self (h : Heap A α) (a : A) (c : Cell A α) : h.write a c a = some c :=
  Function.update_self ..

theorem write_write (h : Heap A α) (a : A) (c d : Cell A α) : (h.write a c).write a d = h.write a d :=
  Function.update_idem ..

theorem write_of_ne (h : Heap A α) {a b : A} (c : Cell A α) (hne : b ≠ a) : h.write a c b = h b :=
  Function.update_of_ne hne ..

theorem free_of_ne (h : Heap A α) {a b : A} (hne : b ≠ a) : h.free a b = h b :=
  Function.update_of_ne hne ..

theorem Seg.write (hs : Seg h p as q) (ha : a ∉ as.map Prod.fst) (c : Cell A α) :
    Seg (h.write a c) p as q :=
  hs.congr fun _ hb => write_of_ne h c fun heq => ha (heq ▸ hb)

theorem Seg.free (hs : Seg h p as q) (ha : a ∉ as.map Prod.fst) : Seg (h.free a) p as q :=
  hs.congr fun _ hb => free_of_ne h fun heq => ha (heq ▸ hb)

/-- A new cell in front. -/
theorem Seg.push (hs : Seg h p as q) (ha : h a = none) (x : α) :
    Seg (h.write a ⟨x, p⟩) (some a) ((a, x) :: as) q :=
  ⟨rfl, p, write_self .., hs.write (hs.fresh ha) _⟩

/-- The first cell taken out. -/
theorem Seg.pop (hs : Seg h p ((a, x) :: as) none) :
    ∃ n, h a = some ⟨x, n⟩ ∧ p = some a ∧ Seg (h.free a) n as none := by
  have hn := hs.nodup
  obtain ⟨hp, n, hn', ht⟩ := hs
  exact ⟨n, hn', hp, ht.free (List.nodup_cons.mp hn).1⟩

/-- **A new cell after a cell of the chain.** -/
theorem Seg.insertAfter (hs : Seg h p (as ++ (b, y) :: bs) none) (ha : h a = none) (x : α) :
    ∃ n, h b = some ⟨y, n⟩ ∧
      Seg ((h.write a ⟨x, n⟩).write b ⟨y, some a⟩) p (as ++ (b, y) :: (a, x) :: bs) none := by
  obtain ⟨r, h1, hr, n, hn, h2⟩ := seg_append.mp hs
  have hbas := hs.notMem_left
  have hbbs := hs.notMem_right
  have hab : a ≠ b := (ne_of_new ha hn).symm
  have ha1 : a ∉ as.map Prod.fst := h1.fresh ha
  have ha2 : a ∉ bs.map Prod.fst := h2.fresh ha
  refine ⟨n, hn, seg_append.mpr ⟨r, (h1.write ha1 _).write hbas _, hr, some a, write_self .., rfl, n,
    ?_, (h2.write ha2 _).write hbbs _⟩⟩
  rw [write_of_ne _ _ hab]
  exact write_self ..

/-- A new cell at the end. -/
theorem Seg.snoc (hs : Seg h p (as ++ [(b, y)]) none) (ha : h a = none) (x : α) :
    h b = some ⟨y, none⟩ ∧
      Seg ((h.write a ⟨x, none⟩).write b ⟨y, some a⟩) p (as ++ [(b, y)] ++ [(a, x)]) none := by
  have hlast := hs.last
  obtain ⟨n, hn, hs'⟩ := hs.insertAfter ha x
  obtain rfl : n = none := congrArg Cell.next (Option.some.inj (hn.symm.trans hlast))
  refine ⟨hlast, ?_⟩
  rw [List.append_assoc, List.singleton_append]
  exact hs'

/-- **The cell after a cell of the chain taken out.** -/
theorem Seg.removeAfter (hs : Seg h p (as ++ (b, y) :: (a, x) :: bs) none) :
    ∃ n, h b = some ⟨y, some a⟩ ∧ h a = some ⟨x, n⟩ ∧
      Seg ((h.write b ⟨y, n⟩).free a) p (as ++ (b, y) :: bs) none := by
  have hbas := hs.notMem_left
  have hbbs := hs.notMem_right
  have hs' : Seg h p ((as ++ [(b, y)]) ++ (a, x) :: bs) none := by
    rwa [List.append_assoc, List.singleton_append]
  have haas := hs'.notMem_left
  have habs := hs'.notMem_right
  obtain ⟨r, h1, hr, m, hm, ha, n, hn, h2⟩ := seg_append.mp hs
  subst ha
  rw [List.map_append, List.mem_append, List.map_singleton, List.mem_singleton, not_or] at haas
  rw [List.map_cons, List.mem_cons, not_or] at hbbs
  refine ⟨n, hm, hn, seg_append.mpr ⟨r, (h1.write hbas _).free haas.1, hr, n, ?_,
    (h2.write hbbs.2 _).free habs⟩⟩
  rw [free_of_ne _ hbbs.1]
  exact write_self ..

end

/-! ### A 32-bit address space -/

/-- Where a block can lie: at multiples of eight. -/
abbrev Addr := Fin 536870912

/-- More rounds than there are blocks. -/
def rounds : ℕ := 536870913

/-- An `int` after `++` or `--`. -/
def toInt32 (n : ℤ) : ℤ := n.bmod 4294967296

theorem toInt32_of_lt {n : ℤ} (h0 : -2147483648 ≤ n) (h1 : n < 2147483648) : toInt32 n = n :=
  Int.bmod_eq_of_le h0 h1

/-- What `malloc` returned is a block that was not in use. -/
def NewBlock (h : Heap Addr α) (node : Option Addr) : Prop := ∃ a, node = some a ∧ h a = none

section

variable {h : Heap Addr α} {p : Option Addr} {as : List (Addr × α)}

theorem Seg.length_le (hs : Seg h p as none) : as.length ≤ 536870912 := by
  have hc := hs.nodup.length_le_card
  rwa [List.length_map, Fintype.card_fin] at hc

theorem Seg.lt_rounds (hs : Seg h p as none) : as.length < rounds := Nat.lt_succ_of_le hs.length_le

/-- The rounds suffice for a part of a chain. -/
theorem Seg.lt_rounds_left {bs : List (Addr × α)} (hs : Seg h p (as ++ bs) none) :
    as.length < rounds := by
  have hlt := hs.lt_rounds
  rw [List.length_append] at hlt
  exact Nat.lt_of_le_of_lt (Nat.le_add_right ..) hlt

/-- A counter of the cells does not overflow. -/
theorem Seg.toInt32_succ (hs : Seg h p as none) : toInt32 (as.length + 1) = as.length + 1 := by
  have hle := hs.length_le
  exact toInt32_of_lt (by omega) (by omega)

theorem Seg.toInt32_pred (hs : Seg h p as none) : toInt32 (as.length - 1) = as.length - 1 := by
  have hle := hs.length_le
  exact toInt32_of_lt (by omega) (by omega)

end

end WtslCore
