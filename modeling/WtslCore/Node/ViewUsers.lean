/-
# The table of users and the stack

`wtsl_core_parse_json_view_users` scans the role, the number of users and the
uid of each user into variables that it does not set before. If a scan fails,
what an earlier call left on the stack is answered. The table is a matter of
the output of the command alone exactly if a line before it announces the
number of its users and, where there are users, the first line of the table
starts with a number (`scanLines_determined_iff`).

Key definitions: `Locals`, `announced`, `UsersAnnounced`.
Key theorems: `scanLines_congr`, `exists_table`, `scanLines_determined_iff`.
-/
import WtslCore.Node.Responses

namespace WtslCore

/-- `role`, `num` and `uid` of `wtsl_core_parse_json_view_users` at its start. -/
structure Locals where
  role : ℤ
  num : ℤ
  uid : ℤ

/-- The variables of the scan at its start. -/
def Locals.scan (l : Locals) : UserScan := ⟨l.role, l.num, l.uid, [], []⟩

/-- The number of users that a line with `vap_role` announces. -/
def lineUsers (buffer : CStr) : Option ℤ :=
  ((scanLit "vap_role[" buffer).bind strtol).bind fun (_, s) =>
    let num : Option (ℤ × CStr) := do
      let s ← scanLit "]," s
      let s ← scanLit "vap_state[" (s.dropWhile isspace)
      let (_, s) ← strtol s
      let s ← scanLit "]," s
      let s ← scanLit "user_num[" (s.dropWhile isspace)
      strtol s
    num.map Prod.fst

/-- The number announced before the first table, if any, and the lines of the
table; `n` is what was announced so far. -/
def announced (n : Option ℤ) : List CStr → Option (Option ℤ × List CStr)
  | [] => none
  | buffer :: lines =>
    let n := if occurs "vap_role" buffer then (lineUsers buffer).or n else n
    if occurs "uid mac_addr" buffer then some (n, lines) else announced n lines

/-- The number of users is announced, and there are none or the first one has a uid. -/
def TableReadable (n : Option ℤ) (table : List CStr) : Prop :=
  ∃ k ∈ n, k ≤ 0 ∨ ∃ line ∈ table.head?, (strtol line).isSome = true

/-- The table of users can be read, if there is one. -/
def UsersAnnounced (lines : List CStr) : Prop :=
  ∀ n table, announced none lines = some (n, table) → TableReadable n table

variable {nodes : List Node} {own : BasicInfo} {behind : Node → CStr} {st st' : UserScan} {n : Option ℤ} {table : List CStr}

/-! ### What a line sets -/

theorem readRole_num (st : UserScan) (buffer : CStr) :
    (st.readRole buffer).num = (lineUsers buffer).getD st.num := by
  unfold UserScan.readRole lineUsers
  cases (scanLit "vap_role[" buffer).bind strtol with
  | none => rfl
  | some r => rfl

/-- Where the number of users is read, so is the role. -/
theorem readRole_role {buffer : CStr} (h : lineUsers buffer ≠ none ∨ st.role = st'.role) :
    (st.readRole buffer).role = (st'.readRole buffer).role := by
  unfold lineUsers at h
  unfold UserScan.readRole
  cases hr : (scanLit "vap_role[" buffer).bind strtol with
  | none =>
    rw [hr] at h
    exact h.resolve_left fun hne => hne rfl
  | some r => rfl

theorem readRole_rest (st : UserScan) (buffer : CStr) :
    (st.readRole buffer).uid = st.uid ∧ (st.readRole buffer).macstr = st.macstr ∧
      (st.readRole buffer).nodename = st.nodename := by
  unfold UserScan.readRole
  split <;> exact ⟨rfl, rfl, rfl⟩

/-! ### A table that can be read -/

/-- Two scans that agree but for the uid, and for the role and the number of
users as long as none is announced. -/
structure SameSoFar (n : Option ℤ) (st st' : UserScan) : Prop where
  known : ∀ k ∈ n, st.num = k ∧ st'.num = k ∧ st.role = st'.role
  macstr : st.macstr = st'.macstr
  nodename : st.nodename = st'.nodename

theorem SameSoFar.readRole (h : SameSoFar n st st') (buffer : CStr) :
    SameSoFar ((lineUsers buffer).or n) (st.readRole buffer) (st'.readRole buffer) := by
  obtain ⟨-, hm, hn⟩ := readRole_rest st buffer
  obtain ⟨-, hm', hn'⟩ := readRole_rest st' buffer
  refine ⟨fun k hk => ?_, hm.trans (h.macstr.trans hm'.symm), hn.trans (h.nodename.trans hn'.symm)⟩
  rw [readRole_num, readRole_num]
  cases hu : lineUsers buffer with
  | some k' =>
    rw [hu, Option.some_or, Option.mem_some_iff] at hk
    refine ⟨hk, hk, readRole_role (.inl ?_)⟩
    rw [hu]
    exact Option.some_ne_none k'
  | none =>
    rw [hu, Option.none_or] at hk
    obtain ⟨h1, h2, h3⟩ := h.known k hk
    exact ⟨h1, h2, readRole_role (.inr h3)⟩

/-- The first user makes the uids agree. -/
theorem scanUsers_congr {k : ℤ} (h : SameSoFar (some k) st st')
    (hk : k ≤ 0 ∨ ∃ line ∈ table.head?, (strtol line).isSome = true) :
    scanUsers nodes own behind k.toNat st table = scanUsers nodes own behind k.toNat st' table := by
  obtain ⟨h1, h2, h3⟩ := h.known k rfl
  rcases hk with hk | ⟨line, hline, hnum⟩
  · rw [Int.toNat_of_nonpos hk]
    rfl
  · obtain ⟨lines, rfl⟩ := List.head?_eq_some_iff.mp hline
    obtain ⟨⟨uid, s⟩, hs⟩ := Option.isSome_iff_exists.mp hnum
    have hread : st.readUser line = st'.readUser line := by
      unfold UserScan.readUser
      obtain ⟨role, num, uid, macstr, nodename⟩ := st
      obtain ⟨role', num', uid', macstr', nodename'⟩ := st'
      obtain ⟨-, rfl, rfl⟩ := h
      obtain rfl : role = role' := h3
      obtain rfl : num = num' := h1.trans h2.symm
      rw [hs]
    cases k.toNat with
    | zero => rfl
    | succ i =>
      unfold scanUsers
      simp only [hread]

/-- **A table that can be read is a matter of the output alone.** -/
theorem scanLines_congr : ∀ {lines : List CStr} {n : Option ℤ} {st st' : UserScan},
    SameSoFar n st st' → (∀ m table, announced n lines = some (m, table) → TableReadable m table) →
      scanLines nodes own behind st lines = scanLines nodes own behind st' lines
  | [], _, _, _, _, _ => rfl
  | buffer :: lines, n, st, st', h, hread => by
    have hline : SameSoFar (if occurs "vap_role" buffer then (lineUsers buffer).or n else n)
        (if occurs "vap_role" buffer then st.readRole buffer else st)
        (if occurs "vap_role" buffer then st'.readRole buffer else st') := by
      split_ifs
      · exact h.readRole buffer
      · exact h
    unfold announced at hread
    unfold scanLines
    by_cases htable : occurs "uid mac_addr" buffer = true
    · simp only [htable, ↓reduceIte] at hread ⊢
      obtain ⟨k, hk, hfirst⟩ := hread _ _ rfl
      rw [Option.mem_def.mp hk] at hline
      obtain ⟨h1, h2, -⟩ := hline.known k rfl
      rw [h1, h2]
      exact scanUsers_congr hline hfirst
    · simp only [htable, Bool.false_eq_true, ↓reduceIte] at hread ⊢
      exact scanLines_congr hline hread

/-! ### A table that cannot -/

theorem length_scanUsers : ∀ (i : ℕ) (st : UserScan) (table : List CStr),
    (scanUsers nodes own behind i st table).length = i
  | 0, _, _ => rfl
  | i + 1, _, _ => congrArg (· + 1) (length_scanUsers i _ _)

theorem readName_uid (st : UserScan) (pnode : Option Node) : (st.readName behind pnode).uid = st.uid := by
  unfold UserScan.readName
  split
  · split_ifs <;> rfl
  · rfl

/-- A first user without a number has the uid from before. -/
theorem head_scanUsers (nodes : List Node) (own : BasicInfo) (behind : Node → CStr) (st : UserScan)
    (h : ∀ line ∈ table.head?, strtol line = none) (i : ℕ) : ∃ ms,
      (scanUsers nodes own behind (i + 1) st table).head? = some (.object (("uid", .number st.uid) :: ms)) := by
  unfold scanUsers
  cases table with
  | nil =>
    simp only [List.head?_cons, UserScan.item, readName_uid]
    exact ⟨_, rfl⟩
  | cons line lines =>
    have hkeep : st.readUser line = st := by
      unfold UserScan.readUser
      rw [h line rfl]
    simp only [hkeep, List.head?_cons, UserScan.item, readName_uid]
    exact ⟨_, rfl⟩

/-- **The table**: as many users as announced, or as the stack held. -/
theorem exists_table (nodes : List Node) (own : BasicInfo) (behind : Node → CStr) :
    ∀ {lines : List CStr} {n m : Option ℤ} {table : List CStr} (st : UserScan),
    announced n lines = some (m, table) → (∀ k ∈ n, st.num = k) →
      ∃ st', scanLines nodes own behind st lines = scanUsers nodes own behind st'.num.toNat st' table ∧
        st'.uid = st.uid ∧ (∀ k ∈ m, st'.num = k) ∧ (m = none → n = none ∧ st'.num = st.num)
  | buffer :: lines, n, m, table, st, h, hn => by
    obtain ⟨n₁, hn₁⟩ : ∃ n₁, n₁ = if occurs "vap_role" buffer then (lineUsers buffer).or n else n :=
      ⟨_, rfl⟩
    obtain ⟨st₁, hst₁⟩ : ∃ st₁, st₁ = if occurs "vap_role" buffer then st.readRole buffer else st :=
      ⟨_, rfl⟩
    -- what the line sets
    have hline : st₁.uid = st.uid ∧ (∀ k ∈ n₁, st₁.num = k) ∧
        (n₁ = none → n = none ∧ st₁.num = st.num) := by
      rw [hn₁, hst₁]
      split_ifs
      · refine ⟨(readRole_rest st buffer).1, fun k hk => ?_, fun hnone => ?_⟩
        · rw [readRole_num]
          cases hu : lineUsers buffer with
          | some k' =>
            rw [hu, Option.some_or] at hk
            exact Option.some.inj hk
          | none =>
            rw [hu, Option.none_or] at hk
            exact hn k hk
        · obtain ⟨hu, hn0⟩ := Option.or_eq_none_iff.mp hnone
          rw [readRole_num, hu]
          exact ⟨hn0, rfl⟩
      · exact ⟨rfl, hn, fun hnone => ⟨hnone, rfl⟩⟩
    obtain ⟨huid, hnum, hjunk⟩ := hline
    unfold announced at h
    unfold scanLines
    simp only [← hn₁, ← hst₁] at h ⊢
    by_cases htable : occurs "uid mac_addr" buffer = true
    · rw [if_pos htable] at h
      obtain ⟨rfl, rfl⟩ := Prod.mk.inj (Option.some.inj h)
      rw [if_pos htable]
      exact ⟨st₁, rfl, huid, hnum, hjunk⟩
    · rw [if_neg htable] at h
      obtain ⟨st', hscan, huid', hnum', hjunk'⟩ := exists_table nodes own behind st₁ h hnum
      rw [if_neg htable]
      refine ⟨st', hscan, huid'.trans huid, hnum', fun hnone => ?_⟩
      obtain ⟨h1, h2⟩ := hjunk' hnone
      obtain ⟨h3, h4⟩ := hjunk h1
      exact ⟨h3, h2.trans h4⟩

/-- **The condition is exact.** -/
theorem scanLines_determined_iff (nodes : List Node) (own : BasicInfo) (behind : Node → CStr) (lines : List CStr) :
    (∀ l l' : Locals, scanLines nodes own behind l.scan lines = scanLines nodes own behind l'.scan lines) ↔
      UsersAnnounced lines := by
  constructor
  · intro hsame n table h
    by_contra hno
    -- two stacks that differ in the number of users and in the uid
    obtain ⟨st, hscan, huid, hnum, hjunk⟩ :=
      exists_table nodes own behind (Locals.scan ⟨0, 1, 0⟩) h nofun
    obtain ⟨st', hscan', huid', hnum', hjunk'⟩ :=
      exists_table nodes own behind (Locals.scan ⟨0, 0, 1⟩) h nofun
    have heq := hsame ⟨0, 1, 0⟩ ⟨0, 0, 1⟩
    rw [hscan, hscan'] at heq
    cases n with
    | none =>
      have hlen := congrArg List.length heq
      rw [length_scanUsers, length_scanUsers, (hjunk rfl).2, (hjunk' rfl).2] at hlen
      exact absurd hlen (by decide)
    | some k =>
      have hpos : ¬ k ≤ 0 := fun hk => hno ⟨k, rfl, .inl hk⟩
      have hfirst : ∀ line ∈ table.head?, strtol line = none := by
        intro line hline
        by_contra hs
        exact hno ⟨k, rfl, .inr ⟨line, hline, Option.isSome_iff_ne_none.mpr hs⟩⟩
      obtain ⟨i, hi⟩ : ∃ i, k.toNat = i + 1 := ⟨k.toNat - 1, by omega⟩
      rw [hnum k rfl, hnum' k rfl, hi] at heq
      obtain ⟨ms, hms⟩ := head_scanUsers nodes own behind st hfirst i
      obtain ⟨ms', hms'⟩ := head_scanUsers nodes own behind st' hfirst i
      rw [heq, hms', huid, huid'] at hms
      simp [Locals.scan] at hms
  · intro h l l'
    exact scanLines_congr (n := none) ⟨nofun, rfl, rfl⟩ h

end WtslCore
