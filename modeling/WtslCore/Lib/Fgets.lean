/-
# Reading a file in pieces

`fgets` with a buffer of `n + 1` bytes returns the file in pieces: up to and
with the next newline, but at most `n` characters. Every piece but the last is
full (`FullPiece`: it ends in a newline or has `n` characters), and what is
read after a full piece does not depend on it. So a file is its full pieces
and an open part without newline (`fgets_spec`), and text appended to the file
is read as if the file were the open part alone (`fgetsAll_append`).

Key definitions: `fgetsAll`, `FullPiece`, `fullPieces`, `openPart`.
Key theorems: `flatten_fgetsAll`, `fgetsAll_full`, `fgets_spec`,
`fullPiece_of_split`, `fgetsAll_append`.
-/
import Mathlib.Data.List.Basic
import Mathlib.Data.Nat.Notation

namespace WtslCore

/-- The pieces of a text, the first one with at most `r` characters. -/
def fgetsFrom (n : ℕ) : ℕ → List Char → List (List Char)
  | _, [] => []
  | r, c :: s =>
    if c = '\n' ∨ r ≤ 1 then [c] :: fgetsFrom n n s
    else
      match fgetsFrom n (r - 1) s with
      | [] => [[c]]
      | p :: ps => (c :: p) :: ps

/-- The pieces of a text. -/
def fgetsAll (n : ℕ) (s : List Char) : List (List Char) := fgetsFrom n n s

/-- A piece after which the next one starts afresh. -/
def FullPiece (n : ℕ) (p : List Char) : Prop :=
  ('\n' ∉ p ∧ p.length = n) ∨ ∃ l, '\n' ∉ l ∧ l.length < n ∧ p = l ++ ['\n']

def isFull (n : ℕ) (p : List Char) : Bool := p.length = n ∨ p.getLast? = some '\n'

/-- The full pieces of a text. -/
def fullPieces (n : ℕ) (s : List Char) : List (List Char) := (fgetsAll n s).filter (isFull n)

/-- What follows the full pieces. -/
def openPart (n : ℕ) (s : List Char) : List Char :=
  ((fgetsAll n s).filter fun p => !isFull n p).flatten

variable {n r : ℕ} {l p s : List Char}

theorem flatten_fgetsFrom : ∀ (s : List Char) (r : ℕ), (fgetsFrom n r s).flatten = s
  | [], _ => rfl
  | c :: s, r => by
    unfold fgetsFrom
    split_ifs with h
    · rw [List.flatten_cons, flatten_fgetsFrom s n]
      rfl
    · have ih := flatten_fgetsFrom s (r - 1)
      cases hp : fgetsFrom n (r - 1) s with
      | nil =>
        rw [hp] at ih
        simp [← ih]
      | cons p ps =>
        rw [hp, List.flatten_cons] at ih
        simp [List.flatten_cons, ← ih]

theorem flatten_fgetsAll (n : ℕ) (s : List Char) : (fgetsAll n s).flatten = s :=
  flatten_fgetsFrom s n

/-- A line that fits. -/
theorem fgetsFrom_line : ∀ {l : List Char} {r : ℕ}, '\n' ∉ l → l.length < r →
    fgetsFrom n r (l ++ '\n' :: s) = (l ++ ['\n']) :: fgetsAll n s
  | [], r, _, _ => by simp [fgetsFrom, fgetsAll]
  | c :: l, r, hl, hr => by
    have hc : c ≠ '\n' := fun h => hl (h ▸ List.mem_cons_self)
    have hlen : l.length + 1 < r := by simpa using hr
    have ih : fgetsFrom n (r - 1) (l ++ '\n' :: s) = (l ++ ['\n']) :: fgetsAll n s :=
      fgetsFrom_line (fun h => hl (List.mem_cons_of_mem _ h)) (by omega)
    rw [List.cons_append, fgetsFrom, if_neg (by simp only [hc, false_or]; omega), ih]
    rfl

/-- A line that fills the piece. -/
theorem fgetsFrom_long : ∀ {l : List Char} {r : ℕ}, '\n' ∉ l → l ≠ [] → l.length = r →
    fgetsFrom n r (l ++ s) = l :: fgetsAll n s
  | [c], r, hl, _, hr => by
    have : r = 1 := by simpa using hr.symm
    rw [List.singleton_append, fgetsFrom, if_pos (.inr (by omega))]
    rfl
  | c :: d :: l, r, hl, _, hr => by
    have hc : c ≠ '\n' := fun h => hl (h ▸ List.mem_cons_self)
    have hlen : l.length + 2 = r := by simpa using hr
    have ih : fgetsFrom n (r - 1) ((d :: l) ++ s) = (d :: l) :: fgetsAll n s :=
      fgetsFrom_long (fun h => hl (List.mem_cons_of_mem _ h)) (by simp)
        (by rw [List.length_cons]; omega)
    rw [List.cons_append, fgetsFrom, if_neg (by simp only [hc, false_or]; omega), ih]

/-- A last line without a newline. -/
theorem fgetsFrom_open : ∀ {l : List Char} {r : ℕ}, '\n' ∉ l → l ≠ [] → l.length ≤ r →
    fgetsFrom n r l = [l]
  | [c], r, hl, _, _ => by
    unfold fgetsFrom
    split_ifs <;> rfl
  | c :: d :: l, r, hl, _, hr => by
    have hc : c ≠ '\n' := fun h => hl (h ▸ List.mem_cons_self)
    have hlen : l.length + 2 ≤ r := hr
    have ih : fgetsFrom n (r - 1) (d :: l) = [d :: l] :=
      fgetsFrom_open (fun h => hl (List.mem_cons_of_mem _ h)) (by simp)
        (by rw [List.length_cons]; omega)
    rw [fgetsFrom, if_neg (by simp only [hc, false_or]; omega), ih]

theorem fgetsAll_open (hl : '\n' ∉ l) (hne : l ≠ []) (hlen : l.length ≤ n) : fgetsAll n l = [l] :=
  fgetsFrom_open hl hne hlen

/-- After a full piece the rest is read as a file of its own. -/
theorem fgetsAll_full (hn : 0 < n) (hp : FullPiece n p) (s : List Char) :
    fgetsAll n (p ++ s) = p :: fgetsAll n s := by
  rcases hp with ⟨hnl, hlen⟩ | ⟨l, hnl, hlen, rfl⟩
  · have hne : p ≠ [] := by
      rintro rfl
      simp at hlen
      omega
    exact fgetsFrom_long hnl hne hlen
  · rw [List.append_assoc, List.singleton_append]
    exact fgetsFrom_line hnl hlen

theorem fgetsAll_flatten (hn : 0 < n) : ∀ {ps : List (List Char)}, (∀ p ∈ ps, FullPiece n p) →
    ∀ s, fgetsAll n (ps.flatten ++ s) = ps ++ fgetsAll n s
  | [], _, _ => rfl
  | p :: ps, h, s => by
    rw [List.flatten_cons, List.append_assoc, fgetsAll_full hn (h p List.mem_cons_self),
      fgetsAll_flatten hn (fun q hq => h q (List.mem_cons_of_mem _ hq))]
    rfl

/-- A text is short and without newline, or starts with a full piece. -/
theorem open_or_full (n : ℕ) (s : List Char) :
    ('\n' ∉ s ∧ s.length < n) ∨ ∃ p t, FullPiece n p ∧ s = p ++ t := by
  -- a line of at least `n` characters starts with a long piece
  have hlong : ∀ l : List Char, '\n' ∉ l → n ≤ l.length → FullPiece n (l.take n) := by
    intro l hl hlen
    refine .inl ⟨fun h => hl (List.mem_of_mem_take h), ?_⟩
    rw [List.length_take]
    omega
  by_cases hs : '\n' ∈ s
  · obtain ⟨l, t, rfl, hl⟩ := List.eq_append_cons_of_mem hs
    by_cases hlen : l.length < n
    · exact .inr ⟨l ++ ['\n'], t, .inr ⟨l, hl, hlen, rfl⟩, by simp⟩
    · refine .inr ⟨l.take n, l.drop n ++ '\n' :: t, hlong l hl (by omega), ?_⟩
      rw [← List.append_assoc, List.take_append_drop]
  · by_cases hlen : s.length < n
    · exact .inl ⟨hs, hlen⟩
    · exact .inr ⟨s.take n, s.drop n, hlong s hs (by omega), (List.take_append_drop n s).symm⟩

/-- A text is full pieces and an open part. -/
theorem exists_pieces (hn : 0 < n) (s : List Char) :
    ∃ (ps : List (List Char)) (l : List Char), (∀ p ∈ ps, FullPiece n p) ∧ '\n' ∉ l ∧
      l.length < n ∧ s = ps.flatten ++ l := by
  induction hs : s.length using Nat.strongRecOn generalizing s with
  | _ m ih =>
    rcases open_or_full n s with ⟨hnl, hlen⟩ | ⟨p, t, hp, rfl⟩
    · exact ⟨[], s, by simp, hnl, hlen, rfl⟩
    · have hpos : 0 < p.length := by
        rcases hp with ⟨-, hp⟩ | ⟨l, -, -, rfl⟩
        · omega
        · simp
      have hlt : t.length < m := by
        rw [List.length_append] at hs
        omega
      obtain ⟨ps, l, h1, h2, h3, rfl⟩ := ih t.length hlt t rfl
      refine ⟨p :: ps, l, ?_, h2, h3, by simp⟩
      exact List.forall_mem_cons.mpr ⟨hp, h1⟩

theorem isFull_of_full (hp : FullPiece n p) : isFull n p = true := by
  rcases hp with ⟨-, hp⟩ | ⟨l, -, -, rfl⟩
  · simp [isFull, hp]
  · simp [isFull]

theorem isFull_of_open (hnl : '\n' ∉ l) (hlen : l.length < n) : isFull n l = false := by
  have hlast : l.getLast? ≠ some '\n' := fun h => hnl (List.mem_of_getLast? h)
  have hne : l.length ≠ n := by omega
  simp [isFull, hlast, hne]

/-- The full pieces and the open part, where they are known. -/
theorem fullPieces_openPart (hn : 0 < n) {ps : List (List Char)} (hps : ∀ p ∈ ps, FullPiece n p)
    (hnl : '\n' ∉ l) (hlen : l.length < n) :
    fullPieces n (ps.flatten ++ l) = ps ∧ openPart n (ps.flatten ++ l) = l := by
  have hfull : ps.filter (isFull n) = ps :=
    List.filter_eq_self.mpr fun p hp => isFull_of_full (hps p hp)
  have hnone : (ps.filter fun p => !isFull n p) = [] := by
    rw [List.filter_eq_nil_iff]
    intro p hp
    simp [isFull_of_full (hps p hp)]
  unfold fullPieces openPart
  rw [fgetsAll_flatten hn hps]
  by_cases hl : l = []
  · subst hl
    simp [fgetsAll, fgetsFrom, hfull, hnone]
  · rw [fgetsAll_open hnl hl (by omega), List.filter_append, List.filter_append, hfull, hnone]
    simp [isFull_of_open hnl hlen]

/-- **A text is its full pieces and its open part.** -/
theorem fgets_spec (hn : 0 < n) (s : List Char) :
    (∀ p ∈ fullPieces n s, FullPiece n p) ∧ '\n' ∉ openPart n s ∧ (openPart n s).length < n ∧
      s = (fullPieces n s).flatten ++ openPart n s := by
  obtain ⟨ps, l, h1, h2, h3, rfl⟩ := exists_pieces hn s
  obtain ⟨h4, h5⟩ := fullPieces_openPart hn h1 h2 h3
  rw [h4, h5]
  exact ⟨h1, h2, h3, rfl⟩

/-- The pieces, the open part last if there is one. -/
theorem fgetsAll_eq (hn : 0 < n) (s : List Char) :
    fgetsAll n s = fullPieces n s ++ if openPart n s = [] then [] else [openPart n s] := by
  obtain ⟨h1, h2, h3, h4⟩ := fgets_spec hn s
  have hsplit : fgetsAll n s = fullPieces n s ++ fgetsAll n (openPart n s) := by
    conv_lhs => rw [h4]
    exact fgetsAll_flatten hn h1 _
  rw [hsplit]
  split_ifs with hopen
  · rw [hopen]
    rfl
  · rw [fgetsAll_open h2 hopen (by omega)]

theorem FullPiece.length_le (hp : FullPiece n p) : p.length ≤ n := by
  rcases hp with ⟨-, hlen⟩ | ⟨l, -, hlen, rfl⟩
  · exact Nat.le_of_eq hlen
  · rw [List.length_append, List.length_singleton]
    exact hlen

/-- A piece fits the buffer. -/
theorem length_le_of_mem_fgetsAll (hn : 0 < n) (hp : p ∈ fgetsAll n s) : p.length ≤ n := by
  obtain ⟨h1, -, h2, -⟩ := fgets_spec hn s
  rw [fgetsAll_eq hn, List.mem_append] at hp
  rcases hp with hp | hp
  · exact (h1 p hp).length_le
  · split_ifs at hp
    · exact absurd hp List.not_mem_nil
    · rw [List.mem_singleton.mp hp]
      exact Nat.le_of_lt h2

theorem FullPiece.ne_nil (hn : 0 < n) (hp : FullPiece n p) : p ≠ [] := by
  rcases hp with ⟨-, hlen⟩ | ⟨l, -, -, rfl⟩
  · exact List.ne_nil_of_length_pos (hlen ▸ hn)
  · exact List.append_ne_nil_of_right_ne_nil _ (List.cons_ne_nil _ _)

/-- Every piece before another one is full. -/
theorem fullPiece_of_split (hn : 0 < n) {pre post : List (List Char)} {q : List Char}
    (h : fgetsAll n s = pre ++ q :: post) : ∀ p ∈ pre, FullPiece n p := by
  obtain ⟨h1, -, -, -⟩ := fgets_spec hn s
  suffices hpre : pre <+: fullPieces n s from fun p hp => h1 p (hpre.subset hp)
  rw [fgetsAll_eq hn] at h
  have hle : pre.length ≤ (fullPieces n s).length := by
    have hlen := congrArg List.length h
    rw [List.length_append, List.length_append, List.length_cons] at hlen
    split_ifs at hlen
    · rw [List.length_nil] at hlen
      omega
    · rw [List.length_singleton] at hlen
      omega
  exact List.prefix_of_prefix_length_le ⟨q :: post, h.symm⟩ (List.prefix_append _ _) hle

/-- Full pieces and a last piece are read as they are. -/
theorem fgetsAll_of_pieces (hn : 0 < n) {ps : List (List Char)} (hps : ∀ p ∈ ps, FullPiece n p)
    {l : List Char} (hl : FullPiece n l ∨ ('\n' ∉ l ∧ l ≠ [] ∧ l.length < n)) :
    fgetsAll n (ps ++ [l]).flatten = ps ++ [l] := by
  have hflat : (ps ++ [l]).flatten = ps.flatten ++ l := by simp
  rw [hflat, fgetsAll_flatten hn hps]
  rcases hl with hl | ⟨hnl, hne, hlen⟩
  · have := fgetsAll_full hn hl []
    rw [List.append_nil] at this
    rw [this]
    rfl
  · rw [fgetsAll_open hnl hne (by omega)]

/-- **Appended text joins the open part.** -/
theorem fgetsAll_append (hn : 0 < n) (s t : List Char) :
    fgetsAll n (s ++ t) = fullPieces n s ++ fgetsAll n (openPart n s ++ t) := by
  obtain ⟨h1, -, -, h2⟩ := fgets_spec hn s
  conv_lhs => rw [h2]
  rw [List.append_assoc, fgetsAll_flatten hn h1]

end WtslCore
