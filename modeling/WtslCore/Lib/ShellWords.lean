/-
# The words of a command line with double quotes

The shell reads a command line character by character. Outside quotes a blank
ends a word; in double quotes every character is text but the closing quote,
what starts a substitution, and a backslash before a character it makes text.
`words` are the words of a line that is one plain command; a line with a quote
left open, a substitution or a character that ends a command has none.

A text that is put in double quotes arrives as it is, in one word, exactly if
it has none of these characters and no backslash that the shell acts on
(`words_quoted_iff`). Every character of a line adds at most one to what is
read (`read_size`), and a quote nothing, so a text that loses one character to
the shell cannot arrive whole.

Key definitions: `Reader`, `read`, `words`, `Quotable`.
Key theorems: `read_size`, `quotable_of_full`, `words_quoted_iff`,
`words_open_ne`.
-/
import WtslCore.Lib.Shell

namespace WtslCore
namespace ShellWords

open Shell

/-- Outside quotes, in double quotes, or behind a backslash in them. -/
inductive Mode
  | outside
  | quoted
  | escaped
  deriving DecidableEq, Repr

/-- The words that are read, the word that is being read, if one is, and where
the reader is. -/
structure Reader where
  done : List CStr
  cur : Option CStr
  mode : Mode
  deriving DecidableEq, Repr

/-- What a backslash in double quotes makes text. -/
def special (c : Char) : Bool := c ∈ ['\x22', '$', '\x60', '\x5c']

/-- The next character; `none` if the line is no plain command. -/
def read (r : Reader) (c : Char) : Option Reader :=
  match r.mode with
  | .outside =>
    if isBlank c then some ⟨r.done ++ r.cur.toList, none, .outside⟩
    else if c = '\x22' then some ⟨r.done, some (r.cur.getD []), .quoted⟩
    else if isActive c = true ∨ (r.cur = none ∧ c = '#') then none
    else some ⟨r.done, some (r.cur.getD [] ++ [c]), .outside⟩
  | .quoted =>
    if c = '\x22' then some ⟨r.done, some (r.cur.getD []), .outside⟩
    else if c = '\x5c' then some ⟨r.done, some (r.cur.getD []), .escaped⟩
    else if c = '$' ∨ c = '\x60' then none
    else some ⟨r.done, some (r.cur.getD [] ++ [c]), .quoted⟩
  | .escaped =>
    if c = '\n' then some ⟨r.done, some (r.cur.getD []), .quoted⟩
    else if special c = true then some ⟨r.done, some (r.cur.getD [] ++ [c]), .quoted⟩
    else some ⟨r.done, some (r.cur.getD [] ++ ['\x5c', c]), .quoted⟩

/-- The words, if no quote is open. -/
def Reader.finish (r : Reader) : Option (List CStr) :=
  if r.mode = .outside then some (r.done ++ r.cur.toList) else none

/-- **The words of a line.** -/
def words (s : List Char) : Option (List CStr) := (s.foldlM read ⟨[], none, .outside⟩).bind Reader.finish

/-- A text that double quotes keep as it is. -/
structure Quotable (v : List Char) : Prop where
  plain : ∀ c ∈ v, c ≠ '\x22' ∧ c ≠ '$' ∧ c ≠ '\x60'
  backslash : ∀ pre post, v = pre ++ '\x5c' :: post → ∃ c rest, post = c :: rest ∧ c ≠ '\x5c' ∧ c ≠ '\n'

variable {r r' : Reader} {c : Char} {v w : List Char} {done : List CStr} {cur : CStr}

/-! ### What is read so far -/

/-- The characters of words. -/
def total (ws : List CStr) : ℕ := ws.flatten.length

/-- The characters that are read, with a backslash that is held back. -/
def Reader.size (r : Reader) : ℕ :=
  total (r.done ++ r.cur.toList) + if r.mode = .escaped then 1 else 0

theorem total_append (ws us : List CStr) : total (ws ++ us) = total ws + total us := by
  simp [total]

theorem total_toList (o : Option CStr) : total o.toList = (o.getD []).length := by
  cases o <;> simp [total]

theorem size_eq (done : List CStr) (cur : Option CStr) (mode : Mode) : (⟨done, cur, mode⟩ : Reader).size =
    total done + (cur.getD []).length + if mode = .escaped then 1 else 0 := by
  rw [Reader.size, total_append, total_toList]

/-- **A character adds at most one.** -/
theorem read_size (h : read r c = some r') : r'.size ≤ r.size + 1 := by
  obtain ⟨done, cur, mode⟩ := r
  cases mode with
  | outside =>
    simp only [read] at h
    split_ifs at h <;> obtain rfl := Option.some.inj h <;>
      simp only [size_eq, total_append, total_toList, Option.getD_some, Option.getD_none,
        List.length_append, List.length_singleton, List.length_nil, reduceCtorEq, if_false] <;> omega
  | quoted =>
    simp only [read] at h
    split_ifs at h <;> obtain rfl := Option.some.inj h <;>
      simp only [size_eq, Option.getD_some, List.length_append, List.length_singleton, reduceCtorEq,
        if_false, if_true] <;> omega
  | escaped =>
    simp only [read] at h
    split_ifs at h <;> obtain rfl := Option.some.inj h <;>
      simp only [size_eq, Option.getD_some, List.length_append, List.length_cons, List.length_nil,
        reduceCtorEq, if_false, if_true] <;> omega

theorem foldlM_size : ∀ {w : List Char} {r r' : Reader}, w.foldlM read r = some r' →
    r'.size ≤ r.size + w.length
  | [], r, r', h => by
    obtain rfl := Option.some.inj h
    exact Nat.le_add_right _ _
  | c :: w, r, r', h => by
    rw [List.foldlM_cons] at h
    obtain ⟨r₁, h1, h2⟩ := Option.bind_eq_some_iff.mp h
    have hstep := read_size h1
    have hrest := foldlM_size h2
    rw [List.length_cons]
    omega

/-- A quote adds nothing. -/
theorem read_quote_size (h : read r '\x22' = some r') : r'.size = r.size := by
  obtain ⟨done, cur, mode⟩ := r
  cases mode with
  | outside =>
    have heq : read ⟨done, cur, .outside⟩ '\x22' = some ⟨done, some (cur.getD []), .quoted⟩ := rfl
    obtain rfl := Option.some.inj (heq.symm.trans h)
    simp [size_eq]
  | quoted =>
    have heq : read ⟨done, cur, .quoted⟩ '\x22' = some ⟨done, some (cur.getD []), .outside⟩ := rfl
    obtain rfl := Option.some.inj (heq.symm.trans h)
    simp [size_eq]
  | escaped =>
    have heq : read ⟨done, cur, .escaped⟩ '\x22' =
      some ⟨done, some (cur.getD [] ++ ['\x22']), .quoted⟩ := rfl
    obtain rfl := Option.some.inj (heq.symm.trans h)
    simp only [size_eq, Option.getD_some, List.length_append, List.length_singleton, reduceCtorEq,
      if_false, if_true, Nat.add_zero]
    omega

/-- A quote that is closed has cost a character. -/
theorem foldlM_size_lt : ∀ {w : List Char} {r r' : Reader}, r.mode ≠ .outside → w.foldlM read r = some r' →
    r'.mode = .outside → r'.size < r.size + w.length
  | [], r, r', hopen, h, hclosed => by
    obtain rfl := Option.some.inj h
    exact absurd hclosed hopen
  | c :: w, r, r', hopen, h, hclosed => by
    rw [List.foldlM_cons] at h
    obtain ⟨r₁, h1, h2⟩ := Option.bind_eq_some_iff.mp h
    rw [List.length_cons]
    by_cases hmode : r₁.mode = .outside
    · -- only the closing quote leads out
      have hquote : c = '\x22' := by
        obtain ⟨done, cur, mode⟩ := r
        cases mode with
        | outside => exact absurd rfl hopen
        | quoted =>
          simp only [read] at h1
          split_ifs at h1 with hq
          · exact hq
          all_goals
            obtain rfl := Option.some.inj h1
            exact nomatch hmode
        | escaped =>
          simp only [read] at h1
          split_ifs at h1
          all_goals
            obtain rfl := Option.some.inj h1
            exact nomatch hmode
      subst hquote
      have hstep := read_quote_size h1
      have hrest := foldlM_size h2
      omega
    · have hstep := read_size h1
      have hrest := foldlM_size_lt hmode h2 hclosed
      omega

/-! ### Texts in double quotes -/

theorem Quotable.nil : Quotable [] where
  plain := nofun
  backslash pre _ h := absurd h.symm (List.append_ne_nil_of_right_ne_nil pre (List.cons_ne_nil _ _))

/-- A character before the text. -/
theorem Quotable.cons (h : Quotable v) (hc : special c = false) : Quotable (c :: v) := by
  have hne : c ≠ '\x22' ∧ c ≠ '$' ∧ c ≠ '\x60' ∧ c ≠ '\x5c' := by
    simpa [special, not_or] using hc
  refine ⟨fun d hd => ?_, fun pre post heq => ?_⟩
  · rcases List.mem_cons.mp hd with rfl | hd
    · exact ⟨hne.1, hne.2.1, hne.2.2.1⟩
    · exact h.plain d hd
  · cases pre with
    | nil => exact absurd (List.cons.inj heq).1 hne.2.2.2
    | cons d pre => exact h.backslash pre post (List.cons.inj heq).2

/-- A backslash and a character it does not make text, before the text. -/
theorem Quotable.escape (h : Quotable v) (hc : special c = false) (hn : c ≠ '\n') :
    Quotable ('\x5c' :: c :: v) := by
  have hne : c ≠ '\x22' ∧ c ≠ '$' ∧ c ≠ '\x60' ∧ c ≠ '\x5c' := by
    simpa [special, not_or] using hc
  have hcv := h.cons hc
  refine ⟨fun d hd => ?_, fun pre post heq => ?_⟩
  · rcases List.mem_cons.mp hd with rfl | hd
    · decide
    · exact hcv.plain d hd
  · cases pre with
    | nil => exact ⟨c, v, (List.cons.inj heq).2.symm, hne.2.2.2, hn⟩
    | cons d pre => exact hcv.backslash pre post (List.cons.inj heq).2

theorem Quotable.tail (h : Quotable (c :: v)) : Quotable v where
  plain d hd := h.plain d (List.mem_cons_of_mem c hd)
  backslash pre post heq := h.backslash (c :: pre) post (congrArg (c :: ·) heq)

/-- No character of the text is special in double quotes. -/
def NoSpecial (s : List Char) : Prop := ∀ c ∈ s, special c = false

instance (s : List Char) : Decidable (NoSpecial s) :=
  inferInstanceAs (Decidable (∀ c ∈ s, special c = false))

theorem NoSpecial.append (hv : NoSpecial v) (hw : NoSpecial w) : NoSpecial (v ++ w) :=
  fun c hc => (List.mem_append.mp hc).elim (hv c) (hw c)

/-- Before clean characters nothing changes. -/
theorem quotable_append_iff : ∀ {w : List Char}, NoSpecial w → (Quotable (w ++ v) ↔ Quotable v)
  | [], _ => Iff.rfl
  | c :: w, h => by
    have ih : Quotable (w ++ v) ↔ Quotable v :=
      quotable_append_iff fun d hd => h d (List.mem_cons_of_mem c hd)
    exact ⟨fun hq => ih.mp hq.tail, fun hq => (ih.mpr hq).cons (h c List.mem_cons_self)⟩

theorem NoSpecial.quotable (h : NoSpecial v) : Quotable v := by
  rw [← List.append_nil v]
  exact (quotable_append_iff h).mpr .nil

/-- A quotable text is read as it is. -/
theorem foldlM_quotable : ∀ {v : List Char} {cur : CStr}, Quotable v →
    v.foldlM read ⟨done, some cur, .quoted⟩ = some ⟨done, some (cur ++ v), .quoted⟩
  | [], cur, _ => by rw [List.append_nil]; rfl
  | c :: v, cur, h => by
    obtain ⟨hq, hd, hb⟩ := h.plain c List.mem_cons_self
    by_cases hesc : c = '\x5c'
    · subst hesc
      obtain ⟨d, rest, rfl, hback, hnl⟩ := h.backslash [] v rfl
      obtain ⟨hq', hd', hb'⟩ := h.plain d (List.mem_cons_of_mem _ List.mem_cons_self)
      have hspecial : special d = false := by simp [special, hq', hd', hb', hback]
      have hread : ('\x5c' :: d :: rest).foldlM read ⟨done, some cur, .quoted⟩ =
          rest.foldlM read ⟨done, some (cur ++ ['\x5c', d]), .quoted⟩ := by
        simp [List.foldlM_cons, read, hnl, hspecial]
      rw [hread, foldlM_quotable h.tail.tail, List.append_assoc]
      rfl
    · have hread : (c :: v).foldlM read ⟨done, some cur, .quoted⟩ =
          v.foldlM read ⟨done, some (cur ++ [c]), .quoted⟩ := by
        simp [List.foldlM_cons, read, hq, hd, hb, hesc]
      rw [hread, foldlM_quotable h.tail, List.append_assoc]
      rfl

/-- **A text of which nothing is lost is quotable.** -/
theorem quotable_of_full : ∀ {v : List Char} {cur : CStr},
    v.foldlM read ⟨done, some cur, .quoted⟩ = some r →
    r.mode = .quoted → r.size = total done + cur.length + v.length → Quotable v
  | [], cur, _, _, _ => .nil
  | c :: v, cur, h, hmode, hsize => by
    rw [List.foldlM_cons] at h
    obtain ⟨r₁, h1, h2⟩ := Option.bind_eq_some_iff.mp h
    have hrest := foldlM_size h2
    rw [List.length_cons] at hsize
    simp only [read, Option.getD_some] at h1
    split_ifs at h1 with hquote hback hsub <;> obtain rfl := Option.some.inj h1
    · -- the quote is closed too early
      simp only [size_eq, Option.getD_some, reduceCtorEq, if_false] at hrest
      omega
    · subst hback
      cases v with
      | nil =>
        obtain rfl := Option.some.inj h2
        exact nomatch hmode
      | cons d v =>
        rw [List.foldlM_cons] at h2
        obtain ⟨r₂, h3, h4⟩ := Option.bind_eq_some_iff.mp h2
        have hrest' := foldlM_size h4
        rw [List.length_cons] at hsize
        simp only [read, Option.getD_some] at h3
        split_ifs at h3 with hnl hspecial <;> obtain rfl := Option.some.inj h3
        · simp only [size_eq, Option.getD_some, reduceCtorEq, if_false] at hrest'
          omega
        · simp only [size_eq, Option.getD_some, List.length_append, List.length_singleton, reduceCtorEq,
            if_false] at hrest'
          omega
        · have hlen : r.size = total done + (cur ++ ['\x5c', d]).length + v.length := by
            simp only [List.length_append, List.length_cons, List.length_nil]
            omega
          exact (quotable_of_full h4 hmode hlen).escape (Bool.eq_false_iff.mpr hspecial) hnl
    · have hspecial : special c = false := by
        obtain ⟨hd, hb⟩ := not_or.mp hsub
        simp [special, hquote, hback, hd, hb]
      have hlen : r.size = total done + (cur ++ [c]).length + v.length := by
        simp only [List.length_append, List.length_singleton]
        omega
      exact (quotable_of_full h2 hmode hlen).cons hspecial

/-- What is read in the end, if it is a plain command. -/
theorem size_of_finish {ws : List CStr} (h : r.finish = some ws) :
    r.mode = .outside ∧ r.size = total ws := by
  unfold Reader.finish at h
  split_ifs at h with hmode
  refine ⟨hmode, ?_⟩
  rw [Reader.size, if_neg (by rw [hmode]; exact nofun), Nat.add_zero, Option.some.inj h]

/-- **A text in double quotes** arrives as it is, behind what the quotes hold
before it, if and only if it is quotable. -/
theorem words_quoted_iff {pre : List Char}
    (hpre : pre.foldlM read ⟨[], none, .outside⟩ = some ⟨done, some cur, .quoted⟩)
    (v : List Char) : words (pre ++ (v ++ ['\x22'])) = some (done ++ [cur ++ v]) ↔ Quotable v := by
  have hwords : words (pre ++ (v ++ ['\x22'])) =
      ((v.foldlM read ⟨done, some cur, .quoted⟩).bind fun r => read r '\x22').bind Reader.finish := by
    rw [words, List.foldlM_append, hpre]
    show ((v ++ ['\x22']).foldlM read ⟨done, some cur, .quoted⟩).bind Reader.finish = _
    have hlast : ∀ r, ['\x22'].foldlM read r = read r '\x22' := fun r => by
      rw [List.foldlM_cons]
      exact bind_pure _
    simp only [List.foldlM_append, hlast]
    rfl
  rw [hwords]
  constructor
  · intro h
    obtain ⟨r', hread, hfinish⟩ := Option.bind_eq_some_iff.mp h
    obtain ⟨r, hv, hquote⟩ := Option.bind_eq_some_iff.mp hread
    obtain ⟨hmode, hsize⟩ := size_of_finish hfinish
    have hfull : r.size = total done + cur.length + v.length := by
      rw [← read_quote_size hquote, hsize]
      simp [total]
      omega
    refine quotable_of_full hv ?_ hfull
    have hopen : r.mode ≠ .outside := by
      intro hout
      have hlt := foldlM_size_lt (show Mode.quoted ≠ .outside by decide) hv hout
      simp only [size_eq, Option.getD_some, reduceCtorEq, if_false] at hlt
      omega
    -- behind a backslash the quote is text
    cases hr : r.mode with
    | outside => exact absurd hr hopen
    | quoted => rfl
    | escaped =>
      have heq : read r '\x22' = some ⟨r.done, some (r.cur.getD [] ++ ['\x22']), .quoted⟩ := by
        unfold read
        rw [hr]
        rfl
      obtain rfl := Option.some.inj (heq.symm.trans hquote)
      exact nomatch hmode
  · intro h
    rw [foldlM_quotable h]
    rfl

/-- Without the closing quote it does not arrive. -/
theorem words_open_ne {pre : List Char}
    (hpre : pre.foldlM read ⟨[], none, .outside⟩ = some ⟨done, some cur, .quoted⟩)
    {v : List Char} {ws : List CStr} (hws : total done + cur.length + v.length ≤ total ws) :
    words (pre ++ v) ≠ some ws := by
  intro h
  rw [words, List.foldlM_append, hpre] at h
  obtain ⟨r, hv, hfinish⟩ := Option.bind_eq_some_iff.mp h
  obtain ⟨hmode, hsize⟩ := size_of_finish hfinish
  have hlt := foldlM_size_lt (show Mode.quoted ≠ .outside by decide) hv hmode
  simp only [size_eq, Option.getD_some, reduceCtorEq, if_false] at hlt
  omega

/-! ### Words without quotes -/

/-- A text that is a word wherever it stands. -/
def Bareword (s : List Char) : Prop := s ≠ [] ∧ ∀ c ∈ s, isBlank c = false ∧ isActive c = false ∧ c ≠ '#'

instance (s : List Char) : Decidable (Bareword s) :=
  inferInstanceAs (Decidable (s ≠ [] ∧ ∀ c ∈ s, isBlank c = false ∧ isActive c = false ∧ c ≠ '#'))

theorem foldlM_word : ∀ {s : List Char} {o : Option CStr},
    (∀ c ∈ s, isBlank c = false ∧ isActive c = false ∧ c ≠ '#') → s ≠ [] →
      s.foldlM read ⟨done, o, .outside⟩ = some ⟨done, some (o.getD [] ++ s), .outside⟩
  | [], _, _, hne => absurd rfl hne
  | c :: s, o, h, _ => by
    obtain ⟨hblank, hactive, hhash⟩ := h c List.mem_cons_self
    have hquote : c ≠ '\x22' := by
      rintro rfl
      exact absurd hactive (by decide)
    have hread : read ⟨done, o, .outside⟩ c = some ⟨done, some (o.getD [] ++ [c]), .outside⟩ := by
      simp [read, hblank, hquote, hactive, hhash]
    rw [List.foldlM_cons, hread]
    cases s with
    | nil => rfl
    | cons d s =>
      show (d :: s).foldlM read ⟨done, some (o.getD [] ++ [c]), .outside⟩ = _
      rw [foldlM_word (fun x hx => h x (List.mem_cons_of_mem c hx)) (List.cons_ne_nil d s),
        Option.getD_some,
        List.append_assoc]
      rfl

end ShellWords
end WtslCore
