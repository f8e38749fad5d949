/-
# What the shell makes of the characters of a command line

A command line is read character by character: outside quotes and comments a
character is a blank, a separator, part of a redirection, the start of a
substitution, a quote, a newline or plain text; a `#` at the start of a word
begins a comment, which the next newline ends. `roles` gives the role of each
character. (A `$` of which POSIX leaves the meaning open counts as a
substitution; the text inside a substitution is read like the text around it.)

A program that pastes values into a command line marks their characters
(`Text`). The line is free of injection if no marked character has a role
other than text, and this is a condition on the values alone as long as the
program's own text is inert (`singleCommand_iff`): a value has no active
character up to the comment it starts, and no newline after it.

Key definitions: `Role`, `State`, `step`, `roles`, `InjectionFree`,
`OneCommand`, `Piece`, `values`, `ValuesSafe`, `Block`, `cut`.
Key theorems: `injectionFree_iff`, `oneCommand_of_safe`, `singleCommand_iff`,
`Block.append`, `text_cut`.
-/
import WtslCore.Lib.CStr

namespace WtslCore
namespace Shell

/-- What a character is to the shell. -/
inductive Role
  | plain
  | blank
  | separator
  | redirection
  | substitution
  | quote
  | newline
  | comment
  deriving DecidableEq, Repr

/-- A role in which the character is more than text of a word or a comment. -/
def Role.active : Role → Bool
  | .separator | .redirection | .substitution | .quote | .newline => true
  | .plain | .blank | .comment => false

/-- Where the reader of the line is. -/
inductive State
  | start
  | word
  /-- After a redirection operator. -/
  | operator
  | comment
  /-- After a backslash. -/
  | escaped
  | single
  | double
  /-- After a backslash inside double quotes. -/
  | doubleEscaped
  deriving DecidableEq, Repr

def isBlank (c : Char) : Bool := c == ' ' || c == '\t'

/-- A character outside quotes and comments. -/
def unquoted (c : Char) : Role × State :=
  if isBlank c then (.blank, .start)
  else if c = '\n' then (.newline, .start)
  else if c ∈ [';', '&', '|', '(', ')'] then (.separator, .start)
  else if c ∈ ['<', '>'] then (.redirection, .operator)
  else if c ∈ ['$', '\x60'] then (.substitution, .word)
  else if c = '\x5c' then (.quote, .escaped)
  else if c = '\x27' then (.quote, .single)
  else if c = '\x22' then (.quote, .double)
  else (.plain, .word)

/-- The role of the next character and the state after it. -/
def step : State → Char → Role × State
  | .start, c => if c = '#' then (.comment, .comment) else unquoted c
  | .word, c => unquoted c
  | .operator, c =>
    -- the second character of `>>`, `<<`, `>&`, `<&`, `>|`, `<>`
    if c ∈ ['<', '>', '&', '|'] then (.redirection, .operator)
    else if c = '#' then (.comment, .comment)
    else unquoted c
  | .comment, c => if c = '\n' then (.newline, .start) else (.comment, .comment)
  | .escaped, _ => (.plain, .word)
  | .single, c => if c = '\x27' then (.quote, .word) else (.plain, .single)
  | .double, c =>
    if c = '\x22' then (.quote, .word)
    else if c = '\x5c' then (.quote, .doubleEscaped)
    else if c ∈ ['$', '\x60'] then (.substitution, .double)
    else (.plain, .double)
  | .doubleEscaped, _ => (.plain, .double)

/-- A command line; the marked characters come from outside. -/
abbrev Text := List (Char × Bool)

/-- The roles of the characters, each with its mark. -/
def roles : State → Text → List (Role × Bool)
  | _, [] => []
  | st, x :: t => ((step st x.1).1, x.2) :: roles (step st x.1).2 t

/-- No marked character is more than text. -/
def InjectionFree (st : State) (t : Text) : Prop :=
  ∀ r ∈ roles st t, r.2 = true → r.1.active = false

/-- No character of the line ends a command. -/
def OneCommand (st : State) (t : Text) : Prop :=
  ∀ r ∈ roles st t, r.1 ≠ .separator ∧ r.1 ≠ .newline

instance (st : State) (t : Text) : Decidable (InjectionFree st t) :=
  inferInstanceAs (Decidable (∀ r ∈ roles st t, r.2 = true → r.1.active = false))

instance (st : State) (t : Text) : Decidable (OneCommand st t) :=
  inferInstanceAs (Decidable (∀ r ∈ roles st t, r.1 ≠ .separator ∧ r.1 ≠ .newline))

/-- A character that is more than text wherever it is not quoted. -/
def isActive (c : Char) : Bool := (unquoted c).1.active

/-- Text without active characters and without `#`. -/
def Inert (s : List Char) : Prop := ∀ c ∈ s, isActive c = false ∧ c ≠ '#'

instance (s : List Char) : Decidable (Inert s) :=
  inferInstanceAs (Decidable (∀ c ∈ s, isActive c = false ∧ c ≠ '#'))

/-! ### The condition on the marked characters -/

/-- The state outside quotes and comments: at the start of a word or in one. -/
def wordState (atStart : Bool) : State := if atStart then .start else .word

/-- No marked character before the first comment is active, and none in it is
a newline. -/
def MarksSafe : Bool → Text → Prop
  | _, [] => True
  | atStart, (c, m) :: t =>
    if atStart ∧ c = '#' then ∀ x ∈ t, x.2 = true → x.1 ≠ '\n'
    else (m = true → isActive c = false) ∧ MarksSafe (isBlank c) t

variable {c : Char} {m atStart : Bool} {st : State} {t : Text}

theorem injectionFree_cons : InjectionFree st ((c, m) :: t) ↔
    (m = true → (step st c).1.active = false) ∧ InjectionFree (step st c).2 t := by
  simp [InjectionFree, roles]

theorem oneCommand_cons : OneCommand st ((c, m) :: t) ↔
    ((step st c).1 ≠ .separator ∧ (step st c).1 ≠ .newline) ∧ OneCommand (step st c).2 t := by
  simp [OneCommand, roles]

/-- A character that is not active leaves the reader outside quotes. -/
theorem unquoted_of_inactive (h : isActive c = false) :
    (unquoted c).2 = wordState (isBlank c) ∧
      ((unquoted c).1 ≠ .separator ∧ (unquoted c).1 ≠ .newline) := by
  revert h
  unfold isActive unquoted
  split_ifs <;> simp_all [Role.active, wordState]

/-- A character that is not active belongs to a word or separates words. -/
theorem role_of_inactive (h : isActive c = false) :
    (unquoted c).1 = .plain ∨ (unquoted c).1 = .blank := by
  revert h
  unfold isActive unquoted
  split_ifs <;> simp [Role.active]

theorem step_wordState (h : ¬ (atStart = true ∧ c = '#')) :
    step (wordState atStart) c = unquoted c := by
  cases atStart with
  | false => rfl
  | true =>
    have hc : c ≠ '#' := fun hc => h ⟨rfl, hc⟩
    simp [wordState, step, hc]

theorem step_hash : step (wordState true) '#' = (.comment, .comment) := rfl

/-- Inside a comment only a newline is more than text. -/
theorem injectionFree_comment_iff : ∀ {t : Text}, (∀ x ∈ t, x.2 = false → x.1 ≠ '\n') →
    (InjectionFree .comment t ↔ ∀ x ∈ t, x.2 = true → x.1 ≠ '\n')
  | [], _ => by simp [InjectionFree, roles]
  | (c, m) :: t, h => by
    have ih := injectionFree_comment_iff (t := t) fun x hx => h x (List.mem_cons_of_mem _ hx)
    rw [injectionFree_cons, List.forall_mem_cons]
    by_cases hc : c = '\n'
    · have hm : m = true := by
        by_contra hm
        exact h (c, m) List.mem_cons_self (by simpa using hm) hc
      simp [step, hc, hm, Role.active]
    · simp [step, hc, Role.active, ih]

theorem oneCommand_comment : ∀ {t : Text}, (∀ x ∈ t, x.1 ≠ '\n') → OneCommand .comment t
  | [], _ => by simp [OneCommand, roles]
  | (c, m) :: t, h => by
    have hc : c ≠ '\n' := h (c, m) List.mem_cons_self
    rw [oneCommand_cons]
    simp only [step, if_neg hc]
    exact ⟨by simp, oneCommand_comment fun x hx => h x (List.mem_cons_of_mem _ hx)⟩

theorem isActive_newline : isActive '\n' = true := rfl

/-- The unmarked characters of the rest of a text are inert if those of the text are. -/
theorem inert_unmarked_tail (h : Inert ((((c, m) :: t).filter (!·.2)).map Prod.fst)) :
    Inert ((t.filter (!·.2)).map Prod.fst) := by
  cases m with
  | false => exact fun d hd => h d (List.mem_cons_of_mem _ hd)
  | true => exact h

/-- A newline is marked where the unmarked characters are inert. -/
theorem unmarked_ne_newline (h : Inert ((t.filter (!·.2)).map Prod.fst)) :
    ∀ x ∈ t, x.2 = false → x.1 ≠ '\n' := by
  intro x hx hm heq
  have hidle := (h x.1 (List.mem_map_of_mem (List.mem_filter.mpr ⟨hx, by simp [hm]⟩))).1
  rw [heq, isActive_newline] at hidle
  exact Bool.noConfusion hidle

/-- **Injection is a matter of the marked characters**, where the unmarked
ones are inert. -/
theorem injectionFree_iff : ∀ {t : Text} {atStart : Bool}, Inert ((t.filter (!·.2)).map Prod.fst) →
    (InjectionFree (wordState atStart) t ↔ MarksSafe atStart t)
  | [], _, _ => by simp [InjectionFree, roles, MarksSafe]
  | (c, m) :: t, atStart, h => by
    have ht := inert_unmarked_tail h
    have hc : m = false → isActive c = false ∧ c ≠ '#' := by
      rintro rfl
      exact h c List.mem_cons_self
    rw [injectionFree_cons, MarksSafe]
    by_cases hcm : atStart = true ∧ c = '#'
    · obtain ⟨rfl, rfl⟩ := hcm
      rw [step_hash, if_pos ⟨rfl, rfl⟩, injectionFree_comment_iff (unmarked_ne_newline ht)]
      simp [Role.active]
    · rw [if_neg hcm, step_wordState hcm]
      have hia : (unquoted c).1.active = isActive c := rfl
      rw [hia]
      -- an active character is marked here, so both sides fail there
      have key : isActive c = false →
          (InjectionFree (unquoted c).2 t ↔ MarksSafe (isBlank c) t) := by
        intro hact
        rw [(unquoted_of_inactive hact).1]
        exact injectionFree_iff ht
      cases m with
      | true =>
        simp only [forall_const]
        exact and_congr_right key
      | false => simpa using key (hc rfl).1

/-- Where the unmarked text and a safe marking meet, the line is one command,
up to a tail `s` that is one command after any of the text's own states. -/
theorem oneCommand_of_safe {s : Text} (hs : ∀ st ∈ [State.start, .word, .comment], OneCommand st s)
    (hsn : ∀ x ∈ s, x.1 ≠ '\n') :
    ∀ {t : Text} {atStart : Bool}, Inert ((t.filter (!·.2)).map Prod.fst) →
      MarksSafe atStart t → OneCommand (wordState atStart) (t ++ s)
  | [], atStart, _, _ => hs _ (by cases atStart <;> simp [wordState])
  | (c, m) :: t, atStart, h, hsafe => by
    have ht := inert_unmarked_tail h
    rw [MarksSafe] at hsafe
    rw [List.cons_append, oneCommand_cons]
    by_cases hcm : atStart = true ∧ c = '#'
    · obtain ⟨rfl, rfl⟩ := hcm
      rw [if_pos ⟨rfl, rfl⟩] at hsafe
      rw [step_hash]
      refine ⟨by simp, oneCommand_comment fun x hx => ?_⟩
      rcases List.mem_append.mp hx with hx | hx
      · cases hm : x.2 with
        | true => exact hsafe x hx hm
        | false => exact unmarked_ne_newline ht x hx hm
      · exact hsn x hx
    · rw [if_neg hcm] at hsafe
      have hact : isActive c = false := by
        cases m with
        | true => exact hsafe.1 rfl
        | false => exact (h c List.mem_cons_self).1
      obtain ⟨h1, h2⟩ := unquoted_of_inactive hact
      rw [step_wordState hcm, h1]
      exact ⟨h2, oneCommand_of_safe hs hsn ht hsafe.2⟩

/-! ### Lines made of fixed text and values -/

/-- A part of a command line: the program's own text, or a value from outside. -/
inductive Piece
  | fixed (s : List Char)
  | value (s : List Char)
  deriving DecidableEq, Repr

/-- The characters of a piece, marked. -/
def Piece.text : Piece → Text
  | .fixed s => s.map fun c => (c, false)
  | .value s => s.map fun c => (c, true)

def text (ps : List Piece) : Text := ps.flatMap Piece.text

/-- Whether a word starts after the text `s`. -/
def startsAfter (atStart : Bool) : List Char → Bool
  | [] => atStart
  | c :: s => startsAfter (isBlank c) s

/-- The values of a line, each with whether it is at the start of a word. -/
def values : Bool → List Piece → List (Bool × List Char)
  | _, [] => []
  | atStart, .fixed s :: ps => values (startsAfter atStart s) ps
  | atStart, .value s :: ps => (atStart, s) :: values (startsAfter atStart s) ps

/-- The text before a comment, and the text after its `#` if there is one. -/
def splitComment : Bool → List Char → List Char × Option (List Char)
  | _, [] => ([], none)
  | atStart, c :: s =>
    if atStart ∧ c = '#' then ([], some s)
    else (c :: (splitComment (isBlank c) s).1, (splitComment (isBlank c) s).2)

/-- No value has an active character, except that after the `#` of a comment
only newlines count. -/
def ValuesSafe : List (Bool × List Char) → Prop
  | [] => True
  | (atStart, s) :: vs =>
    (∀ c ∈ (splitComment atStart s).1, isActive c = false) ∧
      match (splitComment atStart s).2 with
      | none => ValuesSafe vs
      | some rest => '\n' ∉ rest ∧ ∀ v ∈ vs, '\n' ∉ v.2

instance decidableValuesSafe : ∀ vs, Decidable (ValuesSafe vs)
  | [] => inferInstanceAs (Decidable True)
  | (atStart, s) :: vs => by
    unfold ValuesSafe
    have := decidableValuesSafe vs
    cases (splitComment atStart s).2 <;> infer_instance

@[simp] theorem text_nil : text [] = [] := rfl

@[simp] theorem text_cons (p : Piece) (ps : List Piece) : text (p :: ps) = p.text ++ text ps := rfl

@[simp] theorem text_append (ps qs : List Piece) : text (ps ++ qs) = text ps ++ text qs := by
  simp [text]

theorem marksSafe_fixed : ∀ {s : List Char} {atStart : Bool}, Inert s →
    (MarksSafe atStart ((Piece.fixed s).text ++ t) ↔ MarksSafe (startsAfter atStart s) t)
  | [], _, _ => by simp [Piece.text, startsAfter]
  | c :: s, atStart, h => by
    have hc : ¬ (atStart = true ∧ c = '#') := fun hc => (h c List.mem_cons_self).2 hc.2
    have hs : Inert s := fun d hd => h d (List.mem_cons_of_mem _ hd)
    have ih : MarksSafe (isBlank c) ((Piece.fixed s).text ++ t) ↔
        MarksSafe (startsAfter (isBlank c) s) t := marksSafe_fixed hs
    simpa [Piece.text, MarksSafe, startsAfter, hc] using ih

theorem marksSafe_value : ∀ {s : List Char} {atStart : Bool},
    (MarksSafe atStart ((Piece.value s).text ++ t) ↔
      (∀ c ∈ (splitComment atStart s).1, isActive c = false) ∧
        match (splitComment atStart s).2 with
        | none => MarksSafe (startsAfter atStart s) t
        | some rest => '\n' ∉ rest ∧ ∀ x ∈ t, x.2 = true → x.1 ≠ '\n')
  | [], _ => by simp [Piece.text, startsAfter, splitComment]
  | c :: s, atStart => by
    by_cases hc : atStart = true ∧ c = '#'
    · have hnl : (∀ x ∈ (Piece.value s).text ++ t, x.2 = true → x.1 ≠ '\n') ↔
          '\n' ∉ s ∧ ∀ x ∈ t, x.2 = true → x.1 ≠ '\n' := by
        simp only [Piece.text, List.forall_mem_append, List.forall_mem_map, forall_const]
        refine and_congr_left fun _ => ⟨fun h hm => h _ hm rfl, fun h d hd heq => h (heq ▸ hd)⟩
      show MarksSafe atStart ((c, true) :: ((Piece.value s).text ++ t)) ↔ _
      rw [MarksSafe, if_pos hc, hnl, splitComment, if_pos hc]
      simp
    · show MarksSafe atStart ((c, true) :: ((Piece.value s).text ++ t)) ↔ _
      rw [MarksSafe, if_neg hc, marksSafe_value, splitComment, if_neg hc]
      simp [startsAfter, and_assoc]

/-- The marked newlines of a line are those of its values. -/
theorem no_newline_iff : ∀ {ps : List Piece} {atStart : Bool},
    (∀ x ∈ text ps, x.2 = true → x.1 ≠ '\n') ↔ ∀ v ∈ values atStart ps, '\n' ∉ v.2
  | [], _ => by simp [values]
  | .fixed s :: ps, atStart => by
    rw [values, ← no_newline_iff, text_cons, List.forall_mem_append]
    simp [Piece.text]
  | .value s :: ps, atStart => by
    rw [values, List.forall_mem_cons, ← no_newline_iff, text_cons, List.forall_mem_append]
    refine and_congr_left fun _ => ?_
    simp only [Piece.text, List.forall_mem_map, forall_const]
    exact ⟨fun h hm => h _ hm rfl, fun h d hd heq => h (heq ▸ hd)⟩

/-- The condition on the characters is the condition on the values. -/
theorem marksSafe_iff : ∀ {ps : List Piece} {atStart : Bool}, (∀ s, .fixed s ∈ ps → Inert s) →
    (MarksSafe atStart (text ps) ↔ ValuesSafe (values atStart ps))
  | [], _, _ => by simp [MarksSafe, values, ValuesSafe]
  | .fixed s :: ps, atStart, h => by
    rw [text_cons, marksSafe_fixed (h s List.mem_cons_self), values]
    exact marksSafe_iff fun s' hs => h s' (List.mem_cons_of_mem _ hs)
  | .value s :: ps, atStart, h => by
    have ih : MarksSafe (startsAfter atStart s) (text ps) ↔
        ValuesSafe (values (startsAfter atStart s) ps) :=
      marksSafe_iff fun s' hs => h s' (List.mem_cons_of_mem _ hs)
    rw [text_cons, marksSafe_value, values, ValuesSafe]
    cases (splitComment atStart s).2 with
    | none => exact and_congr_right fun _ => ih
    | some rest => exact and_congr_right fun _ => and_congr_right fun _ => no_newline_iff

/-- The unmarked characters of a line are those of its fixed pieces. -/
theorem inert_unmarked : ∀ {ps : List Piece}, (∀ s, .fixed s ∈ ps → Inert s) →
    Inert (((text ps).filter (!·.2)).map Prod.fst)
  | [], _ => by simp [Inert]
  | .fixed s :: ps, h => by
    have h1 : Inert s := h s List.mem_cons_self
    have h2 : Inert (((text ps).filter (!·.2)).map Prod.fst) :=
      inert_unmarked fun s' hs => h s' (List.mem_cons_of_mem _ hs)
    simp only [text_cons, Piece.text, List.filter_append, List.map_append]
    intro c hc
    rcases List.mem_append.mp hc with hc | hc
    · exact h1 c (by simpa [List.filter_map, Function.comp_def] using hc)
    · exact h2 c hc
  | .value s :: ps, h => by
    have h2 : Inert (((text ps).filter (!·.2)).map Prod.fst) :=
      inert_unmarked fun s' hs => h s' (List.mem_cons_of_mem _ hs)
    have hnone : (Piece.value s).text.filter (!·.2) = [] :=
      List.filter_eq_nil_iff.mpr (by simp [Piece.text])
    rw [text_cons, List.filter_append, hnone, List.nil_append]
    exact h2

theorem injectionFree_append_fixed {s : Text} (hs : ∀ x ∈ s, x.2 = false) :
    ∀ {t : Text} {st : State}, InjectionFree st (t ++ s) ↔ InjectionFree st t
  | [], st => by
    have : ∀ {s : Text} {st : State}, (∀ x ∈ s, x.2 = false) → InjectionFree st s := by
      intro s
      induction s with
      | nil => simp [InjectionFree, roles]
      | cons x s ih =>
        intro st h
        obtain ⟨hx, h⟩ := List.forall_mem_cons.mp h
        exact injectionFree_cons.mpr ⟨fun hm => by simp [hx] at hm, ih h⟩
    have hnil : InjectionFree st [] := by simp [InjectionFree, roles]
    exact iff_of_true (this hs) hnil
  | (c, m) :: t, st => by
    rw [List.cons_append, injectionFree_cons, injectionFree_cons, injectionFree_append_fixed hs]

/-- **One command, free of injection**: a line of inert fixed text and values,
with a fixed tail that is one command wherever it starts, is one command that
no value takes part in but as text, exactly if the values are safe. -/
theorem singleCommand_iff {ps : List Piece} {s : Text} (h : ∀ s, .fixed s ∈ ps → Inert s)
    (hs : ∀ st ∈ [State.start, .word, .comment], OneCommand st s)
    (hsf : ∀ x ∈ s, x.2 = false ∧ x.1 ≠ '\n') :
    (InjectionFree .start (text ps ++ s) ∧ OneCommand .start (text ps ++ s)) ↔
      ValuesSafe (values true ps) := by
  have hst : State.start = wordState true := rfl
  rw [hst, injectionFree_append_fixed fun x hx => (hsf x hx).1, injectionFree_iff (inert_unmarked h),
    marksSafe_iff h]
  refine and_iff_left_of_imp fun hv => ?_
  exact oneCommand_of_safe hs (fun x hx => (hsf x hx).2) (inert_unmarked h) ((marksSafe_iff h).mpr hv)

/-! ### Putting a line together -/

/-- Pieces that bring the values `vs` into a line wherever they are put, with
inert text of their own around them. -/
structure Block (ps : List Piece) (vs : List (Bool × List Char)) : Prop where
  values_eq : ∀ atStart, values atStart ps = vs
  inert : ∀ s, .fixed s ∈ ps → Inert s

theorem values_append : ∀ (ps qs : List Piece) (atStart : Bool),
    ∃ b, values atStart (ps ++ qs) = values atStart ps ++ values b qs
  | [], _, atStart => ⟨atStart, rfl⟩
  | .fixed s :: ps, qs, atStart => values_append ps qs (startsAfter atStart s)
  | .value s :: ps, qs, atStart => by
    obtain ⟨b, hb⟩ := values_append ps qs (startsAfter atStart s)
    exact ⟨b, by simp [values, hb]⟩

theorem Block.nil : Block [] [] := ⟨fun _ => rfl, by simp⟩

theorem Block.append {ps qs : List Piece} {vs us : List (Bool × List Char)} (hp : Block ps vs)
    (hq : Block qs us) : Block (ps ++ qs) (vs ++ us) where
  values_eq atStart := by
    obtain ⟨b, hb⟩ := values_append ps qs atStart
    rw [hb, hp.values_eq, hq.values_eq]
  inert s hs := (List.mem_append.mp hs).elim (hp.inert s) (hq.inert s)

theorem Block.flatMap {α : Type*} {f : α → List Piece} {g : α → List (Bool × List Char)}
    (h : ∀ a, Block (f a) (g a)) : ∀ l : List α, Block (l.flatMap f) (l.flatMap g)
  | [] => .nil
  | a :: l => (h a).append (Block.flatMap h l)

/-- The pieces up to a length. -/
def cut : ℕ → List Piece → List Piece
  | _, [] => []
  | n, .fixed s :: ps => .fixed (s.take n) :: cut (n - s.length) ps
  | n, .value s :: ps => .value (s.take n) :: cut (n - s.length) ps

theorem text_cut : ∀ (n : ℕ) (ps : List Piece), text (cut n ps) = (text ps).take n
  | _, [] => by simp [cut]
  | n, .fixed s :: ps => by
    simp [cut, text_cut, Piece.text, List.take_append, List.map_take]
  | n, .value s :: ps => by
    simp [cut, text_cut, Piece.text, List.take_append, List.map_take]

theorem cut_of_length_le : ∀ {n : ℕ} {ps : List Piece}, (text ps).length ≤ n → cut n ps = ps
  | _, [], _ => rfl
  | n, .fixed s :: ps, h => by
    simp only [text_cons, Piece.text, List.length_append, List.length_map] at h
    rw [cut, List.take_of_length_le (by omega), cut_of_length_le (by omega)]
  | n, .value s :: ps, h => by
    simp only [text_cons, Piece.text, List.length_append, List.length_map] at h
    rw [cut, List.take_of_length_le (by omega), cut_of_length_le (by omega)]

theorem inert_cut : ∀ {n : ℕ} {ps : List Piece}, (∀ s, .fixed s ∈ ps → Inert s) →
    ∀ s, .fixed s ∈ cut n ps → Inert s
  | _, [], _, _, hs => by simp [cut] at hs
  | n, .fixed s' :: ps, h, s, hs => by
    rcases List.mem_cons.mp hs with heq | hs
    · obtain rfl := Piece.fixed.inj heq
      exact fun c hc => h s' List.mem_cons_self c (List.mem_of_mem_take hc)
    · exact inert_cut (fun s' hs' => h s' (List.mem_cons_of_mem _ hs')) s hs
  | n, .value s' :: ps, h, s, hs => by
    rcases List.mem_cons.mp hs with heq | hs
    · exact nomatch heq
    · exact inert_cut (fun s' hs' => h s' (List.mem_cons_of_mem _ hs')) s hs

end Shell
end WtslCore
