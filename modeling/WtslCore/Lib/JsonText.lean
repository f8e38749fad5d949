/-
# JSON texts

A JSON text is read character by character, by a machine with a stack of the
arrays and objects it is in. It keeps the members of the outermost object: the
name as it is written, and whether the value is a string. Control characters
in a string are refused, or taken as they come where `control` is set, as
lenient parsers do.

A text that stands in a string as it is (`StringBody`) is read in any string
without leaving it. So an object into which strings are pasted between quotes
is JSON if each of them does (`parses_pasted`); and if none of them ends its
string (`Closes`), only then (`bodies_of_parses`).

Key definitions: `JsonState`, `JsonState.step`, `parses`, `StringBody`, `Closes`,
`pasted`.
Key theorems: `run_append`, `run_body`, `run_unclosed`, `parses_pasted`,
`bodies_of_parses`.
-/
import Mathlib.Data.List.Basic
import Mathlib.Data.Nat.Notation

namespace WtslCore
namespace JsonText

/-! ### Strings -/

/-- Where a string is read: plainly, behind a backslash, or with digits of `\u` to come. -/
inductive StringMode
  | plain
  | escape
  | hex (left : ℕ)
  deriving DecidableEq

def isHex (c : Char) : Bool :=
  c.isDigit || ('a' ≤ c && c ≤ 'f') || ('A' ≤ c && c ≤ 'F')

/-- A character that does not end the string. -/
def StringMode.step (control : Bool) : StringMode → Char → Option StringMode
  | .plain, c =>
    if c = '"' then none
    else if c = '\\' then some .escape
    else if 32 ≤ c.toNat || control then some .plain
    else none
  | .escape, c =>
    if c ∈ ['"', '\\', '/', 'b', 'f', 'n', 'r', 't'] then some .plain
    else if c = 'u' then some (.hex 4)
    else none
  | .hex left, c =>
    if isHex c then (if left ≤ 1 then some .plain else some (.hex (left - 1))) else none

/-- The text stands between the quotes of a string as it is. -/
def StringBody (control : Bool) (s : List Char) : Prop :=
  s.foldlM (StringMode.step control) .plain = some .plain

instance (control : Bool) (s : List Char) : Decidable (StringBody control s) :=
  inferInstanceAs (Decidable (_ = _))

/-- One of the quotes of the text ends the string it stands in. -/
def Closes (control : Bool) (m : StringMode) (s : List Char) : Prop :=
  ∃ p t, s = p ++ '"' :: t ∧ p.foldlM (StringMode.step control) m = some .plain

/-! ### Texts -/

/-- What a value stands in. -/
inductive Frame
  | array
  | object
  deriving DecidableEq

/-- What comes next. -/
inductive Mode
  | value
  | arrayStart
  | objectStart
  | key
  | colon
  | after
  | string (isKey : Bool) (m : StringMode)
  | word (rest : List Char)
  | minus
  | zero
  | digits
  | point
  | fraction
  | exponent
  | expSign
  | expDigits
  deriving DecidableEq

/-- The state of the reader: `name` is the key read last in the outermost
object, `members` are those of it whose values have begun. -/
structure JsonState where
  mode : Mode
  stack : List Frame
  name : List Char
  members : List (List Char × Bool)
  deriving DecidableEq

def JsonState.start : JsonState := ⟨.value, [], [], []⟩

def isSpace (c : Char) : Bool := c == ' ' || c == '\t' || c == '\n' || c == '\r'

namespace JsonState

/-- The value is noted if it is a member of the outermost object. -/
def noteValue (st : JsonState) (isString : Bool) : JsonState :=
  if st.stack = [.object] then { st with members := st.members ++ [(st.name, isString)] } else st

/-- A value begins. -/
def beginValue (st : JsonState) (c : Char) : Option JsonState :=
  if c = '"' then some { st.noteValue true with mode := .string false .plain }
  else
    let st := st.noteValue false
    if c = '{' then some { st with mode := .objectStart, stack := .object :: st.stack }
    else if c = '[' then some { st with mode := .arrayStart, stack := .array :: st.stack }
    else if c = 't' then some { st with mode := .word ['r', 'u', 'e'] }
    else if c = 'f' then some { st with mode := .word ['a', 'l', 's', 'e'] }
    else if c = 'n' then some { st with mode := .word ['u', 'l', 'l'] }
    else if c = '-' then some { st with mode := .minus }
    else if c = '0' then some { st with mode := .zero }
    else if c.isDigit then some { st with mode := .digits }
    else none

/-- A key begins. -/
def beginKey (st : JsonState) : JsonState :=
  if st.stack = [.object] then { st with mode := .string true .plain, name := [] }
  else { st with mode := .string true .plain }

/-- What may follow a value. -/
def afterValue (st : JsonState) (c : Char) : Option JsonState :=
  if isSpace c then some { st with mode := .after }
  else
    match st.stack with
    | [] => none
    | .array :: stack =>
      if c = ',' then some { st with mode := .value }
      else if c = ']' then some { st with mode := .after, stack := stack }
      else none
    | .object :: stack =>
      if c = ',' then some { st with mode := .key }
      else if c = '}' then some { st with mode := .after, stack := stack }
      else none

/-- A character of a string: it ends the string, or stays in it. -/
def stringStep (control : Bool) (st : JsonState) (isKey : Bool) (m : StringMode) (c : Char) :
    Option JsonState :=
  if m = .plain ∧ c = '"' then some { st with mode := if isKey then .colon else .after }
  else
    (m.step control c).map fun m' =>
      { st with
        mode := .string isKey m'
        name := if isKey = true ∧ st.stack = [.object] then st.name ++ [c] else st.name }

/-- One character. -/
def step (control : Bool) (st : JsonState) (c : Char) : Option JsonState :=
  match st.mode with
  | .value => if isSpace c then some st else st.beginValue c
  | .arrayStart =>
    if isSpace c then some st
    else if c = ']' then some { st with mode := .after, stack := st.stack.tail }
    else st.beginValue c
  | .objectStart =>
    if isSpace c then some st
    else if c = '"' then some st.beginKey
    else if c = '}' then some { st with mode := .after, stack := st.stack.tail }
    else none
  | .key => if isSpace c then some st else if c = '"' then some st.beginKey else none
  | .colon => if isSpace c then some st else if c = ':' then some { st with mode := .value } else none
  | .after => st.afterValue c
  | .string isKey m => st.stringStep control isKey m c
  | .word [] => none
  | .word (d :: rest) =>
    if c = d then some { st with mode := if rest = [] then .after else .word rest } else none
  | .minus =>
    if c = '0' then some { st with mode := .zero }
    else if c.isDigit then some { st with mode := .digits }
    else none
  | .zero =>
    if c = '.' then some { st with mode := .point }
    else if c = 'e' ∨ c = 'E' then some { st with mode := .exponent }
    else st.afterValue c
  | .digits =>
    if c.isDigit then some st
    else if c = '.' then some { st with mode := .point }
    else if c = 'e' ∨ c = 'E' then some { st with mode := .exponent }
    else st.afterValue c
  | .point => if c.isDigit then some { st with mode := .fraction } else none
  | .fraction =>
    if c.isDigit then some st
    else if c = 'e' ∨ c = 'E' then some { st with mode := .exponent }
    else st.afterValue c
  | .exponent =>
    if c = '+' ∨ c = '-' then some { st with mode := .expSign }
    else if c.isDigit then some { st with mode := .expDigits }
    else none
  | .expSign => if c.isDigit then some { st with mode := .expDigits } else none
  | .expDigits => if c.isDigit then some st else st.afterValue c

/-- The text so far is a value. -/
def complete (st : JsonState) : Bool :=
  st.stack = [] && [Mode.after, .zero, .digits, .fraction, .expDigits].contains st.mode

end JsonState

/-- The reader, from a state. -/
def run (control : Bool) (st : JsonState) (s : List Char) : Option JsonState :=
  s.foldlM (JsonState.step control) st

/-- The members of a text that is JSON: none, if it is no object. -/
def parses (control : Bool) (s : List Char) : Option (List (List Char × Bool)) :=
  (run control .start s).bind fun st => if st.complete then some st.members else none

example : parses false "\x7b\"a\": [1.5e3, \x7b\"b\": null\x7d], \"c\": \"d\\n\"\x7d ".toList =
    some [("a".toList, false), ("c".toList, true)] := by decide

/-! ### Pasted strings -/

/-- What follows an opening quote if strings are pasted into an object: the
rest of the first one, and further members. -/
def pasted : List Char → List (List Char × List Char) → List Char
  | body, [] => body ++ ['"', '}']
  | body, (name, next) :: ms =>
    body ++ '"' :: ',' :: '"' :: (name ++ '"' :: ':' :: '"' :: pasted next ms)

/-- A name of letters and digits. -/
def PlainName (name : List Char) : Prop := name ≠ [] ∧ ∀ c ∈ name, c.isAlphanum = true

instance (name : List Char) : Decidable (PlainName name) := inferInstanceAs (Decidable (_ ∧ _))

/-- The reader in the value of a member of the outermost object. -/
def inMember (m : StringMode) (name : List Char) (members : List (List Char × Bool)) : JsonState :=
  ⟨.string false m, [.object], name, members⟩

section

variable {control : Bool} {m m' : StringMode} {c : Char} {name body s t : List Char}
  {members : List (List Char × Bool)} {ms : List (List Char × List Char)} {st : JsonState}

theorem run_append (st : JsonState) (s t : List Char) :
    run control st (s ++ t) = (run control st s).bind fun st' => run control st' t := List.foldlM_append

theorem run_cons (st : JsonState) (c : Char) (s : List Char) :
    run control st (c :: s) = (st.step control c).bind fun st' => run control st' s := List.foldlM_cons

theorem step_inMember (h : ¬ (m = .plain ∧ c = '"')) :
    (inMember m name members).step control c =
      (m.step control c).map fun m' => inMember m' name members := if_neg h

/-- A quote does not go on with a string. -/
theorem step_quote : StringMode.step control .plain '"' = none := rfl

/-- **A text that stands in a string** is read without leaving the string. -/
theorem run_body : ∀ {body : List Char} {m : StringMode},
    body.foldlM (StringMode.step control) m = some m' →
      run control (inMember m name members) body = some (inMember m' name members)
  | [], m, h => congrArg (fun m => some (inMember m name members)) (Option.some.inj h)
  | c :: body, m, h => by
    rw [List.foldlM_cons, Option.bind_eq_bind, Option.bind_eq_some_iff] at h
    obtain ⟨m₁, hstep, hrest⟩ := h
    have hquote : ¬ (m = .plain ∧ c = '"') := by
      rintro ⟨rfl, rfl⟩
      rw [step_quote] at hstep
      cases hstep
    rw [run_cons, step_inMember hquote, hstep, Option.map_some, Option.bind_some, run_body hrest]

/-- A text that stands in a string does not end it. -/
theorem not_closes_of_body (h : StringBody control body) : ¬ Closes control .plain body := by
  rintro ⟨p, t, rfl, hp⟩
  rw [StringBody, List.foldlM_append, hp, Option.bind_eq_bind, Option.bind_some, List.foldlM_cons,
    step_quote] at h
  cases h

theorem closes_cons (hstep : m.step control c = some m') (h : Closes control m' body) :
    Closes control m (c :: body) := by
  obtain ⟨p, t, rfl, hp⟩ := h
  refine ⟨c :: p, t, rfl, ?_⟩
  rw [List.foldlM_cons, hstep]
  exact hp

/-- **If no quote ends the string** there is no other way to read on. -/
theorem run_unclosed : ∀ {body : List Char} {m : StringMode}, ¬ Closes control m body →
    run control (inMember m name members) body =
      (body.foldlM (StringMode.step control) m).map fun m' => inMember m' name members
  | [], _, _ => rfl
  | c :: body, m, h => by
    have hquote : ¬ (m = .plain ∧ c = '"') := by
      rintro ⟨rfl, rfl⟩
      exact h ⟨[], body, rfl, rfl⟩
    rw [run_cons, step_inMember hquote, List.foldlM_cons]
    cases hstep : m.step control c with
    | none => rfl
    | some m₁ =>
      rw [Option.map_some, Option.bind_some, run_unclosed fun hc => h (closes_cons hstep hc)]
      rfl

theorem le_toNat_of_alphanum (h : c.isAlphanum = true) : 32 ≤ c.toNat := by
  change (decide ('A'.val ≤ c.val ∧ c.val ≤ 'Z'.val) ||
    (decide ('a'.val ≤ c.val) && decide (c.val ≤ 'z'.val)) ||
    (decide ('0'.val ≤ c.val) && decide (c.val ≤ '9'.val))) = true at h
  simp only [Bool.or_eq_true, Bool.and_eq_true, decide_eq_true_eq, UInt32.le_iff_toNat_le] at h
  have hval : c.toNat = c.val.toNat := rfl
  rw [hval]
  rcases h with (h | h) | h
  · exact Nat.le_trans (by decide) h.1
  · exact Nat.le_trans (by decide) h.1
  · exact Nat.le_trans (by decide) h.1

theorem ne_of_alphanum {d : Char} (h : c.isAlphanum = true) (hd : d.isAlphanum = false) : c ≠ d := by
  rintro rfl
  rw [h] at hd
  cases hd

theorem step_alphanum (h : c.isAlphanum = true) : StringMode.step control .plain c = some .plain := by
  rw [StringMode.step, if_neg (ne_of_alphanum h rfl), if_neg (ne_of_alphanum h rfl), if_pos]
  simp [le_toNat_of_alphanum h]

/-- A name is read. -/
theorem run_key (members : List (List Char × Bool)) : ∀ {rest name : List Char},
    (∀ c ∈ rest, c.isAlphanum = true) →
    run control ⟨.string true .plain, [.object], name, members⟩ rest =
      some ⟨.string true .plain, [.object], name ++ rest, members⟩
  | [], name, _ => by rw [List.append_nil]; rfl
  | c :: rest, name, h => by
    have hc := h c List.mem_cons_self
    have hstep : JsonState.step control ⟨.string true .plain, [.object], name, members⟩ c =
        some ⟨.string true .plain, [.object], name ++ [c], members⟩ := by
      change JsonState.stringStep control _ true .plain c = _
      rw [JsonState.stringStep, if_neg fun hq => ne_of_alphanum hc rfl hq.2, step_alphanum hc]
      rfl
    rw [run_cons, hstep, Option.bind_some, run_key members fun d hd => h d (List.mem_cons_of_mem _ hd),
      List.append_assoc, List.singleton_append]

/-- Between two pasted texts the next member begins. -/
theorem run_between (name' : List Char) (hname : PlainName name) :
    run control (inMember .plain name' members) ('"' :: ',' :: '"' :: (name ++ '"' :: ':' :: '"' :: s)) =
      run control (inMember .plain name (members ++ [(name, true)])) s := by
  have hopen : run control (inMember .plain name' members)
      ('"' :: ',' :: '"' :: (name ++ '"' :: ':' :: '"' :: s)) =
      run control ⟨.string true .plain, [.object], [], members⟩ (name ++ '"' :: ':' :: '"' :: s) := rfl
  rw [hopen, run_append, run_key members hname.2, List.nil_append, Option.bind_some]
  rfl

/-- **The members of an object with pasted strings** are known if each of them
stands in its string as it is. -/
theorem run_pasted (hms : ∀ x ∈ ms, PlainName x.1 ∧ StringBody control x.2)
    (hbody : StringBody control body) : ∃ name', run control (inMember .plain name members)
      (pasted body ms) = some ⟨.after, [], name', members ++ ms.map fun x => (x.1, true)⟩ := by
  induction ms generalizing body name members with
  | nil =>
    refine ⟨name, ?_⟩
    rw [pasted, run_append, run_body hbody, Option.bind_some, List.map_nil, List.append_nil]
    rfl
  | cons x ms ih =>
    obtain ⟨next, body'⟩ := x
    obtain ⟨hname, hbody'⟩ := hms _ List.mem_cons_self
    obtain ⟨name', hrun⟩ : ∃ name', run control (inMember .plain next (members ++ [(next, true)]))
        (pasted body' ms) = some ⟨.after, [], name', members ++ [(next, true)] ++ ms.map fun x => (x.1, true)⟩ :=
      ih (fun y hy => hms y (List.mem_cons_of_mem _ hy)) hbody'
    refine ⟨name', ?_⟩
    rw [pasted, run_append, run_body hbody, Option.bind_some, run_between name hname, hrun, List.map_cons,
      List.append_assoc, List.singleton_append]

/-- Behind a text that leaves its string open no further member begins. -/
theorem run_open (hm : m ≠ .plain) (name' : List Char) (hname : PlainName name) :
    run control (inMember m name' members) ('"' :: ',' :: '"' :: (name ++ s)) = none := by
  cases m with
  | plain => exact absurd rfl hm
  | hex left => rfl
  | escape =>
    obtain ⟨c, rest, rfl⟩ := List.exists_cons_of_ne_nil hname.1
    have hc := hname.2 c List.mem_cons_self
    -- the quote is escaped, so the next one ends the string
    have hclose : run control (inMember .escape name' members) ('"' :: ',' :: '"' :: (c :: rest ++ s)) =
        run control ⟨.after, [.object], name', members⟩ (c :: (rest ++ s)) := rfl
    have hspace : isSpace c = false := by
      simp [isSpace, ne_of_alphanum (d := ' ') hc rfl, ne_of_alphanum (d := '\t') hc rfl,
        ne_of_alphanum (d := '\n') hc rfl, ne_of_alphanum (d := '\r') hc rfl]
    have hafter : JsonState.step control ⟨.after, [.object], name', members⟩ c = none := by
      change JsonState.afterValue _ c = none
      rw [JsonState.afterValue, hspace, if_neg Bool.false_ne_true]
      dsimp only
      rw [if_neg (ne_of_alphanum hc rfl), if_neg (ne_of_alphanum hc rfl)]
    rw [hclose, run_cons, hafter]
    rfl

/-- **If an object with pasted strings is complete**, and none of them ends its
string, each stands in it as it is. -/
theorem bodies_of_run (hnames : ∀ x ∈ ms, PlainName x.1) (hbody : ¬ Closes control .plain body)
    (hms : ∀ x ∈ ms, ¬ Closes control .plain x.2)
    (hrun : run control (inMember .plain name members) (pasted body ms) = some st)
    (hcomplete : st.complete = true) :
    StringBody control body ∧ ∀ x ∈ ms, StringBody control x.2 := by
  induction ms generalizing body name members with
  | nil =>
    rw [pasted, run_append, run_unclosed hbody] at hrun
    cases hfold : body.foldlM (StringMode.step control) .plain with
    | none =>
      rw [hfold] at hrun
      cases hrun
    | some m =>
      rw [hfold, Option.map_some, Option.bind_some] at hrun
      cases m with
      | plain => exact ⟨hfold, fun x hx => absurd hx List.not_mem_nil⟩
      | hex left => cases hrun
      | escape =>
        -- the last quote is escaped, so the string is still open
        have hopen : run control (inMember .escape name members) ['"', '}'] =
            some (inMember .plain name members) := rfl
        obtain rfl := Option.some.inj (hopen.symm.trans hrun)
        cases hcomplete
  | cons x ms ih =>
    obtain ⟨next, body'⟩ := x
    have hname := hnames _ List.mem_cons_self
    rw [pasted, run_append, run_unclosed hbody] at hrun
    cases hfold : body.foldlM (StringMode.step control) .plain with
    | none =>
      rw [hfold] at hrun
      cases hrun
    | some m =>
      rw [hfold, Option.map_some, Option.bind_some] at hrun
      by_cases hm : m = .plain
      · subst hm
        rw [run_between name hname] at hrun
        have hrest := ih (fun y hy => hnames y (List.mem_cons_of_mem _ hy)) (hms _ List.mem_cons_self)
          (fun y hy => hms y (List.mem_cons_of_mem _ hy)) hrun
        exact ⟨hfold, List.forall_mem_cons.mpr hrest⟩
      · rw [run_open hm name hname] at hrun
        cases hrun

theorem length_pasted_nil (body : List Char) : (pasted body []).length = body.length + 2 := by
  rw [pasted, List.length_append]
  rfl

theorem length_pasted_cons (body next : List Char) : (pasted body ((name, next) :: ms)).length =
    body.length + name.length + 6 + (pasted next ms).length := by
  rw [pasted]
  simp only [List.length_append, List.length_cons]
  omega

/-- A text that opens a member and pastes strings is JSON, with these members. -/
theorem parses_pasted (hopen : run control .start s = some (inMember .plain name members))
    (hms : ∀ x ∈ ms, PlainName x.1 ∧ StringBody control x.2) (hbody : StringBody control body) :
    parses control (s ++ pasted body ms) = some (members ++ ms.map fun x => (x.1, true)) := by
  obtain ⟨name', hrun⟩ : ∃ name', run control (inMember .plain name members) (pasted body ms) =
      some ⟨.after, [], name', members ++ ms.map fun x => (x.1, true)⟩ := run_pasted hms hbody
  rw [parses, run_append, hopen, Option.bind_some, hrun]
  rfl

theorem bodies_of_parses (hopen : run control .start s = some (inMember .plain name members))
    (hnames : ∀ x ∈ ms, PlainName x.1) (hbody : ¬ Closes control .plain body)
    (hms : ∀ x ∈ ms, ¬ Closes control .plain x.2)
    (hparses : (parses control (s ++ pasted body ms)).isSome = true) :
    StringBody control body ∧ ∀ x ∈ ms, StringBody control x.2 := by
  rw [parses, run_append, hopen, Option.bind_some] at hparses
  cases hrun : run control (inMember .plain name members) (pasted body ms) with
  | none =>
    rw [hrun] at hparses
    cases hparses
  | some st =>
    rw [hrun, Option.bind_some] at hparses
    refine bodies_of_run hnames hbody hms hrun ?_
    by_contra hnot
    rw [if_neg hnot] at hparses
    cases hparses

/-- A text that is stuck stays so. -/
theorem parses_stuck (h : run control .start s = none) (t : List Char) : parses control (s ++ t) = none := by
  rw [parses, run_append, h]
  rfl

/-- Plain characters stand in a string as they are. -/
theorem stringBody_of_plain (h : ∀ c ∈ body, c ≠ '"' ∧ c ≠ '\\' ∧ 32 ≤ c.toNat) : StringBody control body := by
  induction body with
  | nil => rfl
  | cons c body ih =>
    obtain ⟨hquote, hslash, hcontrol⟩ := h c List.mem_cons_self
    have hstep : StringMode.step control .plain c = some .plain := by
      rw [StringMode.step, if_neg hquote, if_neg hslash, if_pos]
      simp [hcontrol]
    rw [StringBody, List.foldlM_cons, hstep]
    exact ih fun d hd => h d (List.mem_cons_of_mem _ hd)

end

end JsonText
end WtslCore
