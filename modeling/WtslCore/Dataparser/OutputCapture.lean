/-
# The output of a command as a string

`system_output_to_string` reads what a command prints, 1023 characters at most
at a time, and grows a block of memory to an exact fit for each piece. The
sums are sums of `size_t`, of 32 or 64 bits, and a block is modelled byte for
byte: a write outside of it has no outcome. Since no block has more than
`PTRDIFF_MAX` bytes, the sums do not wrap before a reallocation fails.

So the string is the whole output, whatever its lines, or NULL if there is none
or an allocation failed; and only the string is not released
(`systemOutput_captures`).

Key definitions: `OutputEnv`, `appendPieces`, `systemOutputToString`,
`Allocates`, `Captures`.
Key theorems: `appendLine_collected`, `appendPieces_spec`,
`systemOutput_captures`.
-/
import WtslCore.Lib.Block
import WtslCore.Lib.CStr
import WtslCore.Lib.Fgets
import WtslCore.Lib.Ledger

namespace WtslCore

open Ledger

/-! ### The function -/

/-- How many values `size_t` has. -/
def sizeCount (long64 : Bool) : ℕ := if long64 then 18446744073709551616 else 4294967296

/-- What the calls meet: how long a `long` is, whether there is a pipe, whether
a reallocation to so many bytes succeeds, and what lies in memory that was not
written. No block has more than `PTRDIFF_MAX` bytes. -/
structure OutputEnv where
  long64 : Bool
  popen : Bool
  realloc : ℕ → ℕ → Bool
  fresh : ℕ → Char
  small : ∀ k n, realloc k n = true → 2 * n < sizeCount long64

/-- What is acquired: the pipe, and the block of a reallocation. -/
inductive OutputResource
  | pipe
  | block (k : ℕ)
  deriving DecidableEq, Repr

/-- The block of the reallocation `call`. -/
structure OutputBlock where
  call : ℕ
  bytes : List Char

/-- `free(content)`, which does nothing with NULL. -/
def freeContent (content : Option OutputBlock) : List (Event OutputResource) :=
  match content with
  | none => []
  | some b => [.release (.block b.call)]

/-- A sum as a `size_t`. -/
def OutputEnv.wrap (env : OutputEnv) (n : ℕ) : ℕ := n % sizeCount env.long64

/-- A line is copied behind the content, and terminated. -/
def appendLine (env : OutputEnv) (content : Option OutputBlock) (totalSize newSize : ℕ)
    (buffer : CStr) : Option (List Char) :=
  let newContent := resizeBlock env.fresh newSize ((content.map OutputBlock.bytes).getD [])
  (writeBytes newContent totalSize (buffer ++ [nul])).bind fun bytes =>
    writeBytes bytes (env.wrap (totalSize + buffer.length)) [nul]

/-- The loop over the pieces that `fgets` reads, and `pclose`: what is acquired
and released, and what is returned. -/
def appendPieces (env : OutputEnv) : List (List Char) → ℕ → Option OutputBlock → ℕ →
    Option (List (Event OutputResource) × Option OutputBlock)
  | [], _, content, _ => some ([.release .pipe], content)
  | piece :: pieces, k, content, totalSize =>
    let buffer := cstr piece
    let lineSize := buffer.length
    let newSize := env.wrap (totalSize + lineSize + 1)
    if env.realloc k newSize = false then some (freeContent content ++ [.release .pipe], none)
    else
      (appendLine env content totalSize newSize buffer).bind fun bytes =>
        (appendPieces env pieces (k + 1) (some ⟨k, bytes⟩) (env.wrap (totalSize + lineSize))).map
          fun (events, result) => (freeContent content ++ .acquire (.block k) :: events, result)

/-- `system_output_to_string`. -/
def systemOutputToString (env : OutputEnv) (output : List Char) :
    Option (List (Event OutputResource) × Option OutputBlock) :=
  if env.popen = false then some ([], none)
  else (appendPieces env (fgetsAll 1023 output) 0 none 0).map fun (events, result) =>
    (.acquire .pipe :: events, result)

/-! ### What should come out -/

/-- The reallocations for the pieces succeed, from the call `k` on and behind
`n` characters. -/
def Allocates (env : OutputEnv) : ℕ → ℕ → List (List Char) → Prop
  | _, _, [] => True
  | k, n, p :: ps => env.realloc k (n + p.length + 1) = true ∧ Allocates env (k + 1) (n + p.length) ps

/-- What of a block is held. -/
def heldContent (content : Option OutputBlock) : List OutputResource :=
  (content.map fun b => OutputResource.block b.call).toList

/-- **The output is captured**: the string is the output and a terminator, NULL
is returned if and only if there is no output or an allocation failed, and all
but the string is released. -/
def Captures (env : OutputEnv) (output : List Char) : Prop :=
  ∃ events content, systemOutputToString env output = some (events, content) ∧
    (∀ b ∈ content, b.bytes = output ++ [nul]) ∧
    (content = none ↔ output = [] ∨ env.popen = false ∨ ¬ Allocates env 0 0 (fgetsAll 1023 output)) ∧
    ReleasedBut (heldContent content) events

variable {env : OutputEnv} {content : Option OutputBlock} {u p : CStr} {k : ℕ}

/-! ### A piece -/

/-- The content is what was read, with a terminator. -/
def Collected (env : OutputEnv) (u : CStr) : Option OutputBlock → Prop
  | none => u = []
  | some b => b.bytes = u ++ [nul] ∧ 2 * (u.length + 1) < sizeCount env.long64

theorem le_sizeCount (long64 : Bool) : 4294967296 ≤ sizeCount long64 := by
  cases long64 with
  | false => decide
  | true => decide

theorem wrap_eq {n : ℕ} (h : n < sizeCount env.long64) : env.wrap n = n := Nat.mod_eq_of_lt h

theorem Collected.length_lt (h : Collected env u content) :
    2 * (u.length + 1) < sizeCount env.long64 := by
  cases content with
  | none =>
    have hu : u = [] := h
    rw [hu]
    exact Nat.lt_of_lt_of_le (by decide) (le_sizeCount env.long64)
  | some b => exact h.2

/-- What is kept of the content by a reallocation that makes it longer. -/
theorem Collected.take_resize (h : Collected env u content) {n : ℕ} (hn : u.length < n) :
    (resizeBlock env.fresh n ((content.map OutputBlock.bytes).getD [])).take u.length = u := by
  cases content with
  | none =>
    have hu : u = [] := h
    rw [hu, List.length_nil, List.take_zero]
  | some b =>
    have hbytes : b.bytes = u ++ [nul] := h.1
    show (resizeBlock env.fresh n b.bytes).take u.length = u
    have hlong : (u ++ [nul]).take n = u ++ [nul] := by
      refine List.take_of_length_le ?_
      rw [List.length_append, List.length_singleton]
      omega
    rw [hbytes, resizeBlock, hlong, List.append_assoc, List.take_left' rfl]

/-- **A piece is appended** if there is memory for it. -/
theorem appendLine_collected (h : Collected env u content)
    (hsize : 2 * (u.length + p.length + 1) < sizeCount env.long64) :
    appendLine env content u.length (u.length + p.length + 1) p = some ((u ++ p) ++ [nul]) := by
  have htotal : env.wrap (u.length + p.length) = u.length + p.length := wrap_eq (by omega)
  have hkept := h.take_resize (n := u.length + p.length + 1) (by omega)
  have hlength := length_resizeBlock env.fresh (u.length + p.length + 1)
    ((content.map OutputBlock.bytes).getD [])
  unfold appendLine
  rw [htotal]
  generalize resizeBlock env.fresh (u.length + p.length + 1)
    ((content.map OutputBlock.bytes).getD []) = block at hkept hlength
  have hline : (p ++ [nul]).length = p.length + 1 := List.length_append
  -- the copy ends at the end of the block
  have hfirst : writeBytes block u.length (p ++ [nul]) = some (u ++ p ++ [nul]) := by
    rw [writeBytes, if_pos (by omega), hkept, List.drop_of_length_le (by omega), List.append_nil,
      List.append_assoc]
  have hfront : (u ++ p).length = u.length + p.length := List.length_append
  have hsecond : writeBytes (u ++ p ++ [nul]) (u.length + p.length) [nul] = some (u ++ p ++ [nul]) := by
    have hfits : u.length + p.length + [nul].length ≤ (u ++ p ++ [nul]).length := by
      rw [List.length_append, hfront]
    rw [writeBytes, if_pos hfits, List.take_left' hfront, List.drop_of_length_le, List.append_nil]
    rw [List.length_append, hfront]
  dsimp only
  rw [hfirst, Option.bind_some, hsecond]

/-! ### The loop -/

theorem settle_freeContent (content : Option OutputBlock) (held : List OutputResource)
    (es : List (Event OutputResource)) :
    settle (heldContent content ++ held) (freeContent content ++ es) = settle held es := by
  cases content with
  | none => rfl
  | some b =>
    show settle (.block b.call :: held) (.release (.block b.call) :: es) = _
    rw [settle, if_pos List.mem_cons_self, List.erase_cons_head]

theorem acquired_freeContent (content : Option OutputBlock) (es : List (Event OutputResource)) :
    acquired (freeContent content ++ es) = acquired es := by
  cases content with
  | none => rfl
  | some b => rfl

/-- **What the loop returns and releases**, from any state it can be in. -/
theorem appendPieces_spec : ∀ {pieces : List (List Char)} {k : ℕ} {content : Option OutputBlock}
    {u : CStr}, Collected env u content → (∀ p ∈ pieces, nul ∉ p ∧ p.length ≤ 1023) →
    ∃ events result, appendPieces env pieces k content u.length = some (events, result) ∧
      (Allocates env k u.length pieces → Collected env (u ++ pieces.flatten) result) ∧
      (¬ Allocates env k u.length pieces → result = none) ∧
      settle (heldContent content ++ [.pipe]) events = some (heldContent result) ∧
      (acquired events).Sublist ((List.range' k pieces.length).map OutputResource.block)
  | [], k, content, u, h, _ => by
    refine ⟨_, _, rfl, fun _ => ?_, fun hno => absurd trivial hno, ?_, List.Sublist.refl _⟩
    · rw [List.flatten_nil, List.append_nil]
      exact h
    · cases content with
      | none => rfl
      | some b => rfl
  | piece :: pieces, k, content, u, h, hpieces => by
    obtain ⟨⟨hnul, hlen⟩, hrest⟩ := List.forall_mem_cons.mp hpieces
    have hbelow := h.length_lt
    have hcount := le_sizeCount env.long64
    have hnew : env.wrap (u.length + piece.length + 1) = u.length + piece.length + 1 :=
      wrap_eq (by omega)
    have htotal : env.wrap (u.length + piece.length) = u.length + piece.length := wrap_eq (by omega)
    unfold appendPieces
    simp only [cstr_of_noNul hnul, hnew, htotal]
    cases halloc : env.realloc k (u.length + piece.length + 1) with
    | true =>
      have hsize := env.small _ _ halloc
      have hline := appendLine_collected h hsize
      have hnext : Collected env (u ++ piece) (some ⟨k, u ++ piece ++ [nul]⟩) := by
        refine ⟨rfl, ?_⟩
        rw [List.length_append]
        omega
      obtain ⟨events, result, hrun, hyes, hno, hsettle, hacq⟩ :=
        appendPieces_spec (k := k + 1) hnext hrest
      rw [List.length_append] at hrun hyes hno
      rw [if_neg Bool.noConfusion, hline, Option.bind_some, hrun, Option.map_some]
      refine ⟨_, _, rfl, fun hall => ?_, fun hnot => hno fun hall => hnot ⟨halloc, hall⟩, ?_, ?_⟩
      · rw [List.flatten_cons, ← List.append_assoc]
        exact hyes hall.2
      · rw [settle_freeContent]
        exact hsettle
      · rw [acquired_freeContent]
        exact hacq.cons_cons _
    | false =>
      rw [if_pos rfl]
      refine ⟨_, _, rfl, fun hall => ?_, fun _ => rfl, ?_, ?_⟩
      · exact absurd (halloc.symm.trans hall.1) Bool.false_ne_true
      · rw [settle_freeContent]
        rfl
      · rw [acquired_freeContent]
        exact List.nil_sublist _

theorem nodup_resources (n : ℕ) :
    (OutputResource.pipe :: (List.range' 0 n).map OutputResource.block).Nodup := by
  refine List.nodup_cons.mpr ⟨fun h => ?_, ?_⟩
  · obtain ⟨k, -, hk⟩ := List.mem_map.mp h
    exact OutputResource.noConfusion hk
  · exact List.Nodup.map (fun _ _ h => OutputResource.block.inj h) (List.nodup_range' ..)

/-- **Command output capture.** -/
theorem systemOutput_captures (env : OutputEnv) {output : List Char} (hnul : nul ∉ output) :
    Captures env output := by
  have hflat := flatten_fgetsAll 1023 output
  have hpieces : ∀ p ∈ fgetsAll 1023 output, nul ∉ p ∧ p.length ≤ 1023 := by
    intro p hp
    refine ⟨fun hmem => hnul ?_, length_le_of_mem_fgetsAll (by decide) hp⟩
    rw [← hflat]
    exact List.mem_flatten.mpr ⟨p, hp, hmem⟩
  have hstart : Collected env [] none := rfl
  obtain ⟨events, content, hrun, hyes, hno, hsettle, hacq⟩ :=
    @appendPieces_spec env (fgetsAll 1023 output) 0 none [] hstart hpieces
  rw [List.nil_append, hflat] at hyes
  cases hpopen : env.popen with
  | false =>
    refine ⟨[], none, if_pos hpopen, nofun, iff_of_true rfl (.inr (.inl hpopen)), ?_⟩
    exact .of_settle rfl List.nodup_nil
  | true =>
    have hfun : systemOutputToString env output = some (.acquire .pipe :: events, content) := by
      rw [systemOutputToString, if_neg (by rw [hpopen]; exact Bool.noConfusion)]
      exact congrArg (Option.map _) hrun
    refine ⟨_, _, hfun, ?_, ?_, .of_settle hsettle ?_⟩
    · intro b hb
      by_cases hall : Allocates env 0 0 (fgetsAll 1023 output)
      · have hcollected := hyes hall
        rw [hb] at hcollected
        exact hcollected.1
      · exact absurd (hb.symm.trans (hno hall)) (Option.some_ne_none b)
    · constructor
      · intro hnone
        by_cases hall : Allocates env 0 0 (fgetsAll 1023 output)
        · have hcollected := hyes hall
          rw [hnone] at hcollected
          exact .inl hcollected
        · exact .inr (.inr hall)
      · rintro (rfl | hfail | hfail)
        · exact (congrArg Prod.snd (Option.some.inj hrun)).symm
        · exact absurd (hfail.symm.trans hpopen) Bool.false_ne_true
        · exact hno hfail
    · have hown := (hacq.cons_cons OutputResource.pipe).nodup (nodup_resources _)
      exact hown

/-- Two reallocations can be made, for a pipe that opens. -/
def twoBlocks : OutputEnv where
  long64 := false
  popen := true
  realloc k n := k < 2 ∧ 2 * n < sizeCount false
  fresh _ := 'x'
  small _ _ h := (of_decide_eq_true h).2

theorem systemOutput_captures_lines : Captures twoBlocks "a\nbc".toList :=
  systemOutput_captures twoBlocks (by decide)

end WtslCore
