/-
# Blocks of memory

A block is its bytes. Bytes are written at an offset if they are inside the
block, and a write outside of it has no outcome; a block that was not written,
or the end of one that was grown, holds anything (`fresh`).

Key definitions: `writeBytes`, `freshBlock`, `resizeBlock`.
Key theorem: `writeBytes_some`.
-/
import Mathlib.Data.List.Basic
import Mathlib.Data.Nat.Notation

namespace WtslCore

/-- Bytes are written into a block at an offset, if they are inside it. -/
def writeBytes (block : List Char) (off : ℕ) (bytes : List Char) : Option (List Char) :=
  if off + bytes.length ≤ block.length then
    some (block.take off ++ bytes ++ block.drop (off + bytes.length))
  else none

/-- A block of `n` bytes that nobody wrote. -/
def freshBlock (fresh : ℕ → Char) (n : ℕ) : List Char := (List.range n).map fresh

/-- A block grown or cut to `n` bytes. -/
def resizeBlock (fresh : ℕ → Char) (n : ℕ) (block : List Char) : List Char :=
  block.take n ++ freshBlock fresh (n - block.length)

theorem length_freshBlock (fresh : ℕ → Char) (n : ℕ) : (freshBlock fresh n).length = n := by
  rw [freshBlock, List.length_map, List.length_range]

theorem length_resizeBlock (fresh : ℕ → Char) (n : ℕ) (block : List Char) :
    (resizeBlock fresh n block).length = n := by
  rw [resizeBlock, List.length_append, List.length_take, length_freshBlock]
  omega

/-- What is written is in front of what was behind it. -/
theorem writeBytes_some {block bytes : List Char} {off : ℕ} (h : off + bytes.length ≤ block.length) :
    ∃ block', writeBytes block off bytes = some block' ∧ block'.length = block.length ∧
      block'.take (off + bytes.length) = block.take off ++ bytes := by
  have hfront : (block.take off ++ bytes).length = off + bytes.length := by
    rw [List.length_append, List.length_take_of_le (Nat.le_trans (Nat.le_add_right ..) h)]
  refine ⟨_, if_pos h, ?_, List.take_left' hfront⟩
  rw [List.length_append, hfront, List.length_drop]
  omega

theorem writeBytes_none {block bytes : List Char} {off : ℕ} (h : block.length < off + bytes.length) :
    writeBytes block off bytes = none := if_neg (Nat.not_le.mpr h)

end WtslCore
