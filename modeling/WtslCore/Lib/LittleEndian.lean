/-
# Little-endian fields of bytes

The low bytes of a number, lowest first, and the number they are. A raw copy
of `k` bytes of a wider integer keeps the number modulo `256 ^ k`; reading the
field back gives that, and what follows it (`takeField_append`).

Key definitions: `leBytes`, `leValue`, `takeField`.
Key theorems: `leValue_leBytes`, `takeField_append`.
-/
import Mathlib.Algebra.Group.Nat.Defs

namespace WtslCore

/-- The low `k` bytes of a number. -/
def leBytes : ℕ → ℕ → List UInt8
  | 0, _ => []
  | k + 1, n => UInt8.ofNat n :: leBytes k (n / 256)

/-- The number the bytes are. -/
def leValue : List UInt8 → ℕ
  | [] => 0
  | b :: bs => b.toNat + 256 * leValue bs

@[simp] theorem length_leBytes : ∀ k n : ℕ, (leBytes k n).length = k
  | 0, _ => rfl
  | k + 1, n => congrArg (· + 1) (length_leBytes k (n / 256))

theorem leValue_leBytes : ∀ k n : ℕ, leValue (leBytes k n) = n % 256 ^ k
  | 0, n => (Nat.mod_one n).symm
  | k + 1, n => by
    have hbyte : (UInt8.ofNat n).toNat = n % 256 := UInt8.toNat_ofNat'
    rw [leBytes, leValue, leValue_leBytes k (n / 256), hbyte, Nat.pow_succ, Nat.mul_comm (256 ^ k),
      Nat.mod_mul]

theorem leBytes_one (b : UInt8) : leBytes 1 b.toNat = [b] :=
  congrArg (fun c => [c]) UInt8.ofNat_toNat

/-- The field of `k` bytes in front, and what follows it. -/
def takeField (k : ℕ) (bs : List UInt8) : Option (ℕ × List UInt8) :=
  if k ≤ bs.length then some (leValue (bs.take k), bs.drop k) else none

/-- **A field is read back** modulo its width. -/
theorem takeField_append (k n : ℕ) (bs : List UInt8) :
    takeField k (leBytes k n ++ bs) = some (n % 256 ^ k, bs) := by
  have hlen : k ≤ (leBytes k n ++ bs).length := by
    rw [List.length_append, length_leBytes]
    exact Nat.le_add_right k _
  rw [takeField, if_pos hlen, List.take_left' (length_leBytes k n),
    List.drop_left' (length_leBytes k n), leValue_leBytes]

end WtslCore
