/-
# Streams of frames

A writer puts frames one behind the other; a reader takes one frame after the
other off the front, as long as there is a whole one. `Framing` says what a
frame format owes: a frame is read back in front of anything, and nothing is
read of a part of one. Then a part of a stream, cut anywhere, is read as the
frames that are in it as a whole, and what is left is the front of the next
one (`Framing.readAll_part`).

Key definitions: `readAll`, `wholeFrames`, `Framing`.
Key theorem: `Framing.readAll_part`.
-/
import Mathlib.Data.List.TakeWhile
import Mathlib.Data.Nat.Notation

namespace WtslCore

variable {α β γ : Type*}

/-- The frames in front of the symbols, and what is left. -/
def readAll (take : List β → Option (γ × List β)) : ℕ → List β → List γ × List β
  | 0, bs => ([], bs)
  | fuel + 1, bs =>
    (take bs).elim ([], bs) fun (c, rest) =>
      let (cs, left) := readAll take fuel rest
      (c :: cs, left)

/-- What is written for `a`, if it is `ok`, is read as `value a`, and only as a
whole. -/
structure Framing (take : List β → Option (γ × List β)) (encode : α → List β) (value : α → γ)
    (ok : α → Prop) : Prop where
  nothing : take [] = none
  nonempty : ∀ {a}, ok a → encode a ≠ []
  whole : ∀ {a} rest, ok a → take (encode a ++ rest) = some (value a, rest)
  part : ∀ {a front rest}, ok a → encode a = front ++ rest → rest ≠ [] → take front = none

variable {take : List β → Option (γ × List β)} {encode : α → List β} {value : α → γ} {ok : α → Prop}

theorem readAll_none {fuel : ℕ} {bs : List β} (h : take bs = none) :
    readAll take fuel bs = ([], bs) := by
  cases fuel with
  | zero => rfl
  | succ fuel => rw [readAll, h, Option.elim_none]

theorem readAll_some {fuel : ℕ} {bs rest : List β} {c : γ} (h : take bs = some (c, rest)) :
    readAll take (fuel + 1) bs = (c :: (readAll take fuel rest).1, (readAll take fuel rest).2) := by
  rw [readAll, h, Option.elim_some]

/-- How many frames are in the first `n` symbols of a stream as a whole. -/
def wholeFrames (encode : α → List β) : List α → ℕ → ℕ
  | [], _ => 0
  | a :: as, n =>
    if (encode a).length ≤ n then wholeFrames encode as (n - (encode a).length) + 1 else 0

theorem wholeFrames_all (as : List α) :
    wholeFrames encode as (as.flatMap encode).length = as.length := by
  induction as with
  | nil => rfl
  | cons a as ih =>
    rw [List.flatMap_cons, List.length_append, wholeFrames, if_pos (Nat.le_add_right _ _),
      Nat.add_sub_cancel_left, ih, List.length_cons]

/-- What holds of each frame that can be read holds of all that are. -/
theorem forall_mem_readAll {P : γ → Prop} (h : ∀ {bs c rest}, take bs = some (c, rest) → P c) :
    ∀ (fuel : ℕ) (bs : List β), ∀ c ∈ (readAll take fuel bs).1, P c
  | 0, _, _, hc => nomatch hc
  | fuel + 1, bs, c, hc => by
    cases htake : take bs with
    | none =>
      rw [readAll_none htake] at hc
      exact nomatch hc
    | some found =>
      rw [readAll_some htake] at hc
      rcases List.mem_cons.mp hc with rfl | hrest
      · exact h htake
      · exact forall_mem_readAll h fuel found.2 c hrest

namespace Framing

/-- **A part of a stream**, read with enough fuel: the frames that are there as
a whole, and the front of the next one. -/
theorem readAll_part (hf : Framing take encode value ok) : ∀ {as : List α}, (∀ a ∈ as, ok a) →
    ∀ {fuel : ℕ} {front rest : List β}, front ++ rest = as.flatMap encode → front.length ≤ fuel →
      ∃ left, readAll take fuel front =
          ((as.take (wholeFrames encode as front.length)).map value, left) ∧
        front = (as.take (wholeFrames encode as front.length)).flatMap encode ++ left
  | [], _, fuel, front, rest, hstream, _ => by
    obtain ⟨rfl, rfl⟩ := List.append_eq_nil_iff.mp hstream
    exact ⟨[], readAll_none hf.nothing, rfl⟩
  | a :: as, hok, fuel, front, rest, hstream, hfuel => by
    have ha := hok a List.mem_cons_self
    have hfront : front <+: encode a ++ as.flatMap encode := ⟨rest, hstream.trans List.flatMap_cons⟩
    -- the first frame is there as a whole, or the front is a part of it
    by_cases hlen : (encode a).length ≤ front.length
    · obtain ⟨front', rfl⟩ := List.prefix_of_prefix_length_le (List.prefix_append _ _) hfront hlen
      cases fuel with
      | zero =>
        have hnil := List.length_eq_zero_iff.mp (Nat.le_zero.mp hfuel)
        exact absurd (List.append_eq_nil_iff.mp hnil).1 (hf.nonempty ha)
      | succ fuel =>
        have hpos := List.length_pos_iff.mpr (hf.nonempty ha)
        have hfuel' : front'.length ≤ fuel := by
          rw [List.length_append] at hfuel
          omega
        rw [List.flatMap_cons, List.append_assoc, List.append_cancel_left_eq] at hstream
        obtain ⟨left, hread, hsplit⟩ := readAll_part hf
          (fun b hb => hok b (List.mem_cons_of_mem _ hb)) hstream hfuel'
        have hcount : wholeFrames encode (a :: as) (encode a ++ front').length =
            wholeFrames encode as front'.length + 1 := by
          rw [wholeFrames, if_pos hlen, List.length_append, Nat.add_sub_cancel_left]
        refine ⟨left, ?_, ?_⟩
        · rw [hcount, readAll_some (hf.whole front' ha), hread]
          rfl
        · rw [hcount, List.take_succ_cons, List.flatMap_cons, List.append_assoc, ← hsplit]
    · obtain ⟨tail, hcut⟩ := List.prefix_of_prefix_length_le hfront (List.prefix_append _ _)
        (Nat.le_of_not_le hlen)
      have htail : tail ≠ [] := by
        rintro rfl
        exact hlen (by rw [← hcut, List.append_nil])
      have hcount : wholeFrames encode (a :: as) front.length = 0 := by rw [wholeFrames, if_neg hlen]
      rw [hcount]
      exact ⟨front, readAll_none (hf.part ha hcut.symm htail), rfl⟩

end Framing

end WtslCore
