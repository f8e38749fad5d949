/-
# A damaged byte of a log frame

The checksum of a frame is the exclusive or of all bytes from the header to
the extension, written as the low byte of a field of two bytes. A fold whose
step is cancellative on both sides tells two lists apart that differ in one
place (`foldl_set_ne`), and so does the value of a field (`leValue_set_ne`).
So one changed byte, in front of the checksum or in it, is noticed by whoever
takes the checksum again (`checksum_detects_byte`).

Key definitions: `receivedChecksum`, `checksumField`.
Key theorems: `foldl_set_ne`, `checksum_intact`, `checksum_detects_byte`.
-/
import WtslCore.Utils.LogFrame

namespace WtslCore

/-! ### One changed element -/

section

variable {α β : Type*} {f : α → β → α}

/-- Two states stay apart. -/
theorem foldl_ne_of_ne (hright : ∀ a a' b, f a b = f a' b → a = a') :
    ∀ (l : List β) {a a' : α}, a ≠ a' → l.foldl f a ≠ l.foldl f a'
  | [], _, _, h => h
  | b :: l, _, _, h => foldl_ne_of_ne hright l fun heq => h (hright _ _ b heq)

/-- **A cancellative fold notices one changed element.** -/
theorem foldl_set_ne (hleft : ∀ a b c, f a b = f a c → b = c)
    (hright : ∀ a a' b, f a b = f a' b → a = a') {b : β} :
    ∀ (l : List β) (a : α) (i : ℕ), i < l.length → l[i]? ≠ some b →
      (l.set i b).foldl f a ≠ l.foldl f a
  | [], _, _, hi, _ => absurd hi (Nat.not_lt_zero _)
  | c :: l, a, 0, _, hb => by
    have hbc : f a b ≠ f a c := fun heq => hb (congrArg some (hleft a b c heq).symm)
    exact foldl_ne_of_ne hright l hbc
  | c :: l, a, i + 1, hi, hb => by
    have hi' : i < l.length := Nat.lt_of_succ_lt_succ hi
    exact foldl_set_ne hleft hright l (f a c) i hi' hb

end

/-- A field with one changed byte has another value. -/
theorem leValue_set_ne {b : UInt8} : ∀ (bs : List UInt8) (i : ℕ), i < bs.length → bs[i]? ≠ some b →
    leValue (bs.set i b) ≠ leValue bs
  | [], _, hi, _ => absurd hi (Nat.not_lt_zero _)
  | c :: bs, 0, _, hb => by
    have hbc : b.toNat ≠ c.toNat := fun heq => hb (congrArg some (UInt8.toNat_inj.mp heq).symm)
    simp only [List.set_cons_zero, leValue]
    omega
  | c :: bs, i + 1, hi, hb => by
    have ih := leValue_set_ne bs i (Nat.lt_of_succ_lt_succ hi) hb
    simp only [List.set_cons_succ, leValue]
    omega

theorem calculateChecksum_set_ne {b : UInt8} {bs : List UInt8} {i : ℕ} (hi : i < bs.length)
    (hb : bs[i]? ≠ some b) : calculateChecksum (bs.set i b) ≠ calculateChecksum bs := by
  have hleft : ∀ a b c : UInt8, a ^^^ b = a ^^^ c → b = c := fun a _ _ => (UInt8.xor_right_inj a).mp
  have hright : ∀ a a' b : UInt8, a ^^^ b = a' ^^^ b → a = a' := fun _ _ b => (UInt8.xor_left_inj b).mp
  exact fun heq => foldl_set_ne hleft hright bs 0 i hi hb (UInt8.toNat_inj.mp heq)

/-! ### What a receiver compares -/

/-- `calculate_checksum` over what was received, from the header to the extension. -/
def receivedChecksum (frame : List UInt8) : ℕ := calculateChecksum (frame.take (frame.length - 4))

/-- The checksum that was received, in front of the footer. -/
def checksumField (frame : List UInt8) : ℕ := leValue ((frame.drop (frame.length - 4)).take 2)

/-- A frame in three parts. -/
theorem checks_of_parts (body : List UInt8) {field footer : List UInt8} (hfield : field.length = 2)
    (hfooter : footer.length = 2) :
    receivedChecksum (body ++ (field ++ footer)) = calculateChecksum body ∧
      checksumField (body ++ (field ++ footer)) = leValue field := by
  have hlen : (body ++ (field ++ footer)).length - 4 = body.length := by
    simp only [List.length_append]
    omega
  unfold receivedChecksum checksumField
  rw [hlen, List.take_left, List.drop_left, List.take_left' hfield]
  exact ⟨rfl, rfl⟩

section

variable {source dest : Address32} {frameSeq : UInt16} {data : List UInt8} {dataType : UInt32}
  {dataIdentifier : UInt8} {malloc : Bool} {frame : List UInt8} {frameLength : ℕ}

/-- What is built: a body, its checksum and the footer. -/
theorem parts_of_built (hbuilt : (buildLogUploadFrame source dest frameSeq data dataType
      dataIdentifier malloc).1 = .built frame frameLength) :
    ∃ body, frame = body ++ (leBytes 2 (calculateChecksum body) ++ leBytes 2 frameFooter) := by
  have hframe : frame = frameBytes source dest frameSeq data dataType dataIdentifier := by
    unfold buildLogUploadFrame at hbuilt
    dsimp only at hbuilt
    split_ifs at hbuilt
    exact (FrameResult.built.inj hbuilt).1.symm
  refine ⟨frameBody source dest frameSeq data dataType dataIdentifier, ?_⟩
  rw [hframe, frameBytes, List.append_assoc]

/-- The value of the checksum field is the checksum: the high byte is zero. -/
theorem leValue_checksum (body : List UInt8) :
    leValue (leBytes 2 (calculateChecksum body)) = calculateChecksum body := by
  rw [leValue_leBytes]
  exact Nat.mod_eq_of_lt (calculateChecksum_lt body)

/-- A frame that arrives as it was built passes. -/
theorem checksum_intact (hbuilt : (buildLogUploadFrame source dest frameSeq data dataType
      dataIdentifier malloc).1 = .built frame frameLength) :
    receivedChecksum frame = checksumField frame := by
  obtain ⟨body, rfl⟩ := parts_of_built hbuilt
  obtain ⟨hsum, hfield⟩ := checks_of_parts body
    (length_leBytes 2 (calculateChecksum body)) (length_leBytes 2 frameFooter)
  rw [hsum, hfield, leValue_checksum]

/-- **One changed byte is noticed**, wherever it is from the header to the
checksum field. -/
theorem checksum_detects_byte (hbuilt : (buildLogUploadFrame source dest frameSeq data dataType
      dataIdentifier malloc).1 = .built frame frameLength) {i : ℕ} (hi : i < frame.length - 2)
    {b : UInt8} (hb : frame[i]? ≠ some b) :
    receivedChecksum (frame.set i b) ≠ checksumField (frame.set i b) := by
  obtain ⟨body, rfl⟩ := parts_of_built hbuilt
  have hfooter := length_leBytes 2 frameFooter
  have hfield := length_leBytes 2 (calculateChecksum body)
  rcases Nat.lt_or_ge i body.length with hfront | hback
  · -- the checksum of what arrived is another one
    rw [List.getElem?_append_left hfront] at hb
    rw [List.set_append_left _ _ hfront]
    obtain ⟨hsum, hval⟩ := checks_of_parts (body.set i b) hfield hfooter
    rw [hsum, hval, leValue_checksum]
    exact calculateChecksum_set_ne hfront hb
  · -- the field that arrived is another one
    obtain ⟨j, rfl⟩ := Nat.exists_eq_add_of_le hback
    have hj : j < (leBytes 2 (calculateChecksum body)).length := by
      simp only [List.length_append] at hi
      omega
    rw [List.getElem?_append_right hback, Nat.add_sub_cancel_left,
      List.getElem?_append_left hj] at hb
    rw [List.set_append_right _ _ hback, Nat.add_sub_cancel_left, List.set_append_left _ _ hj]
    have hset : ((leBytes 2 (calculateChecksum body)).set j b).length = 2 := by
      rw [List.length_set, hfield]
    obtain ⟨hsum, hval⟩ := checks_of_parts body hset hfooter
    rw [hsum, hval]
    intro heq
    refine leValue_set_ne _ j hj hb ?_
    rw [leValue_checksum]
    exact heq.symm

end

/-- The bytes `abc` as a log file, framed, from subnet 1 to subnet 2. -/
def abcFrame : List UInt8 :=
  frameBytes (.ofWord 0x10101) (.ofWord 0x20101) 1 [97, 98, 99] 0x87000000 2

theorem built_abcFrame : (buildLogUploadFrame (.ofWord 0x10101) (.ofWord 0x20101) 1 [97, 98, 99]
    0x87000000 2 true).1 = .built abcFrame 29 := rfl

/-- Its subnet changed from 1 to 9. -/
theorem checksum_detects_byte_abc :
    receivedChecksum (abcFrame.set 6 9) ≠ checksumField (abcFrame.set 6 9) :=
  checksum_detects_byte built_abcFrame (by decide) (by decide)

end WtslCore
