/-
# The TCP and the UDP bridge

Both receive loops clear their buffer, receive at most 199 bytes into it and
hand them to `sle_client_senddata`. The UDP loop hands over as many bytes as it
received; the TCP loop as many as `strlen` finds in the buffer, which ends at
the first zero byte of the block.

The bridges pass on what they receive, and agree, if and only if no block
holds a zero byte (`bridges_transparent_iff`). The UDP bridge always does
(`udpRecvMsg_payloads`).

Key definitions: `Block`, `Round`, `recvMsg`, `udpRecvMsg`, `received`, `Transparent`.
Key theorems: `recvMsg_eq`, `udpRecvMsg_payloads`, `bridges_transparent_iff`.
-/
import Mathlib.Data.List.TakeWhile
import WtslCore.Node.List

namespace WtslCore

/-- `BUFFER_SIZE` of the bridges. -/
def bridgeBuffer : ℕ := 200

/-- What a receive call can get: 1 to 199 bytes. -/
structure Block where
  bytes : List UInt8
  nonempty : 0 < bytes.length
  fits : bytes.length < bridgeBuffer

/-- A round of a loop: it was told to stop, it got a block, the other side
closed, or the call failed. -/
inductive Round
  | stopped
  | block (b : Block) (client : SockAddrIn)
  | closed
  | failed

/-- The zeroed buffer after a receive call. -/
def recvBuffer (b : Block) : List UInt8 :=
  b.bytes ++ List.replicate (bridgeBuffer - b.bytes.length) 0

/-- `strlen`. -/
def strlen (buffer : List UInt8) : ℕ := (buffer.takeWhile (· != 0)).length

/-- The bytes `sle_client_senddata` takes of a buffer; the length is a `uint16_t`. -/
def senddata (buffer : List UInt8) (dataLen : ℕ) : List UInt8 := buffer.take (dataLen % 65536)

/-- `recv_msg`: the payloads it hands over. -/
def recvMsg : List Round → List (List UInt8)
  | .block b _ :: rounds => senddata (recvBuffer b) (strlen (recvBuffer b)) :: recvMsg rounds
  | _ => []

/-- `udp_recv_msg`: the payloads it hands over, and the client it remembers. -/
def udpRecvMsg (client : Option SockAddrIn) : List Round → List (List UInt8) × Option SockAddrIn
  | .block b c :: rounds =>
    let r := udpRecvMsg (some c) rounds
    (senddata (recvBuffer b) b.bytes.length :: r.1, r.2)
  | _ => ([], client)

/-- The blocks a loop receives. -/
def received : List Round → List (List UInt8)
  | .block b _ :: rounds => b.bytes :: received rounds
  | _ => []

/-- **The bridges are transparent**: both pass on the received blocks. -/
def Transparent (client : Option SockAddrIn) (rounds : List Round) : Prop :=
  recvMsg rounds = received rounds ∧ (udpRecvMsg client rounds).1 = received rounds

/-- The UDP loop hands over the block. -/
theorem senddata_length (b : Block) : senddata (recvBuffer b) b.bytes.length = b.bytes := by
  have hfits := b.fits
  have hmod : b.bytes.length % 65536 = b.bytes.length := Nat.mod_eq_of_lt (Nat.lt_trans hfits (by decide))
  rw [senddata, hmod, recvBuffer, List.take_left]

/-- The TCP loop hands over the block up to its first zero. -/
theorem senddata_strlen (b : Block) :
    senddata (recvBuffer b) (strlen (recvBuffer b)) = b.bytes.takeWhile (· != 0) := by
  have hfits := b.fits
  have hzeros : (recvBuffer b).takeWhile (· != 0) = b.bytes.takeWhile (· != 0) := by
    rw [recvBuffer, List.takeWhile_append]
    split_ifs with hall
    · have hnone : (List.replicate (bridgeBuffer - b.bytes.length) (0 : UInt8)).takeWhile (· != 0) = [] := by
        rw [List.takeWhile_replicate]
        rfl
      rw [hnone, List.append_nil]
      exact (List.takeWhile_prefix _).eq_of_length hall |>.symm
    · rfl
  have hle : (b.bytes.takeWhile (· != 0)).length ≤ b.bytes.length := (List.takeWhile_prefix _).length_le
  have hmod : (b.bytes.takeWhile (· != 0)).length % 65536 = (b.bytes.takeWhile (· != 0)).length :=
    Nat.mod_eq_of_lt (Nat.lt_of_le_of_lt hle (Nat.lt_trans hfits (by decide)))
  rw [senddata, strlen, hzeros, hmod, recvBuffer, List.take_append_of_le_length hle]
  exact (List.prefix_iff_eq_take.mp (List.takeWhile_prefix _)).symm

/-- **The TCP bridge** cuts every block at its first zero. -/
theorem recvMsg_eq : ∀ rounds : List Round,
    recvMsg rounds = (received rounds).map fun bytes => bytes.takeWhile (· != 0)
  | [] => rfl
  | .block b _ :: rounds => by rw [recvMsg, received, senddata_strlen, recvMsg_eq rounds, List.map_cons]
  | .stopped :: _ => rfl
  | .closed :: _ => rfl
  | .failed :: _ => rfl

/-- **The UDP bridge** passes every block on. -/
theorem udpRecvMsg_payloads : ∀ (client : Option SockAddrIn) (rounds : List Round),
    (udpRecvMsg client rounds).1 = received rounds
  | _, [] => rfl
  | _, .block b c :: rounds => by
    rw [udpRecvMsg, received, ← udpRecvMsg_payloads (some c) rounds, senddata_length]
  | _, .stopped :: _ => rfl
  | _, .closed :: _ => rfl
  | _, .failed :: _ => rfl

/-- A block is passed on whole if it has no zero byte. -/
theorem takeWhile_eq_self (bytes : List UInt8) :
    bytes.takeWhile (· != 0) = bytes ↔ (0 : UInt8) ∉ bytes := by
  rw [List.takeWhile_eq_self_iff]
  constructor
  · intro h hmem
    exact absurd (h 0 hmem) (by decide)
  · intro h b hb
    exact bne_iff_ne.mpr fun heq => h (heq ▸ hb)

/-- **The bridges are transparent** if and only if no block holds a zero byte. -/
theorem bridges_transparent_iff (client : Option SockAddrIn) (rounds : List Round) :
    Transparent client rounds ↔ ∀ bytes ∈ received rounds, (0 : UInt8) ∉ bytes := by
  unfold Transparent
  rw [and_iff_left (udpRecvMsg_payloads client rounds), recvMsg_eq]
  have hmap : (received rounds).map (fun bytes => bytes.takeWhile (· != 0)) = received rounds ↔
      ∀ bytes ∈ received rounds, bytes.takeWhile (· != 0) = bytes := by
    conv_lhs => rhs; rw [← List.map_id (received rounds)]
    exact List.map_inj_left
  rw [hmap]
  exact forall₂_congr fun bytes _ => takeWhile_eq_self bytes

/-- A block with a zero byte in it. -/
def zeroBlock : Block := ⟨[1, 0, 2], by decide, by decide⟩

/-- Of a block with a zero byte the TCP bridge passes on what is before it. -/
theorem bridges_differ :
    ¬ Transparent none [.block zeroBlock ⟨0, 0⟩] ∧
    recvMsg [.block zeroBlock ⟨0, 0⟩] = [[1]] ∧
    (udpRecvMsg none [.block zeroBlock ⟨0, 0⟩]).1 = [[1, 0, 2]] := by
  have htcp : recvMsg [.block zeroBlock ⟨0, 0⟩] = [[1]] := by rw [recvMsg_eq]; rfl
  refine ⟨fun h => ?_, htcp, udpRecvMsg_payloads ..⟩
  have heq := htcp.symm.trans h.1
  exact absurd heq (by decide)

end WtslCore
