/-
# `SelectiveReject.Corruption` — no single damaged byte gets past `check_packet`

`sendtoErr` injects two faults: it drops a packet, or it flips one byte of it
(`errorFlipBits::run`).  A drop is the network's business.  The flip is caught here,
wherever it lands: in the header, in the checksum field itself, in the payload, in the last byte
of an odd length.  One changed byte moves the sum of words by a non-zero amount below `65535`
(`OnesComplement.wordSum_set_mod_ne`), and `check_packet` accepts only multiples of `65535`.

A rejected datagram is as good as an empty one: neither program looks at its bytes
(`rcopyStep_rejected`, `childStep_rejected`).
-/
import SelectiveReject.Rcopy
import SelectiveReject.Server

namespace SelectiveReject

open OnesComplement

/-- `errorFlipBits::run` on a packet, when `drand48` has picked the byte `byteToFlip`. -/
def errorFlipBits (pBuf : Bytes) (byteToFlip : Nat) : Bytes :=
  pBuf.set byteToFlip (pBuf.getD byteToFlip 0 ^^^ 0xff)

theorem xor_ff_ne (b : UInt8) : b ^^^ 0xff ≠ b := by
  intro h
  have hzero : (0xff : UInt8) = 0 := by
    rw [← UInt8.xor_self (a := b)]
    nth_rewrite 2 [← h]
    rw [← UInt8.xor_assoc, UInt8.xor_self, UInt8.zero_xor]
  exact absurd hzero (by decide)

/-! ## Detection -/

theorem checkPacket_set {packet : Bytes} (hlen : packet.length ≤ srejMaxPacket)
    (hcheck : checkPacket packet = true) {i : Nat} (hi : i < packet.length) {b : UInt8}
    (hb : b ≠ packet[i]) : checkPacket (packet.set i b) = false := by
  have hset : (packet.set i b).length ≤ srejMaxPacket := by
    rw [List.length_set]
    exact hlen
  obtain ⟨_, _, hmod⟩ := (checkPacket_iff hlen).mp hcheck
  cases haltered : checkPacket (packet.set i b) with
  | false => rfl
  | true =>
      obtain ⟨_, _, hmod'⟩ := (checkPacket_iff hset).mp haltered
      exact absurd (hmod'.trans hmod.symm) (wordSum_set_mod_ne hi hb)

theorem checkPacket_errorFlipBits {packet : Bytes} (hlen : packet.length ≤ srejMaxPacket)
    (hcheck : checkPacket packet = true) {i : Nat} (hi : i < packet.length) :
    checkPacket (errorFlipBits packet i) = false := by
  refine checkPacket_set hlen hcheck hi ?_
  rw [List.getD_eq_getElem?_getD, List.getElem?_eq_getElem hi]
  exact xor_ff_ne _

/-! ## A rejected datagram -/

/-- rcopy does not look at the bytes of a datagram it rejects. -/
theorem rcopyStep_rejected {packet packet' : Bytes} (h : checkPacket packet = false)
    (h' : checkPacket packet' = false) (rcopy : Rcopy) (src : Addr) :
    rcopyStep rcopy (.recv src packet) = rcopyStep rcopy (.recv src packet') := by
  obtain ⟨state, info⟩ := rcopy
  cases state with
  | sendFilenamePacket name tries => simp [rcopyStep, sendFilenameRecv, h, h']
  | sendDataState => simp [rcopyStep, processControlsTurn, h, h']
  | waitOnAckState count => simp [rcopyStep, processControlsTurn, h, h']
  | sendEofState eof tries => simp [rcopyStep, sendEofRecv, h, h']
  | done => rfl
  | exited => rfl

theorem childStep_rejected {F : Type} {packet packet' : Bytes} (h : checkPacket packet = false)
    (h' : checkPacket packet' = false) (write : F → Bytes → Int × F) (child : Child F)
    (src : Addr) :
    childStep write child (.recv src packet) = childStep write child (.recv src packet') := by
  obtain ⟨state, info⟩ := child
  cases state with
  | filename => rfl
  | recvData => simp [childStep, recvDataRecv, h, h']
  | waitOnDone => simp [childStep, waitOnDoneRecv, h, h']
  | done => rfl
  | exited => rfl

theorem processServer_rejected {F : Type} {packet : Bytes} (h : checkPacket packet = false)
    (client : Addr) (unopened : F) : processServer packet client unopened = none := by
  simp [processServer, h]

/-- Every change of one byte of an accepted packet is caught; and after the flip `sendtoErr`
injects, each of the three receivers does what it does on an empty datagram. -/
theorem one_byte_caught {packet : Bytes}
    (hlen : srejHeaderLen ≤ packet.length ∧ packet.length ≤ srejMaxPacket)
    (hcheck : checkPacket packet = true) {i : Nat} (hi : i < packet.length) :
    (∀ b, b ≠ packet[i] → checkPacket (packet.set i b) = false) ∧
    (∀ rcopy src, rcopyStep rcopy (.recv src (errorFlipBits packet i))
      = rcopyStep rcopy (.recv src [])) ∧
    (∀ (F : Type) (write : F → Bytes → Int × F) (child : Child F) (src : Addr),
      childStep write child (.recv src (errorFlipBits packet i))
        = childStep write child (.recv src [])) ∧
    (∀ (F : Type) (client : Addr) (unopened : F),
      processServer (errorFlipBits packet i) client unopened = none) := by
  have hflip := checkPacket_errorFlipBits hlen.2 hcheck hi
  have hempty : checkPacket [] = false := rfl
  refine ⟨fun b hb => checkPacket_set hlen.2 hcheck hi hb, fun rcopy src => ?_,
    fun F write child src => ?_, fun F client unopened => ?_⟩
  · exact rcopyStep_rejected hflip hempty rcopy src
  · exact childStep_rejected hflip hempty write child src
  · exact processServer_rejected hflip client unopened

/-- The odd last byte of a data packet. -/
theorem one_byte_caught_last :
    checkPacket ((builtPacket 2 flagData [65, 66]).set 8 67) = false :=
  (@one_byte_caught (builtPacket 2 flagData [65, 66]) (by decide +kernel) (by decide +kernel) 8
    (by decide +kernel)).1 67 (by decide +kernel)

end SelectiveReject
