/-
# `SelectiveReject.Packet` — the 7-byte header and its checksum

    bytes 0..3   sequence number, network order
    bytes 4..5   checksum, host order
    byte  6      flag
    bytes 7..    payload, at most 1400 bytes

`makePacket` works on a buffer that already holds something, as the C function
does: it overwrites the header and the payload and leaves the rest.  A datagram
that was *received* is the list of its bytes, so the `packet_len` argument
of the C functions is the length of the list.

The host is little-endian, so `in_cksum` reads its `unsigned short`s low byte
first and the checksum is copied into the header low byte first.

**Proved here.**  What a caller sends is header and payload whatever the buffer
held (`makePacket_take`), the fields read back (`getSeq_builtPacket`,
`getFlag_builtPacket`, `drop_builtPacket`), and `check_packet` accepts it
(`checkPacket_builtPacket`).
-/
import SelectiveReject.Lib.OnesComplement
import SelectiveReject.Posix

namespace SelectiveReject

open OnesComplement

/-! ## Constants of `Packet.h` -/

def srejHeaderLen : Nat := 7
def srejMaxData : Nat := 1400
def srejMaxPacket : Nat := 1407
def srejMaxName : Nat := 100

def flagData : UInt8 := 3
def flagRr : UInt8 := 5
def flagSrej : UInt8 := 6
def flagFilename : UInt8 := 7
def flagFilenameResp : UInt8 := 8
def flagEof : UInt8 := 32
def flagEofAck : UInt8 := 33
def flagDone : UInt8 := 34

/-! ## Reading and writing the header -/

/-- The four bytes of `htonl(value)`, in memory order. -/
def htonl (value : UInt32) : Bytes :=
  [UInt8.ofNat (value.toNat / 2 ^ 24), UInt8.ofNat (value.toNat / 2 ^ 16),
    UInt8.ofNat (value.toNat / 2 ^ 8), UInt8.ofNat value.toNat]

def writeU32 (packet : Bytes) (place : Nat) (value : UInt32) : Bytes :=
  memcpy packet place (htonl value)

def readU32 (packet : Bytes) (place : Nat) : UInt32 :=
  UInt32.ofNat ((packet.getD place 0).toNat * 2 ^ 24 + (packet.getD (place + 1) 0).toNat * 2 ^ 16 +
    (packet.getD (place + 2) 0).toNat * 2 ^ 8 + (packet.getD (place + 3) 0).toNat)

/-- The accumulation loop of `in_cksum`: the words that are left and the sum so
far. -/
def inCksumLoop : Bytes → Nat → Nat
  | lo :: hi :: w, sum => inCksumLoop w (sum + (lo.toNat + 256 * hi.toNat))
  | [b], sum => sum + b.toNat
  | [], sum => sum

/-- `in_cksum(addr, len)` on the `len` bytes `addr`. -/
def inCksum (addr : Bytes) : UInt16 :=
  let sum := inCksumLoop addr 0
  let sum := (sum >>> 16) + (sum &&& 0xffff)
  let sum := sum + (sum >>> 16)
  ~~~(UInt16.ofNat sum)

/-- The two bytes of an `unsigned short` in host order. -/
def hostBytes (value : UInt16) : Bytes :=
  [UInt8.ofNat value.toNat, UInt8.ofNat (value.toNat / 2 ^ 8)]

/-- Build a packet in the buffer `packet`; the buffer and `packet_len`. -/
def makePacket (packet : Bytes) (seq : UInt32) (flag : UInt8) (data : Bytes) : Bytes × Nat :=
  let packetLen := srejHeaderLen + data.length
  let packet := writeU32 packet 0 seq
  let packet := memcpy packet 4 [0]
  let packet := memcpy packet 5 [0]
  let packet := memcpy packet 6 [flag]
  let packet := if 0 < data.length then memcpy packet srejHeaderLen data else packet
  let checksum := inCksum (packet.take packetLen)
  (memcpy packet 4 (hostBytes checksum), packetLen)

def checkPacket (packet : Bytes) : Bool :=
  if packet.length < srejHeaderLen then false
  else if inCksum packet = 0 then true
  else false

def getSeq (packet : Bytes) : UInt32 := readU32 packet 0

def getFlag (packet : Bytes) : UInt8 := packet.getD 6 0

/-- What a caller hands to `safeSendto`: the `packet_len` bytes `make_packet` leaves
in a local `packet[SREJ_MAX_PACKET]`.  By `makePacket_take` the bytes that local
held before play no part. -/
def builtPacket (seq : UInt32) (flag : UInt8) (data : Bytes) : Bytes :=
  let built := makePacket (List.replicate srejMaxPacket 0) seq flag data
  built.1.take built.2

/-! ## The header reads back -/

theorem readU32_htonl (value : UInt32) (rest : Bytes) : readU32 (htonl value ++ rest) 0 = value := by
  have hlt := value.toNat_lt
  apply UInt32.toNat_inj.mp
  simp only [readU32, htonl, List.cons_append, List.nil_append, List.getD_cons_zero,
    List.getD_cons_succ, UInt8.toNat_ofNat', UInt32.toNat_ofNat', Nat.zero_add]
  omega

theorem readU32_append (head rest : Bytes) (place : Nat) :
    readU32 (head ++ rest) (head.length + place) = readU32 rest place := by
  simp [readU32, List.getD_eq_getElem?_getD, List.getElem?_append_right, Nat.add_assoc]

/-- The seven header bytes, with a given checksum field. -/
def header (seq : UInt32) (checksum : UInt16) (flag : UInt8) : Bytes :=
  htonl seq ++ hostBytes checksum ++ [flag]

/-- The checksum `make_packet` computes: over the packet with a zero checksum
field. -/
def headerCksum (seq : UInt32) (flag : UInt8) (data : Bytes) : UInt16 :=
  inCksum (header seq 0 flag ++ data)

theorem exists_header {packet : Bytes} (h : srejHeaderLen ≤ packet.length) :
    ∃ a b c d e f g rest, packet = a :: b :: c :: d :: e :: f :: g :: rest := by
  rcases packet with _ | ⟨a, _ | ⟨b, _ | ⟨c, _ | ⟨d, _ | ⟨e, _ | ⟨f, _ | ⟨g, rest⟩⟩⟩⟩⟩⟩⟩ <;>
    simp [srejHeaderLen] at h ⊢

/-- Whatever the buffer held, the bytes sent are header and payload. -/
theorem makePacket_take {packet : Bytes} (seq : UInt32) (flag : UInt8) {data : Bytes}
    (h : srejHeaderLen + data.length ≤ packet.length) :
    (makePacket packet seq flag data).1.take (srejHeaderLen + data.length)
      = header seq (headerCksum seq flag data) flag ++ data := by
  have hheader : srejHeaderLen ≤ packet.length := Nat.le_of_add_right_le h
  obtain ⟨a, b, c, d, e, f, g, rest, rfl⟩ := exists_header hheader
  -- the payload copy is guarded in the source; without payload it would copy nothing
  cases data with
  | nil =>
      simp [makePacket, writeU32, memcpy, htonl, srejHeaderLen, header, headerCksum, hostBytes]
  | cons x data =>
      simp [makePacket, writeU32, memcpy, htonl, srejHeaderLen, header, headerCksum, hostBytes,
        Nat.add_comm]

theorem builtPacket_eq (seq : UInt32) (flag : UInt8) {data : Bytes}
    (h : data.length ≤ srejMaxData) :
    builtPacket seq flag data = header seq (headerCksum seq flag data) flag ++ data := by
  have hlen : srejHeaderLen + data.length
      ≤ (List.replicate srejMaxPacket (0 : UInt8)).length := by
    simp only [srejHeaderLen, srejMaxData, srejMaxPacket, List.length_replicate] at h ⊢
    omega
  exact makePacket_take seq flag hlen

/-- A packet made in any buffer of the right size is the one made in a cleared buffer. -/
theorem makePacket_eq_builtPacket {packet : Bytes} (seq : UInt32) (flag : UInt8) {data : Bytes}
    (hpacket : packet.length = srejMaxPacket) (h : data.length ≤ srejMaxData) :
    (makePacket packet seq flag data).1.take (makePacket packet seq flag data).2
      = builtPacket seq flag data := by
  have hlen : srejHeaderLen + data.length ≤ packet.length := by
    rw [hpacket]
    simp only [srejHeaderLen, srejMaxData, srejMaxPacket] at h ⊢
    omega
  rw [builtPacket_eq seq flag h]
  exact makePacket_take seq flag hlen

section Fields

variable (seq : UInt32) (flag : UInt8) {data : Bytes} (h : data.length ≤ srejMaxData)

@[simp] theorem length_header (checksum : UInt16) : (header seq checksum flag).length = 7 := rfl

include h

theorem length_builtPacket : (builtPacket seq flag data).length = srejHeaderLen + data.length := by
  rw [builtPacket_eq seq flag h, List.length_append, length_header]
  rfl

theorem getSeq_builtPacket : getSeq (builtPacket seq flag data) = seq := by
  rw [builtPacket_eq seq flag h, getSeq, header, List.append_assoc, List.append_assoc]
  exact readU32_htonl seq _

theorem getFlag_builtPacket : getFlag (builtPacket seq flag data) = flag := by
  rw [builtPacket_eq seq flag h]
  rfl

theorem drop_builtPacket : (builtPacket seq flag data).drop srejHeaderLen = data := by
  rw [builtPacket_eq seq flag h]
  rfl

end Fields

/-- The value an RR, an SREJ or a FILENAME carries in its first four payload
bytes. -/
theorem readU32_builtPacket (seq : UInt32) (flag : UInt8) (value : UInt32) {rest : Bytes}
    (h : (htonl value ++ rest).length ≤ srejMaxData) :
    readU32 (builtPacket seq flag (htonl value ++ rest)) srejHeaderLen = value := by
  rw [builtPacket_eq seq flag h]
  exact (readU32_append _ _ 0).trans (readU32_htonl value rest)

@[simp] theorem length_htonl (value : UInt32) : (htonl value).length = 4 := rfl

theorem length_htonl_le (value : UInt32) : (htonl value).length ≤ srejMaxData := by
  show 4 ≤ 1400
  omega

/-- An RR or an SREJ carries its number and nothing else. -/
theorem readU32_builtPacket_htonl (seq : UInt32) (flag : UInt8) (value : UInt32) :
    readU32 (builtPacket seq flag (htonl value)) srejHeaderLen = value := by
  have hvalue := @readU32_builtPacket seq flag value []
  rw [List.append_nil] at hvalue
  exact hvalue (length_htonl_le value)

/-! ## The checksum -/

theorem inCksumLoop_eq : ∀ (w : Bytes) (sum : Nat), inCksumLoop w sum = sum + wordSum w
  | [], _ => rfl
  | [_], _ => rfl
  | lo :: hi :: w, sum => by
      rw [inCksumLoop, inCksumLoop_eq w, wordSum]
      omega

/-- `in_cksum` is the complement of the folded word sum. -/
theorem toNat_inCksum (addr : Bytes) : (inCksum addr).toNat = 65535 - fold (wordSum addr) := by
  simp only [inCksum, inCksumLoop_eq, Nat.zero_add, UInt16.toNat_not, UInt16.toNat_ofNat',
    Nat.shiftRight_eq_div_pow, show (0xffff : Nat) = 2 ^ 16 - 1 from rfl,
    Nat.and_two_pow_sub_one_eq_mod]
  rfl

/-- The `int` accumulator of `in_cksum` never comes near its limit on a packet. -/
theorem wordSum_lt {addr : Bytes} (h : addr.length ≤ srejMaxPacket) : wordSum addr < 2 ^ 26 := by
  have hle := wordSum_le addr
  simp only [srejMaxPacket] at h
  omega

theorem wordSum_header (seq : UInt32) (checksum : UInt16) (flag : UInt8) (data : Bytes) :
    wordSum (header seq checksum flag ++ data)
      = wordSum (header seq 0 flag ++ data) + checksum.toNat := by
  have hlt := checksum.toNat_lt
  simp only [header, htonl, hostBytes, List.cons_append, List.nil_append, wordSum,
    UInt8.toNat_ofNat', UInt16.toNat_zero]
  omega

theorem checkPacket_eq_true {packet : Bytes} :
    checkPacket packet = true ↔ srejHeaderLen ≤ packet.length ∧ inCksum packet = 0 := by
  simp only [checkPacket]
  split
  · rename_i hlt
    exact ⟨nofun, fun hc => absurd hc.1 (Nat.not_le.mpr hlt)⟩
  · rename_i hlt
    split
    · rename_i hsum
      exact ⟨fun _ => ⟨Nat.not_lt.mp hlt, hsum⟩, fun _ => rfl⟩
    · rename_i hsum
      exact ⟨nofun, fun hc => absurd hc.2 hsum⟩

/-- `in_cksum` is zero when the words sum to a positive multiple of `65535`. -/
theorem inCksum_eq_zero {addr : Bytes} (h : wordSum addr < 2 ^ 32) :
    inCksum addr = 0 ↔ 0 < wordSum addr ∧ wordSum addr % 65535 = 0 := by
  have hle := fold_le (wordSum addr)
  rw [← fold_eq_max h, ← UInt16.toNat_inj, toNat_inCksum, UInt16.toNat_zero]
  omega

theorem checkPacket_iff {packet : Bytes} (h : packet.length ≤ srejMaxPacket) :
    checkPacket packet = true ↔
      srejHeaderLen ≤ packet.length ∧ 0 < wordSum packet ∧ wordSum packet % 65535 = 0 := by
  have hlt := wordSum_lt h
  rw [checkPacket_eq_true, inCksum_eq_zero (by omega)]

/-- Every packet the code builds passes its own check: the inserted checksum
completes the sum of words to a multiple of `65535`. -/
theorem checkPacket_builtPacket (seq : UInt32) (flag : UInt8) {data : Bytes}
    (h : data.length ≤ srejMaxData) : checkPacket (builtPacket seq flag data) = true := by
  have hlen := length_builtPacket seq flag h
  refine checkPacket_eq_true.mpr ⟨by rw [hlen]; exact Nat.le_add_right _ _, ?_⟩
  have hsmall : wordSum (header seq 0 flag ++ data) < 2 ^ 26 := by
    apply wordSum_lt
    simp only [srejMaxData] at h
    simp only [List.length_append, length_header, srejMaxPacket]
    omega
  apply UInt16.toNat_inj.mp
  rw [builtPacket_eq seq flag h, toNat_inCksum, wordSum_header, headerCksum, toNat_inCksum,
    fold_add_compl (by omega)]
  rfl

end SelectiveReject
