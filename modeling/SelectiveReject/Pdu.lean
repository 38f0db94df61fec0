/-
# `SelectiveReject.Pdu` — the second packet encoder (`PDU.c`)

`createPDU` builds the same 7-byte header as `make_packet`, from the same checksum, with one
difference: it sums the checksum field as it finds it in the buffer, where `make_packet` clears it
first.  What the buffer held there (`staleWord`) therefore enters the sum.

    stale field                        createPDU
    00 00                              agrees with make_packet
    ff ff, some other byte not zero    agrees: all ones count for nothing
    ff ff, everything else zero        differs, and check_packet rejects
    anything else                      differs, and check_packet rejects
-/
import SelectiveReject.Packet

namespace SelectiveReject

open OnesComplement

/-- The buffer and the length returned.  `memcpy` returns its destination, so the error
branch behind the four `NULL` tests is dead. -/
def createPDU (pduBuffer : Bytes) (sequenceNumber : UInt32) (flag : UInt8) (payload : Bytes) :
    Bytes × Nat :=
  let headerLen := 7
  let pduBuffer := memcpy pduBuffer 0 (htonl sequenceNumber)
  let pduBuffer := memcpy pduBuffer 6 [flag]
  let pduBuffer := memcpy pduBuffer 7 payload
  let checksum := inCksum (pduBuffer.take (headerLen + payload.length))
  (memcpy pduBuffer 4 (hostBytes checksum), payload.length + headerLen)

def staleWord (pduBuffer : Bytes) : Nat :=
  (pduBuffer.getD 4 0).toNat + 256 * (pduBuffer.getD 5 0).toNat

/-- The two encoders agree on a call, and `check_packet` and the readers of the header take
what `createPDU` leaves. -/
def EncodersAgree (buffer : Bytes) (seq : UInt32) (flag : UInt8) (data : Bytes) : Prop :=
  let pdu := createPDU buffer seq flag data
  let packet := makePacket buffer seq flag data
  pdu.2 = packet.2 ∧ pdu.1.take pdu.2 = packet.1.take packet.2 ∧
    checkPacket (pdu.1.take pdu.2) = true ∧ getSeq (pdu.1.take pdu.2) = seq ∧
    getFlag (pdu.1.take pdu.2) = flag ∧ (pdu.1.take pdu.2).drop srejHeaderLen = data

/-- The stale checksum field counts for nothing. -/
def StaleHarmless (buffer : Bytes) (seq : UInt32) (flag : UInt8) (data : Bytes) : Prop :=
  buffer.getD 4 0 = 0 ∧ buffer.getD 5 0 = 0 ∨
    buffer.getD 4 0 = 255 ∧ buffer.getD 5 0 = 255 ∧
      ¬ (seq = 0 ∧ flag = 0 ∧ ∀ b ∈ data, b = 0)

theorem staleWord_le (buffer : Bytes) : staleWord buffer ≤ 65535 := by
  have hlo := (buffer.getD 4 0).toNat_lt
  have hhi := (buffer.getD 5 0).toNat_lt
  rw [staleWord]
  omega

theorem htonl_eq_zero {value : UInt32} : (∀ b ∈ htonl value, b = 0) ↔ value = 0 := by
  constructor
  · intro hzero
    have hbytes : htonl value = htonl 0 := by
      simp only [htonl, List.forall_mem_cons] at hzero
      obtain ⟨h₀, h₁, h₂, h₃, _⟩ := hzero
      simp only [htonl, h₀, h₁, h₂, h₃]
      rfl
    have hread := readU32_htonl value []
    rw [hbytes, readU32_htonl] at hread
    exact hread.symm
  · rintro rfl
    decide +kernel

theorem wordSum_header_eq_zero (seq : UInt32) (flag : UInt8) (data : Bytes) :
    wordSum (header seq 0 flag ++ data) = 0 ↔ seq = 0 ∧ flag = 0 ∧ ∀ b ∈ data, b = 0 := by
  have hfield : ∀ b ∈ hostBytes 0, b = 0 := by decide +kernel
  rw [wordSum_eq_zero, List.forall_mem_append, header, List.forall_mem_append,
    List.forall_mem_append, htonl_eq_zero, List.forall_mem_singleton, and_assoc, and_assoc]
  constructor
  · rintro ⟨hseq, _, hrest⟩
    exact ⟨hseq, hrest⟩
  · rintro ⟨hseq, hrest⟩
    exact ⟨hseq, hfield, hrest⟩

theorem staleHarmless_iff (buffer : Bytes) (seq : UInt32) (flag : UInt8) (data : Bytes) :
    StaleHarmless buffer seq flag data ↔
      staleWord buffer = 0 ∨
        staleWord buffer = 65535 ∧ 0 < wordSum (header seq 0 flag ++ data) := by
  have hlo := (buffer.getD 4 0).toNat_lt
  have hhi := (buffer.getD 5 0).toNat_lt
  rw [StaleHarmless, Nat.pos_iff_ne_zero, Ne, wordSum_header_eq_zero, staleWord]
  simp only [← UInt8.toNat_inj, UInt8.toNat_zero, UInt8.reduceToNat]
  constructor
  · rintro (⟨h₄, h₅⟩ | ⟨h₄, h₅, hne⟩)
    · exact .inl (by omega)
    · exact .inr ⟨by omega, hne⟩
  · rintro (hzero | ⟨hmax, hne⟩)
    · exact .inl (by omega)
    · exact .inr ⟨by omega, by omega, hne⟩

/-- What `createPDU` leaves: the header with the complement of a sum into which the old checksum
field has gone. -/
theorem createPDU_take {buffer : Bytes} (seq : UInt32) (flag : UInt8) {data : Bytes}
    (h : srejHeaderLen + data.length ≤ buffer.length) : ∃ checksum : UInt16,
      (createPDU buffer seq flag data).1.take (createPDU buffer seq flag data).2
        = header seq checksum flag ++ data ∧
      checksum.toNat = 65535 - fold (wordSum (header seq 0 flag ++ data) + staleWord buffer) := by
  have hheader : srejHeaderLen ≤ buffer.length := Nat.le_of_add_right_le h
  obtain ⟨a, b, c, d, e, f, g, rest, rfl⟩ := exists_header hheader
  refine ⟨inCksum (htonl seq ++ [e, f, flag] ++ data), ?_, ?_⟩
  · simp [createPDU, memcpy, htonl, header, hostBytes, Nat.add_comm]
  · rw [toNat_inCksum]
    congr 2
    simp only [htonl, header, hostBytes, staleWord, List.cons_append, List.nil_append, wordSum,
      List.getD_cons_succ, List.getD_cons_zero]
    simp only [UInt8.toNat_ofNat', UInt16.toNat_zero]
    omega

/-- The encoders agree exactly when the stale checksum field counts for nothing. -/
theorem encoders_agree_iff {buffer data : Bytes}
    (hbuffer : srejHeaderLen + data.length ≤ buffer.length) (hdata : data.length ≤ srejMaxData)
    (seq : UInt32) (flag : UInt8) :
    EncodersAgree buffer seq flag data ↔ StaleHarmless buffer seq flag data := by
  obtain ⟨checksum, htake, hchecksum⟩ := createPDU_take seq flag hbuffer
  have hmake := makePacket_take seq flag hbuffer
  have hstale := staleWord_le buffer
  have hsum : wordSum (header seq 0 flag ++ data) < 2 ^ 26 := by
    refine wordSum_lt ?_
    simp only [srejMaxData] at hdata
    simp only [List.length_append, length_header, srejMaxPacket]
    omega
  rw [staleHarmless_iff]
  constructor
  · -- a packet that passes the check completes the sum
    rintro ⟨_, _, hcheck, _⟩
    have hlen : (header seq checksum flag ++ data).length ≤ srejMaxPacket := by
      rw [List.length_append, length_header]
      simp only [srejMaxData, srejMaxPacket] at hdata ⊢
      omega
    rw [htake, checkPacket_iff hlen, wordSum_header, hchecksum] at hcheck
    exact (add_compl_fold_iff hstale (by omega)).mp hcheck.2
  · intro hharmless
    have hfold := (fold_add_eq_iff hstale (by omega)).mpr hharmless
    have hsame : checksum = headerCksum seq flag data := by
      apply UInt16.toNat_inj.mp
      rw [hchecksum, hfold, headerCksum, toNat_inCksum]
    rw [hsame, ← builtPacket_eq seq flag hdata] at htake
    refine ⟨Nat.add_comm _ _, ?_, ?_⟩
    · rw [htake, builtPacket_eq seq flag hdata]
      exact hmake.symm
    · rw [htake]
      exact ⟨checkPacket_builtPacket seq flag hdata, getSeq_builtPacket seq flag hdata,
        getFlag_builtPacket seq flag hdata, drop_builtPacket seq flag hdata⟩

/-- A buffer with all ones in its checksum field, and a packet that is not all zero. -/
theorem encoders_agree_ones : EncodersAgree (List.replicate srejMaxPacket 255) 2 flagData [65] :=
  (encoders_agree_iff (by decide +kernel) (by decide) 2 flagData).mpr
    (.inr ⟨by decide +kernel, by decide +kernel, by decide⟩)

/-- A buffer that held another packet. -/
theorem encoders_differ_reused :
    ¬ EncodersAgree (builtPacket 2 flagData [65]) 3 flagData [66] := by
  rintro ⟨_, _, hcheck, _⟩
  exact absurd hcheck (by decide +kernel)

end SelectiveReject
