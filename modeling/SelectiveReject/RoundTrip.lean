/-
# `SelectiveReject.RoundTrip` — what one program writes into a packet, the other reads out of it

`make_packet` leaves the same bytes whatever the buffer held before, `check_packet` accepts
them, and the readers of the header return what was written.  On top of that each message that
carries a number is followed from its sender to its reader: the RR and the SREJ of a child through
`process_controls`, the FILENAME packet of rcopy through `process_server`, `process_client` and
`filename_state`.

The checksum under it all is computed in an `int`; for a packet the sum stays far below
`2 ^ 31` at every turn of the loop, and the two folds of `in_cksum` leave nothing to fold
(`inCksum_exact`).
-/
import SelectiveReject.FirstPacket
import SelectiveReject.Rcopy

namespace SelectiveReject

open OnesComplement

/-! ## The accumulator of `in_cksum` -/

/-- For every prefix the loop has gone through, and for the folded sum: no overflow, and the
result is the sum modulo `65535`, zero only for zero. -/
theorem inCksum_exact {addr : Bytes} (h : addr.length ≤ srejMaxPacket) :
    (∀ n, inCksumLoop (addr.take n) 0 < 2 ^ 31) ∧
    (~~~(inCksum addr)).toNat % 65535 = inCksumLoop addr 0 % 65535 ∧
    ((~~~(inCksum addr)).toNat = 0 ↔ inCksumLoop addr 0 = 0) := by
  have hsum : wordSum addr < 2 ^ 26 := wordSum_lt h
  have hle := fold_le (wordSum addr)
  have hnot : (~~~(inCksum addr)).toNat = fold (wordSum addr) := by
    rw [UInt16.toNat_not, toNat_inCksum]
    have hmax : UInt16.size = 65536 := rfl
    omega
  refine ⟨fun n => ?_, ?_, ?_⟩
  · have hprefix : wordSum (addr.take n) < 2 ^ 26 :=
      wordSum_lt (Nat.le_trans (List.length_take_le' n addr) h)
    rw [inCksumLoop_eq]
    omega
  · rw [hnot, inCksumLoop_eq, Nat.zero_add]
    exact fold_modEq (by omega)
  · rw [hnot, inCksumLoop_eq, Nat.zero_add]
    exact fold_eq_zero (by omega)

/-! ## Control packets -/

section Control

variable {seq value : UInt32}

theorem length_htonl_packet (flag : UInt8) :
    ¬ (builtPacket seq flag (htonl value)).length < srejHeaderLen + 4 := by
  rw [length_builtPacket seq flag (length_htonl_le value), length_htonl]
  exact Nat.lt_irrefl _

/-- `process_controls` hands the value of an RR to `window_rr`. -/
theorem processControlsTurn_rr (rcopy : RcopyInfo) (count : Nat) (src : Addr) :
    processControlsTurn rcopy count src (builtPacket seq flagRr (htonl value))
      = ({ rcopy with server := src, window := windowRr rcopy.window value }, count + 1) := by
  have hlen := length_htonl_le value
  simp only [processControlsTurn, checkPacket_builtPacket seq flagRr hlen,
    getFlag_builtPacket seq flagRr hlen, if_true, handleRr, if_neg (length_htonl_packet flagRr),
    readU32_builtPacket_htonl]

/-- `process_controls` looks the value of an SREJ up in the window. -/
theorem processControlsTurn_srej (rcopy : RcopyInfo) (count : Nat) (src : Addr) :
    processControlsTurn rcopy count src (builtPacket seq flagSrej (htonl value))
      = (match windowFind rcopy.window value with
          | some entry => resendPacket { rcopy with server := src } entry
          | none => { rcopy with server := src }, count + 1) := by
  have hlen := length_htonl_le value
  have hflag : ¬ flagSrej = flagRr := by decide
  cases hfind : windowFind rcopy.window value with
  | none =>
      simp only [processControlsTurn, checkPacket_builtPacket seq flagSrej hlen,
        getFlag_builtPacket seq flagSrej hlen, if_true, if_neg hflag, handleReject,
        if_neg (length_htonl_packet flagSrej), readU32_builtPacket_htonl, hfind]
  | some entry =>
      simp only [processControlsTurn, checkPacket_builtPacket seq flagSrej hlen,
        getFlag_builtPacket seq flagSrej hlen, if_true, if_neg hflag, handleReject,
        if_neg (length_htonl_packet flagSrej), readU32_builtPacket_htonl, hfind]

end Control

/-! ## The FILENAME packet -/

theorem filenameState_sizes {F : Type} (info : ServerInfo F) (opened : Option F)
    (callocOk : Bool) :
    (filenameState info opened callocOk).info.windowSize
        = (readU32 info.firstPacket srejHeaderLen).toInt32 ∧
      (filenameState info opened callocOk).info.bufferSize
        = (readU32 info.firstPacket (srejHeaderLen + 4)).toInt32 := by
  cases opened with
  | none => exact ⟨rfl, rfl⟩
  | some file =>
      simp only [filenameState]
      split <;> exact ⟨rfl, rfl⟩

theorem filename_round_trip {F : Type} (rcopy : RcopyInfo) {outName : Bytes}
    (hlen : outName.length ≤ srejMaxName) (hname : 0 ∉ outName) (client : Addr) (unopened : F) :
    ∃ packet child, (sendFilenamePacket outName rcopy).info.sent
        = rcopy.sent ++ [⟨rcopy.server, packet⟩] ∧
      processServer packet client unopened = some child ∧ fileName child.info = outName ∧
      ∀ opened callocOk,
        (filenameState child.info opened callocOk).info.windowSize = rcopy.windowSize ∧
        (filenameState child.info opened callocOk).info.bufferSize = rcopy.bufferSize := by
  have hpayload := length_filenamePayload rcopy.windowSize rcopy.bufferSize hlen
  obtain ⟨checksum, rest, hfirst⟩ :=
    firstPacket_filename rcopy.controlSeq rcopy.windowSize rcopy.bufferSize hlen
  refine ⟨builtPacket rcopy.controlSeq flagFilename
      (filenamePayload rcopy.windowSize rcopy.bufferSize outName),
    processClient (builtPacket rcopy.controlSeq flagFilename
      (filenamePayload rcopy.windowSize rcopy.bufferSize outName)) client unopened,
    rfl, ?_, takeWhile_outName hfirst hname, fun opened callocOk => ?_⟩
  · exact if_pos ⟨checkPacket_builtPacket _ _ hpayload, getFlag_builtPacket _ _ hpayload⟩
  · obtain ⟨hwindow, hbuffer⟩ := filenameState_sizes (processClient (builtPacket rcopy.controlSeq
      flagFilename (filenamePayload rcopy.windowSize rcopy.bufferSize outName)) client unopened).info
      opened callocOk
    rw [hwindow, hbuffer]
    exact ⟨readU32_windowSize hfirst, readU32_bufferSize hfirst⟩

/-! ## The whole -/

/-- Packets round-trip: the header and the payload, the numbers of the control packets, the
FILENAME packet, and the arithmetic of the checksum. -/
theorem packet_round_trip :
    (∀ (seq : UInt32) (flag : UInt8) (data packet : Bytes), data.length ≤ srejMaxData →
      packet.length = srejMaxPacket →
      let made := makePacket packet seq flag data
      made.2 = srejHeaderLen + data.length ∧ checkPacket (made.1.take made.2) = true ∧
        getSeq (made.1.take made.2) = seq ∧ getFlag (made.1.take made.2) = flag ∧
        (made.1.take made.2).drop srejHeaderLen = data) ∧
    (∀ (F : Type) (child : ServerInfo F), ∃ entry, (sendRr child).log = child.log ++ [entry] ∧
      ∀ rcopy count src, processControlsTurn rcopy count src entry.sent.packet
        = ({ rcopy with
              server := src
              window := windowRr rcopy.window (bufferExpected child.buffer) }, count + 1)) ∧
    (∀ (F : Type) (child : ServerInfo F) (seq : UInt32), ∃ entry,
      (sendReject child seq).log = child.log ++ [entry] ∧
      ∀ rcopy count src, processControlsTurn rcopy count src entry.sent.packet
        = (match windowFind rcopy.window seq with
            | some entry => resendPacket { rcopy with server := src } entry
            | none => { rcopy with server := src }, count + 1)) ∧
    (∀ (F : Type) (rcopy : RcopyInfo) (outName : Bytes) (client : Addr) (unopened : F),
      1 ≤ outName.length → outName.length ≤ srejMaxName → 0 ∉ outName →
      ∃ packet child, (sendFilenamePacket outName rcopy).info.sent
          = rcopy.sent ++ [⟨rcopy.server, packet⟩] ∧
        processServer packet client unopened = some child ∧ fileName child.info = outName ∧
        ∀ opened callocOk,
          (filenameState child.info opened callocOk).info.windowSize = rcopy.windowSize ∧
          (filenameState child.info opened callocOk).info.bufferSize = rcopy.bufferSize) ∧
    (∀ addr : Bytes, addr.length ≤ srejMaxPacket →
      (∀ n, inCksumLoop (addr.take n) 0 < 2 ^ 31) ∧
      (~~~(inCksum addr)).toNat % 65535 = inCksumLoop addr 0 % 65535 ∧
      ((~~~(inCksum addr)).toNat = 0 ↔ inCksumLoop addr 0 = 0)) := by
  refine ⟨fun seq flag data packet hdata hpacket => ?_, fun F child => ?_, fun F child seq => ?_,
    fun F rcopy outName client unopened _ hlen hname => ?_, fun addr haddr => ?_⟩
  · refine ⟨rfl, ?_⟩
    rw [makePacket_eq_builtPacket seq flag hpacket hdata]
    exact ⟨checkPacket_builtPacket seq flag hdata, getSeq_builtPacket seq flag hdata,
      getFlag_builtPacket seq flag hdata, drop_builtPacket seq flag hdata⟩
  · exact ⟨_, rfl, processControlsTurn_rr⟩
  · exact ⟨_, rfl, processControlsTurn_srej⟩
  · exact filename_round_trip rcopy hlen hname client unopened
  · exact inCksum_exact haddr

end SelectiveReject
