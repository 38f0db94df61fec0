/-
# `SelectiveReject.BufferRefine` — the circular receive buffer refines an unbounded map

With a file that takes every write whole, the child's record is a picture of the map
`got` of `SelectiveReject.BufferInv`: the file is the payloads below the gap, the array those behind
it (`ReceiverInv`).  `buffer_refines_map` says so for every sequence of data packets, whoever sent
them, with the map spelled out as a log: a packet is logged when it is accepted, and the first one
under a number is the one that counts.
-/
import SelectiveReject.BufferInv
import SelectiveReject.Lib.Machine

namespace SelectiveReject

open DirectMap Machine Reassembly

/-! ## The output file -/

theorem OutFile.write_nonneg (file : OutFile) (data : Bytes) : 0 ≤ (file.write data).1 :=
  Int.natCast_nonneg _

theorem OutFile.writeAll_append : ∀ (datas : List Bytes) {file : OutFile},
    file.offset = file.contents.length →
    writeAll OutFile.write file datas
      = ⟨file.contents ++ datas.flatten, (file.contents ++ datas.flatten).length⟩
  | [], file, h => by
      rw [List.flatten_nil, List.append_nil, ← h]
      rfl
  | data :: datas, file, h => by
      have hwrite := (file.write_append data h).2
      have hrest := @OutFile.writeAll_append datas (file.write data).2 (by rw [hwrite])
      rw [hwrite] at hrest
      rw [List.flatten_cons, ← List.append_assoc]
      show writeAll OutFile.write (file.write data).2 datas = _
      rw [hwrite]
      exact hrest

/-! ## One data packet -/

/-- A child whose buffer holds what lies behind the gap of `got` and whose file holds
what lies before it. -/
structure ReceiverInv (size : Int32) (got : Nat → Option Bytes) (info : ServerInfo OutFile) :
    Prop where
  buffer : BufferInv size got info.buffer
  at_end : info.outputFile.offset = info.outputFile.contents.length
  contents : info.outputFile.contents = joined got 2 info.buffer.expected.toNat

/-- What one data packet leaves, given what the buffer does: the file grows by the pieces
between the old gap and the new one. -/
theorem ReceiverInv.grow {size : Int32} {got : Nat → Option Bytes}
    {info info' : ServerInfo OutFile} (h : ReceiverInv size got info) (packet : Bytes)
    (hbuffer : BufferInv size (accept info.buffer got packet) info'.buffer)
    (hfile : info'.outputFile = writeAll OutFile.write info.outputFile
      (pieces (accept info.buffer got packet) info.buffer.expected.toNat
        info'.buffer.expected.toNat)) :
    ReceiverInv size (accept info.buffer got packet) info' := by
  have hle := UInt32.le_iff_toNat_le.mp (h.buffer.expected_le hbuffer)
  rw [OutFile.writeAll_append _ h.at_end] at hfile
  refine ⟨hbuffer, by rw [hfile], ?_⟩
  have hold : joined (accept info.buffer got packet) 2 info.buffer.expected.toNat
      = joined got 2 info.buffer.expected.toNat :=
    joined_congr fun k hlo hlt =>
      accept_of_ne_none info.buffer packet (h.buffer.gap.full k hlo hlt)
  rw [hfile, joined_append h.buffer.gap.le hle, hold, h.contents]
  rfl

/-- `handle_data_packet` succeeds on every packet and accepts it or not as the
window says. -/
theorem ReceiverInv.handle {size : Int32} {got : Nat → Option Bytes} {info : ServerInfo OutFile}
    (h : ReceiverInv size got info) (packet : Bytes) :
    ∃ info', handleDataPacket OutFile.write info packet = .ok info' ∧
      ReceiverInv size (accept info.buffer got packet) info' ∧
      Handled info (getSeq packet) info' := by
  rcases h.buffer.handle packet with ⟨failed, hfail⟩ | ⟨info', hok, hbuffer, hfile, hhandled⟩
  · obtain ⟨file, data, hneg⟩ := (handleDataPacket_error hfail).1.exists
    exact absurd (file.write_nonneg data) (Int.not_le.mpr hneg)
  · exact ⟨info', hok, h.grow packet hbuffer hfile, hhandled⟩

theorem receiverInv_init {ok : Bool} {size : Int32} {info : ServerInfo OutFile}
    (hbuffer : bufferInit ok size 2 = some info.buffer) (hfile : info.outputFile = ⟨[], 0⟩) :
    ReceiverInv size (fun _ => none) info := by
  have hexpected : info.buffer.expected = 2 := by
    rw [(bufferInit_eq_some hbuffer).2]
  refine ⟨bufferInv_init hbuffer, by rw [hfile]; rfl, ?_⟩
  rw [hfile, hexpected]
  rfl

/-! ## Every sequence of data packets -/

def bufferAccepts (buffer : Buffer) (seq : UInt32) : Bool :=
  decide (buffer.expected ≤ seq) && bufferInWindow buffer seq && !bufferHas buffer seq

def logAccepted (buffer : Buffer) (log : List (UInt32 × Bytes)) (packet : Bytes) :
    List (UInt32 × Bytes) :=
  if bufferAccepts buffer (getSeq packet) = true then
    log ++ [(getSeq packet, packet.drop srejHeaderLen)]
  else log

/-- `handle_data_packet` on a child, next to the log. -/
def receiveStep (receiver : ServerInfo OutFile × List (UInt32 × Bytes)) (packet : Bytes) :
    Option (ServerInfo OutFile × List (UInt32 × Bytes)) :=
  (handleDataPacket OutFile.write receiver.1 packet).toOption.map fun info =>
    (info, logAccepted receiver.1.buffer receiver.2 packet)

theorem receiveStep_of_ok {info info' : ServerInfo OutFile} {packet : Bytes}
    (h : handleDataPacket OutFile.write info packet = .ok info') (log : List (UInt32 × Bytes)) :
    receiveStep (info, log) packet = some (info', logAccepted info.buffer log packet) := by
  rw [receiveStep, h]
  rfl

def firstAccepted (log : List (UInt32 × Bytes)) (k : Nat) : Option Bytes :=
  (log.find? fun accepted => accepted.1.toNat = k).map Prod.snd

theorem firstAccepted_append {log : List (UInt32 × Bytes)} {seq : UInt32} (data : Bytes)
    (h : firstAccepted log seq.toNat = none) :
    firstAccepted (log ++ [(seq, data)])
      = Function.update (firstAccepted log) seq.toNat (some data) := by
  funext k
  have hnone : log.find? (fun accepted => accepted.1.toNat = seq.toNat) = none :=
    Option.map_eq_none_iff.mp h
  by_cases hk : k = seq.toNat
  · subst hk
    simp [firstAccepted, List.find?_append, hnone]
  · rw [Function.update_of_ne hk]
    simp [firstAccepted, List.find?_append, Ne.symm hk]

theorem BufferInv.accept_eq {size : Int32} {buffer : Buffer} {log : List (UInt32 × Bytes)}
    (h : BufferInv size (firstAccepted log) buffer) (packet : Bytes) :
    accept buffer (firstAccepted log) packet = firstAccepted (logAccepted buffer log packet) := by
  cases hin : bufferInWindow buffer (getSeq packet) with
  | false => simp [accept, logAccepted, bufferAccepts, hin]
  | true =>
      have hle : buffer.expected ≤ getSeq packet := (of_decide_eq_true hin).1
      have hiff := h.has_iff_got (UInt32.le_iff_toNat_le.mp hle)
      rw [accept, if_pos hin, logAccepted, bufferAccepts, hin, decide_eq_true hle]
      cases hhas : bufferHas buffer (getSeq packet) with
      | true => exact keepFirst_of_some (hiff.mp hhas) _
      | false =>
          have hnone : firstAccepted log (getSeq packet).toNat = none := by
            by_contra hne
            rw [hiff.mpr hne] at hhas
            cases hhas
          exact (keepFirst_of_none hnone _).trans (firstAccepted_append _ hnone).symm

theorem ReceiverInv.receive {size : Int32} : ∀ (packets : List Bytes) {info : ServerInfo OutFile}
    {log : List (UInt32 × Bytes)}, ReceiverInv size (firstAccepted log) info →
    ∃ info' log', exec receiveStep (info, log) packets = some (info', log') ∧
      ReceiverInv size (firstAccepted log') info'
  | [], info, log, h => ⟨info, log, rfl, h⟩
  | packet :: packets, info, log, h => by
      obtain ⟨info₁, hhandle, h₁, _⟩ := h.handle packet
      rw [h.buffer.accept_eq] at h₁
      obtain ⟨info', log', hrest, h'⟩ := ReceiverInv.receive packets h₁
      have hstep := receiveStep_of_ok hhandle log
      refine ⟨info', log', ?_, h'⟩
      simp only [exec, List.foldlM_cons, hstep, Option.bind_eq_bind, Option.bind_some]
      exact hrest

/-- The circular buffer refines the map of the packets accepted, whoever sent
them. -/
theorem buffer_refines_map {ok : Bool} {size : Int32} {info₀ : ServerInfo OutFile}
    (hinit : bufferInit ok size 2 = some info₀.buffer) (hfile : info₀.outputFile = ⟨[], 0⟩)
    (packets : List Bytes) :
    ∃ info log, exec receiveStep (info₀, []) packets = some (info, log) ∧
      IsLeast {k | 2 ≤ k ∧ firstAccepted log k = none} info.buffer.expected.toNat ∧
      info.outputFile.contents
        = joined (firstAccepted log) 2 info.buffer.expected.toNat ∧
      (∀ (slot : Nat) (seq : UInt32) (data : Bytes),
        (∃ entry, info.buffer.entry[slot]? = some entry ∧ entry.used = true ∧
          entry.seq = seq ∧ entry.data.take entry.dataLen = data) ↔
        slot = seq.toNat % size.toInt.toNat ∧ info.buffer.expected < seq ∧
          firstAccepted log seq.toNat = some data) ∧
      (∀ seq : UInt32, firstAccepted log seq.toNat ≠ none →
        seq.toNat < info.buffer.expected.toNat + size.toInt.toNat) ∧
      (∀ seq, bufferAccepts info.buffer seq = true →
        (info.buffer.at (info.buffer.spot seq)).used = false) ∧
      (∀ packet info', handleDataPacket OutFile.write info packet = .ok info' →
        info.buffer.expected ≤ info'.buffer.expected) := by
  have h₀ : ReceiverInv size (firstAccepted []) info₀ := receiverInv_init hinit hfile
  obtain ⟨info, log, hrun, h⟩ := ReceiverInv.receive packets h₀
  refine ⟨info, log, hrun, h.buffer.gap.isLeast, h.contents, ?_, ?_, ?_, ?_⟩
  · intro slot seq data
    rw [← h.buffer.length_entry, UInt32.lt_iff_toNat_lt]
    have hstores := h.buffer.stores slot seq.toNat data
    simp only [BufferEntry.view_eq_some, UInt32.toNat_inj] at hstores
    rw [hstores]
    constructor
    · rintro ⟨hslot, hahead⟩
      obtain ⟨hle, _⟩ := of_ahead_ne_none (by rw [hahead]; nofun)
      rw [ahead_of_le hle] at hahead
      refine ⟨hslot, Nat.lt_of_le_of_ne hle fun heq => ?_, hahead⟩
      rw [← heq, h.buffer.gap.missing] at hahead
      cases hahead
    · rintro ⟨hslot, hlt, hgot⟩
      exact ⟨hslot, (ahead_of_le (Nat.le_of_lt hlt)).trans hgot⟩
  · intro seq hseq
    exact (h.buffer.within _ hseq).2.1
  · intro seq haccepts
    simp only [bufferAccepts, Bool.and_eq_true, Bool.not_eq_true', decide_eq_true_eq]
      at haccepts
    obtain ⟨⟨_, hin⟩, hhas⟩ := haccepts
    by_contra hused
    have hused' : (info.buffer.at (info.buffer.spot seq)).used = true := by simpa using hused
    simp [bufferHas, hused', h.buffer.slot_free hin hused'] at hhas
  · intro packet info' hhandle
    obtain ⟨_, heq, h', _⟩ := h.handle packet
    obtain rfl := Except.ok.inj (hhandle.symm.trans heq)
    exact h.buffer.expected_le h'.buffer

/-- A window of two: packet 3 waits for packet 2, and both are written. -/
theorem buffer_refines_map_two :
    let child := childSetup
      (processClient (builtPacket 1 flagFilename (htonl 2 ++ htonl 1 ++ [111, 0])) .rcopy ⟨[], 0⟩)
      (some (⟨[], 0⟩ : OutFile)) true
    ∃ info log, exec receiveStep (child.info, [])
        [builtPacket 3 flagData [7], builtPacket 2 flagData [5]] = some (info, log) ∧
      info.outputFile.contents = joined (firstAccepted log) 2 info.buffer.expected.toNat := by
  intro child
  obtain ⟨info, log, hrun, _, hcontents, _⟩ :=
    @buffer_refines_map true 2 child.info (by decide +kernel) (by decide +kernel)
      [builtPacket 3 flagData [7], builtPacket 2 flagData [5]]
  exact ⟨info, log, hrun, hcontents⟩

end SelectiveReject
