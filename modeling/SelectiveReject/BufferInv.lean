/-
# `SelectiveReject.BufferInv` — what the receive buffer holds, and what one packet does to it

The abstract receiver is a partial map `got` from all natural numbers to payloads:
what has been accepted so far, kept for ever.  `expected` is its first gap from 2 on, and the
circular array stores the part of the map from the gap on.  `BufferInv` is that relation between
`got` and the buffer; `BufferInv.handle` says what `handle_data_packet` does to it, in three
cases:

    the packet is old or outside the window    an RR, nothing else changes
    it is ahead of the gap                     `got` gains it unless it was held
    it fills the gap                           `got` gains it, and the gap moves up

Nothing is assumed of the sender, nor of `write`.  In particular the sum `expected + size` may
wrap: then `buffer_in_window` fails for everything (`BufferInv.inWindow_iff`), nothing is accepted
any more, and `expected` stays where it is.
-/
import SelectiveReject.Lib.DirectMap
import SelectiveReject.Lib.Reassembly
import SelectiveReject.Server

namespace SelectiveReject

open DirectMap Reassembly

/-! ## What an entry shows -/

/-- A used entry shows its number and its payload. -/
def BufferEntry.view (entry : BufferEntry) : Option (Nat × Bytes) :=
  if entry.used = true then some (entry.seq.toNat, entry.data.take entry.dataLen) else none

@[simp] theorem BufferEntry.view_zero : BufferEntry.zero.view = none := rfl

@[simp] theorem BufferEntry.view_clear (entry : BufferEntry) :
    BufferEntry.view { entry with used := false } = none := rfl

theorem BufferEntry.view_eq_some {entry : BufferEntry} {k : Nat} {data : Bytes} :
    entry.view = some (k, data) ↔
      entry.used = true ∧ entry.seq.toNat = k ∧ entry.data.take entry.dataLen = data := by
  cases hu : entry.used <;> simp [BufferEntry.view, hu]

/-- The array of `buffer` stores the partial map `m` of payloads. -/
structure BufferTable (buffer : Buffer) (m : Nat → Option Bytes) : Prop where
  size_nonneg : 0 ≤ buffer.size
  length_eq : buffer.entry.length = buffer.size.toInt.toNat
  stores : Stores BufferEntry.view buffer.entry m

namespace BufferTable

variable {buffer : Buffer} {m : Nat → Option Bytes}

theorem toNat_size (h : BufferTable buffer m) :
    buffer.size.toUInt32.toNat = buffer.entry.length := by
  rw [h.length_eq, Counter.toNat_toUInt32 h.size_nonneg]

theorem spot_eq (h : BufferTable buffer m) (seq : UInt32) :
    buffer.spot seq = seq.toNat % buffer.entry.length := by
  rw [Buffer.spot, UInt32.toNat_mod, h.toNat_size]

theorem at_view (h : BufferTable buffer m) {seq : UInt32} {data : Bytes} :
    (buffer.at (buffer.spot seq)).view = some (seq.toNat, data) ↔ m seq.toNat = some data := by
  rw [h.spot_eq]
  exact h.stores.find BufferEntry.view_zero

theorem has_iff (h : BufferTable buffer m) (seq : UInt32) :
    bufferHas buffer seq = true ↔ m seq.toNat ≠ none := by
  simp only [bufferHas, decide_eq_true_eq]
  constructor
  · rintro ⟨hused, hseq⟩
    have hview : (buffer.at (buffer.spot seq)).view = some (seq.toNat, _) :=
      BufferEntry.view_eq_some.mpr ⟨hused, congrArg UInt32.toNat hseq, rfl⟩
    rw [h.at_view.mp hview]
    nofun
  · intro hne
    obtain ⟨data, hm⟩ := Option.ne_none_iff_exists'.mp hne
    obtain ⟨hused, hseq, _⟩ := BufferEntry.view_eq_some.mp (h.at_view.mpr hm)
    exact ⟨hused, UInt32.toNat_inj.mp hseq⟩

/-- `buffer_has_later` looks at every slot, so it finds any key above `expected`. -/
theorem hasLater_iff (h : BufferTable buffer m) :
    bufferHasLater buffer = true ↔ ∃ k, buffer.expected.toNat < k ∧ m k ≠ none := by
  simp only [bufferHasLater, List.any_eq_true, List.mem_range, decide_eq_true_eq,
    UInt32.lt_iff_toNat_lt]
  constructor
  · rintro ⟨i, _, hused, hlt⟩
    have hview : (buffer.at i).view = some ((buffer.at i).seq.toNat, _) :=
      BufferEntry.view_eq_some.mpr ⟨hused, rfl, rfl⟩
    have hm := ((h.stores _ _ _).mp ((view_getD BufferEntry.view_zero).mp hview)).2
    exact ⟨_, hlt, by rw [hm]; nofun⟩
  · rintro ⟨k, hlt, hne⟩
    obtain ⟨data, hm⟩ := Option.ne_none_iff_exists'.mp hne
    have hview := (h.stores.find BufferEntry.view_zero).mpr hm
    obtain ⟨hused, hseq, _⟩ := BufferEntry.view_eq_some.mp hview
    refine ⟨k % buffer.entry.length, ?_, hused, ?_⟩
    · have hin := Buffer.at_lt hused
      rw [h.length_eq] at hin ⊢
      exact hin
    · show _ < (buffer.entry.getD _ BufferEntry.zero).seq.toNat
      rw [hseq]
      exact hlt

end BufferTable

/-! ## `buffer_write_ready` -/

theorem eq_ok_of_toOption {ε α : Type} {x : Except ε α} {a : α} (h : x.toOption = some a) :
    x = .ok a := by
  cases x with
  | error e => cases h
  | ok b => rw [Option.some.inj h]

theorem eq_error_of_toOption {ε α : Type} {x : Except ε α} (h : x.toOption = none) :
    ∃ e, x = .error e := by
  cases x with
  | error e => exact ⟨e, rfl⟩
  | ok b => cases h

section Write

variable {F : Type} {write : F → Bytes → Int × F}

def writeAll (write : F → Bytes → Int × F) (file : F) (datas : List Bytes) : F :=
  datas.foldl (fun file data => (write file data).2) file

/-- The file after these writes, or `none` once one of them fails. -/
def drain (write : F → Bytes → Int × F) (file : F) : List Bytes → Option F
  | [] => some file
  | data :: datas =>
      if (write file data).1 < 0 then none else drain write (write file data).2 datas

theorem drain_eq_some : ∀ {datas : List Bytes} {file file' : F},
    drain write file datas = some file' → file' = writeAll write file datas
  | [], _, _, h => (Option.some.inj h).symm
  | data :: datas, file, file', h => by
      simp only [drain] at h
      split at h
      · cases h
      · exact @drain_eq_some datas (write file data).2 file' h

theorem BufferTable.consume {buffer : Buffer} {m : Nat → Option Bytes} (h : BufferTable buffer m)
    (halone : Alone buffer.entry.length m buffer.expected.toNat) :
    BufferTable
      { buffer with
        entry := buffer.entry.set (buffer.spot buffer.expected)
          { buffer.at (buffer.spot buffer.expected) with used := false }
        expected := buffer.expected + 1 }
      (Function.update m buffer.expected.toNat none) := by
  refine ⟨h.size_nonneg, List.length_set.trans h.length_eq, ?_⟩
  rw [h.spot_eq]
  exact h.stores.drop halone (BufferEntry.view_clear _)

/-- The loop writes the pieces from `expected` up to the first gap, and keeps what lies
behind it; or a `write` fails. -/
theorem BufferTable.writeReady {lo : Nat} : ∀ {buffer : Buffer} {file : F}
    {m : Nat → Option Bytes}, BufferTable buffer m → Within lo buffer.entry.length m →
    (∀ k, m k ≠ none → k + 1 < 2 ^ 32) →
    ∃ (gap : UInt32) (entry : List BufferEntry),
      (bufferWriteReady write buffer file).toOption
        = (drain write file (pieces m buffer.expected.toNat gap.toNat)).map
            (fun file => ({ buffer with entry := entry, expected := gap }, file)) ∧
      IsGap m buffer.expected.toNat gap.toNat ∧
      BufferTable { buffer with entry := entry, expected := gap }
        (fun k => if buffer.expected.toNat ≤ k ∧ k < gap.toNat then none else m k) := by
  intro buffer
  induction hn : buffer.entry.countP (·.used) using Nat.strong_induction_on generalizing buffer with
  | _ n ih =>
  intro file m h hwithin hsmall
  by_cases hhas : bufferHas buffer buffer.expected = true
  · -- the piece at `expected` is there: write it, clear its slot, go on
    obtain ⟨data, hm⟩ := Option.ne_none_iff_exists'.mp ((h.has_iff _).mp hhas)
    obtain ⟨hlo, hhi⟩ := hwithin _ (by rw [hm]; exact Option.some_ne_none _)
    have hsucc : (buffer.expected + 1).toNat = buffer.expected.toNat + 1 :=
      Counter.toNat_succ_of_lt (hsmall _ (by rw [hm]; exact Option.some_ne_none _))
    obtain ⟨hused, _, hdata⟩ := BufferEntry.view_eq_some.mp (h.at_view.mpr hm)
    have hcount := countP_clear_lt hused
    rw [hn] at hcount
    have hlive : ∀ k, Function.update m buffer.expected.toNat none k ≠ none → m k ≠ none := by
      intro k hk
      by_cases hke : k = buffer.expected.toNat
      · rw [hke, Function.update_self] at hk
        exact absurd rfl hk
      · rwa [Function.update_of_ne hke] at hk
    have hstep := h.consume (hwithin.alone hlo hhi)
    obtain ⟨gap, entry, hrun, hgap, htable⟩ := @ih _ hcount _ rfl (write file data).2 _ hstep
      (by rw [List.length_set]; exact hwithin.mono hlive) (fun k hk => hsmall k (hlive k hk))
    simp only [hsucc] at hrun hgap htable
    have hgap_le := hgap.le
    refine ⟨gap, entry, ?_, ?_, ?_⟩
    · have hrest : pieces (Function.update m buffer.expected.toNat none)
          (buffer.expected.toNat + 1) gap.toNat
            = pieces m (buffer.expected.toNat + 1) gap.toNat :=
        pieces_congr fun k hk _ => Function.update_of_ne (by omega) _ _
      rw [hrest] at hrun
      rw [pieces_append (Nat.le_succ buffer.expected.toNat) hgap_le, pieces_succ_self, hm,
        bufferWriteReady_of_has hhas, show buffer.ready = data from hdata]
      simp only [Option.getD_some, List.singleton_append, drain]
      split
      · rfl
      · exact hrun
    · refine ⟨by omega, fun k hk hk' => ?_, ?_⟩
      · by_cases hke : k = buffer.expected.toNat
        · rw [hke, hm]
          exact Option.some_ne_none _
        · exact hlive k (hgap.full k (by omega) hk')
      · have hmissing := hgap.missing
        rwa [Function.update_of_ne (by omega)] at hmissing
    · refine ⟨htable.size_nonneg, htable.length_eq, htable.stores.congr fun k => ?_⟩
      by_cases hke : k = buffer.expected.toNat
      · rw [hke, Function.update_self]
        simp only [ite_self]
        rw [if_pos ⟨Nat.le_refl _, hgap_le⟩]
      · have hk1 : buffer.expected.toNat + 1 ≤ k ↔ buffer.expected.toNat ≤ k := by omega
        simp only [hk1, Function.update_of_ne hke]
  · -- the first gap: the loop ends
    have hnone : m buffer.expected.toNat = none := by
      by_contra hne
      exact hhas ((h.has_iff _).mpr hne)
    refine ⟨buffer.expected, buffer.entry, ?_,
      ⟨Nat.le_refl _, fun k hk hk' => absurd hk (Nat.not_le.mpr hk'), hnone⟩, ?_⟩
    · rw [bufferWriteReady_of_not_has hhas, pieces_self]
      rfl
    · refine ⟨h.size_nonneg, h.length_eq, h.stores.congr fun k => ?_⟩
      rw [if_neg (by omega)]

/-! Where a `write` fails. -/

inductive WriteTurn (write : F → Bytes → Int × F) : Buffer × F → Buffer × F → Prop
  | wrote {buffer : Buffer} {file : F} (hhas : bufferHas buffer buffer.expected = true)
      (hwrite : 0 ≤ (write file buffer.ready).1) :
      WriteTurn write (buffer, file) (buffer.written, (write file buffer.ready).2)

/-- After some turns from `buffer` and `file` a `write` of `buffer_write_ready` fails, and leaves
`failed`. -/
def WriteFails (write : F → Bytes → Int × F) (buffer : Buffer) (file : F)
    (failed : Buffer × F) : Prop :=
  ∃ before, Relation.ReflTransGen (WriteTurn write) (buffer, file) (failed.1, before) ∧
    bufferHas failed.1 failed.1.expected = true ∧
    (write before failed.1.ready).1 < 0 ∧ (write before failed.1.ready).2 = failed.2

/-- `buffer_write_ready` calls `exit` only because one of its `write`s failed. -/
theorem writeFails_of_error {buffer : Buffer} {file : F} {failed : Buffer × F}
    (h : bufferWriteReady write buffer file = .error failed) :
    WriteFails write buffer file failed := by
  induction buffer, file using bufferWriteReady.induct write with
  | case1 buffer file hhas spot entry wrote file' hwrite hneg =>
      have hready : write file buffer.ready = (wrote, file') := hwrite
      rw [bufferWriteReady_of_has hhas, hready, if_pos hneg] at h
      obtain rfl := Except.error.inj h
      have hwrote := congrArg Prod.fst hready
      exact ⟨file, .refl, hhas, hwrote ▸ hneg, congrArg Prod.snd hready⟩
  | case2 buffer file hhas spot entry wrote file' hwrite hneg ih =>
      have hready : write file buffer.ready = (wrote, file') := hwrite
      rw [bufferWriteReady_of_has hhas, hready, if_neg hneg] at h
      obtain ⟨before, hturns, hfailed⟩ := ih h
      have hturn : WriteTurn write (buffer, file) (buffer.written, (write file buffer.ready).2) :=
        .wrote hhas (by rw [hready]; exact Int.not_lt.mp hneg)
      rw [hready] at hturn
      exact ⟨before, .head hturn hturns, hfailed⟩
  | case3 buffer file hhas =>
      rw [bufferWriteReady_of_not_has hhas] at h
      cases h

/-- A `write` that fails while `handle_data_packet` drains what `packet` completes. -/
def WriteFailsFor (write : F → Bytes → Int × F) (info : ServerInfo F) (packet : Bytes) : Prop :=
  let seq := getSeq packet
  ∃ failed, WriteFails write
    (bufferClearReject (bufferSave info.buffer seq (packet.drop srejHeaderLen)) seq)
    info.outputFile failed

theorem handleDataPacket_error {info failed : ServerInfo F} {packet : Bytes}
    (h : handleDataPacket write info packet = .error failed) :
    WriteFailsFor write info packet ∧
      ∃ buffer file, failed = { info with buffer := buffer, outputFile := file } := by
  simp only [handleDataPacket] at h
  split at h
  · cases h
  · split at h
    · cases h
    · split at h
      · split at h
        · rename_i hready
          exact ⟨⟨_, writeFails_of_error hready⟩, _, _, (Except.error.inj h).symm⟩
        · split at h <;> cases h
      · cases h

theorem WriteFailsFor.exists {info : ServerInfo F} {packet : Bytes}
    (h : WriteFailsFor write info packet) : ∃ file data, (write file data).1 < 0 := by
  obtain ⟨failed, before, _, _, hneg, _⟩ := h
  exact ⟨before, _, hneg⟩

end Write

/-! ## The relation to the unbounded map -/

/-- `buffer` stands at the first gap of `got` and stores what lies behind it. -/
structure BufferInv (size : Int32) (got : Nat → Option Bytes) (buffer : Buffer) : Prop
    extends BufferTable buffer (ahead got buffer.expected.toNat) where
  size_eq : buffer.size = size
  gap : IsGap got 2 buffer.expected.toNat
  within : ∀ k, got k ≠ none →
    2 ≤ k ∧ k < buffer.expected.toNat + size.toInt.toNat ∧ k + 1 < 2 ^ 32

theorem bufferInit_eq_some {ok : Bool} {size : Int32} {startSeq : UInt32} {buffer : Buffer}
    (h : bufferInit ok size startSeq = some buffer) :
    0 ≤ size ∧
      buffer = ⟨List.replicate size.toInt.toNat BufferEntry.zero, size, startSeq, 0, false⟩ := by
  simp only [bufferInit] at h
  split at h
  · cases h
  · rename_i entry hcalloc
    obtain ⟨hsize, rfl⟩ := calloc_eq_some (by decide) hcalloc
    exact ⟨hsize, (Option.some.inj h).symm⟩

theorem bufferInv_init {ok : Bool} {size : Int32} {buffer : Buffer}
    (h : bufferInit ok size 2 = some buffer) : BufferInv size (fun _ => none) buffer := by
  obtain ⟨hsize, rfl⟩ := bufferInit_eq_some h
  refine { size_nonneg := hsize, length_eq := List.length_replicate, stores := ?_, size_eq := rfl,
           gap := ⟨Nat.le_refl _, fun k hlo hlt => absurd hlo (Nat.not_le.mpr hlt), rfl⟩,
           within := nofun }
  refine (Stores.empty fun e he => ?_).congr fun k => (ite_self none).symm
  rw [List.eq_of_mem_replicate he]
  rfl

namespace BufferInv

variable {size : Int32} {got : Nat → Option Bytes} {buffer : Buffer}

theorem length_entry (h : BufferInv size got buffer) :
    buffer.entry.length = size.toInt.toNat := by
  rw [h.length_eq, h.size_eq]

/-- The window test, and the one thing it refuses although it is in reach: everything,
once `expected + size` passes `2 ^ 32`. -/
theorem inWindow_iff (h : BufferInv size got buffer) (seq : UInt32) :
    bufferInWindow buffer seq = true ↔ buffer.expected.toNat ≤ seq.toNat ∧
      buffer.expected.toNat + size.toInt.toNat < 2 ^ 32 ∧
      seq.toNat < buffer.expected.toNat + size.toInt.toNat := by
  have hsize : buffer.size.toUInt32.toNat = size.toInt.toNat := by
    rw [h.toNat_size, h.length_entry]
  rw [bufferInWindow, decide_eq_true_eq, ← UInt32.le_iff_toNat_le]
  constructor
  · rintro ⟨hle, hlt⟩
    rw [Counter.lt_add_iff hle, hsize] at hlt
    exact ⟨hle, hlt⟩
  · rintro ⟨hle, hlt⟩
    rw [← hsize, ← Counter.lt_add_iff hle] at hlt
    exact ⟨hle, hlt⟩

theorem ahead_within (h : BufferInv size got buffer) :
    Within buffer.expected.toNat buffer.entry.length (ahead got buffer.expected.toNat) := by
  intro k hk
  obtain ⟨hle, hgot⟩ := of_ahead_ne_none hk
  rw [h.length_entry]
  exact ⟨hle, (h.within k hgot).2.1⟩

theorem has_iff_got (h : BufferInv size got buffer) {seq : UInt32}
    (hseq : buffer.expected.toNat ≤ seq.toNat) :
    bufferHas buffer seq = true ↔ got seq.toNat ≠ none := by
  rw [h.has_iff, ahead_of_le hseq]

theorem slot_free (h : BufferInv size got buffer) {seq : UInt32}
    (hin : bufferInWindow buffer seq = true)
    (hused : (buffer.at (buffer.spot seq)).used = true) :
    (buffer.at (buffer.spot seq)).seq = seq := by
  obtain ⟨hle, _, hlt⟩ := (h.inWindow_iff seq).mp hin
  have hview : (buffer.at (buffer.spot seq)).view
      = some ((buffer.at (buffer.spot seq)).seq.toNat, _) :=
    BufferEntry.view_eq_some.mpr ⟨hused, rfl, rfl⟩
  rw [h.spot_eq] at hview ⊢
  have halone := h.ahead_within.alone hle (by rw [h.length_entry]; exact hlt)
  exact UInt32.toNat_inj.mp (h.stores.home_alone BufferEntry.view_zero halone hview)

end BufferInv

/-! ## Saving -/

theorem bufferSave_frame (buffer : Buffer) (seq : UInt32) (data : Bytes) :
    bufferSave buffer seq data
      = { buffer with entry := (bufferSave buffer seq data).entry } := by
  simp only [bufferSave]
  split <;> rfl

@[simp] theorem expected_bufferSave (buffer : Buffer) (seq : UInt32) (data : Bytes) :
    (bufferSave buffer seq data).expected = buffer.expected := by
  rw [bufferSave_frame]

theorem BufferInv.save {size : Int32} {got : Nat → Option Bytes} {buffer : Buffer}
    (h : BufferInv size got buffer) {seq : UInt32} (hin : bufferInWindow buffer seq = true)
    (data : Bytes) :
    BufferTable (bufferSave buffer seq data)
      (ahead (keepFirst got seq.toNat data) buffer.expected.toNat) := by
  obtain ⟨hle, _, hlt⟩ := (h.inWindow_iff seq).mp hin
  by_cases hhas : bufferHas buffer seq = true
  · rw [keepFirst_of_some ((h.has_iff_got hle).mp hhas), bufferSave, if_pos hhas]
    exact h.toBufferTable
  · have hnone : got seq.toNat = none := by
      by_contra hne
      exact hhas ((h.has_iff_got hle).mpr hne)
    have hroom : seq.toNat < buffer.expected.toNat + buffer.entry.length := by
      rw [h.length_entry]
      exact hlt
    have hpos : 0 < buffer.entry.length := by omega
    have hput := h.stores.put hpos (h.ahead_within.alone hle hroom)
      (e := ⟨seq, data.length, true, memcpy (buffer.at (buffer.spot seq)).data 0 data⟩)
      (a := data) (BufferEntry.view_eq_some.mpr ⟨rfl, rfl, take_memcpy_zero _ _⟩)
    rw [← h.spot_eq] at hput
    rw [keepFirst_of_none hnone, bufferSave, if_neg hhas]
    refine ⟨h.size_nonneg, List.length_set.trans h.length_eq, hput.congr fun k => ?_⟩
    by_cases hk : k = seq.toNat
    · rw [hk, Function.update_self, ahead_of_le hle, Function.update_self]
    · rw [Function.update_of_ne hk, ahead, ahead, Function.update_of_ne hk]

theorem BufferInv.within_save {size : Int32} {got : Nat → Option Bytes} {buffer : Buffer}
    (h : BufferInv size got buffer) {seq : UInt32} (hin : bufferInWindow buffer seq = true)
    (data : Bytes) : ∀ k, keepFirst got seq.toNat data k ≠ none →
      2 ≤ k ∧ k < buffer.expected.toNat + size.toInt.toNat ∧ k + 1 < 2 ^ 32 := by
  intro k hk
  obtain ⟨hle, hnowrap, hlt⟩ := (h.inWindow_iff seq).mp hin
  have hgap := h.gap.le
  rcases of_keepFirst_ne_none hk with rfl | hgot
  · exact ⟨by omega, hlt, by omega⟩
  · exact h.within k hgot

/-! ## The request flag does not matter to what is stored -/

theorem BufferTable.clearReject {buffer : Buffer} {m : Nat → Option Bytes}
    (h : BufferTable buffer m) (seq : UInt32) : BufferTable (bufferClearReject buffer seq) m := by
  simp only [bufferClearReject]
  split
  · exact ⟨h.size_nonneg, h.length_eq, h.stores⟩
  · exact h

theorem bufferClearReject_entry (buffer : Buffer) (entry : List BufferEntry) (seq : UInt32) :
    bufferClearReject { buffer with entry := entry } seq
      = { bufferClearReject buffer seq with entry := entry } := by
  simp only [bufferClearReject]
  split <;> rfl

@[simp] theorem expected_bufferClearReject (buffer : Buffer) (seq : UInt32) :
    (bufferClearReject buffer seq).expected = buffer.expected := by
  simp only [bufferClearReject]
  split <;> rfl

@[simp] theorem size_bufferClearReject (buffer : Buffer) (seq : UInt32) :
    (bufferClearReject buffer seq).size = buffer.size := by
  simp only [bufferClearReject]
  split <;> rfl

@[simp] theorem expected_bufferNeedReject (buffer : Buffer) :
    (bufferNeedReject buffer).2.expected = buffer.expected := by
  simp only [bufferNeedReject]
  split <;> rfl

theorem bufferHasLater_needReject (buffer : Buffer) :
    bufferHasLater (bufferNeedReject buffer).2 = bufferHasLater buffer := by
  simp only [bufferNeedReject]
  split <;> rfl

theorem bufferInv_needReject {size : Int32} {got : Nat → Option Bytes} {buffer : Buffer} :
    BufferInv size got (bufferNeedReject buffer).2 ↔ BufferInv size got buffer := by
  simp only [bufferNeedReject]
  split
  · constructor <;> intro h <;>
      exact ⟨⟨h.size_nonneg, h.length_eq, h.stores⟩, h.size_eq, h.gap, h.within⟩
  · exact Iff.rfl

theorem buffer_rejectIfNeeded {F : Type} (info : ServerInfo F) :
    (rejectIfNeeded info).buffer = (bufferNeedReject info.buffer).2 := by
  simp only [rejectIfNeeded]
  split <;> rfl

theorem outputFile_rejectIfNeeded {F : Type} (info : ServerInfo F) :
    (rejectIfNeeded info).outputFile = info.outputFile := by
  simp only [rejectIfNeeded]
  split <;> rfl

/-! ## One data packet -/

/-- What has been accepted once `packet` has arrived. -/
def accept (buffer : Buffer) (got : Nat → Option Bytes) (packet : Bytes) : Nat → Option Bytes :=
  if bufferInWindow buffer (getSeq packet) = true then
    keepFirst got (getSeq packet).toNat (packet.drop srejHeaderLen)
  else got

theorem accept_of_ne_none {got : Nat → Option Bytes} {k : Nat} (buffer : Buffer)
    (packet : Bytes) (h : got k ≠ none) : accept buffer got packet k = got k := by
  simp only [accept]
  split
  · by_cases hk : k = (getSeq packet).toNat
    · subst hk
      rw [keepFirst_of_some h]
    · exact keepFirst_of_ne hk _
  · rfl

theorem eq_of_accept {got : Nat → Option Bytes} {k : Nat} {data : Bytes} {buffer : Buffer}
    {packet : Bytes} (hold : got k = none) (h : accept buffer got packet k = some data) :
    (getSeq packet).toNat = k ∧ packet.drop srejHeaderLen = data := by
  simp only [accept] at h
  split at h
  · by_cases hk : k = (getSeq packet).toNat
    · subst hk
      rw [keepFirst_self, hold] at h
      exact ⟨rfl, Option.some.inj h⟩
    · rw [keepFirst_of_ne hk, hold] at h
      cases h
  · rw [hold] at h
    cases h

/-- What `handle_data_packet` does on a packet numbered `seq`. -/
inductive Handled {F : Type} (info : ServerInfo F) (seq : UInt32) : ServerInfo F → Prop
  | outside (hout : bufferInWindow info.buffer seq = false) : Handled info seq (sendRr info)
  | ahead (hin : bufferInWindow info.buffer seq = true) (hlt : info.buffer.expected < seq)
      (entry : List BufferEntry) :
      Handled info seq
        (rejectIfNeeded { info with buffer := { info.buffer with entry := entry } })
  | fills (hin : bufferInWindow info.buffer seq = true) (heq : seq = info.buffer.expected)
      (entry : List BufferEntry) {gap : UInt32} (hlt : info.buffer.expected < gap)
      (file : F) {filled : ServerInfo F}
      (hfilled : filled = sendRr
        { info with
          buffer := { bufferClearReject info.buffer seq with entry := entry, expected := gap }
          outputFile := file }) :
      Handled info seq
        (if bufferHasLater filled.buffer = true then rejectIfNeeded filled else filled)

theorem log_rejectIfNeeded {F : Type} (info : ServerInfo F) :
    ∃ new, (rejectIfNeeded info).log = info.log ++ new ∧ ∀ entry ∈ new,
      entry.sent = ⟨info.client,
        builtPacket info.controlSeq flagSrej (htonl info.buffer.expected)⟩ ∧
      entry.outputFile = info.outputFile := by
  simp only [rejectIfNeeded]
  split
  · refine ⟨_, rfl, fun entry hentry => ?_⟩
    rw [List.mem_singleton.mp hentry]
    simp only [bufferExpected, expected_bufferNeedReject, and_self]
  · exact ⟨[], (List.append_nil _).symm, nofun⟩

theorem client_rejectIfNeeded {F : Type} (info : ServerInfo F) :
    (rejectIfNeeded info).client = info.client := by
  simp only [rejectIfNeeded]
  split <;> rfl

theorem firstPacket_rejectIfNeeded {F : Type} (info : ServerInfo F) :
    (rejectIfNeeded info).firstPacket = info.firstPacket := by
  simp only [rejectIfNeeded]
  split <;> rfl

theorem Handled.client_eq {F : Type} {info info' : ServerInfo F} {seq : UInt32}
    (h : Handled info seq info') : info'.client = info.client := by
  cases h with
  | outside hout => rfl
  | ahead hin hlt entry => exact client_rejectIfNeeded _
  | fills hin heq entry hlt file hfilled =>
      split
      · rw [client_rejectIfNeeded, hfilled]
        rfl
      · rw [hfilled]
        rfl

theorem Handled.firstPacket_eq {F : Type} {info info' : ServerInfo F} {seq : UInt32}
    (h : Handled info seq info') : info'.firstPacket = info.firstPacket := by
  cases h with
  | outside hout => rfl
  | ahead hin hlt entry => exact firstPacket_rejectIfNeeded _
  | fills hin heq entry hlt file hfilled =>
      split
      · rw [firstPacket_rejectIfNeeded, hfilled]
        rfl
      · rw [hfilled]
        rfl

/-- A packet sent on the way: an RR or an SREJ for the new `expected`; the SREJ only with
something behind the gap. -/
def Answers {F : Type} (info info' : ServerInfo F) (seq : UInt32) (sent : Sent) : Prop :=
  sent.dst = info.client ∧ ∃ num,
    sent.packet = builtPacket num flagRr (htonl info'.buffer.expected) ∨
    (sent.packet = builtPacket num flagSrej (htonl info'.buffer.expected) ∧
      (info'.buffer.expected < seq ∧ bufferInWindow info.buffer seq = true ∨
        bufferHasLater info'.buffer = true))

theorem Handled.log {F : Type} {info info' : ServerInfo F} {seq : UInt32}
    (h : Handled info seq info') :
    ∃ new, info'.log = info.log ++ new ∧ ∀ entry ∈ new,
      Answers info info' seq entry.sent ∧ entry.outputFile = info'.outputFile := by
  cases h with
  | outside hout =>
      refine ⟨_, rfl, fun entry hentry => ?_⟩
      rw [List.mem_singleton.mp hentry]
      exact ⟨⟨rfl, _, .inl rfl⟩, rfl⟩
  | ahead hin hlt entry =>
      obtain ⟨new, hnew, hsrej⟩ :=
        log_rejectIfNeeded { info with buffer := { info.buffer with entry := entry } }
      refine ⟨new, hnew, fun entry hentry => ?_⟩
      obtain ⟨hsent, hfile⟩ := hsrej entry hentry
      rw [hsent, hfile, outputFile_rejectIfNeeded]
      refine ⟨⟨rfl, info.controlSeq, .inr ⟨?_, .inl ⟨?_, hin⟩⟩⟩, rfl⟩
      · rw [buffer_rejectIfNeeded, expected_bufferNeedReject]
      · rw [buffer_rejectIfNeeded, expected_bufferNeedReject]
        exact hlt
  | @fills hin heq entry gap hlt file filled hfilled =>
      have hclient : filled.client = info.client := by
        rw [hfilled]
        rfl
      obtain ⟨rr, hlog, num, hrr, hrrfile⟩ : ∃ rr, filled.log = info.log ++ [rr] ∧ ∃ num,
          rr.sent = ⟨info.client, builtPacket num flagRr (htonl filled.buffer.expected)⟩ ∧
          rr.outputFile = filled.outputFile := by
        rw [hfilled]
        exact ⟨_, rfl, _, rfl, rfl⟩
      split
      · rename_i hlater
        obtain ⟨new, hnew, hsrej⟩ := log_rejectIfNeeded filled
        refine ⟨rr :: new, by rw [hnew, hlog, List.append_assoc]; rfl, fun entry hentry => ?_⟩
        simp only [Answers, buffer_rejectIfNeeded, expected_bufferNeedReject,
          bufferHasLater_needReject, outputFile_rejectIfNeeded]
        rcases List.mem_cons.mp hentry with rfl | hmem
        · rw [hrr]
          exact ⟨⟨rfl, num, .inl rfl⟩, hrrfile⟩
        · obtain ⟨hsent, hfile⟩ := hsrej entry hmem
          rw [hsent]
          exact ⟨⟨hclient, _, .inr ⟨rfl, .inr hlater⟩⟩, hfile⟩
      · refine ⟨[rr], hlog, fun entry hentry => ?_⟩
        rw [List.mem_singleton.mp hentry, hrr]
        exact ⟨⟨rfl, num, .inl rfl⟩, hrrfile⟩

namespace BufferInv

variable {F : Type} {write : F → Bytes → Int × F} {size : Int32} {got : Nat → Option Bytes}
  {info : ServerInfo F}

/-- The packet that fills the gap: what it drains is written, and the gap moves. -/
theorem fill (h : BufferInv size got info.buffer)
    (hin : bufferInWindow info.buffer info.buffer.expected = true) (data : Bytes) :
    ∃ (entry : List BufferEntry) (gap : UInt32),
      (bufferWriteReady write (bufferClearReject (bufferSave info.buffer info.buffer.expected data)
          info.buffer.expected) info.outputFile).toOption
        = (drain write info.outputFile
              (pieces (keepFirst got info.buffer.expected.toNat data) info.buffer.expected.toNat
                gap.toNat)).map
            (fun file => ({ bufferClearReject info.buffer info.buffer.expected with
              entry := entry, expected := gap }, file)) ∧
      info.buffer.expected < gap ∧
      BufferInv size (keepFirst got info.buffer.expected.toNat data)
        { bufferClearReject info.buffer info.buffer.expected with
          entry := entry, expected := gap } := by
  have hsave := (h.save hin data).clearReject info.buffer.expected
  have hwithin := h.within_save hin data
  have hlength := hsave.length_eq
  rw [bufferSave_frame, bufferClearReject_entry] at hsave hlength
  have hlen : (bufferSave info.buffer info.buffer.expected data).entry.length
      = size.toInt.toNat := by
    rw [← h.size_eq, ← size_bufferClearReject info.buffer info.buffer.expected]
    exact hlength
  have hready := @BufferTable.writeReady F write info.buffer.expected.toNat _ info.outputFile _
    hsave
    (fun k hk => by
      obtain ⟨hle, hgot⟩ := of_ahead_ne_none hk
      exact ⟨hle, by rw [hlen]; exact (hwithin k hgot).2.1⟩)
    (fun k hk => (hwithin k (of_ahead_ne_none hk).2).2.2)
  rw [bufferSave_frame, bufferClearReject_entry]
  simp only [expected_bufferClearReject] at hready ⊢
  obtain ⟨gap, entry, hrun, hgap, htable⟩ := hready
  rw [pieces_ahead] at hrun
  have hfull : ∀ k, 2 ≤ k → k < info.buffer.expected.toNat →
      keepFirst got info.buffer.expected.toNat data k ≠ none :=
    fun k hlo hlt => keepFirst_ne_none (h.gap.full k hlo hlt) _ _
  have hgap' := hgap.of_ahead hfull h.gap.le
  have hle := hgap.le
  refine ⟨entry, gap, hrun, ?_, ?_⟩
  · refine UInt32.lt_iff_toNat_lt.mpr (Nat.lt_of_le_of_ne hle fun heq => ?_)
    have hmissing := hgap'.missing
    rw [← heq, keepFirst_self] at hmissing
    cases hmissing
  · refine ⟨⟨htable.size_nonneg, htable.length_eq, htable.stores.congr fun k => ?_⟩, ?_, hgap',
      fun k hk => ?_⟩
    · show _ = ahead _ gap.toNat k
      simp only [ahead]
      by_cases hk : gap.toNat ≤ k
      · rw [if_neg (by omega), if_pos (by omega), if_pos hk]
      · by_cases hk' : info.buffer.expected.toNat ≤ k
        · rw [if_pos (by omega), if_neg hk]
        · rw [if_neg (by omega), if_neg hk', if_neg hk]
    · exact (size_bufferClearReject _ _).trans h.size_eq
    · obtain ⟨h2, hhi, hsmall⟩ := hwithin k hk
      exact ⟨h2, by show _ < gap.toNat + _; omega, hsmall⟩

/-- `handle_data_packet` accepts a packet or not as the window says, and drains what lies between
`expected` and the first gap there is then. -/
theorem handle_drain (h : BufferInv size got info.buffer) (packet : Bytes) :
    ∃ gap : UInt32, IsGap (accept info.buffer got packet) 2 gap.toNat ∧
      ((drain write info.outputFile (pieces (accept info.buffer got packet)
            info.buffer.expected.toNat gap.toNat) = none ∧
          ∃ failed, handleDataPacket write info packet = .error failed) ∨
        ∃ info', drain write info.outputFile (pieces (accept info.buffer got packet)
            info.buffer.expected.toNat gap.toNat) = some info'.outputFile ∧
          handleDataPacket write info packet = .ok info' ∧ info'.buffer.expected = gap ∧
          BufferInv size (accept info.buffer got packet) info'.buffer ∧
          Handled info (getSeq packet) info') := by
  cases hin : bufferInWindow info.buffer (getSeq packet) with
  | false =>
      rw [accept, if_neg (by rw [hin]; exact Bool.false_ne_true)]
      refine ⟨info.buffer.expected, h.gap, .inr ⟨sendRr info, ?_, ?_, rfl, h, .outside hin⟩⟩
      · rw [pieces_self]
        rfl
      · simp only [handleDataPacket, hin, if_true, ite_self]
  | true =>
      have hle : info.buffer.expected ≤ getSeq packet := (of_decide_eq_true hin).1
      rw [accept, if_pos hin]
      by_cases heq : getSeq packet = info.buffer.expected
      · rw [heq] at hin ⊢
        have hirrefl : ¬ info.buffer.expected < info.buffer.expected := UInt32.lt_irrefl _
        obtain ⟨entry, gap, hrun, hlt, hinv⟩ :=
          @fill F write size got info h hin (packet.drop srejHeaderLen)
        refine ⟨gap, hinv.gap, ?_⟩
        cases hdrain : drain write info.outputFile
            (pieces (keepFirst got info.buffer.expected.toNat (packet.drop srejHeaderLen))
              info.buffer.expected.toNat gap.toNat) with
        | none =>
            rw [hdrain, Option.map_none] at hrun
            obtain ⟨failed, hfail⟩ := eq_error_of_toOption hrun
            refine .inl
              ⟨rfl, { info with buffer := failed.1, outputFile := failed.2 }, ?_⟩
            simp only [handleDataPacket, bufferExpected, expected_bufferSave, heq, hirrefl, hin,
              if_false, if_true, Bool.true_eq_false, hfail]
        | some file =>
            rw [hdrain, Option.map_some] at hrun
            have hok := eq_ok_of_toOption hrun
            refine .inr ⟨_, ?_, ?_, ?_, ?_, .fills hin rfl entry hlt file rfl⟩
            · split
              · rw [outputFile_rejectIfNeeded]
                rfl
              · rfl
            · simp only [handleDataPacket, bufferExpected, expected_bufferSave, heq, hirrefl, hin,
                if_false, if_true, Bool.true_eq_false, hok]
              split <;> rfl
            · split
              · rw [buffer_rejectIfNeeded, expected_bufferNeedReject]
                rfl
              · rfl
            · split
              · rw [buffer_rejectIfNeeded]
                exact bufferInv_needReject.mpr hinv
              · exact hinv
      · have hlt : info.buffer.expected < getSeq packet :=
          UInt32.lt_of_le_of_ne hle (Ne.symm heq)
        have hsave := h.save hin (packet.drop srejHeaderLen)
        have hframe := bufferSave_frame info.buffer (getSeq packet) (packet.drop srejHeaderLen)
        have hne : (getSeq packet).toNat ≠ info.buffer.expected.toNat :=
          fun hnat => heq (UInt32.toNat_inj.mp hnat)
        have hgap := h.gap.keepFirst hne (packet.drop srejHeaderLen)
        rw [hframe] at hsave
        refine ⟨info.buffer.expected, hgap, .inr ⟨_, ?_, ?_, ?_, ?_, .ahead hin hlt
          (bufferSave info.buffer (getSeq packet) (packet.drop srejHeaderLen)).entry⟩⟩
        · rw [outputFile_rejectIfNeeded, pieces_self]
          rfl
        · have hnlt : ¬ getSeq packet < info.buffer.expected := UInt32.not_lt.mpr hle
          simp only [handleDataPacket, bufferExpected, expected_bufferSave, hnlt, hin, heq,
            if_false, Bool.true_eq_false]
          rw [← hframe]
        · rw [buffer_rejectIfNeeded, expected_bufferNeedReject]
        · rw [buffer_rejectIfNeeded]
          exact bufferInv_needReject.mpr ⟨hsave, h.size_eq, hgap, h.within_save hin _⟩

/-- The same with the writes that were made, whatever they returned; or a `write` fails. -/
theorem handle (h : BufferInv size got info.buffer) (packet : Bytes) :
    (∃ failed, handleDataPacket write info packet = .error failed) ∨ ∃ info',
      handleDataPacket write info packet = .ok info' ∧
      BufferInv size (accept info.buffer got packet) info'.buffer ∧
      info'.outputFile = writeAll write info.outputFile
        (pieces (accept info.buffer got packet) info.buffer.expected.toNat
          info'.buffer.expected.toNat) ∧
      Handled info (getSeq packet) info' := by
  obtain ⟨gap, _, hnone | ⟨info', hdrain, hsome, rfl, hinv, hhandled⟩⟩ :=
    @handle_drain F write size got info h packet
  · exact .inl hnone.2
  · exact .inr ⟨info', hsome, hinv, drain_eq_some hdrain, hhandled⟩

theorem expected_le (h : BufferInv size got info.buffer) {packet : Bytes} {info' : ServerInfo F}
    (h' : BufferInv size (accept info.buffer got packet) info'.buffer) :
    info.buffer.expected ≤ info'.buffer.expected := by
  refine UInt32.le_iff_toNat_le.mpr (Nat.le_of_not_lt fun hlt => ?_)
  have hfull := h.gap.full _ h'.gap.le hlt
  rw [← accept_of_ne_none info.buffer packet hfull] at hfull
  exact hfull h'.gap.missing

/-- The three things `recv_data_state` does with a datagram: data, an EOF, or anything else,
of which only the source address is kept. -/
theorem recvDataRecv (h : BufferInv size got info.buffer)
    (hwrite : ∀ file data, 0 ≤ (write file data).1) (src : Addr) (packet : Bytes) :
    (checkPacket packet = true ∧ getFlag packet = flagData ∧ ∃ info',
      SelectiveReject.recvDataRecv write info src packet = ⟨.recvData, info'⟩ ∧
      BufferInv size (accept info.buffer got packet) info'.buffer ∧
      info'.outputFile = writeAll write info.outputFile
        (pieces (accept info.buffer got packet) info.buffer.expected.toNat
          info'.buffer.expected.toNat) ∧
      Handled { info with client := src } (getSeq packet) info') ∨
    (checkPacket packet = true ∧ getFlag packet = flagEof ∧
      SelectiveReject.recvDataRecv write info src packet
        = ⟨.waitOnDone, handleEofPacket { info with client := src }⟩) ∨
    ((checkPacket packet = true → getFlag packet ≠ flagData ∧ getFlag packet ≠ flagEof) ∧
      SelectiveReject.recvDataRecv write info src packet
        = ⟨.recvData, { info with client := src }⟩) := by
  simp only [SelectiveReject.recvDataRecv]
  cases hcheck : checkPacket packet with
  | false => exact .inr (.inr ⟨nofun, by rw [if_pos rfl]⟩)
  | true =>
      rw [if_neg (by decide)]
      by_cases hdata : getFlag packet = flagData
      · refine .inl ⟨rfl, hdata, ?_⟩
        rw [if_pos hdata]
        have hhandle := @handle F write size got { info with client := src } h packet
        rcases hhandle with ⟨failed, hfail⟩ | ⟨info', hsome, hinv, hfile, hhandled⟩
        · obtain ⟨file, data, hneg⟩ := (handleDataPacket_error hfail).1.exists
          exact absurd (hwrite file data) (Int.not_le.mpr hneg)
        · exact ⟨info', by rw [hsome], hinv, hfile, hhandled⟩
      · rw [if_neg hdata]
        by_cases heof : getFlag packet = flagEof
        · exact .inr (.inl ⟨rfl, heof, by rw [if_pos heof]⟩)
        · exact .inr (.inr ⟨fun _ => ⟨hdata, heof⟩, by rw [if_neg heof]⟩)

end BufferInv

theorem filenameState_recvData {F : Type} {info : ServerInfo F} {opened : Option F}
    {callocOk : Bool} (h : (filenameState info opened callocOk).state = .recvData) :
    ∃ file buffer, opened = some file ∧
      bufferInit callocOk (readU32 info.firstPacket srejHeaderLen).toInt32 2 = some buffer ∧
      (filenameState info opened callocOk).info.outputFile = file ∧
      (filenameState info opened callocOk).info.buffer = buffer := by
  cases opened with
  | none => cases h
  | some file =>
      cases hbuffer : bufferInit callocOk (readU32 info.firstPacket srejHeaderLen).toInt32 2 with
      | none =>
          simp only [filenameState, firstDataSeq, sendFilenameResponse, ServerInfo.sendControl,
            ServerInfo.safeSendto, hbuffer] at h
          cases h
      | some buffer =>
          refine ⟨file, buffer, rfl, rfl, ?_, ?_⟩ <;>
            simp only [filenameState, firstDataSeq, sendFilenameResponse, ServerInfo.sendControl,
              ServerInfo.safeSendto, hbuffer]

end SelectiveReject
