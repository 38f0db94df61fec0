/-
# `SelectiveReject.Buffer` — the receiver's buffer (`Buffer.c`)

A circular array of the packets that arrived ahead of `expected`, the next
sequence number to write.  `missing_seq` and `missing_active` remember the last
number that was requested with an SREJ.

The output file is not part of this record: `buffer_write_ready` takes the file
and the system's `write` as parameters, `write f d` being the value `write(2)` returns
for the bytes `d` and the file after it.
-/
import SelectiveReject.Lib.Counter
import SelectiveReject.Packet

namespace SelectiveReject

structure BufferEntry where
  seq : UInt32
  dataLen : Nat
  used : Bool
  data : Bytes
deriving DecidableEq, Repr

def BufferEntry.zero : BufferEntry := ⟨0, 0, false, List.replicate srejMaxData 0⟩

/-- `sizeof(BufferEntry)`: three 4-byte fields and 1400 bytes. -/
def sizeofBufferEntry : Nat := 1412

structure Buffer where
  entry : List BufferEntry
  size : Int32
  expected : UInt32
  missingSeq : UInt32
  missingActive : Bool
deriving DecidableEq, Repr

/-- The buffer inside a `ServerInfo` cleared by `memset`: no array yet. -/
def Buffer.null : Buffer := ⟨[], 0, 0, 0, false⟩

/-- `seq % buffer->size` -/
def Buffer.spot (buffer : Buffer) (seq : UInt32) : Nat := (seq % buffer.size.toUInt32).toNat

/-- `buffer->entry[spot]` -/
def Buffer.at (buffer : Buffer) (spot : Nat) : BufferEntry :=
  buffer.entry.getD spot BufferEntry.zero

/-- `none` is `exit(-1)` after a failed `calloc`; `ok` is the system's answer to it. -/
def bufferInit (ok : Bool) (size : Int32) (startSeq : UInt32) : Option Buffer :=
  match calloc ok size sizeofBufferEntry BufferEntry.zero with
  | none => none
  | some entry => some ⟨entry, size, startSeq, 0, false⟩

def bufferExpected (buffer : Buffer) : UInt32 := buffer.expected

def bufferInWindow (buffer : Buffer) (seq : UInt32) : Bool :=
  decide (buffer.expected ≤ seq ∧ seq < buffer.expected + buffer.size.toUInt32)

def bufferHas (buffer : Buffer) (seq : UInt32) : Bool :=
  let entry := buffer.at (buffer.spot seq)
  decide (entry.used = true ∧ entry.seq = seq)

/-- `while (count < buffer->size)`, a signed comparison. -/
def bufferHasLater (buffer : Buffer) : Bool :=
  (List.range buffer.size.toInt.toNat).any fun count =>
    decide ((buffer.at count).used = true ∧ buffer.expected < (buffer.at count).seq)

def bufferSave (buffer : Buffer) (seq : UInt32) (data : Bytes) : Buffer :=
  let spot := buffer.spot seq
  if bufferHas buffer seq = true then buffer
  else
    let old := buffer.at spot
    { buffer with entry := buffer.entry.set spot ⟨seq, data.length, true, memcpy old.data 0 data⟩ }

theorem Buffer.at_lt {buffer : Buffer} {spot : Nat} (h : (buffer.at spot).used = true) :
    spot < buffer.entry.length := by
  by_contra hlt
  rw [Buffer.at, List.getD_eq_getElem?_getD, List.getElem?_eq_none (Nat.not_lt.mp hlt)] at h
  cases h

/-- Clearing a used slot leaves fewer used ones: the reason `buffer_write_ready` ends
whatever the buffer holds. -/
theorem countP_clear_lt {buffer : Buffer} {spot : Nat} (h : (buffer.at spot).used = true) :
    (buffer.entry.set spot { buffer.at spot with used := false }).countP (·.used)
      < buffer.entry.countP (·.used) := by
  have hlt := Buffer.at_lt h
  have hget : buffer.at spot = buffer.entry[spot] := by
    rw [Buffer.at, List.getD_eq_getElem?_getD, List.getElem?_eq_getElem hlt]
    rfl
  have hused : buffer.entry[spot].used = true := hget ▸ h
  have hpos : 0 < buffer.entry.countP (·.used) :=
    List.countP_pos_iff.mpr ⟨_, List.getElem_mem hlt, hused⟩
  rw [List.countP_set hlt]
  simp only [hused, if_true, Bool.false_eq_true, if_false, Nat.add_zero]
  omega

section Write

variable {F : Type} (write : F → Bytes → Int × F)

/-- Write every ready packet in order; `error` is `exit(-1)` after `write` returned a
negative value, with the buffer and the file as they are then.  A short count is not looked
at. -/
def bufferWriteReady (buffer : Buffer) (file : F) : Except (Buffer × F) (Buffer × F) :=
  if _h : bufferHas buffer buffer.expected = true then
    let spot := buffer.spot buffer.expected
    let entry := buffer.at spot
    let (wrote, file) := write file (entry.data.take entry.dataLen)
    if wrote < 0 then .error (buffer, file)
    else
      bufferWriteReady
        { buffer with
          entry := buffer.entry.set spot { entry with used := false }
          expected := buffer.expected + 1 } file
  else .ok (buffer, file)
termination_by buffer.entry.countP (·.used)
decreasing_by
  have hused := (of_decide_eq_true _h).1
  exact countP_clear_lt hused

/-- The bytes a turn of the loop writes. -/
def Buffer.ready (buffer : Buffer) : Bytes :=
  let entry := buffer.at (buffer.spot buffer.expected)
  entry.data.take entry.dataLen

/-- The buffer behind a turn of the loop. -/
def Buffer.written (buffer : Buffer) : Buffer :=
  let spot := buffer.spot buffer.expected
  { buffer with
    entry := buffer.entry.set spot { buffer.at spot with used := false }
    expected := buffer.expected + 1 }

variable {write}

theorem bufferWriteReady_of_has {buffer : Buffer} {file : F}
    (h : bufferHas buffer buffer.expected = true) :
    bufferWriteReady write buffer file
      = if (write file buffer.ready).1 < 0 then .error (buffer, (write file buffer.ready).2)
        else bufferWriteReady write buffer.written (write file buffer.ready).2 := by
  rw [bufferWriteReady, dif_pos h]
  rfl

theorem bufferWriteReady_of_not_has {buffer : Buffer} {file : F}
    (h : ¬ bufferHas buffer buffer.expected = true) :
    bufferWriteReady write buffer file = .ok (buffer, file) := by
  rw [bufferWriteReady, dif_neg h]

end Write

/-- The request flag before and after: `1` means the SREJ has to be sent. -/
def bufferNeedReject (buffer : Buffer) : Bool × Buffer :=
  if buffer.missingActive = false ∨ buffer.missingSeq ≠ buffer.expected then
    (true, { buffer with missingActive := true, missingSeq := buffer.expected })
  else (false, buffer)

def bufferClearReject (buffer : Buffer) (seq : UInt32) : Buffer :=
  if buffer.missingActive = true ∧ buffer.missingSeq = seq then
    { buffer with missingActive := false }
  else buffer

end SelectiveReject
