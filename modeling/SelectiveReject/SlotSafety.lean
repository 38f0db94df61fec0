/-
# `SelectiveReject.SlotSafety` — a child never leaves its array

The model reads `seq % size` and `entry[spot]` as total functions; the C program does not.  Here
the functions of `Buffer.c` are written a second time with the three things that would be
undefined behaviour turned into faults:

    moduloZero    seq % buffer->size with a size of zero
    slotOutside   entry[spot] with a spot that is not in 0..size-1
    copyOutside   a payload copied, or written, with a length not in 0..SREJ_MAX_DATA

and `slots_safe` says that a child whose FILENAME packet carries any window size at all, fed
any datagrams, never meets one: the checked program and the model agree on every run.

What saves it is indirect.  A negative size never gets past `calloc`, and with size zero
`buffer_in_window` refuses everything before a slot is computed (`pos_of_inWindow`).
-/
import SelectiveReject.BufferInv
import SelectiveReject.FirstPacket
import SelectiveReject.Lib.Machine

namespace SelectiveReject

open Machine

/-! ## The checked program -/

inductive Fault where
  | moduloZero
  | slotOutside
  | copyOutside
deriving DecidableEq, Repr

/-- `entry[spot]` -/
def Buffer.atChecked (buffer : Buffer) (spot : Nat) : Except Fault BufferEntry :=
  if (spot : Int) < buffer.size.toInt ∧ spot < buffer.entry.length then .ok (buffer.at spot)
  else .error .slotOutside

/-- `seq % buffer->size`, an unsigned division. -/
def Buffer.spotChecked (buffer : Buffer) (seq : UInt32) : Except Fault Nat :=
  if buffer.size.toUInt32 = 0 then .error .moduloZero else .ok (buffer.spot seq)

/-- A `memcpy` or `write` of `len` bytes of payload. -/
def copyChecked (len : Int) : Except Fault Unit :=
  if 0 ≤ len ∧ len ≤ srejMaxData then .ok () else .error .copyOutside

def bufferHasChecked (buffer : Buffer) (seq : UInt32) : Except Fault Bool := do
  let spot ← buffer.spotChecked seq
  let entry ← buffer.atChecked spot
  return decide (entry.used = true ∧ entry.seq = seq)

/-- The loop of `buffer_has_later`, over the counts that are left. -/
def bufferHasLaterChecked (buffer : Buffer) : List Nat → Except Fault Bool
  | [] => return false
  | count :: counts => do
      let entry ← buffer.atChecked count
      if entry.used = true ∧ buffer.expected < entry.seq then return true
      bufferHasLaterChecked buffer counts

def bufferSaveChecked (buffer : Buffer) (seq : UInt32) (data : Bytes) (dataLen : Int) :
    Except Fault Buffer := do
  let spot ← buffer.spotChecked seq
  if ← bufferHasChecked buffer seq then return buffer
  let old ← buffer.atChecked spot
  copyChecked dataLen
  return { buffer with
    entry := buffer.entry.set spot ⟨seq, data.length, true, memcpy old.data 0 data⟩ }

section Write

variable {F : Type} (write : F → Bytes → Int × F)

def bufferWriteReadyChecked (buffer : Buffer) (file : F) :
    Except Fault (Except (Buffer × F) (Buffer × F)) := do
  let _ ← bufferHasChecked buffer buffer.expected
  if _h : bufferHas buffer buffer.expected = true then
    let spot ← buffer.spotChecked buffer.expected
    let entry ← buffer.atChecked spot
    copyChecked entry.dataLen
    let (wrote, file) := write file (entry.data.take entry.dataLen)
    if wrote < 0 then return .error (buffer, file)
    bufferWriteReadyChecked
      { buffer with
        entry := buffer.entry.set (buffer.spot buffer.expected)
          { buffer.at (buffer.spot buffer.expected) with used := false }
        expected := buffer.expected + 1 } file
  else return .ok (buffer, file)
termination_by buffer.entry.countP (·.used)
decreasing_by
  exact countP_clear_lt (of_decide_eq_true _h).1

def handleDataPacketChecked (info : ServerInfo F) (packet : Bytes) :
    Except Fault (Except (ServerInfo F) (ServerInfo F)) := do
  let seq := getSeq packet
  let dataLen : Int := packet.length - srejHeaderLen
  let data := packet.drop srejHeaderLen
  if seq < bufferExpected info.buffer then return .ok (sendRr info)
  if bufferInWindow info.buffer seq = false then return .ok (sendRr info)
  let buffer ← bufferSaveChecked info.buffer seq data dataLen
  let info := { info with buffer := buffer }
  if seq = bufferExpected info.buffer then
    let buffer := bufferClearReject info.buffer seq
    match ← bufferWriteReadyChecked write buffer info.outputFile with
    | .error (buffer, file) => return .error { info with buffer := buffer, outputFile := file }
    | .ok (buffer, file) =>
        let info := sendRr { info with buffer := buffer, outputFile := file }
        let later ← bufferHasLaterChecked info.buffer
          (List.range info.buffer.size.toInt.toNat)
        if later then return .ok (rejectIfNeeded info) else return .ok info
  else return .ok (rejectIfNeeded info)

def recvDataRecvChecked (info : ServerInfo F) (src : Addr) (packet : Bytes) :
    Except Fault (Child F) := do
  let info := { info with client := src }
  if checkPacket packet = false then return ⟨.recvData, info⟩
  if getFlag packet = flagData then
    match ← handleDataPacketChecked write info packet with
    | .error info => return ⟨.exited, info⟩
    | .ok info => return ⟨.recvData, info⟩
  if getFlag packet = flagEof then return ⟨.waitOnDone, handleEofPacket info⟩
  return ⟨.recvData, info⟩

/-- No other state touches the buffer. -/
def childStepChecked (child : Child F) (ev : PollEvent) : Except Fault (Child F) :=
  match child.state, ev with
  | .recvData, .recv src packet => recvDataRecvChecked write child.info src packet
  | _, _ => return childStep write child ev

end Write

/-! ## The shape of the array -/

/-- As many entries as the size says, none with more payload than it has room for. -/
structure BufferShape (buffer : Buffer) : Prop where
  size_nonneg : 0 ≤ buffer.size
  length_eq : buffer.entry.length = buffer.size.toInt.toNat
  dataLen_le : ∀ entry ∈ buffer.entry, entry.dataLen ≤ srejMaxData

/-- With size zero the window is empty. -/
theorem pos_of_inWindow {buffer : Buffer} {seq : UInt32} (h : bufferInWindow buffer seq = true) :
    buffer.size ≠ 0 := by
  intro hzero
  obtain ⟨hle, hlt⟩ := of_decide_eq_true h
  rw [hzero] at hlt
  have hadd : buffer.expected + (0 : Int32).toUInt32 = buffer.expected := UInt32.add_zero _
  rw [hadd] at hlt
  exact UInt32.not_lt.mpr hle hlt

namespace BufferShape

variable {buffer : Buffer}

theorem at_dataLen (h : BufferShape buffer) (spot : Nat) :
    (buffer.at spot).dataLen ≤ srejMaxData := by
  rw [Buffer.at, List.getD_eq_getElem?_getD]
  cases hget : buffer.entry[spot]? with
  | none => exact Nat.zero_le _
  | some entry => exact h.dataLen_le entry (List.mem_of_getElem? hget)

/-- The other fields play no part. -/
theorem congr (h : BufferShape buffer) {buffer' : Buffer} (hsize : buffer'.size = buffer.size)
    (hentry : buffer'.entry = buffer.entry) : BufferShape buffer' := by
  refine ⟨?_, ?_, ?_⟩
  · rw [hsize]
    exact h.size_nonneg
  · rw [hentry, hsize]
    exact h.length_eq
  · rw [hentry]
    exact h.dataLen_le

theorem set (h : BufferShape buffer) (spot : Nat) {entry : BufferEntry}
    (hlen : entry.dataLen ≤ srejMaxData) :
    BufferShape { buffer with entry := buffer.entry.set spot entry } := by
  refine ⟨h.size_nonneg, List.length_set.trans h.length_eq, fun e he => ?_⟩
  rcases List.mem_or_eq_of_mem_set he with hold | rfl
  · exact h.dataLen_le e hold
  · exact hlen

theorem clear (h : BufferShape buffer) :
    BufferShape
      { buffer with
        entry := buffer.entry.set (buffer.spot buffer.expected)
          { buffer.at (buffer.spot buffer.expected) with used := false }
        expected := buffer.expected + 1 } := by
  have hset := @BufferShape.set buffer h (buffer.spot buffer.expected)
    { buffer.at (buffer.spot buffer.expected) with used := false } (h.at_dataLen _)
  exact hset.congr rfl rfl

theorem atChecked_eq (h : BufferShape buffer) {spot : Nat} (hspot : spot < buffer.entry.length) :
    buffer.atChecked spot = .ok (buffer.at spot) := by
  have hlen := h.length_eq
  rw [Buffer.atChecked, if_pos ⟨by omega, hspot⟩]

theorem toUInt32_size (h : BufferShape buffer) :
    buffer.size.toUInt32.toNat = buffer.entry.length := by
  rw [h.length_eq, Counter.toNat_toUInt32 h.size_nonneg]

/-- With a size that is not zero there is a slot for every number. -/
theorem length_pos (h : BufferShape buffer) (hpos : buffer.size ≠ 0) : 0 < buffer.entry.length := by
  have hnonneg : (0 : Int) ≤ buffer.size.toInt := Int32.le_iff_toInt_le.mp h.size_nonneg
  have hne : buffer.size.toInt ≠ 0 := fun hzero => hpos (Int32.toInt_inj.mp hzero)
  have hlen := h.length_eq
  omega

theorem spotChecked_eq (h : BufferShape buffer) (hpos : buffer.size ≠ 0) (seq : UInt32) :
    buffer.spotChecked seq = .ok (buffer.spot seq) := by
  have hlen := h.length_pos hpos
  rw [Buffer.spotChecked, if_neg]
  intro hzero
  rw [← h.toUInt32_size, hzero] at hlen
  exact Nat.lt_irrefl _ hlen

theorem spot_lt (h : BufferShape buffer) (hpos : buffer.size ≠ 0) (seq : UInt32) :
    buffer.spot seq < buffer.entry.length := by
  rw [Buffer.spot, UInt32.toNat_mod, h.toUInt32_size]
  exact Nat.mod_lt _ (h.length_pos hpos)

theorem bufferHasChecked_eq (h : BufferShape buffer) (hpos : buffer.size ≠ 0) (seq : UInt32) :
    bufferHasChecked buffer seq = .ok (bufferHas buffer seq) := by
  rw [bufferHasChecked, h.spotChecked_eq hpos]
  show (buffer.atChecked (buffer.spot seq) >>= _) = _
  rw [h.atChecked_eq (h.spot_lt hpos seq)]
  rfl

theorem bufferHasLaterChecked_eq (h : BufferShape buffer) : ∀ {counts : List Nat},
    (∀ count ∈ counts, count < buffer.entry.length) →
    bufferHasLaterChecked buffer counts = .ok (counts.any fun count =>
      decide ((buffer.at count).used = true ∧ buffer.expected < (buffer.at count).seq))
  | [], _ => rfl
  | count :: counts, hcounts => by
      have hrest := h.bufferHasLaterChecked_eq fun c hc => hcounts c (List.mem_cons_of_mem _ hc)
      rw [bufferHasLaterChecked, h.atChecked_eq (hcounts count List.mem_cons_self), List.any_cons]
      show (if _ then _ else _) = _
      split
      · rename_i hlater
        rw [decide_eq_true hlater]
        rfl
      · rename_i hnot
        rw [decide_eq_false hnot, Bool.false_or]
        exact hrest

end BufferShape

/-! ## One data packet -/

section Write

variable {F : Type} (write : F → Bytes → Int × F) {buffer : Buffer}

theorem bufferShape_init {ok : Bool} {size : Int32} {startSeq : UInt32}
    (h : bufferInit ok size startSeq = some buffer) : BufferShape buffer := by
  obtain ⟨hsize, rfl⟩ := bufferInit_eq_some h
  refine ⟨hsize, List.length_replicate, fun entry hentry => ?_⟩
  rw [List.eq_of_mem_replicate hentry]
  exact Nat.zero_le _

theorem BufferShape.save (h : BufferShape buffer) (hpos : buffer.size ≠ 0) (seq : UInt32)
    {data : Bytes} (hlen : data.length ≤ srejMaxData) :
    bufferSaveChecked buffer seq data data.length = .ok (bufferSave buffer seq data) ∧
      BufferShape (bufferSave buffer seq data) := by
  have hcopy : copyChecked data.length = .ok () :=
    if_pos ⟨Int.natCast_nonneg _, Int.ofNat_le.mpr hlen⟩
  simp only [bufferSaveChecked, h.spotChecked_eq hpos, h.bufferHasChecked_eq hpos,
    h.atChecked_eq (h.spot_lt hpos seq), hcopy, bufferSave, bind, Except.bind]
  split
  · exact ⟨rfl, h⟩
  · exact ⟨rfl, h.set _ hlen⟩

theorem BufferShape.clearReject (h : BufferShape buffer) (seq : UInt32) :
    BufferShape (bufferClearReject buffer seq) := by
  simp only [bufferClearReject]
  split
  · exact h.congr rfl rfl
  · exact h

theorem BufferShape.needReject (h : BufferShape buffer) :
    BufferShape (bufferNeedReject buffer).2 := by
  simp only [bufferNeedReject]
  split
  · exact h.congr rfl rfl
  · exact h

theorem BufferShape.rejectIfNeeded {info : ServerInfo F} (h : BufferShape info.buffer) :
    BufferShape (rejectIfNeeded info).buffer := by
  rw [buffer_rejectIfNeeded]
  exact h.needReject

/-- The loop of `buffer_write_ready`, with its test before every turn. -/
theorem BufferShape.writeReady (h : BufferShape buffer) (hpos : buffer.size ≠ 0) (file : F) :
    bufferWriteReadyChecked write buffer file = .ok (bufferWriteReady write buffer file) ∧
      ∀ ready, bufferWriteReady write buffer file = .ok ready → BufferShape ready.1 := by
  induction buffer, file using bufferWriteReady.induct write with
  | case1 buffer file hhas spot entry wrote file' hwrite hneg =>
      have hcopy : copyChecked (buffer.at (buffer.spot buffer.expected)).dataLen = .ok () :=
        if_pos ⟨Int.natCast_nonneg _, Int.ofNat_le.mpr (h.at_dataLen _)⟩
      have hready : write file buffer.ready = (wrote, file') := hwrite
      have hfail : bufferWriteReady write buffer file = .error (buffer, file') := by
        rw [bufferWriteReady_of_has hhas, hready, if_pos hneg]
      rw [hfail, bufferWriteReadyChecked]
      refine ⟨?_, fun ready hready => by cases hready⟩
      simp only [entry, spot] at hwrite
      simp only [h.bufferHasChecked_eq hpos, h.spotChecked_eq hpos,
        h.atChecked_eq (h.spot_lt hpos _), hcopy, bind, Except.bind, dif_pos hhas, hwrite,
        if_pos hneg]
      rfl
  | case2 buffer file hhas spot entry wrote file' hwrite hneg ih =>
      have hcopy : copyChecked (buffer.at (buffer.spot buffer.expected)).dataLen = .ok () :=
        if_pos ⟨Int.natCast_nonneg _, Int.ofNat_le.mpr (h.at_dataLen _)⟩
      have hnext := ih h.clear hpos
      simp only [entry, spot] at hwrite hnext
      have hready : write file buffer.ready = (wrote, file') := hwrite
      have hgo : bufferWriteReady write buffer file
          = bufferWriteReady write buffer.written file' := by
        rw [bufferWriteReady_of_has hhas, hready, if_neg hneg]
      rw [hgo, bufferWriteReadyChecked]
      refine ⟨?_, hnext.2⟩
      simp only [h.bufferHasChecked_eq hpos, h.spotChecked_eq hpos,
        h.atChecked_eq (h.spot_lt hpos _), hcopy, bind, Except.bind, dif_pos hhas, hwrite,
        if_neg hneg]
      exact hnext.1
  | case3 buffer file hhas =>
      have hstop : bufferWriteReady write buffer file = .ok (buffer, file) :=
        bufferWriteReady_of_not_has hhas
      rw [hstop, bufferWriteReadyChecked]
      refine ⟨?_, fun ready hready => ?_⟩
      · simp only [h.bufferHasChecked_eq hpos, bind, Except.bind, dif_neg hhas]
        rfl
      · obtain rfl := Except.ok.inj hready
        exact h

/-- `handle_data_packet` on a datagram that has passed `check_packet`. -/
theorem BufferShape.handle {info : ServerInfo F} (h : BufferShape info.buffer) {packet : Bytes}
    (hlo : srejHeaderLen ≤ packet.length) (hhi : packet.length ≤ srejMaxPacket) :
    handleDataPacketChecked write info packet = .ok (handleDataPacket write info packet) ∧
      ∀ info', handleDataPacket write info packet = .ok info' → BufferShape info'.buffer := by
  have hlen : (packet.drop srejHeaderLen).length ≤ srejMaxData := by
    rw [List.length_drop]
    simp only [srejHeaderLen, srejMaxPacket, srejMaxData] at *
    omega
  have hdataLen : (packet.length : Int) - srejHeaderLen
      = ((packet.drop srejHeaderLen).length : Nat) := by
    rw [List.length_drop]
    omega
  by_cases hold : getSeq packet < bufferExpected info.buffer
  · have hrr : handleDataPacket write info packet = .ok (sendRr info) := by
      simp only [handleDataPacket, if_pos hold]
    rw [hrr, handleDataPacketChecked]
    refine ⟨by simp only [if_pos hold]; rfl, fun info' hinfo' => ?_⟩
    obtain rfl := Except.ok.inj hinfo'
    exact h
  · cases hin : bufferInWindow info.buffer (getSeq packet) with
    | false =>
        have hrr : handleDataPacket write info packet = .ok (sendRr info) := by
          simp only [handleDataPacket, if_neg hold, hin, if_true]
        rw [hrr, handleDataPacketChecked]
        refine ⟨by simp only [if_neg hold, hin, if_true]; rfl, fun info' hinfo' => ?_⟩
        obtain rfl := Except.ok.inj hinfo'
        exact h
    | true =>
        -- only now is a slot computed, and the size is not zero
        have hpos := pos_of_inWindow hin
        obtain ⟨hsaved, hshape⟩ := h.save hpos (getSeq packet) hlen
        have hsize : (bufferSave info.buffer (getSeq packet)
            (packet.drop srejHeaderLen)).size ≠ 0 := by
          rw [bufferSave_frame]
          exact hpos
        have hready := (hshape.clearReject (getSeq packet)).writeReady write
          (by rw [size_bufferClearReject]; exact hsize) info.outputFile
        obtain ⟨hrun, hshapes⟩ := hready
        simp only [handleDataPacketChecked, handleDataPacket, if_neg hold, hin, hdataLen, hsaved,
          bind, Except.bind, Bool.true_eq_false, if_false]
        by_cases hfills : getSeq packet = bufferExpected
            (bufferSave info.buffer (getSeq packet) (packet.drop srejHeaderLen))
        · simp only [if_pos hfills, hrun]
          cases hwritten : bufferWriteReady write
              (bufferClearReject (bufferSave info.buffer (getSeq packet)
                (packet.drop srejHeaderLen)) (getSeq packet)) info.outputFile with
          | error failed => exact ⟨rfl, fun info' hinfo' => by cases hinfo'⟩
          | ok ready =>
              obtain ⟨buffer, file⟩ := ready
              have hready : BufferShape buffer := hshapes (buffer, file) hwritten
              have hlater : bufferHasLaterChecked buffer (List.range buffer.size.toInt.toNat)
                  = .ok (bufferHasLater buffer) :=
                hready.bufferHasLaterChecked_eq fun count hcount => by
                  rw [hready.length_eq]
                  exact List.mem_range.mp hcount
              generalize hfilled : sendRr
                { info with buffer := buffer, outputFile := file } = filled at *
              have hbuffer : filled.buffer = buffer := by
                rw [← hfilled]
                rfl
              rw [← hbuffer] at hlater hready
              simp only [hfilled, hlater]
              by_cases hmore : bufferHasLater filled.buffer = true
              · simp only [if_pos hmore]
                refine ⟨rfl, fun info' hinfo' => ?_⟩
                obtain rfl := Except.ok.inj hinfo'
                exact BufferShape.rejectIfNeeded hready
              · simp only [if_neg hmore]
                refine ⟨rfl, fun info' hinfo' => ?_⟩
                obtain rfl := Except.ok.inj hinfo'
                exact hready
        · simp only [if_neg hfills]
          refine ⟨rfl, fun info' hinfo' => ?_⟩
          obtain rfl := Except.ok.inj hinfo'
          exact BufferShape.rejectIfNeeded hshape

/-! ## Every run -/

/-- A child that waits for data has an array of the right shape. -/
def ChildShape (child : Child F) : Prop := child.state = .recvData → BufferShape child.info.buffer

theorem childShape_of_ne {state : ServerAt} {info : ServerInfo F} (h : state ≠ .recvData) :
    ChildShape ⟨state, info⟩ :=
  fun hstate => absurd hstate h

theorem recvDataRecvChecked_eq {info : ServerInfo F} {src : Addr} {packet : Bytes}
    (h : checkPacket packet = true →
      handleDataPacketChecked write { info with client := src } packet
        = .ok (handleDataPacket write { info with client := src } packet)) :
    recvDataRecvChecked write info src packet = .ok (recvDataRecv write info src packet) := by
  rw [recvDataRecvChecked, recvDataRecv]
  cases hcheck : checkPacket packet with
  | false => rfl
  | true =>
      have hhandle := h hcheck
      generalize ({ info with client := src } : ServerInfo F) = info at hhandle ⊢
      have hne : ¬ true = false := Bool.noConfusion
      simp only [if_neg hne]
      split
      · rw [hhandle]
        cases handleDataPacket write info packet with
        | error info' => rfl
        | ok info' => rfl
      · split
        · rfl
        · rfl

theorem childShape_recvDataRecv {info : ServerInfo F} (h : BufferShape info.buffer) {src : Addr}
    {packet : Bytes}
    (hnext : checkPacket packet = true →
      ∀ info', handleDataPacket write { info with client := src } packet = .ok info' →
        BufferShape info'.buffer) :
    ChildShape (recvDataRecv write info src packet) := by
  rw [recvDataRecv]
  cases hcheck : checkPacket packet with
  | false => exact fun _ => h
  | true =>
      have hinfo := hnext hcheck
      have hshape : BufferShape ({ info with client := src } : ServerInfo F).buffer := h
      generalize ({ info with client := src } : ServerInfo F) = info at hinfo hshape ⊢
      have hne : ¬ true = false := Bool.noConfusion
      simp only [if_neg hne]
      split
      · cases hhandle : handleDataPacket write info packet with
        | error info' => exact childShape_of_ne fun hstate => by cases hstate
        | ok info' => exact fun _ => hinfo info' hhandle
      · split
        · exact childShape_of_ne fun hstate => by cases hstate
        · exact fun _ => hshape

theorem ChildShape.step {child : Child F} (h : ChildShape child) {ev : PollEvent}
    (hev : ∀ src packet, ev = .recv src packet → packet.length ≤ srejMaxPacket) :
    childStepChecked write child ev = .ok (childStep write child ev) ∧
      ChildShape (childStep write child ev) := by
  obtain ⟨state, info⟩ := child
  cases state with
  | filename => cases ev <;> exact ⟨rfl, childShape_of_ne (by decide)⟩
  | done => cases ev <;> exact ⟨rfl, childShape_of_ne (by decide)⟩
  | exited => cases ev <;> exact ⟨rfl, childShape_of_ne (by decide)⟩
  | waitOnDone =>
      refine ⟨by cases ev <;> rfl, fun hstate => ?_⟩
      cases ev with
      | timeout =>
          simp only [childStep, waitOnDoneTimeout] at hstate
          split at hstate <;> cases hstate
      | recv src packet =>
          simp only [childStep, waitOnDoneRecv] at hstate
          split at hstate
          · cases hstate
          · split at hstate
            · cases hstate
            · split at hstate <;> cases hstate
  | recvData =>
      have hshape : BufferShape info.buffer := h rfl
      cases ev with
      | timeout => exact ⟨rfl, childShape_of_ne (by decide)⟩
      | recv src packet =>
          have hhandle (hcheck : checkPacket packet = true) :=
            @BufferShape.handle F write { info with client := src } hshape packet
              (checkPacket_eq_true.mp hcheck).1 (hev src packet rfl)
          exact ⟨recvDataRecvChecked_eq write fun hcheck => (hhandle hcheck).1,
            childShape_recvDataRecv write hshape fun hcheck => (hhandle hcheck).2⟩

theorem ChildShape.run : ∀ (events : List PollEvent) {child : Child F}, ChildShape child →
    (∀ src packet, .recv src packet ∈ events → packet.length ≤ srejMaxPacket) →
    events.foldlM (childStepChecked write) child = .ok (feed (childStep write) child events)
  | [], _, _, _ => rfl
  | ev :: events, child, h, hevents => by
      have hfirst : ∀ src packet, ev = .recv src packet → packet.length ≤ srejMaxPacket :=
        fun src packet hev => hevents src packet (hev ▸ List.mem_cons_self)
      obtain ⟨hstep, hnext⟩ := h.step write hfirst
      rw [List.foldlM_cons, hstep, feed_cons]
      exact hnext.run events fun src packet hmem =>
        hevents src packet (List.mem_cons_of_mem _ hmem)

theorem childShape_setup (packet : Bytes) (client : Addr) (unopened : F) (opened : Option F)
    (callocOk : Bool) :
    ChildShape (childSetup (processClient packet client unopened) opened callocOk) := by
  have hsetup : childSetup (processClient packet client unopened) opened callocOk
      = filenameState (processClient packet client unopened).info opened callocOk := rfl
  rw [hsetup]
  intro hstate
  obtain ⟨file, buffer, _, hinit, _, hbuffer⟩ := filenameState_recvData hstate
  rw [hbuffer]
  exact bufferShape_init hinit

/-- A child forked for any datagram, with any answers from the system, meets no fault on any
events. -/
theorem slots_safe {packet : Bytes} {client : Addr} {unopened : F} {child : Child F}
    (haccepted : processServer packet client unopened = some child) (opened : Option F)
    (callocOk : Bool) {events : List PollEvent}
    (hevents : ∀ src packet, .recv src packet ∈ events → packet.length ≤ srejMaxPacket) :
    events.foldlM (childStepChecked write) (childSetup child opened callocOk)
      = .ok (feed (childStep write) (childSetup child opened callocOk) events) := by
  rw [eq_of_accepted haccepted]
  exact (childShape_setup packet client unopened opened callocOk).run write events hevents

end Write

/-- A window of zero: data arrives, and no slot is computed. -/
theorem slots_safe_zero :
    let child := processClient (builtPacket 1 flagFilename (filenamePayload 0 1 [111])) .rcopy
      (⟨[], 0⟩ : OutFile)
    [PollEvent.recv .rcopy (builtPacket 2 flagData [65])].foldlM
        (childStepChecked OutFile.write) (childSetup child (some ⟨[], 0⟩) true)
      = .ok (feed (childStep OutFile.write) (childSetup child (some ⟨[], 0⟩) true)
          [PollEvent.recv .rcopy (builtPacket 2 flagData [65])]) := by
  intro child
  refine @slots_safe OutFile OutFile.write (builtPacket 1 flagFilename (filenamePayload 0 1 [111]))
    .rcopy ⟨[], 0⟩ child (by decide +kernel) _ _ _ fun src packet hmem => ?_
  obtain ⟨rfl, rfl⟩ := PollEvent.recv.inj (List.mem_singleton.mp hmem)
  decide +kernel

end SelectiveReject
