/-
# `SelectiveReject.RcopyInv` — where rcopy is, and what it has sent

One invariant of the sending program, kept by every datagram from anybody and by every
timeout (`RcopyInv.step`).  Its constructors are the places a session can be in:

    filename             waiting for a FILENAME_RESP; only FILENAME packets are out
    sendData, waitOnAck  the first `n` chunks have been read and sent
    sendEof, finished    all of them, and the window is empty
    refused, failed      process_file returned with had_error
    exited               the calloc of window_init failed

`TransferInv session n` is the part the middle ones share: the window holds data packets of the
first `n` chunks, the rest of the file is still to be read, and everything ever sent is the
FILENAME packet, one of those data packets, or (only once all is acknowledged) the EOF or
the DONE.
-/
import SelectiveReject.Rcopy
import SelectiveReject.WindowInv

namespace SelectiveReject

/-! ## The packets of a session -/

namespace Session

variable (session : Session)

def filenamePacket : Bytes :=
  builtPacket firstSeq flagFilename
    (htonl session.windowSize.toUInt32 ++ htonl session.bufferSize.toUInt32 ++
      (session.outName ++ [0]))

def dataPackets : List Bytes :=
  session.chunks.mapIdx fun i chunk => builtPacket (UInt32.ofNat (i + 2)) flagData chunk

def eofPacket : Bytes := builtPacket (UInt32.ofNat (session.chunks.length + 2)) flagEof []

def donePacket : Bytes := builtPacket (UInt32.ofNat (session.chunks.length + 2) + 1) flagDone []

theorem window_pos : 0 < session.windowSize :=
  Int32.not_le.mp fun hle => session.window_ok (.inl hle)

theorem chunk_length {chunk : Bytes} (h : chunk ∈ session.chunks) :
    1 ≤ chunk.length ∧ chunk.length ≤ srejMaxData := by
  obtain ⟨hpos, hle⟩ := session.chunks_ok chunk h
  have hbuffer : session.bufferSize.toInt ≤ 1400 :=
    Int32.le_iff_toInt_le.mp (Int32.not_lt.mp fun hlt => session.buffer_ok (.inr hlt))
  refine ⟨hpos, Nat.le_trans hle ?_⟩
  show _ ≤ 1400
  omega

@[simp] theorem length_dataPackets : session.dataPackets.length = session.chunks.length :=
  List.length_mapIdx

theorem getElem?_dataPackets (i : Nat) :
    session.dataPackets[i]?
      = session.chunks[i]?.map fun chunk => builtPacket (UInt32.ofNat (i + 2)) flagData chunk :=
  List.getElem?_mapIdx

end Session

/-! ## The invariant -/

/-- Everything is acknowledged: nothing is left in the window, and nothing to read. -/
def Closed (session : Session) (n : Nat) (window : Window) : Prop :=
  n = session.chunks.length ∧ window.lower = window.current

/-- What rcopy may have sent when `n` chunks have been read. -/
def SentPacket (session : Session) (n : Nat) (window : Window) (packet : Bytes) : Prop :=
  packet = session.filenamePacket ∨ (∃ i < n, session.dataPackets[i]? = some packet) ∨
    (Closed session n window ∧ (packet = session.eofPacket ∨ packet = session.donePacket))

/-- Before a child has accepted. -/
structure SetupInv (session : Session) (info : RcopyInfo) : Prop where
  input : info.inputFile = session.chunks.map some
  windowSize : info.windowSize = session.windowSize
  controlSeq : info.controlSeq = firstSeq
  fileDone : info.fileDone = false
  callocOk : info.callocOk = session.callocOk
  window : info.window = .null
  accepted : info.accepted = none
  sent : ∀ sent ∈ info.sent, sent.packet = session.filenamePacket

/-- After that, when `n` chunks have been read. -/
structure TransferInv (session : Session) (n : Nat) (info : RcopyInfo) : Prop where
  window : WindowInv session.windowSize (session.dataPackets.take n) info.window
  le : n ≤ session.chunks.length
  input : info.inputFile = (session.chunks.drop n).map some
  fileDone : info.fileDone = true → n = session.chunks.length
  accepted : info.accepted ≠ none
  sent : ∀ sent ∈ info.sent, SentPacket session n info.window sent.packet

/-- Where rcopy is. -/
inductive RcopyInv (session : Session) : Rcopy → Prop
  | filename {info : RcopyInfo} {tries : Nat} (h : SetupInv session info) :
      RcopyInv session ⟨.sendFilenamePacket session.filenamePacket tries, info⟩
  | refused {info : RcopyInfo} (h : SetupInv session info) (herr : info.hadError = true) :
      RcopyInv session ⟨.done, info⟩
  | exited {info : RcopyInfo} (hcalloc : session.callocOk = false)
      (hwindow : info.window = .null) (haccepted : info.accepted ≠ none)
      (hsent : ∀ sent ∈ info.sent, sent.packet = session.filenamePacket) :
      RcopyInv session ⟨.exited, info⟩
  | sendData {info : RcopyInfo} {n : Nat} (h : TransferInv session n info) :
      RcopyInv session ⟨.sendDataState, info⟩
  | waitOnAck {info : RcopyInfo} {n count : Nat} (h : TransferInv session n info) :
      RcopyInv session ⟨.waitOnAckState count, info⟩
  | sendEof {info : RcopyInfo} {n tries : Nat} (h : TransferInv session n info)
      (hclosed : Closed session n info.window) :
      RcopyInv session ⟨.sendEofState session.eofPacket tries, info⟩
  | failed {info : RcopyInfo} {n : Nat} (h : TransferInv session n info)
      (herr : info.hadError = true) : RcopyInv session ⟨.done, info⟩
  | finished {info : RcopyInfo} {n : Nat} (h : TransferInv session n info)
      (hclosed : Closed session n info.window) : RcopyInv session ⟨.done, info⟩

/-! ## The data phase -/

namespace TransferInv

variable {session : Session} {n : Nat} {info : RcopyInfo}

theorem length_take (h : TransferInv session n info) :
    (session.dataPackets.take n).length = n := by
  rw [List.length_take, session.length_dataPackets]
  exact Nat.min_eq_left h.le

theorem current_eq (h : TransferInv session n info) : info.window.current.toNat = 2 + n := by
  rw [h.window.current_eq, h.length_take]

theorem current_ofNat (h : TransferInv session n info) :
    info.window.current = UInt32.ofNat (n + 2) :=
  Counter.ofNat_eq_of_toNat (h.current_eq.trans (Nat.add_comm 2 n))

theorem safeSendto (h : TransferInv session n info) {packet : Bytes}
    (hpacket : SentPacket session n info.window packet) :
    TransferInv session n (info.safeSendto packet) := by
  refine { h with sent := fun sent hsent => ?_ }
  rcases List.mem_append.mp hsent with hold | hnew
  · exact h.sent sent hold
  · rw [List.mem_singleton.mp hnew]
    exact hpacket

/-- What the window holds may be sent again. -/
theorem sentPacket_find (h : TransferInv session n info) {seq : UInt32} {entry : WindowEntry}
    (hfind : windowFind info.window seq = some entry) :
    SentPacket session n info.window (entry.packet.take entry.packetLen) := by
  obtain ⟨packet, hget, _, hbytes⟩ := h.window.find_eq_some hfind
  rw [hbytes]
  obtain ⟨hlt, _⟩ := List.getElem?_eq_some_iff.mp hget
  rw [h.length_take] at hlt
  rw [List.getElem?_take_of_lt hlt] at hget
  exact .inr (.inl ⟨_, hlt, hget⟩)

theorem getElem?_dataPackets (h : TransferInv session n info) (hn : n < session.chunks.length) :
    session.dataPackets[n]?
      = some (builtPacket info.window.current flagData session.chunks[n]) := by
  rw [session.getElem?_dataPackets, List.getElem?_eq_getElem hn, Option.map_some,
    h.current_ofNat]

/-- Reading and sending the next chunk. -/
theorem send (h : TransferInv session n info) (hopen : windowOpen info.window = true)
    (hdone : info.fileDone = false) (hn : n < session.chunks.length) :
    TransferInv session (n + 1)
      (sendDataTurn { info with inputFile := (session.chunks.drop (n + 1)).map some }
        session.chunks[n]) := by
  have hpacket := h.getElem?_dataPackets hn
  have hadd := h.window.add hopen (builtPacket info.window.current flagData session.chunks[n])
  have htake : session.dataPackets.take (n + 1) = session.dataPackets.take n ++
      [builtPacket info.window.current flagData session.chunks[n]] := by
    rw [List.take_add_one, hpacket]
    rfl
  refine { window := ?_, le := hn, input := rfl, fileDone := ?_, accepted := h.accepted,
           sent := ?_ }
  · rw [htake]
    exact hadd
  · intro hdone'
    exact absurd (hdone.symm.trans hdone') Bool.false_ne_true
  · intro sent hsent
    rcases List.mem_append.mp hsent with hold | hnew
    · rcases h.sent sent hold with hname | ⟨i, hi, hget⟩ | ⟨hclosed, _⟩
      · exact .inl hname
      · exact .inr (.inl ⟨i, Nat.lt_succ_of_lt hi, hget⟩)
      · exact absurd hclosed.1 (Nat.ne_of_lt hn)
    · rw [List.mem_singleton.mp hnew]
      exact .inr (.inl ⟨n, Nat.lt_succ_self n, hpacket⟩)

/-- While the window is open and the file is not at its end, `send_data_state` sends. -/
theorem sendDataState_open (h : TransferInv session n info) (hopen : windowOpen info.window = true)
    (hdone : info.fileDone = false) (hn : n < session.chunks.length) :
    sendDataState info = ⟨.sendDataState, sendDataTurn
      { info with inputFile := (session.chunks.drop (n + 1)).map some } session.chunks[n]⟩ := by
  have hinput : info.inputFile
      = some session.chunks[n] :: (session.chunks.drop (n + 1)).map some := by
    rw [h.input, List.drop_eq_getElem_cons hn, List.map_cons]
  obtain ⟨b, data, hchunk⟩ := List.exists_cons_of_length_pos
    (session.chunk_length (List.getElem_mem hn)).1
  simp only [sendDataState, hopen, hdone, and_self, if_true, hinput, hchunk]

/-- `send_data_state` sends the next chunk, or leaves its loop because the window is closed or
the file at its end. -/
theorem sendDataState_cases (h : TransferInv session n info) :
    (∃ hn : n < session.chunks.length, windowOpen info.window = true ∧
      sendDataState info = ⟨.sendDataState, sendDataTurn
        { info with inputFile := (session.chunks.drop (n + 1)).map some } session.chunks[n]⟩ ∧
      TransferInv session (n + 1) (sendDataTurn
        { info with inputFile := (session.chunks.drop (n + 1)).map some } session.chunks[n])) ∨
    (∃ fileDone, sendDataState info = sendDataLeave { info with fileDone := fileDone } ∧
      TransferInv session n { info with fileDone := fileDone } ∧
      (windowOpen info.window = true → fileDone = true)) := by
  by_cases hloop : windowOpen info.window = true ∧ info.fileDone = false
  · obtain ⟨hopen, hdone⟩ := hloop
    rcases Nat.lt_or_ge n session.chunks.length with hn | hn
    · exact .inl ⟨hn, hopen, h.sendDataState_open hopen hdone hn, h.send hopen hdone hn⟩
    · refine .inr ⟨true, ?_, { h with fileDone := fun _ => Nat.le_antisymm h.le hn },
        fun _ => rfl⟩
      have hinput : info.inputFile = [] := by
        rw [h.input, List.drop_eq_nil_of_le hn]
        rfl
      simp only [sendDataState, hopen, hdone, and_self, if_true, hinput]
  · refine .inr ⟨info.fileDone, ?_, h, fun hopen => ?_⟩
    · rw [sendDataState, if_neg hloop]
    · cases hdone : info.fileDone with
      | true => rfl
      | false => exact absurd ⟨hopen, hdone⟩ hloop

theorem sendDataLeave (h : TransferInv session n info) :
    RcopyInv session (sendDataLeave info) := by
  simp only [SelectiveReject.sendDataLeave]
  split
  · rename_i hleave
    have hn := h.fileDone hleave.1
    have hclosed : Closed session n info.window := ⟨hn, of_decide_eq_true hleave.2⟩
    have heof : builtPacket info.window.current flagEof [] = session.eofPacket := by
      rw [h.current_ofNat, hn]
      rfl
    simp only [sendEofState, heof]
    exact .sendEof (h.safeSendto (.inr (.inr ⟨hclosed, .inl rfl⟩))) hclosed
  · exact .waitOnAck h

theorem sendDataState (h : TransferInv session n info) :
    RcopyInv session (sendDataState info) := by
  rcases h.sendDataState_cases with ⟨hn, _, hsend, hnext⟩ | ⟨fileDone, hleave, hnext, _⟩
  · rw [hsend]
    exact .sendData hnext
  · rw [hleave]
    exact hnext.sendDataLeave

/-- The peer, the retry counter and the error flag play no part. -/
theorem congr {info' : RcopyInfo} (h : TransferInv session n info)
    (hwindow : info'.window = info.window) (hinput : info'.inputFile = info.inputFile)
    (hdone : info'.fileDone = info.fileDone) (haccepted : info'.accepted = info.accepted)
    (hsent : info'.sent = info.sent) : TransferInv session n info' := by
  refine { window := ?_, le := h.le, input := ?_, fileDone := ?_, accepted := ?_, sent := ?_ }
  · rw [hwindow]
    exact h.window
  · rw [hinput]
    exact h.input
  · rw [hdone]
    exact h.fileDone
  · rw [haccepted]
    exact h.accepted
  · rw [hsent, hwindow]
    exact h.sent

theorem handleRr (h : TransferInv session n info) (packet : Bytes) :
    TransferInv session n (handleRr info packet) := by
  simp only [SelectiveReject.handleRr]
  split
  · exact h
  · refine { h with window := h.window.rr _, sent := fun sent hsent => ?_ }
    rcases h.sent sent hsent with hname | hdata | ⟨hclosed, hlast⟩
    · exact .inl hname
    · exact .inr (.inl hdata)
    · refine .inr (.inr ⟨⟨hclosed.1, UInt32.toNat_inj.mp ?_⟩, hlast⟩)
      -- an empty window stays empty
      rw [h.window.toNat_rr_lower, h.window.rr_current, WindowInv.rrLower, hclosed.2]
      exact max_eq_left (Nat.min_le_right _ _)

theorem resendPacket (h : TransferInv session n info) {seq : UInt32} {entry : WindowEntry}
    (hfind : windowFind info.window seq = some entry) :
    TransferInv session n (resendPacket info entry) :=
  h.safeSendto (h.sentPacket_find hfind)

theorem handleReject (h : TransferInv session n info) (packet : Bytes) :
    TransferInv session n (handleReject info packet) := by
  simp only [SelectiveReject.handleReject]
  split
  · exact h
  · split
    · rename_i entry hfind
      exact h.resendPacket hfind
    · exact h

theorem processControlsTurn (h : TransferInv session n info) (count : Nat) (src : Addr)
    (packet : Bytes) :
    TransferInv session n (processControlsTurn info count src packet).1 := by
  have h' : TransferInv session n { info with server := src } := h.congr rfl rfl rfl rfl rfl
  simp only [SelectiveReject.processControlsTurn]
  split
  · split
    · exact h'.handleRr packet
    · split
      · exact h'.handleReject packet
      · exact h'
  · exact h'

theorem waitOnAckTimeout (h : TransferInv session n info) (gotControl : Nat) :
    RcopyInv session (waitOnAckTimeout info gotControl) := by
  simp only [SelectiveReject.waitOnAckTimeout]
  split
  · have h' : TransferInv session n { info with retryCount := 0 } := h.congr rfl rfl rfl rfl rfl
    exact h'.sendDataState
  · split
    · exact h.sendDataState
    · rename_i entry hlowest
      have h' : TransferInv session n { info with retryCount := info.retryCount + 1 } :=
        h.congr rfl rfl rfl rfl rfl
      split
      · exact .failed (h.congr rfl rfl rfl rfl rfl) rfl
      · rw [h.window.lowest_eq] at hlowest
        split at hlowest
        · exact .waitOnAck (h'.resendPacket hlowest)
        · cases hlowest

end TransferInv

/-! ## Setup and teardown -/

namespace SetupInv

variable {session : Session} {info : RcopyInfo}

theorem safeSendto (h : SetupInv session info) :
    SetupInv session (info.safeSendto session.filenamePacket) := by
  refine { h with sent := fun sent hsent => ?_ }
  rcases List.mem_append.mp hsent with hold | hnew
  · exact h.sent sent hold
  · rw [List.mem_singleton.mp hnew]

theorem retry (h : SetupInv session info) (tries : Nat) :
    RcopyInv session (sendFilenameRetry info session.filenamePacket tries) := by
  simp only [sendFilenameRetry, retryLoop]
  split
  · exact .filename h.safeSendto
  · exact .refused { h with } rfl

/-- The window of an accepted session. -/
theorem windowInit (h : SetupInv session info) {window : Window}
    (hinit : windowInit info.callocOk info.windowSize (info.controlSeq + 1) = some window)
    {info' : RcopyInfo} (hwindow : info'.window = window)
    (hinput : info'.inputFile = info.inputFile) (hdone : info'.fileDone = info.fileDone)
    (haccepted : info'.accepted ≠ none) (hsent : info'.sent = info.sent) :
    TransferInv session 0 info' := by
  rw [h.windowSize, h.controlSeq] at hinit
  refine { window := ?_, le := Nat.zero_le _, input := ?_, fileDone := ?_,
           accepted := haccepted, sent := ?_ }
  · rw [hwindow]
    exact windowInv_init session.window_pos hinit
  · rw [hinput]
    exact h.input
  · rw [hdone, h.fileDone]
    nofun
  · rw [hsent]
    exact fun sent hmem => .inl (h.sent sent hmem)

theorem recv (h : SetupInv session info) (tries : Nat) (src : Addr) (inPacket : Bytes) :
    RcopyInv session (sendFilenameRecv info session.filenamePacket tries src inPacket) := by
  have h' : SetupInv session { info with server := src } := { h with }
  simp only [sendFilenameRecv]
  split
  · split
    · exact .refused { h with } rfl
    · split
      · rename_i hinit
        refine .exited ?_ h.window (Option.some_ne_none src) h.sent
        cases hok : session.callocOk with
        | false => rfl
        | true =>
            have hcalloc := @calloc_ok WindowEntry session.windowSize sizeofWindowEntry .zero
              (Int32.le_of_lt session.window_pos) (by decide)
            simp only [SelectiveReject.windowInit, h.windowSize, h.callocOk, hok, hcalloc] at hinit
            cases hinit
      · rename_i window hinit
        refine TransferInv.sendDataState (n := 0) ?_
        exact h.windowInit hinit rfl rfl rfl (Option.some_ne_none src) rfl
  · exact h'.retry tries

end SetupInv

section Step

variable {session : Session} {n : Nat} {info : RcopyInfo}

theorem TransferInv.sendEofRetry (h : TransferInv session n info)
    (hclosed : Closed session n info.window) (tries : Nat) :
    RcopyInv session (sendEofRetry info session.eofPacket tries) := by
  simp only [SelectiveReject.sendEofRetry, retryLoop]
  split
  · exact .sendEof (h.safeSendto (.inr (.inr ⟨hclosed, .inl rfl⟩))) hclosed
  · exact .failed (h.congr rfl rfl rfl rfl rfl) rfl

theorem TransferInv.sendEofRecv (h : TransferInv session n info)
    (hclosed : Closed session n info.window) (tries : Nat) (src : Addr) (inPacket : Bytes) :
    RcopyInv session (sendEofRecv info session.eofPacket tries src inPacket) := by
  have h' : TransferInv session n { info with server := src } := h.congr rfl rfl rfl rfl rfl
  simp only [SelectiveReject.sendEofRecv]
  split
  · have hdone : builtPacket (info.window.current + 1) flagDone [] = session.donePacket := by
      rw [h.current_ofNat, hclosed.1]
      rfl
    simp only [sendFinalDone, hdone]
    exact .finished (h'.safeSendto (.inr (.inr ⟨hclosed, .inr rfl⟩))) hclosed
  · exact h'.sendEofRetry hclosed tries

theorem RcopyInv.timeout {rcopy : Rcopy} (h : RcopyInv session rcopy) :
    RcopyInv session (rcopyStep rcopy .timeout) := by
  cases h with
  | filename h => exact h.retry _
  | refused h herr => exact .refused h herr
  | exited hcalloc hwindow haccepted hsent => exact .exited hcalloc hwindow haccepted hsent
  | sendData h => exact h.sendDataState
  | waitOnAck h => exact h.waitOnAckTimeout _
  | sendEof h hclosed => exact h.sendEofRetry hclosed _
  | failed h herr => exact .failed h herr
  | finished h hclosed => exact .finished h hclosed

theorem RcopyInv.recv {rcopy : Rcopy} (h : RcopyInv session rcopy) (src : Addr)
    (packet : Bytes) : RcopyInv session (rcopyStep rcopy (.recv src packet)) := by
  cases h with
  | filename h => exact h.recv _ src packet
  | refused h herr => exact .refused h herr
  | exited hcalloc hwindow haccepted hsent => exact .exited hcalloc hwindow haccepted hsent
  | sendData h => exact .sendData (h.processControlsTurn 0 src packet)
  | waitOnAck h => exact .waitOnAck (h.processControlsTurn _ src packet)
  | sendEof h hclosed => exact h.sendEofRecv hclosed _ src packet
  | failed h herr => exact .failed h herr
  | finished h hclosed => exact .finished h hclosed

theorem RcopyInv.step {rcopy : Rcopy} (h : RcopyInv session rcopy) (ev : PollEvent) :
    RcopyInv session (rcopyStep rcopy ev) := by
  cases ev with
  | timeout => exact h.timeout
  | recv src packet => exact h.recv src packet

theorem rcopyInv_start (session : Session) : RcopyInv session session.start :=
  .filename (SetupInv.safeSendto ⟨rfl, rfl, rfl, rfl, rfl, rfl, rfl, nofun⟩)

end Step

end SelectiveReject
