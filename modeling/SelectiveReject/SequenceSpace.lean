/-
# `SelectiveReject.SequenceSpace` — where the 32-bit numbers end

Both sides compare a sequence number with a bound computed modulo `2 ^ 32`: `window_open` tests
`current < lower + size`, `buffer_in_window` tests `seq < expected + size`.  While the bound does
not wrap, an empty window is open, and `expected` is inside the receiver's window.  Once it does,
both tests fail for everything: rcopy has nothing outstanding, may not send, and goes back and forth
between two states, with no retry to count.

    sequence_space_iff     no run comes to that iff the session fits, chunks + W + 2 < 2^32,
                           or rcopy gets no memory for its window
    sequence_space_wedged  a session that does not fit, at the end of the numbers

A run that gets there goes in lockstep: a chunk is sent, stored and acknowledged, and then the
next one (`Lockstep.next`), by induction for as many chunks as the numbers last.
-/
import SelectiveReject.EndToEnd
import SelectiveReject.RoundTrip
import SelectiveReject.Admission
import SelectiveReject.Terminate

namespace SelectiveReject

open Machine Reassembly

/-- Nothing outstanding and data still to read: it is `send_data_state` that has to act. -/
def Rcopy.MustSend (rcopy : Rcopy) : Prop :=
  (rcopy.state = .sendDataState ∨ ∃ count, rcopy.state = .waitOnAckState count) ∧
    windowEmpty rcopy.info.window = true ∧ rcopy.info.fileDone = false

/-- The three things that keep a session moving. -/
structure Moves (net : Network) : Prop where
  isOpen : net.rcopy.info.window ≠ .null → windowEmpty net.rcopy.info.window = true →
    windowOpen net.rcopy.info.window = true
  acts : net.rcopy.MustSend → ¬ (rcopyStep net.rcopy .timeout).MustSend
  takes : ∀ child ∈ net.children, child.info.buffer ≠ .null →
    bufferInWindow child.info.buffer (bufferExpected child.info.buffer) = true

/-! ## Two states with nothing to do -/

theorem windowLowest_of_empty {window : Window} (h : windowEmpty window = true) :
    windowLowest window = none := by
  have hlower : window.lower = window.current := of_decide_eq_true h
  rw [windowLowest, windowLowestFrom, dif_neg]
  rw [hlower]
  exact UInt32.lt_irrefl _

/-- `send_data_state` on an open window sends, stops reading, or fails. -/
theorem not_mustSend_of_open {info : RcopyInfo} (hopen : windowOpen info.window = true)
    (hempty : windowEmpty info.window = true) (hdone : info.fileDone = false) :
    ¬ (sendDataState info).MustSend := by
  have heof : ∀ info : RcopyInfo, windowEmpty info.window = true → info.fileDone = true →
      ¬ (sendDataLeave info).MustSend := by
    intro info hempty hdone hmust
    rw [sendDataLeave, if_pos ⟨hdone, hempty⟩] at hmust
    rcases hmust.1 with hstate | ⟨count, hstate⟩
    · cases hstate
    · cases hstate
  rw [sendDataState, if_pos ⟨hopen, hdone⟩]
  split
  · exact heof _ hempty rfl
  · rintro ⟨hstate | ⟨count, hstate⟩, _⟩
    · cases hstate
    · cases hstate
  · exact heof _ hempty rfl
  · rintro ⟨_, hempty', _⟩
    -- the packet just added is outstanding
    have hlower : info.window.lower = info.window.current := of_decide_eq_true hempty
    have hnext : (windowAdd info.window info.window.current _).lower
        = (windowAdd info.window info.window.current _).current := of_decide_eq_true hempty'
    rw [WindowInv.add_lower, WindowInv.add_current, hlower] at hnext
    have hnat := congrArg UInt32.toNat hnext
    rw [UInt32.toNat_add, UInt32.toNat_one] at hnat
    omega

theorem sendDataState_of_closed {info : RcopyInfo} (hclosed : windowOpen info.window = false)
    (hdone : info.fileDone = false) : sendDataState info = ⟨.waitOnAckState 0, info⟩ := by
  have hloop : ¬ (windowOpen info.window = true ∧ info.fileDone = false) := by
    intro hloop
    rw [hclosed] at hloop
    exact absurd hloop.1 Bool.false_ne_true
  have hleave : ¬ (info.fileDone = true ∧ windowEmpty info.window = true) := by
    intro hleave
    rw [hdone] at hleave
    exact absurd hleave.1 Bool.false_ne_true
  rw [sendDataState, if_neg hloop, sendDataLeave, if_neg hleave]
  rfl

namespace Rcopy.MustSend

variable {rcopy : Rcopy}

theorem timeout (h : rcopy.MustSend) : ∃ retryCount,
    rcopyStep rcopy .timeout = sendDataState { rcopy.info with retryCount := retryCount } := by
  obtain ⟨state, info⟩ := rcopy
  obtain ⟨rfl | ⟨count, rfl⟩, hempty, _⟩ := h
  · exact ⟨info.retryCount, rfl⟩
  · show ∃ retryCount, waitOnAckTimeout info count = _
    simp only [waitOnAckTimeout]
    split
    · exact ⟨0, rfl⟩
    · rw [windowLowest_of_empty hempty]
      exact ⟨info.retryCount, rfl⟩

theorem not_of_open (h : rcopy.MustSend) (hopen : windowOpen rcopy.info.window = true) :
    ¬ (rcopyStep rcopy .timeout).MustSend := by
  obtain ⟨retryCount, hstep⟩ := h.timeout
  rw [hstep]
  exact not_mustSend_of_open hopen h.2.1 h.2.2

theorem of_closed (h : rcopy.MustSend) (hclosed : windowOpen rcopy.info.window = false) :
    (rcopyStep rcopy .timeout).MustSend ∧
      (rcopyStep rcopy .timeout).info.window = rcopy.info.window := by
  obtain ⟨retryCount, hstep⟩ := h.timeout
  have hstay := @sendDataState_of_closed { rcopy.info with retryCount := retryCount } hclosed h.2.2
  rw [hstep, hstay]
  exact ⟨⟨.inr ⟨0, rfl⟩, h.2⟩, rfl⟩

theorem forever (h : rcopy.MustSend) (hclosed : windowOpen rcopy.info.window = false) :
    ∀ n, (after rcopyStep rcopy (fun _ => .timeout) n).MustSend ∧
      (after rcopyStep rcopy (fun _ => .timeout) n).info.window = rcopy.info.window := by
  intro n
  induction n with
  | zero => exact ⟨h, rfl⟩
  | succ n ih =>
      obtain ⟨hmust, hwindow⟩ := ih
      have hnext := hmust.of_closed (by rw [hwindow, hclosed])
      exact ⟨hnext.1, hnext.2.trans hwindow⟩

end Rcopy.MustSend

/-! ## A session that fits -/

section Fits

variable {session : Session} {net : Network} {files : Bytes → Bytes}

theorem TransferInv.window_ne_null {n : Nat} {info : RcopyInfo} (h : TransferInv session n info) :
    info.window ≠ .null := by
  intro hnull
  have hpos := h.window.size_pos
  rw [hnull] at hpos
  exact absurd hpos (by decide)

theorem RcopyInv.transfer_of_mustSend {rcopy : Rcopy} (h : RcopyInv session rcopy)
    (hmust : rcopy.MustSend) : ∃ n, TransferInv session n rcopy.info := by
  obtain ⟨hstate | ⟨count, hstate⟩, _⟩ := hmust
  · cases h with
    | sendData h => exact ⟨_, h⟩
    | _ => cases hstate
  · cases h with
    | waitOnAck h => exact ⟨_, h⟩
    | _ => cases hstate

theorem Session.window_lt (session : Session) : session.windowSize.toInt.toNat < 2 ^ 30 := by
  have hlt := Int32.lt_iff_toInt_lt.mp (Int32.not_le.mp fun hle => session.window_ok (.inr hle))
  have hlimit : (1073741824 : Int32).toInt = 1073741824 := by decide
  omega

theorem RcopyInv.null_step {rcopy : Rcopy} (h : RcopyInv session rcopy)
    (hcalloc : session.callocOk = false) (hnull : rcopy.info.window = .null) (ev : PollEvent) :
    (rcopyStep rcopy ev).info.window = .null := by
  have hfalse : ∀ {n}, ¬ TransferInv session n rcopy.info :=
    fun htransfer => htransfer.window_ne_null hnull
  cases h with
  | @filename info tries h =>
      cases ev with
      | timeout => exact (window_retryLoop _ _ tries info).trans hnull
      | recv src packet =>
          have hinit : windowInit info.callocOk info.windowSize (info.controlSeq + 1) = none := by
            rw [h.callocOk, hcalloc]
            rfl
          show (sendFilenameRecv info session.filenamePacket tries src packet).info.window = .null
          simp only [sendFilenameRecv, hinit]
          split
          · split
            · exact hnull
            · exact hnull
          · exact (window_retryLoop _ _ tries _).trans hnull
  | refused h herr => cases ev <;> exact hnull
  | exited hfail _ haccepted hsent => cases ev <;> exact hnull
  | sendData h => exact absurd h hfalse
  | waitOnAck h => exact absurd h hfalse
  | sendEof h hclosed => exact absurd h hfalse
  | failed h herr => exact absurd h hfalse
  | finished h hclosed => exact absurd h hfalse

theorem rcopy_next {net' : Network} {label : Label} (hstep : net.next label = some net') :
    net'.rcopy = net.rcopy ∨ ∃ ev, net'.rcopy = rcopyStep net.rcopy ev := by
  have hpoll : ∀ {n : Nat} {ev : PollEvent} {net' : Network}, net.childPoll n ev = some net' →
      net'.rcopy = net.rcopy := by
    intro n ev net' hpoll
    obtain ⟨child, _, rfl⟩ := Network.childPoll_eq_some.mp hpoll
    rfl
  have hcases := Network.step_of_next hstep
  cases hcases with
  | rcopyTimeout => exact .inr ⟨.timeout, rfl⟩
  | @rcopyRecv src packet hdel => exact .inr ⟨.recv src packet, rfl⟩
  | serverForks hdel hfork => exact .inl rfl
  | serverIgnores hdel hnone => exact .inl rfl
  | childOpens hget hstate => exact .inl rfl
  | childRefuses hget hstate => exact .inl rfl
  | childTimeout hstep => exact .inl (hpoll hstep)
  | childRecv hdel hstep => exact .inl (hpoll hstep)

theorem Session.Run.null_of_calloc {ok : Network → Label → Prop}
    (hcalloc : session.callocOk = false) (hrun : session.Run files ok net) :
    net.rcopy.info.window = .null := by
  refine (@Steps.invariant _ _ _ _ _
    (fun net => NetInv session net ∧ net.rcopy.info.window = .null)
    ⟨@Session.Run.netInv session files ok _ .refl, rfl⟩ ?_ _ hrun).2
  rintro net label net' ⟨hnet, hnull⟩ _ hstep
  refine ⟨hnet.step hstep, ?_⟩
  rcases rcopy_next hstep with hsame | ⟨ev, hev⟩
  · rw [hsame, hnull]
  · rw [hev]
    exact hnet.rcopy.null_step hcalloc hnull ev

theorem ChildInv.expected_le {child : Child OutFile} {log : List Sent}
    (h : ChildInv session log child) (hbuffer : child.info.buffer ≠ .null) :
    ∃ got, BufferInv session.windowSize got child.info.buffer ∧ Stored session log got ∧
      child.info.buffer.expected.toNat ≤ session.chunks.length + 2 := by
  obtain ⟨got, hinv, hstored⟩ := h.stored_of_opened (h.opened_of_buffer hbuffer)
  have hle := hstored.gap_le hinv.gap
  exact ⟨got, hinv, hstored, by omega⟩

/-- While the numbers last nothing is refused, on either side. -/
theorem Session.Run.moves {ok : Network → Label → Prop} (hrun : session.Run files ok net)
    (hroom : session.callocOk = true →
      session.chunks.length + session.windowSize.toInt.toNat + 2 < 2 ^ 32) : Moves net := by
  have hnet := Session.Run.netInv hrun
  have hpos : (0 : Int) < session.windowSize.toInt := Int32.lt_iff_toInt_lt.mp session.window_pos
  -- a window means that there was memory for one
  have hroom' : ∀ {n}, TransferInv session n net.rcopy.info →
      session.chunks.length + session.windowSize.toInt.toNat + 2 < 2 ^ 32 := by
    intro n htransfer
    refine hroom ?_
    cases hcalloc : session.callocOk with
    | true => rfl
    | false => exact absurd (Session.Run.null_of_calloc hcalloc hrun) htransfer.window_ne_null
  have hopen : net.rcopy.info.window ≠ .null → windowEmpty net.rcopy.info.window = true →
      windowOpen net.rcopy.info.window = true := by
    intro hwindow hempty
    obtain ⟨n, htransfer⟩ := hnet.rcopy.transfer_of_window hwindow
    exact htransfer.open_of_empty (hroom' htransfer) hempty
  refine ⟨hopen, ?_, ?_⟩
  · intro hmust
    have hwindow : net.rcopy.info.window ≠ .null := by
      obtain ⟨n, htransfer⟩ := hnet.rcopy.transfer_of_mustSend hmust
      exact htransfer.window_ne_null
    exact hmust.not_of_open (hopen hwindow hmust.2.1)
  · intro child hmem hbuffer
    obtain ⟨got, hinv, hstored, hexpected⟩ := (hnet.children child hmem).expected_le hbuffer
    refine (hinv.inWindow_iff _).mpr ⟨Nat.le_refl _, ?_, ?_⟩
    · show child.info.buffer.expected.toNat + _ < _
      by_cases hsent : ∃ n, TransferInv session n net.rcopy.info
      · obtain ⟨n, htransfer⟩ := hsent
        have := hroom' htransfer
        omega
      · have htwo : child.info.buffer.expected.toNat ≤ 2 := by
          by_contra hlt
          obtain ⟨data, hdata⟩ :=
            Option.ne_none_iff_exists'.mp (hinv.gap.full 2 (Nat.le_refl 2) (by omega))
          exact hsent (hnet.rcopy.transfer_of_dataSent (hstored 2 data hdata).2)
        have hsize := session.window_lt
        omega
    · show child.info.buffer.expected.toNat < child.info.buffer.expected.toNat + _
      omega

end Fits

/-! ## Up to the end of the numbers -/

theorem Network.deliverable_of_sent {net : Network} {src dst : Addr} {packet : Bytes}
    (h : ⟨dst, packet⟩ ∈ net.sentBy src) : net.deliverable src dst packet = true := by
  rw [Network.deliverable, decide_eq_true h, Bool.true_or]

theorem Session.Reach.step {session : Session} {files : Bytes → Bytes} {net net' : Network}
    {label : Label} (h : session.Reach files net) (hstep : net.Step label net') :
    session.Reach files net' :=
  .tail h trivial (Network.next_of_step hstep)

/-- `sent` chunks are out, `acked` of them acknowledged, by child 0. -/
structure InStep (session : Session) (sent acked : Nat) (info : RcopyInfo) : Prop where
  transfer : TransferInv session sent info
  reading : info.fileDone = false
  server : info.server = .child 0
  lower : info.window.lower.toNat = acked + 2
  out : acked < sent → ∃ chunk, session.chunks[acked]? = some chunk ∧
    ⟨.child 0, builtPacket (UInt32.ofNat (acked + 2)) flagData chunk⟩ ∈ info.sent

/-- The same with the child that has stored what is acknowledged. -/
structure Lockstep (session : Session) (sent acked : Nat) (net : Network) : Prop where
  state : net.rcopy.state = .sendDataState
  rcopy : InStep session sent acked net.rcopy.info
  child : ∃ child : Child OutFile, net.children[0]? = some child ∧ child.state = .recvData ∧
    child.info.buffer.expected.toNat = acked + 2

section Reach

variable {session : Session} {net : Network} {files : Bytes → Bytes} {n : Nat}

/-! ### rcopy -/

theorem InStep.empty {info : RcopyInfo} (h : InStep session n n info) :
    windowEmpty info.window = true := by
  rw [WindowInv.empty_iff, h.lower, h.transfer.current_eq]
  exact Nat.add_comm n 2

theorem InStep.send {info : RcopyInfo} (h : InStep session n n info)
    (hn : n < session.chunks.length)
    (hroom : n + session.windowSize.toInt.toNat + 2 < 2 ^ 32) :
    ∃ info', sendDataState info = ⟨.sendDataState, info'⟩ ∧ InStep session (n + 1) n info' := by
  have hpos : (0 : Int) < session.windowSize.toInt := Int32.lt_iff_toInt_lt.mp session.window_pos
  have hcurrent := h.transfer.current_eq
  have hlower := h.lower
  have hopen : windowOpen info.window = true := by
    refine h.transfer.window.open_iff.mpr ⟨?_, ?_⟩ <;> omega
  refine ⟨_, h.transfer.sendDataState_open hopen h.reading hn, h.transfer.send hopen h.reading hn,
    h.reading, h.server, ?_, fun _ => ⟨session.chunks[n], List.getElem?_eq_getElem hn, ?_⟩⟩
  · show (windowAdd info.window info.window.current _).lower.toNat = n + 2
    rw [WindowInv.add_lower, hlower]
  · rw [← h.transfer.current_ofNat, ← h.server]
    exact List.mem_append_right _ (List.mem_singleton_self _)

theorem InStep.rr {info : RcopyInfo} (h : InStep session (n + 1) n info) (num : UInt32)
    {value : UInt32} (hvalue : value.toNat = n + 3) :
    InStep session (n + 1) (n + 1)
      (processControlsTurn info 0 (.child 0) (builtPacket num flagRr (htonl value))).1 := by
  have htransfer := h.transfer.processControlsTurn 0 (.child 0) (builtPacket num flagRr (htonl value))
  have hlower := h.transfer.window.toNat_rr_lower value
  have hcurrent := h.transfer.current_eq
  have hlower' := h.lower
  rw [processControlsTurn_rr] at htransfer ⊢
  refine ⟨htransfer, h.reading, rfl, ?_, fun hlt => absurd hlt (Nat.lt_irrefl _)⟩
  show (windowRr info.window value).lower.toNat = n + 1 + 2
  rw [hlower, WindowInv.rrLower]
  omega

theorem sendFilenameRecv_accepts {info : RcopyInfo} (h : SetupInv session info)
    (hcalloc : session.callocOk = true) (name : Bytes) (tries : Nat) (num : UInt32) :
    ∃ info', sendFilenameRecv info name tries (.child 0) (builtPacket num flagFilenameResp [0])
        = sendDataState info' ∧ InStep session 0 0 info' := by
  have hlen : [(0 : UInt8)].length ≤ srejMaxData := Nat.le_add_left 1 1399
  have hlength := length_builtPacket num flagFilenameResp hlen
  have hdrop := drop_builtPacket num flagFilenameResp hlen
  have hcheck := checkPacket_builtPacket num flagFilenameResp hlen
  have hflag := getFlag_builtPacket num flagFilenameResp hlen
  generalize builtPacket num flagFilenameResp [0] = packet at *
  have hvalue : packet.getD srejHeaderLen 0 = 0 := by
    rw [List.getD_eq_getElem?_getD, ← Nat.add_zero srejHeaderLen, ← List.getElem?_drop, hdrop]
    rfl
  have haccept : ¬ (packet.length < srejHeaderLen + 1 ∨ packet.getD srejHeaderLen 0 ≠ 0) := by
    rw [hlength, hvalue]
    exact not_or.mpr ⟨Nat.lt_irrefl _, fun hne => hne rfl⟩
  have hmemory := @calloc_ok WindowEntry session.windowSize sizeofWindowEntry .zero
    (Int32.le_of_lt session.window_pos) (by decide)
  obtain ⟨window, hinit⟩ : ∃ window,
      windowInit info.callocOk info.windowSize (info.controlSeq + 1) = some window := by
    simp only [windowInit, h.callocOk, hcalloc, h.windowSize, hmemory]
    exact ⟨_, rfl⟩
  refine ⟨{ info with
      server := .child 0, controlSeq := info.controlSeq + 1, accepted := some (.child 0)
      window := window }, ?_, ?_⟩
  · simp only [sendFilenameRecv, hcheck, hflag, and_self, if_true, if_neg haccept, hinit]
  · refine ⟨h.windowInit hinit rfl rfl rfl (Option.some_ne_none _) rfl, h.fileDone, rfl, ?_,
      fun hlt => absurd hlt (Nat.lt_irrefl _)⟩
    rw [lower_windowInit hinit, h.controlSeq]
    rfl

/-! ### The child -/

theorem Handled.rr_of_expected {F : Type} {info info' : ServerInfo F} {seq : UInt32}
    (h : Handled info seq info') (hin : bufferInWindow info.buffer seq = true)
    (hseq : seq = info.buffer.expected) :
    info.buffer.expected < info'.buffer.expected ∧ ∃ num,
      ⟨info.client, builtPacket num flagRr (htonl info'.buffer.expected)⟩ ∈ info'.sent := by
  cases h with
  | outside hout =>
      rw [hin] at hout
      cases hout
  | ahead _ hlt entry =>
      rw [hseq] at hlt
      exact absurd hlt (UInt32.lt_irrefl _)
  | @fills _ heq entry gap hlt file filled hfilled =>
      have hexpected : filled.buffer.expected = gap := by
        rw [hfilled]
        rfl
      have hrr : ∃ num,
          ⟨info.client, builtPacket num flagRr (htonl filled.buffer.expected)⟩ ∈ filled.sent := by
        rw [hfilled]
        exact ⟨_, List.mem_map.mpr ⟨_, List.mem_append_right _ (List.mem_singleton_self _), rfl⟩⟩
      split
      · obtain ⟨new, hnew, _⟩ := log_rejectIfNeeded filled
        obtain ⟨num, hmem⟩ := hrr
        rw [buffer_rejectIfNeeded, expected_bufferNeedReject, hexpected]
        refine ⟨hlt, num, ?_⟩
        rw [ServerInfo.sent, hnew, List.map_append, ← hexpected]
        exact List.mem_append_left _ hmem
      · rw [hexpected] at hrr ⊢
        exact ⟨hlt, hrr⟩

theorem recvDataRecv_expected {size : Int32} {got : Nat → Option Bytes}
    {info : ServerInfo OutFile} (h : BufferInv size got info.buffer) (hpos : 0 < size)
    (hroom : info.buffer.expected.toNat + size.toInt.toNat < 2 ^ 32) {packet : Bytes}
    (hcheck : checkPacket packet = true) (hflag : getFlag packet = flagData)
    (hseq : getSeq packet = info.buffer.expected) :
    ∃ info', recvDataRecv OutFile.write info .rcopy packet = ⟨.recvData, info'⟩ ∧
      info.buffer.expected < info'.buffer.expected ∧
      ∃ num, ⟨.rcopy, builtPacket num flagRr (htonl info'.buffer.expected)⟩ ∈ info'.sent := by
  have hsize : (0 : Int) < size.toInt := Int32.lt_iff_toInt_lt.mp hpos
  have hin : bufferInWindow info.buffer (getSeq packet) = true := by
    rw [hseq]
    refine (h.inWindow_iff _).mpr ⟨Nat.le_refl _, hroom, ?_⟩
    omega
  have hrecv := h.recvDataRecv OutFile.write_nonneg .rcopy packet
  rcases hrecv with
    ⟨_, _, info', hrecv, _, _, hhandled⟩ | ⟨_, heof, _⟩ | ⟨hother, _⟩
  · exact ⟨info', hrecv, hhandled.rr_of_expected hin hseq⟩
  · exact absurd (hflag.symm.trans heof) (by decide)
  · exact absurd hflag (hother hcheck).1

/-! ### A round -/

theorem Lockstep.store (hreach : session.Reach files net) (h : Lockstep session (n + 1) n net)
    (hroom : n + session.windowSize.toInt.toNat + 2 < 2 ^ 32) :
    ∃ (net' : Network) (child : Child OutFile) (num : UInt32), session.Reach files net' ∧
      net'.rcopy = net.rcopy ∧ net'.children[0]? = some child ∧ child.state = .recvData ∧
      child.info.buffer.expected.toNat = n + 3 ∧
      ⟨.rcopy, builtPacket num flagRr (htonl child.info.buffer.expected)⟩ ∈ child.info.sent := by
  obtain ⟨child, hget, hstate, hexpected⟩ := h.child
  obtain ⟨hlt, _⟩ := List.getElem?_eq_some_iff.mp hget
  obtain ⟨chunk, hchunk, hout⟩ := h.rcopy.out (Nat.lt_succ_self n)
  have hlen := (session.chunk_length (List.mem_of_getElem? hchunk)).2
  have hnet := Session.Run.netInv hreach
  obtain ⟨got, hbuffer⟩ :=
    (hnet.children child (List.mem_of_getElem? hget)).serving_of_recvData hstate
  have hseq : getSeq (builtPacket (UInt32.ofNat (n + 2)) flagData chunk)
      = (net.load child).info.buffer.expected := by
    rw [getSeq_builtPacket _ _ hlen]
    exact (Counter.ofNat_eq_of_toNat hexpected).symm
  have hcheck := checkPacket_builtPacket (UInt32.ofNat (n + 2)) flagData hlen
  have hflag := getFlag_builtPacket (UInt32.ofNat (n + 2)) flagData hlen
  generalize builtPacket (UInt32.ofNat (n + 2)) flagData chunk = packet at *
  have hfits : child.info.buffer.expected.toNat + session.windowSize.toInt.toNat < 2 ^ 32 := by
    omega
  obtain ⟨info, hrecv, hgrows, num, hrr⟩ := recvDataRecv_expected
    (show BufferInv session.windowSize got (net.load child).info.buffer from hbuffer)
    session.window_pos hfits hcheck hflag hseq
  have hpoll : net.childPoll 0 (.recv .rcopy packet) = some (net.store 0 ⟨.recvData, info⟩) := by
    have hload : (net.load child).state = .recvData := hstate
    refine Network.childPoll_eq_some.mpr ⟨child, hget, ?_⟩
    simp only [childStep, hload, hrecv]
  have hsent : ⟨.child 0, packet⟩ ∈ net.sentBy .rcopy := hout
  have hreach' := hreach.step (.childRecv (Network.deliverable_of_sent hsent) hpoll)
  have hget' : (net.store 0 ⟨.recvData, info⟩).children[0]? = some ⟨.recvData, info⟩ :=
    List.getElem?_set_self hlt
  refine ⟨_, _, num, hreach', rfl, hget', rfl, ?_, hrr⟩
  -- past its number, and not past what has been sent
  have hlow := UInt32.lt_iff_toNat_lt.mp hgrows
  have hload : (net.load child).info.buffer.expected.toNat = n + 2 := hexpected
  obtain ⟨got', hbuffer', hstored'⟩ :=
    ((Session.Run.netInv hreach').children _ (List.mem_of_getElem? hget')).stored_of_opened
      (show 2 ≤ info.buffer.expected.toNat by omega)
  have hcurrent := h.rcopy.transfer.current_eq
  have hhigh : info.buffer.expected.toNat ≤ net.rcopy.info.window.current.toNat :=
    hstored'.gap_le_current hbuffer'.gap h.rcopy.transfer
  show info.buffer.expected.toNat = n + 3
  omega

theorem Lockstep.acknowledge (hreach : session.Reach files net) (h : Lockstep session (n + 1) n net)
    (hroom : n + session.windowSize.toInt.toNat + 2 < 2 ^ 32) :
    ∃ net', session.Reach files net' ∧ Lockstep session (n + 1) (n + 1) net' := by
  obtain ⟨net', child, num, hreach', hrcopy, hget, hstate, hexpected, hrr⟩ := h.store hreach hroom
  have hacked := h.rcopy.rr num hexpected
  generalize builtPacket num flagRr (htonl child.info.buffer.expected) = rr at hrr hacked
  have hsent : ⟨.rcopy, rr⟩ ∈ net'.sentBy (.child 0) := by
    simp only [Network.sentBy, hget]
    exact hrr
  have hack := hreach'.step (.rcopyRecv (Network.deliverable_of_sent hsent))
  have hturn : rcopyStep net.rcopy (.recv (.child 0) rr)
      = ⟨.sendDataState, (processControlsTurn net.rcopy.info 0 (.child 0) rr).1⟩ := by
    simp only [rcopyStep, h.state]
  rw [hrcopy, hturn] at hack
  exact ⟨_, hack, rfl, hacked, child, hget, hstate, hexpected⟩

theorem Lockstep.next (hreach : session.Reach files net) (h : Lockstep session n n net)
    (hn : n < session.chunks.length) (hroom : n + session.windowSize.toInt.toNat + 2 < 2 ^ 32) :
    ∃ net', session.Reach files net' ∧ Lockstep session (n + 1) (n + 1) net' := by
  obtain ⟨info, hsend, hinfo⟩ := h.rcopy.send hn hroom
  have htimeout := hreach.step .rcopyTimeout
  have hturn : rcopyStep net.rcopy .timeout = ⟨.sendDataState, info⟩ := by
    simp only [rcopyStep, h.state, hsend]
  rw [hturn] at htimeout
  have hout : Lockstep session (n + 1) n { net with rcopy := ⟨.sendDataState, info⟩ } :=
    ⟨rfl, hinfo, h.child⟩
  exact hout.acknowledge htimeout hroom

theorem exists_opened (session : Session) : ∃ (child : Child OutFile) (info : ServerInfo OutFile),
    processServer session.filenamePacket .rcopy ⟨[], 0⟩ = some child ∧ child.state = .filename ∧
      childSetup child (some ⟨[], 0⟩) true = ⟨.recvData, info⟩ ∧ info.buffer.expected = 2 ∧
      ⟨.rcopy, builtPacket 1 flagFilenameResp [0]⟩ ∈ info.sent := by
  have hlen := length_filenamePayload session.windowSize session.bufferSize session.name_ok.1
  have hcheck : checkPacket session.filenamePacket = true :=
    checkPacket_builtPacket firstSeq flagFilename hlen
  obtain ⟨buffer, hinit, _⟩ := bufferInit_of_size session.window_ok
  obtain ⟨w, b, hopened⟩ := filenameState_some
    (processClient session.filenamePacket .rcopy (⟨[], 0⟩ : OutFile)).info ⟨[], 0⟩ true
  have hwindow : (readU32 (processClient session.filenamePacket .rcopy
      (⟨[], 0⟩ : OutFile)).info.firstPacket srejHeaderLen).toInt32 = session.windowSize :=
    session.windowSize_firstPacket
  rw [hwindow, hinit] at hopened
  refine ⟨_, _, if_pos ⟨hcheck, session.getFlag_filenamePacket⟩, rfl, hopened,
    congrArg Buffer.expected (bufferInit_eq_some hinit).2, ?_⟩
  exact List.mem_map.mpr ⟨_, List.mem_append_right _ (List.mem_singleton_self _), rfl⟩

/-- The setup, with the first chunk out at its end. -/
theorem Lockstep.start (hcalloc : session.callocOk = true) (hn : 0 < session.chunks.length)
    (files : Bytes → Bytes) :
    ∃ net, session.Reach files net ∧ Lockstep session 1 0 net := by
  have hsize := session.window_lt
  obtain ⟨child, info, hfork, hstate, hsetup, hexpected, hresp⟩ := exists_opened session
  -- the server forks, and the child opens the file
  have hname : ⟨.server, session.filenamePacket⟩ ∈ (session.network files).sentBy .rcopy :=
    List.mem_singleton_self _
  have hforked : session.Reach files ⟨session.start, [child], files⟩ :=
    Session.Reach.step .refl (.serverForks (Network.deliverable_of_sent hname) hfork)
  have hopened := hforked.step (@Network.Step.childOpens _ 0 true child rfl hstate)
  rw [hsetup] at hopened
  -- rcopy accepts
  have hstart : SetupInv session session.start.info :=
    (rcopyInv_start session).setup_of_filename rfl
  obtain ⟨accepted, haccept, hempty⟩ :=
    sendFilenameRecv_accepts hstart hcalloc session.filenamePacket 0 1
  obtain ⟨info', hsend, hinfo'⟩ := hempty.send hn (by omega)
  have hsent : ⟨.rcopy, builtPacket 1 flagFilenameResp [0]⟩ ∈ (Network.store
      ⟨session.start, [child], files⟩ 0 ⟨.recvData, info⟩).sentBy (.child 0) := hresp
  have hrecv := hopened.step (.rcopyRecv (Network.deliverable_of_sent hsent))
  have hturn : rcopyStep session.start (.recv (.child 0) (builtPacket 1 flagFilenameResp [0]))
      = ⟨.sendDataState, info'⟩ := by
    rw [← hsend, ← haccept]
    rfl
  rw [show (Network.store ⟨session.start, [child], files⟩ 0 ⟨.recvData, info⟩).rcopy
    = session.start from rfl, hturn] at hrecv
  refine ⟨_, hrecv, rfl, hinfo', ⟨.recvData, info⟩, rfl, rfl, ?_⟩
  rw [hexpected]
  rfl

/-- Any number of chunks, while the numbers last. -/
theorem lockstep (hcalloc : session.callocOk = true) (files : Bytes → Bytes) :
    ∀ n, n < session.chunks.length → n + session.windowSize.toInt.toNat + 2 < 2 ^ 32 →
      ∃ net, session.Reach files net ∧ Lockstep session (n + 1) (n + 1) net := by
  intro n
  induction n with
  | zero =>
      intro hn hroom
      obtain ⟨net, hreach, h⟩ := Lockstep.start hcalloc hn files
      exact h.acknowledge hreach hroom
  | succ n ih =>
      intro hn hroom
      obtain ⟨net, hreach, h⟩ := ih (by omega) (by omega)
      exact h.next hreach hn hroom

/-- `lower + size` and `expected + size` come to `2 ^ 32`, which is 0. -/
theorem Lockstep.wedged (h : Lockstep session n n net) (hreach : session.Reach files net)
    (hfull : n + session.windowSize.toInt.toNat + 2 = 2 ^ 32) :
    net.rcopy.MustSend ∧ windowOpen net.rcopy.info.window = false ∧
      ∃ child : Child OutFile, net.children[0]? = some child ∧ child.state = .recvData ∧
        child.info.buffer ≠ .null ∧
        bufferInWindow child.info.buffer (bufferExpected child.info.buffer) = false := by
  refine ⟨⟨.inl h.state, h.rcopy.empty, h.rcopy.reading⟩, ?_, ?_⟩
  · have hlower := h.rcopy.lower
    refine Bool.eq_false_iff.mpr fun hopen => ?_
    have hlt := (h.rcopy.transfer.window.open_iff.mp hopen).1
    omega
  · obtain ⟨child, hget, hstate, hexpected⟩ := h.child
    obtain ⟨got, hbuffer⟩ := ((Session.Run.netInv hreach).children child
      (List.mem_of_getElem? hget)).serving_of_recvData hstate
    refine ⟨child, hget, hstate, ?_, Bool.eq_false_iff.mpr fun hin => ?_⟩
    · intro hnull
      have hzero : child.info.buffer.expected.toNat = 0 := by
        rw [hnull]
        rfl
      omega
    · have hlt := ((hbuffer.inWindow_iff _).mp hin).2.1
      omega

theorem exists_wedged (hcalloc : session.callocOk = true)
    (hlong : 2 ^ 32 ≤ session.chunks.length + session.windowSize.toInt.toNat + 2)
    (files : Bytes → Bytes) : ∃ n net, n + session.windowSize.toInt.toNat + 2 = 2 ^ 32 ∧
      session.Reach files net ∧ Lockstep session n n net := by
  have hsize := session.window_lt
  obtain ⟨n, hn⟩ : ∃ n, n + 1 + session.windowSize.toInt.toNat + 2 = 2 ^ 32 :=
    ⟨2 ^ 32 - session.windowSize.toInt.toNat - 3, by omega⟩
  obtain ⟨net, hreach, h⟩ := @lockstep session hcalloc files n (by omega) (by omega)
  exact ⟨n + 1, net, hn, hreach, h⟩

end Reach

/-! ## Exactly when -/

/-- Every run keeps moving iff the numbers last for the session. -/
theorem sequence_space_iff (session : Session) (files : Bytes → Bytes) :
    (∀ net, session.Reach files net → Moves net) ↔
      (session.callocOk = true →
        session.chunks.length + session.windowSize.toInt.toNat + 2 < 2 ^ 32) := by
  constructor
  · intro hmoves hcalloc
    by_contra hlong
    obtain ⟨n, net, hfull, hreach, h⟩ := exists_wedged hcalloc (Nat.not_lt.mp hlong) files
    obtain ⟨hmust, hclosed, _⟩ := h.wedged hreach hfull
    have hopen := (hmoves net hreach).isOpen h.rcopy.transfer.window_ne_null hmust.2.1
    rw [hclosed] at hopen
    cases hopen
  · intro hroom net hreach
    exact Session.Run.moves hreach hroom

theorem one_byte_ok : ¬ ((1 : Int32) ≤ 0 ∨ 1400 < (1 : Int32)) := by decide

/-- One byte a packet, a window of four, and one chunk more than there are numbers for. -/
def longSession : Session :=
  { outName := [108], windowSize := 4, bufferSize := 1
    chunks := List.replicate 4294967291 [65], callocOk := true
    name_ok := by decide, window_ok := by decide, buffer_ok := one_byte_ok
    chunks_ok := by
      intro chunk hchunk
      rw [List.eq_of_mem_replicate hchunk]
      decide }

/-- At the end of the numbers: rcopy has a chunk to read and everything acknowledged, and goes back
and forth for ever; the child refuses the packet it is waiting for. -/
theorem sequence_space_wedged :
    ∃ (net : Network) (child : Child OutFile),
      longSession.Reach (fun _ => []) net ∧ net.rcopy.info.inputFile ≠ [] ∧
      (∀ n, (after rcopyStep net.rcopy (fun _ => .timeout) n).MustSend) ∧
      net.children[0]? = some child ∧ child.state = .recvData ∧
      bufferInWindow child.info.buffer (bufferExpected child.info.buffer) = false ∧
      ¬ ∀ net, longSession.Reach (fun _ => []) net → Moves net := by
  have hchunks : longSession.chunks.length = 4294967291 := List.length_replicate
  have hsize : longSession.windowSize.toInt.toNat = 4 := by decide
  obtain ⟨n, net, hfull, hreach, h⟩ :=
    @exists_wedged longSession rfl (by rw [hchunks, hsize]; decide) fun _ => []
  obtain ⟨hmust, hclosed, child, hget, hstate, hnull, hrefuses⟩ := h.wedged hreach hfull
  refine ⟨net, child, hreach, ?_, fun k => (hmust.forever hclosed k).1, hget, hstate, hrefuses, ?_⟩
  · intro hend
    have hlength := h.rcopy.transfer.length_inputFile
    rw [hend, hchunks, List.length_nil] at hlength
    rw [hsize] at hfull
    omega
  · intro hmoves
    have htakes := (hmoves net hreach).takes child (List.mem_of_getElem? hget) hnull
    rw [hrefuses] at htakes
    cases htakes

end SelectiveReject
