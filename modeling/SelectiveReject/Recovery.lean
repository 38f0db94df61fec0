/-
# `SelectiveReject.Recovery` — which losses are final

A datagram that is lost can be lost again, and rcopy and the child count their tries; so a run need
not end well.  But a run can be continued to a return of 0 and a complete file, whatever was lost,
repeated or reordered before and however many tries are used up, exactly as long as rcopy
has not given up and the child it talks to still receives, or has sent an EOF_ACK
(`recoverable_iff`).

    the lowest packet of the window reaches the child        it answers with an RR above it
    that RR reaches rcopy                                    lower moves up
    the window is empty and pollCall times out               the next chunk goes out, or the EOF
    EOF and EOF_ACK arrive                                   process_file returns 0

The first two lines repeat until the window is empty; a timeout then finds no packet to send
again, so it costs no try.  `2 * (N + 2) - lower - current` falls all the way.  The other direction
is an invariant: a child that has ended without an EOF_ACK never sends one, and nothing else makes
`process_file` return 0.
-/
import SelectiveReject.Injection
import SelectiveReject.SequenceSpace
import SelectiveReject.Transcript

namespace SelectiveReject

open Machine

section Recovery

variable {session : Session} {files : Bytes → Bytes} {net : Network} {c : Nat}

/-! ## What is in rcopy's log -/

theorem Spoken.mem_iff {n : Nat} {data : List Bytes} (h : Spoken session n data) (packet : Bytes) :
    packet ∈ data ↔ ∃ i < n, session.dataPackets[i]? = some packet := by
  induction h with
  | nothing =>
      constructor
      · intro hmem
        cases hmem
      · rintro ⟨i, hi, _⟩
        cases hi
  | @next n data last h hlast ih =>
      rw [List.mem_append, ih, List.mem_singleton]
      constructor
      · rintro (⟨i, hi, hget⟩ | rfl)
        · exact ⟨i, Nat.lt_succ_of_lt hi, hget⟩
        · exact ⟨n, Nat.lt_succ_self n, hlast⟩
      · rintro ⟨i, hi, hget⟩
        rcases Nat.lt_succ_iff_lt_or_eq.mp hi with hlt | rfl
        · exact .inl ⟨i, hlt, hget⟩
        · exact .inr (Option.some.inj (hget.symm.trans hlast))
  | @again n i data copy h hi hcopy ih =>
      rw [List.mem_append, ih, List.mem_singleton]
      constructor
      · rintro (hold | rfl)
        · exact hold
        · exact ⟨i, hi, hcopy⟩
      · exact .inl

theorem mem_said {info : RcopyInfo} {packet : Bytes} :
    packet ∈ info.said ↔ ∃ sent ∈ info.sent, sent.packet = packet :=
  List.mem_map

/-- A packet that has been said, FILENAMEs apart, went to the accepted child. -/
theorem Serves.sent_of_said {child : Child OutFile} (h : Serves session net c child)
    {packet : Bytes} (hflag : getFlag packet ≠ flagFilename)
    (hsaid : packet ∈ net.rcopy.info.said) :
    ⟨.child c, packet⟩ ∈ net.rcopy.info.sent := by
  obtain ⟨sent, hsent, rfl⟩ := mem_said.mp hsaid
  rcases h.sent sent hsent with hname | hdst
  · exact absurd hname hflag
  · rw [← hdst]
    exact hsent

theorem getFlag_dataPackets {i : Nat} {packet : Bytes}
    (h : session.dataPackets[i]? = some packet) : getFlag packet = flagData := by
  rw [session.getElem?_dataPackets] at h
  obtain ⟨chunk, hchunk, rfl⟩ := Option.map_eq_some_iff.mp h
  exact getFlag_builtPacket _ _ (session.chunk_length (List.mem_of_getElem? hchunk)).2

theorem rcopyTalk_run {ok : Network → Label → Prop} (h : session.Run files ok net) :
    RcopyTalk session True net.rcopy := by
  refine @Steps.invariant _ _ _ _ _ (fun net : Network => RcopyTalk session True net.rcopy)
    (rcopyTalk_start session True) (fun net label net' htalk _ hnext => ?_) _ h
  rcases rcopy_next hnext with hsame | ⟨ev, hstep⟩
  · rw [hsame]
    exact htalk
  · rw [hstep]
    exact (htalk.step ev).mono fun _ => trivial

theorem serves_of_run (h : session.Run files (Quiet session) net)
    (haccepted : net.rcopy.info.accepted = some (.child c)) :
    NetInv session net ∧ ∃ child, Serves session net c child := by
  obtain ⟨hnet, hwaits | ⟨k, child, hserves⟩⟩ := Session.Run.joint h
  · rw [hwaits.accepted] at haccepted
    cases haccepted
  · have hpeer := hserves.accepted.symm.trans haccepted
    obtain rfl := Addr.child.inj (Option.some.inj hpeer)
    exact ⟨hnet, child, hserves⟩

/-! ## The answers of a child -/

def Child.Answered (child : Child OutFile) : Prop :=
  ∃ num, ⟨.rcopy, builtPacket num flagEofAck []⟩ ∈ child.info.sent

theorem Handled.rr_of_outside {F : Type} {info info' : ServerInfo F} {seq : UInt32}
    (h : Handled info seq info') (hout : bufferInWindow info.buffer seq = false)
    (hseq : seq < info.buffer.expected) :
    seq < info'.buffer.expected ∧ ∃ num,
      ⟨info.client, builtPacket num flagRr (htonl info'.buffer.expected)⟩ ∈ info'.sent := by
  cases h with
  | outside _ =>
      refine ⟨hseq, info.controlSeq, ?_⟩
      exact List.mem_map.mpr ⟨_, List.mem_append_right _ (List.mem_singleton_self _), rfl⟩
  | ahead hin hlt entry =>
      rw [hout] at hin
      cases hin
  | fills hin heq entry hlt file hfilled =>
      rw [hout] at hin
      cases hin

/-- A data packet at or below the gap is answered with an RR above it. -/
theorem recvDataRecv_answers {size : Int32} {got : Nat → Option Bytes}
    {info : ServerInfo OutFile} (h : BufferInv size got info.buffer) (hpos : 0 < size)
    (hroom : info.buffer.expected.toNat + size.toInt.toNat < 2 ^ 32) {packet : Bytes}
    (hcheck : checkPacket packet = true) (hflag : getFlag packet = flagData)
    (hseq : getSeq packet ≤ info.buffer.expected) :
    ∃ info', recvDataRecv OutFile.write info .rcopy packet = ⟨.recvData, info'⟩ ∧
      getSeq packet < info'.buffer.expected ∧
      ∃ num, ⟨.rcopy, builtPacket num flagRr (htonl info'.buffer.expected)⟩ ∈ info'.sent := by
  rcases UInt32.lt_or_eq_of_le hseq with hlt | heq
  · -- received before: it is outside, and gets an RR for the gap
    have hout : bufferInWindow info.buffer (getSeq packet) = false := by
      refine Bool.eq_false_iff.mpr fun hin => ?_
      have hle := ((h.inWindow_iff _).mp hin).1
      exact absurd (UInt32.lt_iff_toNat_lt.mp hlt) (Nat.not_lt.mpr hle)
    have hrecv := h.recvDataRecv OutFile.write_nonneg .rcopy packet
    rcases hrecv with ⟨_, _, info', hrecv, _, _, hhandled⟩ | ⟨_, heof, _⟩ | ⟨hother, _⟩
    · exact ⟨info', hrecv, hhandled.rr_of_outside hout hlt⟩
    · exact absurd (hflag.symm.trans heof) (by decide)
    · exact absurd hflag (hother hcheck).1
  · obtain ⟨info', hrecv, hgrows, hrr⟩ := recvDataRecv_expected h hpos hroom hcheck hflag heq
    exact ⟨info', hrecv, heq ▸ hgrows, hrr⟩

theorem recvDataRecv_eof {info : ServerInfo OutFile} {packet : Bytes}
    (hcheck : checkPacket packet = true) (hflag : getFlag packet = flagEof) :
    (recvDataRecv OutFile.write info .rcopy packet).Answered := by
  have hdata : ¬ flagEof = flagData := by decide
  simp only [recvDataRecv, hcheck, hflag, if_true, if_neg hdata, Bool.true_eq_false, if_false]
  exact ⟨info.controlSeq,
    List.mem_map.mpr ⟨_, List.mem_append_right _ (List.mem_singleton_self _), rfl⟩⟩

theorem Child.Answered.mono {child child' : Child OutFile} (h : child.Answered)
    (hlog : child.info.log <+: child'.info.log) : child'.Answered := by
  obtain ⟨num, hmem⟩ := h
  exact ⟨num, (hlog.map SentAt.sent).subset hmem⟩

/-- A child waits for DONE only behind its first EOF_ACK. -/
theorem Child.answered_step {child : Child OutFile}
    (h : child.state = .waitOnDone → child.Answered) {ev : PollEvent}
    (hsrc : ∀ src packet, ev = .recv src packet → src = .rcopy)
    (hstate : (childStep OutFile.write child ev).state = .waitOnDone) :
    (childStep OutFile.write child ev).Answered := by
  have hlog := log_childStep OutFile.write child ev
  obtain ⟨state, info⟩ := child
  cases state with
  | waitOnDone => exact (h rfl).mono hlog
  | recvData =>
      cases ev with
      | timeout => cases hstate
      | recv src packet =>
          obtain rfl := hsrc src packet rfl
          by_cases heof : checkPacket packet = true ∧ getFlag packet = flagEof
          · exact recvDataRecv_eof heof.1 heof.2
          · -- nothing else leads there
            exfalso
            revert hstate
            simp only [childStep, recvDataRecv]
            have hneq : ∀ {child : Child OutFile}, child.state = .recvData ∨
                child.state = .exited → child.state ≠ .waitOnDone := by
              intro child hother hstate
              rw [hstate] at hother
              rcases hother with hother | hother <;> cases hother
            split
            · exact hneq (.inl rfl)
            · rename_i hcheck
              split
              · split
                · exact hneq (.inr rfl)
                · exact hneq (.inl rfl)
              · split
                · rename_i hflag
                  exact absurd ⟨Bool.eq_true_of_not_eq_false hcheck, hflag⟩ heof
                · exact hneq (.inl rfl)
  | filename => cases ev <;> cases hstate
  | done => cases ev <;> cases hstate
  | exited => cases ev <;> cases hstate

theorem answered_run {ok : Network → Label → Prop} (h : session.Run files ok net) :
    NetInv session net ∧
      ∀ child ∈ net.children, child.state = .waitOnDone → child.Answered := by
  refine @Steps.invariant _ _ _ _ _ (fun net => NetInv session net ∧
    ∀ child ∈ net.children, child.state = .waitOnDone → child.Answered)
    ⟨@Session.Run.netInv session files ok _ .refl, fun child hmem => ?_⟩ ?_ _ h
  · cases hmem
  rintro net label net' ⟨hnet, hall⟩ _ hnext
  refine ⟨hnet.step hnext, ?_⟩
  have hpoll : ∀ {n : Nat} {ev : PollEvent} {net' : Network},
      (∀ src packet, ev = .recv src packet → src = .rcopy) → net.childPoll n ev = some net' →
      ∀ child ∈ net'.children, child.state = .waitOnDone → child.Answered := by
    intro n ev net' hsrc hpoll child hmem hstate
    obtain ⟨old, hget, rfl⟩ := Network.childPoll_eq_some.mp hpoll
    rcases List.mem_or_eq_of_mem_set hmem with hold | rfl
    · exact hall child hold hstate
    · have hold := hall old (List.mem_of_getElem? hget)
      exact @Child.answered_step (net.load old) hold ev hsrc hstate
  have hsetup : ∀ {n : Nat} {opened : Option OutFile} {callocOk : Bool} {old : Child OutFile},
      old.state = .filename → ∀ child ∈ net.children.set n (childSetup old opened callocOk),
      child.state = .waitOnDone → child.Answered := by
    intro n opened callocOk old hold child hmem hstate
    rcases List.mem_or_eq_of_mem_set hmem with hmem | rfl
    · exact hall child hmem hstate
    · obtain ⟨state, info⟩ := old
      obtain rfl : state = .filename := hold
      simp only [childSetup, filenameState] at hstate
      cases opened with
      | none => cases hstate
      | some file =>
          dsimp only at hstate
          split at hstate <;> cases hstate
  cases Network.step_of_next hnext with
  | rcopyTimeout => exact hall
  | rcopyRecv hdel => exact hall
  | serverForks hdel hfork =>
      intro child hmem hstate
      rcases List.mem_append.mp hmem with hold | hnew
      · exact hall child hold hstate
      · rw [List.mem_singleton.mp hnew, eq_of_accepted hfork] at hstate
        cases hstate
  | serverIgnores hdel hnone => exact hall
  | childOpens hget hstate => exact hsetup hstate
  | childRefuses hget hstate => exact hsetup hstate
  | childTimeout hstep =>
      refine hpoll (fun src packet hev => ?_) hstep
      cases hev
  | childRecv hdel hstep =>
      refine hpoll (fun src packet hev => ?_) hstep
      obtain ⟨rfl, rfl⟩ := PollEvent.recv.inj hev
      exact (hnet.from_rcopy hdel (child_ne_rcopy _)).1

/-! ## With nothing outstanding -/

theorem timeout_of_empty {rcopy : Rcopy}
    (hstate : rcopy.state = .sendDataState ∨ ∃ count, rcopy.state = .waitOnAckState count)
    (hempty : windowEmpty rcopy.info.window = true) : ∃ retryCount,
      rcopyStep rcopy .timeout = sendDataState { rcopy.info with retryCount := retryCount } := by
  obtain ⟨state, info⟩ := rcopy
  rcases hstate with rfl | ⟨count, rfl⟩
  · exact ⟨info.retryCount, rfl⟩
  · show ∃ retryCount, waitOnAckTimeout info count = _
    simp only [waitOnAckTimeout]
    split
    · exact ⟨0, rfl⟩
    · rw [windowLowest_of_empty hempty]
      exact ⟨info.retryCount, rfl⟩

theorem TransferInv.sendDataState_of_empty {n : Nat} {info : RcopyInfo}
    (h : TransferInv session n info)
    (hroom : session.chunks.length + session.windowSize.toInt.toNat + 2 < 2 ^ 32)
    (hempty : windowEmpty info.window = true) :
    (∃ info', SelectiveReject.sendDataState info = ⟨.sendDataState, info'⟩ ∧
      info'.accepted = info.accepted ∧ info'.window.lower = info.window.lower ∧
      info.window.current.toNat < info'.window.current.toNat) ∨
    (∃ info' packet, SelectiveReject.sendDataState info = ⟨.sendEofState packet 0, info'⟩ ∧
      info'.accepted = info.accepted) := by
  rcases h.sendDataState_cases with ⟨hn, _, hsend, hnext⟩ | ⟨fileDone, hleave, _, hdone⟩
  · refine .inl ⟨_, hsend, rfl, WindowInv.add_lower _ _ _, ?_⟩
    have hmore := hnext.current_eq
    have hcurrent := h.current_eq
    rw [hmore, hcurrent]
    exact Nat.lt_succ_self _
  · obtain rfl := hdone (h.open_of_empty hroom hempty)
    have heof : SelectiveReject.sendDataLeave { info with fileDone := true }
        = sendEofState { info with fileDone := true } := if_pos ⟨rfl, hempty⟩
    exact .inr ⟨_, _, hleave.trans heof, rfl⟩

/-! ## The data phase -/

/-- rcopy and child `c` are in the data phase. -/
structure Going (session : Session) (files : Bytes → Bytes) (c : Nat) (net : Network) : Prop where
  run : session.Run files (Quiet session) net
  accepted : net.rcopy.info.accepted = some (.child c)
  state : net.rcopy.state = .sendDataState ∨ ∃ count, net.rcopy.state = .waitOnAckState count
  child : ∃ child : Child OutFile, net.children[c]? = some child ∧ child.state = .recvData

/-- rcopy asks child `c` for an EOF_ACK, and it will get one if nothing is lost. -/
structure Closing (session : Session) (files : Bytes → Bytes) (c : Nat) (net : Network) :
    Prop where
  run : session.Run files (Quiet session) net
  accepted : net.rcopy.info.accepted = some (.child c)
  state : ∃ packet tries, net.rcopy.state = .sendEofState packet tries
  child : ∃ child : Child OutFile, net.children[c]? = some child ∧
    (child.state = .recvData ∨ child.Answered)

theorem steps_childRecv {child : Child OutFile} (hget : net.children[c]? = some child)
    {packet : Bytes} (hsent : ⟨.child c, packet⟩ ∈ net.rcopy.info.sent) :
    Steps Network.next (Quiet session) net
      (net.store c (childStep OutFile.write (net.load child) (.recv .rcopy packet))) := by
  have hdel : net.deliverable .rcopy (.child c) packet = true := Network.deliverable_of_sent hsent
  have hquiet : Quiet session net (.childRecv c .rcopy packet) := trivial
  exact .tail .refl hquiet (Network.next_of_step
    (.childRecv hdel (Network.childPoll_eq_some.mpr ⟨child, hget, rfl⟩)))

theorem steps_rcopyRecv {child : Child OutFile} (hget : net.children[c]? = some child)
    (haccepted : ∀ peer, net.rcopy.info.accepted = some peer → peer = .child c) {packet : Bytes}
    (hsent : ⟨.rcopy, packet⟩ ∈ child.info.sent) :
    Steps Network.next (Quiet session) net
      { net with rcopy := rcopyStep net.rcopy (.recv (.child c) packet) } := by
  have hmem : ⟨.rcopy, packet⟩ ∈ net.sentBy (.child c) := by
    simp only [Network.sentBy, hget]
    exact hsent
  refine .tail .refl ?_ (Network.next_of_step (.rcopyRecv (Network.deliverable_of_sent hmem)))
  intro peer hpeer _
  exact (haccepted peer hpeer).symm

namespace Going

theorem talk (h : Going session files c net) : ∃ n, TransferInv session n net.rcopy.info ∧
    ∀ i packet, i < n → session.dataPackets[i]? = some packet →
      ⟨.child c, packet⟩ ∈ net.rcopy.info.sent := by
  obtain ⟨_, child, hserves⟩ := serves_of_run h.run h.accepted
  have hsaid : ∀ {n : Nat} {data : List Bytes}, Talk session n data [] net.rcopy.info →
      ∃ n, TransferInv session n net.rcopy.info ∧ ∀ i packet, i < n →
        session.dataPackets[i]? = some packet → ⟨.child c, packet⟩ ∈ net.rcopy.info.sent := by
    intro n data htalk
    refine ⟨n, htalk.transfer, fun i packet hi hpacket => ?_⟩
    obtain ⟨a, _, _, hsaid⟩ := htalk.said
    refine hserves.sent_of_said ?_ ?_
    · rw [getFlag_dataPackets hpacket]
      decide
    · rw [hsaid, List.append_nil]
      exact List.mem_append_right _ ((htalk.spoken.mem_iff packet).mpr ⟨i, hi, hpacket⟩)
  have htalk := rcopyTalk_run h.run
  have hstate := h.state
  generalize net.rcopy = rcopy at htalk hstate hsaid
  cases htalk with
  | sendData h => exact hsaid h
  | waitOnAck h => exact hsaid h
  | _ => rcases hstate with hstate | ⟨count, hstate⟩ <;> cases hstate

/-- The lowest packet of the window reaches the child, which answers above it. -/
theorem deliver (h : Going session files c net)
    (hroom : session.chunks.length + session.windowSize.toInt.toNat + 2 < 2 ^ 32)
    (hout : net.rcopy.info.window.lower.toNat < net.rcopy.info.window.current.toNat) :
    ∃ (net' : Network) (child : Child OutFile) (num value : UInt32),
      Steps Network.next (Quiet session) net net' ∧ Going session files c net' ∧
      net'.rcopy = net.rcopy ∧ net'.children[c]? = some child ∧
      ⟨.rcopy, builtPacket num flagRr (htonl value)⟩ ∈ child.info.sent ∧
      net.rcopy.info.window.lower.toNat < value.toNat := by
  obtain ⟨hnet, other, hserves⟩ := serves_of_run h.run h.accepted
  obtain ⟨child, hget, hstate⟩ := h.child
  obtain rfl := Option.some.inj (hserves.get.symm.trans hget)
  obtain ⟨hlt, _⟩ := List.getElem?_eq_some_iff.mp hget
  obtain ⟨n, htransfer, hall⟩ := h.talk
  obtain ⟨got, hbuffer⟩ :=
    (hnet.children other (List.mem_of_getElem? hget)).serving_of_recvData hstate
  obtain ⟨hlower, hexpected⟩ := hserves.chain hnet htransfer hbuffer.gap.le
  have hcurrent := htransfer.current_eq
  have hfirst := htransfer.window.first_le
  have hle := htransfer.le
  generalize hlow : net.rcopy.info.window.lower = lower at *
  -- the packet
  obtain ⟨i, hi⟩ : ∃ i, lower.toNat = i + 2 := ⟨lower.toNat - 2, by omega⟩
  have hchunk : i < session.chunks.length := by omega
  have hpacket : session.dataPackets[i]? = some (builtPacket lower flagData session.chunks[i]) := by
    rw [session.getElem?_dataPackets, List.getElem?_eq_getElem hchunk, Option.map_some,
      ← Counter.ofNat_eq_of_toNat hi]
  have hsent := hall i _ (by omega) hpacket
  have hlen := (session.chunk_length (List.getElem_mem hchunk)).2
  have hcheck := checkPacket_builtPacket lower flagData hlen
  have hflag := getFlag_builtPacket lower flagData hlen
  have hseq := getSeq_builtPacket lower flagData hlen
  generalize builtPacket lower flagData session.chunks[i] = packet at *
  -- its way
  have hfits : other.info.buffer.expected.toNat + session.windowSize.toInt.toNat < 2 ^ 32 := by
    omega
  have hbelow : getSeq packet ≤ (net.load other).info.buffer.expected := by
    rw [hseq]
    exact UInt32.le_iff_toNat_le.mpr hlower
  obtain ⟨info, hrecv, habove, num, hrr⟩ := recvDataRecv_answers
    (show BufferInv session.windowSize got (net.load other).info.buffer from hbuffer)
    session.window_pos hfits hcheck hflag hbelow
  have hturn : childStep OutFile.write (net.load other) (.recv .rcopy packet)
      = ⟨.recvData, info⟩ := by
    have hload : (net.load other).state = .recvData := hstate
    simp only [childStep, hload, hrecv]
  have hsteps := @steps_childRecv session net c other hget packet hsent
  rw [hturn] at hsteps
  have hget' : (net.store c ⟨.recvData, info⟩).children[c]? = some ⟨.recvData, info⟩ :=
    List.getElem?_set_self hlt
  refine ⟨_, _, num, info.buffer.expected, hsteps,
    ⟨h.run.trans hsteps, h.accepted, h.state, _, hget', rfl⟩, rfl, hget', hrr, ?_⟩
  rw [hseq] at habove
  exact UInt32.lt_iff_toNat_lt.mp habove

theorem acknowledged (h : Going session files c net)
    (hroom : session.chunks.length + session.windowSize.toInt.toNat + 2 < 2 ^ 32)
    (hout : net.rcopy.info.window.lower.toNat < net.rcopy.info.window.current.toNat) :
    ∃ net' : Network, Steps Network.next (Quiet session) net net' ∧ Going session files c net' ∧
      net'.rcopy.info.window.current = net.rcopy.info.window.current ∧
      net.rcopy.info.window.lower.toNat < net'.rcopy.info.window.lower.toNat := by
  obtain ⟨net₁, child, num, value, hsteps, h₁, hrcopy, hget, hrr, hvalue⟩ := h.deliver hroom hout
  obtain ⟨n, htransfer, _⟩ := h₁.talk
  rw [← hrcopy] at hvalue hout ⊢
  have hrecv := @steps_rcopyRecv session net₁ c child hget
    (fun peer hpeer => Option.some.inj (hpeer.symm.trans h₁.accepted)) _ hrr
  have hturn : ∃ state, (state = .sendDataState ∨ ∃ count, state = .waitOnAckState count) ∧
      rcopyStep net₁.rcopy (.recv (.child c) (builtPacket num flagRr (htonl value)))
        = ⟨state, { net₁.rcopy.info with
            server := .child c, window := windowRr net₁.rcopy.info.window value }⟩ := by
    rcases h₁.state with hstate | ⟨count, hstate⟩
    · refine ⟨.sendDataState, .inl rfl, ?_⟩
      simp only [rcopyStep, hstate, processControlsTurn_rr]
    · refine ⟨.waitOnAckState (count + 1), .inr ⟨_, rfl⟩, ?_⟩
      simp only [rcopyStep, hstate, processControlsTurn_rr]
  obtain ⟨state, hstate, hturn⟩ := hturn
  rw [hturn] at hrecv
  refine ⟨_, hsteps.trans hrecv, ⟨h₁.run.trans hrecv, h₁.accepted, hstate, h₁.child⟩,
    htransfer.window.rr_current value, ?_⟩
  show _ < (windowRr net₁.rcopy.info.window value).lower.toNat
  rw [htransfer.window.toNat_rr_lower, WindowInv.rrLower]
  omega

theorem advance (h : Going session files c net)
    (hroom : session.chunks.length + session.windowSize.toInt.toNat + 2 < 2 ^ 32)
    (hempty : net.rcopy.info.window.lower.toNat = net.rcopy.info.window.current.toNat) :
    ∃ net' : Network, Steps Network.next (Quiet session) net net' ∧
      (Closing session files c net' ∨ (Going session files c net' ∧
        net'.rcopy.info.window.lower.toNat = net.rcopy.info.window.lower.toNat ∧
        net.rcopy.info.window.current.toNat < net'.rcopy.info.window.current.toNat)) := by
  obtain ⟨n, htransfer, _⟩ := h.talk
  have hempty' := WindowInv.empty_iff.mpr hempty
  obtain ⟨retryCount, hturn⟩ := timeout_of_empty h.state hempty'
  have hready : TransferInv session n { net.rcopy.info with retryCount := retryCount } :=
    htransfer.congr rfl rfl rfl rfl rfl
  have hquiet : Quiet session net .rcopyTimeout := trivial
  have hstep := Steps.tail .refl hquiet (Network.next_of_step .rcopyTimeout)
  refine ⟨_, hstep, ?_⟩
  rcases hready.sendDataState_of_empty hroom hempty' with
    ⟨info, hsend, haccepted, hlower, hcurrent⟩ | ⟨info, packet, heof, haccepted⟩
  · rw [hturn, hsend] at hstep ⊢
    exact .inr ⟨⟨h.run.trans hstep, haccepted.trans h.accepted, .inl rfl, h.child⟩,
      congrArg UInt32.toNat hlower, hcurrent⟩
  · rw [hturn, heof] at hstep ⊢
    obtain ⟨child, hget, hstate⟩ := h.child
    exact .inl ⟨h.run.trans hstep, haccepted.trans h.accepted, ⟨_, 0, rfl⟩, child, hget,
      .inl hstate⟩

/-- What is left of the data phase. -/
def potential (session : Session) (net : Network) : Nat :=
  2 * (session.chunks.length + 2) - net.rcopy.info.window.lower.toNat
    - net.rcopy.info.window.current.toNat

theorem closing (h : Going session files c net)
    (hroom : session.chunks.length + session.windowSize.toInt.toNat + 2 < 2 ^ 32) :
    ∃ net', Steps Network.next (Quiet session) net net' ∧ Closing session files c net' := by
  refine @Steps.reach_of_potential _ _ _ _ (Going session files c) (Closing session files c)
    (potential session) (fun net h => ?_) net h
  obtain ⟨n, htransfer, _⟩ := h.talk
  have hle := htransfer.le
  have hcurrent := htransfer.current_eq
  rcases Nat.lt_or_eq_of_le htransfer.window.lower_le with hout | hempty
  · obtain ⟨net', hsteps, h', hsame, hlower⟩ := h.acknowledged hroom hout
    obtain ⟨n', htransfer', _⟩ := h'.talk
    have hspan := htransfer'.window.lower_le
    refine ⟨net', hsteps, .inr ⟨h', ?_⟩⟩
    rw [hsame] at hspan
    simp only [potential, hsame]
    omega
  · obtain ⟨net', hsteps, hclosing | ⟨h', hlower, hmore⟩⟩ := h.advance hroom hempty
    · exact ⟨net', hsteps, .inl hclosing⟩
    · obtain ⟨n', htransfer', _⟩ := h'.talk
      have hle' := htransfer'.le
      have hcurrent' := htransfer'.current_eq
      refine ⟨net', hsteps, .inr ⟨h', ?_⟩⟩
      simp only [potential, hlower]
      omega

end Going

/-! ## The last two datagrams -/

theorem processFile_sendEofRecv {info : RcopyInfo} (hclean : info.hadError = false)
    (packet : Bytes) (tries : Nat) (src : Addr) (num : UInt32) :
    processFile (sendEofRecv info packet tries src (builtPacket num flagEofAck [])) = some 0 := by
  have hlen : ([] : Bytes).length ≤ srejMaxData := Nat.zero_le srejMaxData
  have hcheck := checkPacket_builtPacket num flagEofAck hlen
  have hflag := getFlag_builtPacket num flagEofAck hlen
  generalize builtPacket num flagEofAck [] = ack at *
  have hdone : sendEofRecv info packet tries src ack
      = ⟨.done, sendFinalDone { info with server := src }⟩ := if_pos ⟨hcheck, hflag⟩
  rw [hdone]
  exact processFile_eq_zero.mpr hclean

namespace Closing

theorem answered (h : Closing session files c net) :
    ∃ (net' : Network) (child : Child OutFile), Steps Network.next (Quiet session) net net' ∧
      net'.rcopy = net.rcopy ∧ net'.children[c]? = some child ∧ child.Answered := by
  obtain ⟨child, hget, hstate | hanswered⟩ := h.child
  · obtain ⟨_, other, hserves⟩ := serves_of_run h.run h.accepted
    have hsaid : session.eofPacket ∈ net.rcopy.info.said := by
      have htalk := rcopyTalk_run h.run
      obtain ⟨packet, tries, hrcopy⟩ := h.state
      generalize net.rcopy = rcopy at htalk hrcopy
      cases htalk with
      | sendEof h =>
          obtain ⟨a, _, _, hsaid⟩ := h.said
          rw [hsaid, List.replicate_succ]
          exact List.mem_append_right _ List.mem_cons_self
      | _ => cases hrcopy
    have hflag := session.getFlag_eofPacket
    have hname : getFlag session.eofPacket ≠ flagFilename := by
      rw [hflag]
      decide
    have hsteps := @steps_childRecv session net c child hget _ (hserves.sent_of_said hname hsaid)
    have hcheck : checkPacket session.eofPacket = true :=
      checkPacket_builtPacket _ flagEof (Nat.zero_le srejMaxData)
    have hturn : (childStep OutFile.write (net.load child)
        (.recv .rcopy session.eofPacket)).Answered := by
      have hload : (net.load child).state = .recvData := hstate
      simp only [childStep, hload]
      exact recvDataRecv_eof hcheck hflag
    obtain ⟨hlt, _⟩ := List.getElem?_eq_some_iff.mp hget
    exact ⟨_, _, hsteps, rfl, List.getElem?_set_self hlt, hturn⟩
  · exact ⟨net, child, .refl, rfl, hget, hanswered⟩

theorem finish (h : Closing session files c net) :
    ∃ net' : Network, Steps Network.next (Quiet session) net net' ∧
      processFile net'.rcopy = some 0 ∧ net'.files session.outName = session.file := by
  obtain ⟨net₁, child, hsteps, hrcopy, hget, num, hack⟩ := h.answered
  have haccepted : net₁.rcopy.info.accepted = some (.child c) := hrcopy ▸ h.accepted
  have hrecv := @steps_rcopyRecv session net₁ c child hget
    (fun peer hpeer => Option.some.inj (hpeer.symm.trans haccepted)) _ hack
  obtain ⟨packet, tries, hstate⟩ := h.state
  have hclean : net₁.rcopy.info.hadError = false := by
    have htalk := rcopyTalk_run h.run
    rw [hrcopy]
    generalize net.rcopy = rcopy at htalk hstate
    cases htalk with
    | sendEof h hclean => exact hclean
    | _ => cases hstate
  have hturn : rcopyStep net₁.rcopy (.recv (.child c) (builtPacket num flagEofAck []))
      = sendEofRecv net₁.rcopy.info packet tries (.child c) (builtPacket num flagEofAck []) := by
    rw [← hrcopy] at hstate
    simp only [rcopyStep, hstate]
  have hresult := processFile_sendEofRecv hclean packet tries (.child c) num
  rw [hturn] at hrecv
  have hrun := (h.run.trans hsteps).trans hrecv
  exact ⟨_, hsteps.trans hrecv, hresult, Session.Run.file_of_processFile hrun hresult⟩

end Closing

theorem Going.finish (h : Going session files c net)
    (hroom : session.chunks.length + session.windowSize.toInt.toNat + 2 < 2 ^ 32) :
    ∃ net' : Network, Steps Network.next (Quiet session) net net' ∧
      processFile net'.rcopy = some 0 ∧ net'.files session.outName = session.file := by
  obtain ⟨net₁, hsteps, hclosing⟩ := h.closing hroom
  obtain ⟨net₂, hsteps', hend⟩ := hclosing.finish
  exact ⟨net₂, hsteps.trans hsteps', hend⟩

/-! ## The setup -/

theorem sendFilenameRecv_accepted {info : RcopyInfo} (h : SetupInv session info)
    (hcalloc : session.callocOk = true) (name : Bytes) (tries : Nat) (src : Addr) (num : UInt32) :
    ∃ info', sendFilenameRecv info name tries src (builtPacket num flagFilenameResp [0])
        = sendDataState info' ∧ TransferInv session 0 info' ∧
      windowEmpty info'.window = true ∧ info'.accepted = some src := by
  have hlen : [(0 : UInt8)].length ≤ srejMaxData := Nat.le_add_left 1 1399
  have hlength := length_builtPacket num flagFilenameResp hlen
  have hdrop := drop_builtPacket num flagFilenameResp hlen
  have hcheck := checkPacket_builtPacket num flagFilenameResp hlen
  have hflag := getFlag_builtPacket num flagFilenameResp hlen
  generalize builtPacket num flagFilenameResp [0] = packet at *
  have hvalue : packet.getD srejHeaderLen 0 = 0 := by
    rw [List.getD_eq_getElem?_getD, ← Nat.add_zero srejHeaderLen, ← List.getElem?_drop, hdrop]
    rfl
  have haccept : ¬ (packet.length < srejHeaderLen + 1 ∨ packet.getD srejHeaderLen 0 ≠ 0) := by
    rw [hlength, hvalue]
    exact not_or.mpr ⟨Nat.lt_irrefl _, fun hne => hne rfl⟩
  have hmemory := @calloc_ok WindowEntry session.windowSize sizeofWindowEntry .zero
    (Int32.le_of_lt session.window_pos) (by decide)
  obtain ⟨window, hinit⟩ : ∃ window,
      windowInit info.callocOk info.windowSize (info.controlSeq + 1) = some window := by
    simp only [windowInit, h.callocOk, hcalloc, h.windowSize, hmemory]
    exact ⟨_, rfl⟩
  have htransfer : TransferInv session 0
      { info with
        server := src, controlSeq := info.controlSeq + 1, accepted := some src,
        window := window } :=
    h.windowInit hinit rfl rfl rfl (Option.some_ne_none src) rfl
  refine ⟨_, ?_, htransfer, ?_, rfl⟩
  · simp only [sendFilenameRecv, hcheck, hflag, and_self, if_true, if_neg haccept, hinit]
  · have hcurrent := htransfer.current_eq
    have hfirst := htransfer.window.first_le
    have hle := htransfer.window.lower_le
    rw [WindowInv.empty_iff]
    omega

/-- The first FILENAME packet is still under way to the server. -/
theorem filename_sent {ok : Network → Label → Prop} (h : session.Run files ok net) :
    ⟨.server, session.filenamePacket⟩ ∈ net.sentBy .rcopy := by
  refine @Steps.invariant _ _ _ _ _
    (fun net : Network => ⟨.server, session.filenamePacket⟩ ∈ net.sentBy .rcopy)
    (List.mem_singleton_self _) (fun net label net' hmem _ hnext => ?_) _ h
  exact (Network.sentBy_next hnext .rcopy).subset hmem

/-- It arrives once more: one more child, which opens the file, and rcopy accepts its response. -/
theorem opening (h : session.Run files (Quiet session) net) {packet : Bytes} {tries : Nat}
    (hstate : net.rcopy.state = .sendFilenamePacket packet tries)
    (hcalloc : session.callocOk = true)
    (hroom : session.chunks.length + session.windowSize.toInt.toNat + 2 < 2 ^ 32) :
    ∃ (net' : Network) (c : Nat), Steps Network.next (Quiet session) net net' ∧
      (Going session files c net' ∨ Closing session files c net') := by
  obtain ⟨hnet, _⟩ := Session.Run.joint h
  have hsetup := hnet.rcopy.setup_of_filename hstate
  have hnobody : ∀ peer, net.rcopy.info.accepted ≠ some peer := by
    intro peer hpeer
    rw [hsetup.accepted] at hpeer
    cases hpeer
  obtain ⟨child, info, hfork, hchild, hopen, _, hresp⟩ := exists_opened session
  -- the server forks
  have hquiet : Quiet session net (.serverRecv .rcopy session.filenamePacket) := trivial
  have hforked := Steps.tail .refl hquiet (Network.next_of_step
    (.serverForks (Network.deliverable_of_sent (filename_sent h)) hfork))
  have hget : (net.children ++ [child])[net.children.length]? = some child :=
    List.getElem?_concat_length
  -- the child opens the file
  have hopened := hforked.tail
    (show Quiet session _ (.childSetup net.children.length true true) from
      fun peer hpeer => absurd hpeer (hnobody peer))
    (Network.next_of_step (@Network.Step.childOpens _ net.children.length true child hget hchild))
  rw [hopen] at hopened
  have hget' : (Network.store { net with children := net.children ++ [child] }
      net.children.length ⟨.recvData, info⟩).children[net.children.length]?
        = some ⟨.recvData, info⟩ :=
    List.getElem?_set_self (List.getElem?_eq_some_iff.mp hget).1
  -- rcopy accepts
  have hrecv := @steps_rcopyRecv session (Network.store
    { net with children := net.children ++ [child] } net.children.length ⟨.recvData, info⟩)
    net.children.length _ hget' (fun peer hpeer => absurd hpeer (hnobody peer)) _ hresp
  obtain ⟨info', haccept, htransfer, hempty, haccepted⟩ := sendFilenameRecv_accepted hsetup hcalloc
    packet tries (.child net.children.length) 1
  have hturn : rcopyStep net.rcopy (.recv (.child net.children.length)
      (builtPacket 1 flagFilenameResp [0])) = sendDataState info' := by
    rw [← haccept]
    simp only [rcopyStep, hstate]
  have hsteps := hopened.trans hrecv
  rw [show (Network.store { net with children := net.children ++ [child] } net.children.length
    ⟨.recvData, info⟩).rcopy = net.rcopy from rfl, hturn] at hsteps
  refine ⟨_, net.children.length, hsteps, ?_⟩
  rcases htransfer.sendDataState_of_empty hroom hempty with
    ⟨_, hsend, hkept, _, _⟩ | ⟨_, eof, heof, hkept⟩
  · rw [hsend] at hsteps ⊢
    exact .inl ⟨h.trans hsteps, hkept.trans haccepted, .inl rfl, _, hget', rfl⟩
  · rw [heof] at hsteps ⊢
    exact .inr ⟨h.trans hsteps, hkept.trans haccepted, ⟨eof, 0, rfl⟩, _, hget', .inl rfl⟩

/-! ## Beyond recovery -/

theorem processFile_error {info : RcopyInfo} (herr : info.hadError = true) :
    processFile ⟨.done, info⟩ ≠ some 0 := by
  intro hresult
  rw [processFile_eq_zero, herr] at hresult
  cases hresult

theorem processFile_ne_of_state {rcopy : Rcopy} (h : rcopy.state ≠ .done) :
    processFile rcopy ≠ some 0 := by
  obtain ⟨state, info⟩ := rcopy
  intro hresult
  cases state with
  | done => exact h rfl
  | _ => cases hresult

theorem processFile_retryLoop {loop : Nat → RcopyAt} (hloop : ∀ n, loop n ≠ .done)
    (packet : Bytes) (tries : Nat) (info : RcopyInfo) :
    processFile (retryLoop loop packet tries info) ≠ some 0 := by
  simp only [retryLoop]
  split
  · exact processFile_ne_of_state (hloop _)
  · exact processFile_error rfl

theorem processFile_sendDataState (info : RcopyInfo) :
    processFile (sendDataState info) ≠ some 0 := by
  have hleave : ∀ info, processFile (sendDataLeave info) ≠ some 0 := by
    intro info
    simp only [sendDataLeave]
    split
    · exact processFile_ne_of_state RcopyAt.noConfusion
    · exact processFile_ne_of_state RcopyAt.noConfusion
  simp only [sendDataState]
  split
  · split
    · exact hleave _
    · exact processFile_error rfl
    · exact hleave _
    · exact processFile_ne_of_state RcopyAt.noConfusion
  · exact hleave _

theorem processFile_waitOnAckTimeout (info : RcopyInfo) (gotControl : Nat) :
    processFile (waitOnAckTimeout info gotControl) ≠ some 0 := by
  simp only [waitOnAckTimeout]
  split
  · exact processFile_sendDataState _
  · split
    · exact processFile_sendDataState _
    · split
      · exact processFile_error rfl
      · exact processFile_ne_of_state RcopyAt.noConfusion

theorem processFile_sendFilenameRecv (info : RcopyInfo) (name : Bytes) (tries : Nat) (src : Addr)
    (packet : Bytes) : processFile (sendFilenameRecv info name tries src packet) ≠ some 0 := by
  simp only [sendFilenameRecv]
  split
  · split
    · exact processFile_error rfl
    · split
      · exact processFile_ne_of_state RcopyAt.noConfusion
      · exact processFile_sendDataState _
  · exact processFile_retryLoop (fun _ => RcopyAt.noConfusion) _ _ _

/-- What makes `process_file` return 0 is an EOF_ACK. -/
theorem processFile_step {rcopy : Rcopy} {ev : PollEvent}
    (h : processFile (rcopyStep rcopy ev) = some 0) :
    processFile rcopy = some 0 ∨ (rcopy.Waiting ∧ ∃ src packet, ev = .recv src packet ∧
      checkPacket packet = true ∧ getFlag packet = flagEofAck) := by
  obtain ⟨state, info⟩ := rcopy
  cases state with
  | sendFilenamePacket name tries =>
      cases ev with
      | timeout => exact absurd h (processFile_retryLoop (fun _ => RcopyAt.noConfusion) _ _ _)
      | recv src packet => exact absurd h (processFile_sendFilenameRecv info name tries src packet)
  | sendDataState =>
      cases ev with
      | timeout => exact absurd h (processFile_sendDataState info)
      | recv src packet => cases h
  | waitOnAckState count =>
      cases ev with
      | timeout => exact absurd h (processFile_waitOnAckTimeout info count)
      | recv src packet => cases h
  | sendEofState eof tries =>
      have hretry : ∀ info, processFile (sendEofRetry info eof tries) ≠ some 0 :=
        processFile_retryLoop (fun _ => RcopyAt.noConfusion) eof tries
      cases ev with
      | timeout => exact absurd h (hretry info)
      | recv src packet =>
          refine .inr ⟨⟨RcopyAt.noConfusion, RcopyAt.noConfusion⟩, src, packet, rfl, ?_⟩
          by_contra hack
          have hturn : rcopyStep ⟨.sendEofState eof tries, info⟩ (.recv src packet)
              = sendEofRetry { info with server := src } eof tries := if_neg hack
          rw [hturn] at h
          exact hretry _ h
  | done => cases ev <;> exact .inl h
  | exited => cases ev <;> cases h

theorem ChildPacket.of_eofAck {log : List Sent} {expected : UInt32} {packet : Bytes}
    (h : ChildPacket session log expected packet) (hflag : getFlag packet = flagEofAck) :
    EofSent session log ∧ ∃ num, packet = builtPacket num flagEofAck [] := by
  cases h with
  | resp num =>
      have hlen : [(0 : UInt8)].length ≤ srejMaxData := Nat.le_of_ble_eq_true rfl
      rw [getFlag_builtPacket num flagFilenameResp hlen] at hflag
      exact absurd hflag (by decide)
  | rr num hlo hle =>
      rw [getFlag_builtPacket num flagRr (length_htonl_le _)] at hflag
      exact absurd hflag (by decide)
  | srej num hlt hk hsent =>
      rw [getFlag_builtPacket num flagSrej (length_htonl_le _)] at hflag
      exact absurd hflag (by decide)
  | eofAck num heof => exact ⟨heof, num, rfl⟩

theorem ChildInv.of_eofAck {log : List Sent} {child : Child OutFile}
    (h : ChildInv session log child) {entry : SentAt OutFile} (hentry : entry ∈ child.info.log)
    (hflag : getFlag entry.sent.packet = flagEofAck) :
    EofSent session log ∧ ∃ num, entry.sent.packet = builtPacket num flagEofAck [] := by
  have hother : getFlag entry.sent.packet ≠ flagFilenameResp := by
    rw [hflag]
    decide
  exact ((h.serving_of_flag hentry hother).packets entry hentry).of_eofAck hflag

theorem NetInv.answered_of_eofAck (hnet : NetInv session net) {child : Child OutFile}
    (hget : net.children[c]? = some child) {packet : Bytes}
    (hdel : net.deliverable (.child c) .rcopy packet = true) (hcheck : checkPacket packet = true)
    (hflag : getFlag packet = flagEofAck) : child.Answered := by
  obtain ⟨k, other, hk, hother, entry, hentry, hpacket⟩ := hnet.from_child hdel
  obtain rfl := Addr.child.inj hk
  obtain rfl := Option.some.inj (hother.symm.trans hget)
  have hinv := hnet.children other (List.mem_of_getElem? hget)
  rw [← hpacket hcheck] at hflag
  obtain ⟨_, num, hack⟩ := hinv.of_eofAck hentry hflag
  refine ⟨num, ?_⟩
  rw [← hack, ← hinv.base.dst entry hentry]
  exact List.mem_map.mpr ⟨entry, hentry, rfl⟩

/-- Child `c` is accepted, has ended without an EOF_ACK, and `process_file` has not returned 0. -/
structure Lost (session : Session) (files : Bytes → Bytes) (c : Nat) (net : Network) : Prop where
  run : session.Run files (Quiet session) net
  accepted : net.rcopy.info.accepted = some (.child c)
  child : ∃ child : Child OutFile, net.children[c]? = some child ∧
    (child.state = .done ∨ child.state = .exited) ∧ ¬ child.Answered
  result : processFile net.rcopy ≠ some 0

namespace Lost

theorem child_next (h : Lost session files c net) {net' : Network} {label : Label}
    (hnext : net.next label = some net') : ∃ child : Child OutFile,
      net'.children[c]? = some child ∧ (child.state = .done ∨ child.state = .exited) ∧
        ¬ child.Answered := by
  obtain ⟨child, hget, hstate, hnot⟩ := h.child
  obtain ⟨hlt, _⟩ := List.getElem?_eq_some_iff.mp hget
  have hkept : ∃ child : Child OutFile, net.children[c]? = some child ∧
      (child.state = .done ∨ child.state = .exited) ∧ ¬ child.Answered :=
    ⟨child, hget, hstate, hnot⟩
  have hpoll : ∀ {n : Nat} {ev : PollEvent} {net' : Network}, net.childPoll n ev = some net' →
      ∃ child : Child OutFile, net'.children[c]? = some child ∧
        (child.state = .done ∨ child.state = .exited) ∧ ¬ child.Answered := by
    intro n ev net' hpoll
    obtain ⟨other, hother, rfl⟩ := Network.childPoll_eq_some.mp hpoll
    rcases eq_or_ne n c with rfl | hne
    · obtain rfl := Option.some.inj (hother.symm.trans hget)
      have hstay : childStep OutFile.write (net.load other) ev = net.load other := by
        have hload : (net.load other).state = .done ∨ (net.load other).state = .exited := hstate
        generalize net.load other = loaded at hload
        obtain ⟨state, info⟩ := loaded
        rcases hload with hload | hload
        · obtain rfl : state = .done := hload
          cases ev <;> rfl
        · obtain rfl : state = .exited := hload
          cases ev <;> rfl
      rw [hstay]
      exact ⟨_, List.getElem?_set_self hlt, hstate, hnot⟩
    · exact ⟨child, (List.getElem?_set_ne hne).trans hget, hstate, hnot⟩
  have hsetup : ∀ {n : Nat} {other : Child OutFile} (opened : Option OutFile) (callocOk : Bool),
      net.children[n]? = some other → other.state = .filename →
      (net.children.set n (childSetup other opened callocOk))[c]? = some child := by
    intro n other opened callocOk hother hfilename
    have hne : n ≠ c := by
      rintro rfl
      obtain rfl := Option.some.inj (hother.symm.trans hget)
      rw [hfilename] at hstate
      rcases hstate with hstate | hstate <;> cases hstate
    exact (List.getElem?_set_ne hne).trans hget
  cases Network.step_of_next hnext with
  | rcopyTimeout => exact hkept
  | rcopyRecv hdel => exact hkept
  | serverForks hdel hfork =>
      exact ⟨child, (List.getElem?_append_left hlt).trans hget, hstate, hnot⟩
  | serverIgnores hdel hnone => exact hkept
  | childOpens hother hfilename => exact ⟨child, hsetup _ _ hother hfilename, hstate, hnot⟩
  | childRefuses hother hfilename => exact ⟨child, hsetup _ _ hother hfilename, hstate, hnot⟩
  | childTimeout hstep => exact hpoll hstep
  | childRecv hdel hstep => exact hpoll hstep

theorem step (h : Lost session files c net) {net' : Network} {label : Label}
    (hquiet : Quiet session net label) (hnext : net.next label = some net') :
    Lost session files c net' := by
  obtain ⟨hnet, child, hserves⟩ := serves_of_run h.run h.accepted
  obtain ⟨child', hserves'⟩ := hserves.step hnet hquiet hnext
  refine ⟨.tail h.run hquiet hnext, hserves'.accepted, h.child_next hnext, fun hresult => ?_⟩
  obtain ⟨other, hget, _, hnot⟩ := h.child
  have hcases := Network.step_of_next hnext
  have hpoll : ∀ {n : Nat} {ev : PollEvent} {net' : Network}, net.childPoll n ev = some net' →
      processFile net'.rcopy ≠ some 0 := by
    intro n ev net' hpoll
    obtain ⟨_, _, rfl⟩ := Network.childPoll_eq_some.mp hpoll
    exact h.result
  cases hcases with
  | rcopyTimeout =>
      rcases processFile_step hresult with hold | ⟨_, src, packet, hev, _⟩
      · exact h.result hold
      · cases hev
  | rcopyRecv hdel =>
      rcases processFile_step hresult with hold | ⟨hwait, src, packet, hev, hcheck, hflag⟩
      · exact h.result hold
      · obtain ⟨rfl, rfl⟩ := PollEvent.recv.inj hev
        obtain rfl := hquiet _ h.accepted hwait
        exact hnot (hnet.answered_of_eofAck hget hdel hcheck hflag)
  | serverForks hdel hfork => exact h.result hresult
  | serverIgnores hdel hnone => exact h.result hresult
  | childOpens hget hstate => exact h.result hresult
  | childRefuses hget hstate => exact h.result hresult
  | childTimeout hstep => exact hpoll hstep hresult
  | childRecv hdel hstep => exact hpoll hstep hresult

theorem forever (h : Lost session files c net) {net' : Network}
    (hsteps : Steps Network.next (Quiet session) net net') :
    processFile net'.rcopy ≠ some 0 :=
  (@Steps.invariant _ _ _ _ _ (Lost session files c) h
    (fun _ _ _ hlost hquiet hnext => hlost.step hquiet hnext) _ hsteps).result

end Lost

/-- Behind its last `pollCall` rcopy stays where it is. -/
theorem ended_forever (hend : ¬ net.rcopy.Waiting) {ok : Network → Label → Prop} {net' : Network}
    (hsteps : Steps Network.next ok net net') : net'.rcopy = net.rcopy := by
  refine @Steps.invariant _ _ _ _ _ (fun net' : Network => net'.rcopy = net.rcopy) rfl
    (fun mid label net' hmid _ hnext => ?_) _ hsteps
  rcases rcopy_next hnext with hsame | ⟨ev, hstep⟩
  · exact hsame.trans hmid
  · rw [hstep, hmid, not_waiting_rcopyStep hend]

/-! ## Exactly when -/

/-- rcopy has not given up, and its child, if it has one, still receives or has sent an EOF_ACK. -/
structure Recoverable (session : Session) (net : Network) : Prop where
  waiting : net.rcopy.Waiting
  memory : session.callocOk = true
  child : ∀ (c : Nat) (child : Child OutFile), net.rcopy.info.accepted = some (.child c) →
    net.children[c]? = some child → child.state = .recvData ∨ child.Answered

theorem not_answered (h : session.Run files (Quiet session) net)
    (hstate : net.rcopy.state = .sendDataState ∨ ∃ count, net.rcopy.state = .waitOnAckState count)
    {child : Child OutFile} (hmem : child ∈ net.children) : ¬ child.Answered := by
  rintro ⟨num, hsent⟩
  obtain ⟨hnet, _⟩ := Session.Run.joint h
  have hlen : ([] : Bytes).length ≤ srejMaxData := Nat.zero_le srejMaxData
  have hack := getFlag_builtPacket num flagEofAck hlen
  generalize builtPacket num flagEofAck [] = ack at hsent hack
  obtain ⟨entry, hentry, hpacket⟩ := List.mem_map.mp hsent
  have hinv := hnet.children child hmem
  have hflag : getFlag entry.sent.packet = flagEofAck := by rw [hpacket, hack]
  obtain ⟨heof, _⟩ := hinv.of_eofAck hentry hflag
  -- but rcopy has said data only
  obtain ⟨sent, hmem', heq⟩ := heof
  have hsaid : session.eofPacket ∈ net.rcopy.info.said := mem_said.mpr ⟨sent, hmem', heq⟩
  have hnone : ∀ {n : Nat} {data : List Bytes}, ¬ Talk session n data [] net.rcopy.info := by
    intro n data htalk
    obtain ⟨a, _, _, hall⟩ := htalk.said
    have heofFlag := session.getFlag_eofPacket
    rw [hall, List.append_nil] at hsaid
    rcases List.mem_append.mp hsaid with hname | hdata
    · rw [List.eq_of_mem_replicate hname, session.getFlag_filenamePacket] at heofFlag
      exact absurd heofFlag (by decide)
    · obtain ⟨i, _, hget⟩ := (htalk.spoken.mem_iff _).mp hdata
      rw [getFlag_dataPackets hget] at heofFlag
      exact absurd heofFlag (by decide)
  have htalk := rcopyTalk_run h
  generalize net.rcopy = rcopy at htalk hstate hnone
  cases htalk with
  | sendData h => exact hnone h
  | waitOnAck h => exact hnone h
  | _ => rcases hstate with hstate | ⟨count, hstate⟩ <;> cases hstate

/-- As long as it is possible at all, there is a way to the end. -/
theorem Recoverable.finish (h : Recoverable session net)
    (hrun : session.Run files (Quiet session) net)
    (hroom : session.chunks.length + session.windowSize.toInt.toNat + 2 < 2 ^ 32) :
    ∃ net' : Network, Steps Network.next (Quiet session) net net' ∧
      processFile net'.rcopy = some 0 ∧ net'.files session.outName = session.file := by
  obtain ⟨hnet, hjoint⟩ := Session.Run.joint hrun
  -- behind the setup the accepted child is there
  have hserved : net.rcopy.info.accepted ≠ none → ∃ (c : Nat) (child : Child OutFile),
      net.rcopy.info.accepted = some (.child c) ∧ net.children[c]? = some child ∧
      (child.state = .recvData ∨ child.Answered) := by
    intro haccepted
    rcases hjoint with hwaits | ⟨c, child, hserves⟩
    · exact absurd hwaits.accepted haccepted
    · exact ⟨c, child, hserves.accepted, hserves.get,
        h.child c child hserves.accepted hserves.get⟩
  have hgoing : (∃ n, TransferInv session n net.rcopy.info) →
      (net.rcopy.state = .sendDataState ∨ ∃ count, net.rcopy.state = .waitOnAckState count) →
      ∃ net' : Network, Steps Network.next (Quiet session) net net' ∧
        processFile net'.rcopy = some 0 ∧ net'.files session.outName = session.file := by
    rintro ⟨n, htransfer⟩ hstate
    obtain ⟨c, child, haccepted, hget, hrecv | hack⟩ := hserved htransfer.accepted
    · exact Going.finish ⟨hrun, haccepted, hstate, child, hget, hrecv⟩ hroom
    · exact absurd hack (not_answered hrun hstate (List.mem_of_getElem? hget))
  have hwait := h.waiting
  have hinv := hnet.rcopy
  generalize hrcopy : net.rcopy = rcopy at hinv hwait
  cases hinv with
  | filename h' =>
      obtain ⟨net₁, c, hsteps, hgo | hclose⟩ :=
        opening hrun (congrArg Rcopy.state hrcopy) h.memory hroom
      · obtain ⟨net₂, hsteps', hend⟩ := hgo.finish hroom
        exact ⟨net₂, hsteps.trans hsteps', hend⟩
      · obtain ⟨net₂, hsteps', hend⟩ := hclose.finish
        exact ⟨net₂, hsteps.trans hsteps', hend⟩
  | sendData htransfer =>
      exact hgoing ⟨_, by rw [hrcopy]; exact htransfer⟩ (.inl (congrArg Rcopy.state hrcopy))
  | waitOnAck htransfer =>
      exact hgoing ⟨_, by rw [hrcopy]; exact htransfer⟩ (.inr ⟨_, congrArg Rcopy.state hrcopy⟩)
  | @sendEof info n tries htransfer hclosed =>
      obtain ⟨c, child, haccepted, hget, hchild⟩ :=
        hserved (by rw [hrcopy]; exact htransfer.accepted)
      exact Closing.finish
        ⟨hrun, haccepted, ⟨_, tries, congrArg Rcopy.state hrcopy⟩, child, hget, hchild⟩
  | refused _ _ => exact absurd rfl hwait.1
  | exited _ _ _ _ => exact absurd rfl hwait.2
  | failed _ _ => exact absurd rfl hwait.1
  | finished _ _ => exact absurd rfl hwait.1

end Recovery

/-- Whatever has been lost so far and however many tries are used up: a run can still be continued
to a return of 0 and a complete file, unless rcopy has given up, has no memory for a window, or
its child has ended without an EOF_ACK. -/
theorem recoverable_iff {session : Session} {files : Bytes → Bytes} {net : Network}
    (h : session.Run files (Quiet session) net)
    (hroom : session.chunks.length + session.windowSize.toInt.toNat + 2 < 2 ^ 32) :
    (∃ net' : Network, Steps Network.next (Quiet session) net net' ∧
      processFile net'.rcopy = some 0 ∧ net'.files session.outName = session.file) ↔
    (processFile net.rcopy = some 0 ∨ Recoverable session net) := by
  obtain ⟨hnet, _⟩ := Session.Run.joint h
  constructor
  · rintro ⟨net', hsteps, hresult, _⟩
    refine or_iff_not_imp_left.mpr fun hnot => ⟨?_, ?_, ?_⟩
    · by_contra hend
      rw [ended_forever hend hsteps] at hresult
      exact hnot hresult
    · by_contra hcalloc
      have hnull := Session.Run.null_of_calloc (Bool.eq_false_iff.mpr hcalloc) (h.trans hsteps)
      obtain ⟨n, htransfer, _⟩ :=
        (Session.Run.netInv (h.trans hsteps)).rcopy.closed_of_processFile hresult
      exact htransfer.window_ne_null hnull
    · intro c child haccepted hget
      by_contra hlost
      obtain ⟨hrecv, hack⟩ := not_or.mp hlost
      refine Lost.forever ⟨h, haccepted, ⟨child, hget, ?_, hack⟩, hnot⟩ hsteps hresult
      obtain ⟨_, other, hserves⟩ := serves_of_run h haccepted
      cases hstate : child.state with
      | filename => exact absurd rfl (hserves.ne_of_filename hnet hget hstate)
      | recvData => exact absurd hstate hrecv
      | waitOnDone =>
          exact absurd ((answered_run h).2 child (List.mem_of_getElem? hget) hstate) hack
      | done => exact .inl rfl
      | exited => exact .inr rfl
  · rintro (hresult | hopen)
    · exact ⟨net, .refl, hresult, Session.Run.file_of_processFile h hresult⟩
    · exact hopen.finish h hroom

/-- The one data packet has been lost ten times, and rcopy would give up at the next timeout. -/
theorem recoverable_iff_letter :
    ∃ net, exec Network.next (letterSession.network fun _ => [1, 2])
        (letterRun.take 3 ++ List.replicate 10 .rcopyTimeout) = some net ∧
      processFile (rcopyStep net.rcopy .timeout) = some (-1) ∧
      ∃ net' : Network, Steps Network.next (Quiet letterSession) net net' ∧
        processFile net'.rcopy = some 0 ∧ net'.files [97] = [65] := by
  have hexec : (exec Network.next (letterSession.network fun _ => [1, 2])
      (letterRun.take 3 ++ List.replicate 10 .rcopyTimeout)).map (fun net =>
        (net.rcopy.state, processFile (rcopyStep net.rcopy .timeout),
          net.children.map Child.state))
      = some (.waitOnAckState 0, some (-1), [.recvData]) := by
    decide +kernel
  obtain ⟨net, hnet, heq⟩ := Option.map_eq_some_iff.mp hexec
  obtain ⟨hstate, heq⟩ := Prod.mk.inj heq
  obtain ⟨hlast, hchildren⟩ := Prod.mk.inj heq
  have hone : net.children.length = 1 := by
    rw [← List.length_map Child.state, hchildren]
    rfl
  have hroom : letterSession.chunks.length + letterSession.windowSize.toInt.toNat + 2 < 2 ^ 32 := by
    decide
  have hquiet := Session.Reach.quiet (Steps.of_exec hnet) (Nat.le_of_eq hone)
  have hopen : Recoverable letterSession net := by
    refine ⟨⟨?_, ?_⟩, rfl, fun c child _ hget => .inl ?_⟩
    · rw [hstate]
      exact RcopyAt.noConfusion
    · rw [hstate]
      exact RcopyAt.noConfusion
    · have hmem : child.state ∈ net.children.map Child.state :=
        List.mem_map.mpr ⟨child, List.mem_of_getElem? hget, rfl⟩
      rw [hchildren] at hmem
      exact List.mem_singleton.mp hmem
  exact ⟨net, hnet, hlast, (recoverable_iff hquiet hroom).mpr (.inr hopen)⟩

end SelectiveReject
