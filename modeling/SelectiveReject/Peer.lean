/-
# `SelectiveReject.Peer` — whom rcopy talks to

`info->server` is wherever the last datagram came from, and every `safeSendto` goes there.  A
step of rcopy therefore has one peer, the one it had on a timeout and the source on a datagram,
and `TalksTo` is what such a step does to the fields other processes depend on:

    sent       grows by packets to the peer
    lower      stays (only an RR moves the lower end of the window)
    accepted   stays (only the response that opens the transfer sets it)

`rcopyStep_timeout` and `rcopyStep_recv` say which of these a step is.
-/
import SelectiveReject.Damage
import SelectiveReject.RcopyInv

namespace SelectiveReject

/-- A step that talks to `peer`, releases nothing and accepts nobody. -/
structure TalksTo (peer : Addr) (info info' : RcopyInfo) : Prop where
  server : info'.server = peer
  accepted : info'.accepted = info.accepted
  lower : info'.window.lower = info.window.lower
  sent : ∀ sent ∈ info'.sent, sent ∈ info.sent ∨ sent.dst = peer

theorem talksTo_silent {peer : Addr} {info info' : RcopyInfo} (hpeer : info'.server = peer)
    (haccepted : info'.accepted = info.accepted) (hwindow : info'.window = info.window)
    (hsent : info'.sent = info.sent) : TalksTo peer info info' :=
  ⟨hpeer, haccepted, congrArg Window.lower hwindow, fun _ hmem => .inl (hsent ▸ hmem)⟩

/-- The fields in which `mid` differs from `info` do not matter. -/
theorem TalksTo.start {peer : Addr} {info mid info' : RcopyInfo} (h : TalksTo peer mid info')
    (haccepted : mid.accepted = info.accepted) (hwindow : mid.window = info.window)
    (hsent : mid.sent = info.sent) : TalksTo peer info info' :=
  ⟨h.server, h.accepted.trans haccepted, h.lower.trans (congrArg Window.lower hwindow),
    hsent ▸ h.sent⟩

/-! ## Between two `pollCall`s -/

section Send

variable {peer : Addr} {info : RcopyInfo}

theorem talksTo_safeSendto (hpeer : info.server = peer) (packet : Bytes) :
    TalksTo peer info (info.safeSendto packet) := by
  refine ⟨hpeer, rfl, rfl, fun sent hsent => ?_⟩
  rcases List.mem_append.mp hsent with hold | hnew
  · exact .inl hold
  · rw [List.mem_singleton.mp hnew]
    exact .inr hpeer

theorem talksTo_retryLoop (hpeer : info.server = peer) (loop : Nat → RcopyAt) (packet : Bytes)
    (tries : Nat) : TalksTo peer info (retryLoop loop packet tries info).info := by
  simp only [retryLoop]
  split
  · exact talksTo_safeSendto hpeer packet
  · exact talksTo_silent hpeer rfl rfl rfl

theorem talksTo_sendDataLeave (hpeer : info.server = peer) :
    TalksTo peer info (sendDataLeave info).info := by
  simp only [sendDataLeave]
  split
  · exact talksTo_safeSendto hpeer _
  · exact talksTo_silent hpeer rfl rfl rfl

theorem talksTo_sendDataState (hpeer : info.server = peer) :
    TalksTo peer info (sendDataState info).info := by
  simp only [sendDataState]
  split
  · split
    · refine (talksTo_sendDataLeave ?_).start rfl rfl rfl
      exact hpeer
    · exact talksTo_silent hpeer rfl rfl rfl
    · refine (talksTo_sendDataLeave ?_).start rfl rfl rfl
      exact hpeer
    · exact ⟨hpeer, rfl, WindowInv.add_lower _ _ _, (talksTo_safeSendto hpeer _).sent⟩
  · exact talksTo_sendDataLeave hpeer

theorem talksTo_waitOnAckTimeout (hpeer : info.server = peer) (gotControl : Nat) :
    TalksTo peer info (waitOnAckTimeout info gotControl).info := by
  simp only [waitOnAckTimeout]
  split
  · refine (talksTo_sendDataState ?_).start rfl rfl rfl
    exact hpeer
  · split
    · exact talksTo_sendDataState hpeer
    · split
      · exact talksTo_silent hpeer rfl rfl rfl
      · show TalksTo peer info (RcopyInfo.safeSendto _ _)
        refine (talksTo_safeSendto ?_ _).start rfl rfl rfl
        exact hpeer

end Send

theorem rcopyStep_timeout (rcopy : Rcopy) :
    TalksTo rcopy.info.server rcopy.info (rcopyStep rcopy .timeout).info := by
  obtain ⟨state, info⟩ := rcopy
  cases state with
  | sendFilenamePacket packet tries => exact talksTo_retryLoop rfl _ packet tries
  | sendDataState => exact talksTo_sendDataState rfl
  | waitOnAckState count => exact talksTo_waitOnAckTimeout rfl count
  | sendEofState packet tries => exact talksTo_retryLoop rfl _ packet tries
  | done => exact talksTo_silent rfl rfl rfl rfl
  | exited => exact talksTo_silent rfl rfl rfl rfl

/-! ## A datagram -/

/-- An RR that `handle_rr` looks at: the window it leaves. -/
def TakesRr (src : Addr) (packet : Bytes) (info info' : RcopyInfo) : Prop :=
  checkPacket packet = true ∧ getFlag packet = flagRr ∧
    info' = { info with server := src, window := windowRr info.window (readU32 packet srejHeaderLen) }

/-- The response that opens the transfer: a window, if there is memory for it, and what
`send_data_state` does first. -/
def TakesResponse (src : Addr) (packet : Bytes) (info info' : RcopyInfo) : Prop :=
  checkPacket packet = true ∧ getFlag packet = flagFilenameResp ∧
    packet.getD srejHeaderLen 0 = 0 ∧ ∃ opened : RcopyInfo,
      opened.accepted = some src ∧ opened.sent = info.sent ∧
      (opened.window = info.window ∨
        windowInit info.callocOk info.windowSize (info.controlSeq + 1) = some opened.window) ∧
      TalksTo src opened info'

/-- Any other datagram from `src`. -/
def TakesDatagram (src : Addr) (packet : Bytes) (info info' : RcopyInfo) : Prop :=
  (TalksTo src info info' ∧ info'.window = info.window) ∨ TakesRr src packet info info'

theorem window_retryLoop (loop : Nat → RcopyAt) (packet : Bytes) (tries : Nat)
    (info : RcopyInfo) : (retryLoop loop packet tries info).info.window = info.window := by
  simp only [retryLoop]
  split
  · rfl
  · rfl

theorem processControlsTurn_takes (info : RcopyInfo) (count : Nat) (src : Addr)
    (packet : Bytes) :
    TakesDatagram src packet info (processControlsTurn info count src packet).1 := by
  have hself : TakesDatagram src packet info { info with server := src } :=
    .inl ⟨talksTo_silent rfl rfl rfl rfl, rfl⟩
  simp only [processControlsTurn]
  split
  · rename_i hcheck
    split
    · rename_i hflag
      simp only [handleRr]
      split
      · exact hself
      · exact .inr ⟨hcheck, hflag, rfl⟩
    · split
      · simp only [handleReject]
        split
        · exact hself
        · split
          · exact .inl ⟨(@talksTo_safeSendto src { info with server := src } rfl _).start rfl rfl rfl,
              rfl⟩
          · exact hself
      · exact hself
  · exact hself

theorem sendFilenameRecv_takes (info : RcopyInfo) (packet : Bytes) (tries : Nat) (src : Addr)
    (inPacket : Bytes) :
    TakesDatagram src inPacket info (sendFilenameRecv info packet tries src inPacket).info ∨
      TakesResponse src inPacket info (sendFilenameRecv info packet tries src inPacket).info := by
  simp only [sendFilenameRecv]
  split
  · rename_i hresp
    split
    · exact .inl (.inl ⟨talksTo_silent rfl rfl rfl rfl, rfl⟩)
    · rename_i hvalue
      refine .inr ⟨hresp.1, hresp.2, not_not.mp fun hne => hvalue (.inr hne), ?_⟩
      split
      · exact ⟨{ info with server := src, controlSeq := info.controlSeq + 1, accepted := some src },
          rfl, rfl, .inl rfl, talksTo_silent rfl rfl rfl rfl⟩
      · rename_i window hinit
        exact ⟨{ info with
            server := src, controlSeq := info.controlSeq + 1, accepted := some src
            window := window },
          rfl, rfl, .inr hinit, talksTo_sendDataState rfl⟩
  · exact .inl (.inl ⟨(@talksTo_retryLoop src { info with server := src } rfl _ packet
      tries).start rfl rfl rfl, window_retryLoop _ packet tries _⟩)

theorem sendEofRecv_takes (info : RcopyInfo) (packet : Bytes) (tries : Nat) (src : Addr)
    (inPacket : Bytes) :
    TakesDatagram src inPacket info (sendEofRecv info packet tries src inPacket).info := by
  simp only [sendEofRecv]
  split
  · exact .inl ⟨(@talksTo_safeSendto src { info with server := src } rfl _).start rfl rfl rfl, rfl⟩
  · exact .inl ⟨(@talksTo_retryLoop src { info with server := src } rfl _ packet
      tries).start rfl rfl rfl, window_retryLoop _ packet tries _⟩

/-- What a datagram does to rcopy. -/
theorem rcopyStep_recv (rcopy : Rcopy) (src : Addr) (packet : Bytes) :
    (¬ rcopy.Waiting ∧ rcopyStep rcopy (.recv src packet) = rcopy) ∨
    (rcopy.Waiting ∧
      TakesDatagram src packet rcopy.info (rcopyStep rcopy (.recv src packet)).info) ∨
    ((∃ name tries, rcopy.state = .sendFilenamePacket name tries) ∧
      TakesResponse src packet rcopy.info (rcopyStep rcopy (.recv src packet)).info) := by
  obtain ⟨state, info⟩ := rcopy
  cases state with
  | sendFilenamePacket name tries =>
      rcases sendFilenameRecv_takes info name tries src packet with htalks | htakes
      · exact .inr (.inl ⟨⟨by simp, by simp⟩, htalks⟩)
      · exact .inr (.inr ⟨⟨name, tries, rfl⟩, htakes⟩)
  | sendDataState =>
      exact .inr (.inl ⟨⟨by simp, by simp⟩, processControlsTurn_takes info 0 src packet⟩)
  | waitOnAckState count =>
      exact .inr (.inl ⟨⟨by simp, by simp⟩, processControlsTurn_takes info count src packet⟩)
  | sendEofState name tries =>
      exact .inr (.inl ⟨⟨by simp, by simp⟩, sendEofRecv_takes info name tries src packet⟩)
  | done => exact .inl ⟨fun hwait => hwait.1 rfl, rfl⟩
  | exited => exact .inl ⟨fun hwait => hwait.2 rfl, rfl⟩

theorem sent_rcopyStep_recv {rcopy : Rcopy} {src : Addr} {packet : Bytes} {sent : Sent}
    (h : sent ∈ (rcopyStep rcopy (.recv src packet)).info.sent) :
    sent ∈ rcopy.info.sent ∨ sent.dst = src := by
  rcases rcopyStep_recv rcopy src packet with
    ⟨_, hsame⟩ | ⟨_, ⟨htalks, _⟩ | ⟨_, _, hrr⟩⟩ | ⟨_, _, _, _, opened, _, hsent, _, htalks⟩
  · rw [hsame] at h
    exact .inl h
  · exact htalks.sent sent h
  · rw [hrr] at h
    exact .inl h
  · rw [← hsent]
    exact htalks.sent sent h

theorem server_rcopyStep_recv (rcopy : Rcopy) (src : Addr) (packet : Bytes) :
    (rcopyStep rcopy (.recv src packet)).info.server = rcopy.info.server ∨
      (rcopyStep rcopy (.recv src packet)).info.server = src := by
  rcases rcopyStep_recv rcopy src packet with
    ⟨_, hsame⟩ | ⟨_, ⟨htalks, _⟩ | ⟨_, _, hrr⟩⟩ | ⟨_, _, _, _, opened, _, _, _, htalks⟩
  · rw [hsame]
    exact .inl rfl
  · exact .inr htalks.server
  · rw [hrr]
    exact .inr rfl
  · exact .inr htalks.server

end SelectiveReject
