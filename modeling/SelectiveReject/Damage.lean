/-
# `SelectiveReject.Damage` — what a rejected datagram leaves behind

Every receive of the two programs passes the address of the session itself to
`safeRecvfrom`, so the source of a datagram is stored before `check_packet` has been asked.  A
datagram that is then thrown away has moved `info->server` or `info->client` to wherever it came
from (`damaged_rcopy`, `damaged_child`), and changed nothing else.

So a rejected datagram is harmless exactly when it comes from the current peer.  For
whole runs: a child does not notice such datagrams at all; rcopy takes one in the
two loops that count tries for a timeout, and sends nothing that it would not have
sent without (`Behind`).
-/
import SelectiveReject.Lib.Machine
import SelectiveReject.Rcopy
import SelectiveReject.Server

namespace SelectiveReject

open Machine

/-! ## One datagram -/

/-- rcopy is in one of its `pollCall`s. -/
def Rcopy.Waiting (rcopy : Rcopy) : Prop := rcopy.state ≠ .done ∧ rcopy.state ≠ .exited

def Child.Waiting {F : Type} (child : Child F) : Prop :=
  child.state = .recvData ∨ child.state = .waitOnDone

/-- The session as rcopy knows it: the peer, the window and the control number. -/
def Rcopy.session (rcopy : Rcopy) : Addr × Window × UInt32 :=
  (rcopy.info.server, rcopy.info.window, rcopy.info.controlSeq)

/-- The session as a child knows it: the peer, the buffer, the file and the control
number. -/
def Child.session {F : Type} (child : Child F) : Addr × Buffer × F × UInt32 :=
  (child.info.client, child.info.buffer, child.info.outputFile, child.info.controlSeq)

@[simp] theorem session_retryLoop (loop : Nat → RcopyAt) (packet : Bytes) (tries : Nat)
    (info : RcopyInfo) :
    (retryLoop loop packet tries info).session = (info.server, info.window, info.controlSeq) := by
  simp only [retryLoop]
  split <;> rfl

theorem processControlsTurn_damaged {packet : Bytes} (hbad : checkPacket packet = false)
    (info : RcopyInfo) (count : Nat) (src : Addr) :
    processControlsTurn info count src packet = ({ info with server := src }, count) := by
  simp only [processControlsTurn, hbad, Bool.false_eq_true, if_false]

theorem sendEofRecv_damaged {inPacket : Bytes} (hbad : checkPacket inPacket = false)
    (info : RcopyInfo) (packet : Bytes) (tries : Nat) (src : Addr) :
    sendEofRecv info packet tries src inPacket
      = sendEofRetry { info with server := src } packet tries := by
  simp only [sendEofRecv, hbad, Bool.false_eq_true, false_and, if_false]

theorem sendFilenameRecv_damaged {inPacket : Bytes} (hbad : checkPacket inPacket = false)
    (info : RcopyInfo) (packet : Bytes) (tries : Nat) (src : Addr) :
    sendFilenameRecv info packet tries src inPacket
      = sendFilenameRetry { info with server := src } packet tries := by
  simp only [sendFilenameRecv, hbad, Bool.false_eq_true, false_and, if_false]

/-- Of the session, a rejected datagram changes the peer and nothing else. -/
theorem damaged_rcopy {rcopy : Rcopy} (hwait : rcopy.Waiting) {packet : Bytes}
    (hbad : checkPacket packet = false) (src : Addr) :
    (rcopyStep rcopy (.recv src packet)).session
      = (src, rcopy.info.window, rcopy.info.controlSeq) := by
  cases hstate : rcopy.state with
  | sendFilenamePacket sent tries =>
      simp only [rcopyStep, hstate, sendFilenameRecv_damaged hbad, sendFilenameRetry,
        session_retryLoop]
  | sendDataState => simp only [rcopyStep, hstate, processControlsTurn_damaged hbad, Rcopy.session]
  | waitOnAckState count =>
      simp only [rcopyStep, hstate, processControlsTurn_damaged hbad, Rcopy.session]
  | sendEofState sent tries =>
      simp only [rcopyStep, hstate, sendEofRecv_damaged hbad, sendEofRetry, session_retryLoop]
  | done => exact absurd hstate hwait.1
  | exited => exact absurd hstate hwait.2

/-- A child keeps the source of a rejected datagram and is otherwise where it was. -/
theorem damaged_child {F : Type} (write : F → Bytes → Int × F) {child : Child F}
    (hwait : child.Waiting) {packet : Bytes} (hbad : checkPacket packet = false) (src : Addr) :
    childStep write child (.recv src packet)
      = { child with info := { child.info with client := src } } := by
  obtain ⟨state, info⟩ := child
  rcases hwait with hstate | hstate
  · obtain rfl : state = .recvData := hstate
    simp only [childStep, recvDataRecv, hbad, if_true]
  · obtain rfl : state = .waitOnDone := hstate
    simp only [childStep, waitOnDoneRecv, hbad, if_true]

/-! ## Runs -/

/-- A rejected datagram from the current peer of rcopy. -/
def RcopyDamage (rcopy : Rcopy) (ev : PollEvent) : Prop :=
  ∃ packet, checkPacket packet = false ∧ ev = .recv rcopy.info.server packet

def ChildDamage {F : Type} (child : Child F) (ev : PollEvent) : Prop :=
  ∃ packet, checkPacket packet = false ∧ ev = .recv child.info.client packet

theorem childStep_damage {F : Type} (write : F → Bytes → Int × F) {child : Child F}
    {ev : PollEvent} (h : ChildDamage child ev) : childStep write child ev = child := by
  obtain ⟨packet, hbad, rfl⟩ := h
  by_cases hwait : child.Waiting
  · rw [damaged_child write hwait hbad]
  · obtain ⟨state, info⟩ := child
    cases state with
    | recvData => exact absurd (.inl rfl) hwait
    | waitOnDone => exact absurd (.inr rfl) hwait
    | filename => rfl
    | done => rfl
    | exited => rfl

/-! ### rcopy does not read its log -/

/-- `rcopy` with another log. -/
def Rcopy.relog (rcopy : Rcopy) (log : List Sent) : Rcopy :=
  ⟨rcopy.state, { rcopy.info with sent := log }⟩

def Oblivious (f : RcopyInfo → Rcopy) : Prop :=
  ∀ info log, ∃ new, (f info).info.sent = info.sent ++ new ∧
    f { info with sent := log } = (f info).relog (log ++ new)

theorem oblivious_sendEofState : Oblivious sendEofState :=
  fun _ _ => ⟨_, rfl, rfl⟩

theorem oblivious_waitOnAckState : Oblivious waitOnAckState :=
  fun info log => ⟨[], (List.append_nil _).symm, by simp [waitOnAckState, Rcopy.relog]⟩

theorem oblivious_sendDataLeave : Oblivious sendDataLeave := by
  intro info log
  simp only [sendDataLeave]
  split
  · exact oblivious_sendEofState info log
  · exact oblivious_waitOnAckState info log

theorem oblivious_sendDataState : Oblivious sendDataState := by
  intro info log
  simp only [sendDataState]
  split
  · split
    · exact oblivious_sendDataLeave { info with fileDone := true } log
    · exact ⟨[], (List.append_nil _).symm, by simp [Rcopy.relog]⟩
    · exact oblivious_sendDataLeave { info with inputFile := _, fileDone := true } log
    · exact ⟨[⟨info.server, _⟩], rfl, rfl⟩
  · exact oblivious_sendDataLeave info log

theorem oblivious_retryLoop (loop : Nat → RcopyAt) (packet : Bytes) (tries : Nat) :
    Oblivious (retryLoop loop packet tries) := by
  intro info log
  simp only [retryLoop]
  split
  · exact ⟨[⟨info.server, packet⟩], rfl, rfl⟩
  · exact ⟨[], (List.append_nil _).symm, by simp [Rcopy.relog]⟩

theorem oblivious_waitOnAckTimeout (gotControl : Nat) :
    Oblivious fun info => waitOnAckTimeout info gotControl := by
  intro info log
  simp only [waitOnAckTimeout]
  split
  · exact oblivious_sendDataState { info with retryCount := 0 } log
  · split
    · exact oblivious_sendDataState info log
    · split
      · exact ⟨[], (List.append_nil _).symm, by simp [Rcopy.relog]⟩
      · exact ⟨[⟨info.server, _⟩], rfl, rfl⟩

theorem oblivious_sendFilenameRecv (packet : Bytes) (tries : Nat) (src : Addr)
    (inPacket : Bytes) :
    Oblivious fun info => sendFilenameRecv info packet tries src inPacket := by
  intro info log
  simp only [sendFilenameRecv]
  split
  · split
    · exact ⟨[], (List.append_nil _).symm, by simp [Rcopy.relog]⟩
    · split
      · exact ⟨[], (List.append_nil _).symm, by simp [Rcopy.relog]⟩
      · exact oblivious_sendDataState
          { info with window := _, controlSeq := _, accepted := _, server := src } log
  · exact oblivious_retryLoop _ packet tries { info with server := src } log

theorem oblivious_sendEofRecv (packet : Bytes) (tries : Nat) (src : Addr) (inPacket : Bytes) :
    Oblivious fun info => sendEofRecv info packet tries src inPacket := by
  intro info log
  simp only [sendEofRecv]
  split
  · exact ⟨[⟨src, _⟩], rfl, rfl⟩
  · exact oblivious_retryLoop _ packet tries { info with server := src } log

/-- One datagram of `process_controls`: an SREJ may add one packet to the log. -/
theorem processControlsTurn_relog (info : RcopyInfo) (log : List Sent) (count : Nat) (src : Addr)
    (packet : Bytes) :
    ∃ new, (processControlsTurn info count src packet).1.sent = info.sent ++ new ∧
      processControlsTurn { info with sent := log } count src packet
        = ({ (processControlsTurn info count src packet).1 with sent := log ++ new },
            (processControlsTurn info count src packet).2) := by
  simp only [processControlsTurn]
  split
  · split
    · simp only [handleRr]
      split <;> exact ⟨[], (List.append_nil _).symm, by simp⟩
    · split
      · simp only [handleReject]
        split
        · exact ⟨[], (List.append_nil _).symm, by simp⟩
        · split
          · exact ⟨[⟨src, _⟩], rfl, rfl⟩
          · exact ⟨[], (List.append_nil _).symm, by simp⟩
      · exact ⟨[], (List.append_nil _).symm, by simp⟩
  · exact ⟨[], (List.append_nil _).symm, by simp⟩

theorem oblivious_rcopyStep (state : RcopyAt) (ev : PollEvent) :
    Oblivious fun info => rcopyStep ⟨state, info⟩ ev := by
  intro info log
  cases ev with
  | timeout =>
      cases state with
      | sendFilenamePacket packet tries => exact oblivious_retryLoop _ packet tries info log
      | sendDataState => exact oblivious_sendDataState info log
      | waitOnAckState count => exact oblivious_waitOnAckTimeout count info log
      | sendEofState packet tries => exact oblivious_retryLoop _ packet tries info log
      | done => exact ⟨[], (List.append_nil _).symm, by simp [rcopyStep, Rcopy.relog]⟩
      | exited => exact ⟨[], (List.append_nil _).symm, by simp [rcopyStep, Rcopy.relog]⟩
  | recv src inPacket =>
      cases state with
      | sendFilenamePacket packet tries =>
          exact oblivious_sendFilenameRecv packet tries src inPacket info log
      | sendDataState =>
          obtain ⟨new, hnew, hturn⟩ := processControlsTurn_relog info log 0 src inPacket
          exact ⟨new, hnew, by simp only [rcopyStep, hturn, Rcopy.relog]⟩
      | waitOnAckState count =>
          obtain ⟨new, hnew, hturn⟩ := processControlsTurn_relog info log count src inPacket
          exact ⟨new, hnew, by simp only [rcopyStep, hturn, Rcopy.relog]⟩
      | sendEofState packet tries =>
          exact oblivious_sendEofRecv packet tries src inPacket info log
      | done => exact ⟨[], (List.append_nil _).symm, by simp [rcopyStep, Rcopy.relog]⟩
      | exited => exact ⟨[], (List.append_nil _).symm, by simp [rcopyStep, Rcopy.relog]⟩

theorem sent_subset_rcopyStep (rcopy : Rcopy) (ev : PollEvent) :
    rcopy.info.sent ⊆ (rcopyStep rcopy ev).info.sent := by
  obtain ⟨new, hnew, _⟩ := oblivious_rcopyStep rcopy.state ev rcopy.info []
  intro sent hsent
  show sent ∈ (rcopyStep ⟨rcopy.state, rcopy.info⟩ ev).info.sent
  rw [hnew]
  exact List.mem_append_left _ hsent

/-! ### rcopy with rejected datagrams in its stream -/

/-- What a loop that counts tries is resending has been sent to the current peer. -/
def LoopSent (rcopy : Rcopy) : Prop :=
  match rcopy.state with
  | .sendFilenamePacket packet _ | .sendEofState packet _ =>
      ⟨rcopy.info.server, packet⟩ ∈ rcopy.info.sent
  | _ => True

theorem loopSent_sendDataLeave (info : RcopyInfo) : LoopSent (sendDataLeave info) := by
  simp only [sendDataLeave]
  split
  · exact List.mem_append_right _ (List.mem_singleton_self _)
  · trivial

theorem loopSent_sendDataState (info : RcopyInfo) : LoopSent (sendDataState info) := by
  simp only [sendDataState]
  split
  · split
    · exact loopSent_sendDataLeave _
    · trivial
    · exact loopSent_sendDataLeave _
    · trivial
  · exact loopSent_sendDataLeave info

def RetriesOf (packet : Bytes) (loop : Nat → RcopyAt) : Prop :=
  loop = .sendFilenamePacket packet ∨ loop = .sendEofState packet

theorem RetriesOf.loopSent {packet : Bytes} {loop : Nat → RcopyAt} (h : RetriesOf packet loop)
    (tries : Nat) (info : RcopyInfo) :
    LoopSent ⟨loop tries, info⟩ ↔ ⟨info.server, packet⟩ ∈ info.sent := by
  rcases h with rfl | rfl <;> exact Iff.rfl

theorem RetriesOf.loopSent_retryLoop {packet : Bytes} {loop : Nat → RcopyAt}
    (h : RetriesOf packet loop) (tries : Nat) (info : RcopyInfo) :
    LoopSent (retryLoop loop packet tries info) := by
  simp only [retryLoop]
  split
  · exact (h.loopSent _ _).mpr (List.mem_append_right _ (List.mem_singleton_self _))
  · trivial

theorem loopSent_rcopyStep {rcopy : Rcopy} (h : LoopSent rcopy) (ev : PollEvent) :
    LoopSent (rcopyStep rcopy ev) := by
  obtain ⟨state, info⟩ := rcopy
  cases ev with
  | timeout =>
      cases state with
      | sendFilenamePacket packet tries => exact RetriesOf.loopSent_retryLoop (.inl rfl) tries info
      | sendDataState => exact loopSent_sendDataState info
      | waitOnAckState count =>
          simp only [rcopyStep, waitOnAckTimeout]
          repeat' split
          · exact loopSent_sendDataState _
          · exact loopSent_sendDataState _
          · trivial
          · trivial
      | sendEofState packet tries => exact RetriesOf.loopSent_retryLoop (.inr rfl) tries info
      | done => exact h
      | exited => exact h
  | recv src inPacket =>
      cases state with
      | sendFilenamePacket packet tries =>
          simp only [rcopyStep, sendFilenameRecv]
          repeat' split
          · trivial
          · trivial
          · exact loopSent_sendDataState _
          · exact RetriesOf.loopSent_retryLoop (.inl rfl) tries _
      | sendDataState => trivial
      | waitOnAckState count => trivial
      | sendEofState packet tries =>
          simp only [rcopyStep, sendEofRecv]
          split
          · trivial
          · exact RetriesOf.loopSent_retryLoop (.inr rfl) tries _
      | done => exact h
      | exited => exact h

/-- The same place, except that a loop may have used up more tries. -/
inductive TriesLe : RcopyAt → RcopyAt → Prop
  | same (state : RcopyAt) : TriesLe state state
  | more {packet : Bytes} {loop : Nat → RcopyAt} (hloop : RetriesOf packet loop)
      {tries tries' : Nat} (h : tries ≤ tries') : TriesLe (loop tries) (loop tries')

/-- `b` knows the same session as `a` and has sent nothing that `a` has not; or it has
stopped. -/
structure Behind (a b : Rcopy) : Prop where
  looped : LoopSent a
  sent : b.info.sent ⊆ a.info.sent
  same : ¬ b.Waiting ∨
    (TriesLe a.state b.state ∧ b.info = { a.info with sent := b.info.sent })

theorem not_waiting_rcopyStep {rcopy : Rcopy} (h : ¬ rcopy.Waiting) (ev : PollEvent) :
    rcopyStep rcopy ev = rcopy := by
  obtain ⟨state, info⟩ := rcopy
  cases state with
  | done => cases ev <;> rfl
  | exited => cases ev <;> rfl
  | sendFilenamePacket packet tries => exact absurd ⟨nofun, nofun⟩ h
  | sendDataState => exact absurd ⟨nofun, nofun⟩ h
  | waitOnAckState count => exact absurd ⟨nofun, nofun⟩ h
  | sendEofState packet tries => exact absurd ⟨nofun, nofun⟩ h

theorem append_subset_append {l l' : List Sent} (h : l ⊆ l') (new : List Sent) :
    l ++ new ⊆ l' ++ new := by
  intro sent hsent
  rcases List.mem_append.mp hsent with hl | hnew
  · exact List.mem_append_left _ (h hl)
  · exact List.mem_append_right _ hnew

theorem behind_of_oblivious {f : RcopyInfo → Rcopy} (hf : Oblivious f) {info : RcopyInfo}
    {log : List Sent} (hlog : log ⊆ info.sent) (hloop : LoopSent (f info)) :
    Behind (f info) (f { info with sent := log }) := by
  obtain ⟨new, hnew, heq⟩ := hf info log
  rw [heq]
  refine ⟨hloop, ?_, .inr ⟨.same _, rfl⟩⟩
  rw [hnew]
  exact append_subset_append hlog new

theorem behind_retryLoop {packet : Bytes} {loop : Nat → RcopyAt} (hloop : RetriesOf packet loop)
    {info : RcopyInfo} {log : List Sent} (hlog : log ⊆ info.sent) {tries tries' : Nat}
    (h : tries ≤ tries') :
    Behind (retryLoop loop packet tries info)
      (retryLoop loop packet tries' { info with sent := log }) := by
  have hlooped := hloop.loopSent_retryLoop tries info
  by_cases hlast : tries' + 1 < maxTries
  · have hmore : tries + 1 < maxTries := by omega
    rw [retryLoop, if_pos hmore] at hlooped ⊢
    rw [retryLoop, if_pos hlast]
    exact ⟨hlooped, append_subset_append hlog _,
      .inr ⟨.more hloop (Nat.succ_le_succ h), rfl⟩⟩
  · obtain ⟨new, hnew, _⟩ := oblivious_retryLoop loop packet tries info []
    refine ⟨hlooped, ?_, .inl ?_⟩
    · rw [hnew, retryLoop, if_neg hlast]
      exact fun sent hsent => List.mem_append_left _ (hlog hsent)
    · rw [retryLoop, if_neg hlast]
      exact fun hwait => hwait.1 rfl

/-- A response ends the loop whatever the number of tries. -/
theorem sendFilenameRecv_response {inPacket : Bytes}
    (hresp : checkPacket inPacket = true ∧ getFlag inPacket = flagFilenameResp)
    (info : RcopyInfo) (packet : Bytes) (tries tries' : Nat) (src : Addr) :
    sendFilenameRecv info packet tries' src inPacket
      = sendFilenameRecv info packet tries src inPacket := by
  simp only [sendFilenameRecv, if_pos hresp]

theorem sendFilenameRecv_other {inPacket : Bytes}
    (hother : ¬ (checkPacket inPacket = true ∧ getFlag inPacket = flagFilenameResp))
    (info : RcopyInfo) (packet : Bytes) (tries : Nat) (src : Addr) :
    sendFilenameRecv info packet tries src inPacket
      = sendFilenameRetry { info with server := src } packet tries := by
  simp only [sendFilenameRecv, if_neg hother]

theorem sendEofRecv_ack {inPacket : Bytes}
    (hack : checkPacket inPacket = true ∧ getFlag inPacket = flagEofAck)
    (info : RcopyInfo) (packet : Bytes) (tries tries' : Nat) (src : Addr) :
    sendEofRecv info packet tries' src inPacket = sendEofRecv info packet tries src inPacket := by
  simp only [sendEofRecv, if_pos hack]

theorem sendEofRecv_other {inPacket : Bytes}
    (hother : ¬ (checkPacket inPacket = true ∧ getFlag inPacket = flagEofAck))
    (info : RcopyInfo) (packet : Bytes) (tries : Nat) (src : Addr) :
    sendEofRecv info packet tries src inPacket
      = sendEofRetry { info with server := src } packet tries := by
  simp only [sendEofRecv, if_neg hother]

theorem Behind.step {a b : Rcopy} (h : Behind a b) (ev : PollEvent) :
    Behind (rcopyStep a ev) (rcopyStep b ev) := by
  have hloop := loopSent_rcopyStep h.looped ev
  rcases h.same with hstop | ⟨htries, hinfo⟩
  · rw [not_waiting_rcopyStep hstop]
    exact ⟨hloop, fun sent hsent => sent_subset_rcopyStep a ev (h.sent hsent), .inl hstop⟩
  · obtain ⟨stateA, info⟩ := a
    obtain ⟨stateB, infoB⟩ := b
    have hsent : infoB.sent ⊆ info.sent := h.sent
    have hinfo : infoB = { info with sent := infoB.sent } := hinfo
    have htries : TriesLe stateA stateB := htries
    clear h
    generalize infoB.sent = log at hinfo hsent
    subst hinfo
    cases htries with
    | same => exact behind_of_oblivious (oblivious_rcopyStep stateA ev) hsent hloop
    | @more packet loop hretries tries tries' hle =>
        cases ev with
        | timeout =>
            rcases hretries with rfl | rfl
            · exact behind_retryLoop (.inl rfl) hsent hle
            · exact behind_retryLoop (.inr rfl) hsent hle
        | recv src inPacket =>
            rcases hretries with rfl | rfl
            · by_cases hresp : checkPacket inPacket = true ∧ getFlag inPacket = flagFilenameResp
              · show Behind (sendFilenameRecv _ _ _ _ _) (sendFilenameRecv _ _ _ _ _)
                rw [sendFilenameRecv_response hresp _ packet tries tries']
                exact behind_of_oblivious
                  (oblivious_sendFilenameRecv packet tries src inPacket) hsent hloop
              · show Behind (sendFilenameRecv _ _ _ _ _) (sendFilenameRecv _ _ _ _ _)
                rw [sendFilenameRecv_other hresp, sendFilenameRecv_other hresp]
                exact @behind_retryLoop _ _ (.inl rfl) { info with server := src } log hsent _ _ hle
            · by_cases hack : checkPacket inPacket = true ∧ getFlag inPacket = flagEofAck
              · show Behind (sendEofRecv _ _ _ _ _) (sendEofRecv _ _ _ _ _)
                rw [sendEofRecv_ack hack _ packet tries tries']
                exact behind_of_oblivious (oblivious_sendEofRecv packet tries src inPacket) hsent
                  hloop
              · show Behind (sendEofRecv _ _ _ _ _) (sendEofRecv _ _ _ _ _)
                rw [sendEofRecv_other hack, sendEofRecv_other hack]
                exact @behind_retryLoop _ _ (.inr rfl) { info with server := src } log hsent _ _ hle

/-- In a loop, a rejected datagram from the peer is one more try. -/
theorem rcopyStep_damaged_retry {packet : Bytes} {loop : Nat → RcopyAt}
    (hloop : RetriesOf packet loop) {inPacket : Bytes} (hbad : checkPacket inPacket = false)
    (tries : Nat) (info : RcopyInfo) :
    rcopyStep ⟨loop tries, info⟩ (.recv info.server inPacket)
      = retryLoop loop packet tries info := by
  rcases hloop with rfl | rfl
  · exact sendFilenameRecv_damaged hbad info packet tries info.server
  · exact sendEofRecv_damaged hbad info packet tries info.server

theorem Behind.retry {a b : Rcopy} (h : Behind a b) {packet : Bytes} {loop : Nat → RcopyAt}
    (hloop : RetriesOf packet loop) {tries tries' : Nat} (hstate : a.state = loop tries)
    (hle : tries ≤ tries') (hinfo : b.info = { a.info with sent := b.info.sent }) :
    Behind a (retryLoop loop packet tries' b.info) := by
  have hpeer : b.info.server = a.info.server := by rw [hinfo]
  have hlooped : ⟨a.info.server, packet⟩ ∈ a.info.sent := by
    have hlooped := h.looped
    rwa [show a = ⟨loop tries, a.info⟩ by rw [← hstate], hloop.loopSent] at hlooped
  by_cases hlast : tries' + 1 < maxTries
  · rw [retryLoop, if_pos hlast]
    refine ⟨h.looped, ?_, .inr ⟨?_, ?_⟩⟩
    · intro sent hsent
      rcases List.mem_append.mp hsent with hold | hnew
      · exact h.sent hold
      · rw [List.mem_singleton.mp hnew, hpeer]
        exact hlooped
    · rw [hstate]
      exact .more hloop (Nat.le_succ_of_le hle)
    · rw [hinfo]
      rfl
  · rw [retryLoop, if_neg hlast]
    exact ⟨h.looped, h.sent, .inl fun hwait => hwait.1 rfl⟩

/-- A rejected datagram from its peer leaves `b` behind `a`: `process_controls` does not even
notice it. -/
theorem Behind.damage {a b : Rcopy} (h : Behind a b) {ev : PollEvent} (hdamage : RcopyDamage b ev) :
    Behind a (rcopyStep b ev) := by
  obtain ⟨inPacket, hbad, rfl⟩ := hdamage
  rcases h.same with hstop | ⟨htries, hinfo⟩
  · rw [not_waiting_rcopyStep hstop]
    exact h
  · obtain ⟨state, info⟩ := b
    generalize hstate : a.state = stateA at htries
    have htries : TriesLe stateA state := htries
    cases htries with
    | more hloop hle =>
        rw [rcopyStep_damaged_retry hloop hbad]
        exact h.retry hloop hstate hle hinfo
    | same =>
        cases state with
        | sendFilenamePacket packet tries =>
            rw [rcopyStep_damaged_retry (.inl rfl) hbad]
            exact h.retry (.inl rfl) hstate (Nat.le_refl _) hinfo
        | sendDataState =>
            show Behind a ⟨_, (processControlsTurn info 0 info.server inPacket).1⟩
            rw [processControlsTurn_damaged hbad]
            exact h
        | waitOnAckState count =>
            show Behind a ⟨.waitOnAckState (processControlsTurn info count info.server inPacket).2, _⟩
            rw [processControlsTurn_damaged hbad]
            exact h
        | sendEofState packet tries =>
            rw [rcopyStep_damaged_retry (.inr rfl) hbad]
            exact h.retry (.inr rfl) hstate (Nat.le_refl _) hinfo
        | done => exact h
        | exited => exact h

theorem behind_start (session : Session) : Behind session.start session.start :=
  ⟨List.mem_append_right _ (List.mem_singleton_self _), fun _ hsent => hsent,
    .inr ⟨.same _, rfl⟩⟩

/-- Discarding a rejected datagram leaves the session as it was exactly when it came from
the current peer; and such datagrams anywhere in a run make nobody send anything, to
anybody, that would not have been sent without them. -/
theorem damaged_noop_iff {F : Type} (write : F → Bytes → Int × F) :
    (∀ (rcopy : Rcopy) (src : Addr) (packet : Bytes), rcopy.Waiting → checkPacket packet = false →
      ((rcopyStep rcopy (.recv src packet)).session = rcopy.session ↔ src = rcopy.info.server)) ∧
    (∀ (child : Child F) (src : Addr) (packet : Bytes),
      child.Waiting → checkPacket packet = false →
      ((childStep write child (.recv src packet)).session = child.session ↔
        src = child.info.client)) ∧
    (∀ (session : Session) (es fs : List PollEvent),
      Inserted rcopyStep RcopyDamage session.start es fs →
      (feed rcopyStep session.start fs).info.sent ⊆ (feed rcopyStep session.start es).info.sent ∧
      ((feed rcopyStep session.start fs).Waiting →
        (feed rcopyStep session.start fs).session = (feed rcopyStep session.start es).session)) ∧
    (∀ (child : Child F) (es fs : List PollEvent),
      Inserted (childStep write) ChildDamage child es fs →
      feed (childStep write) child fs = feed (childStep write) child es) := by
  refine ⟨?_, ?_, ?_, ?_⟩
  · intro rcopy src packet hwait hbad
    rw [damaged_rcopy hwait hbad]
    simp only [Rcopy.session, Prod.mk.injEq, and_true]
  · intro child src packet hwait hbad
    rw [damaged_child write hwait hbad]
    simp only [Child.session, Prod.mk.injEq, and_true]
  · intro session es fs hin
    have hbehind := hin.simulates (fun _ _ ev h => h.step ev) (fun _ _ _ h hd => h.damage hd)
      (behind_start session)
    refine ⟨hbehind.sent, fun hwait => ?_⟩
    rcases hbehind.same with hstop | ⟨_, hinfo⟩
    · exact absurd hwait hstop
    · rw [Rcopy.session, hinfo]
      rfl
  · intro child es fs hin
    exact @Inserted.simulates _ _ _ _ (fun a b => b = a) (fun _ _ _ h => by rw [h])
      (fun _ _ _ h hdamage => (childStep_damage write hdamage).trans h) _ _ _ hin child rfl

/-- A damaged copy of another child's response, while rcopy waits for data to be
acknowledged: the next packet goes to the other child. -/
theorem damaged_foreign :
    let start : Session :=
      { outName := [111], windowSize := 1, bufferSize := 1, chunks := [[65]], callocOk := true
        name_ok := by decide, window_ok := by decide, buffer_ok := by decide
        chunks_ok := by decide }
    let rcopy := feed rcopyStep start.start
      [.recv (.child 0) (builtPacket 1 flagFilenameResp [0]), .timeout]
    let bad : Bytes := [0, 0, 0, 1, 0, 0, 8, 0]
    rcopy.Waiting ∧ checkPacket bad = false ∧
    (rcopyStep rcopy (.recv (.child 1) bad)).session ≠ rcopy.session ∧
    (feed rcopyStep rcopy [.timeout]).info.sent
      = rcopy.info.sent ++ [⟨.child 0, builtPacket 2 flagData [65]⟩] ∧
    (feed rcopyStep rcopy [.recv (.child 1) bad, .timeout]).info.sent
      = rcopy.info.sent ++ [⟨.child 1, builtPacket 2 flagData [65]⟩] := by
  refine ⟨⟨?_, ?_⟩, ?_, ?_, ?_, ?_⟩ <;> decide +kernel

end SelectiveReject
