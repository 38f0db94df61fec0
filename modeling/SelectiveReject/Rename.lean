/-
# `SelectiveReject.Rename` — addresses are opaque to both programs

Neither program looks inside an address: it stores the source of a datagram and sends to what it has
stored.  So a renaming of addresses passes through every function of the two machines
(`rename_rcopyStep`, `rename_childStep`): the renamed process, on the renamed datagram, goes to the
renamed state.  Packets, windows, buffers and files are untouched.

Whether a datagram is there to be received does depend on the addresses; `Network.act` is what a
label does once it is, and passes a renaming through as well (`rename_act`).

`SelectiveReject.Fleet` uses it to look at one client of several as if it were the only one.
-/
import SelectiveReject.Network

namespace SelectiveReject

variable (σ : Addr → Addr)

/-! ## The operation -/

def Sent.rename (sent : Sent) : Sent := ⟨σ sent.dst, sent.packet⟩

def PollEvent.rename : PollEvent → PollEvent
  | .timeout => .timeout
  | .recv src packet => .recv (σ src) packet

def RcopyInfo.rename (info : RcopyInfo) : RcopyInfo :=
  { info with
    server := σ info.server
    sent := info.sent.map (Sent.rename σ)
    accepted := info.accepted.map σ }

def Rcopy.rename (rcopy : Rcopy) : Rcopy := ⟨rcopy.state, rcopy.info.rename σ⟩

section Child

variable {F : Type}

def SentAt.rename (entry : SentAt F) : SentAt F := { entry with sent := entry.sent.rename σ }

def ServerInfo.rename (info : ServerInfo F) : ServerInfo F :=
  { info with client := σ info.client, log := info.log.map (SentAt.rename σ) }

def Child.rename (child : Child F) : Child F := ⟨child.state, child.info.rename σ⟩

end Child

def Label.rename : Label → Label
  | .rcopyTimeout => .rcopyTimeout
  | .rcopyRecv src packet => .rcopyRecv (σ src) packet
  | .serverRecv src packet => .serverRecv (σ src) packet
  | .childSetup n openOk callocOk => .childSetup n openOk callocOk
  | .childTimeout n => .childTimeout n
  | .childRecv n src packet => .childRecv n (σ src) packet

def Network.rename (net : Network) : Network :=
  { rcopy := net.rcopy.rename σ, children := net.children.map (Child.rename σ), files := net.files }

/-! ## rcopy -/

section Rcopy

variable (info : RcopyInfo)

theorem RcopyInfo.rename_safeSendto (packet : Bytes) :
    (info.safeSendto packet).rename σ = (info.rename σ).safeSendto packet := by
  simp only [RcopyInfo.safeSendto, RcopyInfo.rename, List.map_append]
  rfl

theorem rename_handleRr (packet : Bytes) :
    (handleRr info packet).rename σ = handleRr (info.rename σ) packet := by
  simp only [handleRr]
  split
  · rfl
  · rfl

theorem rename_handleReject (packet : Bytes) :
    (handleReject info packet).rename σ = handleReject (info.rename σ) packet := by
  have hwindow : (info.rename σ).window = info.window := rfl
  simp only [handleReject, hwindow]
  split
  · rfl
  · split
    · exact info.rename_safeSendto σ _
    · rfl

theorem rename_processControlsTurn (count : Nat) (src : Addr) (packet : Bytes) :
    processControlsTurn (info.rename σ) count (σ src) packet
      = ((processControlsTurn info count src packet).1.rename σ,
          (processControlsTurn info count src packet).2) := by
  have hpeer : { info.rename σ with server := σ src }
      = RcopyInfo.rename σ { info with server := src } := rfl
  simp only [processControlsTurn, hpeer]
  split
  · split
    · rw [rename_handleRr]
    · split
      · rw [rename_handleReject]
      · rfl
  · rfl

theorem rename_retryLoop (loop : Nat → RcopyAt) (packet : Bytes) (tries : Nat) :
    (retryLoop loop packet tries info).rename σ = retryLoop loop packet tries (info.rename σ) := by
  simp only [retryLoop]
  split
  · simp only [Rcopy.rename, RcopyInfo.rename_safeSendto]
  · rfl

theorem rename_sendDataLeave :
    (sendDataLeave info).rename σ = sendDataLeave (info.rename σ) := by
  have hwindow : (info.rename σ).window = info.window := rfl
  have hdone : (info.rename σ).fileDone = info.fileDone := rfl
  simp only [sendDataLeave, hwindow, hdone]
  split
  · simp only [sendEofState, Rcopy.rename, RcopyInfo.rename_safeSendto, hwindow]
  · rfl

theorem rename_sendDataState :
    (sendDataState info).rename σ = sendDataState (info.rename σ) := by
  have hwindow : (info.rename σ).window = info.window := rfl
  have hdone : (info.rename σ).fileDone = info.fileDone := rfl
  have hinput : (info.rename σ).inputFile = info.inputFile := rfl
  simp only [sendDataState, hwindow, hdone, hinput]
  split
  · split
    · exact rename_sendDataLeave σ { info with fileDone := true }
    · rfl
    · exact rename_sendDataLeave σ { info with inputFile := _, fileDone := true }
    · simp only [Rcopy.rename, sendDataTurn]
      congr 1
      rename_i data rest _ _
      have hsend := RcopyInfo.rename_safeSendto σ { info with inputFile := rest }
        (builtPacket info.window.current flagData data)
      exact congrArg (fun sent : RcopyInfo => { sent with
        window := windowAdd sent.window info.window.current
          (builtPacket info.window.current flagData data)
        retryCount := 0 }) hsend
  · exact rename_sendDataLeave σ info

theorem rename_waitOnAckTimeout (gotControl : Nat) :
    (waitOnAckTimeout info gotControl).rename σ = waitOnAckTimeout (info.rename σ) gotControl := by
  have hwindow : (info.rename σ).window = info.window := rfl
  have hretry : (info.rename σ).retryCount = info.retryCount := rfl
  simp only [waitOnAckTimeout, hwindow, hretry]
  split
  · exact rename_sendDataState σ { info with retryCount := 0 }
  · split
    · exact rename_sendDataState σ info
    · split
      · rfl
      · rename_i entry _ _
        have hsend := RcopyInfo.rename_safeSendto σ { info with retryCount := info.retryCount + 1 }
          (entry.packet.take entry.packetLen)
        exact congrArg (Rcopy.mk (.waitOnAckState 0)) hsend

theorem rename_sendEofRecv (packet : Bytes) (tries : Nat) (src : Addr) (inPacket : Bytes) :
    (sendEofRecv info packet tries src inPacket).rename σ
      = sendEofRecv (info.rename σ) packet tries (σ src) inPacket := by
  simp only [sendEofRecv]
  split
  · have hsend := RcopyInfo.rename_safeSendto σ { info with server := src }
      (builtPacket (info.window.current + 1) flagDone [])
    exact congrArg (Rcopy.mk .done) hsend
  · exact rename_retryLoop σ { info with server := src } _ packet tries

theorem rename_sendFilenameRecv (packet : Bytes) (tries : Nat) (src : Addr) (inPacket : Bytes) :
    (sendFilenameRecv info packet tries src inPacket).rename σ
      = sendFilenameRecv (info.rename σ) packet tries (σ src) inPacket := by
  have hcalloc : (info.rename σ).callocOk = info.callocOk := rfl
  have hsize : (info.rename σ).windowSize = info.windowSize := rfl
  have hseq : (info.rename σ).controlSeq = info.controlSeq := rfl
  simp only [sendFilenameRecv, hcalloc, hsize, hseq]
  split
  · split
    · rfl
    · split
      · rfl
      · rename_i window _
        exact rename_sendDataState σ
          { info with
            server := src, controlSeq := info.controlSeq + 1, accepted := some src,
            window := window }
  · exact rename_retryLoop σ { info with server := src } _ packet tries

theorem rename_rcopyStep (rcopy : Rcopy) (ev : PollEvent) :
    (rcopyStep rcopy ev).rename σ = rcopyStep (rcopy.rename σ) (ev.rename σ) := by
  obtain ⟨state, info⟩ := rcopy
  cases ev with
  | timeout =>
      cases state with
      | sendFilenamePacket packet tries => exact rename_retryLoop σ info _ packet tries
      | sendDataState => exact rename_sendDataState σ info
      | waitOnAckState count => exact rename_waitOnAckTimeout σ info count
      | sendEofState packet tries => exact rename_retryLoop σ info _ packet tries
      | done => rfl
      | exited => rfl
  | recv src inPacket =>
      cases state with
      | sendFilenamePacket packet tries =>
          exact rename_sendFilenameRecv σ info packet tries src inPacket
      | sendDataState =>
          have hturn := rename_processControlsTurn σ info 0 src inPacket
          simp only [rcopyStep, Rcopy.rename, PollEvent.rename, hturn]
      | waitOnAckState count =>
          have hturn := rename_processControlsTurn σ info count src inPacket
          simp only [rcopyStep, Rcopy.rename, PollEvent.rename, hturn]
      | sendEofState packet tries => exact rename_sendEofRecv σ info packet tries src inPacket
      | done => rfl
      | exited => rfl

end Rcopy

/-! ## The server and its children -/

section Child

variable {F : Type} (info : ServerInfo F)

theorem ServerInfo.rename_safeSendto (packet : Bytes) :
    (info.safeSendto packet).rename σ = (info.rename σ).safeSendto packet := by
  simp only [ServerInfo.safeSendto, ServerInfo.rename, List.map_append]
  rfl

theorem ServerInfo.rename_sendControl (flag : UInt8) (payload : Bytes) :
    (info.sendControl flag payload).rename σ = (info.rename σ).sendControl flag payload :=
  ServerInfo.rename_safeSendto σ { info with controlSeq := info.controlSeq + 1 } _

theorem rename_rejectIfNeeded :
    (rejectIfNeeded info).rename σ = rejectIfNeeded (info.rename σ) := by
  have hbuffer : (info.rename σ).buffer = info.buffer := rfl
  simp only [rejectIfNeeded, hbuffer]
  split
  · exact ServerInfo.rename_sendControl σ { info with buffer := (bufferNeedReject info.buffer).2 }
      flagSrej (htonl (bufferExpected (bufferNeedReject info.buffer).2))
  · rfl

theorem rename_handleDataPacket (write : F → Bytes → Int × F) (packet : Bytes) :
    ((handleDataPacket write info packet).map (ServerInfo.rename σ)).mapError (ServerInfo.rename σ)
      = handleDataPacket write (info.rename σ) packet := by
  have hbuffer : (info.rename σ).buffer = info.buffer := rfl
  have hfile : (info.rename σ).outputFile = info.outputFile := rfl
  have hrr : ∀ info : ServerInfo F, (sendRr info).rename σ = sendRr (info.rename σ) :=
    fun info => ServerInfo.rename_sendControl σ info flagRr (htonl (bufferExpected info.buffer))
  simp only [handleDataPacket, hbuffer, hfile]
  split
  · exact congrArg _ (hrr _)
  · split
    · exact congrArg _ (hrr _)
    · split
      · split
        · rfl
        · rename_i buffer file _
          have hdrained : { info.rename σ with buffer := buffer, outputFile := file }
              = ServerInfo.rename σ { info with buffer := buffer, outputFile := file } := rfl
          rw [hdrained, ← hrr]
          generalize sendRr { info with buffer := buffer, outputFile := file } = answered
          have hlater : (answered.rename σ).buffer = answered.buffer := rfl
          rw [hlater]
          split
          · exact congrArg _ (rename_rejectIfNeeded σ _)
          · rfl
      · exact congrArg _ (rename_rejectIfNeeded σ _)

theorem rename_recvDataRecv (write : F → Bytes → Int × F) (src : Addr) (packet : Bytes) :
    (recvDataRecv write info src packet).rename σ
      = recvDataRecv write (info.rename σ) (σ src) packet := by
  have hpeer : { info.rename σ with client := σ src }
      = ServerInfo.rename σ { info with client := src } := rfl
  have hhandle := rename_handleDataPacket σ { info with client := src } write packet
  simp only [recvDataRecv, hpeer, ← hhandle]
  split
  · rfl
  · split
    · cases handleDataPacket write { info with client := src } packet with
      | error info' => rfl
      | ok info' => rfl
    · split
      · have hack := ServerInfo.rename_safeSendto σ
          { info with
            client := src
            lastAck := builtPacket info.controlSeq flagEofAck []
            controlSeq := info.controlSeq + 1 } (builtPacket info.controlSeq flagEofAck [])
        exact congrArg (fun info : ServerInfo F =>
          Child.mk .waitOnDone { info with retryCount := 0 }) hack
      · rfl

theorem rename_waitOnDoneTimeout :
    (waitOnDoneTimeout info).rename σ = waitOnDoneTimeout (info.rename σ) := by
  have hretry : (info.rename σ).retryCount = info.retryCount := rfl
  simp only [waitOnDoneTimeout, hretry]
  split
  · rfl
  · have hsend := ServerInfo.rename_safeSendto σ { info with retryCount := info.retryCount + 1 }
      info.lastAck
    exact congrArg (Child.mk .waitOnDone) hsend

theorem rename_waitOnDoneRecv (src : Addr) (packet : Bytes) :
    (waitOnDoneRecv info src packet).rename σ = waitOnDoneRecv (info.rename σ) (σ src) packet := by
  simp only [waitOnDoneRecv]
  split
  · rfl
  · split
    · rfl
    · split
      · have hsend := ServerInfo.rename_safeSendto σ { info with client := src } info.lastAck
        exact congrArg (Child.mk .waitOnDone) hsend
      · rfl

theorem rename_childStep (write : F → Bytes → Int × F) (child : Child F) (ev : PollEvent) :
    (childStep write child ev).rename σ = childStep write (child.rename σ) (ev.rename σ) := by
  obtain ⟨state, info⟩ := child
  cases ev with
  | timeout =>
      cases state with
      | waitOnDone => exact rename_waitOnDoneTimeout σ info
      | filename => rfl
      | recvData => rfl
      | done => rfl
      | exited => rfl
  | recv src packet =>
      cases state with
      | recvData => exact rename_recvDataRecv σ info write src packet
      | waitOnDone => exact rename_waitOnDoneRecv σ info src packet
      | filename => rfl
      | done => rfl
      | exited => rfl

theorem rename_childSetup (child : Child F) (opened : Option F) (callocOk : Bool) :
    (childSetup child opened callocOk).rename σ = childSetup (child.rename σ) opened callocOk := by
  obtain ⟨state, info⟩ := child
  cases state with
  | filename =>
      have hsend : ∀ (info : ServerInfo F) (value : UInt8),
          (sendFilenameResponse info value).rename σ = sendFilenameResponse (info.rename σ) value :=
        fun info value => ServerInfo.rename_sendControl σ info flagFilenameResp [value]
      change (filenameState info opened callocOk).rename σ
        = filenameState (info.rename σ) opened callocOk
      simp only [filenameState]
      cases opened with
      | none => exact congrArg (Child.mk .done) (hsend _ 1)
      | some file =>
          have hopened :
              { info.rename σ with
                outputFile := file
                windowSize := (readU32 (info.rename σ).firstPacket srejHeaderLen).toInt32
                bufferSize := (readU32 (info.rename σ).firstPacket (srejHeaderLen + 4)).toInt32 }
              = ServerInfo.rename σ
                { info with
                  outputFile := file
                  windowSize := (readU32 info.firstPacket srejHeaderLen).toInt32
                  bufferSize := (readU32 info.firstPacket (srejHeaderLen + 4)).toInt32 } := rfl
          dsimp only
          rw [hopened, ← hsend]
          generalize sendFilenameResponse (F := F) _ 0 = answered
          have hsize : (answered.rename σ).windowSize = answered.windowSize := rfl
          rw [hsize]
          split
          · rfl
          · rfl
  | recvData => rfl
  | waitOnDone => rfl
  | done => rfl
  | exited => rfl

theorem rename_processServer (packet : Bytes) (client : Addr) (unopened : F) :
    (processServer packet client unopened).map (Child.rename σ)
      = processServer packet (σ client) unopened := by
  simp only [processServer]
  split
  · rfl
  · rfl

end Child

/-! ## The network -/

namespace Network

/-- May the datagram of the label arrive? -/
def arrives (net : Network) : Label → Bool
  | .rcopyRecv src packet => net.deliverable src .rcopy packet
  | .serverRecv src packet => net.deliverable src .server packet
  | .childRecv n src packet => net.deliverable src (.child n) packet
  | .rcopyTimeout | .childSetup _ _ _ | .childTimeout _ => true

theorem next_eq_act (net : Network) (label : Label) :
    net.next label = if net.arrives label = true then net.act label else none := by
  cases label with
  | rcopyTimeout => exact (if_pos rfl).symm
  | rcopyRecv src packet => rfl
  | serverRecv src packet => rfl
  | childSetup n openOk callocOk => exact (if_pos rfl).symm
  | childTimeout n => exact (if_pos rfl).symm
  | childRecv n src packet => rfl

variable (net : Network)

theorem getElem?_rename (n : Nat) :
    (net.rename σ).children[n]? = net.children[n]?.map (Child.rename σ) :=
  List.getElem?_map

theorem rename_store (n : Nat) (child : Child OutFile) :
    (net.store n child).rename σ = (net.rename σ).store n (child.rename σ) := by
  simp only [store, rename, List.map_set]
  rfl

theorem rename_childPoll (n : Nat) (ev : PollEvent) :
    (net.childPoll n ev).map (rename σ) = (net.rename σ).childPoll n (ev.rename σ) := by
  simp only [childPoll, getElem?_rename]
  cases net.children[n]? with
  | none => rfl
  | some child =>
      rw [Option.map_some, Option.map_some, rename_store, rename_childStep]
      rfl

theorem rename_act (label : Label) :
    (net.act label).map (rename σ) = (net.rename σ).act (label.rename σ) := by
  cases label with
  | rcopyTimeout =>
      have hstep := rename_rcopyStep σ net.rcopy .timeout
      exact congrArg (fun rcopy => some { net.rename σ with rcopy := rcopy }) hstep
  | rcopyRecv src packet =>
      have hstep := rename_rcopyStep σ net.rcopy (.recv src packet)
      exact congrArg (fun rcopy => some { net.rename σ with rcopy := rcopy }) hstep
  | serverRecv src packet =>
      simp only [act, Label.rename, ← rename_processServer]
      cases processServer packet src (⟨[], 0⟩ : OutFile) with
      | none => rfl
      | some child =>
          simp only [Option.map_some, rename, List.map_append, List.map_cons, List.map_nil]
  | childSetup n openOk callocOk =>
      simp only [act, next, Label.rename, getElem?_rename]
      cases net.children[n]? with
      | none => rfl
      | some child =>
          have hstate : (child.rename σ).state = child.state := rfl
          simp only [Option.map_some, hstate, ← rename_childSetup]
          split
          · cases openOk with
            | true =>
                simp only [if_true, Option.map_some, rename_store]
            | false =>
                simp only [Bool.false_eq_true, if_false, Option.map_some, rename, List.map_set]
          · rfl
  | childTimeout n => exact net.rename_childPoll σ n .timeout
  | childRecv n src packet => exact net.rename_childPoll σ n (.recv src packet)

end Network

end SelectiveReject
