/-
# `SelectiveReject.Program` — the two programs as they are written, with their loops

`Rcopy` and `Server` cut the programs at their `pollCall`s.  Here they stand uncut: one definition
for each C function with a `pollCall` in it, the loops as loops, the calls as calls
(`Source.processFile`, `Source.processClient`).  A loop has fuel, passed down from the loop
of states; `buffer_write_ready` has one turn for each slot and one more.  A `pollCall` is labelled
with its place in the program, by the name and the locals it has in the machine.

**Proved here.**  On any outcomes of `pollCall`, the program does what the machine does: it
waits in the `pollCall` where the machine waits, ends where it ends, and its `info` is the same.

    Source.processFile     feed rcopyStep from Session.start           (`process_file_cut`)
    Source.processClient   feed childStep from childSetup               (`process_client_cut`)

The fuel that suffices is linear in the number of outcomes: neither program ever runs on without
asking for another.
-/
import SelectiveReject.Lib.Blocking
import SelectiveReject.RcopyInv
import SelectiveReject.Server

namespace SelectiveReject

open Blocking Machine

namespace Source

/-! ## rcopy -/

/-- The states of the switch in `process_file`. -/
inductive RcopyState where
  | startState
  | filename
  | sendData
  | waitOnAck
  | sendEof
  | done
deriving DecidableEq, Repr

abbrev RcopyProg := Prog RcopyAt PollEvent RcopyInfo

/-- `pollCall`, and on a ready socket the `safeRecvfrom` behind it. -/
def pollCall (place : RcopyAt) : RcopyProg PollEvent := do
  let ev ← Prog.input place
  match ev with
  | .timeout => return ev
  | .recv src _ =>
      Prog.modify fun info => { info with server := src }
      return ev

def safeSendto (packet : Bytes) : RcopyProg PUnit := Prog.modify (·.safeSendto packet)

def hadError : RcopyProg RcopyState := do
  Prog.modify fun info => { info with hadError := true }
  return .done

/-- `read(info->input_file, data, info->buffer_size)`; `none` for -1. -/
def readInput : RcopyProg (Option Bytes) := do
  let info ← Prog.get
  match info.inputFile with
  | [] => return some []
  | data :: rest =>
      Prog.modify fun info => { info with inputFile := rest }
      return data

/-- `memset` to 0; the calloc to come answers `callocOk`. -/
def zeroInfo (callocOk : Bool) : RcopyInfo :=
  { inputFile := [], windowSize := 0, bufferSize := 0, fileDone := false, hadError := false,
    retryCount := 0, controlSeq := 0, server := .other 0, window := .null, callocOk := callocOk,
    sent := [], accepted := none }

def startState (session : Session) : RcopyProg RcopyState := do
  Prog.modify fun info =>
    { info with
      windowSize := session.windowSize
      bufferSize := session.bufferSize
      inputFile := session.chunks.map some
      server := .server
      controlSeq := firstSeq }
  return .filename

/-- A datagram in the loop of `send_filename_packet`, and what comes after it. -/
def sendFilenameTurn (again : RcopyProg Bool) (src : Addr) (inPacket : Bytes) : RcopyProg Bool :=
  if checkPacket inPacket = true ∧ getFlag inPacket = flagFilenameResp then
    if inPacket.length < srejHeaderLen + 1 ∨ inPacket.getD srejHeaderLen 0 ≠ 0 then return false
    else do
      Prog.modify fun info =>
        { info with controlSeq := info.controlSeq + 1, accepted := some src }
      return true
  else again

/-- The loop of `send_filename_packet`; the argument is `MAX_TRIES - tries`. -/
def sendFilenameLoop (packet : Bytes) : Nat → RcopyProg Bool
  | 0 => return false
  | left + 1 => do
      safeSendto packet
      match ← pollCall (.sendFilenamePacket packet (maxTries - (left + 1))) with
      | .timeout => sendFilenameLoop packet left
      | .recv src inPacket => sendFilenameTurn (sendFilenameLoop packet left) src inPacket

def sendFilenamePacket (outName : Bytes) : RcopyProg Bool := do
  let info ← Prog.get
  let payload := htonl info.windowSize.toUInt32 ++ htonl info.bufferSize.toUInt32 ++
    (outName ++ [0])
  sendFilenameLoop (builtPacket info.controlSeq flagFilename payload) maxTries

/-- What `filename_state` makes of the answer. -/
def filenameRest (answer : Bool) : RcopyProg RcopyState :=
  if answer = true then do
    let info ← Prog.get
    match windowInit info.callocOk info.windowSize info.controlSeq with
    | none => Prog.exit
    | some window =>
        Prog.modify fun info => { info with window := window }
        return .sendData
  else hadError

def filenameState (outName : Bytes) : RcopyProg RcopyState := do
  let answer ← sendFilenamePacket outName
  filenameRest answer

/-- The loop of `process_controls`; `place` is its `pollCall`, which has another timeout for each
of the two callers. -/
def processControlsLoop (place : Nat → RcopyAt) : Nat → Nat → RcopyProg Nat
  | 0, _ => Prog.spin
  | fuel + 1, count => do
      match ← pollCall (place count) with
      | .timeout => return count
      | .recv _ packet =>
          if checkPacket packet = true then
            if getFlag packet = flagRr then
              Prog.modify fun info => handleRr info packet
              processControlsLoop place fuel (count + 1)
            else if getFlag packet = flagSrej then
              Prog.modify fun info => handleReject info packet
              processControlsLoop place fuel (count + 1)
            else processControlsLoop place fuel count
          else processControlsLoop place fuel count

def processControls (place : Nat → RcopyAt) (fuel : Nat) : RcopyProg Nat :=
  processControlsLoop place fuel 0

/-- `send_data_state` behind its loop. -/
def sendDataRest : RcopyProg RcopyState := do
  let info ← Prog.get
  if info.fileDone = true ∧ windowEmpty info.window = true then return .sendEof
  else return .waitOnAck

/-- A turn of the loop of `send_data_state` behind its `read`, and what comes after it. -/
def sendDataTurn (fuel : Nat) (again : RcopyProg RcopyState) :
    Option Bytes → RcopyProg RcopyState
  | none => hadError
  | some [] => do
      Prog.modify fun info => { info with fileDone := true }
      sendDataRest
  | some data => do
      let info ← Prog.get
      let sendSeq := info.window.current
      let packet := builtPacket sendSeq flagData data
      safeSendto packet
      Prog.modify fun info =>
        { info with window := windowAdd info.window sendSeq packet, retryCount := 0 }
      let _ ← processControls (fun _ => .sendDataState) fuel
      again

/-- The loop of `send_data_state`; `fuel'` is for `process_controls`. -/
def sendDataLoop (fuel' : Nat) : Nat → RcopyProg RcopyState
  | 0 => Prog.spin
  | fuel + 1 => do
      let info ← Prog.get
      if windowOpen info.window = true ∧ info.fileDone = false then
        let data ← readInput
        sendDataTurn fuel' (sendDataLoop fuel' fuel) data
      else sendDataRest

def sendDataState (fuel : Nat) : RcopyProg RcopyState := sendDataLoop fuel fuel

/-- `wait_on_ack_state` behind its `process_controls`. -/
def waitOnAckRest (gotControl : Nat) : RcopyProg RcopyState := do
  if 0 < gotControl then
    Prog.modify fun info => { info with retryCount := 0 }
    return .sendData
  else
    let info ← Prog.get
    match windowLowest info.window with
    | none => return .sendData
    | some entry =>
        Prog.modify fun info => { info with retryCount := info.retryCount + 1 }
        let info ← Prog.get
        if maxTries ≤ info.retryCount then hadError
        else
          Prog.modify fun info => resendPacket info entry
          return .waitOnAck

def waitOnAckState (fuel : Nat) : RcopyProg RcopyState := do
  let gotControl ← processControls .waitOnAckState fuel
  waitOnAckRest gotControl

/-- A datagram in the loop of `send_eof_state`, and what comes after it. -/
def sendEofTurn (again : RcopyProg RcopyState) (inPacket : Bytes) : RcopyProg RcopyState :=
  if checkPacket inPacket = true ∧ getFlag inPacket = flagEofAck then do
    Prog.modify sendFinalDone
    return .done
  else again

/-- The loop of `send_eof_state`; the argument is `MAX_TRIES - tries`. -/
def sendEofLoop (packet : Bytes) : Nat → RcopyProg RcopyState
  | 0 => hadError
  | left + 1 => do
      safeSendto packet
      match ← pollCall (.sendEofState packet (maxTries - (left + 1))) with
      | .timeout => sendEofLoop packet left
      | .recv _ inPacket => sendEofTurn (sendEofLoop packet left) inPacket

def sendEofState : RcopyProg RcopyState := do
  let info ← Prog.get
  sendEofLoop (builtPacket info.window.current flagEof []) maxTries

def rcopyTurn (session : Session) (fuel : Nat) : RcopyState → RcopyProg RcopyState
  | .startState => startState session
  | .filename => filenameState session.outName
  | .sendData => sendDataState fuel
  | .waitOnAck => waitOnAckState fuel
  | .sendEof => sendEofState
  | .done => return .done

/-- The loop of `process_file`, and what is behind it. -/
def processFileLoop (session : Session) : Nat → RcopyState → RcopyProg Int
  | 0, _ => Prog.spin
  | fuel + 1, state =>
      if state = .done then do
        let info ← Prog.get
        return if info.hadError = true then -1 else 0
      else do
        let next ← rcopyTurn session fuel state
        processFileLoop session fuel next

def processFile (session : Session) (fuel : Nat) : RcopyProg Int :=
  processFileLoop session fuel .startState

/-! ## The machine is rcopy -/

/-- What one can tell of rcopy from outside. -/
def rcopySeen (rcopy : Rcopy) : Seen RcopyAt RcopyInfo Int :=
  match rcopy.state with
  | .done => .returned (if rcopy.info.hadError = true then -1 else 0) rcopy.info
  | .exited => .exited rcopy.info
  | .sendFilenamePacket _ _ | .sendDataState | .waitOnAckState _ | .sendEofState _ _ =>
      .waiting rcopy.state rcopy.info

/-- What `process_file` still has to do where the machine is, when at most `n` inputs are to
come. -/
inductive RcopyStands (session : Session) : Nat → Rcopy → RcopyInfo → RcopyProg Int → Prop
  | filename {n fuel left tries : Nat} {packet : Bytes} {info : RcopyInfo}
      (hleft : tries + (left + 1) = maxTries) (hfuel : 2 * n + 1 ≤ fuel) :
      RcopyStands session n ⟨.sendFilenamePacket packet tries, info.safeSendto packet⟩ info
        (sendFilenameLoop packet (left + 1) >>= fun answer =>
          filenameRest answer >>= processFileLoop session fuel)
  | sendData {n fuel fuel' f f₁ : Nat} {info : RcopyInfo} (count : Nat) (hcontrols : n < f₁)
      (hcontrols' : n ≤ fuel') (hloop : n ≤ f) (hfuel : 2 * n + 1 ≤ fuel) :
      RcopyStands session n ⟨.sendDataState, info⟩ info
        (processControlsLoop (fun _ => .sendDataState) f₁ count >>= fun _ =>
          sendDataLoop fuel' f >>= processFileLoop session fuel)
  | waitOnAck {n fuel f₁ : Nat} {info : RcopyInfo} (count : Nat) (hcontrols : n < f₁)
      (hfuel : 2 * n + 1 ≤ fuel) :
      RcopyStands session n ⟨.waitOnAckState count, info⟩ info
        (processControlsLoop .waitOnAckState f₁ count >>= fun gotControl =>
          waitOnAckRest gotControl >>= processFileLoop session fuel)
  | sendEof {n fuel left tries : Nat} {packet : Bytes} {info : RcopyInfo}
      (hleft : tries + (left + 1) = maxTries) (hfuel : 2 * n + 1 ≤ fuel) :
      RcopyStands session n ⟨.sendEofState packet tries, info.safeSendto packet⟩ info
        (sendEofLoop packet (left + 1) >>= processFileLoop session fuel)
  | done {n : Nat} {info : RcopyInfo} :
      RcopyStands session n ⟨.done, info⟩ info
        (pure (if info.hadError = true then -1 else 0))
  | exited {n : Nat} {info : RcopyInfo} :
      RcopyStands session n ⟨.exited, info⟩ info Prog.exit

abbrev RcopyLeads (session : Session) (n : Nat) : Rcopy → RcopyInfo → RcopyProg Int → Prop :=
  Leads (RcopyStands session n)

section Leads

variable {session : Session} {n fuel : Nat} {info : RcopyInfo}

theorem leads_done (hfuel : 1 ≤ fuel) :
    RcopyLeads session n ⟨.done, info⟩ info (processFileLoop session fuel .done) := by
  cases fuel with
  | zero => cases hfuel
  | succ fuel => exact .of_run (.refl .done) fun _ => rfl

theorem leads_hadError (hfuel : 1 ≤ fuel) :
    RcopyLeads session n ⟨.done, { info with hadError := true }⟩ info
      (hadError >>= processFileLoop session fuel) :=
  (leads_done hfuel).of_run fun _ => rfl

theorem leads_waitOnAck (hfuel : 2 * n + 2 ≤ fuel) :
    RcopyLeads session n ⟨.waitOnAckState 0, info⟩ info
      (processFileLoop session fuel .waitOnAck) := by
  cases fuel with
  | zero => cases hfuel
  | succ fuel =>
      have hfuel' : 2 * n + 1 ≤ fuel := Nat.le_of_succ_le_succ hfuel
      have hcontrols : n < fuel := by omega
      refine .of_run (.refl (.waitOnAck 0 hcontrols hfuel')) fun es => ?_
      show Prog.run ((processControls .waitOnAckState fuel >>= waitOnAckRest) >>= _) info es = _
      rw [Prog.bind_assoc]
      rfl

theorem leads_sendEof (hfuel : 2 * n + 2 ≤ fuel) :
    RcopyLeads session n (SelectiveReject.sendEofState info) info
      (processFileLoop session fuel .sendEof) := by
  cases fuel with
  | zero => cases hfuel
  | succ fuel =>
      have hfuel' : 2 * n + 1 ≤ fuel := Nat.le_of_succ_le_succ hfuel
      have hleft : 0 + (9 + 1) = maxTries := rfl
      exact .of_run (.refl (.sendEof hleft hfuel')) fun _ => rfl

theorem leads_sendDataRest (hfuel : 2 * n + 2 ≤ fuel) :
    RcopyLeads session n (sendDataLeave info) info
      (sendDataRest >>= processFileLoop session fuel) := by
  simp only [sendDataLeave]
  split
  · rename_i hleave
    refine (leads_sendEof hfuel).of_run fun es => ?_
    have hrest : sendDataRest info es = .ret .sendEof info es := by
      show (if _ then _ else _ : RcopyProg RcopyState) info es = _
      rw [if_pos hleave]
      rfl
    exact run_bind_ret hrest _
  · rename_i hstay
    refine (leads_waitOnAck hfuel).of_run fun es => ?_
    have hrest : sendDataRest info es = .ret .waitOnAck info es := by
      show (if _ then _ else _ : RcopyProg RcopyState) info es = _
      rw [if_neg hstay]
      rfl
    exact run_bind_ret hrest _

theorem readInput_nil (h : info.inputFile = []) (es : List PollEvent) :
    readInput info es = .ret (some []) info es := by
  show (match info.inputFile with
    | [] => _
    | _ :: _ => _ : RcopyProg (Option Bytes)) info es = _
  rw [h]
  rfl

theorem readInput_cons {data : Option Bytes} {rest : List (Option Bytes)}
    (h : info.inputFile = data :: rest) (es : List PollEvent) :
    readInput info es = .ret data { info with inputFile := rest } es := by
  show (match info.inputFile with
    | [] => _
    | _ :: _ => _ : RcopyProg (Option Bytes)) info es = _
  rw [h]
  rfl

theorem leads_sendDataLoop {fuel' f : Nat} (hloop : n < f) (hcontrols : n < fuel')
    (hfuel : 2 * n + 2 ≤ fuel) :
    RcopyLeads session n (SelectiveReject.sendDataState info) info
      (sendDataLoop fuel' f >>= processFileLoop session fuel) := by
  have hdone : 1 ≤ fuel := by omega
  cases f with
  | zero => cases hloop
  | succ f =>
      simp only [SelectiveReject.sendDataState]
      split
      · rename_i hopen
        have hread (data : Option Bytes) (info' : RcopyInfo) {es : List PollEvent}
            (h : readInput info es = .ret data info' es) :
            sendDataLoop fuel' (f + 1) info es
              = sendDataTurn fuel' (sendDataLoop fuel' f) data info' es := by
          show (if _ then _ else _ : RcopyProg RcopyState) info es = _
          rw [if_pos hopen]
          exact congrArg (Outcome.bind (sendDataTurn fuel' (sendDataLoop fuel' f))) h
        split
        · rename_i hinput
          exact (leads_sendDataRest hfuel).of_run fun es =>
            run_bind_congr (hread _ _ (readInput_nil hinput es)) _
        · rename_i rest hinput
          exact (leads_hadError hdone).of_run fun es =>
            run_bind_congr (hread _ _ (readInput_cons hinput es)) _
        · rename_i rest hinput
          exact (leads_sendDataRest hfuel).of_run fun es =>
            run_bind_congr (hread _ _ (readInput_cons hinput es)) _
        · rename_i data rest hne hinput
          obtain ⟨b, bs, rfl⟩ := List.exists_cons_of_ne_nil fun hnil => hne (hnil ▸ rfl)
          refine (Leads.refl (.sendData 0 hcontrols (Nat.le_of_lt hcontrols)
            (Nat.le_of_lt_succ hloop) (Nat.le_of_succ_le hfuel))).of_run fun es => ?_
          rw [run_bind_congr (hread _ _ (readInput_cons hinput es)), ← Prog.bind_assoc]
          rfl
      · rename_i hclosed
        refine (leads_sendDataRest hfuel).of_run fun es => run_bind_congr ?_ _
        show (if _ then _ else _ : RcopyProg RcopyState) info es = _
        rw [if_neg hclosed]

theorem leads_sendData (hfuel : 2 * n + 3 ≤ fuel) :
    RcopyLeads session n (SelectiveReject.sendDataState info) info
      (processFileLoop session fuel .sendData) := by
  cases fuel with
  | zero => cases hfuel
  | succ fuel =>
      have hfuel' : 2 * n + 2 ≤ fuel := Nat.le_of_succ_le_succ hfuel
      have hloop : n < fuel := by omega
      exact (leads_sendDataLoop hloop hloop hfuel').of_run fun _ => rfl

theorem waitOnAckRest_some {entry : WindowEntry} (hlowest : windowLowest info.window = some entry)
    (es : List PollEvent) :
    waitOnAckRest 0 info es
      = (if maxTries ≤ info.retryCount + 1 then hadError
          else do
            Prog.modify fun info => resendPacket info entry
            return .waitOnAck : RcopyProg RcopyState)
          { info with retryCount := info.retryCount + 1 } es := by
  show (match windowLowest info.window with
    | none => _
    | some _ => _ : RcopyProg RcopyState) info es = _
  rw [hlowest]
  rfl

theorem waitOnAckRest_none (hlowest : windowLowest info.window = none) (es : List PollEvent) :
    waitOnAckRest 0 info es = .ret .sendData info es := by
  show (match windowLowest info.window with
    | none => _
    | some _ => _ : RcopyProg RcopyState) info es = _
  rw [hlowest]
  rfl

theorem leads_waitOnAckRest (hfuel : 2 * n + 3 ≤ fuel) (count : Nat) :
    RcopyLeads session n (waitOnAckTimeout info count) info
      (waitOnAckRest count >>= processFileLoop session fuel) := by
  have hdone : 1 ≤ fuel := by omega
  cases count with
  | succ count => exact (leads_sendData hfuel).of_run fun _ => rfl
  | zero =>
      simp only [waitOnAckTimeout, Nat.lt_irrefl, if_false]
      split
      · rename_i hlowest
        exact (leads_sendData hfuel).of_run fun es => run_bind_ret (waitOnAckRest_none hlowest es) _
      · rename_i entry hlowest
        split
        · rename_i htries
          have hfailed := @leads_hadError session n fuel
            { info with retryCount := info.retryCount + 1 } hdone
          refine hfailed.of_run fun es => run_bind_congr ?_ _
          rw [waitOnAckRest_some hlowest, if_pos htries]
        · rename_i htries
          refine (leads_waitOnAck (Nat.le_of_succ_le hfuel)).of_run fun es => run_bind_ret ?_ _
          rw [waitOnAckRest_some hlowest, if_neg htries]
          rfl

end Leads

/-! ### One outcome -/

section Turn

variable {session : Session} {n : Nat}

theorem processControlsLoop_recv (place : Nat → RcopyAt) (f count : Nat) (info : RcopyInfo)
    (src : Addr) (packet : Bytes) (es : List PollEvent) :
    processControlsLoop place (f + 1) count info (.recv src packet :: es)
      = processControlsLoop place f (processControlsTurn info count src packet).2
          (processControlsTurn info count src packet).1 es := by
  show (if _ then (if _ then _ else if _ then _ else _) else _ : RcopyProg Nat) _ es = _
  simp only [processControlsTurn]
  split
  · split
    · rfl
    · split
      · rfl
      · rfl
  · rfl

theorem leads_sendFilenameLoop {fuel left tries : Nat} {info : RcopyInfo} {packet : Bytes}
    (hleft : tries + (left + 1) = maxTries) (hfuel : 2 * n + 1 ≤ fuel) :
    RcopyLeads session n (sendFilenameRetry info packet tries) info
      (sendFilenameLoop packet left >>= fun answer =>
        filenameRest answer >>= processFileLoop session fuel) := by
  simp only [sendFilenameRetry, retryLoop]
  cases left with
  | zero =>
      rw [if_neg (by omega)]
      exact (leads_hadError (by omega)).of_run fun _ => rfl
  | succ left =>
      rw [if_pos (by omega)]
      have hleft' : tries + 1 + (left + 1) = maxTries := by omega
      exact .refl (.filename hleft' hfuel)

theorem leads_sendEofLoop {fuel left tries : Nat} {info : RcopyInfo} {packet : Bytes}
    (hleft : tries + (left + 1) = maxTries) (hfuel : 2 * n + 1 ≤ fuel) :
    RcopyLeads session n (sendEofRetry info packet tries) info
      (sendEofLoop packet left >>= processFileLoop session fuel) := by
  simp only [sendEofRetry, retryLoop]
  cases left with
  | zero =>
      rw [if_neg (by omega)]
      exact (leads_hadError (by omega)).of_run fun _ => rfl
  | succ left =>
      rw [if_pos (by omega)]
      have hleft' : tries + 1 + (left + 1) = maxTries := by omega
      exact .refl (.sendEof hleft' hfuel)

theorem leads_filenameRest {fuel : Nat} {info : RcopyInfo} (hfuel : 2 * n + 3 ≤ fuel) :
    RcopyLeads session n
      (match windowInit info.callocOk info.windowSize info.controlSeq with
        | none => ⟨.exited, info⟩
        | some window => SelectiveReject.sendDataState { info with window := window })
      info (filenameRest true >>= processFileLoop session fuel) := by
  have hrest (es : List PollEvent) : filenameRest true info es
      = (match windowInit info.callocOk info.windowSize info.controlSeq with
        | none => Prog.exit
        | some window => do
            Prog.modify fun info => { info with window := window }
            return .sendData : RcopyProg RcopyState) info es := rfl
  split
  · rename_i hinit
    refine (Leads.refl .exited).of_run fun es => ?_
    show Outcome.seen (Outcome.bind _ (filenameRest true info es)) = _
    rw [hrest, hinit]
    rfl
  · rename_i window hinit
    refine (leads_sendData hfuel).of_run fun es => run_bind_ret ?_ _
    rw [hrest, hinit]
    rfl

theorem leads_sendFilenameTurn {fuel left tries : Nat} {info : RcopyInfo} {packet : Bytes}
    (hleft : tries + (left + 1) = maxTries) (hfuel : 2 * n + 3 ≤ fuel) (src : Addr)
    (inPacket : Bytes) :
    RcopyLeads session n (sendFilenameRecv info packet tries src inPacket)
      { info with server := src }
      (sendFilenameTurn (sendFilenameLoop packet left) src inPacket >>= fun answer =>
        filenameRest answer >>= processFileLoop session fuel) := by
  have hdone : 1 ≤ fuel := by omega
  simp only [sendFilenameRecv, sendFilenameTurn]
  split
  · split
    · have hfailed := @leads_hadError session n fuel { info with server := src } hdone
      exact hfailed.of_run fun _ => rfl
    · have hrest := @leads_filenameRest session n fuel
        { info with
          server := src, controlSeq := info.controlSeq + 1, accepted := some src } hfuel
      exact hrest.of_run fun _ => rfl
  · exact leads_sendFilenameLoop hleft (by omega)

theorem leads_sendEofTurn {fuel left tries : Nat} {info : RcopyInfo} {packet : Bytes}
    (hleft : tries + (left + 1) = maxTries) (hfuel : 2 * n + 1 ≤ fuel) (src : Addr)
    (inPacket : Bytes) :
    RcopyLeads session n (sendEofRecv info packet tries src inPacket) { info with server := src }
      (sendEofTurn (sendEofLoop packet left) inPacket >>= processFileLoop session fuel) := by
  simp only [sendEofRecv, sendEofTurn]
  split
  · exact (leads_done (by omega)).of_run fun _ => rfl
  · exact leads_sendEofLoop hleft hfuel

theorem processControlsTurn_fst (info : RcopyInfo) (count count' : Nat) (src : Addr)
    (packet : Bytes) :
    (processControlsTurn info count src packet).1
      = (processControlsTurn info count' src packet).1 := by
  simp only [processControlsTurn]
  split
  · split
    · rfl
    · split <;> rfl
  · rfl

/-- One outcome of `pollCall` takes the program and the machine to the same place. -/
theorem RcopyStands.step {rcopy : Rcopy} {info : RcopyInfo} {p : RcopyProg Int}
    (h : RcopyStands session (n + 1) rcopy info p) (ev : PollEvent) :
    ∃ info' p', RcopyStands session n (rcopyStep rcopy ev) info' p' ∧
      ∀ es, p.run info (ev :: es) = p'.run info' es := by
  -- `q` is what `p` has become once it has read `ev`
  have hlead {rcopy' : Rcopy} {info' : RcopyInfo} {q : RcopyProg Int}
      (hq : RcopyLeads session n rcopy' info' q)
      (hrun : ∀ es, p.run info (ev :: es) = q.run info' es) :
      ∃ info' p', RcopyStands session n rcopy' info' p' ∧
        ∀ es, p.run info (ev :: es) = p'.run info' es := by
    obtain ⟨info₁, p₁, hstands, hrun'⟩ := hq
    exact ⟨info₁, p₁, hstands, fun es => (hrun es).trans (hrun' es)⟩
  cases h with
  | @filename fuel left tries packet info hleft hfuel =>
      cases ev with
      | timeout => exact hlead (leads_sendFilenameLoop hleft (by omega)) fun _ => rfl
      | recv src inPacket =>
          exact hlead (leads_sendFilenameTurn hleft (by omega) src inPacket) fun _ => rfl
  | @sendData fuel fuel' f f₁ info count hcontrols hcontrols' hloop hfuel =>
      obtain ⟨f₁, rfl⟩ := Nat.exists_eq_add_one_of_ne_zero (Nat.ne_zero_of_lt hcontrols)
      cases ev with
      | timeout => exact hlead (leads_sendDataLoop hloop hcontrols' (by omega)) fun _ => rfl
      | recv src packet =>
          have hstands : RcopyStands session n
              (rcopyStep ⟨.sendDataState, info⟩ (.recv src packet)) _ _ :=
            .sendData (processControlsTurn info count src packet).2
              (Nat.lt_of_succ_lt_succ hcontrols) (Nat.le_of_succ_le hcontrols')
              (Nat.le_of_succ_le hloop) (show 2 * n + 1 ≤ fuel by omega)
          refine hlead (.refl hstands) fun es => ?_
          rw [processControlsTurn_fst info 0 count]
          exact run_bind_congr (processControlsLoop_recv _ f₁ count info src packet es) _
  | @waitOnAck fuel f₁ info count hcontrols hfuel =>
      obtain ⟨f₁, rfl⟩ := Nat.exists_eq_add_one_of_ne_zero (Nat.ne_zero_of_lt hcontrols)
      cases ev with
      | timeout => exact hlead (leads_waitOnAckRest (by omega) count) fun _ => rfl
      | recv src packet =>
          have hstands : RcopyStands session n
              (rcopyStep ⟨.waitOnAckState count, info⟩ (.recv src packet)) _ _ :=
            .waitOnAck _ (Nat.lt_of_succ_lt_succ hcontrols) (show 2 * n + 1 ≤ fuel by omega)
          refine hlead (.refl hstands) fun es => ?_
          exact run_bind_congr (processControlsLoop_recv _ f₁ count info src packet es) _
  | @sendEof fuel left tries packet info hleft hfuel =>
      cases ev with
      | timeout => exact hlead (leads_sendEofLoop hleft (by omega)) fun _ => rfl
      | recv src inPacket =>
          exact hlead (leads_sendEofTurn hleft (by omega) src inPacket) fun _ => rfl
  | done =>
      cases ev with
      | timeout => exact hlead (.refl .done) fun _ => rfl
      | recv src packet => exact hlead (.refl .done) fun _ => rfl
  | exited =>
      cases ev with
      | timeout => exact hlead (.refl .exited) fun _ => rfl
      | recv src packet => exact hlead (.refl .exited) fun _ => rfl

theorem RcopyStands.idle {rcopy : Rcopy} {info : RcopyInfo} {p : RcopyProg Int}
    (h : RcopyStands session n rcopy info p) : p.run info [] = rcopySeen rcopy := by
  cases h with
  | @filename fuel left tries packet info hleft hfuel =>
      obtain rfl : tries = maxTries - (left + 1) := Nat.eq_sub_of_add_eq hleft
      rfl
  | sendData count hcontrols hcontrols' hloop hfuel =>
      obtain ⟨f₁, rfl⟩ := Nat.exists_eq_add_one_of_ne_zero (Nat.ne_zero_of_lt hcontrols)
      rfl
  | waitOnAck count hcontrols hfuel =>
      obtain ⟨f₁, rfl⟩ := Nat.exists_eq_add_one_of_ne_zero (Nat.ne_zero_of_lt hcontrols)
      rfl
  | @sendEof fuel left tries packet info hleft hfuel =>
      obtain rfl : tries = maxTries - (left + 1) := Nat.eq_sub_of_add_eq hleft
      rfl
  | done => rfl
  | exited => rfl

end Turn

def startedInfo (session : Session) : RcopyInfo :=
  { zeroInfo session.callocOk with
    windowSize := session.windowSize
    bufferSize := session.bufferSize
    inputFile := session.chunks.map some
    server := .server
    controlSeq := firstSeq }

theorem start_eq (session : Session) :
    session.start
      = ⟨.sendFilenamePacket session.filenamePacket 0,
          (startedInfo session).safeSendto session.filenamePacket⟩ := rfl

/-- `process_file` is the machine: on any outcomes of `pollCall` it waits where the machine waits,
ends where it ends, and has sent what it has sent; and it never goes round without
asking for the next outcome. -/
theorem process_file_cut (session : Session) (es : List PollEvent) (spare : Nat) :
    (processFile session (2 * es.length + 3 + spare)).run (zeroInfo session.callocOk) es
      = rcopySeen (feed rcopyStep session.start es) := by
  -- two turns of the loop for start_state and filename_state
  obtain ⟨fuel, hfuel, hspare⟩ :
      ∃ fuel, 2 * es.length + 1 ≤ fuel ∧ 2 * es.length + 3 + spare = fuel + 2 :=
    ⟨2 * es.length + 1 + spare, by omega, by omega⟩
  rw [hspare]
  have hleft : 0 + (9 + 1) = maxTries := rfl
  have hstands := @RcopyStands.filename session es.length fuel 9 0 session.filenamePacket
    (startedInfo session) hleft hfuel
  rw [start_eq, ← run_eq_seen (fun h => h.idle) (fun ev h => h.step ev) (Nat.le_refl _) hstands]
  show Prog.run ((sendFilenamePacket session.outName >>= filenameRest) >>=
    processFileLoop session fuel) (startedInfo session) es = _
  rw [Prog.bind_assoc]
  rfl

/-! ## The child of the server -/

section Child

variable {F : Type}

/-- The states of the switch in `process_client`. -/
inductive ServerState where
  | start
  | filename
  | recvData
  | waitOnDone
  | done
deriving DecidableEq, Repr

abbrev ServerProg (F : Type) := Prog ServerAt PollEvent (ServerInfo F)

/-- `pollCall`, and on a ready socket the `safeRecvfrom` behind it. -/
def childPollCall (place : ServerAt) : ServerProg F PollEvent := do
  let ev ← Prog.input place
  match ev with
  | .timeout => return ev
  | .recv src _ =>
      Prog.modify fun info => { info with client := src }
      return ev

/-- `buffer_init`, which exits when its `calloc` fails. -/
def initBuffer (callocOk : Bool) : ServerProg F PUnit := fun info es =>
  match bufferInit callocOk info.windowSize firstDataSeq with
  | none => .exit info
  | some buffer => .ret ⟨⟩ { info with buffer := buffer } es

/-- The loop of `buffer_write_ready`. -/
def bufferWriteReadyLoop (write : F → Bytes → Int × F) : Nat → ServerProg F PUnit
  | 0 => Prog.spin
  | fuel + 1 => do
      let info ← Prog.get
      if bufferHas info.buffer info.buffer.expected = true then
        let spot := info.buffer.spot info.buffer.expected
        let entry := info.buffer.at spot
        let wrote := write info.outputFile (entry.data.take entry.dataLen)
        Prog.modify fun info => { info with outputFile := wrote.2 }
        if wrote.1 < 0 then Prog.exit
        else do
          Prog.modify fun info =>
            { info with
              buffer :=
                { info.buffer with
                  entry := info.buffer.entry.set spot { entry with used := false } } }
          Prog.modify fun info =>
            { info with buffer := { info.buffer with expected := info.buffer.expected + 1 } }
          bufferWriteReadyLoop write fuel
      else return ⟨⟩

def bufferWriteReady (write : F → Bytes → Int × F) : ServerProg F PUnit := do
  let info ← Prog.get
  bufferWriteReadyLoop write (info.buffer.entry.length + 1)

/-- `handle_data_packet` with a packet that fills the gap. -/
def handleNextPacket (write : F → Bytes → Int × F) (seq : UInt32) : ServerProg F PUnit := do
  Prog.modify fun info => { info with buffer := bufferClearReject info.buffer seq }
  bufferWriteReady write
  Prog.modify sendRr
  let info ← Prog.get
  if bufferHasLater info.buffer = true then Prog.modify rejectIfNeeded else return ⟨⟩

def handleDataPacket (write : F → Bytes → Int × F) (packet : Bytes) : ServerProg F PUnit := do
  let seq := getSeq packet
  let data := packet.drop srejHeaderLen
  let info ← Prog.get
  if seq < bufferExpected info.buffer then Prog.modify sendRr
  else if bufferInWindow info.buffer seq = false then Prog.modify sendRr
  else do
    Prog.modify fun info => { info with buffer := bufferSave info.buffer seq data }
    let info ← Prog.get
    if seq = bufferExpected info.buffer then handleNextPacket write seq
    else Prog.modify rejectIfNeeded

/-- `opened` and `callocOk` are as in `SelectiveReject.filenameState`. -/
def childFilenameState (opened : Option F) (callocOk : Bool) : ServerProg F ServerState := do
  Prog.modify fun info =>
    { info with
      windowSize := (readU32 info.firstPacket srejHeaderLen).toInt32
      bufferSize := (readU32 info.firstPacket (srejHeaderLen + 4)).toInt32 }
  match opened with
  | none =>
      Prog.modify fun info => sendFilenameResponse info 1
      return .done
  | some file =>
      Prog.modify fun info => sendFilenameResponse { info with outputFile := file } 0
      initBuffer callocOk
      return .recvData

/-- `recv_data_state` behind its `pollCall`. -/
def recvDataRest (write : F → Bytes → Int × F) : PollEvent → ServerProg F ServerState
  | .timeout => return .done
  | .recv _ packet =>
      if checkPacket packet = false then return .recvData
      else if getFlag packet = flagData then do
        handleDataPacket write packet
        return .recvData
      else if getFlag packet = flagEof then do
        Prog.modify handleEofPacket
        return .waitOnDone
      else return .recvData

def recvDataState (write : F → Bytes → Int × F) : ServerProg F ServerState := do
  let ev ← childPollCall .recvData
  recvDataRest write ev

/-- `wait_on_done_state` behind its `pollCall`. -/
def waitOnDoneRest : PollEvent → ServerProg F ServerState
  | .timeout => do
      Prog.modify fun info => { info with retryCount := info.retryCount + 1 }
      let info ← Prog.get
      if serverMaxTries ≤ info.retryCount then return .done
      else
        Prog.modify resendLastAck
        return .waitOnDone
  | .recv _ packet =>
      if checkPacket packet = false then return .waitOnDone
      else if getFlag packet = flagDone then return .done
      else if getFlag packet = flagEof then do
        Prog.modify resendLastAck
        return .waitOnDone
      else return .waitOnDone

def waitOnDoneState : ServerProg F ServerState := do
  let ev ← childPollCall .waitOnDone
  waitOnDoneRest ev

section Loop

variable (write : F → Bytes → Int × F) (opened : Option F) (callocOk : Bool)

/-- The switch; `start_state` only makes the socket. -/
def serverTurn : ServerState → ServerProg F ServerState
  | .start => return .filename
  | .filename => childFilenameState opened callocOk
  | .recvData => recvDataState write
  | .waitOnDone => waitOnDoneState
  | .done => return .done

def processClientLoop : Nat → ServerState → ServerProg F Unit
  | 0, _ => Prog.spin
  | fuel + 1, state =>
      if state = .done then return ()
      else do
        let next ← serverTurn write opened callocOk state
        processClientLoop fuel next

def processClient (fuel : Nat) : ServerProg F Unit :=
  processClientLoop write opened callocOk fuel .start

end Loop

/-! ### The machine is the child -/

/-- What one can tell of a child from outside; one that has not run `filename_state` does not
wait for anything. -/
def childSeen (child : Child F) : Seen ServerAt (ServerInfo F) Unit :=
  match child.state with
  | .filename => .spinning
  | .done => .returned () child.info
  | .exited => .exited child.info
  | .recvData | .waitOnDone => .waiting child.state child.info

variable {write : F → Bytes → Int × F} {opened : Option F} {callocOk : Bool} {n fuel : Nat}
  {info : ServerInfo F}

/-- What `process_client` still has to do where the machine is. -/
inductive ChildStands (write : F → Bytes → Int × F) (opened : Option F) (callocOk : Bool) :
    Nat → Child F → ServerInfo F → ServerProg F Unit → Prop
  | recvData {n fuel : Nat} {info : ServerInfo F} (hfuel : n + 1 ≤ fuel) :
      ChildStands write opened callocOk n ⟨.recvData, info⟩ info
        (recvDataState write >>= processClientLoop write opened callocOk fuel)
  | waitOnDone {n fuel : Nat} {info : ServerInfo F} (hfuel : n + 1 ≤ fuel) :
      ChildStands write opened callocOk n ⟨.waitOnDone, info⟩ info
        (waitOnDoneState >>= processClientLoop write opened callocOk fuel)
  | done {n : Nat} {info : ServerInfo F} :
      ChildStands write opened callocOk n ⟨.done, info⟩ info (pure ())
  | exited {n : Nat} {info : ServerInfo F} :
      ChildStands write opened callocOk n ⟨.exited, info⟩ info Prog.exit

abbrev ChildLeads (write : F → Bytes → Int × F) (opened : Option F) (callocOk : Bool) (n : Nat) :
    Child F → ServerInfo F → ServerProg F Unit → Prop :=
  Leads (ChildStands write opened callocOk n)

/-! The head of the loop. -/

theorem leads_recvData (hfuel : n + 2 ≤ fuel) (info : ServerInfo F) :
    ChildLeads write opened callocOk n ⟨.recvData, info⟩ info
      (processClientLoop write opened callocOk fuel .recvData) := by
  cases fuel with
  | zero => cases hfuel
  | succ fuel => exact .of_run (.refl (.recvData (Nat.le_of_succ_le_succ hfuel))) fun _ => rfl

theorem leads_waitOnDone (hfuel : n + 2 ≤ fuel) (info : ServerInfo F) :
    ChildLeads write opened callocOk n ⟨.waitOnDone, info⟩ info
      (processClientLoop write opened callocOk fuel .waitOnDone) := by
  cases fuel with
  | zero => cases hfuel
  | succ fuel => exact .of_run (.refl (.waitOnDone (Nat.le_of_succ_le_succ hfuel))) fun _ => rfl

theorem leads_childDone (hfuel : n + 2 ≤ fuel) (info : ServerInfo F) :
    ChildLeads write opened callocOk n ⟨.done, info⟩ info
      (processClientLoop write opened callocOk fuel .done) := by
  cases fuel with
  | zero => cases hfuel
  | succ fuel => exact .of_run (.refl .done) fun _ => rfl

/-! The states. -/

theorem childFilenameState_none (info : ServerInfo F) (es : List PollEvent) :
    childFilenameState none callocOk info es
      = .ret .done (sendFilenameResponse { info with
          windowSize := (readU32 info.firstPacket srejHeaderLen).toInt32
          bufferSize := (readU32 info.firstPacket (srejHeaderLen + 4)).toInt32 } 1) es := by
  rfl

theorem childFilenameState_some (file : F) (info : ServerInfo F) (es : List PollEvent) :
    childFilenameState (some file) callocOk info es
      = (initBuffer callocOk (sendFilenameResponse { info with
          windowSize := (readU32 info.firstPacket srejHeaderLen).toInt32
          bufferSize := (readU32 info.firstPacket (srejHeaderLen + 4)).toInt32
          outputFile := file } 0) es).bind fun _ info es => .ret .recvData info es := by
  rfl

theorem initBuffer_none {info : ServerInfo F}
    (h : bufferInit callocOk info.windowSize firstDataSeq = none) (es : List PollEvent) :
    initBuffer callocOk info es = .exit info := by
  simp only [initBuffer, h]

theorem initBuffer_some {info : ServerInfo F} {buffer : Buffer}
    (h : bufferInit callocOk info.windowSize firstDataSeq = some buffer) (es : List PollEvent) :
    initBuffer callocOk info es = .ret ⟨⟩ { info with buffer := buffer } es := by
  simp only [initBuffer, h]

/-- The buffer and the file of `ready`, in `info`. -/
def drained (info : ServerInfo F) (ready : Buffer × F) : ServerInfo F :=
  { info with buffer := ready.1, outputFile := ready.2 }

/-- The loop has fuel for the packets there are in the buffer. -/
theorem bufferWriteReadyLoop_eq : ∀ {fuel : Nat} {info : ServerInfo F},
    info.buffer.entry.countP (·.used) < fuel → ∀ es : List PollEvent,
      bufferWriteReadyLoop write fuel info es
        = .settle es (((SelectiveReject.bufferWriteReady write info.buffer info.outputFile).map
            (drained info)).mapError (drained info)) := by
  intro fuel
  induction fuel with
  | zero => exact fun h => absurd h (Nat.not_lt_zero _)
  | succ fuel ih =>
      intro info hcount es
      have hloop : bufferWriteReadyLoop write (fuel + 1) info es
          = (if bufferHas info.buffer info.buffer.expected = true then
              (if (write info.outputFile info.buffer.ready).1 < 0 then
                .exit (drained info (info.buffer, (write info.outputFile info.buffer.ready).2))
              else bufferWriteReadyLoop write fuel
                (drained info
                  (info.buffer.written, (write info.outputFile info.buffer.ready).2)) es)
            else .ret ⟨⟩ info es) := by
        simp only [bufferWriteReadyLoop, Prog.get_bind, Prog.ite_apply, Prog.modify_bind]
        rfl
      rw [hloop]
      by_cases hhas : bufferHas info.buffer info.buffer.expected = true
      · rw [if_pos hhas, bufferWriteReady_of_has hhas]
        split
        · rfl
        · have hused := countP_clear_lt (of_decide_eq_true hhas).1
          exact ih (Nat.lt_of_lt_of_le hused (Nat.le_of_lt_succ hcount)) es
      · rw [if_neg hhas, bufferWriteReady_of_not_has hhas]
        rfl

theorem bufferWriteReady_eq (info : ServerInfo F) (es : List PollEvent) :
    bufferWriteReady write info es
      = .settle es (((SelectiveReject.bufferWriteReady write info.buffer info.outputFile).map
          (drained info)).mapError (drained info)) :=
  bufferWriteReadyLoop_eq (Nat.lt_succ_of_le List.countP_le_length) es

/-- What is behind `buffer_write_ready` sends the RR, and an SREJ if something is held. -/
def answerNext : Except (ServerInfo F) (ServerInfo F) → Except (ServerInfo F) (ServerInfo F)
  | .error info => .error info
  | .ok info =>
      if bufferHasLater (sendRr info).buffer = true then .ok (rejectIfNeeded (sendRr info))
      else .ok (sendRr info)

theorem handleNextPacket_eq (info : ServerInfo F) (seq : UInt32) (es : List PollEvent) :
    handleNextPacket write seq info es
      = .settle es (answerNext (((SelectiveReject.bufferWriteReady write
          (bufferClearReject info.buffer seq) info.outputFile).map (drained info)).mapError
            (drained info))) := by
  have hready := @bufferWriteReady_eq F write
    { info with buffer := bufferClearReject info.buffer seq } es
  simp only [handleNextPacket, Prog.modify_bind]
  show Outcome.bind _ (bufferWriteReady write _ es) = _
  rw [hready]
  cases SelectiveReject.bufferWriteReady write (bufferClearReject info.buffer seq)
      info.outputFile with
  | error failed => rfl
  | ok ready =>
      have hdrained : drained { info with buffer := bufferClearReject info.buffer seq } ready
          = drained info ready := rfl
      simp only [Except.map, Except.mapError, Outcome.settle, Outcome.bind, hdrained, answerNext,
        Prog.modify_bind, Prog.get_bind, Prog.ite_apply]
      generalize sendRr (drained info ready) = answered
      split
      · rfl
      · rfl

theorem handleDataPacket_fills {info : ServerInfo F} {packet : Bytes}
    (hle : ¬ getSeq packet < bufferExpected info.buffer)
    (hin : ¬ bufferInWindow info.buffer (getSeq packet) = false) {saved : Buffer}
    (hsaved : bufferSave info.buffer (getSeq packet) (packet.drop srejHeaderLen) = saved)
    (hfills : getSeq packet = bufferExpected saved) :
    SelectiveReject.handleDataPacket write info packet
      = answerNext (((SelectiveReject.bufferWriteReady write
          (bufferClearReject saved (getSeq packet)) info.outputFile).map (drained info)).mapError
            (drained info)) := by
  simp only [SelectiveReject.handleDataPacket, if_neg hle, if_neg hin, hsaved, if_pos hfills]
  cases SelectiveReject.bufferWriteReady write (bufferClearReject saved (getSeq packet))
      info.outputFile with
  | error failed => rfl
  | ok ready => rfl

theorem handleDataPacket_eq (info : ServerInfo F) (packet : Bytes) (es : List PollEvent) :
    handleDataPacket write packet info es
      = .settle es (SelectiveReject.handleDataPacket write info packet) := by
  -- the rewrites are spelled out in the proof term: the kernel is not to compare programs
  simp -implicitDefEqProofs only [handleDataPacket, Prog.get_bind, Prog.ite_apply,
    Prog.modify_bind, Prog.modify_apply]
  by_cases hold : getSeq packet < bufferExpected info.buffer
  · rw [if_pos hold, SelectiveReject.handleDataPacket, if_pos hold]
    rfl
  · rw [if_neg hold]
    by_cases hout : bufferInWindow info.buffer (getSeq packet) = false
    · rw [if_pos hout, SelectiveReject.handleDataPacket, if_neg hold, if_pos hout]
      rfl
    · rw [if_neg hout]
      generalize hsaved : bufferSave info.buffer (getSeq packet) (packet.drop srejHeaderLen)
        = saved
      by_cases hfills : getSeq packet = bufferExpected saved
      · rw [if_pos hfills, handleNextPacket_eq, handleDataPacket_fills hold hout hsaved hfills]
        rfl
      · rw [if_neg hfills]
        simp only [SelectiveReject.handleDataPacket, if_neg hold, if_neg hout, hsaved,
          if_neg hfills]
        rfl

theorem leads_childFilenameState (hfuel : n + 2 ≤ fuel) (info : ServerInfo F) :
    ChildLeads write opened callocOk n (SelectiveReject.filenameState info opened callocOk) info
      (childFilenameState opened callocOk >>= processClientLoop write opened callocOk fuel) := by
  cases opened with
  | none =>
      exact (leads_childDone hfuel _).of_run fun es =>
        run_bind_ret (childFilenameState_none info es) _
  | some file =>
      simp only [SelectiveReject.filenameState]
      split
      · rename_i hinit
        refine (Leads.refl .exited).of_run fun es => run_bind_exit ?_ _
        rw [childFilenameState_some, initBuffer_none hinit]
        rfl
      · rename_i buffer hinit
        refine (leads_recvData hfuel _).of_run fun es => run_bind_ret ?_ _
        rw [childFilenameState_some, initBuffer_some hinit]
        rfl

theorem leads_recvDataRest (hfuel : n + 2 ≤ fuel) (src : Addr) (packet : Bytes) :
    ChildLeads write opened callocOk n (recvDataRecv write info src packet)
      { info with client := src }
      (recvDataRest write (.recv src packet) >>= processClientLoop write opened callocOk fuel) := by
  simp only [recvDataRecv, recvDataRest]
  split
  · exact (leads_recvData hfuel _).of_run fun _ => rfl
  · split
    · have hhandle (es : List PollEvent) :
          (do handleDataPacket write packet; return .recvData : ServerProg F ServerState)
              { info with client := src } es
            = (handleDataPacket write packet { info with client := src } es).bind
                fun _ info es => .ret .recvData info es := rfl
      split
      · rename_i failed hfail
        refine (Leads.refl .exited).of_run fun es => run_bind_exit ?_ _
        rw [hhandle, handleDataPacket_eq, hfail]
        rfl
      · rename_i info' hok
        refine (leads_recvData hfuel _).of_run fun es => run_bind_ret ?_ _
        rw [hhandle, handleDataPacket_eq, hok]
        rfl
    · split
      · exact (leads_waitOnDone hfuel _).of_run fun _ => rfl
      · exact (leads_recvData hfuel _).of_run fun _ => rfl

theorem leads_waitOnDoneRest (hfuel : n + 2 ≤ fuel) (src : Addr) (packet : Bytes) :
    ChildLeads write opened callocOk n (waitOnDoneRecv info src packet)
      { info with client := src }
      (waitOnDoneRest (.recv src packet) >>= processClientLoop write opened callocOk fuel) := by
  simp only [waitOnDoneRecv, waitOnDoneRest]
  split
  · exact (leads_waitOnDone hfuel _).of_run fun _ => rfl
  · split
    · exact (leads_childDone hfuel _).of_run fun _ => rfl
    · split
      · exact (leads_waitOnDone hfuel _).of_run fun _ => rfl
      · exact (leads_waitOnDone hfuel _).of_run fun _ => rfl

theorem leads_waitOnDoneTimeout (hfuel : n + 2 ≤ fuel) :
    ChildLeads write opened callocOk n (waitOnDoneTimeout info) info
      (waitOnDoneRest .timeout >>= processClientLoop write opened callocOk fuel) := by
  have hrest (es : List PollEvent) : waitOnDoneRest .timeout info es
      = (if serverMaxTries ≤ info.retryCount + 1 then return .done
          else do
            Prog.modify resendLastAck
            return .waitOnDone : ServerProg F ServerState)
          { info with retryCount := info.retryCount + 1 } es := rfl
  simp only [waitOnDoneTimeout]
  split
  · rename_i htries
    refine (leads_childDone hfuel _).of_run fun es => run_bind_ret ?_ _
    rw [hrest, if_pos htries]
    rfl
  · rename_i htries
    refine (leads_waitOnDone hfuel _).of_run fun es => run_bind_ret ?_ _
    rw [hrest, if_neg htries]
    rfl

theorem ChildStands.step {child : Child F} {p : ServerProg F Unit}
    (h : ChildStands write opened callocOk (n + 1) child info p) (ev : PollEvent) :
    ∃ info' p', ChildStands write opened callocOk n (childStep write child ev) info' p' ∧
      ∀ es, p.run info (ev :: es) = p'.run info' es := by
  have hlead {child' : Child F} {info' : ServerInfo F} {q : ServerProg F Unit}
      (hq : ChildLeads write opened callocOk n child' info' q)
      (hrun : ∀ es, p.run info (ev :: es) = q.run info' es) :
      ∃ info' p', ChildStands write opened callocOk n child' info' p' ∧
        ∀ es, p.run info (ev :: es) = p'.run info' es := by
    obtain ⟨info₁, p₁, hstands, hrun'⟩ := hq
    exact ⟨info₁, p₁, hstands, fun es => (hrun es).trans (hrun' es)⟩
  cases h with
  | recvData hfuel =>
      cases ev with
      | timeout => exact hlead (leads_childDone hfuel _) fun _ => rfl
      | recv src packet => exact hlead (leads_recvDataRest hfuel src packet) fun _ => rfl
  | waitOnDone hfuel =>
      cases ev with
      | timeout => exact hlead (leads_waitOnDoneTimeout hfuel) fun _ => rfl
      | recv src packet => exact hlead (leads_waitOnDoneRest hfuel src packet) fun _ => rfl
  | done =>
      cases ev with
      | timeout => exact hlead (.refl .done) fun _ => rfl
      | recv src packet => exact hlead (.refl .done) fun _ => rfl
  | exited =>
      cases ev with
      | timeout => exact hlead (.refl .exited) fun _ => rfl
      | recv src packet => exact hlead (.refl .exited) fun _ => rfl

theorem ChildStands.idle {child : Child F} {p : ServerProg F Unit}
    (h : ChildStands write opened callocOk n child info p) : p.run info [] = childSeen child := by
  cases h with
  | recvData hfuel => rfl
  | waitOnDone hfuel => rfl
  | done => rfl
  | exited => rfl

/-- `process_client` is the machine; at a `write` that fails they exit with the same file and the
same buffer. -/
theorem process_client_cut (write : F → Bytes → Int × F) (opened : Option F) (callocOk : Bool)
    (packet : Bytes) (client : Addr) (unopened : F) (es : List PollEvent) (spare : Nat) :
    (processClient write opened callocOk (es.length + 4 + spare)).run
        (SelectiveReject.processClient packet client unopened).info es
      = childSeen (feed (childStep write)
          (childSetup (SelectiveReject.processClient packet client unopened) opened callocOk)
          es) := by
  obtain ⟨fuel, hfuel, hspare⟩ : ∃ fuel, es.length + 2 ≤ fuel ∧ es.length + 4 + spare = fuel + 2 :=
    ⟨es.length + 2 + spare, by omega, by omega⟩
  rw [hspare]
  obtain ⟨info', p', hstands, hrun⟩ := @leads_childFilenameState F write opened callocOk es.length
    fuel hfuel (SelectiveReject.processClient packet client unopened).info
  have hcut := run_eq_seen (fun h => h.idle) (fun ev h => h.step ev) (Nat.le_refl _) hstands
  exact (hrun es).trans hcut

end Child

end Source

end SelectiveReject
