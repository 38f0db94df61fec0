/-
# `SelectiveReject.Rcopy` — the sending program (`rcopy.c`)

`process_file` is a state machine whose states call `pollCall` at four places.  Between
two of these calls rcopy takes no input, so the model cuts the program there:
an `RcopyAt` says in which call rcopy is waiting, with the locals that are live
across it, and `rcopyStep` runs from one `pollCall` to the next.

    RcopyAt                 the pollCall
    sendFilenamePacket      the one in send_filename_packet
    sendDataState           those of process_controls, called from send_data_state
    waitOnAckState          those of process_controls, called from wait_on_ack_state
    sendEofState            the one in send_eof_state
    done, exited            none: process_file has returned, or exit(-1) was called

A function that contains a `pollCall` is therefore written in two or three pieces: up to the call
(under the function's own name), after a timeout, after a datagram.  A `pollCall` with a zero
timeout and one of a second differ only in how long a timeout takes.

`sent` and `accepted` are ghosts: the log of every `safeSendto`, oldest first, and the
socket whose FILENAME_RESP was accepted.  No branch reads them.
-/
import SelectiveReject.Window

namespace SelectiveReject

def maxTries : Nat := 10
def firstSeq : UInt32 := 1

structure RcopyInfo where
  /-- What the `read` calls to come return: `none` for -1, `some []` for 0; after
  the list, 0. -/
  inputFile : List (Option Bytes)
  windowSize : Int32
  bufferSize : Int32
  fileDone : Bool
  hadError : Bool
  retryCount : Nat
  controlSeq : UInt32
  server : Addr
  window : Window
  /-- The system's answer to the `calloc` of `window_init`. -/
  callocOk : Bool
  sent : List Sent
  accepted : Option Addr
deriving DecidableEq, Repr

inductive RcopyAt where
  | sendFilenamePacket (packet : Bytes) (tries : Nat)
  | sendDataState
  | waitOnAckState (count : Nat)
  | sendEofState (packet : Bytes) (tries : Nat)
  | done
  | exited
deriving DecidableEq, Repr

structure Rcopy where
  state : RcopyAt
  info : RcopyInfo
deriving DecidableEq, Repr

namespace RcopyInfo

/-- `safeSendto(info->socket_num, packet, ..., &info->server, ...)` -/
def safeSendto (info : RcopyInfo) (packet : Bytes) : RcopyInfo :=
  { info with sent := info.sent ++ [⟨info.server, packet⟩] }

end RcopyInfo

open RcopyInfo

/-! ## Control packets -/

def handleRr (info : RcopyInfo) (packet : Bytes) : RcopyInfo :=
  if packet.length < srejHeaderLen + 4 then info
  else { info with window := windowRr info.window (readU32 packet srejHeaderLen) }

def resendPacket (info : RcopyInfo) (entry : WindowEntry) : RcopyInfo :=
  info.safeSendto (entry.packet.take entry.packetLen)

def handleReject (info : RcopyInfo) (packet : Bytes) : RcopyInfo :=
  if packet.length < srejHeaderLen + 4 then info
  else
    match windowFind info.window (readU32 packet srejHeaderLen) with
    | some entry => resendPacket info entry
    | none => info

/-- One turn of the loop of `process_controls`: a datagram was received into
`packet` and its source into `info->server`. -/
def processControlsTurn (info : RcopyInfo) (count : Nat) (src : Addr) (packet : Bytes) :
    RcopyInfo × Nat :=
  let info := { info with server := src }
  if checkPacket packet = true then
    if getFlag packet = flagRr then (handleRr info packet, count + 1)
    else if getFlag packet = flagSrej then (handleReject info packet, count + 1)
    else (info, count)
  else (info, count)

/-- It touches the peer, the window and the log. -/
theorem processControlsTurn_frame (info : RcopyInfo) (count : Nat) (src : Addr) (packet : Bytes) :
    ∃ window sent, (processControlsTurn info count src packet).1
      = { info with server := src, window := window, sent := sent } := by
  simp only [processControlsTurn]
  split
  · split
    · simp only [handleRr]
      split <;> exact ⟨_, _, rfl⟩
    · split
      · simp only [handleReject]
        split
        · exact ⟨_, _, rfl⟩
        · split <;> exact ⟨_, _, rfl⟩
      · exact ⟨_, _, rfl⟩
  · exact ⟨_, _, rfl⟩

/-! ## The states -/

/-- The end of a turn of a loop `while (tries < MAX_TRIES)`, and the next one, which
sends `packet` again; past the last turn an error is recorded. -/
def retryLoop (loop : Nat → RcopyAt) (packet : Bytes) (tries : Nat) (info : RcopyInfo) : Rcopy :=
  if tries + 1 < maxTries then ⟨loop (tries + 1), info.safeSendto packet⟩
  else ⟨.done, { info with hadError := true }⟩

/-- `send_eof_state` up to its `pollCall`. -/
def sendEofState (info : RcopyInfo) : Rcopy :=
  let packet := builtPacket info.window.current flagEof []
  ⟨.sendEofState packet 0, info.safeSendto packet⟩

/-- `wait_on_ack_state` up to the first `pollCall` of `process_controls`. -/
def waitOnAckState (info : RcopyInfo) : Rcopy := ⟨.waitOnAckState 0, info⟩

/-- `send_data_state` behind its loop. -/
def sendDataLeave (info : RcopyInfo) : Rcopy :=
  if info.fileDone = true ∧ windowEmpty info.window = true then sendEofState info
  else waitOnAckState info

/-- What a turn of the loop of `send_data_state` does with the bytes it has read. -/
def sendDataTurn (info : RcopyInfo) (data : Bytes) : RcopyInfo :=
  let sendSeq := info.window.current
  let packet := builtPacket sendSeq flagData data
  let info := info.safeSendto packet
  { info with window := windowAdd info.window sendSeq packet, retryCount := 0 }

/-- `send_data_state` from the head of its loop to the next `pollCall`. -/
def sendDataState (info : RcopyInfo) : Rcopy :=
  if windowOpen info.window = true ∧ info.fileDone = false then
    match info.inputFile with
    | [] => sendDataLeave { info with fileDone := true }
    | none :: rest => ⟨.done, { info with inputFile := rest, hadError := true }⟩
    | some [] :: rest => sendDataLeave { info with inputFile := rest, fileDone := true }
    | some data :: rest => ⟨.sendDataState, sendDataTurn { info with inputFile := rest } data⟩
  else sendDataLeave info

/-- `wait_on_ack_state` after `process_controls` returned `gotControl`. -/
def waitOnAckTimeout (info : RcopyInfo) (gotControl : Nat) : Rcopy :=
  if 0 < gotControl then sendDataState { info with retryCount := 0 }
  else
    match windowLowest info.window with
    | none => sendDataState info
    | some entry =>
        let info := { info with retryCount := info.retryCount + 1 }
        if maxTries ≤ info.retryCount then ⟨.done, { info with hadError := true }⟩
        else waitOnAckState (resendPacket info entry)

def sendFinalDone (info : RcopyInfo) : RcopyInfo :=
  info.safeSendto (builtPacket (info.window.current + 1) flagDone [])

/-- The loop of `send_eof_state`. -/
def sendEofRetry (info : RcopyInfo) (packet : Bytes) (tries : Nat) : Rcopy :=
  retryLoop (.sendEofState packet) packet tries info

/-- `send_eof_state` after a datagram. -/
def sendEofRecv (info : RcopyInfo) (packet : Bytes) (tries : Nat) (src : Addr)
    (inPacket : Bytes) : Rcopy :=
  let info := { info with server := src }
  if checkPacket inPacket = true ∧ getFlag inPacket = flagEofAck then ⟨.done, sendFinalDone info⟩
  else sendEofRetry info packet tries

/-- `send_filename_packet` up to its `pollCall`; the payload is window size, buffer
size and the name with its NUL. -/
def sendFilenamePacket (outName : Bytes) (info : RcopyInfo) : Rcopy :=
  let payload := htonl info.windowSize.toUInt32 ++ htonl info.bufferSize.toUInt32 ++
    (outName ++ [0])
  let packet := builtPacket info.controlSeq flagFilename payload
  ⟨.sendFilenamePacket packet 0, info.safeSendto packet⟩

/-- The loop of `send_filename_packet`; it is `filename_state` that records the error. -/
def sendFilenameRetry (info : RcopyInfo) (packet : Bytes) (tries : Nat) : Rcopy :=
  retryLoop (.sendFilenamePacket packet) packet tries info

/-- `send_filename_packet` after a datagram, and the rest of `filename_state`. -/
def sendFilenameRecv (info : RcopyInfo) (packet : Bytes) (tries : Nat) (src : Addr)
    (inPacket : Bytes) : Rcopy :=
  let info := { info with server := src }
  if checkPacket inPacket = true ∧ getFlag inPacket = flagFilenameResp then
    if inPacket.length < srejHeaderLen + 1 ∨ inPacket.getD srejHeaderLen 0 ≠ 0 then
      ⟨.done, { info with hadError := true }⟩
    else
      let info := { info with controlSeq := info.controlSeq + 1, accepted := some src }
      match windowInit info.callocOk info.windowSize info.controlSeq with
      | none => ⟨.exited, info⟩
      | some window => sendDataState { info with window := window }
  else sendFilenameRetry info packet tries

/-! ## The machine -/

/-- From one `pollCall` to the next. -/
def rcopyStep (rcopy : Rcopy) : PollEvent → Rcopy
  | .timeout =>
      match rcopy.state with
      | .sendFilenamePacket packet tries => sendFilenameRetry rcopy.info packet tries
      | .sendDataState => sendDataState rcopy.info
      | .waitOnAckState count => waitOnAckTimeout rcopy.info count
      | .sendEofState packet tries => sendEofRetry rcopy.info packet tries
      | .done | .exited => rcopy
  | .recv src inPacket =>
      match rcopy.state with
      | .sendFilenamePacket packet tries =>
          sendFilenameRecv rcopy.info packet tries src inPacket
      | .sendDataState => ⟨.sendDataState, (processControlsTurn rcopy.info 0 src inPacket).1⟩
      | .waitOnAckState count =>
          let turn := processControlsTurn rcopy.info count src inPacket
          ⟨.waitOnAckState turn.2, turn.1⟩
      | .sendEofState packet tries => sendEofRecv rcopy.info packet tries src inPacket
      | .done | .exited => rcopy

/-- What `process_file` returns, once it does. -/
def processFile (rcopy : Rcopy) : Option Int :=
  match rcopy.state with
  | .done => if rcopy.info.hadError = true then some (-1) else some 0
  | _ => none

/-! ## The command line -/

/-- A run of rcopy that `check_args` admits, and the environment it starts in:
`argv[2]` to `argv[4]`, the chunks its `read` calls return before end of file, and the
answer to its one `calloc`. -/
structure Session where
  outName : Bytes
  windowSize : Int32
  bufferSize : Int32
  chunks : List Bytes
  callocOk : Bool
  name_ok : outName.length ≤ srejMaxName ∧ 0 ∉ outName
  window_ok : ¬ (windowSize ≤ 0 ∨ 1073741824 ≤ windowSize)
  buffer_ok : ¬ (bufferSize ≤ 0 ∨ 1400 < bufferSize)
  chunks_ok : ∀ chunk ∈ chunks, 1 ≤ chunk.length ∧ chunk.length ≤ bufferSize.toInt.toNat

def Session.file (session : Session) : Bytes := session.chunks.flatten

/-- `start_state`, and `filename_state` up to its first `pollCall`. -/
def Session.start (session : Session) : Rcopy :=
  sendFilenamePacket session.outName
    { inputFile := session.chunks.map some
      windowSize := session.windowSize
      bufferSize := session.bufferSize
      fileDone := false
      hadError := false
      retryCount := 0
      controlSeq := firstSeq
      server := .server
      window := .null
      callocOk := session.callocOk
      sent := []
      accepted := none }

end SelectiveReject
