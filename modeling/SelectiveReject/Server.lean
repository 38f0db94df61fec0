/-
# `SelectiveReject.Server` — the receiving program (`server.c`)

`process_server` forks one child for each FILENAME packet; a child runs `process_client`, which
calls `pollCall` in two places.  As for rcopy the model cuts the child there, and once
more before `filename_state`, whose `open` other processes can observe.

    ServerAt       where the child is
    filename       about to run filename_state
    recvData       in the pollCall of recv_data_state
    waitOnDone     in the pollCall of wait_on_done_state
    done, exited   process_client is leaving its loop, or exit(-1) was called

The child is parametric in the type `F` of its open output file and in the system's
`write`.  `log` is a ghost that no branch reads: every `safeSendto`, oldest first, each
with the buffer and the file as they were when it was made.
-/
import SelectiveReject.Buffer

namespace SelectiveReject

def serverMaxTries : Nat := 10
def firstDataSeq : UInt32 := 2

/-- A `safeSendto` of a child, and the buffer and the file at that moment. -/
structure SentAt (F : Type) where
  sent : Sent
  buffer : Buffer
  outputFile : F
deriving DecidableEq, Repr

structure ServerInfo (F : Type) where
  outputFile : F
  windowSize : Int32
  bufferSize : Int32
  retryCount : Nat
  controlSeq : UInt32
  firstPacket : Bytes
  firstPacketLen : Nat
  lastAck : Bytes
  client : Addr
  buffer : Buffer
  log : List (SentAt F)
deriving DecidableEq, Repr

inductive ServerAt where
  | filename
  | recvData
  | waitOnDone
  | done
  | exited
deriving DecidableEq, Repr

structure Child (F : Type) where
  state : ServerAt
  info : ServerInfo F
deriving DecidableEq, Repr

section Child

variable {F : Type}

/-! ## Answers -/

def ServerInfo.sent (info : ServerInfo F) : List Sent := info.log.map SentAt.sent

/-- `safeSendto(info->socket_num, packet, ..., &info->client, ...)` -/
def ServerInfo.safeSendto (info : ServerInfo F) (packet : Bytes) : ServerInfo F :=
  { info with log := info.log ++ [⟨⟨info.client, packet⟩, info.buffer, info.outputFile⟩] }

/-- Build a packet under the next control sequence number and send it: what
`send_filename_response`, `send_rr` and `send_reject` do. -/
def ServerInfo.sendControl (info : ServerInfo F) (flag : UInt8) (payload : Bytes) :
    ServerInfo F :=
  let packet := builtPacket info.controlSeq flag payload
  { info with controlSeq := info.controlSeq + 1 }.safeSendto packet

def sendFilenameResponse (info : ServerInfo F) (value : UInt8) : ServerInfo F :=
  info.sendControl flagFilenameResp [value]

def sendRr (info : ServerInfo F) : ServerInfo F :=
  info.sendControl flagRr (htonl (bufferExpected info.buffer))

def sendReject (info : ServerInfo F) (seq : UInt32) : ServerInfo F :=
  info.sendControl flagSrej (htonl seq)

def resendLastAck (info : ServerInfo F) : ServerInfo F := info.safeSendto info.lastAck

def sendEofAck (info : ServerInfo F) : ServerInfo F :=
  resendLastAck
    { info with
      lastAck := builtPacket info.controlSeq flagEofAck []
      controlSeq := info.controlSeq + 1 }

/-! ## Packets -/

/-- The last `if` of both branches of `handle_data_packet`: request the missing packet
unless it already was. -/
def rejectIfNeeded (info : ServerInfo F) : ServerInfo F :=
  let need := bufferNeedReject info.buffer
  let info := { info with buffer := need.2 }
  if need.1 = true then sendReject info (bufferExpected info.buffer) else info

/-- `error` is `exit(-1)` in `buffer_write_ready`. -/
def handleDataPacket (write : F → Bytes → Int × F) (info : ServerInfo F) (packet : Bytes) :
    Except (ServerInfo F) (ServerInfo F) :=
  let seq := getSeq packet
  let data := packet.drop srejHeaderLen
  if seq < bufferExpected info.buffer then .ok (sendRr info)
  else if bufferInWindow info.buffer seq = false then .ok (sendRr info)
  else
    let info := { info with buffer := bufferSave info.buffer seq data }
    if seq = bufferExpected info.buffer then
      let buffer := bufferClearReject info.buffer seq
      match bufferWriteReady write buffer info.outputFile with
      | .error (buffer, file) => .error { info with buffer := buffer, outputFile := file }
      | .ok (buffer, file) =>
          let info := sendRr { info with buffer := buffer, outputFile := file }
          if bufferHasLater info.buffer = true then .ok (rejectIfNeeded info) else .ok info
    else .ok (rejectIfNeeded info)

def handleEofPacket (info : ServerInfo F) : ServerInfo F :=
  { sendEofAck info with retryCount := 0 }

/-! ## The states -/

/-- The C string at `payload + 8` of the first packet. -/
def fileName (info : ServerInfo F) : Bytes :=
  (info.firstPacket.drop (srejHeaderLen + 8)).takeWhile (· ≠ 0)

/-- `opened` is what `open(file_name, O_WRONLY | O_CREAT | O_TRUNC)` gives, `callocOk` the answer to
the `calloc` of `buffer_init`. -/
def filenameState (info : ServerInfo F) (opened : Option F) (callocOk : Bool) : Child F :=
  let info :=
    { info with
      windowSize := (readU32 info.firstPacket srejHeaderLen).toInt32
      bufferSize := (readU32 info.firstPacket (srejHeaderLen + 4)).toInt32 }
  match opened with
  | none => ⟨.done, sendFilenameResponse info 1⟩
  | some file =>
      let info := sendFilenameResponse { info with outputFile := file } 0
      match bufferInit callocOk info.windowSize firstDataSeq with
      | none => ⟨.exited, info⟩
      | some buffer => ⟨.recvData, { info with buffer := buffer }⟩

/-- `recv_data_state` after a datagram. -/
def recvDataRecv (write : F → Bytes → Int × F) (info : ServerInfo F) (src : Addr)
    (packet : Bytes) : Child F :=
  let info := { info with client := src }
  if checkPacket packet = false then ⟨.recvData, info⟩
  else if getFlag packet = flagData then
    match handleDataPacket write info packet with
    | .error info => ⟨.exited, info⟩
    | .ok info => ⟨.recvData, info⟩
  else if getFlag packet = flagEof then ⟨.waitOnDone, handleEofPacket info⟩
  else ⟨.recvData, info⟩

/-- `wait_on_done_state` after a timeout. -/
def waitOnDoneTimeout (info : ServerInfo F) : Child F :=
  let info := { info with retryCount := info.retryCount + 1 }
  if serverMaxTries ≤ info.retryCount then ⟨.done, info⟩
  else ⟨.waitOnDone, resendLastAck info⟩

/-- `wait_on_done_state` after a datagram. -/
def waitOnDoneRecv (info : ServerInfo F) (src : Addr) (packet : Bytes) : Child F :=
  let info := { info with client := src }
  if checkPacket packet = false then ⟨.waitOnDone, info⟩
  else if getFlag packet = flagDone then ⟨.done, info⟩
  else if getFlag packet = flagEof then ⟨.waitOnDone, resendLastAck info⟩
  else ⟨.waitOnDone, info⟩

/-! ## The machine -/

/-- From one `pollCall` to the next. -/
def childStep (write : F → Bytes → Int × F) (child : Child F) : PollEvent → Child F
  | .timeout =>
      match child.state with
      | .recvData => ⟨.done, child.info⟩
      | .waitOnDone => waitOnDoneTimeout child.info
      | .filename | .done | .exited => child
  | .recv src packet =>
      match child.state with
      | .recvData => recvDataRecv write child.info src packet
      | .waitOnDone => waitOnDoneRecv child.info src packet
      | .filename | .done | .exited => child

/-- `filename_state` of a child that has not run it yet. -/
def childSetup (child : Child F) (opened : Option F) (callocOk : Bool) : Child F :=
  match child.state with
  | .filename => filenameState child.info opened callocOk
  | _ => child

/-- `process_client` up to `filename_state`; `unopened` stands for the output file before the
`open`. -/
def processClient (packet : Bytes) (client : Addr) (unopened : F) : Child F :=
  ⟨.filename,
    { outputFile := unopened
      windowSize := 0
      bufferSize := 0
      retryCount := 0
      controlSeq := 1
      firstPacket := memcpy (List.replicate srejMaxPacket 0) 0 packet
      firstPacketLen := packet.length
      lastAck := []
      client := client
      buffer := .null
      log := [] }⟩

/-- One turn of the loop of `process_server`: the child it forks, if any. -/
def processServer (packet : Bytes) (client : Addr) (unopened : F) : Option (Child F) :=
  if checkPacket packet = true ∧ getFlag packet = flagFilename then
    some (processClient packet client unopened)
  else none

end Child

end SelectiveReject
