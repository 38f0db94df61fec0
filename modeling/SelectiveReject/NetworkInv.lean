/-
# `SelectiveReject.NetworkInv` — what holds in every run, whatever the network does

`NetInv` is kept by every step of every run, with any number of children.  It says
of each process on its own what it can know:

* rcopy is somewhere in its session (`RcopyInv`);
* a child has the FILENAME packet of the session, talks to rcopy only, and what it has
  accepted are chunks of the session that rcopy has sent (`ChildInv`).

A child's part mentions rcopy only through the log of what rcopy has sent, and that log only
grows; so a step of rcopy, or of another child, has nothing to prove about it.  What the
processes know of each other is in `SelectiveReject.Agreement`.
-/
import SelectiveReject.BufferRefine
import SelectiveReject.Damage
import SelectiveReject.FirstPacket
import SelectiveReject.Network
import SelectiveReject.Peer

namespace SelectiveReject

open DirectMap Machine Reassembly

/-! ## What is in rcopy's log -/

def DataSent (session : Session) (log : List Sent) (k : Nat) : Prop :=
  ∃ sent ∈ log, ∃ chunk, session.chunks[k - 2]? = some chunk ∧
    sent.packet = builtPacket (UInt32.ofNat k) flagData chunk

def EofSent (session : Session) (log : List Sent) : Prop :=
  ∃ sent ∈ log, sent.packet = session.eofPacket

theorem DataSent.mono {session : Session} {log log' : List Sent} {k : Nat}
    (h : DataSent session log k) (hlog : log ⊆ log') : DataSent session log' k := by
  obtain ⟨sent, hsent, h⟩ := h
  exact ⟨sent, hlog hsent, h⟩

theorem EofSent.mono {session : Session} {log log' : List Sent} (h : EofSent session log)
    (hlog : log ⊆ log') : EofSent session log' := by
  obtain ⟨sent, hsent, h⟩ := h
  exact ⟨sent, hlog hsent, h⟩

namespace Session

variable (session : Session)

theorem getFlag_filenamePacket : getFlag session.filenamePacket = flagFilename :=
  getFlag_builtPacket _ _ (length_filenamePayload _ _ session.name_ok.1)

theorem getFlag_eofPacket : getFlag session.eofPacket = flagEof :=
  getFlag_builtPacket _ _ (Nat.zero_le _)

theorem getFlag_donePacket : getFlag session.donePacket = flagDone :=
  getFlag_builtPacket _ _ (Nat.zero_le _)

end Session

/-- The flag tells which packet of the session it is. -/
theorem SentPacket.cases {session : Session} {n : Nat} {window : Window} {packet : Bytes}
    (h : SentPacket session n window packet) :
    (getFlag packet = flagFilename ∧ packet = session.filenamePacket) ∨
    (getFlag packet = flagData ∧ ∃ i < n, ∃ chunk, session.chunks[i]? = some chunk ∧
      packet = builtPacket (UInt32.ofNat (i + 2)) flagData chunk) ∨
    (getFlag packet = flagEof ∧ packet = session.eofPacket ∧ Closed session n window) ∨
    (getFlag packet = flagDone ∧ packet = session.donePacket ∧ Closed session n window) := by
  rcases h with rfl | ⟨i, hi, hget⟩ | ⟨hclosed, rfl | rfl⟩
  · exact .inl ⟨session.getFlag_filenamePacket, rfl⟩
  · rw [session.getElem?_dataPackets] at hget
    obtain ⟨chunk, hchunk, rfl⟩ := Option.map_eq_some_iff.mp hget
    have hlen := (session.chunk_length (List.mem_of_getElem? hchunk)).2
    exact .inr (.inl ⟨getFlag_builtPacket _ _ hlen, i, hi, chunk, hchunk, rfl⟩)
  · exact .inr (.inr (.inl ⟨session.getFlag_eofPacket, rfl, hclosed⟩))
  · exact .inr (.inr (.inr ⟨session.getFlag_donePacket, rfl, hclosed⟩))

/-- Every packet in the log is one of the session's: of the file when there is a window,
the FILENAME packet before. -/
theorem RcopyInv.sent_cases {session : Session} {rcopy : Rcopy} (h : RcopyInv session rcopy) :
    (∃ n, TransferInv session n rcopy.info) ∨
      ∀ sent ∈ rcopy.info.sent, sent.packet = session.filenamePacket := by
  cases h with
  | filename h => exact .inr h.sent
  | refused h herr => exact .inr h.sent
  | exited hcalloc hwindow haccepted hsent => exact .inr hsent
  | sendData h => exact .inl ⟨_, h⟩
  | waitOnAck h => exact .inl ⟨_, h⟩
  | sendEof h hclosed => exact .inl ⟨_, h⟩
  | failed h herr => exact .inl ⟨_, h⟩
  | finished h hclosed => exact .inl ⟨_, h⟩

section Log

variable {session : Session} {rcopy : Rcopy}

theorem RcopyInv.filename_of_flag (h : RcopyInv session rcopy) {sent : Sent}
    (hsent : sent ∈ rcopy.info.sent) (hflag : getFlag sent.packet = flagFilename) :
    sent.packet = session.filenamePacket := by
  rcases h.sent_cases with ⟨n, htransfer⟩ | hall
  · rcases (htransfer.sent sent hsent).cases with ⟨_, h⟩ | ⟨hdata, _⟩ | ⟨heof, _⟩ | ⟨hdone, _⟩
    · exact h
    · exact absurd (hflag.symm.trans hdata) (by decide)
    · exact absurd (hflag.symm.trans heof) (by decide)
    · exact absurd (hflag.symm.trans hdone) (by decide)
  · exact hall sent hsent

/-- A data packet in the log is the packet of a chunk, and its number has not wrapped. -/
theorem RcopyInv.data_of_flag (h : RcopyInv session rcopy) {sent : Sent}
    (hsent : sent ∈ rcopy.info.sent) (hflag : getFlag sent.packet = flagData) :
    ∃ n i chunk, TransferInv session n rcopy.info ∧ i < n ∧ session.chunks[i]? = some chunk ∧
      sent.packet = builtPacket (UInt32.ofNat (i + 2)) flagData chunk := by
  rcases h.sent_cases with ⟨n, htransfer⟩ | hall
  · rcases (htransfer.sent sent hsent).cases with
      ⟨hname, _⟩ | ⟨_, i, hi, chunk, hchunk, h⟩ | ⟨heof, _⟩ | ⟨hdone, _⟩
    · exact absurd (hflag.symm.trans hname) (by decide)
    · exact ⟨n, i, chunk, htransfer, hi, hchunk, h⟩
    · exact absurd (hflag.symm.trans heof) (by decide)
    · exact absurd (hflag.symm.trans hdone) (by decide)
  · rw [hall sent hsent, session.getFlag_filenamePacket] at hflag
    exact absurd hflag (by decide)

theorem RcopyInv.eof_of_flag (h : RcopyInv session rcopy) {sent : Sent}
    (hsent : sent ∈ rcopy.info.sent) (hflag : getFlag sent.packet = flagEof) :
    sent.packet = session.eofPacket ∧
      ∃ n, TransferInv session n rcopy.info ∧ Closed session n rcopy.info.window := by
  rcases h.sent_cases with ⟨n, htransfer⟩ | hall
  · rcases (htransfer.sent sent hsent).cases with
      ⟨hname, _⟩ | ⟨hdata, _⟩ | ⟨_, h, hclosed⟩ | ⟨hdone, _⟩
    · exact absurd (hflag.symm.trans hname) (by decide)
    · exact absurd (hflag.symm.trans hdata) (by decide)
    · exact ⟨h, n, htransfer, hclosed⟩
    · exact absurd (hflag.symm.trans hdone) (by decide)
  · rw [hall sent hsent, session.getFlag_filenamePacket] at hflag
    exact absurd hflag (by decide)

theorem TransferInv.lt_of_dataSent {n k : Nat} {info : RcopyInfo}
    (h : TransferInv session n info) (hk : k < 2 ^ 32) (hsent : DataSent session info.sent k) :
    k < n + 2 := by
  obtain ⟨sent, hmem, chunk, hchunk, hpacket⟩ := hsent
  have hlen := (session.chunk_length (List.mem_of_getElem? hchunk)).2
  have hflag : getFlag sent.packet = flagData := by
    rw [hpacket, getFlag_builtPacket _ _ hlen]
  rcases (h.sent sent hmem).cases with
    ⟨hname, _⟩ | ⟨_, i, hi, chunk', hchunk', hpacket'⟩ | ⟨heof, _⟩ | ⟨hdone, _⟩
  · exact absurd (hflag.symm.trans hname) (by decide)
  · -- equal packets have equal numbers, and neither has wrapped
    have hlen' := (session.chunk_length (List.mem_of_getElem? hchunk')).2
    have hseq : UInt32.ofNat k = UInt32.ofNat (i + 2) := by
      rw [← getSeq_builtPacket (UInt32.ofNat k) flagData hlen, ← hpacket, hpacket',
        getSeq_builtPacket _ _ hlen']
    have hcurrent := h.current_eq
    have hlt := info.window.current.toNat_lt
    have hnat := congrArg UInt32.toNat hseq
    rw [Counter.toNat_ofNat hk, Counter.toNat_ofNat (by omega)] at hnat
    omega
  · exact absurd (hflag.symm.trans heof) (by decide)
  · exact absurd (hflag.symm.trans hdone) (by decide)

end Log

/-! ## What a child reads in its first packet -/

/-- `first_packet` of a child forked for the session. -/
def Session.firstPacket (session : Session) : Bytes :=
  memcpy (List.replicate srejMaxPacket 0) 0 session.filenamePacket

theorem Session.windowSize_firstPacket (session : Session) :
    (readU32 session.firstPacket srejHeaderLen).toInt32 = session.windowSize := by
  obtain ⟨checksum, rest, hfirst⟩ :=
    firstPacket_filename firstSeq session.windowSize session.bufferSize session.name_ok.1
  exact readU32_windowSize hfirst

theorem Session.outName_firstPacket (session : Session) :
    (session.firstPacket.drop (srejHeaderLen + 8)).takeWhile (· ≠ 0) = session.outName := by
  obtain ⟨checksum, rest, hfirst⟩ :=
    firstPacket_filename firstSeq session.windowSize session.bufferSize session.name_ok.1
  exact takeWhile_outName hfirst session.name_ok.2

/-! ## A child -/

/-- What `got` has are chunks of the session that have been sent. -/
def Stored (session : Session) (log : List Sent) (got : Nat → Option Bytes) : Prop :=
  ∀ k data, got k = some data → session.chunks[k - 2]? = some data ∧ DataSent session log k

structure ChildBase (session : Session) (info : ServerInfo OutFile) : Prop where
  first : info.firstPacket = session.firstPacket
  client : info.client = .rcopy
  dst : ∀ entry ∈ info.log, entry.sent.dst = .rcopy

/-- What a child with a buffer may send. -/
inductive ChildPacket (session : Session) (log : List Sent) (expected : UInt32) : Bytes → Prop
  | resp (num : UInt32) : ChildPacket session log expected (builtPacket num flagFilenameResp [0])
  | rr (num : UInt32) {value : UInt32} (hlo : 2 ≤ value) (hle : value ≤ expected) :
      ChildPacket session log expected (builtPacket num flagRr (htonl value))
  | srej (num : UInt32) {value : UInt32} {k : Nat} (hlt : value.toNat < k) (hk : k < 2 ^ 32)
      (hsent : DataSent session log k) :
      ChildPacket session log expected (builtPacket num flagSrej (htonl value))
  | eofAck (num : UInt32) (heof : EofSent session log) :
      ChildPacket session log expected (builtPacket num flagEofAck [])

structure ChildServing (session : Session) (log : List Sent) (info : ServerInfo OutFile) : Prop
    extends ChildBase session info where
  stored : ∃ got, BufferInv session.windowSize got info.buffer ∧ Stored session log got
  packets : ∀ entry ∈ info.log, ChildPacket session log info.buffer.expected entry.sent.packet

/-- Where a child is. -/
inductive ChildInv (session : Session) (log : List Sent) : Child OutFile → Prop
  | filename {info : ServerInfo OutFile} (h : ChildBase session info) (hlog : info.log = [])
      (hbuffer : info.buffer = .null) : ChildInv session log ⟨.filename, info⟩
  | refused {info : ServerInfo OutFile} (h : ChildBase session info) (hbuffer : info.buffer = .null)
      (hlog : ∀ entry ∈ info.log, ∃ num,
        entry.sent.packet = builtPacket num flagFilenameResp [1]) :
      ChildInv session log ⟨.done, info⟩
  | exited {info : ServerInfo OutFile} (h : ChildBase session info) (hbuffer : info.buffer = .null)
      (hlog : ∀ entry ∈ info.log, ∃ num,
        entry.sent.packet = builtPacket num flagFilenameResp [0]) :
      ChildInv session log ⟨.exited, info⟩
  | recvData {info : ServerInfo OutFile} (h : ChildServing session log info) :
      ChildInv session log ⟨.recvData, info⟩
  | waitOnDone {info : ServerInfo OutFile} (h : ChildServing session log info)
      (hlast : ChildPacket session log info.buffer.expected info.lastAck) :
      ChildInv session log ⟨.waitOnDone, info⟩
  | done {info : ServerInfo OutFile} (h : ChildServing session log info) :
      ChildInv session log ⟨.done, info⟩

section Child

variable {session : Session} {log : List Sent}

/-! ### More packets of rcopy -/

theorem Stored.mono {log' : List Sent} {got : Nat → Option Bytes} (h : Stored session log got)
    (hlog : log ⊆ log') : Stored session log' got :=
  fun k data hk => ⟨(h k data hk).1, (h k data hk).2.mono hlog⟩

theorem ChildPacket.mono {log' : List Sent} {expected expected' : UInt32} {packet : Bytes}
    (h : ChildPacket session log expected packet) (hlog : log ⊆ log')
    (hle : expected ≤ expected') : ChildPacket session log' expected' packet := by
  cases h with
  | resp num => exact .resp num
  | rr num hlo hvalue => exact .rr num hlo (UInt32.le_trans hvalue hle)
  | srej num hlt hk hsent => exact .srej num hlt hk (hsent.mono hlog)
  | eofAck num heof => exact .eofAck num (heof.mono hlog)

theorem ChildServing.mono {log' : List Sent} {info : ServerInfo OutFile}
    (h : ChildServing session log info) (hlog : log ⊆ log') : ChildServing session log' info := by
  obtain ⟨got, hbuffer, hstored⟩ := h.stored
  exact { h with
    stored := ⟨got, hbuffer, hstored.mono hlog⟩
    packets := fun entry hentry => (h.packets entry hentry).mono hlog (UInt32.le_refl _) }

theorem ChildInv.mono {log' : List Sent} {child : Child OutFile} (h : ChildInv session log child)
    (hlog : log ⊆ log') : ChildInv session log' child := by
  cases h with
  | filename h hempty hbuffer => exact .filename h hempty hbuffer
  | refused h hbuffer hresp => exact .refused h hbuffer hresp
  | exited h hbuffer hresp => exact .exited h hbuffer hresp
  | recvData h => exact .recvData (h.mono hlog)
  | waitOnDone h hlast => exact .waitOnDone (h.mono hlog) (hlast.mono hlog (UInt32.le_refl _))
  | done h => exact .done (h.mono hlog)

/-! ### The file plays no part -/

theorem ChildServing.withFile {info : ServerInfo OutFile} (h : ChildServing session log info)
    (file : OutFile) : ChildServing session log { info with outputFile := file } :=
  ⟨⟨h.first, h.client, h.dst⟩, h.stored, h.packets⟩

theorem ChildInv.load {child : Child OutFile} (h : ChildInv session log child) (net : Network) :
    ChildInv session log (net.load child) := by
  cases h with
  | filename h hempty hbuffer => exact .filename ⟨h.first, h.client, h.dst⟩ hempty hbuffer
  | refused h hbuffer hresp => exact .refused ⟨h.first, h.client, h.dst⟩ hbuffer hresp
  | exited h hbuffer hresp => exact .exited ⟨h.first, h.client, h.dst⟩ hbuffer hresp
  | recvData h => exact .recvData (h.withFile _)
  | waitOnDone h hlast => exact .waitOnDone (h.withFile _) hlast
  | done h => exact .done (h.withFile _)

theorem ChildBase.fileName_eq {info : ServerInfo OutFile} (h : ChildBase session info) :
    fileName info = session.outName := by
  rw [fileName, h.first]
  exact session.outName_firstPacket

theorem ChildInv.base {child : Child OutFile} (h : ChildInv session log child) :
    ChildBase session child.info := by
  cases h with
  | filename h _ _ => exact h
  | refused h _ _ => exact h
  | exited h _ _ => exact h
  | recvData h => exact h.toChildBase
  | waitOnDone h _ => exact h.toChildBase
  | done h => exact h.toChildBase

/-- A child without a buffer has sent nothing but responses. -/
theorem ChildInv.null_or_serving {child : Child OutFile} (h : ChildInv session log child) :
    (child.info.buffer = .null ∧ ∀ entry ∈ child.info.log, ∃ num value,
      entry.sent.packet = builtPacket num flagFilenameResp [value]) ∨
      ChildServing session log child.info := by
  cases h with
  | filename h hempty hbuffer =>
      refine .inl ⟨hbuffer, fun entry hentry => ?_⟩
      rw [hempty] at hentry
      cases hentry
  | refused h hbuffer hlog =>
      refine .inl ⟨hbuffer, fun entry hentry => ?_⟩
      obtain ⟨num, hnum⟩ := hlog entry hentry
      exact ⟨num, 1, hnum⟩
  | exited h hbuffer hlog =>
      refine .inl ⟨hbuffer, fun entry hentry => ?_⟩
      obtain ⟨num, hnum⟩ := hlog entry hentry
      exact ⟨num, 0, hnum⟩
  | recvData h => exact .inr h
  | waitOnDone h hlast => exact .inr h
  | done h => exact .inr h

theorem ChildInv.serving_of_flag {child : Child OutFile} (h : ChildInv session log child)
    {entry : SentAt OutFile} (hentry : entry ∈ child.info.log)
    (hflag : getFlag entry.sent.packet ≠ flagFilenameResp) :
    ChildServing session log child.info := by
  rcases h.null_or_serving with ⟨_, hlog⟩ | hserving
  · obtain ⟨num, value, hnum⟩ := hlog entry hentry
    have hlen : [value].length ≤ srejMaxData := Nat.le_of_ble_eq_true rfl
    rw [hnum] at hflag
    exact absurd (getFlag_builtPacket num flagFilenameResp hlen) hflag
  · exact hserving

/-! ### One step of a child -/

theorem childInv_processClient (log : List Sent) :
    ChildInv session log (processClient session.filenamePacket .rcopy ⟨[], 0⟩) :=
  .filename ⟨rfl, rfl, nofun⟩ rfl rfl

theorem ChildServing.safeSendto {info : ServerInfo OutFile} (h : ChildServing session log info)
    {packet : Bytes} (hpacket : ChildPacket session log info.buffer.expected packet) :
    ChildServing session log (info.safeSendto packet) := by
  refine ⟨⟨h.first, h.client, fun entry hentry => ?_⟩, h.stored, fun entry hentry => ?_⟩
  all_goals rcases List.mem_append.mp hentry with hold | hnew
  · exact h.dst entry hold
  · rw [List.mem_singleton.mp hnew]
    exact h.client
  · exact h.packets entry hold
  · rw [List.mem_singleton.mp hnew]
    exact hpacket

theorem sent_sendFilenameResponse {info : ServerInfo OutFile} (hlog : info.log = [])
    (hclient : info.client = .rcopy) (value : UInt8) :
    ∀ entry ∈ (sendFilenameResponse info value).log,
      entry.sent = ⟨.rcopy, builtPacket info.controlSeq flagFilenameResp [value]⟩ := by
  intro entry hentry
  rcases List.mem_append.mp hentry with hold | hnew
  · rw [hlog] at hold
    cases hold
  · rw [List.mem_singleton.mp hnew, hclient]

theorem packet_sendFilenameResponse {info : ServerInfo OutFile} (hlog : info.log = [])
    (hclient : info.client = .rcopy) (value : UInt8) :
    ∀ entry ∈ (sendFilenameResponse info value).log, ∃ num,
      entry.sent.packet = builtPacket num flagFilenameResp [value] := by
  intro entry hentry
  rw [sent_sendFilenameResponse hlog hclient value entry hentry]
  exact ⟨_, rfl⟩

theorem ChildBase.sendFilenameResponse {info : ServerInfo OutFile} (h : ChildBase session info)
    (hlog : info.log = []) (value : UInt8) :
    ChildBase session (sendFilenameResponse info value) := by
  refine ⟨h.first, h.client, fun entry hentry => ?_⟩
  rw [sent_sendFilenameResponse hlog h.client value entry hentry]

theorem ChildBase.filenameState {info : ServerInfo OutFile} (h : ChildBase session info)
    (hlog : info.log = []) (hbuffer : info.buffer = .null) (opened : Option OutFile)
    (callocOk : Bool) : ChildInv session log (filenameState info opened callocOk) := by
  have hbase (w b : Int32) (file : OutFile) (value : UInt8) : ChildBase session
      (SelectiveReject.sendFilenameResponse (info.configure w b file) value) :=
    @ChildBase.sendFilenameResponse session (info.configure w b file)
      ⟨h.first, h.client, h.dst⟩ hlog value
  have hsent (w b : Int32) (file : OutFile) (value : UInt8) :=
    @packet_sendFilenameResponse (info.configure w b file) hlog h.client value
  cases opened with
  | none =>
      obtain ⟨w, b, hdone⟩ := filenameState_none info callocOk
      rw [hdone]
      exact .refused (hbase w b _ 1) hbuffer (hsent w b _ 1)
  | some file =>
      obtain ⟨w, b, hopened⟩ := filenameState_some info file callocOk
      rw [hopened]
      cases hinit : bufferInit callocOk (readU32 info.firstPacket srejHeaderLen).toInt32 2 with
      | none => exact .exited (hbase w b file 0) hbuffer (hsent w b file 0)
      | some buffer =>
          rw [h.first, session.windowSize_firstPacket] at hinit
          have h' := hbase w b file 0
          refine .recvData ⟨⟨h'.first, h'.client, h'.dst⟩,
            ⟨_, bufferInv_init hinit, nofun⟩, fun entry hentry => ?_⟩
          obtain ⟨num, hnum⟩ := hsent w b file 0 entry hentry
          rw [hnum]
          exact .resp num

theorem ChildInv.setup {child : Child OutFile} (h : ChildInv session log child)
    (hstate : child.state = .filename) (opened : Option OutFile) (callocOk : Bool) :
    ChildInv session log (childSetup child opened callocOk) := by
  cases h with
  | filename h hempty hbuffer => exact h.filenameState hempty hbuffer opened callocOk
  | refused h hbuffer hresp => cases hstate
  | exited h hbuffer hresp => cases hstate
  | recvData h => cases hstate
  | waitOnDone h hlast => cases hstate
  | done h => cases hstate

theorem ChildInv.timeout {child : Child OutFile} (h : ChildInv session log child) :
    ChildInv session log (childStep OutFile.write child .timeout) := by
  cases h with
  | filename h hempty hbuffer => exact .filename h hempty hbuffer
  | refused h hbuffer hresp => exact .refused h hbuffer hresp
  | exited h hbuffer hresp => exact .exited h hbuffer hresp
  | recvData h => exact .done h
  | @waitOnDone info h hlast =>
      have h' : ChildServing session log { info with retryCount := info.retryCount + 1 } :=
        ⟨⟨h.first, h.client, h.dst⟩, h.stored, h.packets⟩
      simp only [childStep, waitOnDoneTimeout]
      split
      · exact .done h'
      · exact .waitOnDone (h'.safeSendto hlast) hlast
  | done h => exact .done h

/-- A datagram from rcopy: one of its packets, or a damaged one. -/
def FromLog (log : List Sent) (packet : Bytes) : Prop :=
  checkPacket packet = true → ∃ sent ∈ log, sent.packet = packet

end Child

section Recv

variable {session : Session} {rcopy : Rcopy}

theorem Stored.accept (hrcopy : RcopyInv session rcopy) {got : Nat → Option Bytes}
    (h : Stored session rcopy.info.sent got) {packet : Bytes} (hcheck : checkPacket packet = true)
    (hfrom : FromLog rcopy.info.sent packet) (hflag : getFlag packet = flagData)
    (buffer : Buffer) : Stored session rcopy.info.sent (accept buffer got packet) := by
  intro k data hk
  by_cases hold : got k = none
  · obtain ⟨sent, hmem, rfl⟩ := hfrom hcheck
    obtain ⟨n, i, chunk, htransfer, hi, hchunk, hpacket⟩ := hrcopy.data_of_flag hmem hflag
    have hlen := (session.chunk_length (List.mem_of_getElem? hchunk)).2
    have hcurrent := htransfer.current_eq
    have hlt := rcopy.info.window.current.toNat_lt
    obtain ⟨hseq, hdata⟩ := eq_of_accept hold hk
    rw [hpacket, getSeq_builtPacket _ _ hlen, Counter.toNat_ofNat (by omega)] at hseq
    rw [hpacket, drop_builtPacket _ _ hlen] at hdata
    subst hseq hdata
    exact ⟨hchunk, sent, hmem, chunk, hchunk, hpacket⟩
  · rw [accept_of_ne_none buffer packet hold] at hk
    exact h k data hk

theorem ChildServing.handle {info info' : ServerInfo OutFile} {packet : Bytes}
    {got : Nat → Option Bytes} (h : ChildServing session rcopy.info.sent info)
    (hbuffer : BufferInv session.windowSize (SelectiveReject.accept info.buffer got packet)
      info'.buffer)
    (hstored : Stored session rcopy.info.sent (SelectiveReject.accept info.buffer got packet))
    (hle : info.buffer.expected ≤ info'.buffer.expected)
    (hhandled : Handled { info with client := .rcopy } (getSeq packet) info') :
    ChildServing session rcopy.info.sent info' := by
  obtain ⟨new, hlog, hanswers⟩ := hhandled.log
  refine ⟨⟨hhandled.firstPacket_eq.trans h.first, hhandled.client_eq, ?_⟩,
    ⟨_, hbuffer, hstored⟩, ?_⟩
  all_goals
    intro entry hentry
    rw [hlog] at hentry
    rcases List.mem_append.mp hentry with hold | hnew
  · exact h.dst entry hold
  · exact (hanswers entry hnew).1.1
  · exact (h.packets entry hold).mono (fun _ hsent => hsent) hle
  · obtain ⟨_, num, hrr | ⟨hsrej, hlater⟩⟩ := (hanswers entry hnew).1
    · rw [hrr]
      exact .rr num (UInt32.le_iff_toNat_le.mpr hbuffer.gap.le) (UInt32.le_refl _)
    · rw [hsrej]
      -- the SREJ has something behind it: the packet itself, or an older one
      obtain ⟨k, hlt, hk⟩ : ∃ k, info'.buffer.expected.toNat < k ∧
          SelectiveReject.accept info.buffer got packet k ≠ none := by
        rcases hlater with ⟨hlt, hin⟩ | hlater
        · refine ⟨_, UInt32.lt_iff_toNat_lt.mp hlt, ?_⟩
          rw [SelectiveReject.accept, if_pos hin, keepFirst_self]
          exact Option.some_ne_none _
        · obtain ⟨k, hlt, hk⟩ := hbuffer.hasLater_iff.mp hlater
          exact ⟨k, hlt, (of_ahead_ne_none hk).2⟩
      obtain ⟨data, hdata⟩ := Option.ne_none_iff_exists'.mp hk
      exact .srej num hlt (by have := (hbuffer.within k hk).2.2; omega) (hstored k data hdata).2

theorem ChildInv.recv (hrcopy : RcopyInv session rcopy) {child : Child OutFile}
    (h : ChildInv session rcopy.info.sent child) {packet : Bytes}
    (hfrom : FromLog rcopy.info.sent packet) :
    ChildInv session rcopy.info.sent (childStep OutFile.write child (.recv .rcopy packet)) := by
  cases h with
  | filename h hempty hbuffer => exact .filename h hempty hbuffer
  | refused h hbuffer hresp => exact .refused h hbuffer hresp
  | exited h hbuffer hresp => exact .exited h hbuffer hresp
  | @recvData info h =>
      obtain ⟨got, hbuffer, hstored⟩ := h.stored
      have h' : ChildServing session rcopy.info.sent { info with client := .rcopy } :=
        ⟨⟨h.first, rfl, h.dst⟩, h.stored, h.packets⟩
      show ChildInv session rcopy.info.sent (recvDataRecv OutFile.write info .rcopy packet)
      rcases hbuffer.recvDataRecv OutFile.write_nonneg .rcopy packet with
        ⟨hcheck, hflag, info', hrecv, hbuffer', _, hhandled⟩ | ⟨hcheck, hflag, hrecv⟩ | ⟨_, hrecv⟩
      · rw [hrecv]
        exact .recvData (h.handle hbuffer' (hstored.accept hrcopy hcheck hfrom hflag _)
          (hbuffer.expected_le hbuffer') hhandled)
      · rw [hrecv]
        obtain ⟨sent, hmem, rfl⟩ := hfrom hcheck
        have heof : EofSent session rcopy.info.sent :=
          ⟨sent, hmem, (hrcopy.eof_of_flag hmem hflag).1⟩
        have hack : ChildServing session rcopy.info.sent
            (sendEofAck { info with client := .rcopy }) := by
          refine ChildServing.safeSendto ?_ (.eofAck _ heof)
          exact ⟨⟨h.first, rfl, h.dst⟩, h.stored, h.packets⟩
        exact .waitOnDone ⟨⟨hack.first, hack.client, hack.dst⟩, hack.stored, hack.packets⟩
          (.eofAck _ heof)
      · rw [hrecv]
        exact .recvData h'
  | @waitOnDone info h hlast =>
      have h' : ChildServing session rcopy.info.sent { info with client := .rcopy } :=
        ⟨⟨h.first, rfl, h.dst⟩, h.stored, h.packets⟩
      simp only [childStep, waitOnDoneRecv]
      split
      · exact .waitOnDone h' hlast
      · split
        · exact .done h'
        · split
          · exact .waitOnDone (h'.safeSendto hlast) hlast
          · exact .waitOnDone h' hlast
  | done h => exact .done h

end Recv

/-! ## The network -/

theorem child_ne_rcopy (n : Nat) : Addr.child n ≠ .rcopy := by
  intro heq
  cases heq

theorem server_ne_rcopy : Addr.server ≠ .rcopy := by
  intro heq
  cases heq

theorem accepted_of_processServer {F : Type} {packet : Bytes} {client : Addr} {unopened : F}
    {child : Child F} (h : processServer packet client unopened = some child) :
    checkPacket packet = true ∧ getFlag packet = flagFilename := by
  simp only [processServer] at h
  split at h
  · assumption
  · cases h

/-- A datagram that arrives was sent, or is a rejected copy of one that was. -/
theorem Network.exists_of_deliverable {net : Network} {src dst : Addr} {packet : Bytes}
    (h : net.deliverable src dst packet = true) :
    ∃ sent ∈ net.sentBy src, sent.dst = dst ∧
      (checkPacket packet = true → sent.packet = packet) := by
  simp only [Network.deliverable, Bool.or_eq_true, Bool.and_eq_true, Bool.not_eq_true',
    decide_eq_true_eq, List.any_eq_true] at h
  rcases h with hsent | ⟨hbad, sent, hsent, hdst⟩
  · exact ⟨_, hsent, rfl, fun _ => rfl⟩
  · refine ⟨sent, hsent, hdst, fun hcheck => ?_⟩
    rw [hbad] at hcheck
    cases hcheck

/-- What every reachable state satisfies. -/
structure NetInv (session : Session) (net : Network) : Prop where
  rcopy : RcopyInv session net.rcopy
  server : net.rcopy.info.server ≠ .rcopy
  dst : ∀ sent ∈ net.rcopy.info.sent, sent.dst ≠ .rcopy
  children : ∀ child ∈ net.children, ChildInv session net.rcopy.info.sent child

namespace NetInv

variable {session : Session} {net : Network}

theorem from_rcopy (h : NetInv session net) {src dst : Addr} {packet : Bytes}
    (hdel : net.deliverable src dst packet = true) (hdst : dst ≠ .rcopy) :
    src = .rcopy ∧ ∃ sent ∈ net.rcopy.info.sent, sent.dst = dst ∧
      (checkPacket packet = true → sent.packet = packet) := by
  obtain ⟨sent, hmem, hsent, hpacket⟩ := Network.exists_of_deliverable hdel
  cases src with
  | rcopy => exact ⟨rfl, sent, hmem, hsent, hpacket⟩
  | child n =>
      simp only [Network.sentBy] at hmem
      split at hmem
      · rename_i child hchild
        obtain ⟨entry, hentry, rfl⟩ := List.mem_map.mp hmem
        have hclient := (h.children child (List.mem_of_getElem? hchild)).base.dst entry hentry
        exact absurd (hsent.symm.trans hclient) hdst
      · cases hmem
  | server => cases hmem
  | other n => cases hmem

theorem from_child (h : NetInv session net) {src : Addr} {packet : Bytes}
    (hdel : net.deliverable src .rcopy packet = true) :
    ∃ n child, src = .child n ∧ net.children[n]? = some child ∧ ∃ entry ∈ child.info.log,
      (checkPacket packet = true → entry.sent.packet = packet) := by
  obtain ⟨sent, hmem, hsent, hpacket⟩ := Network.exists_of_deliverable hdel
  cases src with
  | rcopy => exact absurd hsent (h.dst sent hmem)
  | child n =>
      simp only [Network.sentBy] at hmem
      split at hmem
      · rename_i child hchild
        obtain ⟨entry, hentry, rfl⟩ := List.mem_map.mp hmem
        exact ⟨n, child, rfl, hchild, entry, hentry, hpacket⟩
      · cases hmem
  | server => cases hmem
  | other n => cases hmem

theorem fromLog (h : NetInv session net) {src : Addr} {n : Nat} {packet : Bytes}
    (hdel : net.deliverable src (.child n) packet = true) :
    src = .rcopy ∧ FromLog net.rcopy.info.sent packet := by
  obtain ⟨hsrc, sent, hmem, _, hpacket⟩ := h.from_rcopy hdel (child_ne_rcopy n)
  exact ⟨hsrc, fun hcheck => ⟨sent, hmem, hpacket hcheck⟩⟩

theorem rcopyStep (h : NetInv session net) (ev : PollEvent)
    (hserver : (rcopyStep net.rcopy ev).info.server ≠ .rcopy)
    (hdst : ∀ sent ∈ (SelectiveReject.rcopyStep net.rcopy ev).info.sent, sent.dst ≠ .rcopy) :
    NetInv session { net with rcopy := SelectiveReject.rcopyStep net.rcopy ev } :=
  ⟨h.rcopy.step ev, hserver, hdst, fun child hchild =>
    (h.children child hchild).mono (sent_subset_rcopyStep net.rcopy ev)⟩

theorem setChild (h : NetInv session net) {child : Child OutFile}
    (hchild : ChildInv session net.rcopy.info.sent child) (n : Nat) (files : Bytes → Bytes) :
    NetInv session { net with children := net.children.set n child, files := files } := by
  refine ⟨h.rcopy, h.server, h.dst, fun other hother => ?_⟩
  rcases List.mem_or_eq_of_mem_set hother with hold | rfl
  · exact h.children other hold
  · exact hchild

theorem childPoll (h : NetInv session net) {n : Nat} {ev : PollEvent} {net' : Network}
    (hstep : net.childPoll n ev = some net')
    (hev : ∀ child, ChildInv session net.rcopy.info.sent child →
      ChildInv session net.rcopy.info.sent (childStep OutFile.write child ev)) :
    NetInv session net' := by
  obtain ⟨child, hget, rfl⟩ := Network.childPoll_eq_some.mp hstep
  exact h.setChild (hev _ ((h.children child (List.mem_of_getElem? hget)).load net)) n _

theorem step (h : NetInv session net) {label : Label} {net' : Network}
    (hstep : net.next label = some net') : NetInv session net' := by
  have hcases := Network.step_of_next hstep
  cases hcases with
  | rcopyTimeout =>
      have htalks := rcopyStep_timeout net.rcopy
      refine h.rcopyStep .timeout ?_ fun sent hsent => ?_
      · rw [htalks.server]
        exact h.server
      · rcases htalks.sent sent hsent with hold | hdst
        · exact h.dst sent hold
        · rw [hdst]
          exact h.server
  | @rcopyRecv src packet hdel =>
      obtain ⟨n, child, rfl, _⟩ := h.from_child hdel
      refine h.rcopyStep (.recv (.child n) packet) ?_ fun sent hsent => ?_
      · rcases server_rcopyStep_recv net.rcopy (.child n) packet with hold | hnew
        · rw [hold]
          exact h.server
        · rw [hnew]
          exact child_ne_rcopy n
      · rcases sent_rcopyStep_recv hsent with hold | hdst
        · exact h.dst sent hold
        · rw [hdst]
          exact child_ne_rcopy n
  | serverForks hdel hfork =>
      obtain ⟨rfl, sent, hmem, _, hpacket⟩ := h.from_rcopy hdel server_ne_rcopy
      obtain rfl := eq_of_accepted hfork
      obtain ⟨hcheck, hflag⟩ := accepted_of_processServer hfork
      have hname := h.rcopy.filename_of_flag hmem (hpacket hcheck ▸ hflag)
      refine ⟨h.rcopy, h.server, h.dst, fun other hother => ?_⟩
      rcases List.mem_append.mp hother with hold | hnew
      · exact h.children other hold
      · rw [List.mem_singleton.mp hnew, ← hpacket hcheck, hname]
        exact childInv_processClient _
  | serverIgnores hdel hnone => exact h
  | @childOpens n callocOk child hget hstate =>
      have hinv := h.children child (List.mem_of_getElem? hget)
      exact h.setChild (hinv.setup hstate _ _) n _
  | @childRefuses n callocOk child hget hstate =>
      have hinv := h.children child (List.mem_of_getElem? hget)
      exact h.setChild (hinv.setup hstate _ _) n _
  | childTimeout hpoll => exact h.childPoll hpoll fun child hchild => hchild.timeout
  | childRecv hdel hpoll =>
      obtain ⟨rfl, hfrom⟩ := h.fromLog hdel
      exact h.childPoll hpoll fun child hchild => hchild.recv h.rcopy hfrom

end NetInv

/-- Every run of a session keeps it, from any directory. -/
theorem Session.Run.netInv {session : Session} {files : Bytes → Bytes}
    {ok : Network → Label → Prop} {net : Network} (h : session.Run files ok net) :
    NetInv session net := by
  refine h.invariant ⟨rcopyInv_start session, ?_, ?_, ?_⟩ fun _ _ _ hinv _ hstep =>
    hinv.step hstep
  · exact server_ne_rcopy
  · intro sent hsent
    rw [List.mem_singleton.mp hsent]
    exact server_ne_rcopy
  · intro child hchild
    cases hchild

end SelectiveReject
