/-
# `SelectiveReject.Transcript` — what each program says, from its first datagram to its last

Whoever is at the other end and whatever arrives, the packets a process has sent are, in
this order:

    rcopy    FILENAME^a  D  EOF^b  [DONE]       1 ≤ a ≤ 10, b ≤ 10
    child    RESP  (RR | SREJ)*  EOF_ACK^k      or one refusing RESP

In `D` each chunk of the file is first sent in its turn, and every later copy of it is the
same packet (`Spoken`).  The control packets of a child carry the numbers 1, 2, 3, ...; the
EOF_ACKs are copies of one.

rcopy gives up in three places, and the transcript shows which: ten FILENAMEs or a
refusal, the lowest data packet nine more times in a row, ten EOFs.
-/
import SelectiveReject.Terminate

namespace SelectiveReject

open Machine

/-! ## rcopy -/

def RcopyInfo.said (info : RcopyInfo) : List Bytes := info.sent.map Sent.packet

theorem said_safeSendto (info : RcopyInfo) (packet : Bytes) :
    (info.safeSendto packet).said = info.said ++ [packet] :=
  List.map_append

/-- The data packets of the first `n` chunks, each for the first time in its turn, and
copies of earlier ones. -/
inductive Spoken (session : Session) : Nat → List Bytes → Prop
  | nothing : Spoken session 0 []
  | next {n : Nat} {data : List Bytes} {packet : Bytes} (h : Spoken session n data)
      (hpacket : session.dataPackets[n]? = some packet) : Spoken session (n + 1) (data ++ [packet])
  | again {n i : Nat} {data : List Bytes} {packet : Bytes} (h : Spoken session n data)
      (hi : i < n) (hpacket : session.dataPackets[i]? = some packet) :
      Spoken session n (data ++ [packet])

/-- A transfer of which `n` chunks have been sent: `data` behind the FILENAMEs, and
then `close`. -/
structure Talk (session : Session) (n : Nat) (data close : List Bytes) (info : RcopyInfo) :
    Prop where
  transfer : TransferInv session n info
  spoken : Spoken session n data
  said : ∃ a, 1 ≤ a ∧ a ≤ maxTries ∧
    info.said = List.replicate a session.filenamePacket ++ data ++ close

/-- The lowest packet has been sent again `retry_count` times in a row. -/
inductive Retries (info : RcopyInfo) (data : List Bytes) : Prop
  | fresh (h : info.retryCount = 0)
  | waiting {before : List Bytes} {entry : WindowEntry}
      (hlowest : windowLowest info.window = some entry) (hlt : info.retryCount < maxTries)
      (hdata : data = before ++
        List.replicate info.retryCount (entry.packet.take entry.packetLen))

/-- A response that makes rcopy give up while it asks: too short, or not 0. -/
def Refuses (rcopy : Rcopy) : PollEvent → Prop
  | .timeout => False
  | .recv _ packet => (∃ asked tries, rcopy.state = .sendFilenamePacket asked tries) ∧
      checkPacket packet = true ∧ getFlag packet = flagFilenameResp ∧
      (packet.length < srejHeaderLen + 1 ∨ packet.getD srejHeaderLen 0 ≠ 0)

/-- Where rcopy is, and what it has said; `refusal` says that it has been refused. -/
inductive RcopyTalk (session : Session) (refusal : Prop) : Rcopy → Prop
  | filename {info : RcopyInfo} {tries : Nat} (h : SetupInv session info)
      (hclean : info.hadError = false) (hretry : info.retryCount = 0) (htries : tries < maxTries)
      (hsaid : info.said = List.replicate (tries + 1) session.filenamePacket) :
      RcopyTalk session refusal ⟨.sendFilenamePacket session.filenamePacket tries, info⟩
  | refused {info : RcopyInfo} {a : Nat} (herr : info.hadError = true) (hpos : 1 ≤ a)
      (hle : a ≤ maxTries) (hsaid : info.said = List.replicate a session.filenamePacket)
      (hwhy : a = maxTries ∨ refusal) : RcopyTalk session refusal ⟨.done, info⟩
  | exited {info : RcopyInfo} {a : Nat} (hpos : 1 ≤ a) (hle : a ≤ maxTries)
      (hsaid : info.said = List.replicate a session.filenamePacket) :
      RcopyTalk session refusal ⟨.exited, info⟩
  | sendData {info : RcopyInfo} {n : Nat} {data : List Bytes} (h : Talk session n data [] info)
      (hclean : info.hadError = false) (hretry : info.retryCount = 0) :
      RcopyTalk session refusal ⟨.sendDataState, info⟩
  | waitOnAck {info : RcopyInfo} {n count : Nat} {data : List Bytes}
      (h : Talk session n data [] info) (hclean : info.hadError = false)
      (hretry : count = 0 → Retries info data) :
      RcopyTalk session refusal ⟨.waitOnAckState count, info⟩
  | sendEof {info : RcopyInfo} {n tries : Nat} {data : List Bytes}
      (h : Talk session n data (List.replicate (tries + 1) session.eofPacket) info)
      (hclean : info.hadError = false) (hclosed : Closed session n info.window)
      (htries : tries < maxTries) :
      RcopyTalk session refusal ⟨.sendEofState session.eofPacket tries, info⟩
  | gaveUp {info : RcopyInfo} {n : Nat} {before : List Bytes} {packet : Bytes}
      (h : Talk session n (before ++ List.replicate 9 packet) [] info)
      (herr : info.hadError = true) : RcopyTalk session refusal ⟨.done, info⟩
  | unanswered {info : RcopyInfo} {n : Nat} {data : List Bytes}
      (h : Talk session n data (List.replicate maxTries session.eofPacket) info)
      (herr : info.hadError = true) (hclosed : Closed session n info.window) :
      RcopyTalk session refusal ⟨.done, info⟩
  | finished {info : RcopyInfo} {n b : Nat} {data : List Bytes}
      (h : Talk session n data (List.replicate b session.eofPacket ++ [session.donePacket]) info)
      (hclean : info.hadError = false) (hclosed : Closed session n info.window) (hpos : 1 ≤ b)
      (hle : b ≤ maxTries) : RcopyTalk session refusal ⟨.done, info⟩

namespace Talk

variable {session : Session} {refusal : Prop} {n : Nat} {data close : List Bytes}
  {info : RcopyInfo}

theorem silent (h : Talk session n data close info) {info' : RcopyInfo}
    (htransfer : TransferInv session n info') (hsent : info'.sent = info.sent) :
    Talk session n data close info' := by
  obtain ⟨a, hpos, hle, hsaid⟩ := h.said
  exact ⟨htransfer, h.spoken, a, hpos, hle, (congrArg (List.map Sent.packet) hsent).trans hsaid⟩

theorem again (h : Talk session n data [] info) {info' : RcopyInfo} {packet : Bytes} {i : Nat}
    (htransfer : TransferInv session n info') (hi : i < n)
    (hpacket : session.dataPackets[i]? = some packet) (hsaid : info'.said = info.said ++ [packet]) :
    Talk session n (data ++ [packet]) [] info' := by
  obtain ⟨a, hpos, hle, hold⟩ := h.said
  refine ⟨htransfer, h.spoken.again hi hpacket, a, hpos, hle, ?_⟩
  rw [hsaid, hold]
  simp

theorem find (h : Talk session n data close info) {seq : UInt32} {entry : WindowEntry}
    (hfind : windowFind info.window seq = some entry) :
    ∃ i < n, session.dataPackets[i]? = some (entry.packet.take entry.packetLen) := by
  obtain ⟨packet, hget, _, hbytes⟩ := h.transfer.window.find_eq_some hfind
  obtain ⟨hlt, _⟩ := List.getElem?_eq_some_iff.mp hget
  rw [h.transfer.length_take] at hlt
  rw [List.getElem?_take_of_lt hlt] at hget
  exact ⟨_, hlt, hbytes ▸ hget⟩

theorem sendEof (h : Talk session n data [] info) (hclean : info.hadError = false)
    (hclosed : Closed session n info.window) : RcopyTalk session refusal (sendEofState info) := by
  have heof : builtPacket info.window.current flagEof [] = session.eofPacket := by
    rw [h.transfer.current_ofNat, hclosed.1]
    rfl
  obtain ⟨a, hpos, hle, hsaid⟩ := h.said
  simp only [sendEofState, heof]
  refine .sendEof ⟨h.transfer.safeSendto (.inr (.inr ⟨hclosed, .inl rfl⟩)), h.spoken, a, hpos,
    hle, ?_⟩ hclean hclosed (by decide)
  rw [said_safeSendto, hsaid, List.append_nil]
  rfl

theorem sendDataLeave (h : Talk session n data [] info) (hclean : info.hadError = false)
    (hretry : info.retryCount = 0) : RcopyTalk session refusal (sendDataLeave info) := by
  simp only [SelectiveReject.sendDataLeave]
  split
  · rename_i hleave
    exact h.sendEof hclean ⟨h.transfer.fileDone hleave.1, of_decide_eq_true hleave.2⟩
  · exact .waitOnAck h hclean fun _ => .fresh hretry

theorem sendDataState (h : Talk session n data [] info) (hclean : info.hadError = false)
    (hretry : info.retryCount = 0) : RcopyTalk session refusal (sendDataState info) := by
  rcases h.transfer.sendDataState_cases with ⟨hn, _, hsend, hnext⟩ | ⟨fileDone, hleave, hnext, _⟩
  · rw [hsend]
    obtain ⟨a, hpos, hle, hsaid⟩ := h.said
    have hpacket := h.transfer.getElem?_dataPackets hn
    refine .sendData ⟨hnext, h.spoken.next hpacket, a, hpos, hle, ?_⟩ hclean rfl
    refine (said_safeSendto _ _).trans ?_
    rw [List.append_nil, ← List.append_assoc]
    exact congrArg (· ++ _) (hsaid.trans (List.append_nil _))
  · rw [hleave]
    exact (h.silent hnext rfl).sendDataLeave hclean hretry

theorem handleReject (h : Talk session n data [] info) (packet : Bytes) :
    ∃ data', Talk session n data' [] (handleReject info packet) := by
  have htransfer := h.transfer.handleReject packet
  simp only [SelectiveReject.handleReject] at htransfer ⊢
  split
  · exact ⟨data, h⟩
  · rename_i hlen
    rw [if_neg hlen] at htransfer
    split
    · rename_i entry hfind
      obtain ⟨i, hi, hpacket⟩ := h.find hfind
      exact ⟨_, h.again (h.transfer.resendPacket hfind) hi hpacket (said_safeSendto _ _)⟩
    · exact ⟨data, h⟩

/-- One datagram of `process_controls`: a copy of a packet is said, or nothing.  A datagram that
does not count changes the peer at most. -/
theorem processControlsTurn (h : Talk session n data [] info) (count : Nat) (src : Addr)
    (packet : Bytes) :
    (∃ data', Talk session n data' [] (processControlsTurn info count src packet).1 ∧
        (SelectiveReject.processControlsTurn info count src packet).2 = count + 1) ∨
      SelectiveReject.processControlsTurn info count src packet
        = ({ info with server := src }, count) := by
  have hpeer : Talk session n data [] { info with server := src } :=
    h.silent (h.transfer.congr rfl rfl rfl rfl rfl) rfl
  simp only [SelectiveReject.processControlsTurn]
  split
  · split
    · refine .inl ⟨data, hpeer.silent (hpeer.transfer.handleRr packet) ?_, rfl⟩
      simp only [handleRr]
      split <;> rfl
    · split
      · obtain ⟨data', hdata⟩ := hpeer.handleReject packet
        exact .inl ⟨data', hdata, rfl⟩
      · exact .inr rfl
  · exact .inr rfl

theorem waitOnAckTimeout (h : Talk session n data [] info) (hclean : info.hadError = false)
    {gotControl : Nat} (hretry : gotControl = 0 → Retries info data) :
    RcopyTalk session refusal (waitOnAckTimeout info gotControl) := by
  simp only [SelectiveReject.waitOnAckTimeout]
  split
  · have h' : Talk session n data [] { info with retryCount := 0 } :=
      h.silent (h.transfer.congr rfl rfl rfl rfl rfl) rfl
    exact h'.sendDataState hclean rfl
  · rename_i hnone
    have hretry := hretry (Nat.eq_zero_of_not_pos hnone)
    split
    · rename_i hempty
      cases hretry with
      | fresh hzero => exact h.sendDataState hclean hzero
      | waiting hlowest hlt hdata =>
          rw [hempty] at hlowest
          cases hlowest
    · rename_i entry hlowest
      have hfind := hlowest
      rw [h.transfer.window.lowest_eq] at hfind
      split at hfind
      · obtain ⟨i, hi, hpacket⟩ := h.find hfind
        -- the run of copies in front of the one that is due
        obtain ⟨before, hlt, hdata⟩ : ∃ before, info.retryCount < maxTries ∧ data = before ++
            List.replicate info.retryCount (entry.packet.take entry.packetLen) := by
          cases hretry with
          | fresh hzero =>
              rw [hzero]
              exact ⟨data, by decide, (List.append_nil data).symm⟩
          | @waiting before entry' hlowest' hlt hdata =>
              obtain rfl := Option.some.inj (hlowest'.symm.trans hlowest)
              exact ⟨before, hlt, hdata⟩
        split
        · rename_i hmax
          have hnine : info.retryCount = 9 := by
            simp only [maxTries] at hlt hmax
            omega
          rw [hnine] at hdata
          subst hdata
          exact .gaveUp (h.silent (h.transfer.congr rfl rfl rfl rfl rfl) rfl) rfl
        · rename_i hmax
          have h' : TransferInv session n { info with retryCount := info.retryCount + 1 } :=
            h.transfer.congr rfl rfl rfl rfl rfl
          have hmore : data ++ [entry.packet.take entry.packetLen] = before ++
              List.replicate (info.retryCount + 1) (entry.packet.take entry.packetLen) := by
            rw [hdata, List.append_assoc, List.replicate_succ']
          exact .waitOnAck (h.again (h'.resendPacket hfind) hi hpacket (said_safeSendto _ _))
            hclean fun _ => .waiting hlowest (Nat.not_le.mp hmax) hmore
      · cases hfind

end Talk

/-! ### Opening and closing -/

section Handshakes

variable {session : Session} {refusal : Prop} {info : RcopyInfo}

theorem talk_sendFilenameRetry (h : SetupInv session info) (hclean : info.hadError = false)
    (hretry : info.retryCount = 0) {tries : Nat} (htries : tries < maxTries)
    (hsaid : info.said = List.replicate (tries + 1) session.filenamePacket) :
    RcopyTalk session refusal (sendFilenameRetry info session.filenamePacket tries) := by
  simp only [sendFilenameRetry, retryLoop]
  split
  · rename_i hmore
    refine .filename h.safeSendto hclean hretry hmore ?_
    rw [said_safeSendto, hsaid, ← List.replicate_succ']
  · rename_i hlast
    have hten : tries + 1 = maxTries := Nat.le_antisymm htries (Nat.not_lt.mp hlast)
    exact .refused rfl (Nat.le_add_left 1 tries) htries hsaid (.inl hten)

theorem talk_sendFilenameRecv (h : SetupInv session info) (hclean : info.hadError = false)
    (hretry : info.retryCount = 0) {tries : Nat} (htries : tries < maxTries)
    (hsaid : info.said = List.replicate (tries + 1) session.filenamePacket) (src : Addr)
    (inPacket : Bytes) :
    RcopyTalk session
      (refusal ∨ Refuses ⟨.sendFilenamePacket session.filenamePacket tries, info⟩
        (.recv src inPacket))
      (sendFilenameRecv info session.filenamePacket tries src inPacket) := by
  have h' : SetupInv session { info with server := src } := { h with }
  simp only [sendFilenameRecv]
  split
  · rename_i hresponse
    split
    · rename_i hrefuses
      exact .refused rfl (Nat.le_add_left 1 tries) htries hsaid
        (.inr (.inr ⟨⟨_, tries, rfl⟩, hresponse.1, hresponse.2, hrefuses⟩))
    · split
      · exact .exited (Nat.le_add_left 1 tries) htries hsaid
      · rename_i window hinit
        have htalk : Talk session 0 [] []
            { info with
              server := src, controlSeq := info.controlSeq + 1, accepted := some src,
              window := window } := by
          refine ⟨h.windowInit hinit rfl rfl rfl (Option.some_ne_none src) rfl, .nothing, tries + 1,
            Nat.le_add_left 1 tries, htries, ?_⟩
          rw [List.append_nil, List.append_nil]
          exact hsaid
        exact htalk.sendDataState hclean hretry
  · exact talk_sendFilenameRetry h' hclean hretry htries hsaid

theorem talk_sendEofRetry {n tries : Nat} {data : List Bytes}
    (h : Talk session n data (List.replicate (tries + 1) session.eofPacket) info)
    (hclean : info.hadError = false) (hclosed : Closed session n info.window)
    (htries : tries < maxTries) :
    RcopyTalk session refusal (sendEofRetry info session.eofPacket tries) := by
  simp only [sendEofRetry, retryLoop]
  split
  · rename_i hmore
    obtain ⟨a, hpos, hle, hsaid⟩ := h.said
    refine .sendEof ⟨h.transfer.safeSendto (.inr (.inr ⟨hclosed, .inl rfl⟩)), h.spoken, a, hpos,
      hle, ?_⟩ hclean hclosed hmore
    rw [said_safeSendto, hsaid, List.append_assoc, ← List.replicate_succ']
  · rename_i hlast
    have hten : tries + 1 = maxTries := Nat.le_antisymm htries (Nat.not_lt.mp hlast)
    rw [hten] at h
    exact .unanswered (h.silent (h.transfer.congr rfl rfl rfl rfl rfl) rfl) rfl hclosed

theorem talk_sendEofRecv {n tries : Nat} {data : List Bytes}
    (h : Talk session n data (List.replicate (tries + 1) session.eofPacket) info)
    (hclean : info.hadError = false) (hclosed : Closed session n info.window)
    (htries : tries < maxTries) (src : Addr) (inPacket : Bytes) :
    RcopyTalk session refusal (sendEofRecv info session.eofPacket tries src inPacket) := by
  have hpeer : TransferInv session n { info with server := src } :=
    h.transfer.congr rfl rfl rfl rfl rfl
  simp only [sendEofRecv]
  split
  · have hdone : builtPacket (info.window.current + 1) flagDone [] = session.donePacket := by
      rw [h.transfer.current_ofNat, hclosed.1]
      rfl
    obtain ⟨a, hpos, hle, hsaid⟩ := h.said
    simp only [sendFinalDone, hdone]
    refine .finished ⟨hpeer.safeSendto (.inr (.inr ⟨hclosed, .inr rfl⟩)), h.spoken, a, hpos, hle,
      ?_⟩ hclean hclosed (Nat.le_add_left 1 tries) htries
    refine (said_safeSendto _ _).trans ?_
    rw [← List.append_assoc]
    exact congrArg (· ++ _) hsaid
  · exact talk_sendEofRetry (h.silent hpeer rfl) hclean hclosed htries

end Handshakes

theorem rcopyTalk_start (session : Session) (refusal : Prop) :
    RcopyTalk session refusal session.start :=
  .filename (SetupInv.safeSendto ⟨rfl, rfl, rfl, rfl, rfl, rfl, rfl, nofun⟩) rfl rfl (by decide) rfl

theorem RcopyTalk.mono {session : Session} {refusal refusal' : Prop} {rcopy : Rcopy}
    (h : RcopyTalk session refusal rcopy) (hmore : refusal → refusal') :
    RcopyTalk session refusal' rcopy := by
  cases h with
  | filename h hclean hretry htries hsaid => exact .filename h hclean hretry htries hsaid
  | refused herr hpos hle hsaid hwhy => exact .refused herr hpos hle hsaid (hwhy.imp_right hmore)
  | exited hpos hle hsaid => exact .exited hpos hle hsaid
  | sendData h hclean hretry => exact .sendData h hclean hretry
  | waitOnAck h hclean hretry => exact .waitOnAck h hclean hretry
  | sendEof h hclean hclosed htries => exact .sendEof h hclean hclosed htries
  | gaveUp h herr => exact .gaveUp h herr
  | unanswered h herr hclosed => exact .unanswered h herr hclosed
  | finished h hclean hclosed hpos hle => exact .finished h hclean hclosed hpos hle

theorem RcopyTalk.step {session : Session} {refusal : Prop} {rcopy : Rcopy}
    (h : RcopyTalk session refusal rcopy) (ev : PollEvent) :
    RcopyTalk session (refusal ∨ Refuses rcopy ev) (rcopyStep rcopy ev) := by
  cases h with
  | filename h hclean hretry htries hsaid =>
      cases ev with
      | timeout => exact talk_sendFilenameRetry h hclean hretry htries hsaid
      | recv src packet => exact talk_sendFilenameRecv h hclean hretry htries hsaid src packet
  | refused herr hpos hle hsaid hwhy =>
      cases ev <;> exact .refused herr hpos hle hsaid (hwhy.imp_right .inl)
  | exited hpos hle hsaid => cases ev <;> exact .exited hpos hle hsaid
  | sendData h hclean hretry =>
      cases ev with
      | timeout => exact h.sendDataState hclean hretry
      | recv src packet =>
          rcases h.processControlsTurn 0 src packet with ⟨data', htalk, _⟩ | hsame
          · obtain ⟨window, sent, hframe⟩ := processControlsTurn_frame _ 0 src packet
            exact .sendData htalk ((congrArg RcopyInfo.hadError hframe).trans hclean)
              ((congrArg RcopyInfo.retryCount hframe).trans hretry)
          · simp only [rcopyStep, hsame]
            exact .sendData (h.silent (h.transfer.congr rfl rfl rfl rfl rfl) rfl) hclean hretry
  | @waitOnAck info n count data h hclean hretry =>
      cases ev with
      | timeout => exact h.waitOnAckTimeout hclean hretry
      | recv src packet =>
          rcases h.processControlsTurn count src packet with ⟨data', htalk, hmore⟩ | hsame
          · obtain ⟨window, sent, hframe⟩ := processControlsTurn_frame info count src packet
            refine .waitOnAck htalk ((congrArg RcopyInfo.hadError hframe).trans hclean)
              fun hzero => ?_
            rw [hmore] at hzero
            cases hzero
          · simp only [rcopyStep, hsame]
            refine .waitOnAck (h.silent (h.transfer.congr rfl rfl rfl rfl rfl) rfl) hclean
              fun hzero => ?_
            cases hretry hzero with
            | fresh h => exact .fresh h
            | waiting hlowest hlt hdata => exact .waiting hlowest hlt hdata
  | sendEof h hclean hclosed htries =>
      cases ev with
      | timeout => exact talk_sendEofRetry h hclean hclosed htries
      | recv src packet => exact talk_sendEofRecv h hclean hclosed htries src packet
  | gaveUp h herr => cases ev <;> exact .gaveUp h herr
  | unanswered h herr hclosed => cases ev <;> exact .unanswered h herr hclosed
  | finished h hclean hclosed hpos hle => cases ev <;> exact .finished h hclean hclosed hpos hle

/-- `a` FILENAMEs, the data packets `data` of the first `n` chunks, `b` EOFs, and `final`.  EOFs
come only when everything is acknowledged; DONE is the last word, and the one case of a
return value of 0; with -1 it shows which of the limits was reached, or rcopy was refused. -/
structure RcopyScript (session : Session) (refusal : Prop) (rcopy : Rcopy) (n a b : Nat)
    (data final : List Bytes) : Prop where
  said : rcopy.info.said = List.replicate a session.filenamePacket ++ data ++
    List.replicate b session.eofPacket ++ final
  names : 1 ≤ a ∧ a ≤ 10
  eofs : b ≤ 10
  spoken : Spoken session n data
  closed : 0 < b → Closed session n rcopy.info.window
  last : final = [] ∨ (final = [session.donePacket] ∧ 0 < b)
  success : processFile rcopy = some 0 ↔ final = [session.donePacket]
  failure : processFile rcopy = some (-1) →
    final = [] ∧ (b = 10 ∨ (b = 0 ∧ ((data = [] ∧ (a = 10 ∨ refusal)) ∨
      ∃ before packet, data = before ++ List.replicate 9 packet)))

theorem processFile_eq_zero {info : RcopyInfo} :
    processFile ⟨.done, info⟩ = some 0 ↔ info.hadError = false := by
  cases herr : info.hadError <;> simp [processFile, herr]

theorem processFile_ne_of_clean {info : RcopyInfo} (h : info.hadError = false) :
    processFile ⟨.done, info⟩ ≠ some (-1) := by
  simp [processFile, h]

theorem RcopyTalk.script {session : Session} {refusal : Prop} {rcopy : Rcopy}
    (h : RcopyTalk session refusal rcopy) :
    ∃ (n a b : Nat) (data final : List Bytes),
      RcopyScript session refusal rcopy n a b data final := by
  -- before the end process_file has not returned, at an error it has not returned 0
  have herror : ∀ {info : RcopyInfo}, info.hadError = true →
      (processFile ⟨.done, info⟩ = some 0 ↔ ([] : List Bytes) = [session.donePacket]) := by
    intro info herr
    rw [processFile_eq_zero, herr]
    exact ⟨nofun, nofun⟩
  cases h with
  | @filename info tries h hclean hretry htries hsaid =>
      exact ⟨0, tries + 1, 0, [], [], by simpa using hsaid, ⟨Nat.le_add_left 1 tries, htries⟩,
        Nat.zero_le _, .nothing, nofun, .inl rfl, ⟨nofun, nofun⟩, nofun⟩
  | @refused info a herr hpos hle hsaid hwhy =>
      exact ⟨0, a, 0, [], [], by simpa using hsaid, ⟨hpos, hle⟩, Nat.zero_le _, .nothing, nofun,
        .inl rfl, herror herr, fun _ => ⟨rfl, .inr ⟨rfl, .inl ⟨rfl, hwhy⟩⟩⟩⟩
  | @exited info a hpos hle hsaid =>
      exact ⟨0, a, 0, [], [], by simpa using hsaid, ⟨hpos, hle⟩, Nat.zero_le _, .nothing, nofun,
        .inl rfl, ⟨nofun, nofun⟩, nofun⟩
  | @sendData info n data h hclean hretry =>
      obtain ⟨a, hpos, hle, hsaid⟩ := h.said
      exact ⟨n, a, 0, data, [], by simpa using hsaid, ⟨hpos, hle⟩, Nat.zero_le _, h.spoken, nofun,
        .inl rfl, ⟨nofun, nofun⟩, nofun⟩
  | @waitOnAck info n count data h hclean hretry =>
      obtain ⟨a, hpos, hle, hsaid⟩ := h.said
      exact ⟨n, a, 0, data, [], by simpa using hsaid, ⟨hpos, hle⟩, Nat.zero_le _, h.spoken, nofun,
        .inl rfl, ⟨nofun, nofun⟩, nofun⟩
  | @sendEof info n tries data h hclean hclosed htries =>
      obtain ⟨a, hpos, hle, hsaid⟩ := h.said
      exact ⟨n, a, tries + 1, data, [], by simpa using hsaid, ⟨hpos, hle⟩, htries, h.spoken,
        fun _ => hclosed, .inl rfl, ⟨nofun, nofun⟩, nofun⟩
  | @gaveUp info n before packet h herr =>
      obtain ⟨a, hpos, hle, hsaid⟩ := h.said
      exact ⟨n, a, 0, before ++ List.replicate 9 packet, [], by simpa using hsaid, ⟨hpos, hle⟩,
        Nat.zero_le _, h.spoken, nofun, .inl rfl, herror herr,
        fun _ => ⟨rfl, .inr ⟨rfl, .inr ⟨before, packet, rfl⟩⟩⟩⟩
  | @unanswered info n data h herr hclosed =>
      obtain ⟨a, hpos, hle, hsaid⟩ := h.said
      exact ⟨n, a, maxTries, data, [], by simpa using hsaid, ⟨hpos, hle⟩, Nat.le_refl 10, h.spoken,
        fun _ => hclosed, .inl rfl, herror herr, fun _ => ⟨rfl, .inl rfl⟩⟩
  | @finished info n b data h hclean hclosed hpos' hle' =>
      obtain ⟨a, hpos, hle, hsaid⟩ := h.said
      exact ⟨n, a, b, data, [session.donePacket], by simpa using hsaid, ⟨hpos, hle⟩, hle', h.spoken,
        fun _ => hclosed, .inr ⟨rfl, hpos'⟩,
        ⟨fun _ => rfl, fun _ => processFile_eq_zero.mpr hclean⟩,
        fun hc => absurd hc (processFile_ne_of_clean hclean)⟩

section Child

variable {F : Type}

def ServerInfo.said (info : ServerInfo F) : List Bytes := info.sent.map Sent.packet

/-- Control packets under the numbers 1, 2, 3, ... -/
def numbered (controls : List (UInt8 × Bytes)) : List Bytes :=
  controls.mapIdx fun i control => builtPacket (UInt32.ofNat (i + 1)) control.1 control.2

theorem numbered_append (controls : List (UInt8 × Bytes)) (control : UInt8 × Bytes) :
    numbered (controls ++ [control])
      = numbered controls ++
        [builtPacket (UInt32.ofNat (controls.length + 1)) control.1 control.2] :=
  List.mapIdx_concat

/-- A control packet that answers data. -/
def IsAnswer (control : UInt8 × Bytes) : Prop :=
  (control.1 = flagRr ∨ control.1 = flagSrej) ∧ ∃ value, control.2 = htonl value

/-- What a child that serves has said: that the file is open, and answers. -/
def Serving (controls : List (UInt8 × Bytes)) : Prop :=
  ∃ answers, controls = (flagFilenameResp, [0]) :: answers ∧ ∀ control ∈ answers, IsAnswer control

theorem serving_nil : Serving [(flagFilenameResp, [0])] :=
  ⟨[], rfl, fun _ h => absurd h List.not_mem_nil⟩

theorem Serving.append {controls more : List (UInt8 × Bytes)} (h : Serving controls)
    (hmore : ∀ control ∈ more, IsAnswer control) : Serving (controls ++ more) := by
  obtain ⟨answers, rfl, hanswers⟩ := h
  refine ⟨answers ++ more, rfl, fun control hcontrol => ?_⟩
  rcases List.mem_append.mp hcontrol with hold | hnew
  · exact hanswers control hold
  · exact hmore control hnew

/-- Said so far, and the number of the next control packet. -/
structure Controls (info : ServerInfo F) (controls : List (UInt8 × Bytes)) : Prop where
  said : info.said = numbered controls
  seq : info.controlSeq = UInt32.ofNat (controls.length + 1)

theorem said_sendControl (info : ServerInfo F) (flag : UInt8) (payload : Bytes) :
    (info.sendControl flag payload).said
      = info.said ++ [builtPacket info.controlSeq flag payload] := by
  simp [ServerInfo.said, ServerInfo.sent, ServerInfo.sendControl, ServerInfo.safeSendto]

theorem said_resendLastAck (info : ServerInfo F) :
    (resendLastAck info).said = info.said ++ [info.lastAck] := by
  simp [ServerInfo.said, ServerInfo.sent, resendLastAck, ServerInfo.safeSendto]

/-- `controls` and then answers have been said. -/
def AnswersOnly (info : ServerInfo F) (controls : List (UInt8 × Bytes)) : Prop :=
  ∃ more, Controls info (controls ++ more) ∧ ∀ control ∈ more, IsAnswer control

namespace Controls

variable {info : ServerInfo F} {controls : List (UInt8 × Bytes)}

theorem congr (h : Controls info controls) {info' : ServerInfo F} (hlog : info'.log = info.log)
    (hseq : info'.controlSeq = info.controlSeq) : Controls info' controls :=
  ⟨(congrArg (fun log => (log.map SentAt.sent).map Sent.packet) hlog).trans h.said,
    hseq.trans h.seq⟩

theorem withBuffer (h : Controls info controls) (buffer : Buffer) :
    Controls { info with buffer := buffer } controls :=
  h.congr rfl rfl

theorem sendControl (h : Controls info controls) (flag : UInt8) (payload : Bytes) :
    Controls (info.sendControl flag payload) (controls ++ [(flag, payload)]) := by
  constructor
  · rw [said_sendControl, numbered_append, h.said, h.seq]
  · rw [List.length_append, List.length_singleton, UInt32.ofNat_add, ← h.seq]
    rfl

theorem answered (h : Controls info controls) : AnswersOnly info controls :=
  ⟨[], by rwa [List.append_nil], nofun⟩

theorem answer (h : Controls info controls) {flag : UInt8} (hflag : flag = flagRr ∨ flag = flagSrej)
    (value : UInt32) : AnswersOnly (info.sendControl flag (htonl value)) controls := by
  refine ⟨[(flag, htonl value)], h.sendControl flag (htonl value), fun control hcontrol => ?_⟩
  rw [List.mem_singleton.mp hcontrol]
  exact ⟨hflag, value, rfl⟩

theorem rejectIfNeeded (h : Controls info controls) :
    AnswersOnly (rejectIfNeeded info) controls := by
  have h' := h.withBuffer (bufferNeedReject info.buffer).2
  simp only [SelectiveReject.rejectIfNeeded]
  split
  · exact h'.answer (.inr rfl) _
  · exact h'.answered

end Controls

theorem AnswersOnly.bind {info info' : ServerInfo F} {controls : List (UInt8 × Bytes)}
    (h : AnswersOnly info controls)
    (hnext : ∀ {controls}, Controls info controls → AnswersOnly info' controls) :
    AnswersOnly info' controls := by
  obtain ⟨more, hcontrols, hmore⟩ := h
  obtain ⟨further, hfurther, hanswer⟩ := hnext hcontrols
  refine ⟨more ++ further, by rwa [← List.append_assoc], fun control hcontrol => ?_⟩
  rcases List.mem_append.mp hcontrol with hold | hnew
  · exact hmore control hold
  · exact hanswer control hnew

theorem Controls.handleDataPacket {info info' : ServerInfo F} {controls : List (UInt8 × Bytes)}
    (h : Controls info controls) {write : F → Bytes → Int × F} {packet : Bytes}
    (hhandle : handleDataPacket write info packet = .ok info') : AnswersOnly info' controls := by
  simp only [SelectiveReject.handleDataPacket] at hhandle
  split at hhandle
  · obtain rfl := Except.ok.inj hhandle
    exact h.answer (.inl rfl) _
  · split at hhandle
    · obtain rfl := Except.ok.inj hhandle
      exact h.answer (.inl rfl) _
    · split at hhandle
      · split at hhandle
        · cases hhandle
        · rename_i buffer file hwrite
          have hdrained : Controls { info with buffer := buffer, outputFile := file } controls :=
            h.congr rfl rfl
          have hrr : AnswersOnly (sendRr { info with buffer := buffer, outputFile := file }) controls :=
            hdrained.answer (.inl rfl) _
          split at hhandle
          · obtain rfl := Except.ok.inj hhandle
            exact hrr.bind Controls.rejectIfNeeded
          · obtain rfl := Except.ok.inj hhandle
            exact hrr
      · obtain rfl := Except.ok.inj hhandle
        generalize bufferSave info.buffer (getSeq packet) (packet.drop srejHeaderLen) = saved
        exact (h.withBuffer saved).rejectIfNeeded

/-- The datagrams that get an EOF_ACK. -/
def isEof : PollEvent → Bool
  | .timeout => false
  | .recv _ packet => checkPacket packet && getFlag packet == flagEof

/-- Where a child is and what it has said, after `eofs` EOFs. -/
inductive ChildTalk (eofs : Nat) : Child F → Prop
  | filename {info : ServerInfo F} (h : Controls info []) : ChildTalk eofs ⟨.filename, info⟩
  | refused {info : ServerInfo F} (h : Controls info [(flagFilenameResp, [1])]) :
      ChildTalk eofs ⟨.done, info⟩
  | serving {state : ServerAt} {info : ServerInfo F} {controls : List (UInt8 × Bytes)}
      (hstate : state = .recvData ∨ state = .done ∨ state = .exited) (h : Controls info controls)
      (hserving : Serving controls) : ChildTalk eofs ⟨state, info⟩
  | acking {state : ServerAt} {info : ServerInfo F} {controls : List (UInt8 × Bytes)} {k : Nat}
      (hstate : state = .waitOnDone ∨ state = .done) (hserving : Serving controls)
      (hack : info.lastAck = builtPacket (UInt32.ofNat (controls.length + 1)) flagEofAck [])
      (hsaid : info.said = numbered controls ++ List.replicate k info.lastAck)
      (hpos : 1 ≤ k) (hle : k ≤ eofs + min info.retryCount 9) : ChildTalk eofs ⟨state, info⟩

theorem ChildTalk.mono {eofs eofs' : Nat} (hle : eofs ≤ eofs') {child : Child F}
    (h : ChildTalk eofs child) : ChildTalk eofs' child := by
  cases h with
  | filename h => exact .filename h
  | refused h => exact .refused h
  | serving hstate h hserving => exact .serving hstate h hserving
  | acking hstate hserving hack hsaid hpos hk =>
      exact .acking hstate hserving hack hsaid hpos (hk.trans (Nat.add_le_add_right hle _))

theorem ChildTalk.setup {eofs : Nat} {child : Child F} (h : ChildTalk eofs child)
    (opened : Option F) (callocOk : Bool) : ChildTalk eofs (childSetup child opened callocOk) := by
  cases h with
  | @filename info h =>
      -- the response, whatever else has been filled in
      have hresponse : ∀ {info' : ServerInfo F} (value : UInt8), info'.log = info.log →
          info'.controlSeq = info.controlSeq →
          Controls (sendFilenameResponse info' value) [(flagFilenameResp, [value])] :=
        fun value hlog hseq => (h.congr hlog hseq).sendControl flagFilenameResp [value]
      simp only [childSetup, filenameState]
      cases opened with
      | none => exact .refused (hresponse 1 rfl rfl)
      | some file =>
          dsimp only
          split
          · exact .serving (.inr (.inr rfl)) (hresponse 0 rfl rfl) serving_nil
          · rename_i buffer hinit
            refine .serving (.inl rfl) ((hresponse 0 ?_ ?_).withBuffer buffer) serving_nil
            · rfl
            · rfl
  | refused h => exact .refused h
  | serving hstate h hserving =>
      rcases hstate with rfl | rfl | rfl
      · exact .serving (.inl rfl) h hserving
      · exact .serving (.inr (.inl rfl)) h hserving
      · exact .serving (.inr (.inr rfl)) h hserving
  | acking hstate hserving hack hsaid hpos hk =>
      rcases hstate with rfl | rfl
      · exact .acking (.inl rfl) hserving hack hsaid hpos hk
      · exact .acking (.inr rfl) hserving hack hsaid hpos hk

theorem talk_recvDataRecv (write : F → Bytes → Int × F) {eofs : Nat} {info : ServerInfo F}
    {controls : List (UInt8 × Bytes)} (h : Controls info controls) (hserving : Serving controls)
    (src : Addr) (packet : Bytes) :
    ChildTalk (eofs + (isEof (.recv src packet)).toNat) (recvDataRecv write info src packet) := by
  have h' : Controls { info with client := src } controls := h.congr rfl rfl
  simp only [recvDataRecv]
  split
  · exact .serving (.inl rfl) h' hserving
  · rename_i hcheck
    split
    · split
      · rename_i failed hfail
        obtain ⟨_, buffer, file, rfl⟩ := handleDataPacket_error hfail
        exact .serving (.inr (.inr rfl)) (h'.congr rfl rfl) hserving
      · rename_i info' hhandle
        obtain ⟨more, hcontrols, hmore⟩ := h'.handleDataPacket hhandle
        exact .serving (.inl rfl) hcontrols (hserving.append hmore)
    · split
      · rename_i hflag
        have heof : isEof (.recv src packet) = true := by
          simp [isEof, hflag, Bool.eq_true_of_not_eq_false hcheck]
        rw [heof]
        refine .acking (.inl rfl) hserving ?_ ?_ (Nat.le_refl 1) (Nat.le_add_left 1 _)
        · show builtPacket info.controlSeq flagEofAck [] = _
          rw [h.seq]
        · refine (said_resendLastAck _).trans ?_
          rw [List.replicate_one]
          exact congrArg (· ++ _) h.said
      · exact .serving (.inl rfl) h' hserving

theorem talk_waitOnDone {eofs k : Nat} {info : ServerInfo F} {controls : List (UInt8 × Bytes)}
    (hserving : Serving controls)
    (hack : info.lastAck = builtPacket (UInt32.ofNat (controls.length + 1)) flagEofAck [])
    (hsaid : info.said = numbered controls ++ List.replicate k info.lastAck) (hpos : 1 ≤ k)
    (hk : k ≤ eofs + min info.retryCount 9) :
    ChildTalk eofs (waitOnDoneTimeout info) ∧
      ∀ src packet, ChildTalk (eofs + (isEof (.recv src packet)).toNat)
        (waitOnDoneRecv info src packet) := by
  -- one copy more
  have hresend : ∀ {info' : ServerInfo F}, info'.log = info.log → info'.lastAck = info.lastAck →
      (resendLastAck info').said = numbered controls ++ List.replicate (k + 1) info'.lastAck := by
    intro info' hlog hlast
    have hsame : info'.said = info.said :=
      congrArg (fun log => (log.map SentAt.sent).map Sent.packet) hlog
    rw [said_resendLastAck, hsame, hsaid, hlast, List.append_assoc, ← List.replicate_succ']
  constructor
  · simp only [waitOnDoneTimeout]
    split
    · refine .acking (.inr rfl) hserving hack hsaid hpos (hk.trans ?_)
      show _ ≤ eofs + min (info.retryCount + 1) 9
      omega
    · rename_i hmore
      simp only [serverMaxTries] at hmore
      refine .acking (.inl rfl) hserving hack (hresend rfl rfl) (Nat.le_add_left 1 k) ?_
      show _ ≤ eofs + min (info.retryCount + 1) 9
      omega
  · intro src packet
    have hle : k ≤ eofs + (isEof (.recv src packet)).toNat + min info.retryCount 9 := by omega
    simp only [waitOnDoneRecv]
    split
    · exact .acking (.inl rfl) hserving hack hsaid hpos hle
    · rename_i hcheck
      split
      · exact .acking (.inr rfl) hserving hack hsaid hpos hle
      · split
        · rename_i hflag
          have heof : isEof (.recv src packet) = true := by
            simp [isEof, hflag, Bool.eq_true_of_not_eq_false hcheck]
          rw [heof]
          refine .acking (.inl rfl) hserving hack (hresend rfl rfl) (Nat.le_add_left 1 k) ?_
          show k + 1 ≤ eofs + 1 + min info.retryCount 9
          omega
        · exact .acking (.inl rfl) hserving hack hsaid hpos hle

theorem ChildTalk.step (write : F → Bytes → Int × F) {eofs : Nat} {child : Child F}
    (h : ChildTalk eofs child) (ev : PollEvent) :
    ChildTalk (eofs + (isEof ev).toNat) (childStep write child ev) := by
  have hle : eofs ≤ eofs + (isEof ev).toNat := Nat.le_add_right _ _
  cases h with
  | filename h => cases ev <;> exact .filename h
  | refused h => cases ev <;> exact .refused h
  | serving hstate h hserving =>
      rcases hstate with rfl | rfl | rfl
      · cases ev with
        | timeout => exact .serving (.inr (.inl rfl)) h hserving
        | recv src packet => exact talk_recvDataRecv write h hserving src packet
      · cases ev <;> exact .serving (.inr (.inl rfl)) h hserving
      · cases ev <;> exact .serving (.inr (.inr rfl)) h hserving
  | acking hstate hserving hack hsaid hpos hk =>
      rcases hstate with rfl | rfl
      · have hsteps := talk_waitOnDone hserving hack hsaid hpos hk
        cases ev with
        | timeout => exact hsteps.1
        | recv src packet => exact hsteps.2 src packet
      · have hdone := (ChildTalk.acking (.inr rfl) hserving hack hsaid hpos hk).mono hle
        cases ev <;> exact hdone

/-- `controls` under the numbers from 1 on, then `k` copies of an EOF_ACK under the next: one for
each EOF and at most nine for timeouts. -/
structure ChildScript (eofs : Nat) (child : Child F) (controls : List (UInt8 × Bytes))
    (k : Nat) : Prop where
  said : child.info.said = numbered controls ++
    List.replicate k (builtPacket (UInt32.ofNat (controls.length + 1)) flagEofAck [])
  shape : controls = [(flagFilenameResp, [1])] ∨ Serving controls
  acks : k ≤ eofs + 9
  recvData : child.state = .recvData → k = 0
  waitOnDone : child.state = .waitOnDone → 0 < k
  refused : controls = [(flagFilenameResp, [1])] → child.state = .done ∧ k = 0

theorem ChildTalk.script {eofs : Nat} {child : Child F} (h : ChildTalk eofs child)
    (hsetup : child.state ≠ .filename) : ∃ controls k, ChildScript eofs child controls k := by
  have hrefused : ∀ {controls : List (UInt8 × Bytes)}, Serving controls →
      controls ≠ [(flagFilenameResp, [1])] := by
    rintro controls ⟨answers, rfl, _⟩ heq
    injection heq with hhead
    exact absurd hhead (by decide)
  cases h with
  | filename h => exact absurd rfl hsetup
  | refused h =>
      exact ⟨_, 0, by simpa using h.said, .inl rfl, Nat.zero_le _, fun _ => rfl, nofun,
        fun _ => ⟨rfl, rfl⟩⟩
  | serving hstate h hserving =>
      refine ⟨_, 0, by simpa using h.said, .inr hserving, Nat.zero_le _, fun _ => rfl,
        fun hwait => ?_, fun heq => absurd heq (hrefused hserving)⟩
      rcases hstate with rfl | rfl | rfl <;> cases hwait
  | @acking state info controls k hstate hserving hack hsaid hpos hk =>
      refine ⟨controls, k, hack ▸ hsaid, .inr hserving,
        hk.trans (Nat.add_le_add_left (Nat.min_le_right _ _) _), fun hrecv => ?_, fun _ => hpos,
        fun heq => absurd heq (hrefused hserving)⟩
      rcases hstate with rfl | rfl <;> cases hrecv

theorem childTalk_processClient (packet : Bytes) (client : Addr) (unopened : F) :
    ChildTalk 0 (processClient packet client unopened) :=
  .filename ⟨rfl, rfl⟩

theorem childTalk_feed (write : F → Bytes → Int × F) :
    ∀ (es : List PollEvent) {eofs : Nat} {child : Child F}, ChildTalk eofs child →
      ChildTalk (eofs + es.countP isEof) (feed (childStep write) child es) := by
  intro es
  induction es with
  | nil =>
      intro eofs child h
      exact h
  | cons ev es ih =>
      intro eofs child h
      have hrest := ih (h.step write ev)
      rw [List.countP_cons, feed_cons]
      have hcount : eofs + (isEof ev).toNat + es.countP isEof
          = eofs + (es.countP isEof + if isEof ev = true then 1 else 0) := by
        cases isEof ev with
        | false => rfl
        | true => exact Nat.add_right_comm eofs 1 _
      rwa [hcount] at hrest

theorem state_childSetup_ne (packet : Bytes) (client : Addr) (unopened : F) (opened : Option F)
    (callocOk : Bool) :
    (childSetup (processClient packet client unopened) opened callocOk).state ≠ .filename := by
  simp only [childSetup, processClient, filenameState]
  cases opened with
  | none =>
      intro h
      cases h
  | some file =>
      intro h
      dsimp only at h
      split at h <;> cases h

/-- The transcript of every run of a child, for any first packet and any answers of the system. -/
theorem child_transcript (write : F → Bytes → Int × F) (packet : Bytes) (client : Addr)
    (unopened : F) (opened : Option F) (callocOk : Bool) (es : List PollEvent) :
    ∃ controls k, ChildScript (es.countP isEof)
      (feed (childStep write) (childSetup (processClient packet client unopened) opened callocOk) es)
      controls k := by
  have htalk := childTalk_feed write es
    ((childTalk_processClient packet client unopened).setup opened callocOk)
  rw [Nat.zero_add] at htalk
  refine htalk.script ?_
  exact @feed_invariant _ _ (childStep write) (fun child => child.state ≠ .filename)
    (fun _ ev h => childStep_ne_filename h ev) es _
    (state_childSetup_ne packet client unopened opened callocOk)

end Child

end SelectiveReject
