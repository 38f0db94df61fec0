/-
# `SelectiveReject.EndToEnd` — one rcopy, one child, any network

Two theorems about every state that a session with one child reaches, whatever the network loses,
repeats, delays, reorders or damages:

    end_to_end      the output file is the chunks below `expected`, and the whole input file
                    once process_file has returned 0
    windows_agree   window.lower ≤ expected ≤ window.current ≤ window.lower + W, and what
                    the datagrams in flight say fits into it

Both read the invariant of `SelectiveReject.Agreement` off a state.  `process_file` returns 0 only
behind a `send_final_done`, and the EOF before it is sent only when the window is empty and the file
read to its end; the chain then leaves nothing between `expected` and the number of chunks.
-/
import SelectiveReject.Agreement
import SelectiveReject.RejectDiscipline

namespace SelectiveReject

open DirectMap Machine Reassembly

/-! ## What is below the gap -/

section Stored

variable {session : Session} {log : List Sent} {got : Nat → Option Bytes} {gap : Nat}

theorem Stored.eq_chunk (h : Stored session log got) (hgap : IsGap got 2 gap) {k : Nat}
    (hlo : 2 ≤ k) (hlt : k < gap) : got k = session.chunks[k - 2]? := by
  obtain ⟨data, hdata⟩ := Option.ne_none_iff_exists'.mp (hgap.full k hlo hlt)
  rw [hdata, (h k data hdata).1]

theorem Stored.gap_le (h : Stored session log got) (hgap : IsGap got 2 gap) :
    gap ≤ 2 + session.chunks.length := by
  by_contra hlt
  have hchunk := h.eq_chunk hgap (k := session.chunks.length + 2) (by omega) (by omega)
  have hfull := hgap.full (session.chunks.length + 2) (by omega) (by omega)
  rw [hchunk, Nat.add_sub_cancel, List.getElem?_eq_none (Nat.le_refl _)] at hfull
  exact hfull rfl

theorem Stored.gap_le_current {n : Nat} {info : RcopyInfo} (h : Stored session info.sent got)
    (hgap : IsGap got 2 gap) (htransfer : TransferInv session n info) :
    gap ≤ info.window.current.toNat := by
  have hcurrent := htransfer.current_eq
  have hlt := info.window.current.toNat_lt
  by_contra hgap_lt
  have hfull := hgap.full info.window.current.toNat (by omega) (by omega)
  obtain ⟨data, hdata⟩ := Option.ne_none_iff_exists'.mp hfull
  have hsent := htransfer.lt_of_dataSent hlt (h _ data hdata).2
  omega

end Stored

section Contents

variable {session : Session} {net : Network}

theorem ChildInv.expected_exited {log : List Sent} {child : Child OutFile}
    (h : ChildInv session log child) (hexited : child.state = .exited) :
    child.info.buffer = .null := by
  cases h with
  | exited h hbuffer hlog => exact hbuffer
  | _ => cases hexited

/-- The file of the accepted child is the chunks below its `expected`. -/
theorem Serves.contents (hnet : NetInv session net) {c : Nat} {child : Child OutFile}
    (h : Serves session net c child) :
    net.files session.outName
      = (session.chunks.take (child.info.buffer.expected.toNat - 2)).flatten := by
  have hchild := hnet.children child (List.mem_of_getElem? h.get)
  have hload : (net.load child).info.outputFile.contents = net.files session.outName := by
    show net.files (fileName child.info) = _
    rw [hchild.base.fileName_eq]
  rw [← hload]
  rcases h.written with ⟨hexited, hempty⟩ | ⟨got, hrec, hstored⟩
  · rw [hempty, hchild.expected_exited hexited]
    rfl
  · have hgap := hrec.buffer.gap
    rw [hrec.contents]
    exact joined_eq_flatten_take hgap.le (hstored.gap_le hgap)
      fun k hlo hlt => hstored.eq_chunk hgap hlo hlt

/-- `process_file` returns 0 only with everything read and acknowledged. -/
theorem RcopyInv.closed_of_processFile {rcopy : Rcopy} (h : RcopyInv session rcopy)
    (hresult : processFile rcopy = some 0) :
    ∃ n, TransferInv session n rcopy.info ∧ Closed session n rcopy.info.window := by
  cases h with
  | finished h hclosed => exact ⟨_, h, hclosed⟩
  | refused _ herr =>
      rw [processFile, if_pos herr] at hresult
      cases hresult
  | failed _ herr =>
      rw [processFile, if_pos herr] at hresult
      cases hresult
  | _ => cases hresult

theorem Serves.file_of_processFile (hnet : NetInv session net) {c : Nat} {child : Child OutFile}
    (h : Serves session net c child) (hresult : processFile net.rcopy = some 0) :
    net.files session.outName = session.file := by
  obtain ⟨n, htransfer, hclosed⟩ := hnet.rcopy.closed_of_processFile hresult
  have hcurrent := htransfer.current_eq
  have hlower := h.lower
  rw [hclosed.2, hcurrent, hclosed.1] at hlower
  rw [h.contents hnet, Session.file, List.take_of_length_le]
  omega

theorem Waits.not_processFile (hnet : NetInv session net) (h : Waits session net) :
    processFile net.rcopy ≠ some 0 := by
  intro hresult
  obtain ⟨n, htransfer, _⟩ := hnet.rcopy.closed_of_processFile hresult
  exact htransfer.accepted h.accepted

theorem Session.Run.file_of_processFile {files : Bytes → Bytes}
    (h : session.Run files (Quiet session) net) (hresult : processFile net.rcopy = some 0) :
    net.files session.outName = session.file := by
  obtain ⟨hnet, hwaits | ⟨c, child, hserves⟩⟩ := Session.Run.joint h
  · exact absurd hresult (hwaits.not_processFile hnet)
  · exact hserves.file_of_processFile hnet hresult

theorem eq_of_one_child (hone : net.children.length ≤ 1) {n m : Nat} {child other : Child OutFile}
    (h : net.children[n]? = some child) (h' : net.children[m]? = some other) : other = child := by
  obtain ⟨hn, _⟩ := List.getElem?_eq_some_iff.mp h
  obtain ⟨hm, _⟩ := List.getElem?_eq_some_iff.mp h'
  obtain rfl : n = m := by omega
  exact Option.some.inj (h'.symm.trans h)

end Contents

/-! ## End to end -/

/-- The file is a prefix of the input, chunk by chunk, and all of it when `process_file` says
so. -/
theorem end_to_end {session : Session} {files : Bytes → Bytes} {net : Network}
    (hrun : session.Reach files net) (hone : net.children.length ≤ 1) :
    (∀ child ∈ net.children, child.Opened →
      net.files session.outName
          = (session.chunks.take (child.info.buffer.expected.toNat - 2)).flatten ∧
        net.files session.outName <+: session.file) ∧
    (processFile net.rcopy = some 0 → net.files session.outName = session.file) := by
  obtain ⟨hnet, hjoint⟩ := Session.Run.joint (Session.Reach.quiet hrun hone)
  have hprefix : ∀ n, (session.chunks.take n).flatten <+: session.file := by
    intro n
    refine ⟨(session.chunks.drop n).flatten, ?_⟩
    rw [← List.flatten_append, List.take_append_drop]
    rfl
  rcases hjoint with hwaits | ⟨c, child, hserves⟩
  · constructor
    · intro child hmem hopened
      have hzero : child.info.buffer.expected.toNat - 2 = 0 :=
        Nat.sub_eq_zero_of_le (hwaits.idle child hmem).expected
      rw [hwaits.empty child hmem hopened, hzero]
      exact ⟨rfl, hprefix 0⟩
    · intro hresult
      exact absurd hresult (hwaits.not_processFile hnet)
  · constructor
    · intro other hmem _
      obtain ⟨k, hk⟩ := List.mem_iff_getElem?.mp hmem
      obtain rfl := eq_of_one_child hone hserves.get hk
      have hcontents := hserves.contents hnet
      exact ⟨hcontents, hcontents ▸ hprefix _⟩
    · exact hserves.file_of_processFile hnet

/-- One byte to copy into the file "a", with a window of two. -/
def letterSession : Session :=
  { outName := [97], windowSize := 2, bufferSize := 2, chunks := [[65]], callocOk := true
    name_ok := by decide, window_ok := by decide, buffer_ok := by decide, chunks_ok := by decide }

def letterRun : List Label :=
  [.serverRecv .rcopy letterSession.filenamePacket, .childSetup 0 true true,
    .rcopyRecv (.child 0) (builtPacket 1 flagFilenameResp [0]),
    .childRecv 0 .rcopy (builtPacket 2 flagData [65]),
    .rcopyRecv (.child 0) (builtPacket 2 flagRr (htonl 3)), .rcopyTimeout,
    .childRecv 0 .rcopy (builtPacket 3 flagEof []),
    .rcopyRecv (.child 0) (builtPacket 3 flagEofAck [])]

theorem end_to_end_letter :
    ∃ net, exec Network.next (letterSession.network fun _ => [1, 2]) letterRun = some net ∧
      processFile net.rcopy = some 0 ∧ net.files [97] = [65] := by
  have hexec : (exec Network.next (letterSession.network fun _ => [1, 2]) letterRun).map
      (fun net => (net.children.length, processFile net.rcopy)) = some (1, some 0) := by
    decide +kernel
  obtain ⟨net, hnet, heq⟩ := Option.map_eq_some_iff.mp hexec
  obtain ⟨hone, hresult⟩ := Prod.mk.inj heq
  exact ⟨net, hnet, hresult,
    (end_to_end (Steps.of_exec hnet) (Nat.le_of_eq hone)).2 hresult⟩

/-! ## The windows -/

section Windows

variable {session : Session} {net : Network}

theorem RcopyInv.transfer_of_window {rcopy : Rcopy} (h : RcopyInv session rcopy)
    (hwindow : rcopy.info.window ≠ .null) : ∃ n, TransferInv session n rcopy.info := by
  cases h with
  | filename h => exact absurd h.window hwindow
  | refused h herr => exact absurd h.window hwindow
  | exited _ hnull _ _ => exact absurd hnull hwindow
  | sendData h => exact ⟨_, h⟩
  | waitOnAck h => exact ⟨_, h⟩
  | sendEof h hclosed => exact ⟨_, h⟩
  | failed h herr => exact ⟨_, h⟩
  | finished h hclosed => exact ⟨_, h⟩

theorem windowFind_null (seq : UInt32) : windowFind .null seq = none := rfl

theorem ChildInv.opened_of_buffer {log : List Sent} {child : Child OutFile}
    (h : ChildInv session log child) (hbuffer : child.info.buffer ≠ .null) :
    2 ≤ child.info.buffer.expected.toNat := by
  rcases h.null_or_serving with ⟨hnull, _⟩ | hserving
  · exact absurd hnull hbuffer
  · obtain ⟨got, hinv, _⟩ := hserving.stored
    exact hinv.gap.le

theorem ChildInv.serving_of_recvData {log : List Sent} {child : Child OutFile}
    (h : ChildInv session log child) (hstate : child.state = .recvData) :
    ∃ got, BufferInv session.windowSize got child.info.buffer := by
  cases h with
  | recvData h =>
      obtain ⟨got, hbuffer, _⟩ := h.stored
      exact ⟨got, hbuffer⟩
  | _ => cases hstate

theorem of_controlValue {flag : UInt8} {packet : Bytes} {value : UInt32}
    (h : controlValue flag packet = some value) :
    getFlag packet = flag ∧ readU32 packet srejHeaderLen = value := by
  rw [controlValue] at h
  split at h
  · exact ⟨by assumption, Option.some.inj h⟩
  · cases h

theorem ChildInv.srej_lt {log : List Sent} {child : Child OutFile} (h : ChildInv session log child)
    {entry : SentAt OutFile} (hentry : entry ∈ child.info.log)
    (hflag : getFlag entry.sent.packet = flagSrej) :
    ∃ k, (readU32 entry.sent.packet srejHeaderLen).toNat < k ∧ k < 2 ^ 32 ∧
      DataSent session log k := by
  have hserving := h.serving_of_flag hentry (by rw [hflag]; decide)
  have hpacket := hserving.packets entry hentry
  generalize entry.sent.packet = packet at hpacket hflag ⊢
  cases hpacket with
  | resp num =>
      have hlen : [(0 : UInt8)].length ≤ srejMaxData := Nat.le_of_ble_eq_true rfl
      rw [getFlag_builtPacket num flagFilenameResp hlen] at hflag
      exact absurd hflag (by decide)
  | rr num hlo hle =>
      rw [getFlag_builtPacket num flagRr (length_htonl_le _)] at hflag
      exact absurd hflag (by decide)
  | srej num hlt hk hsent =>
      rw [readU32_builtPacket_htonl]
      exact ⟨_, hlt, hk, hsent⟩
  | eofAck num heof =>
      rw [getFlag_builtPacket num flagEofAck (Nat.zero_le _)] at hflag
      exact absurd hflag (by decide)

theorem RcopyInv.transfer_of_dataSent {rcopy : Rcopy} (h : RcopyInv session rcopy) {k : Nat}
    (hsent : DataSent session rcopy.info.sent k) : ∃ n, TransferInv session n rcopy.info := by
  rcases h.sent_cases with htransfer | hall
  · exact htransfer
  · obtain ⟨sent, hmem, chunk, hchunk, hpacket⟩ := hsent
    have hflag := getFlag_builtPacket (UInt32.ofNat k) flagData
      (session.chunk_length (List.mem_of_getElem? hchunk)).2
    rw [← hpacket, hall sent hmem, session.getFlag_filenamePacket] at hflag
    exact absurd hflag (by decide)

theorem Serves.chain (hnet : NetInv session net) {c n : Nat} {child : Child OutFile}
    (h : Serves session net c child) (htransfer : TransferInv session n net.rcopy.info)
    (hexpected : 2 ≤ child.info.buffer.expected.toNat) :
    net.rcopy.info.window.lower.toNat ≤ child.info.buffer.expected.toNat ∧
      child.info.buffer.expected.toNat ≤ net.rcopy.info.window.current.toNat := by
  have hchild := hnet.children child (List.mem_of_getElem? h.get)
  obtain ⟨got, hbuffer, hstored⟩ := hchild.stored_of_opened hexpected
  refine ⟨?_, hstored.gap_le_current hbuffer.gap htransfer⟩
  rw [← max_eq_right hexpected]
  exact h.lower

/-- What an RR releases has been written. -/
theorem Serves.released {net' : Network} (hnet : NetInv session net) {c n : Nat}
    {child : Child OutFile} (h : Serves session net c child)
    (htransfer : TransferInv session n net.rcopy.info) {src : Addr} {packet : Bytes}
    (hdel : net.deliverable src .rcopy packet = true)
    (hquiet : net.rcopy.Waiting → src = .child c)
    (hstep : net' = { net with rcopy := rcopyStep net.rcopy (.recv src packet) }) {seq : UInt32}
    (hheld : (windowFind net.rcopy.info.window seq).isSome = true)
    (hfreed : windowFind net'.rcopy.info.window seq = none) :
    (session.chunks.take (seq.toNat - 1)).flatten <+: net.files session.outName := by
  obtain ⟨hle, hlt⟩ := (htransfer.window.find_isSome_iff seq).mp hheld
  have hserves := h.recv hnet hdel hquiet
  subst hstep
  rcases rcopyStep_recv net.rcopy src packet with
    ⟨_, hsame⟩ | ⟨_, ⟨_, hwindow⟩ | ⟨_, _, hrr⟩⟩ | ⟨⟨name, tries, hstate⟩, _⟩
  · simp only [hsame] at hfreed
    rw [hfreed] at hheld
    cases hheld
  · simp only [hwindow] at hfreed
    rw [hfreed] at hheld
    cases hheld
  · have hlower := hserves.lower
    simp only [hrr] at hfreed hlower
    have hinv := htransfer.window.rr (readU32 packet srejHeaderLen)
    have hcurrent := htransfer.window.rr_current (readU32 packet srejHeaderLen)
    have hnot : ¬ (windowFind (windowRr net.rcopy.info.window (readU32 packet srejHeaderLen))
        seq).isSome = true := by
      rw [hfreed]
      exact Bool.false_ne_true
    rw [hinv.find_isSome_iff, hcurrent] at hnot
    have hseq : seq < (windowRr net.rcopy.info.window (readU32 packet srejHeaderLen)).lower :=
      UInt32.not_le.mp fun hge => hnot ⟨hge, hlt⟩
    have hfirst := htransfer.window.first_le
    have hle' := UInt32.le_iff_toNat_le.mp hle
    have hseq' := UInt32.lt_iff_toNat_lt.mp hseq
    have hidx : seq.toNat - 1 ≤ child.info.buffer.expected.toNat - 2 := by omega
    rw [h.contents hnet, ← List.take_append_drop (seq.toNat - 1)
      (session.chunks.take (child.info.buffer.expected.toNat - 2)), List.flatten_append,
      List.take_take, Nat.min_eq_left hidx]
    exact List.prefix_append _ _
  · have hsetup := hnet.rcopy.setup_of_filename hstate
    exact absurd hsetup.accepted htransfer.accepted

theorem RcopyInv.data_below {rcopy : Rcopy} (h : RcopyInv session rcopy) {sent : Sent}
    (hsent : sent ∈ rcopy.info.sent) (hflag : getFlag sent.packet = flagData) :
    ∃ n, TransferInv session n rcopy.info ∧ getSeq sent.packet < rcopy.info.window.current ∧
      ∃ chunk, session.chunks[(getSeq sent.packet).toNat - 2]? = some chunk ∧
        sent.packet = builtPacket (getSeq sent.packet) flagData chunk := by
  obtain ⟨n, i, chunk, htransfer, hi, hget, hpacket⟩ := h.data_of_flag hsent hflag
  have hlen := (session.chunk_length (List.mem_of_getElem? hget)).2
  have hcurrent := htransfer.current_eq
  have hlt := rcopy.info.window.current.toNat_lt
  have hseq : (getSeq sent.packet).toNat = i + 2 := by
    rw [hpacket, getSeq_builtPacket _ _ hlen, Counter.toNat_ofNat (by omega)]
  refine ⟨n, htransfer, UInt32.lt_iff_toNat_lt.mpr (by omega), chunk, ?_, ?_⟩
  · rw [hseq, Nat.add_sub_cancel]
    exact hget
  · rw [hpacket, getSeq_builtPacket _ _ hlen]

theorem NetInv.srej_lt_current (hnet : NetInv session net) {child : Child OutFile}
    (hmem : child ∈ net.children) {entry : SentAt OutFile} (hentry : entry ∈ child.info.log)
    (hflag : getFlag entry.sent.packet = flagSrej) :
    readU32 entry.sent.packet srejHeaderLen < net.rcopy.info.window.current := by
  obtain ⟨k, hlt, hk, hdata⟩ := (hnet.children child hmem).srej_lt hentry hflag
  obtain ⟨n, htransfer⟩ := hnet.rcopy.transfer_of_dataSent hdata
  have hcurrent := htransfer.lt_of_dataSent hk hdata
  have hcurrent' := htransfer.current_eq
  exact UInt32.lt_iff_toNat_lt.mpr (by omega)

/-- Between `expected` and `current` nothing is beyond the receiver's window, while the numbers
last. -/
theorem Serves.in_window (hnet : NetInv session net) {c n : Nat} {child : Child OutFile}
    (h : Serves session net c child) (htransfer : TransferInv session n net.rcopy.info)
    (hroom : session.chunks.length + session.windowSize.toInt.toNat + 2 < 2 ^ 32)
    (hstate : child.state = .recvData) {seq : UInt32} (hle : child.info.buffer.expected ≤ seq)
    (hlt : seq < net.rcopy.info.window.current) : bufferInWindow child.info.buffer seq = true := by
  have hchild := hnet.children child (List.mem_of_getElem? h.get)
  obtain ⟨got, hbuffer⟩ := hchild.serving_of_recvData hstate
  obtain ⟨hlower, hexpected⟩ := h.chain hnet htransfer hbuffer.gap.le
  have hcurrent := htransfer.current_eq
  have hspan := htransfer.window.span
  have hn := htransfer.le
  have hseq := UInt32.lt_iff_toNat_lt.mp hlt
  refine (hbuffer.inWindow_iff seq).mpr ⟨UInt32.le_iff_toNat_le.mp hle, ?_, ?_⟩ <;> omega

/-- Sender and receiver agree on where they are, and so does everything in flight. -/
theorem windows_agree {files : Bytes → Bytes} (hrun : session.Reach files net)
    (hone : net.children.length ≤ 1)
    (hroom : session.chunks.length + session.windowSize.toInt.toNat + 2 < 2 ^ 32)
    {child : Child OutFile} (hchild : net.children[0]? = some child) :
    (net.rcopy.info.window ≠ .null → child.info.buffer ≠ .null →
      net.rcopy.info.window.lower ≤ child.info.buffer.expected ∧
      child.info.buffer.expected ≤ net.rcopy.info.window.current ∧
      net.rcopy.info.window.current.toNat
        ≤ net.rcopy.info.window.lower.toNat + session.windowSize.toInt.toNat) ∧
    (∀ sent ∈ net.rcopy.info.sent, getFlag sent.packet = flagData →
      getSeq sent.packet < net.rcopy.info.window.current ∧
      ∃ chunk, session.chunks[(getSeq sent.packet).toNat - 2]? = some chunk ∧
        sent.packet = builtPacket (getSeq sent.packet) flagData chunk) ∧
    (∀ sent ∈ child.info.sent, ∀ value, controlValue flagRr sent.packet = some value →
      2 ≤ value ∧ value ≤ child.info.buffer.expected) ∧
    (∀ sent ∈ child.info.sent, ∀ value, controlValue flagSrej sent.packet = some value →
      value < net.rcopy.info.window.current) ∧
    (∀ src packet, net.deliverable src (.child 0) packet = true → checkPacket packet = true →
      getFlag packet = flagData → child.state = .recvData →
      child.info.buffer.expected ≤ getSeq packet →
      bufferInWindow child.info.buffer (getSeq packet) = true) ∧
    (∀ src packet net' seq, net.next (.rcopyRecv src packet) = some net' →
      (windowFind net.rcopy.info.window seq).isSome = true →
      windowFind net'.rcopy.info.window seq = none →
      (session.chunks.take (seq.toNat - 1)).flatten <+: net.files session.outName) := by
  have hquiet := Session.Reach.quiet hrun hone
  obtain ⟨hnet, hjoint⟩ := Session.Run.joint hquiet
  have hinv := hnet.children child (List.mem_of_getElem? hchild)
  -- in the transfer the child is the accepted one
  have hserves : ∀ {n}, TransferInv session n net.rcopy.info → Serves session net 0 child := by
    intro n htransfer
    rcases hjoint with hwaits | ⟨c, other, hserves⟩
    · exact absurd hwaits.accepted htransfer.accepted
    · obtain ⟨hlt, _⟩ := List.getElem?_eq_some_iff.mp hserves.get
      obtain rfl : c = 0 := by omega
      obtain rfl := Option.some.inj (hserves.get.symm.trans hchild)
      exact hserves
  refine ⟨?_, ?_, ?_, ?_, ?_, ?_⟩
  · intro hwindow hbuffer
    obtain ⟨n, htransfer⟩ := hnet.rcopy.transfer_of_window hwindow
    obtain ⟨hlower, hcurrent⟩ :=
      (hserves htransfer).chain hnet htransfer (hinv.opened_of_buffer hbuffer)
    exact ⟨UInt32.le_iff_toNat_le.mpr hlower, UInt32.le_iff_toNat_le.mpr hcurrent,
      htransfer.window.span⟩
  · intro sent hsent hflag
    obtain ⟨n, _, hbelow, hchunk⟩ := hnet.rcopy.data_below hsent hflag
    exact ⟨hbelow, hchunk⟩
  · intro sent hsent value hvalue
    obtain ⟨entry, hentry, rfl⟩ := List.mem_map.mp hsent
    obtain ⟨hflag, rfl⟩ := of_controlValue hvalue
    obtain ⟨hlo, hle⟩ := hinv.rr_le hentry hflag
    exact ⟨UInt32.le_iff_toNat_le.mpr hlo, UInt32.le_iff_toNat_le.mpr hle⟩
  · intro sent hsent value hvalue
    obtain ⟨entry, hentry, rfl⟩ := List.mem_map.mp hsent
    obtain ⟨hflag, rfl⟩ := of_controlValue hvalue
    exact hnet.srej_lt_current (List.mem_of_getElem? hchild) hentry hflag
  · intro src packet hdel hcheck hflag hstate hle
    obtain ⟨_, sent, hmem, _, hpacket⟩ := hnet.from_rcopy hdel (child_ne_rcopy 0)
    rw [← hpacket hcheck] at hflag hle ⊢
    obtain ⟨n, htransfer, hbelow, _⟩ := hnet.rcopy.data_below hmem hflag
    exact (hserves htransfer).in_window hnet htransfer hroom hstate hle hbelow
  · intro src packet net' seq hstep hheld hfreed
    have hwindow : net.rcopy.info.window ≠ .null := by
      intro hnull
      rw [hnull, windowFind_null] at hheld
      cases hheld
    obtain ⟨n, htransfer⟩ := hnet.rcopy.transfer_of_window hwindow
    have hlabel := quiet_of_one_child hnet hjoint hstep hone
    have h := hserves htransfer
    have hcases := Network.step_of_next hstep
    cases hcases with
    | rcopyRecv hdel =>
        exact h.released hnet htransfer hdel (hlabel _ h.accepted) rfl hheld hfreed

/-- In the middle of the session above: the data packet is in flight. -/
theorem windows_agree_letter :
    ∃ net child, exec Network.next (letterSession.network fun _ => [1, 2]) (letterRun.take 3)
        = some net ∧ net.children[0]? = some child ∧
      ∀ sent ∈ net.rcopy.info.sent, getFlag sent.packet = flagData →
        getSeq sent.packet < net.rcopy.info.window.current := by
  have hexec : (exec Network.next (letterSession.network fun _ => [1, 2]) (letterRun.take 3)).map
      (fun net => net.children.length) = some 1 := by
    decide +kernel
  obtain ⟨net, hnet, hone⟩ := Option.map_eq_some_iff.mp hexec
  obtain ⟨child, hchild⟩ : ∃ child, net.children[0]? = some child :=
    ⟨_, List.getElem?_eq_getElem (by omega)⟩
  have hroom : letterSession.chunks.length + letterSession.windowSize.toInt.toNat + 2 < 2 ^ 32 := by
    decide
  obtain ⟨_, hdata, _⟩ :=
    windows_agree (Steps.of_exec hnet) (Nat.le_of_eq hone) hroom hchild
  exact ⟨net, child, hnet, hchild, fun sent hsent hflag => (hdata sent hsent hflag).1⟩

end Windows

end SelectiveReject
