/-
# `SelectiveReject.Agreement` — what rcopy and the child it accepted know of each other

The processes of a session share three things: the datagrams in flight, the output file, and a
history.  `NetInv` is about each process alone; here is the chain that ties them together,

    window.lower ≤ expected ≤ window.current,   file = the chunks below expected,

with `lower` and `current` rcopy's and `expected` the accepted child's.  It needs the other
children out of the way.  `Quiet` is the assumption on the environment that keeps them there: after
the acceptance no other child truncates a file with something in it, and no datagram of another
child reaches rcopy.  With one child every run is quiet (`Session.Reach.quiet`).

    Waits    nobody is accepted: no child has written, and once one has opened, the file
             is empty
    Serves   child `c` is accepted: the chain holds, rcopy sends to `c` only, and the other
             children have written nothing
-/
import SelectiveReject.NetworkInv

namespace SelectiveReject

open DirectMap Machine Reassembly

/-! ## The assumption -/

/-- Once a child is accepted: rcopy hears from nobody else, and another child opens the file
only while it is empty. -/
def Quiet (session : Session) (net : Network) : Label → Prop
  | .rcopyRecv src _ =>
      ∀ peer, net.rcopy.info.accepted = some peer → net.rcopy.Waiting → src = peer
  | .childSetup n openOk _ =>
      ∀ peer, net.rcopy.info.accepted = some peer → openOk = true →
        peer = .child n ∨ net.files session.outName = []
  | .rcopyTimeout | .serverRecv _ _ | .childTimeout _ | .childRecv _ _ _ => True

/-! ## The invariant -/

/-- The child has opened the file: it has a buffer, or got no memory for one. -/
def Child.Opened (child : Child OutFile) : Prop :=
  child.state = .exited ∨ 2 ≤ child.info.buffer.expected.toNat

structure Child.Idle (child : Child OutFile) : Prop where
  expected : child.info.buffer.expected.toNat ≤ 2
  offset : child.info.outputFile.offset = 0

/-- The file of a child that has opened it: empty, or what the child has accepted below its
gap. -/
def Written (session : Session) (log : List Sent) (child : Child OutFile) : Prop :=
  (child.state = .exited ∧ child.info.outputFile.contents = []) ∨
    ∃ got, ReceiverInv session.windowSize got child.info ∧ Stored session log got

/-- No response accepted yet. -/
structure Waits (session : Session) (net : Network) : Prop where
  accepted : net.rcopy.info.accepted = none
  idle : ∀ child ∈ net.children, child.Idle
  empty : ∀ child ∈ net.children, child.Opened → net.files session.outName = []

/-- The response of child `c` is accepted. -/
structure Serves (session : Session) (net : Network) (c : Nat) (child : Child OutFile) : Prop where
  accepted : net.rcopy.info.accepted = some (.child c)
  get : net.children[c]? = some child
  written : Written session net.rcopy.info.sent (net.load child)
  server : net.rcopy.info.server = .child c
  sent : ∀ sent ∈ net.rcopy.info.sent,
    getFlag sent.packet = flagFilename ∨ sent.dst = .child c
  idle : ∀ n other, n ≠ c → net.children[n]? = some other → other.Idle
  lower : net.rcopy.info.window.lower.toNat ≤ max 2 child.info.buffer.expected.toNat

def Joint (session : Session) (net : Network) : Prop :=
  Waits session net ∨ ∃ c child, Serves session net c child

theorem Written.mono {session : Session} {log log' : List Sent} {child : Child OutFile}
    (h : Written session log child) (hlog : log ⊆ log') : Written session log' child := by
  rcases h with hexited | ⟨got, hrec, hstored⟩
  · exact .inl hexited
  · exact .inr ⟨got, hrec, hstored.mono hlog⟩

theorem Written.opened {session : Session} {log : List Sent} {net : Network}
    {child : Child OutFile} (h : Written session log (net.load child)) : child.Opened := by
  rcases h with ⟨hexited, _⟩ | ⟨got, hrec, _⟩
  · exact .inl hexited
  · exact .inr hrec.buffer.gap.le

theorem ChildInv.stored_of_opened {session : Session} {log : List Sent} {child : Child OutFile}
    (h : ChildInv session log child) (hexpected : 2 ≤ child.info.buffer.expected.toNat) :
    ∃ got, BufferInv session.windowSize got child.info.buffer ∧ Stored session log got := by
  rcases h.null_or_serving with ⟨hnull, _⟩ | hserving
  · rw [hnull] at hexpected
    exact absurd hexpected (by decide)
  · exact hserving.stored

theorem ChildInv.not_filename_of_opened {session : Session} {log : List Sent}
    {child : Child OutFile} (h : ChildInv session log child)
    (hexpected : 2 ≤ child.info.buffer.expected.toNat) : child.state ≠ .filename := by
  intro hstate
  cases h with
  | filename h hempty hbuffer =>
      rw [hbuffer] at hexpected
      exact absurd hexpected (by decide)
  | _ => cases hstate

/-! ## Steps of rcopy -/

section Rcopy

variable {session : Session} {net : Network}

theorem Waits.withRcopy (h : Waits session net) {rcopy : Rcopy}
    (haccepted : rcopy.info.accepted = net.rcopy.info.accepted) :
    Waits session { net with rcopy := rcopy } :=
  ⟨haccepted.trans h.accepted, h.idle, h.empty⟩

/-- A step that talks to the accepted child and leaves `lower` below its `expected`. -/
theorem Serves.withRcopy {c : Nat} {child : Child OutFile} (h : Serves session net c child)
    {rcopy : Rcopy} (haccepted : rcopy.info.accepted = net.rcopy.info.accepted)
    (hserver : rcopy.info.server = .child c)
    (hlog : net.rcopy.info.sent ⊆ rcopy.info.sent)
    (hsent : ∀ sent ∈ rcopy.info.sent, sent ∈ net.rcopy.info.sent ∨ sent.dst = .child c)
    (hlower : rcopy.info.window.lower.toNat ≤ max 2 child.info.buffer.expected.toNat) :
    Serves session { net with rcopy := rcopy } c child := by
  refine ⟨haccepted.trans h.accepted, h.get, h.written.mono hlog, hserver, ?_, h.idle, hlower⟩
  intro sent hmem
  rcases hsent sent hmem with hold | hdst
  · exact h.sent sent hold
  · exact .inr hdst

theorem Serves.talks {c : Nat} {child : Child OutFile} (h : Serves session net c child)
    {ev : PollEvent}
    (htalks : TalksTo (.child c) net.rcopy.info (rcopyStep net.rcopy ev).info) :
    Serves session { net with rcopy := rcopyStep net.rcopy ev } c child := by
  refine h.withRcopy htalks.accepted htalks.server (sent_subset_rcopyStep net.rcopy ev)
    htalks.sent ?_
  rw [htalks.lower]
  exact h.lower

theorem ChildInv.rr_le {log : List Sent} {child : Child OutFile} (h : ChildInv session log child)
    {entry : SentAt OutFile} (hentry : entry ∈ child.info.log)
    (hflag : getFlag entry.sent.packet = flagRr) :
    2 ≤ (readU32 entry.sent.packet srejHeaderLen).toNat ∧
      (readU32 entry.sent.packet srejHeaderLen).toNat ≤ child.info.buffer.expected.toNat := by
  have hserving := h.serving_of_flag hentry (by rw [hflag]; decide)
  have hpacket := hserving.packets entry hentry
  generalize entry.sent.packet = packet at hpacket hflag ⊢
  cases hpacket with
  | resp num =>
      have hlen : [(0 : UInt8)].length ≤ srejMaxData := Nat.le_of_ble_eq_true rfl
      rw [getFlag_builtPacket num flagFilenameResp hlen] at hflag
      exact absurd hflag (by decide)
  | rr num hlo hle =>
      rw [readU32_builtPacket_htonl]
      exact ⟨UInt32.le_iff_toNat_le.mp hlo, UInt32.le_iff_toNat_le.mp hle⟩
  | srej num hlt hk hsent =>
      rw [getFlag_builtPacket num flagSrej (length_htonl_le _)] at hflag
      exact absurd hflag (by decide)
  | eofAck num heof =>
      rw [getFlag_builtPacket num flagEofAck (Nat.zero_le _)] at hflag
      exact absurd hflag (by decide)

theorem ChildInv.opened_of_response {log : List Sent} {child : Child OutFile}
    (h : ChildInv session log child) {entry : SentAt OutFile} (hentry : entry ∈ child.info.log)
    (hvalue : entry.sent.packet.getD srejHeaderLen 0 = 0) : child.Opened := by
  have hserving : ∀ {state : ServerAt} {info : ServerInfo OutFile},
      ChildServing session log info → Child.Opened ⟨state, info⟩ := by
    intro state info hinfo
    obtain ⟨got, hbuffer, _⟩ := hinfo.stored
    exact .inr hbuffer.gap.le
  cases h with
  | filename h hempty hbuffer =>
      rw [hempty] at hentry
      cases hentry
  | refused h hbuffer hlog =>
      obtain ⟨num, hnum⟩ := hlog entry hentry
      have hlen : [(1 : UInt8)].length ≤ srejMaxData := Nat.le_of_ble_eq_true rfl
      have hdata := drop_builtPacket num flagFilenameResp hlen
      rw [hnum, List.getD_eq_getElem?_getD, ← Nat.add_zero srejHeaderLen, ← List.getElem?_drop,
        hdata] at hvalue
      exact absurd hvalue (by decide)
  | exited h hbuffer hlog => exact .inl rfl
  | recvData h => exact hserving h
  | waitOnDone h hlast => exact hserving h
  | done h => exact hserving h

theorem lower_windowInit {ok : Bool} {size : Int32} {startSeq : UInt32} {window : Window}
    (h : windowInit ok size startSeq = some window) : window.lower = startSeq := by
  simp only [windowInit] at h
  split at h
  · cases h
  · rw [← Option.some.inj h]

theorem RcopyInv.of_accepted {rcopy : Rcopy} (h : RcopyInv session rcopy)
    (haccepted : rcopy.info.accepted ≠ none) :
    (∃ n, TransferInv session n rcopy.info) ∨
      (rcopy.state = .exited ∧ rcopy.info.window = .null ∧
        ∀ sent ∈ rcopy.info.sent, sent.packet = session.filenamePacket) := by
  cases h with
  | filename h => exact absurd h.accepted haccepted
  | refused h herr => exact absurd h.accepted haccepted
  | exited hcalloc hwindow _ hsent => exact .inr ⟨rfl, hwindow, hsent⟩
  | sendData h => exact .inl ⟨_, h⟩
  | waitOnAck h => exact .inl ⟨_, h⟩
  | sendEof h hclosed => exact .inl ⟨_, h⟩
  | failed h herr => exact .inl ⟨_, h⟩
  | finished h hclosed => exact .inl ⟨_, h⟩

theorem RcopyInv.setup_of_accepted {rcopy : Rcopy} (h : RcopyInv session rcopy)
    (haccepted : rcopy.info.accepted = none) : SetupInv session rcopy.info := by
  cases h with
  | filename h => exact h
  | refused h herr => exact h
  | exited _ _ hsome _ => exact absurd haccepted hsome
  | sendData h => exact absurd haccepted h.accepted
  | waitOnAck h => exact absurd haccepted h.accepted
  | sendEof h hclosed => exact absurd haccepted h.accepted
  | failed h herr => exact absurd haccepted h.accepted
  | finished h hclosed => exact absurd haccepted h.accepted

theorem RcopyInv.setup_of_filename {rcopy : Rcopy} (h : RcopyInv session rcopy)
    {name : Bytes} {tries : Nat} (hstate : rcopy.state = .sendFilenamePacket name tries) :
    SetupInv session rcopy.info := by
  cases h with
  | filename h => exact h
  | _ => cases hstate

/-- A datagram in the transfer. -/
theorem Serves.recv (hnet : NetInv session net) {c : Nat} {child : Child OutFile}
    (h : Serves session net c child) {src : Addr} {packet : Bytes}
    (hdel : net.deliverable src .rcopy packet = true)
    (hquiet : net.rcopy.Waiting → src = .child c) :
    Serves session { net with rcopy := rcopyStep net.rcopy (.recv src packet) } c child := by
  rcases rcopyStep_recv net.rcopy src packet with
    ⟨_, hsame⟩ | ⟨hwait, ⟨htalks, _⟩ | ⟨hcheck, hflag, hrr⟩⟩ | ⟨⟨name, tries, hstate⟩, _⟩
  · rw [hsame]
    exact h
  · rw [hquiet hwait] at htalks ⊢
    exact h.talks htalks
  · -- an RR: what it carries is at most the `expected` of the child
    have hsrc := hquiet hwait
    obtain ⟨n, sender, hn, hget, entry, hentry, hpacket⟩ := hnet.from_child hdel
    obtain rfl := Addr.child.inj (hn.symm.trans hsrc)
    obtain rfl := Option.some.inj (hget.symm.trans h.get)
    have hvalue := (hnet.children sender (List.mem_of_getElem? hget)).rr_le hentry
      (by rw [hpacket hcheck]; exact hflag)
    rw [hpacket hcheck] at hvalue
    have haccepted : net.rcopy.info.accepted ≠ none := by
      rw [h.accepted]
      exact Option.some_ne_none _
    rcases hnet.rcopy.of_accepted haccepted with ⟨m, htransfer⟩ | ⟨hexited, _⟩
    · refine h.withRcopy (by rw [hrr]) (by rw [hrr, hsrc])
        (sent_subset_rcopyStep net.rcopy _) (fun sent hsent => .inl ?_) ?_
      · rw [hrr] at hsent
        exact hsent
      · have hlower := h.lower
        rw [hrr, htransfer.window.toNat_rr_lower, WindowInv.rrLower]
        exact Nat.max_le.mpr ⟨hlower, Nat.le_trans (Nat.min_le_left _ _)
          (Nat.le_trans hvalue.2 (Nat.le_max_right _ _))⟩
    · exact absurd hexited hwait.2
  · have hsetup := hnet.rcopy.setup_of_filename hstate
    exact absurd (hsetup.accepted.symm.trans h.accepted) (by simp)

/-- A datagram before the transfer: the response of a child may be accepted. -/
theorem Waits.recv (hnet : NetInv session net) (h : Waits session net) {src : Addr}
    {packet : Bytes} (hdel : net.deliverable src .rcopy packet = true) :
    Joint session { net with rcopy := rcopyStep net.rcopy (.recv src packet) } := by
  rcases rcopyStep_recv net.rcopy src packet with
    ⟨_, hsame⟩ | ⟨_, ⟨htalks, _⟩ | ⟨_, _, hrr⟩⟩ |
    ⟨⟨name, tries, hstate⟩, hcheck, _, hvalue, opened, haccepted, hlog, hwindow, htalks⟩
  · rw [hsame]
    exact .inl h
  · exact .inl (h.withRcopy htalks.accepted)
  · exact .inl (h.withRcopy (by rw [hrr]))
  · have hsetup := hnet.rcopy.setup_of_filename hstate
    obtain ⟨n, child, rfl, hget, entry, hentry, hpacket⟩ := hnet.from_child hdel
    rw [← hpacket hcheck] at hvalue
    have hmem := List.mem_of_getElem? hget
    have hchild := hnet.children child hmem
    have hidle := h.idle child hmem
    have hopened := hchild.opened_of_response hentry hvalue
    have hempty := h.empty child hmem hopened
    have hname := hchild.base.fileName_eq
    refine .inr ⟨n, child, htalks.accepted.trans haccepted, hget, ?_, htalks.server, ?_,
      fun k other _ hother => h.idle other (List.mem_of_getElem? hother), ?_⟩
    · refine Written.mono ?_ (sent_subset_rcopyStep net.rcopy _)
      have hcontents : (net.load child).info.outputFile.contents = [] := by
        show net.files (fileName child.info) = []
        rw [hname, hempty]
      show Written session net.rcopy.info.sent (net.load child)
      rcases hopened with hexited | hexpected
      · exact .inl ⟨hexited, hcontents⟩
      · have heq : child.info.buffer.expected.toNat = 2 :=
          Nat.le_antisymm hidle.expected hexpected
        obtain ⟨got, hbuffer, hstored⟩ := hchild.stored_of_opened hexpected
        refine .inr ⟨got, ⟨hbuffer, ?_, ?_⟩, hstored⟩
        · rw [hcontents]
          exact hidle.offset
        · rw [hcontents]
          show [] = joined got 2 child.info.buffer.expected.toNat
          rw [heq, joined_self]
    · intro sent hsent
      rcases htalks.sent sent hsent with hold | hdst
      · rw [hlog] at hold
        rw [hsetup.sent sent hold]
        exact .inl session.getFlag_filenamePacket
      · exact .inr hdst
    · rw [htalks.lower]
      refine Nat.le_trans ?_ (Nat.le_max_left _ _)
      rcases hwindow with hnull | hinit
      · rw [hnull, hsetup.window]
        exact Nat.zero_le 2
      · rw [lower_windowInit hinit, hsetup.controlSeq]
        exact Nat.le_refl 2

end Rcopy

/-! ## Steps of the children -/

def IsData {F : Type} (child : Child F) (ev : PollEvent) : Prop :=
  child.state = .recvData ∧ ∃ src packet, ev = .recv src packet ∧ checkPacket packet = true ∧
    getFlag packet = flagData

/-- Whatever else comes in, the buffer and the file stay. -/
structure Child.Keeps {F : Type} (child child' : Child F) : Prop where
  buffer : child'.info.buffer = child.info.buffer
  outputFile : child'.info.outputFile = child.info.outputFile
  exited : child'.state = .exited ↔ child.state = .exited

theorem keeps_of_ne {F : Type} {state state' : ServerAt} {info info' : ServerInfo F}
    (hbuffer : info'.buffer = info.buffer) (hfile : info'.outputFile = info.outputFile)
    (hstate : state ≠ .exited) (hstate' : state' ≠ .exited) :
    Child.Keeps ⟨state, info⟩ ⟨state', info'⟩ :=
  ⟨hbuffer, hfile, fun h => absurd h hstate', fun h => absurd h hstate⟩

theorem keeps_childStep {F : Type} (write : F → Bytes → Int × F) {child : Child F}
    {ev : PollEvent} (h : ¬ IsData child ev) : child.Keeps (childStep write child ev) := by
  obtain ⟨state, info⟩ := child
  have hsame : Child.Keeps ⟨state, info⟩ ⟨state, info⟩ := ⟨rfl, rfl, Iff.rfl⟩
  cases ev with
  | timeout =>
      cases state with
      | recvData => exact keeps_of_ne rfl rfl (by decide) (by decide)
      | waitOnDone =>
          simp only [childStep, waitOnDoneTimeout]
          split
          · exact keeps_of_ne rfl rfl (by decide) (by decide)
          · exact keeps_of_ne rfl rfl (by decide) (by decide)
      | filename => exact hsame
      | done => exact hsame
      | exited => exact hsame
  | recv src packet =>
      cases state with
      | recvData =>
          simp only [childStep, recvDataRecv]
          split
          · exact keeps_of_ne rfl rfl (by decide) (by decide)
          · rename_i hcheck
            split
            · rename_i hflag
              exact absurd ⟨rfl, src, packet, rfl, by simpa using hcheck, hflag⟩ h
            · split
              · exact keeps_of_ne rfl rfl (by decide) (by decide)
              · exact keeps_of_ne rfl rfl (by decide) (by decide)
      | waitOnDone =>
          simp only [childStep, waitOnDoneRecv]
          repeat' split
          all_goals exact keeps_of_ne rfl rfl (by decide) (by decide)
      | filename => exact hsame
      | done => exact hsame
      | exited => exact hsame

theorem Child.Keeps.opened_iff {child child' : Child OutFile} (h : child.Keeps child') :
    child'.Opened ↔ child.Opened := by
  rw [Child.Opened, Child.Opened, h.buffer, h.exited]

theorem Child.Keeps.idle {child child' : Child OutFile} (h : child.Keeps child')
    (hidle : child.Idle) : child'.Idle := by
  refine ⟨?_, ?_⟩
  · rw [h.buffer]
    exact hidle.expected
  · rw [h.outputFile]
    exact hidle.offset

theorem Child.Keeps.written {session : Session} {log : List Sent} {child child' : Child OutFile}
    (h : child.Keeps child') (hwritten : Written session log child) :
    Written session log child' := by
  rcases hwritten with ⟨hexited, hcontents⟩ | ⟨got, hrec, hstored⟩
  · refine .inl ⟨h.exited.mpr hexited, ?_⟩
    rw [h.outputFile]
    exact hcontents
  · refine .inr ⟨got, ⟨?_, ?_, ?_⟩, hstored⟩
    · rw [h.buffer]
      exact hrec.buffer
    · rw [h.outputFile]
      exact hrec.at_end
    · rw [h.outputFile, h.buffer]
      exact hrec.contents

section Children

variable {session : Session} {net : Network}

/-- `filename_state` leaves nothing written: nothing opened without a file, an empty file
otherwise. -/
theorem ChildInv.idle_setup {log : List Sent} {child : Child OutFile}
    (h : ChildInv session log child) (hstate : child.state = .filename) (hidle : child.Idle)
    (callocOk : Bool) :
    ((childSetup child none callocOk).Idle ∧ ¬ (childSetup child none callocOk).Opened) ∧
    ((childSetup child (some ⟨[], 0⟩) callocOk).Idle ∧
      (childSetup child (some ⟨[], 0⟩) callocOk).info.outputFile.contents = []) := by
  cases h with
  | @filename info h hempty hbuffer =>
      constructor
      · obtain ⟨w, b, hnone⟩ := filenameState_none info callocOk
        show (filenameState info none callocOk).Idle ∧ ¬ (filenameState info none callocOk).Opened
        rw [hnone]
        refine ⟨⟨hidle.expected, hidle.offset⟩, ?_⟩
        rintro (hexited | hexpected)
        · cases hexited
        · have hnull : info.buffer.expected.toNat = 0 := by
            rw [hbuffer]
            rfl
          exact absurd (hnull ▸ hexpected : 2 ≤ 0) (by decide)
      · obtain ⟨w, b, hsome⟩ := filenameState_some info ⟨[], 0⟩ callocOk
        show (filenameState info (some ⟨[], 0⟩) callocOk).Idle ∧
          (filenameState info (some ⟨[], 0⟩) callocOk).info.outputFile.contents = []
        rw [hsome]
        cases hinit : bufferInit callocOk (readU32 info.firstPacket srejHeaderLen).toInt32 2 with
        | none => exact ⟨⟨hidle.expected, rfl⟩, rfl⟩
        | some buffer =>
            refine ⟨⟨?_, rfl⟩, rfl⟩
            show buffer.expected.toNat ≤ 2
            rw [(bufferInit_eq_some hinit).2]
            exact Nat.le_refl 2
  | refused h hbuffer hlog => cases hstate
  | exited h hbuffer hlog => cases hstate
  | recvData h => cases hstate
  | waitOnDone h hlast => cases hstate
  | done h => cases hstate

theorem Waits.setChild (h : Waits session net) {n : Nat} {child' : Child OutFile}
    {files' : Bytes → Bytes} (hidle : child'.Idle)
    (hempty : ∀ other ∈ net.children.set n child', other.Opened → files' session.outName = []) :
    Waits session { net with children := net.children.set n child', files := files' } := by
  refine ⟨h.accepted, fun other hother => ?_, hempty⟩
  rcases List.mem_or_eq_of_mem_set hother with hold | rfl
  · exact h.idle other hold
  · exact hidle

theorem Serves.setOther (hnet : NetInv session net) {c : Nat} {child : Child OutFile}
    (h : Serves session net c child) {n : Nat} (hn : n ≠ c) {child' : Child OutFile}
    {files' : Bytes → Bytes} (hidle : child'.Idle)
    (hfiles : files' session.outName = net.files session.outName) :
    Serves session { net with children := net.children.set n child', files := files' } c child := by
  refine ⟨h.accepted, ?_, ?_, h.server, h.sent, fun k other hk hother => ?_, h.lower⟩
  · rw [List.getElem?_set_ne hn]
    exact h.get
  · have hname := (hnet.children child (List.mem_of_getElem? h.get)).base.fileName_eq
    have hload : Network.load { net with children := net.children.set n child', files := files' }
        child = net.load child := by
      simp only [Network.load, hname, hfiles]
    rw [hload]
    exact h.written
  · by_cases hkn : k = n
    · subst hkn
      rw [List.getElem?_set, if_pos rfl] at hother
      split at hother
      · rw [← Option.some.inj hother]
        exact hidle
      · cases hother
    · rw [List.getElem?_set_ne (Ne.symm hkn)] at hother
      exact h.idle k other hk hother

theorem NetInv.poll_keeps (h : NetInv session net) {n : Nat} {child : Child OutFile}
    (hget : net.children[n]? = some child) {ev : PollEvent} (hdata : ¬ IsData child ev)
    (hev : ChildInv session net.rcopy.info.sent (childStep OutFile.write (net.load child) ev)) :
    ∃ child', net.childPoll n ev = some { net with children := net.children.set n child' } ∧
      (net.load child).Keeps child' ∧ ChildInv session net.rcopy.info.sent child' := by
  have hkeeps : (net.load child).Keeps (childStep OutFile.write (net.load child) ev) :=
    keeps_childStep OutFile.write hdata
  refine ⟨_, ?_, hkeeps, hev⟩
  have hname := (h.children child (List.mem_of_getElem? hget)).base.fileName_eq
  simp only [Network.childPoll, hget, Network.store, hkeeps.outputFile, hev.base.fileName_eq]
  have hcontents : (net.load child).info.outputFile.contents = net.files session.outName := by
    show net.files (fileName child.info) = _
    rw [hname]
  rw [hcontents, Function.update_eq_self]

theorem not_isData_of_log {child : Child OutFile} {src : Addr} {packet : Bytes}
    (hpacket : checkPacket packet = true → getFlag packet ≠ flagData) :
    ¬ IsData child (.recv src packet) := by
  rintro ⟨_, src', packet', heq, hcheck, hflag⟩
  obtain ⟨rfl, rfl⟩ := PollEvent.recv.inj heq
  exact hpacket hcheck hflag

theorem not_isData_timeout {F : Type} {child : Child F} : ¬ IsData child .timeout := by
  rintro ⟨_, src, packet, heq, _⟩
  cases heq

def Brought (net : Network) (n : Nat) (ev : PollEvent) : Prop :=
  ev = .timeout ∨ ∃ packet, ev = .recv .rcopy packet ∧
    (checkPacket packet = true → ⟨.child n, packet⟩ ∈ net.rcopy.info.sent)

theorem NetInv.childInv_of_brought (h : NetInv session net) {n : Nat} {ev : PollEvent}
    (hev : Brought net n ev) {child : Child OutFile}
    (hchild : ChildInv session net.rcopy.info.sent child) :
    ChildInv session net.rcopy.info.sent (childStep OutFile.write (net.load child) ev) := by
  rcases hev with rfl | ⟨packet, rfl, hsent⟩
  · exact (hchild.load net).timeout
  · exact (hchild.load net).recv h.rcopy fun hcheck => ⟨_, hsent hcheck, rfl⟩

theorem Waits.poll (hnet : NetInv session net) (h : Waits session net) {n : Nat} {ev : PollEvent}
    (hev : Brought net n ev) {net' : Network} (hstep : net.childPoll n ev = some net') :
    Waits session net' := by
  cases hget : net.children[n]? with
  | none =>
      simp only [Network.childPoll, hget] at hstep
      cases hstep
  | some child =>
      have hmem := List.mem_of_getElem? hget
      have hdata : ¬ IsData child ev := by
        rcases hev with rfl | ⟨packet, rfl, hsent⟩
        · exact not_isData_timeout
        · refine not_isData_of_log fun hcheck => ?_
          have hsetup := hnet.rcopy.setup_of_accepted h.accepted
          rw [show packet = session.filenamePacket from hsetup.sent _ (hsent hcheck),
            session.getFlag_filenamePacket]
          decide
      obtain ⟨child', hpoll, hkeeps, _⟩ := hnet.poll_keeps hget hdata
        (hnet.childInv_of_brought hev (hnet.children child hmem))
      obtain rfl := Option.some.inj (hpoll.symm.trans hstep)
      have hloaded : (net.load child).Idle := ⟨(h.idle child hmem).expected, (h.idle child hmem).offset⟩
      refine h.setChild (hkeeps.idle hloaded) fun other hother hopened => ?_
      rcases List.mem_or_eq_of_mem_set hother with hold | rfl
      · exact h.empty other hold hopened
      · exact h.empty child hmem (hkeeps.opened_iff.mp hopened)

theorem Serves.setKeeps (hnet : NetInv session net) {c : Nat} {child child' : Child OutFile}
    (h : Serves session net c child) (hkeeps : (net.load child).Keeps child')
    (hchild' : ChildInv session net.rcopy.info.sent child') :
    Serves session { net with children := net.children.set c child' } c child' := by
  obtain ⟨hlt, _⟩ := List.getElem?_eq_some_iff.mp h.get
  have hname := (hnet.children child (List.mem_of_getElem? h.get)).base.fileName_eq
  refine ⟨h.accepted, ?_, ?_, h.server, h.sent, fun k other hk hother => ?_, ?_⟩
  · exact List.getElem?_set_self hlt
  · have hfile : (Network.load { net with children := net.children.set c child' }
        child').info.outputFile = (net.load child).info.outputFile := by
      simp only [Network.load, hkeeps.outputFile, hchild'.base.fileName_eq, hname]
    exact Child.Keeps.written ⟨hkeeps.buffer, hfile, hkeeps.exited⟩ h.written
  · rw [List.getElem?_set_ne (Ne.symm hk)] at hother
    exact h.idle k other hk hother
  · rw [hkeeps.buffer]
    exact h.lower

/-- A data packet for the accepted child. -/
theorem Serves.data (hnet : NetInv session net) {c : Nat} {child : Child OutFile}
    (h : Serves session net c child) {packet : Bytes} (hstate : child.state = .recvData)
    (hcheck : checkPacket packet = true) (hflag : getFlag packet = flagData)
    (hsent : ⟨.child c, packet⟩ ∈ net.rcopy.info.sent) {net' : Network}
    (hstep : net.childPoll c (.recv .rcopy packet) = some net') :
    ∃ child', Serves session net' c child' := by
  obtain ⟨hlt, _⟩ := List.getElem?_eq_some_iff.mp h.get
  have hchild := hnet.children child (List.mem_of_getElem? h.get)
  rcases h.written with ⟨hexited, _⟩ | ⟨got, hrec, hstored⟩
  · rw [show (net.load child).state = .recvData from hstate] at hexited
    cases hexited
  have hpoll : net.childPoll c (.recv .rcopy packet) = some (net.store c
      (recvDataRecv OutFile.write (net.load child).info .rcopy packet)) := by
    simp only [Network.childPoll, h.get, childStep]
    rw [show (net.load child).state = .recvData from hstate]
  rw [hpoll] at hstep
  obtain rfl := Option.some.inj hstep
  have hrecv := hrec.buffer.recvDataRecv OutFile.write_nonneg .rcopy packet
  rcases hrecv with ⟨_, _, info', hrecv, hbuffer', hfile, hhandled⟩ | ⟨_, heof, _⟩ | ⟨hother, _⟩
  · rw [hrecv]
    have hgrow := hrec.grow packet hbuffer' hfile
    have hstored' := hstored.accept hnet.rcopy hcheck (fun _ => ⟨_, hsent, rfl⟩) hflag
      (net.load child).info.buffer
    have hname : fileName info' = session.outName := by
      rw [fileName, hhandled.firstPacket_eq]
      exact hchild.base.fileName_eq
    have hfiles : Function.update net.files (fileName info') info'.outputFile.contents
        session.outName = info'.outputFile.contents := by
      rw [hname, Function.update_self]
    refine ⟨⟨.recvData, info'⟩, h.accepted, List.getElem?_set_self hlt, ?_, h.server, h.sent,
      fun k other hk hother => ?_, ?_⟩
    · refine .inr ⟨_, ⟨hgrow.buffer, ?_, ?_⟩, hstored'⟩
      · show info'.outputFile.offset = (Function.update net.files (fileName info')
          info'.outputFile.contents (fileName info')).length
        rw [Function.update_self]
        exact hgrow.at_end
      · show Function.update net.files (fileName info') info'.outputFile.contents
          (fileName info') = _
        rw [Function.update_self]
        exact hgrow.contents
    · have hother' : (net.children.set c ⟨.recvData, info'⟩)[k]? = some other := hother
      rw [List.getElem?_set_ne (Ne.symm hk)] at hother'
      exact h.idle k other hk hother'
    · have hle := UInt32.le_iff_toNat_le.mp (hrec.buffer.expected_le hbuffer')
      exact Nat.le_trans h.lower (max_le_max (Nat.le_refl 2) hle)
  · exact absurd (hflag.symm.trans heof) (by decide)
  · exact absurd hflag (hother hcheck).1

theorem Serves.poll (hnet : NetInv session net) {c : Nat} {child : Child OutFile}
    (h : Serves session net c child) {n : Nat} {ev : PollEvent} (hev : Brought net n ev)
    {net' : Network} (hstep : net.childPoll n ev = some net') :
    ∃ child', Serves session net' c child' := by
  cases hget : net.children[n]? with
  | none =>
      simp only [Network.childPoll, hget] at hstep
      cases hstep
  | some other =>
      have hother := hnet.children other (List.mem_of_getElem? hget)
      by_cases hn : n = c
      · subst hn
        obtain rfl := Option.some.inj (hget.symm.trans h.get)
        by_cases hdata : IsData other ev
        · obtain ⟨hstate, src, packet, rfl, hcheck, hflag⟩ := hdata
          rcases hev with heq | ⟨packet', heq, hsent⟩
          · cases heq
          · obtain ⟨rfl, rfl⟩ := PollEvent.recv.inj heq
            exact h.data hnet hstate hcheck hflag (hsent hcheck) hstep
        · obtain ⟨child', hpoll, hkeeps, hchild'⟩ := hnet.poll_keeps hget hdata
            (hnet.childInv_of_brought hev hother)
          obtain rfl := Option.some.inj (hpoll.symm.trans hstep)
          exact ⟨child', h.setKeeps hnet hkeeps hchild'⟩
      · have hdata : ¬ IsData other ev := by
          rcases hev with rfl | ⟨packet, rfl, hsent⟩
          · exact not_isData_timeout
          · refine not_isData_of_log fun hcheck => ?_
            rcases h.sent _ (hsent hcheck) with hname | hdst
            · rw [show getFlag packet = flagFilename from hname]
              decide
            · exact absurd (Addr.child.inj hdst) hn
        obtain ⟨child', hpoll, hkeeps, _⟩ := hnet.poll_keeps hget hdata
          (hnet.childInv_of_brought hev hother)
        obtain rfl := Option.some.inj (hpoll.symm.trans hstep)
        have hidle := h.idle n other hn hget
        have hloaded : (net.load other).Idle := ⟨hidle.expected, hidle.offset⟩
        exact ⟨child, h.setOther hnet hn (hkeeps.idle hloaded) rfl⟩

end Children

/-! ## Every quiet run -/

section Step

variable {session : Session} {net net' : Network}

theorem idle_of_processServer {src : Addr} {packet : Bytes} {child : Child OutFile}
    (hfork : processServer packet src ⟨[], 0⟩ = some child) : child.Idle ∧ ¬ child.Opened := by
  obtain rfl := eq_of_accepted hfork
  refine ⟨⟨Nat.zero_le 2, rfl⟩, ?_⟩
  rintro (hexited | hexpected)
  · cases hexited
  · exact absurd (show 2 ≤ 0 from hexpected) (by decide)

theorem NetInv.brought (hnet : NetInv session net) {n : Nat} {src : Addr} {packet : Bytes}
    (hdel : net.deliverable src (.child n) packet = true) : Brought net n (.recv src packet) := by
  obtain ⟨rfl, sent, hmem, hdst, hpacket⟩ := hnet.from_rcopy hdel (child_ne_rcopy n)
  refine .inr ⟨packet, rfl, fun hcheck => ?_⟩
  rw [← hdst, ← hpacket hcheck]
  exact hmem

theorem Waits.step (hnet : NetInv session net) (h : Waits session net) {label : Label}
    (hstep : net.next label = some net') : Joint session net' := by
  have hcases := Network.step_of_next hstep
  cases hcases with
  | rcopyTimeout => exact .inl (h.withRcopy (rcopyStep_timeout net.rcopy).accepted)
  | rcopyRecv hdel => exact h.recv hnet hdel
  | serverForks hdel hfork =>
      obtain ⟨hidle, hclosed⟩ := idle_of_processServer hfork
      refine .inl ⟨h.accepted, fun other hother => ?_, fun other hother hopened => ?_⟩
      all_goals rcases List.mem_append.mp hother with hold | hnew
      · exact h.idle other hold
      · rw [List.mem_singleton.mp hnew]
        exact hidle
      · exact h.empty other hold hopened
      · rw [List.mem_singleton.mp hnew] at hopened
        exact absurd hopened hclosed
  | serverIgnores hdel hnone => exact .inl h
  | @childOpens n callocOk child hget hstate =>
      have hmem := List.mem_of_getElem? hget
      have hchild := hnet.children child hmem
      obtain ⟨_, hopened, hempty⟩ := hchild.idle_setup hstate (h.idle child hmem) callocOk
      refine .inl (h.setChild hopened fun other _ _ => ?_)
      rw [(hchild.setup hstate (some ⟨[], 0⟩) callocOk).base.fileName_eq,
        Function.update_self, hempty]
  | @childRefuses n callocOk child hget hstate =>
      have hmem := List.mem_of_getElem? hget
      obtain ⟨⟨hrefused, hclosed⟩, _⟩ :=
        (hnet.children child hmem).idle_setup hstate (h.idle child hmem) callocOk
      refine .inl (h.setChild hrefused fun other hother hopened => ?_)
      rcases List.mem_or_eq_of_mem_set hother with hold | rfl
      · exact h.empty other hold hopened
      · exact absurd hopened hclosed
  | childTimeout hpoll => exact .inl (h.poll hnet (.inl rfl) hpoll)
  | childRecv hdel hpoll => exact .inl (h.poll hnet (hnet.brought hdel) hpoll)

theorem Serves.ne_of_filename (hnet : NetInv session net) {c n : Nat} {child other : Child OutFile}
    (h : Serves session net c child) (hget : net.children[n]? = some other)
    (hstate : other.state = .filename) : n ≠ c := by
  rintro rfl
  obtain rfl := Option.some.inj (hget.symm.trans h.get)
  rcases h.written.opened with hexited | hexpected
  · rw [hstate] at hexited
    cases hexited
  · exact (hnet.children other (List.mem_of_getElem? hget)).not_filename_of_opened hexpected hstate

theorem Serves.step (hnet : NetInv session net) {c : Nat} {child : Child OutFile}
    (h : Serves session net c child) {label : Label} (hquiet : Quiet session net label)
    (hstep : net.next label = some net') : ∃ child', Serves session net' c child' := by
  have hcases := Network.step_of_next hstep
  cases hcases with
  | rcopyTimeout =>
      refine ⟨child, h.talks ?_⟩
      rw [← h.server]
      exact rcopyStep_timeout net.rcopy
  | rcopyRecv hdel => exact ⟨child, h.recv hnet hdel (hquiet _ h.accepted)⟩
  | serverForks hdel hfork =>
      obtain ⟨hlt, _⟩ := List.getElem?_eq_some_iff.mp h.get
      obtain ⟨hidle, _⟩ := idle_of_processServer hfork
      refine ⟨child, h.accepted, (List.getElem?_append_left hlt).trans h.get, h.written, h.server,
        h.sent, fun k other hk hother => ?_, h.lower⟩
      rcases List.mem_append.mp (List.mem_of_getElem? hother) with hold | hnew
      · rcases Nat.lt_or_ge k net.children.length with hk' | hk'
        · rw [List.getElem?_append_left hk'] at hother
          exact h.idle k other hk hother
        · rw [List.getElem?_append_right hk'] at hother
          rw [List.mem_singleton.mp (List.mem_of_getElem? hother)]
          exact hidle
      · rw [List.mem_singleton.mp hnew]
        exact hidle
  | serverIgnores hdel hnone => exact ⟨child, h⟩
  | @childOpens n callocOk other hget hstate =>
      have hn := h.ne_of_filename hnet hget hstate
      have hother := hnet.children other (List.mem_of_getElem? hget)
      obtain ⟨_, hopened, hempty⟩ :=
        hother.idle_setup hstate (h.idle n other hn hget) callocOk
      refine ⟨child, h.setOther hnet hn hopened ?_⟩
      rw [(hother.setup hstate (some ⟨[], 0⟩) callocOk).base.fileName_eq, Function.update_self,
        hempty]
      rcases hquiet _ h.accepted rfl with heq | hnone
      · exact absurd (Addr.child.inj heq).symm hn
      · exact hnone.symm
  | @childRefuses n callocOk other hget hstate =>
      have hn := h.ne_of_filename hnet hget hstate
      have hother := hnet.children other (List.mem_of_getElem? hget)
      obtain ⟨⟨hrefused, _⟩, _⟩ := hother.idle_setup hstate (h.idle n other hn hget) callocOk
      exact ⟨child, h.setOther hnet hn hrefused rfl⟩
  | childTimeout hpoll => exact h.poll hnet (.inl rfl) hpoll
  | childRecv hdel hpoll => exact h.poll hnet (hnet.brought hdel) hpoll

theorem Joint.step (hnet : NetInv session net) (h : Joint session net) {label : Label}
    (hquiet : Quiet session net label) (hstep : net.next label = some net') :
    Joint session net' := by
  rcases h with hwaits | ⟨c, child, hserves⟩
  · exact hwaits.step hnet hstep
  · exact .inr ⟨c, hserves.step hnet hquiet hstep⟩

end Step

/-- Every quiet run keeps the chain. -/
theorem Session.Run.joint {session : Session} {files : Bytes → Bytes} {net : Network}
    (h : session.Run files (Quiet session) net) : NetInv session net ∧ Joint session net := by
  refine @Steps.invariant _ _ _ _ _ (fun net => NetInv session net ∧ Joint session net)
    ⟨@Session.Run.netInv session files (Quiet session) _ .refl, .inl ⟨rfl, ?_, ?_⟩⟩ ?_ _ h
  · intro child hchild
    cases hchild
  · intro child hchild
    cases hchild
  rintro net label net' ⟨hnet, hjoint⟩ hquiet hstep
  exact ⟨hnet.step hstep, hjoint.step hnet hquiet hstep⟩

/-! ## One child -/

theorem length_children_next {net net' : Network} {label : Label}
    (h : net.next label = some net') : net.children.length ≤ net'.children.length := by
  have hpoll : ∀ {n : Nat} {ev : PollEvent} {net' : Network}, net.childPoll n ev = some net' →
      net.children.length ≤ net'.children.length := by
    intro n ev net' hpoll
    obtain ⟨child, _, rfl⟩ := Network.childPoll_eq_some.mp hpoll
    exact Nat.le_of_eq List.length_set.symm
  have hcases := Network.step_of_next h
  cases hcases with
  | rcopyTimeout => exact Nat.le_refl _
  | rcopyRecv hdel => exact Nat.le_refl _
  | @serverForks src packet child hdel hfork =>
      show net.children.length ≤ (net.children ++ [child]).length
      rw [List.length_append]
      exact Nat.le_add_right _ _
  | serverIgnores hdel hnone => exact Nat.le_refl _
  | childOpens hget hstate => exact Nat.le_of_eq List.length_set.symm
  | childRefuses hget hstate => exact Nat.le_of_eq List.length_set.symm
  | childTimeout hstep => exact hpoll hstep
  | childRecv hdel hstep => exact hpoll hstep

theorem quiet_of_one_child {session : Session} {net net' : Network} {label : Label}
    (hnet : NetInv session net) (hjoint : Joint session net) (hstep : net.next label = some net')
    (hone : net.children.length ≤ 1) : Quiet session net label := by
  have hzero : ∀ {k : Nat} {child : Child OutFile}, net.children[k]? = some child → k = 0 := by
    intro k child hget
    obtain ⟨hlt, _⟩ := List.getElem?_eq_some_iff.mp hget
    omega
  have hpeer : ∀ peer, net.rcopy.info.accepted = some peer → peer = .child 0 := by
    intro peer haccepted
    rcases hjoint with hwaits | ⟨c, child, hserves⟩
    · rw [hwaits.accepted] at haccepted
      cases haccepted
    · obtain rfl := hzero hserves.get
      exact (Option.some.inj (hserves.accepted.symm.trans haccepted)).symm
  have hcases := Network.step_of_next hstep
  cases hcases with
  | rcopyRecv hdel =>
      intro peer haccepted _
      obtain ⟨k, child, rfl, hget, _⟩ := hnet.from_child hdel
      rw [hpeer peer haccepted, hzero hget]
  | childOpens hget hstate =>
      intro peer haccepted _
      rw [hpeer peer haccepted, hzero hget]
      exact .inl rfl
  | childRefuses hget hstate =>
      intro peer haccepted hopen
      cases hopen
  | rcopyTimeout => trivial
  | serverForks hdel hfork => trivial
  | serverIgnores hdel hnone => trivial
  | childTimeout hpoll => trivial
  | childRecv hdel hpoll => trivial

theorem Session.Reach.quiet {session : Session} {files : Bytes → Bytes} {net : Network}
    (h : session.Reach files net) (hone : net.children.length ≤ 1) :
    session.Run files (Quiet session) net := by
  refine @Steps.restrict _ _ _ _ _ _ (fun net : Network => net.children.length ≤ 1) ?_ ?_ _ h hone
  · intro net label net' hstep hone'
    exact Nat.le_trans (length_children_next hstep) hone'
  · intro net label net' hrun hstep hone'
    obtain ⟨hnet, hjoint⟩ := Session.Run.joint hrun
    exact quiet_of_one_child hnet hjoint hstep
      (Nat.le_trans (length_children_next hstep) hone')

end SelectiveReject
