/-
# `SelectiveReject.Injection` — the two programs over libcpe464 are the network of the model

`Network` promises that a datagram which arrives was sent, or is a copy of a sent one that
`check_packet` rejects.  Here that promise is derived.  Each process has its own libcpe464, every
`safeSendto` is a `sendtoErr`, and below the library is a network that loses, repeats,
delays and reorders, but alters nothing: what arrives has been handed to `sendto` by
the process it comes from (`wire`).

    the library drops a datagram       nothing is on the wire
    it flips a byte                    a copy is on the wire that check_packet rejects
    it does neither                    the datagram is on the wire

A child inherits the library of the server (`forkMod`) and sets it up once more.

**Proved here.**  Every run of this system is, for the processes, a run of `Network`
(`linked_simulated`): what is proved of its reachable states holds of the programs as
they are linked, for any error rates, seeds and environments.
-/
import SelectiveReject.EndToEnd
import SelectiveReject.SettingsManager

namespace SelectiveReject

open Machine

/-! ## The system -/

def Label.arrival : Label → Option (Addr × Sent)
  | .rcopyRecv src packet => some (src, ⟨.rcopy, packet⟩)
  | .serverRecv src packet => some (src, ⟨.server, packet⟩)
  | .childRecv n src packet => some (src, ⟨.child n, packet⟩)
  | .rcopyTimeout | .childSetup _ _ _ | .childTimeout _ => none

def Label.actor : Label → Addr
  | .rcopyTimeout | .rcopyRecv _ _ => .rcopy
  | .serverRecv _ _ => .server
  | .childSetup n _ _ | .childTimeout n | .childRecv n _ _ => .child n

/-- What the actor of `label` has sent on the way from `net` to `net'`. -/
def Network.news (net net' : Network) (label : Label) : List Sent :=
  (net'.sentBy label.actor).drop (net.sentBy label.actor).length

/-- How the two programs are started; the times are those of the library's constructor and of the
two calls in `sendErr_init`. -/
structure Launch where
  rcopyEnv : EnvData
  rcopyRate : Float
  rcopyTimes : Int × Int × Int
  serverEnv : EnvData
  serverRate : Float
  serverTimes : Int × Int × Int

/-- The processes, the library in each of them, and what has been handed to `sendto`, by whom. -/
structure Linked where
  net : Network
  rcopyLib : Libcpe464
  serverLib : Libcpe464
  childLibs : List Libcpe464
  wire : List (Addr × Sent)

/-- `sendtoErr` for each of `news`; the `sendto` below it sends all bytes. -/
def transmit (src : Addr) : Libcpe464 → List Sent → Libcpe464 × List (Addr × Sent)
  | lib, [] => (lib, [])
  | lib, sent :: news =>
      let answer := lib.mgr.sendtoErr sent.packet fun buf => buf.length
      let rest := transmit src { lib with mgr := answer.1 } news
      match answer.2.1 with
      | some out => (rest.1, (src, ⟨sent.dst, out⟩) :: rest.2)
      | none => rest

namespace Linked

/-- `sendtoErr_init(error_rate, DROP_ON, FLIP_ON, DEBUG_OFF, RSEED_ON)` -/
def sendtoErrInit (lib : Libcpe464) (errorRate : Float) (time time' : Int) : Libcpe464 :=
  lib.sendErrInit errorRate true true true time time'

/-- The library at the end of the `sendtoErr_init` in `main`. -/
def startLib (env : EnvData) (errorRate : Float) (times : Int × Int × Int) : Libcpe464 :=
  sendtoErrInit (Libcpe464.start env times.1) errorRate times.2.1 times.2.2

def start (session : Session) (files : Bytes → Bytes) (launch : Launch) : Linked :=
  let rcopyLib := startLib launch.rcopyEnv launch.rcopyRate launch.rcopyTimes
  let first := transmit .rcopy rcopyLib session.start.info.sent
  { net := session.network files
    rcopyLib := first.1
    serverLib := startLib launch.serverEnv launch.serverRate launch.serverTimes
    childLibs := []
    wire := first.2 }

/-- One step of a process, and what it sends goes through its library.  `time` and `time'` are
for the `sendtoErr_init` of a child that is forked. -/
def next (serverRate : Float) (linked : Linked) : Label × Int × Int → Option Linked
  | (label, time, time') =>
      if label.arrival.all (fun arrival => decide (arrival ∈ linked.wire)) = true then
        match linked.net.act label with
        | none => none
        | some net =>
            let news := linked.net.news net label
            match label.actor with
            | .rcopy =>
                let out := transmit .rcopy linked.rcopyLib news
                some { linked with net := net, rcopyLib := out.1, wire := linked.wire ++ out.2 }
            | .server =>
                if linked.net.children.length < net.children.length then
                  some
                    { linked with
                      net := net
                      serverLib := linked.serverLib.forkParent
                      childLibs := linked.childLibs ++
                        [sendtoErrInit linked.serverLib.forkChild serverRate time time'] }
                else some { linked with net := net }
            | .child n =>
                match linked.childLibs[n]? with
                | some lib =>
                    let out := transmit (.child n) lib news
                    some
                      { linked with
                        net := net
                        childLibs := linked.childLibs.set n out.1
                        wire := linked.wire ++ out.2 }
                | none => none
            | .other _ => none
      else none

end Linked

/-! ## Logs only grow -/

section Log

variable {F : Type}

theorem log_rejectIfNeeded_prefix {log : List (SentAt F)} {info : ServerInfo F}
    (h : log <+: info.log) : log <+: (rejectIfNeeded info).log := by
  simp only [rejectIfNeeded]
  split
  · exact h.trans (List.prefix_append _ _)
  · exact h

theorem log_handleDataPacket {write : F → Bytes → Int × F} {info info' : ServerInfo F}
    {packet : Bytes} (h : handleDataPacket write info packet = .ok info') :
    info.log <+: info'.log := by
  simp only [handleDataPacket] at h
  split at h
  · obtain rfl := Except.ok.inj h
    exact List.prefix_append _ _
  · split at h
    · obtain rfl := Except.ok.inj h
      exact List.prefix_append _ _
    · split at h
      · split at h
        · cases h
        · split at h
          · obtain rfl := Except.ok.inj h
            exact log_rejectIfNeeded_prefix (List.prefix_append _ _)
          · obtain rfl := Except.ok.inj h
            exact List.prefix_append _ _
      · obtain rfl := Except.ok.inj h
        exact log_rejectIfNeeded_prefix List.prefix_rfl

theorem log_childStep (write : F → Bytes → Int × F) (child : Child F) (ev : PollEvent) :
    child.info.log <+: (childStep write child ev).info.log := by
  obtain ⟨state, info⟩ := child
  cases ev with
  | timeout =>
      cases state with
      | waitOnDone =>
          simp only [childStep, waitOnDoneTimeout]
          split
          · exact List.prefix_rfl
          · exact List.prefix_append _ _
      | filename => exact List.prefix_rfl
      | recvData => exact List.prefix_rfl
      | done => exact List.prefix_rfl
      | exited => exact List.prefix_rfl
  | recv src packet =>
      cases state with
      | recvData =>
          simp only [childStep, recvDataRecv]
          split
          · exact List.prefix_rfl
          · split
            · split
              · rename_i failed hfail
                obtain ⟨_, buffer, file, rfl⟩ := handleDataPacket_error hfail
                exact List.prefix_rfl
              · rename_i info' hhandle
                have hlog := log_handleDataPacket hhandle
                exact hlog
            · split
              · exact List.prefix_append _ _
              · exact List.prefix_rfl
      | waitOnDone =>
          simp only [childStep, waitOnDoneRecv]
          split
          · exact List.prefix_rfl
          · split
            · exact List.prefix_rfl
            · split
              · exact List.prefix_append _ _
              · exact List.prefix_rfl
      | filename => exact List.prefix_rfl
      | done => exact List.prefix_rfl
      | exited => exact List.prefix_rfl

theorem log_childSetup (child : Child F) (opened : Option F) (callocOk : Bool) :
    child.info.log <+: (childSetup child opened callocOk).info.log := by
  obtain ⟨state, info⟩ := child
  cases state with
  | filename =>
      simp only [childSetup, filenameState]
      cases opened with
      | none => exact List.prefix_append _ _
      | some file =>
          dsimp only
          split
          · exact List.prefix_append _ _
          · exact List.prefix_append _ _
  | recvData => exact List.prefix_rfl
  | waitOnDone => exact List.prefix_rfl
  | done => exact List.prefix_rfl
  | exited => exact List.prefix_rfl

end Log

theorem sent_rcopyStep_prefix (rcopy : Rcopy) (ev : PollEvent) :
    rcopy.info.sent <+: (rcopyStep rcopy ev).info.sent := by
  obtain ⟨new, hnew, _⟩ := oblivious_rcopyStep rcopy.state ev rcopy.info []
  exact ⟨new, hnew.symm⟩

namespace Network

variable {net net' : Network} {n : Nat} {child child' : Child OutFile}

theorem sentBy_set (hget : net.children[n]? = some child)
    (hlog : child.info.log <+: child'.info.log) (files : Bytes → Bytes) (src : Addr) :
    net.sentBy src <+:
      sentBy { net with children := net.children.set n child', files := files } src := by
  cases src with
  | rcopy => exact List.prefix_rfl
  | server => exact List.prefix_rfl
  | other m => exact List.prefix_rfl
  | child m =>
      obtain ⟨hlt, _⟩ := List.getElem?_eq_some_iff.mp hget
      simp only [sentBy]
      rcases eq_or_ne n m with rfl | hne
      · rw [hget, List.getElem?_set_self hlt]
        exact hlog.map _
      · rw [List.getElem?_set_ne hne]

theorem sentBy_childPoll {ev : PollEvent} (h : net.childPoll n ev = some net') (src : Addr) :
    net.sentBy src <+: net'.sentBy src := by
  obtain ⟨child, hget, rfl⟩ := childPoll_eq_some.mp h
  exact sentBy_set hget (log_childStep OutFile.write (net.load child) ev) _ src

theorem sentBy_fork (net : Network) (child : Child OutFile) (src : Addr) :
    net.sentBy src <+: sentBy { net with children := net.children ++ [child] } src := by
  cases src with
  | rcopy => exact List.prefix_rfl
  | server => exact List.prefix_rfl
  | other m => exact List.prefix_rfl
  | child m =>
      simp only [sentBy]
      cases hget : net.children[m]? with
      | none => exact List.nil_prefix
      | some old =>
          obtain ⟨hlt, _⟩ := List.getElem?_eq_some_iff.mp hget
          rw [List.getElem?_append_left hlt, hget]

theorem sentBy_next {label : Label} (h : net.next label = some net') (src : Addr) :
    net.sentBy src <+: net'.sentBy src := by
  cases step_of_next h with
  | rcopyTimeout =>
      cases src with
      | rcopy => exact sent_rcopyStep_prefix net.rcopy .timeout
      | server => exact List.prefix_rfl
      | child m => exact List.prefix_rfl
      | other m => exact List.prefix_rfl
  | @rcopyRecv from_ packet hdel =>
      cases src with
      | rcopy => exact sent_rcopyStep_prefix net.rcopy (.recv from_ packet)
      | server => exact List.prefix_rfl
      | child m => exact List.prefix_rfl
      | other m => exact List.prefix_rfl
  | serverForks hdel hfork => exact sentBy_fork net _ src
  | serverIgnores hdel hnone => exact List.prefix_rfl
  | childOpens hget hstate => exact sentBy_set hget (log_childSetup _ _ _) _ src
  | childRefuses hget hstate => exact sentBy_set hget (log_childSetup _ _ _) _ src
  | childTimeout hpoll => exact sentBy_childPoll hpoll src
  | childRecv hdel hpoll => exact sentBy_childPoll hpoll src

/-- What the network promises is all that `next` asks for. -/
theorem next_of_act {label : Label} (h : net.act label = some net')
    (hdel : ∀ src sent, label.arrival = some (src, sent) →
      net.deliverable src sent.dst sent.packet = true) : net.next label = some net' := by
  cases label with
  | rcopyTimeout => exact h
  | rcopyRecv src packet => exact (if_pos (hdel src ⟨.rcopy, packet⟩ rfl)).trans h
  | serverRecv src packet => exact (if_pos (hdel src ⟨.server, packet⟩ rfl)).trans h
  | childSetup m openOk callocOk => exact h
  | childTimeout m => exact h
  | childRecv m src packet => exact (if_pos (hdel src ⟨.child m, packet⟩ rfl)).trans h

end Network

/-! ## What is sent is well formed -/

/-- A packet that `check_packet` accepts, and that fits into the buffers. -/
structure Whole (packet : Bytes) : Prop where
  checked : checkPacket packet = true
  fits : packet.length ≤ srejMaxPacket

theorem whole_builtPacket (seq : UInt32) (flag : UInt8) {data : Bytes}
    (h : data.length ≤ srejMaxData) : Whole (builtPacket seq flag data) := by
  refine ⟨checkPacket_builtPacket seq flag h, ?_⟩
  rw [length_builtPacket seq flag h]
  exact Nat.add_le_add_left h srejHeaderLen

theorem Whole.pos {packet : Bytes} (h : Whole packet) : 0 < packet.length := by
  obtain ⟨hlen, _⟩ := checkPacket_eq_true.mp h.checked
  exact Nat.lt_of_lt_of_le (Nat.zero_lt_succ _) hlen

theorem Whole.errorFlipBits {packet : Bytes} (h : Whole packet) {i : Nat}
    (hi : i < packet.length) : checkPacket (errorFlipBits packet i) = false :=
  checkPacket_errorFlipBits h.fits h.checked hi

theorem ChildPacket.whole {session : Session} {log : List Sent} {expected : UInt32}
    {packet : Bytes} (h : ChildPacket session log expected packet) : Whole packet := by
  cases h with
  | resp num => exact whole_builtPacket num _ (Nat.le_of_ble_eq_true rfl)
  | rr num hlo hle => exact whole_builtPacket num _ (Nat.le_of_ble_eq_true rfl)
  | srej num hlt hk hsent => exact whole_builtPacket num _ (Nat.le_of_ble_eq_true rfl)
  | eofAck num heof => exact whole_builtPacket num _ (Nat.le_of_ble_eq_true rfl)

theorem Session.whole_filenamePacket (session : Session) : Whole session.filenamePacket :=
  whole_builtPacket _ _ (length_filenamePayload _ _ session.name_ok.1)

theorem SentPacket.whole {session : Session} {n : Nat} {window : Window} {packet : Bytes}
    (h : SentPacket session n window packet) : Whole packet := by
  rcases h.cases with ⟨_, rfl⟩ | ⟨_, i, _, chunk, hchunk, rfl⟩ | ⟨_, rfl, _⟩ | ⟨_, rfl, _⟩
  · exact session.whole_filenamePacket
  · exact whole_builtPacket _ _ (session.chunk_length (List.mem_of_getElem? hchunk)).2
  · exact whole_builtPacket _ _ (Nat.zero_le _)
  · exact whole_builtPacket _ _ (Nat.zero_le _)

theorem NetInv.whole {session : Session} {net : Network} (h : NetInv session net) {src : Addr}
    {sent : Sent} (hsent : sent ∈ net.sentBy src) : Whole sent.packet := by
  cases src with
  | rcopy =>
      rcases h.rcopy.sent_cases with ⟨n, htransfer⟩ | hname
      · exact (htransfer.sent sent hsent).whole
      · rw [hname sent hsent]
        exact session.whole_filenamePacket
  | child n =>
      simp only [Network.sentBy] at hsent
      split at hsent
      · rename_i child hget
        obtain ⟨entry, hentry, rfl⟩ := List.mem_map.mp hsent
        rcases (h.children child (List.mem_of_getElem? hget)).null_or_serving with
          ⟨_, hlog⟩ | hserving
        · obtain ⟨num, value, hnum⟩ := hlog entry hentry
          rw [hnum]
          exact whole_builtPacket num _ (Nat.le_of_ble_eq_true rfl)
        · exact (hserving.packets entry hentry).whole
      · cases hsent
  | server => cases hsent
  | other n => cases hsent

/-! ## One process and its library -/

/-- `out` is what `sendto` may be given when `sendtoErr` is given `sent`. -/
structure Crossed (sent out : Sent) : Prop where
  dst : sent.dst = out.dst
  packet : out.packet = sent.packet ∨
    ∃ i < sent.packet.length, out.packet = errorFlipBits sent.packet i

/-- The library of a process that has sent `sent`. -/
def Counts (env : EnvData) (lib : Libcpe464) (sent : List Sent) : Prop :=
  ∃ calls, LibraryState env calls lib ∧ messages calls = sent.length

theorem Counts.call {env : EnvData} {lib : Libcpe464} {sent sent' : List Sent}
    (h : Counts env lib sent) (next : LibCall)
    (hlen : sent.length + messages [next] = sent'.length) :
    Counts env (lib.call next) sent' := by
  obtain ⟨calls, hstate, hmessages⟩ := h
  refine ⟨calls ++ [next], hstate.call next, ?_⟩
  rw [messages_append, hmessages]
  exact hlen

theorem Counts.msgNo {env : EnvData} {lib : Libcpe464} {sent : List Sent}
    (h : Counts env lib sent) : lib.mgr.msgNo = UInt32.ofNat sent.length := by
  obtain ⟨calls, hstate, hmessages⟩ := h
  rw [hstate.msgNo, hmessages]

theorem counts_start (env : EnvData) (errorRate : Float) (times : Int × Int × Int) :
    Counts env (Linked.startLib env errorRate times) [] := by
  have hstart : Counts env (Libcpe464.start env times.1) [] :=
    ⟨[], libraryState_start env times.1, rfl⟩
  exact hstart.call (.sendErrInit errorRate true true true times.2.1 times.2.2) rfl

theorem Counts.fork {env : EnvData} {lib : Libcpe464} (h : Counts env lib []) (errorRate : Float)
    (time time' : Int) :
    Counts env (Linked.sendtoErrInit lib.forkChild errorRate time time') [] := by
  have hfork : Counts env lib.forkChild [] := h.call .forkChild rfl
  exact hfork.call (.sendErrInit errorRate true true true time time') rfl

theorem crossed_sendtoErr {mgr : PacketManager} (h : mgr.Configured) {sent : Sent}
    (hwhole : Whole sent.packet) (lenSent : Bytes → Int) {out : Bytes}
    (hout : (mgr.sendtoErr sent.packet lenSent).2.1 = some out) : Crossed sent ⟨sent.dst, out⟩ := by
  refine ⟨rfl, ?_⟩
  rw [(PacketManager.sendtoErr_spec h sent.packet lenSent).2, PacketManager.onWire] at hout
  split at hout
  · cases hout
  · split at hout
    · exact .inl (Option.some.inj hout).symm
    · rename_i rand hstruck
      refine .inr ⟨_, ?_, (Option.some.inj hout).symm⟩
      exact Rand48.pick_lt (by decide) hwhole.pos (Rand48.drand48_lt rand)
    · cases hout

theorem transmit_spec {env : EnvData} (src : Addr) :
    ∀ {news : List Sent} {lib : Libcpe464} {old : List Sent}, Counts env lib old →
      (∀ sent ∈ news, Whole sent.packet) →
      Counts env (transmit src lib news).1 (old ++ news) ∧
        ∀ entry ∈ (transmit src lib news).2,
          entry.1 = src ∧ ∃ sent ∈ news, Crossed sent entry.2 := by
  intro news
  induction news with
  | nil =>
      intro lib old h _
      refine ⟨?_, fun entry hentry => ?_⟩
      · rw [List.append_nil]
        exact h
      · cases hentry
  | cons sent news ih =>
      intro lib old h hwhole
      have hconfigured : lib.mgr.Configured := by
        obtain ⟨calls, hstate, _⟩ := h
        exact hstate.configured
      have hnil : sent.packet ≠ [] :=
        List.ne_nil_of_length_pos (hwhole sent List.mem_cons_self).pos
      have hcall : Counts env
          { lib with mgr := (lib.mgr.sendtoErr sent.packet fun buf => buf.length).1 }
          (old ++ [sent]) :=
        h.call (.sendtoErr ⟨sent.packet, hnil⟩ fun buf => buf.length)
          (by rw [List.length_append]; rfl)
      obtain ⟨hcounts, hwire⟩ := ih hcall fun s hs => hwhole s (List.mem_cons_of_mem sent hs)
      rw [List.append_assoc] at hcounts
      have hrest : ∀ entry ∈ (transmit src
          { lib with mgr := (lib.mgr.sendtoErr sent.packet fun buf => buf.length).1 } news).2,
          entry.1 = src ∧ ∃ s ∈ sent :: news, Crossed s entry.2 := by
        intro entry hentry
        obtain ⟨hsrc, s, hs, hcrossed⟩ := hwire entry hentry
        exact ⟨hsrc, s, List.mem_cons_of_mem sent hs, hcrossed⟩
      simp only [transmit]
      split
      · rename_i out hout
        refine ⟨hcounts, fun entry hentry => ?_⟩
        rcases List.mem_cons.mp hentry with rfl | hold
        · have hcrossed := crossed_sendtoErr hconfigured (hwhole sent List.mem_cons_self) _ hout
          exact ⟨rfl, sent, List.mem_cons_self, hcrossed⟩
        · exact hrest entry hold
      · exact ⟨hcounts, hrest⟩

/-! ## Whom a step concerns -/

namespace Network

variable {net net' : Network}

theorem sentBy_set_ne {n : Nat} {src : Addr} (hne : src ≠ .child n) (child : Child OutFile)
    (files : Bytes → Bytes) :
    sentBy { net with children := net.children.set n child, files := files } src
      = net.sentBy src := by
  cases src with
  | rcopy => rfl
  | server => rfl
  | other m => rfl
  | child m =>
      have hnm : n ≠ m := fun heq => hne (congrArg Addr.child heq.symm)
      simp only [sentBy, List.getElem?_set_ne hnm]

theorem sentBy_next_ne {label : Label} (h : net.next label = some net') {src : Addr}
    (hne : src ≠ label.actor) : net'.sentBy src = net.sentBy src := by
  have hrcopy (rcopy : Rcopy) (hsrc : src ≠ .rcopy) :
      sentBy { net with rcopy := rcopy } src = net.sentBy src := by
    cases src with
    | rcopy => exact absurd rfl hsrc
    | server => rfl
    | child m => rfl
    | other m => rfl
  cases step_of_next h with
  | rcopyTimeout => exact hrcopy _ hne
  | rcopyRecv hdel => exact hrcopy _ hne
  | @serverForks _ packet child hdel hfork =>
      cases src with
      | rcopy => rfl
      | server => rfl
      | other m => rfl
      | child m =>
          obtain rfl := eq_of_accepted hfork
          rcases Nat.lt_or_ge m net.children.length with hlt | hge
          · simp only [sentBy, List.getElem?_append_left hlt]
          · -- the child that is forked has sent nothing
            simp only [sentBy, List.getElem?_append_right hge, List.getElem?_eq_none hge]
            cases m - net.children.length with
            | zero => rfl
            | succ k => rfl
  | serverIgnores hdel hnone => rfl
  | childOpens hget hstate => exact sentBy_set_ne hne _ _
  | childRefuses hget hstate => exact sentBy_set_ne hne _ _
  | childTimeout hpoll =>
      obtain ⟨child, hget, rfl⟩ := childPoll_eq_some.mp hpoll
      exact sentBy_set_ne hne _ _
  | childRecv hdel hpoll =>
      obtain ⟨child, hget, rfl⟩ := childPoll_eq_some.mp hpoll
      exact sentBy_set_ne hne _ _

theorem length_children_next {label : Label} (h : net.next label = some net') :
    net'.children.length = net.children.length ∨
      (label.actor = .server ∧ net'.children.length = net.children.length + 1) := by
  cases step_of_next h with
  | rcopyTimeout => exact .inl rfl
  | rcopyRecv hdel => exact .inl rfl
  | serverForks hdel hfork => exact .inr ⟨rfl, List.length_append⟩
  | serverIgnores hdel hnone => exact .inl rfl
  | childOpens hget hstate => exact .inl List.length_set
  | childRefuses hget hstate => exact .inl List.length_set
  | childTimeout hpoll =>
      obtain ⟨child, hget, rfl⟩ := childPoll_eq_some.mp hpoll
      exact .inl List.length_set
  | childRecv hdel hpoll =>
      obtain ⟨child, hget, rfl⟩ := childPoll_eq_some.mp hpoll
      exact .inl List.length_set

end Network

/-! ## The invariant -/

structure LinkedInv (session : Session) (files : Bytes → Bytes) (launch : Launch)
    (linked : Linked) : Prop where
  reach : session.Reach files linked.net
  rcopyLib : Counts launch.rcopyEnv linked.rcopyLib (linked.net.sentBy .rcopy)
  serverLib : Counts launch.serverEnv linked.serverLib []
  length : linked.childLibs.length = linked.net.children.length
  childLibs : ∀ n lib, linked.childLibs[n]? = some lib →
    Counts launch.serverEnv lib (linked.net.sentBy (.child n))
  wire : ∀ entry ∈ linked.wire, ∃ sent ∈ linked.net.sentBy entry.1, Crossed sent entry.2

theorem Crossed.deliverable {net : Network} {src : Addr} {sent out : Sent} (h : Crossed sent out)
    (hsent : sent ∈ net.sentBy src) (hwhole : Whole sent.packet) :
    net.deliverable src out.dst out.packet = true := by
  obtain ⟨dst, packet⟩ := out
  obtain ⟨hdst, hpacket⟩ := h
  simp only [Network.deliverable, Bool.or_eq_true, decide_eq_true_eq, Bool.and_eq_true,
    Bool.not_eq_true', List.any_eq_true]
  rcases hpacket with heq | ⟨i, hi, heq⟩
  · left
    obtain rfl : (⟨dst, packet⟩ : Sent) = sent := by
      obtain ⟨dst', packet'⟩ := sent
      exact congrArg₂ Sent.mk hdst.symm heq
    exact hsent
  · right
    obtain rfl : packet = errorFlipBits sent.packet i := heq
    exact ⟨hwhole.errorFlipBits hi, sent, hsent, hdst⟩

theorem Network.news_spec {net net' : Network} {label : Label} (h : net.next label = some net') :
    net.sentBy label.actor ++ net.news net' label = net'.sentBy label.actor :=
  List.prefix_iff_eq_append.mp (Network.sentBy_next h label.actor)

/-- What a step of the linked system is. -/
inductive Linked.Step (rate : Float) (linked : Linked) (label : Label) (time time' : Int)
    (net : Network) : Linked → Prop
  | rcopy (hactor : label.actor = .rcopy) :
      Step rate linked label time time' net
        { linked with
          net := net
          rcopyLib := (transmit .rcopy linked.rcopyLib (linked.net.news net label)).1
          wire := linked.wire ++
            (transmit .rcopy linked.rcopyLib (linked.net.news net label)).2 }
  | forks (hactor : label.actor = .server)
      (hmore : linked.net.children.length < net.children.length) :
      Step rate linked label time time' net
        { linked with
          net := net
          serverLib := linked.serverLib.forkParent
          childLibs := linked.childLibs ++
            [sendtoErrInit linked.serverLib.forkChild rate time time'] }
  | ignores (hactor : label.actor = .server)
      (hsame : ¬ linked.net.children.length < net.children.length) :
      Step rate linked label time time' net { linked with net := net }
  | child {n : Nat} {lib : Libcpe464} (hactor : label.actor = .child n)
      (hlib : linked.childLibs[n]? = some lib) :
      Step rate linked label time time' net
        { linked with
          net := net
          childLibs := linked.childLibs.set n
            (transmit (.child n) lib (linked.net.news net label)).1
          wire := linked.wire ++ (transmit (.child n) lib (linked.net.news net label)).2 }

theorem Linked.step_of_next {rate : Float} {linked linked' : Linked} {label : Label}
    {time time' : Int} (h : linked.next rate (label, time, time') = some linked') :
    (∀ arrival, label.arrival = some arrival → arrival ∈ linked.wire) ∧
      ∃ net, linked.net.act label = some net ∧
        linked.Step rate label time time' net linked' := by
  simp only [next] at h
  split at h
  · rename_i harrival
    refine ⟨fun arrival hsome => ?_, ?_⟩
    · rw [hsome] at harrival
      exact of_decide_eq_true harrival
    · split at h
      · cases h
      · rename_i net hact
        refine ⟨net, hact, ?_⟩
        split at h
        · rename_i hactor
          obtain rfl := Option.some.inj h
          exact .rcopy hactor
        · rename_i hactor
          split at h
          · rename_i hmore
            obtain rfl := Option.some.inj h
            exact .forks hactor hmore
          · rename_i hsame
            obtain rfl := Option.some.inj h
            exact .ignores hactor hsame
        · rename_i n hactor
          split at h
          · rename_i lib hlib
            obtain rfl := Option.some.inj h
            exact .child hactor hlib
          · cases h
        · cases h
  · cases h

namespace LinkedInv

variable {session : Session} {files : Bytes → Bytes} {launch : Launch} {linked : Linked}

theorem next_of_act (h : LinkedInv session files launch linked) {label : Label} {net : Network}
    (harrival : ∀ arrival, label.arrival = some arrival → arrival ∈ linked.wire)
    (hact : linked.net.act label = some net) : linked.net.next label = some net := by
  refine Network.next_of_act hact fun src out hout => ?_
  obtain ⟨sent, hsent, hcrossed⟩ := h.wire _ (harrival _ hout)
  exact hcrossed.deliverable hsent ((Session.Run.netInv h.reach).whole hsent)

theorem old_wire (h : LinkedInv session files launch linked) {label : Label} {net : Network}
    (hnext : linked.net.next label = some net) :
    ∀ entry ∈ linked.wire, ∃ sent ∈ net.sentBy entry.1, Crossed sent entry.2 := by
  intro entry hentry
  obtain ⟨sent, hsent, hcrossed⟩ := h.wire entry hentry
  exact ⟨sent, (Network.sentBy_next hnext entry.1).subset hsent, hcrossed⟩

theorem transmit (h : LinkedInv session files launch linked) {label : Label} {net : Network}
    (hnext : linked.net.next label = some net) {env : EnvData} {lib : Libcpe464}
    (hlib : Counts env lib (linked.net.sentBy label.actor)) :
    Counts env (transmit label.actor lib (linked.net.news net label)).1
        (net.sentBy label.actor) ∧
      ∀ entry ∈ linked.wire ++
          (SelectiveReject.transmit label.actor lib (linked.net.news net label)).2,
        ∃ sent ∈ net.sentBy entry.1, Crossed sent entry.2 := by
  have hnet : NetInv session net := Session.Run.netInv (.tail h.reach trivial hnext)
  have hmem : ∀ sent ∈ linked.net.news net label, sent ∈ net.sentBy label.actor :=
    fun sent hsent => List.mem_of_mem_drop hsent
  obtain ⟨hcounts, hwire⟩ := transmit_spec label.actor hlib fun sent hsent =>
    hnet.whole (hmem sent hsent)
  rw [Network.news_spec hnext] at hcounts
  refine ⟨hcounts, fun entry hentry => ?_⟩
  rcases List.mem_append.mp hentry with hold | hnew
  · exact h.old_wire hnext entry hold
  · obtain ⟨hsrc, sent, hsent, hcrossed⟩ := hwire entry hnew
    rw [hsrc]
    exact ⟨sent, hmem sent hsent, hcrossed⟩

theorem counts_ne {label : Label} {net : Network} (hnext : linked.net.next label = some net)
    {src : Addr} (hne : src ≠ label.actor) {env : EnvData} {lib : Libcpe464}
    (hlib : Counts env lib (linked.net.sentBy src)) : Counts env lib (net.sentBy src) := by
  rw [Network.sentBy_next_ne hnext hne]
  exact hlib

theorem step (h : LinkedInv session files launch linked) {label : Label} {time time' : Int}
    {linked' : Linked} (hstep : linked.next launch.serverRate (label, time, time') = some linked') :
    LinkedInv session files launch linked' := by
  obtain ⟨harrival, net, hact, hcases⟩ := Linked.step_of_next hstep
  have hnext := h.next_of_act harrival hact
  have hlength := Network.length_children_next hnext
  have hreach : session.Reach files net := .tail h.reach trivial hnext
  cases hcases with
  | rcopy hactor =>
      have hlib := h.rcopyLib
      rw [← hactor] at hlib
      have htransmit := h.transmit hnext hlib
      rw [hactor] at htransmit hlength
      refine ⟨hreach, htransmit.1, h.serverLib, ?_, fun n lib hget => ?_, htransmit.2⟩
      · rcases hlength with hsame | ⟨hserver, _⟩
        · exact h.length.trans hsame.symm
        · cases hserver
      · exact counts_ne hnext (by rw [hactor]; exact child_ne_rcopy n) (h.childLibs n lib hget)
  | forks hactor hmore =>
      have hmore' : net.children.length = linked.net.children.length + 1 := by
        rcases hlength with hsame | ⟨_, hnew⟩
        · exact absurd hsame (Nat.ne_of_gt hmore)
        · exact hnew
      have hchild (n : Nat) : Addr.child n ≠ label.actor := by
        rw [hactor]
        intro heq
        cases heq
      refine ⟨hreach, ?_, h.serverLib.call .forkParent rfl, ?_, fun n lib hget => ?_,
        h.old_wire hnext⟩
      · exact counts_ne hnext (by rw [hactor]; exact server_ne_rcopy.symm) h.rcopyLib
      · rw [hmore', ← h.length]
        exact List.length_append
      · refine counts_ne hnext (hchild n) ?_
        rcases Nat.lt_or_ge n linked.childLibs.length with hlt | hge
        · rw [List.getElem?_append_left hlt] at hget
          exact h.childLibs n lib hget
        · rw [List.getElem?_append_right hge] at hget
          obtain rfl := List.mem_singleton.mp (List.mem_of_getElem? hget)
          have hnil : linked.net.sentBy (.child n) = [] := by
            simp only [Network.sentBy, List.getElem?_eq_none (h.length ▸ hge)]
          rw [hnil]
          exact h.serverLib.fork _ _ _
  | ignores hactor hsame =>
      have hchild (n : Nat) : Addr.child n ≠ label.actor := by
        rw [hactor]
        intro heq
        cases heq
      refine ⟨hreach, ?_, h.serverLib, ?_, fun n lib hget => ?_, h.old_wire hnext⟩
      · exact counts_ne hnext (by rw [hactor]; exact server_ne_rcopy.symm) h.rcopyLib
      · rcases hlength with heq | ⟨_, hnew⟩
        · exact h.length.trans heq.symm
        · exact absurd (hnew ▸ Nat.lt_succ_self _) hsame
      · exact counts_ne hnext (hchild n) (h.childLibs n lib hget)
  | @child n lib hactor hlib =>
      have hcounts := h.childLibs n lib hlib
      rw [← hactor] at hcounts
      have htransmit := h.transmit hnext hcounts
      rw [hactor] at htransmit hlength
      refine ⟨hreach, ?_, h.serverLib, ?_, fun m lib' hget => ?_, htransmit.2⟩
      · exact counts_ne hnext (by rw [hactor]; exact (child_ne_rcopy n).symm) h.rcopyLib
      · rcases hlength with hsame | ⟨hserver, _⟩
        · rw [List.length_set]
          exact h.length.trans hsame.symm
        · cases hserver
      · rcases eq_or_ne n m with rfl | hne
        · obtain ⟨hlt, _⟩ := List.getElem?_eq_some_iff.mp hlib
          rw [List.getElem?_set_self hlt] at hget
          rw [← Option.some.inj hget]
          exact htransmit.1
        · rw [List.getElem?_set_ne hne] at hget
          refine counts_ne hnext ?_ (h.childLibs m lib' hget)
          rw [hactor]
          intro heq
          exact hne (Addr.child.inj heq).symm

end LinkedInv

theorem linkedInv_start (session : Session) (files : Bytes → Bytes) (launch : Launch) :
    LinkedInv session files launch (Linked.start session files launch) := by
  have hnet : NetInv session (session.network files) :=
    @Session.Run.netInv session files (fun _ _ => True) _ .refl
  obtain ⟨hcounts, hwire⟩ := transmit_spec .rcopy
    (counts_start launch.rcopyEnv launch.rcopyRate launch.rcopyTimes)
    fun sent hsent => @NetInv.whole _ _ hnet .rcopy sent hsent
  refine ⟨.refl, hcounts, counts_start _ _ _, rfl, fun n lib hget => ?_, fun entry hentry => ?_⟩
  · cases hget
  · obtain ⟨hsrc, sent, hsent, hcrossed⟩ := hwire entry hentry
    rw [hsrc]
    exact ⟨sent, hsent, hcrossed⟩

/-- For the processes a run of the linked system is a run of `Network`.  Each library has counted
the datagrams of its process, and on the wire there is nothing but these, and copies of them
with one byte flipped that `check_packet` rejects. -/
theorem linked_simulated {session : Session} {files : Bytes → Bytes} {launch : Launch}
    {ok : Linked → Label × Int × Int → Prop} {linked : Linked}
    (h : Steps (Linked.next launch.serverRate) ok (Linked.start session files launch) linked) :
    session.Reach files linked.net ∧
      linked.rcopyLib.mgr.msgNo = UInt32.ofNat linked.net.rcopy.info.sent.length ∧
      (∀ n lib, linked.childLibs[n]? = some lib →
        lib.mgr.msgNo = UInt32.ofNat (linked.net.sentBy (.child n)).length) ∧
      ∀ src out, (src, out) ∈ linked.wire → ∃ sent ∈ linked.net.sentBy src,
        sent.dst = out.dst ∧ (out.packet = sent.packet ∨
          (checkPacket out.packet = false ∧
            ∃ i < sent.packet.length, out.packet = errorFlipBits sent.packet i)) := by
  have hinv : LinkedInv session files launch linked :=
    h.invariant (linkedInv_start session files launch) fun _ _ _ hinv _ hstep => hinv.step hstep
  refine ⟨hinv.reach, hinv.rcopyLib.msgNo, fun n lib hget => (hinv.childLibs n lib hget).msgNo,
    fun src out hout => ?_⟩
  obtain ⟨sent, hsent, hdst, hpacket⟩ := hinv.wire _ hout
  refine ⟨sent, hsent, hdst, ?_⟩
  rcases hpacket with heq | ⟨i, hi, heq⟩
  · exact .inl heq
  · refine .inr ⟨?_, i, hi, heq⟩
    rw [heq]
    exact ((Session.Run.netInv hinv.reach).whole hsent).errorFlipBits hi

/-- rcopy is told to drop its second message, the server injects errors at a rate of 0.25. -/
def noisyLaunch : Launch :=
  { rcopyEnv := ⟨none, none, some [2], none⟩, rcopyRate := 0, rcopyTimes := ⟨7, 7, 7⟩
    serverEnv := ⟨none, none, some [1000], none⟩, serverRate := 0.25, serverTimes := ⟨8, 8, 8⟩ }

/-- The RR for packet 3 with its last byte complemented. -/
def flippedRr : Bytes := errorFlipBits (builtPacket 2 flagRr (htonl 3)) 10

/-- The session of one byte: its data packet is dropped, the RR for the next copy is flipped, and
the third copy comes through. -/
def noisyRun : List Label :=
  [.serverRecv .rcopy letterSession.filenamePacket, .childSetup 0 true true,
    .rcopyRecv (.child 0) (builtPacket 1 flagFilenameResp [0]), .rcopyTimeout, .rcopyTimeout,
    .childRecv 0 .rcopy (builtPacket 2 flagData [65]), .rcopyRecv (.child 0) flippedRr,
    .rcopyTimeout, .childRecv 0 .rcopy (builtPacket 2 flagData [65]),
    .rcopyRecv (.child 0) (builtPacket 3 flagRr (htonl 3)), .rcopyTimeout,
    .childRecv 0 .rcopy (builtPacket 3 flagEof []),
    .rcopyRecv (.child 0) (builtPacket 4 flagEofAck [])]

/-- Of six messages of rcopy five are on the wire; the flipped RR is there, and is what the child
sent but for one byte. -/
theorem linked_simulated_noisy :
    ∃ linked, exec (Linked.next noisyLaunch.serverRate)
        (Linked.start letterSession (fun _ => []) noisyLaunch)
        (noisyRun.map fun label => (label, 26, 26)) = some linked ∧
      processFile linked.net.rcopy = some 0 ∧ letterSession.Reach (fun _ => []) linked.net ∧
      linked.net.rcopy.info.sent.length = 6 ∧
      linked.rcopyLib.mgr.msgNo = UInt32.ofNat linked.net.rcopy.info.sent.length ∧
      (linked.wire.filter fun entry => decide (entry.1 = .rcopy)).length = 5 ∧
      ∃ sent ∈ linked.net.sentBy (.child 0), sent.dst = .rcopy ∧
        (flippedRr = sent.packet ∨ (checkPacket flippedRr = false ∧
          ∃ i < sent.packet.length, flippedRr = errorFlipBits sent.packet i)) := by
  have hexec : (exec (Linked.next noisyLaunch.serverRate)
      (Linked.start letterSession (fun _ => []) noisyLaunch)
      (noisyRun.map fun label => (label, 26, 26))).map (fun linked =>
        (processFile linked.net.rcopy, linked.net.rcopy.info.sent.length,
          (linked.wire.filter fun entry => decide (entry.1 = .rcopy)).length,
          decide ((Addr.child 0, (⟨.rcopy, flippedRr⟩ : Sent)) ∈ linked.wire)))
      = some (some 0, 6, 5, true) := by
    decide +kernel
  obtain ⟨linked, hlinked, heq⟩ := Option.map_eq_some_iff.mp hexec
  obtain ⟨hresult, heq⟩ := Prod.mk.inj heq
  obtain ⟨hsent, heq⟩ := Prod.mk.inj heq
  obtain ⟨hwire, hmem⟩ := Prod.mk.inj heq
  have hrun : Steps (Linked.next noisyLaunch.serverRate) (fun _ _ => True)
      (Linked.start letterSession (fun _ => []) noisyLaunch) linked := Steps.of_exec hlinked
  obtain ⟨hreach, hcount, _, hcopies⟩ := linked_simulated hrun
  exact ⟨linked, hlinked, hresult, hreach, hsent, hcount, hwire,
    hcopies _ _ (of_decide_eq_true hmem)⟩

end SelectiveReject
