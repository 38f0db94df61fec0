/-
# `SelectiveReject.Fleet` — many clients on one server

`SelectiveReject.Network` has one rcopy.  The server does not know that: `process_server` forks a
child for every FILENAME packet, whoever has sent it, and the children of all clients write into one
directory.  A `Fleet` is that system, with `n` copies of rcopy.  The sockets are

    .server                     the one the server is bound to
    .other i                    the one of rcopy `i`
    .child (Nat.pair i k)       the one of the `k`-th child forked for rcopy `i`

and every one of them may receive whatever anybody has sent to it.

Seen by client `i` — its own sockets under the names of `Network`, the other clients' files as
they were before — a run of the fleet is a run of the session of `i` alone (`fleet_independent`), as
long as no two clients name the same output file.  A file is its name here: distinct names stand
for distinct files, so there are no two paths, links or symbolic links to one.  The names are all
that the clients share: a process answers to the source of what it has received, and nobody but
its own peers has ever sent to it (`Fleet.home_of_deliverable`).
-/
import SelectiveReject.EndToEnd
import SelectiveReject.Rename

namespace SelectiveReject

open Machine

/-! ## The file a child writes -/

section File

variable {F : Type} {write : F → Bytes → Int × F}

theorem firstPacket_handleDataPacket {info info' : ServerInfo F} {packet : Bytes}
    (h : handleDataPacket write info packet = .ok info') :
    info'.firstPacket = info.firstPacket := by
  simp only [handleDataPacket] at h
  split at h
  · rw [← Except.ok.inj h]
    rfl
  · split at h
    · rw [← Except.ok.inj h]
      rfl
    · split at h
      · split at h
        · cases h
        · split at h
          · rw [← Except.ok.inj h, firstPacket_rejectIfNeeded]
            rfl
          · rw [← Except.ok.inj h]
            rfl
      · rw [← Except.ok.inj h, firstPacket_rejectIfNeeded]

theorem fileName_childStep (child : Child F) (ev : PollEvent) :
    fileName (childStep write child ev).info = fileName child.info := by
  suffices h : (childStep write child ev).info.firstPacket = child.info.firstPacket by
    rw [fileName, fileName, h]
  obtain ⟨state, info⟩ := child
  cases ev with
  | timeout =>
      cases state with
      | waitOnDone =>
          simp only [childStep, waitOnDoneTimeout]
          split
          · rfl
          · rfl
      | filename => rfl
      | recvData => rfl
      | done => rfl
      | exited => rfl
  | recv src packet =>
      cases state with
      | recvData =>
          simp only [childStep, recvDataRecv]
          split
          · rfl
          · split
            · split
              · rename_i failed hfail
                obtain ⟨_, buffer, file, rfl⟩ := handleDataPacket_error hfail
                rfl
              · rename_i info' hhandle
                have hsame := firstPacket_handleDataPacket hhandle
                exact hsame
            · split
              · rfl
              · rfl
      | waitOnDone =>
          simp only [childStep, waitOnDoneRecv]
          split
          · rfl
          · split
            · rfl
            · split
              · rfl
              · rfl
      | filename => rfl
      | done => rfl
      | exited => rfl

theorem fileName_childSetup (child : Child F) (opened : Option F) (callocOk : Bool) :
    fileName (childSetup child opened callocOk).info = fileName child.info := by
  suffices h : (childSetup child opened callocOk).info.firstPacket = child.info.firstPacket by
    rw [fileName, fileName, h]
  obtain ⟨state, info⟩ := child
  cases state with
  | filename =>
      have hsame : ∀ (info : ServerInfo F) (value : UInt8),
          (sendFilenameResponse info value).firstPacket = info.firstPacket := fun _ _ => rfl
      simp only [childSetup, filenameState]
      cases opened with
      | none => rw [hsame]
      | some file =>
          dsimp only
          split
          · rw [hsame]
          · rw [hsame]
  | recvData => rfl
  | waitOnDone => rfl
  | done => rfl
  | exited => rfl

end File

namespace Network

/-! ## One file of the directory -/

/-- The network in which every file but `name` is as in `files`. -/
def mask (net : Network) (name : Bytes) (files : Bytes → Bytes) : Network :=
  { net with files := Function.update files name (net.files name) }

section Mask

variable {net net' : Network} {name : Bytes} {files : Bytes → Bytes}

theorem mask_store (n : Nat) {child : Child OutFile} (hname : fileName child.info = name) :
    (net.store n child).mask name files = (net.mask name files).store n child := by
  simp only [store, mask, hname, Function.update_self, Function.update_idem]

theorem mask_childPoll (hname : ∀ child ∈ net.children, fileName child.info = name) (n : Nat)
    (ev : PollEvent) :
    (net.childPoll n ev).map (fun net => net.mask name files)
      = (net.mask name files).childPoll n ev := by
  have hget : (net.mask name files).children[n]? = net.children[n]? := rfl
  simp only [childPoll, hget]
  cases hchild : net.children[n]? with
  | none => rfl
  | some child =>
      have hfile := hname child (List.mem_of_getElem? hchild)
      have hload : (net.mask name files).load child = net.load child := by
        simp only [load, mask, hfile, Function.update_self]
      simp only [Option.map_some, hload]
      rw [mask_store]
      rw [fileName_childStep]
      exact hfile

theorem mask_act (hname : ∀ child ∈ net.children, fileName child.info = name) (label : Label) :
    (net.act label).map (fun net => net.mask name files) = (net.mask name files).act label := by
  cases label with
  | rcopyTimeout => rfl
  | rcopyRecv src packet => rfl
  | serverRecv src packet =>
      simp only [act]
      cases processServer packet src (⟨[], 0⟩ : OutFile) with
      | none => rfl
      | some child => rfl
  | childSetup n openOk callocOk =>
      have hget : (net.mask name files).children[n]? = net.children[n]? := rfl
      simp only [act, next, hget]
      cases hchild : net.children[n]? with
      | none => rfl
      | some child =>
          dsimp only
          split
          · cases openOk with
            | true =>
                simp only [if_true, Option.map_some]
                rw [mask_store]
                rw [fileName_childSetup]
                exact hname child (List.mem_of_getElem? hchild)
            | false => rfl
          · rfl
  | childTimeout n => exact mask_childPoll hname n .timeout
  | childRecv n src packet => exact mask_childPoll hname n (.recv src packet)

theorem files_act (hname : ∀ child ∈ net.children, fileName child.info = name) {label : Label}
    (hact : net.act label = some net') {other : Bytes} (hother : other ≠ name) :
    net'.files other = net.files other := by
  -- the directory of `net` with only `name` replaced makes the same step
  have hmask : net.mask name net.files = net := by
    simp only [mask, Function.update_eq_self]
  have hstep : (net.act label).map (fun step => step.mask name net.files)
      = (net.mask name net.files).act label := mask_act hname label
  rw [hmask, hact, Option.map_some] at hstep
  have hfiles := congrArg (fun net : Network => net.files other) (Option.some.inj hstep)
  rw [← hfiles]
  exact Function.update_of_ne hother _ _

end Mask

theorem sentBy_rename (σ : Addr → Addr) (net : Network) (src : Addr) :
    (net.rename σ).sentBy src = (net.sentBy src).map (Sent.rename σ) := by
  cases src with
  | rcopy => rfl
  | child k =>
      simp only [sentBy, getElem?_rename]
      cases net.children[k]? with
      | none => rfl
      | some child =>
          simp only [Option.map_some, Child.rename, ServerInfo.rename, ServerInfo.sent,
            List.map_map]
          rfl
  | server => rfl
  | other m => rfl

end Network

/-! ## A session has no other peers -/

/-- rcopy has heard of the server and of children only. -/
structure Peers (net : Network) : Prop where
  server : ∀ m, net.rcopy.info.server ≠ .other m
  dst : ∀ sent ∈ net.rcopy.info.sent, ∀ m, sent.dst ≠ .other m

theorem Peers.step {session : Session} {net net' : Network} {label : Label} (h : Peers net)
    (hnet : NetInv session net) (hstep : net.next label = some net') : Peers net' := by
  have hpoll : ∀ {k : Nat} {ev : PollEvent} {net' : Network}, net.childPoll k ev = some net' →
      Peers net' := by
    intro k ev net' hpoll
    obtain ⟨child, _, rfl⟩ := Network.childPoll_eq_some.mp hpoll
    exact ⟨h.server, h.dst⟩
  have hcases := Network.step_of_next hstep
  cases hcases with
  | rcopyTimeout =>
      have htalks := rcopyStep_timeout net.rcopy
      refine ⟨fun m => ?_, fun sent hsent m => ?_⟩
      · rw [htalks.server]
        exact h.server m
      · rcases htalks.sent sent hsent with hold | hdst
        · exact h.dst sent hold m
        · rw [hdst]
          exact h.server m
  | @rcopyRecv src packet hdel =>
      obtain ⟨k, child, rfl, _⟩ := hnet.from_child hdel
      have hchild : ∀ m, Addr.child k ≠ .other m := fun m heq => by cases heq
      refine ⟨fun m => ?_, fun sent hsent m => ?_⟩
      · rcases server_rcopyStep_recv net.rcopy (.child k) packet with hold | hnew
        · rw [hold]
          exact h.server m
        · rw [hnew]
          exact hchild m
      · rcases sent_rcopyStep_recv hsent with hold | hdst
        · exact h.dst sent hold m
        · rw [hdst]
          exact hchild m
  | serverForks hdel hfork => exact ⟨h.server, h.dst⟩
  | serverIgnores hdel hnone => exact h
  | childOpens hget hstate => exact ⟨h.server, h.dst⟩
  | childRefuses hget hstate => exact ⟨h.server, h.dst⟩
  | childTimeout hstep => exact hpoll hstep
  | childRecv hdel hstep => exact hpoll hstep

theorem Session.Reach.peers {session : Session} {files : Bytes → Bytes} {net : Network}
    (h : session.Reach files net) : Peers net := by
  induction h with
  | refl =>
      constructor
      · intro m heq
        cases heq
      · intro sent hsent m heq
        rw [List.mem_singleton.mp hsent] at heq
        cases heq
  | tail hrun _ hnext ih => exact ih.step (Session.Run.netInv hrun) hnext

theorem Session.Reach.dst_ne_other {session : Session} {files : Bytes → Bytes} {net : Network}
    (h : session.Reach files net) {src : Addr} {sent : Sent} (hsent : sent ∈ net.sentBy src)
    (m : Nat) : sent.dst ≠ .other m := by
  cases src with
  | rcopy => exact h.peers.dst sent hsent m
  | child k =>
      simp only [Network.sentBy] at hsent
      split at hsent
      · rename_i child hget
        obtain ⟨entry, hentry, rfl⟩ := List.mem_map.mp hsent
        have hbase := ((Session.Run.netInv h).children child (List.mem_of_getElem? hget)).base
        rw [hbase.dst entry hentry]
        intro heq
        cases heq
      · cases hsent
  | server => cases hsent
  | other i => cases hsent

/-! ## The fleet -/

/-- Whose socket it is, and what `Network` calls it. -/
def home : Addr → Option (Nat × Addr)
  | .other i => some (i, .rcopy)
  | .child m => some (m.unpair.1, .child m.unpair.2)
  | .rcopy | .server => none

/-- The addresses as client `i` sees them. -/
def view (i : Nat) : Addr → Addr
  | .server => .server
  | .other j => if j = i then .rcopy else .other j
  | .child m => if m.unpair.1 = i then .child m.unpair.2 else .other m.unpair.1
  | .rcopy => .other i

/-- A copy of rcopy, and the children forked for it. -/
structure Party where
  rcopy : Rcopy
  children : List (Child OutFile)

structure Fleet (n : Nat) where
  parties : Fin n → Party
  files : Bytes → Bytes

namespace Fleet

variable {n : Nat}

/-- One party with the directory. -/
def network (fleet : Fleet n) (i : Fin n) : Network :=
  ⟨(fleet.parties i).rcopy, (fleet.parties i).children, fleet.files⟩

def set (fleet : Fleet n) (i : Fin n) (net : Network) : Fleet n :=
  ⟨Function.update fleet.parties i ⟨net.rcopy, net.children⟩, net.files⟩

def sentBy (fleet : Fleet n) (src : Addr) : List Sent :=
  match home src with
  | some (i, own) => if h : i < n then (fleet.network ⟨i, h⟩).sentBy own else []
  | none => []

def deliverable (fleet : Fleet n) (src dst : Addr) (packet : Bytes) : Bool :=
  decide (⟨dst, packet⟩ ∈ fleet.sentBy src) ||
    (!checkPacket packet && (fleet.sentBy src).any fun sent => decide (sent.dst = dst))

/-- May the datagram of a step of party `i` arrive?  The server's step is of the party that has
sent the datagram: that is where the child goes. -/
def arrives (fleet : Fleet n) (i : Fin n) : Label → Bool
  | .rcopyRecv src packet => fleet.deliverable src (.other i) packet
  | .serverRecv src packet =>
      fleet.deliverable src .server packet && decide ((home src).map Prod.fst = some i.val)
  | .childRecv k src packet => fleet.deliverable src (.child (Nat.pair i k)) packet
  | .rcopyTimeout | .childSetup _ _ _ | .childTimeout _ => true

def next (fleet : Fleet n) (step : Fin n × Label) : Option (Fleet n) :=
  if fleet.arrives step.1 step.2 = true then
    ((fleet.network step.1).act step.2).map (fleet.set step.1)
  else none

/-- Every rcopy has sent its first FILENAME packet; no child exists. -/
def start (sessions : Fin n → Session) (files : Bytes → Bytes) : Fleet n :=
  ⟨fun i => ⟨(sessions i).start, []⟩, files⟩

abbrev Reach (sessions : Fin n → Session) (files : Bytes → Bytes) : Fleet n → Prop :=
  Steps next (fun _ _ => True) (start sessions files)

/-- What client `i` sees, with `files` for the files it has nothing to do with. -/
def alone (fleet : Fleet n) (i : Fin n) (name : Bytes) (files : Bytes → Bytes) : Network :=
  ((fleet.network i).rename (view i)).mask name files

/-! ### A party in the fleet -/

section Set

variable (fleet : Fleet n) {i j : Fin n} (net : Network)

theorem network_set_self : (fleet.set i net).network i = net := by
  simp only [network, set, Function.update_self]

theorem network_set_of_ne (hij : j ≠ i) :
    (fleet.set i net).network j = { fleet.network j with files := net.files } := by
  simp only [network, set, Function.update_of_ne hij]

end Set

theorem sentBy_home {fleet : Fleet n} {src own : Addr} {i : Fin n}
    (hsrc : home src = some (i.val, own)) : fleet.sentBy src = (fleet.network i).sentBy own := by
  simp only [sentBy, hsrc, i.isLt, dif_pos]

theorem deliverable_iff {fleet : Fleet n} {src dst : Addr} {packet : Bytes} :
    fleet.deliverable src dst packet = true ↔ ⟨dst, packet⟩ ∈ fleet.sentBy src ∨
      checkPacket packet = false ∧ ∃ sent ∈ fleet.sentBy src, sent.dst = dst := by
  simp only [deliverable, Bool.or_eq_true, Bool.and_eq_true, Bool.not_eq_true', decide_eq_true_eq,
    List.any_eq_true]

theorem exists_home {fleet : Fleet n} {src : Addr} {sent : Sent} (hsent : sent ∈ fleet.sentBy src) :
    ∃ (i : Fin n) (own : Addr), home src = some (i.val, own) := by
  simp only [sentBy] at hsent
  split at hsent
  · rename_i i own hsrc
    split at hsent
    · rename_i hi
      exact ⟨⟨i, hi⟩, own, hsrc⟩
    · cases hsent
  · cases hsent

end Fleet

/-! ## One client's view -/

theorem view_home {addr own : Addr} {i : Nat} (h : home addr = some (i, own)) :
    view i addr = own := by
  cases addr with
  | rcopy => cases h
  | server => cases h
  | other j =>
      obtain ⟨rfl, rfl⟩ := Prod.mk.inj (Option.some.inj h)
      exact if_pos rfl
  | child m =>
      obtain ⟨rfl, rfl⟩ := Prod.mk.inj (Option.some.inj h)
      exact if_pos rfl

theorem view_of_ne {addr own : Addr} {i j : Nat} (h : home addr = some (j, own)) (hij : j ≠ i) :
    view i addr = .other j := by
  cases addr with
  | rcopy => cases h
  | server => cases h
  | other k =>
      obtain ⟨rfl, rfl⟩ := Prod.mk.inj (Option.some.inj h)
      exact if_neg hij
  | child m =>
      obtain ⟨rfl, rfl⟩ := Prod.mk.inj (Option.some.inj h)
      exact if_neg hij

namespace Fleet

variable {n : Nat} {fleet fleet' : Fleet n} {i : Fin n} {name : Bytes} {files : Bytes → Bytes}

theorem sentBy_alone {src own : Addr} (hsrc : home src = some (i.val, own)) :
    (fleet.alone i name files).sentBy own = (fleet.sentBy src).map (Sent.rename (view i)) := by
  rw [sentBy_home hsrc]
  have hmask : (fleet.alone i name files).sentBy own
      = ((fleet.network i).rename (view i)).sentBy own := rfl
  rw [hmask, Network.sentBy_rename]

theorem deliverable_alone {src dst own : Addr} {packet : Bytes}
    (hsrc : home src = some (i.val, own)) (hdel : fleet.deliverable src dst packet = true) :
    (fleet.alone i name files).deliverable own (view i dst) packet = true := by
  simp only [Network.deliverable, sentBy_alone hsrc, Bool.or_eq_true, Bool.and_eq_true,
    Bool.not_eq_true', decide_eq_true_eq, List.any_eq_true]
  rcases deliverable_iff.mp hdel with hsent | ⟨hbad, sent, hsent, hdst⟩
  · exact .inl (List.mem_map_of_mem (f := Sent.rename (view i)) hsent)
  · refine .inr ⟨hbad, _, List.mem_map_of_mem (f := Sent.rename (view i)) hsent, ?_⟩
    rw [← hdst]
    rfl

/-- Each client sees a run of its session. -/
def Alone (sessions : Fin n → Session) (files : Bytes → Bytes) (fleet : Fleet n) : Prop :=
  ∀ i, (sessions i).Reach files (fleet.alone i (sessions i).outName files)

namespace Alone

variable {sessions : Fin n → Session} (h : Alone sessions files fleet)

include h

theorem home_of_deliverable {src dst own : Addr} {packet : Bytes}
    (hdel : fleet.deliverable src dst packet = true) (hdst : home dst = some (i.val, own)) :
    ∃ own', home src = some (i.val, own') := by
  have hsent : ∃ sent ∈ fleet.sentBy src, sent.dst = dst := by
    rcases deliverable_iff.mp hdel with hsent | ⟨_, hsent⟩
    · exact ⟨_, hsent, rfl⟩
    · exact hsent
  obtain ⟨sent, hsent, rfl⟩ := hsent
  obtain ⟨j, own', hsrc⟩ := exists_home hsent
  by_cases hij : i = j
  · rw [hij]
    exact ⟨own', hsrc⟩
  · -- the sender's session has no peer that it does not know
    have hmem : sent.rename (view j) ∈ (fleet.alone j (sessions j).outName files).sentBy own' := by
      rw [sentBy_alone hsrc]
      exact List.mem_map_of_mem hsent
    have hview : (sent.rename (view j)).dst = .other i.val :=
      view_of_ne hdst fun heq => hij (Fin.ext heq)
    exact absurd hview ((h j).dst_ne_other hmem i.val)

theorem arrives {label : Label} (harr : fleet.arrives i label = true) :
    (fleet.alone i (sessions i).outName files).arrives (label.rename (view i)) = true := by
  have hgo : ∀ {src dst own : Addr} {packet : Bytes}, home dst = some (i.val, own) →
      fleet.deliverable src dst packet = true →
        (fleet.alone i (sessions i).outName files).deliverable (view i src) own packet = true := by
    intro src dst own packet hdst hdel
    obtain ⟨own', hsrc⟩ := h.home_of_deliverable hdel hdst
    rw [view_home hsrc, ← view_home hdst]
    exact deliverable_alone hsrc hdel
  cases label with
  | rcopyRecv src packet => exact hgo rfl harr
  | childRecv k src packet =>
      refine hgo ?_ harr
      rw [home, Nat.unpair_pair]
  | serverRecv src packet =>
      obtain ⟨hdel, hsrc⟩ := Bool.and_eq_true_iff.mp harr
      obtain ⟨⟨j, own⟩, hsrc, hj⟩ := Option.map_eq_some_iff.mp (of_decide_eq_true hsrc)
      obtain rfl : j = i.val := hj
      have hserver : (fleet.alone i (sessions i).outName files).deliverable own .server packet
          = true := deliverable_alone hsrc hdel
      rw [← view_home hsrc] at hserver
      exact hserver
  | rcopyTimeout => rfl
  | childSetup k openOk callocOk => rfl
  | childTimeout k => rfl

theorem fileName_eq (i : Fin n) :
    ∀ child ∈ (fleet.network i).children, fileName child.info = (sessions i).outName := by
  intro child hchild
  have hinv := (Session.Run.netInv (h i)).children (child.rename (view i))
    (List.mem_map_of_mem hchild)
  exact hinv.base.fileName_eq

/-- A step of one party is a step of its session, and nothing to the others. -/
theorem step (hnames : Function.Injective fun i => (sessions i).outName) {label : Label}
    (hstep : fleet.next (i, label) = some fleet') : Alone sessions files fleet' := by
  simp only [next] at hstep
  split at hstep
  · rename_i harr
    obtain ⟨net, hact, rfl⟩ := Option.map_eq_some_iff.mp hstep
    intro j
    by_cases hij : j = i
    · subst hij
      refine .tail (h j) trivial (l := label.rename (view j)) ?_
      rw [Network.next_eq_act, if_pos (h.arrives harr), alone, ← Network.mask_act,
        ← Network.rename_act, hact, alone, network_set_self]
      · rfl
      · intro child hchild
        obtain ⟨own, hown, rfl⟩ := List.mem_map.mp hchild
        exact h.fileName_eq j own hown
    · have hfile : net.files (sessions j).outName = fleet.files (sessions j).outName :=
        Network.files_act (h.fileName_eq i) hact fun heq => hij (hnames heq)
      have hsame : (fleet.set i net).alone j (sessions j).outName files
          = fleet.alone j (sessions j).outName files := by
        simp only [alone, network_set_of_ne fleet net hij, Network.mask, Network.rename, hfile]
        rfl
      rw [hsame]
      exact h j
  · cases hstep

end Alone

section Run

variable {sessions : Fin n → Session}

theorem start_alone : Alone sessions files (start sessions files) := by
  intro i
  have hstart : (start sessions files).alone i (sessions i).outName files
      = (sessions i).network files := by
    simp only [alone, network, start, Network.mask, Network.rename, Function.update_eq_self]
    rfl
  rw [hstart]
  exact .refl

theorem Reach.alone (hnames : Function.Injective fun i => (sessions i).outName)
    (hrun : Reach sessions files fleet) : Alone sessions files fleet :=
  hrun.invariant start_alone fun _ _ _ h _ hstep => h.step hnames hstep

theorem Reach.files_eq (hnames : Function.Injective fun i => (sessions i).outName)
    (hrun : Reach sessions files fleet) (hname : ∀ i, (sessions i).outName ≠ name) :
    fleet.files name = files name := by
  induction hrun with
  | refl => rfl
  | @tail fleet fleet' step hrun _ hnext ih =>
      have halone := Reach.alone hnames hrun
      simp only [next] at hnext
      split at hnext
      · obtain ⟨net, hact, rfl⟩ := Option.map_eq_some_iff.mp hnext
        rw [← ih]
        exact Network.files_act (halone.fileName_eq step.1) hact (hname step.1).symm
      · cases hnext

end Run

end Fleet

/-! ## The clients do not meet -/

theorem Session.Reach.begins {session : Session} {files : Bytes → Bytes} {net : Network}
    (h : session.Reach files net) (hone : net.children.length ≤ 1) {child : Child OutFile}
    (hmem : child ∈ net.children) (hopened : child.Opened) :
    net.files session.outName <+: session.file := by
  obtain ⟨hnet, hwaits | ⟨c, accepted, hserves⟩⟩ := Session.Run.joint (Session.Reach.quiet h hone)
  · rw [hwaits.empty child hmem hopened]
    exact List.nil_prefix
  · rw [hserves.contents hnet]
    refine ⟨(session.chunks.drop (accepted.info.buffer.expected.toNat - 2)).flatten, ?_⟩
    rw [← List.flatten_append, List.take_append_drop]
    rfl

section Independent

variable {n : Nat} {sessions : Fin n → Session} {files : Bytes → Bytes} {fleet : Fleet n}

/-- Whatever the network does to whose datagrams, and in whatever order the processes run. -/
theorem fleet_independent (hnames : Function.Injective fun i => (sessions i).outName)
    (hrun : Fleet.Reach sessions files fleet) :
    (∀ i, (sessions i).Reach files (fleet.alone i (sessions i).outName files)) ∧
      ∀ name, (∀ i, (sessions i).outName ≠ name) → fleet.files name = files name :=
  ⟨hrun.alone hnames, fun _ hname => hrun.files_eq hnames hname⟩

/-- A client with one child: its file is a prefix of its input, and all of it once it reports
success, whatever becomes of the others and however many children they have. -/
theorem fleet_copied (hnames : Function.Injective fun i => (sessions i).outName)
    (hrun : Fleet.Reach sessions files fleet) (i : Fin n)
    (hone : (fleet.parties i).children.length ≤ 1) :
    (∀ child ∈ (fleet.parties i).children, child.Opened →
        fleet.files (sessions i).outName <+: (sessions i).file) ∧
      (processFile (fleet.parties i).rcopy = some 0 →
        fleet.files (sessions i).outName = (sessions i).file) := by
  have hreach := hrun.alone hnames i
  have hlen : (fleet.alone i (sessions i).outName files).children.length ≤ 1 := by
    refine Nat.le_trans (Nat.le_of_eq ?_) hone
    exact List.length_map (Child.rename (view i))
  have hfile : (fleet.alone i (sessions i).outName files).files (sessions i).outName
      = fleet.files (sessions i).outName := Function.update_self (sessions i).outName _ files
  rw [← hfile]
  constructor
  · intro child hmem hopened
    have hown : child.rename (view i) ∈ (fleet.alone i (sessions i).outName files).children :=
      List.mem_map_of_mem hmem
    exact hreach.begins hlen hown hopened
  · intro hresult
    exact Session.Run.file_of_processFile (Session.Reach.quiet hreach hlen) hresult

end Independent

/-! ### Two clients -/

/-- The byte "A" for the file "a", and the byte "B" for the file "b". -/
def twoSessions : Fin 2 → Session
  | 0 => letterSession
  | 1 =>
      { letterSession with
        outName := [98]
        chunks := [[66]]
        name_ok := by decide
        chunks_ok := by decide }

def twoRun : List (Fin 2 × Label) :=
  [(0, .serverRecv (.other 0) (twoSessions 0).filenamePacket),
    (1, .serverRecv (.other 1) (twoSessions 1).filenamePacket),
    (1, .childSetup 0 true true), (0, .childSetup 0 true true),
    (0, .rcopyRecv (.child (Nat.pair 0 0)) (builtPacket 1 flagFilenameResp [0])),
    (1, .rcopyRecv (.child (Nat.pair 1 0)) (builtPacket 1 flagFilenameResp [0])),
    (0, .childRecv 0 (.other 0) (builtPacket 2 flagData [65])),
    (1, .childRecv 0 (.other 1) (builtPacket 2 flagData [66])),
    (1, .rcopyRecv (.child (Nat.pair 1 0)) (builtPacket 2 flagRr (htonl 3))),
    (0, .rcopyRecv (.child (Nat.pair 0 0)) (builtPacket 2 flagRr (htonl 3))),
    (0, .rcopyTimeout), (1, .rcopyTimeout),
    (0, .childRecv 0 (.other 0) (builtPacket 3 flagEof [])),
    (0, .rcopyRecv (.child (Nat.pair 0 0)) (builtPacket 3 flagEofAck []))]

theorem twoSessions_injective : Function.Injective fun i => (twoSessions i).outName := by
  decide +kernel

theorem fleet_independent_two :
    ∃ fleet, exec Fleet.next (Fleet.start twoSessions fun _ => [1, 2]) twoRun = some fleet ∧
      (twoSessions 1).Reach (fun _ => [1, 2]) (fleet.alone 1 [98] fun _ => [1, 2]) ∧
      fleet.files [99] = [1, 2] := by
  have hexec : (exec Fleet.next (Fleet.start twoSessions fun _ => [1, 2]) twoRun).isSome
      = true := by
    decide +kernel
  obtain ⟨fleet, hfleet⟩ := Option.isSome_iff_exists.mp hexec
  obtain ⟨halone, hfiles⟩ := fleet_independent twoSessions_injective (Steps.of_exec hfleet)
  exact ⟨fleet, hfleet, halone 1, hfiles [99] (by decide)⟩

theorem fleet_copied_two :
    ∃ fleet, exec Fleet.next (Fleet.start twoSessions fun _ => [1, 2]) twoRun = some fleet ∧
      processFile (fleet.parties 0).rcopy = some 0 ∧ fleet.files [97] = [65] := by
  have hexec : (exec Fleet.next (Fleet.start twoSessions fun _ => [1, 2]) twoRun).map
      (fun fleet => ((fleet.parties 0).children.length, processFile (fleet.parties 0).rcopy))
      = some (1, some 0) := by
    decide +kernel
  obtain ⟨fleet, hfleet, heq⟩ := Option.map_eq_some_iff.mp hexec
  obtain ⟨hone, hresult⟩ := Prod.mk.inj heq
  exact ⟨fleet, hfleet, hresult, (fleet_copied twoSessions_injective (Steps.of_exec hfleet) 0
    (Nat.le_of_eq hone)).2 hresult⟩

end SelectiveReject
