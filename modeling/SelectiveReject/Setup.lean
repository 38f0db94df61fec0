/-
# `SelectiveReject.Setup` — more than one child for one rcopy

rcopy repeats its FILENAME packet every second and `process_server` forks a child for each copy, so
children of one session meet: they open the same name, and they all answer rcopy.  `SetupSafe` is
what an idempotent setup would promise once one child's response is accepted.  The code keeps
it as long as the others stay out of the way (`setup_safe_of_quiet`), and it has nothing that makes
them:

    open with O_TRUNC     a late child empties the file the first one is writing
    safeRecvfrom          a late response moves info->server to the child it came from
    handle_eof_packet     that child acknowledges the EOF of a file it has not received

`setup_unsafe` is a run in which all three happen and rcopy reports success.
-/
import SelectiveReject.EndToEnd

namespace SelectiveReject

open Machine

def Label.child : Label → Option Nat
  | .childSetup n _ _ | .childTimeout n | .childRecv n _ _ => some n
  | .rcopyTimeout | .rcopyRecv _ _ | .serverRecv _ _ => none

/-- Once the response of a child is accepted, the steps `ok` permits change the output file
only when they are that child's, what rcopy sends behind the setup goes to that child, and success
means a complete file. -/
structure SetupSafe (session : Session) (ok : Network → Label → Prop) (net : Network) : Prop where
  file : ∀ c n label net', net.rcopy.info.accepted = some (.child c) → label.child = some n →
    n ≠ c → ok net label → net.next label = some net' →
      net'.files session.outName = net.files session.outName
  dst : ∀ c, net.rcopy.info.accepted = some (.child c) → ∀ sent ∈ net.rcopy.info.sent,
    getFlag sent.packet = flagData ∨ getFlag sent.packet = flagEof → sent.dst = .child c
  result : processFile net.rcopy = some 0 → net.files session.outName = session.file

theorem getElem?_next_child {net net' : Network} {label : Label} {n c : Nat}
    (hlabel : label.child = some n) (hn : n ≠ c) (hstep : net.next label = some net') :
    net'.children[c]? = net.children[c]? := by
  have hpoll : ∀ {ev : PollEvent} {net' : Network}, net.childPoll n ev = some net' →
      net'.children[c]? = net.children[c]? := by
    intro ev net' hpoll
    obtain ⟨child, _, rfl⟩ := Network.childPoll_eq_some.mp hpoll
    exact List.getElem?_set_ne hn
  have hcases := Network.step_of_next hstep
  cases hcases with
  | childOpens hget hstate =>
      obtain rfl := Option.some.inj hlabel
      exact List.getElem?_set_ne hn
  | childRefuses hget hstate =>
      obtain rfl := Option.some.inj hlabel
      exact List.getElem?_set_ne hn
  | childTimeout hstep =>
      obtain rfl := Option.some.inj hlabel
      exact hpoll hstep
  | childRecv hdel hstep =>
      obtain rfl := Option.some.inj hlabel
      exact hpoll hstep
  | rcopyTimeout => cases hlabel
  | rcopyRecv hdel => cases hlabel
  | serverForks hdel hfork => cases hlabel
  | serverIgnores hdel hnone => cases hlabel

theorem Joint.serves_of_accepted {session : Session} {net : Network} (h : Joint session net)
    {c : Nat} (haccepted : net.rcopy.info.accepted = some (.child c)) :
    ∃ child, Serves session net c child := by
  rcases h with hwaits | ⟨k, child, hserves⟩
  · rw [hwaits.accepted] at haccepted
    cases haccepted
  · obtain rfl := Addr.child.inj (Option.some.inj (hserves.accepted.symm.trans haccepted))
    exact ⟨child, hserves⟩

/-- Every state of every quiet run, with any number of FILENAME copies and children. -/
theorem setup_safe_of_quiet {session : Session} {files : Bytes → Bytes} {net : Network}
    (hrun : session.Run files (Quiet session) net) : SetupSafe session (Quiet session) net := by
  obtain ⟨hnet, hjoint⟩ := Session.Run.joint hrun
  refine ⟨?_, ?_, ?_⟩
  · intro c n label net' haccepted hlabel hn hquiet hstep
    obtain ⟨child, hserves⟩ := hjoint.serves_of_accepted haccepted
    obtain ⟨child', hserves'⟩ := hserves.step hnet hquiet hstep
    -- before and after, the file is what the accepted child has written
    have hsame : child' = child := by
      have hget := hserves'.get
      rw [getElem?_next_child hlabel hn hstep, hserves.get] at hget
      exact (Option.some.inj hget).symm
    rw [hserves'.contents (hnet.step hstep), hserves.contents hnet, hsame]
  · intro c haccepted sent hsent hflag
    obtain ⟨child, hserves⟩ := hjoint.serves_of_accepted haccepted
    rcases hserves.sent sent hsent with hname | hdst
    · rcases hflag with hdata | heof
      · exact absurd (hname.symm.trans hdata) (by decide)
      · exact absurd (hname.symm.trans heof) (by decide)
    · exact hdst
  · intro hresult
    rcases hjoint with hwaits | ⟨c, child, hserves⟩
    · exact absurd hresult (hwaits.not_processFile hnet)
    · exact hserves.file_of_processFile hnet hresult

/-- Nothing is asked of a step before rcopy has accepted a response. -/
theorem Quiet.of_accepted {session : Session} {net : Network}
    (haccepted : net.rcopy.info.accepted = none) (label : Label) : Quiet session net label := by
  cases label with
  | rcopyRecv src packet =>
      intro peer hpeer
      rw [haccepted] at hpeer
      cases hpeer
  | childSetup n openOk callocOk =>
      intro peer hpeer
      rw [haccepted] at hpeer
      cases hpeer
  | rcopyTimeout => trivial
  | serverRecv src packet => trivial
  | childTimeout n => trivial
  | childRecv n src packet => trivial

/-- Two children, both with the file open before the first response is accepted. -/
theorem setup_safe_of_quiet_two :
    ∃ net, net.children.length = 2 ∧ net.rcopy.info.accepted = some (.child 0) ∧
      SetupSafe letterSession (Quiet letterSession) net := by
  have hexec : (exec (fun net label =>
        if net.rcopy.info.accepted.isNone = true then net.next label else none)
      (letterSession.network fun _ => [1, 2])
      [.serverRecv .rcopy letterSession.filenamePacket,
        .serverRecv .rcopy letterSession.filenamePacket, .childSetup 0 true true,
        .childSetup 1 true true, .rcopyRecv (.child 0) (builtPacket 1 flagFilenameResp [0])]).map
      (fun net => (net.children.length, net.rcopy.info.accepted)) = some (2, some (.child 0)) := by
    decide +kernel
  obtain ⟨net, hnet, heq⟩ := Option.map_eq_some_iff.mp hexec
  obtain ⟨htwo, haccepted⟩ := Prod.mk.inj heq
  refine ⟨net, htwo, haccepted, setup_safe_of_quiet (Steps.of_checked_exec ?_ hnet)⟩
  intro net label hnone
  exact Quiet.of_accepted (Option.isNone_iff_eq_none.mp hnone) label

/-- A file with one byte, two copies of the FILENAME packet.  The second child opens the file
after the first has written it, its response arrives last, and it acknowledges the EOF: rcopy
returns 0, and the file is empty. -/
theorem setup_unsafe :
    ∃ before late net,
      exec Network.next (letterSession.network fun _ => [])
          [.serverRecv .rcopy letterSession.filenamePacket,
            .serverRecv .rcopy letterSession.filenamePacket, .childSetup 0 true true,
            .rcopyRecv (.child 0) (builtPacket 1 flagFilenameResp [0]),
            .childRecv 0 .rcopy (builtPacket 2 flagData [65])] = some before ∧
      before.rcopy.info.accepted = some (.child 0) ∧ before.files [97] = [65] ∧
      before.next (.childSetup 1 true true) = some late ∧ late.files [97] = [] ∧
      exec Network.next late
          [.rcopyRecv (.child 0) (builtPacket 2 flagRr (htonl 3)),
            .rcopyRecv (.child 1) (builtPacket 1 flagFilenameResp [0]), .rcopyTimeout,
            .childRecv 1 .rcopy (builtPacket 3 flagEof []),
            .rcopyRecv (.child 1) (builtPacket 2 flagEofAck [])] = some net ∧
      net.rcopy.info.accepted = some (.child 0) ∧
      ⟨.child 1, letterSession.eofPacket⟩ ∈ net.rcopy.info.sent ∧
      processFile net.rcopy = some 0 ∧ net.files [97] = [] ∧
      ¬ SetupSafe letterSession (fun _ _ => True) net := by
  let first : List Label :=
    [.serverRecv .rcopy letterSession.filenamePacket,
      .serverRecv .rcopy letterSession.filenamePacket, .childSetup 0 true true,
      .rcopyRecv (.child 0) (builtPacket 1 flagFilenameResp [0]),
      .childRecv 0 .rcopy (builtPacket 2 flagData [65])]
  let last : List Label :=
    [.rcopyRecv (.child 0) (builtPacket 2 flagRr (htonl 3)),
      .rcopyRecv (.child 1) (builtPacket 1 flagFilenameResp [0]), .rcopyTimeout,
      .childRecv 1 .rcopy (builtPacket 3 flagEof []),
      .rcopyRecv (.child 1) (builtPacket 2 flagEofAck [])]
  have hbefore : (exec Network.next (letterSession.network fun _ => []) first).map
      (fun net => (net.rcopy.info.accepted, net.files [97]))
      = some (some (.child 0), [65]) := by
    decide +kernel
  have hlate : ((exec Network.next (letterSession.network fun _ => []) first).bind
      (fun net => net.next (.childSetup 1 true true))).map (fun net => net.files [97])
      = some [] := by
    decide +kernel
  have hsent : (((exec Network.next (letterSession.network fun _ => []) first).bind
      (fun net => net.next (.childSetup 1 true true))).bind
      (fun net => exec Network.next net last)).map
      (fun net => (net.rcopy.info.accepted,
        decide (⟨.child 1, letterSession.eofPacket⟩ ∈ net.rcopy.info.sent)))
      = some (some (.child 0), true) := by
    decide +kernel
  have hresult : (((exec Network.next (letterSession.network fun _ => []) first).bind
      (fun net => net.next (.childSetup 1 true true))).bind
      (fun net => exec Network.next net last)).map
      (fun net => (processFile net.rcopy, net.files [97])) = some (some 0, []) := by
    decide +kernel
  obtain ⟨before, hfirst, hbefore⟩ := Option.map_eq_some_iff.mp hbefore
  rw [hfirst, Option.bind_some] at hlate hsent hresult
  obtain ⟨late, hopen, hlate⟩ := Option.map_eq_some_iff.mp hlate
  rw [hopen, Option.bind_some] at hsent hresult
  obtain ⟨net, hlast, hsent⟩ := Option.map_eq_some_iff.mp hsent
  rw [hlast, Option.map_some] at hresult
  obtain ⟨hready, hfile⟩ := Prod.mk.inj hbefore
  obtain ⟨haccepted, heof⟩ := Prod.mk.inj hsent
  obtain ⟨hzero, hempty⟩ := Prod.mk.inj (Option.some.inj hresult)
  refine ⟨before, late, net, hfirst, hready, hfile, hopen, hlate, hlast, haccepted,
    of_decide_eq_true heof, hzero, hempty, ?_⟩
  intro hsafe
  have hsame := hsafe.result hzero
  rw [show letterSession.outName = [97] from rfl, hempty] at hsame
  exact absurd hsame (by decide)

end SelectiveReject
