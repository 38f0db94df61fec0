/-
# `SelectiveReject.Network` — one rcopy, the server, its children, and the network between them

The state is the rcopy process, the children forked so far in order (a child that
has ended stays in the list), and the contents of the files of the server's
directory.  `process_server` keeps nothing from one turn to the next.

The network has no state of its own.  Everything ever sent is in the senders'
logs, and `deliverable` is all it promises: a datagram that reaches `dst` from `src` was
sent by `src` to `dst`, or is a damaged copy of such a one that `check_packet` rejects.  Loss is a
datagram never delivered, duplication one delivered twice, delay and reordering
are the order of the labels.  A `pollCall` may time out at any moment.

Children that opened the same name share the file: each has its own offset, and
the contents are loaded before a child's step and stored after it.
-/
import SelectiveReject.Lib.Machine
import SelectiveReject.Rcopy
import SelectiveReject.Server

namespace SelectiveReject

structure Network where
  rcopy : Rcopy
  children : List (Child OutFile)
  files : Bytes → Bytes

inductive Label where
  | rcopyTimeout
  | rcopyRecv (src : Addr) (packet : Bytes)
  | serverRecv (src : Addr) (packet : Bytes)
  | childSetup (n : Nat) (openOk callocOk : Bool)
  | childTimeout (n : Nat)
  | childRecv (n : Nat) (src : Addr) (packet : Bytes)
deriving DecidableEq, Repr

namespace Network

/-- Every datagram a socket has sent so far. -/
def sentBy (net : Network) : Addr → List Sent
  | .rcopy => net.rcopy.info.sent
  | .child n =>
      match net.children[n]? with
      | some child => child.info.sent
      | none => []
  | .server | .other _ => []

/-- May `packet` arrive at `dst` with source address `src`? -/
def deliverable (net : Network) (src dst : Addr) (packet : Bytes) : Bool :=
  decide (⟨dst, packet⟩ ∈ net.sentBy src) ||
    (!checkPacket packet && (net.sentBy src).any fun sent => decide (sent.dst = dst))

/-- The child with the file it shares as it is now. -/
def load (net : Network) (child : Child OutFile) : Child OutFile :=
  { child with
    info := { child.info with
      outputFile := { child.info.outputFile with contents := net.files (fileName child.info) } } }

/-- Put a child back, and the contents of its file. -/
def store (net : Network) (n : Nat) (child : Child OutFile) : Network :=
  { net with
    children := net.children.set n child
    files := Function.update net.files (fileName child.info) child.info.outputFile.contents }

/-- A `pollCall` of child `n` came back with `ev`. -/
def childPoll (net : Network) (n : Nat) (ev : PollEvent) : Option Network :=
  match net.children[n]? with
  | some child => some (net.store n (childStep OutFile.write (net.load child) ev))
  | none => none

def next (net : Network) : Label → Option Network
  | .rcopyTimeout => some { net with rcopy := rcopyStep net.rcopy .timeout }
  | .rcopyRecv src packet =>
      if net.deliverable src .rcopy packet = true then
        some { net with rcopy := rcopyStep net.rcopy (.recv src packet) }
      else none
  | .serverRecv src packet =>
      if net.deliverable src .server packet = true then
        match processServer packet src (⟨[], 0⟩ : OutFile) with
        | some child => some { net with children := net.children ++ [child] }
        | none => some net
      else none
  | .childSetup n openOk callocOk =>
      match net.children[n]? with
      | some child =>
          if child.state = .filename then
            if openOk = true then
              -- O_TRUNC empties the file; the descriptor starts at offset 0
              some (net.store n (SelectiveReject.childSetup child (some ⟨[], 0⟩) callocOk))
            else
              some { net with
                children := net.children.set n (SelectiveReject.childSetup child none callocOk) }
          else none
      | none => none
  | .childTimeout n => net.childPoll n .timeout
  | .childRecv n src packet =>
      if net.deliverable src (.child n) packet = true then net.childPoll n (.recv src packet)
      else none

/-- `next` without its promise about what arrives. -/
def act (net : Network) : Label → Option Network
  | .rcopyTimeout => some { net with rcopy := rcopyStep net.rcopy .timeout }
  | .rcopyRecv src packet => some { net with rcopy := rcopyStep net.rcopy (.recv src packet) }
  | .serverRecv src packet =>
      match processServer packet src (⟨[], 0⟩ : OutFile) with
      | some child => some { net with children := net.children ++ [child] }
      | none => some net
  | .childSetup n openOk callocOk => net.next (.childSetup n openOk callocOk)
  | .childTimeout n => net.childPoll n .timeout
  | .childRecv n src packet => net.childPoll n (.recv src packet)

/-! ## What a label does, and when -/

/-- `next` as a relation, one rule for each thing that can happen. -/
inductive Step (net : Network) : Label → Network → Prop
  | rcopyTimeout : Step net .rcopyTimeout { net with rcopy := rcopyStep net.rcopy .timeout }
  | rcopyRecv {src : Addr} {packet : Bytes} (hdel : net.deliverable src .rcopy packet = true) :
      Step net (.rcopyRecv src packet) { net with rcopy := rcopyStep net.rcopy (.recv src packet) }
  | serverForks {src : Addr} {packet : Bytes} {child : Child OutFile}
      (hdel : net.deliverable src .server packet = true)
      (hfork : processServer packet src (⟨[], 0⟩ : OutFile) = some child) :
      Step net (.serverRecv src packet) { net with children := net.children ++ [child] }
  | serverIgnores {src : Addr} {packet : Bytes}
      (hdel : net.deliverable src .server packet = true)
      (hnone : processServer packet src (⟨[], 0⟩ : OutFile) = none) :
      Step net (.serverRecv src packet) net
  | childOpens {n : Nat} {callocOk : Bool} {child : Child OutFile}
      (hget : net.children[n]? = some child) (hstate : child.state = .filename) :
      Step net (.childSetup n true callocOk)
        (net.store n (SelectiveReject.childSetup child (some ⟨[], 0⟩) callocOk))
  | childRefuses {n : Nat} {callocOk : Bool} {child : Child OutFile}
      (hget : net.children[n]? = some child) (hstate : child.state = .filename) :
      Step net (.childSetup n false callocOk)
        { net with
          children := net.children.set n (SelectiveReject.childSetup child none callocOk) }
  | childTimeout {n : Nat} {net' : Network} (hpoll : net.childPoll n .timeout = some net') :
      Step net (.childTimeout n) net'
  | childRecv {n : Nat} {src : Addr} {packet : Bytes} {net' : Network}
      (hdel : net.deliverable src (.child n) packet = true)
      (hpoll : net.childPoll n (.recv src packet) = some net') :
      Step net (.childRecv n src packet) net'

theorem childPoll_eq_some {net net' : Network} {n : Nat} {ev : PollEvent} :
    net.childPoll n ev = some net' ↔ ∃ child, net.children[n]? = some child ∧
      net' = net.store n (childStep OutFile.write (net.load child) ev) := by
  rw [childPoll]
  constructor
  · intro hpoll
    split at hpoll
    · rename_i child hget
      exact ⟨child, hget, (Option.some.inj hpoll).symm⟩
    · cases hpoll
  · rintro ⟨child, hget, rfl⟩
    rw [hget]

theorem step_of_next {net net' : Network} {label : Label} (h : net.next label = some net') :
    net.Step label net' := by
  cases label with
  | rcopyTimeout =>
      obtain rfl := Option.some.inj h
      exact .rcopyTimeout
  | rcopyRecv src packet =>
      simp only [next] at h
      split at h
      · rename_i hdel
        obtain rfl := Option.some.inj h
        exact .rcopyRecv hdel
      · cases h
  | serverRecv src packet =>
      simp only [next] at h
      split at h
      · rename_i hdel
        split at h
        · rename_i child hfork
          obtain rfl := Option.some.inj h
          exact .serverForks hdel hfork
        · rename_i hnone
          obtain rfl := Option.some.inj h
          exact .serverIgnores hdel hnone
      · cases h
  | childSetup n openOk callocOk =>
      simp only [next] at h
      split at h
      · rename_i child hget
        split at h
        · rename_i hstate
          cases openOk with
          | true =>
              obtain rfl := Option.some.inj h
              exact .childOpens hget hstate
          | false =>
              obtain rfl := Option.some.inj h
              exact .childRefuses hget hstate
        · cases h
      · cases h
  | childTimeout n => exact .childTimeout h
  | childRecv n src packet =>
      simp only [next] at h
      split at h
      · rename_i hdel
        exact .childRecv hdel h
      · cases h

theorem next_of_step {net net' : Network} {label : Label} (h : net.Step label net') :
    net.next label = some net' := by
  cases h with
  | rcopyTimeout => rfl
  | rcopyRecv hdel => exact if_pos hdel
  | serverForks hdel hfork => rw [next, if_pos hdel, hfork]
  | serverIgnores hdel hnone => rw [next, if_pos hdel, hnone]
  | childOpens hget hstate => simp only [next, hget, hstate, if_true]
  | childRefuses hget hstate =>
      simp only [next, hget, hstate, if_true, Bool.false_eq_true, if_false]
  | childTimeout hpoll => exact hpoll
  | childRecv hdel hpoll => rw [next, if_pos hdel, hpoll]

end Network

/-- rcopy has sent its first FILENAME packet; no child exists. -/
def Session.network (session : Session) (files : Bytes → Bytes) : Network :=
  { rcopy := session.start, children := [], files := files }

/-- A run of a session over a directory, each of whose steps satisfies `ok`. -/
abbrev Session.Run (session : Session) (files : Bytes → Bytes) (ok : Network → Label → Prop) :
    Network → Prop :=
  Machine.Steps Network.next ok (session.network files)

abbrev Session.Reach (session : Session) (files : Bytes → Bytes) : Network → Prop :=
  session.Run files fun _ _ => True

end SelectiveReject
