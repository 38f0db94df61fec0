/-
# `SelectiveReject.EarlyEof` — when an EOF may be acknowledged

`handle_eof_packet` "handles EOF after all data has arrived" and looks neither at the EOF's number
nor at the buffer: any valid EOF is acknowledged.  What is missing is one test of two
predicates the buffer already has,

    get_seq(packet) == buffer_expected(&info->buffer) && buffer_has_later(&info->buffer) == 0

and `eofAck_iff` says that it is exactly the missing one: where it holds, every packet
below the EOF is in the file and no slot is used; where it fails, the child has
acknowledged a file it does not have.
-/
import SelectiveReject.BufferRefine

namespace SelectiveReject

open DirectMap Machine Reassembly

/-! ## What has been received -/

/-- The payload `data` came in a valid data packet numbered `k`. -/
def Delivered (datagrams : List (Addr × Bytes)) (k : Nat) (data : Bytes) : Prop :=
  ∃ datagram ∈ datagrams, checkPacket datagram.2 = true ∧ getFlag datagram.2 = flagData ∧
    (getSeq datagram.2).toNat = k ∧ datagram.2.drop srejHeaderLen = data

theorem Delivered.append {datagrams : List (Addr × Bytes)} {k : Nat} {data : Bytes}
    (h : Delivered datagrams k data) (more : List (Addr × Bytes)) :
    Delivered (datagrams ++ more) k data := by
  obtain ⟨datagram, hmem, h⟩ := h
  exact ⟨datagram, List.mem_append_left _ hmem, h⟩

/-- As long as the child waits for data, what it has accepted was delivered to it. -/
def Receiving (size : Int32) (datagrams : List (Addr × Bytes)) (child : Child OutFile) : Prop :=
  child.state = .recvData → ∃ got, ReceiverInv size got child.info ∧
    ∀ k data, got k = some data → Delivered datagrams k data

theorem Receiving.step {size : Int32} {datagrams : List (Addr × Bytes)} {child : Child OutFile}
    (h : Receiving size datagrams child) (src : Addr) (packet : Bytes) :
    Receiving size (datagrams ++ [(src, packet)])
      (childStep OutFile.write child (.recv src packet)) := by
  intro hstate
  cases hchild : child.state with
  | recvData =>
      obtain ⟨got, hinv, hgot⟩ := h hchild
      simp only [childStep, hchild] at hstate ⊢
      rcases hinv.buffer.recvDataRecv OutFile.write_nonneg src packet with
        ⟨hcheck, hflag, info', hrecv, hbuffer, hfile, _⟩ | ⟨_, _, hrecv⟩ | ⟨_, hrecv⟩
      · rw [hrecv]
        refine ⟨_, hinv.grow packet hbuffer hfile, fun k data hk => ?_⟩
        by_cases hold : got k = none
        · obtain ⟨hseq, hdata⟩ := eq_of_accept hold hk
          exact ⟨(src, packet), List.mem_append_right _ (List.mem_singleton_self _), hcheck,
            hflag, hseq, hdata⟩
        · rw [accept_of_ne_none _ _ hold] at hk
          exact (hgot k data hk).append _
      · rw [hrecv] at hstate
        cases hstate
      · rw [hrecv]
        exact ⟨got, ⟨hinv.buffer, hinv.at_end, hinv.contents⟩,
          fun k data hk => (hgot k data hk).append _⟩
  | waitOnDone =>
      simp only [childStep, hchild, waitOnDoneRecv] at hstate
      repeat' split at hstate
      all_goals cases hstate
  | filename => simp only [childStep, hchild, reduceCtorEq] at hstate
  | done => simp only [childStep, hchild, reduceCtorEq] at hstate
  | exited => simp only [childStep, hchild, reduceCtorEq] at hstate

theorem Receiving.feed {size : Int32} {child : Child OutFile} (h : Receiving size [] child)
    (datagrams : List (Addr × Bytes)) :
    Receiving size datagrams
      (feed (childStep OutFile.write) child (datagrams.map fun d => .recv d.1 d.2)) := by
  induction datagrams using List.reverseRecOn with
  | nil => exact h
  | append_singleton datagrams datagram ih =>
      rw [List.map_append, feed_append]
      exact ih.step datagram.1 datagram.2

theorem receiving_filenameState {info : ServerInfo OutFile} {callocOk : Bool} :
    Receiving (readU32 info.firstPacket srejHeaderLen).toInt32 []
      (filenameState info (some ⟨[], 0⟩) callocOk) := by
  intro hstate
  obtain ⟨file, buffer, hfile, hinit, hfile', hbuffer⟩ := filenameState_recvData hstate
  rw [← Option.some.inj hfile] at hfile'
  rw [← hbuffer] at hinit
  exact ⟨_, receiverInv_init hinit hfile', nofun⟩

/-! ## The acknowledged EOF -/

/-- What an acknowledged EOF numbered `n` should mean: nothing is missing below `n`,
nothing waits in the buffer, and the file is what was sent below `n`. -/
structure AllArrived (datagrams : List (Addr × Bytes)) (info : ServerInfo OutFile) (n : UInt32) :
    Prop where
  expected : info.buffer.expected = n
  unused : ∀ entry ∈ info.buffer.entry, entry.used = false
  written : ∃ got, (∀ k data, got k = some data → Delivered datagrams k data) ∧
    (∀ k, 2 ≤ k → k < n.toNat → got k ≠ none) ∧
    info.outputFile.contents = joined got 2 n.toNat

theorem BufferInv.unused {size : Int32} {got : Nat → Option Bytes} {buffer : Buffer}
    (h : BufferInv size got buffer) (hlater : bufferHasLater buffer = false) :
    ∀ entry ∈ buffer.entry, entry.used = false := by
  intro entry hentry
  by_contra hused
  obtain ⟨i, hi, rfl⟩ := List.mem_iff_getElem.mp hentry
  obtain ⟨_, hahead⟩ := (h.stores i _ _).mp ⟨_, List.getElem?_eq_getElem hi,
    BufferEntry.view_eq_some.mpr ⟨by simpa using hused, rfl, rfl⟩⟩
  obtain ⟨hle, hgot⟩ := of_ahead_ne_none (by rw [hahead]; nofun)
  have hne : buffer.expected.toNat ≠ buffer.entry[i].seq.toNat := by
    intro heq
    rw [← heq] at hgot
    exact hgot h.gap.missing
  have hfound := h.hasLater_iff.mpr ⟨_, Nat.lt_of_le_of_ne hle hne, by rw [hahead]; nofun⟩
  rw [hlater] at hfound
  cases hfound

theorem bufferHasLater_of_unused {buffer : Buffer}
    (h : ∀ entry ∈ buffer.entry, entry.used = false) : bufferHasLater buffer = false := by
  by_contra hlater
  simp only [bufferHasLater, Bool.not_eq_false, List.any_eq_true, decide_eq_true_eq] at hlater
  obtain ⟨i, _, hused, _⟩ := hlater
  have hi := Buffer.at_lt hused
  have hat : buffer.at i = buffer.entry[i] := by
    rw [Buffer.at, List.getD_eq_getElem?_getD, List.getElem?_eq_getElem hi, Option.getD_some]
  rw [hat, h _ (List.getElem_mem hi)] at hused
  cases hused

/-- The test that is missing in `handle_eof_packet`. -/
def EofInOrder (info : ServerInfo OutFile) (packet : Bytes) : Prop :=
  getSeq packet = bufferExpected info.buffer ∧ bufferHasLater info.buffer = false

/-- A valid EOF is acknowledged whatever it says, and rightly so exactly when the
missing test holds. -/
theorem eofAck_iff {info : ServerInfo OutFile} {callocOk : Bool} {datagrams : List (Addr × Bytes)}
    {child : Child OutFile} {src : Addr} {packet : Bytes}
    (hchild : child = feed (childStep OutFile.write) (filenameState info (some ⟨[], 0⟩) callocOk)
      (datagrams.map fun d => .recv d.1 d.2))
    (hstate : child.state = .recvData) (hcheck : checkPacket packet = true)
    (hflag : getFlag packet = flagEof) :
    (childStep OutFile.write child (.recv src packet)).state = .waitOnDone ∧
    (∃ ack, getFlag ack.sent.packet = flagEofAck ∧
      (childStep OutFile.write child (.recv src packet)).info.log = child.info.log ++ [ack]) ∧
    (AllArrived datagrams (childStep OutFile.write child (.recv src packet)).info (getSeq packet) ↔
      EofInOrder child.info packet) := by
  have hreceiving : Receiving _ datagrams child := hchild ▸ receiving_filenameState.feed datagrams
  obtain ⟨got, h, hgot⟩ := hreceiving hstate
  have hstep : childStep OutFile.write child (.recv src packet)
      = ⟨.waitOnDone, handleEofPacket { child.info with client := src }⟩ := by
    simp only [childStep, hstate, recvDataRecv, hcheck, hflag, Bool.true_eq_false, if_false,
      if_true, if_neg (show flagEof ≠ flagData by decide)]
  rw [hstep]
  refine ⟨rfl, ⟨_, getFlag_builtPacket _ _ (Nat.zero_le _), rfl⟩, ?_⟩
  constructor
  · rintro ⟨hexpected, hunused, _⟩
    exact ⟨hexpected.symm, bufferHasLater_of_unused hunused⟩
  · rintro ⟨hseq, hlater⟩
    refine ⟨hseq.symm, h.buffer.unused hlater, got, hgot, ?_, ?_⟩
    · rw [hseq]
      exact h.buffer.gap.full
    · rw [hseq]
      exact h.contents

/-- The child forked for a transfer with a window of one. -/
def forkedChild : Child OutFile :=
  processClient (builtPacket 1 flagFilename (htonl 1 ++ htonl 1 ++ [111, 0])) .rcopy ⟨[], 0⟩

def openedChild : Child OutFile := filenameState forkedChild.info (some ⟨[], 0⟩) true

/-- It has data packet 2, so EOF 3 is in order. -/
theorem eofAck_iff_in_order :
    AllArrived [(.rcopy, builtPacket 2 flagData [65])]
      (childStep OutFile.write
        (feed (childStep OutFile.write) openedChild [.recv .rcopy (builtPacket 2 flagData [65])])
        (.recv .rcopy (builtPacket 3 flagEof []))).info 3 := by
  have hiff := @eofAck_iff forkedChild.info true [(.rcopy, builtPacket 2 flagData [65])] _ .rcopy
    (builtPacket 3 flagEof []) rfl (by decide +kernel) (by decide +kernel) (by decide +kernel)
  have horder : EofInOrder (feed (childStep OutFile.write) openedChild
      [.recv .rcopy (builtPacket 2 flagData [65])]).info (builtPacket 3 flagEof []) :=
    ⟨by decide +kernel, by decide +kernel⟩
  exact hiff.2.2.mpr horder

/-- It has nothing, and acknowledges EOF 3: this is what a second child does when the
EOF of the transfer reaches it. -/
theorem eofAck_early :
    openedChild.state = .recvData ∧ checkPacket (builtPacket 3 flagEof []) = true ∧
    (childStep OutFile.write openedChild (.recv .rcopy (builtPacket 3 flagEof []))).state
      = .waitOnDone ∧
    (childStep OutFile.write openedChild (.recv .rcopy (builtPacket 3 flagEof []))).info.sent
      = openedChild.info.sent ++ [⟨.rcopy, builtPacket 2 flagEofAck []⟩] ∧
    ¬ AllArrived []
      (childStep OutFile.write openedChild (.recv .rcopy (builtPacket 3 flagEof []))).info 3 := by
  refine ⟨by decide +kernel, by decide +kernel, by decide +kernel, by decide +kernel, ?_⟩
  intro h
  exact absurd h.expected (by decide +kernel)

end SelectiveReject
