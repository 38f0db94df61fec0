/-
# `SelectiveReject.EofTries` — what uses up the ten tries for an EOF

`send_eof_state` counts turns of its loop, not timeouts: every outcome of its `pollCall` is a
turn, so a datagram that is not an EOF_ACK costs a try as a lost packet does.  Its result
is therefore read off the first ten outcomes alone (`eofAcknowledged_iff`, `eofFailed_iff`).

Inserting leftover RRs and SREJs into the stream of outcomes moves an EOF_ACK back.  `place n` is
where the `n`-th outcome stands afterwards; the result stays the same exactly when the first
EOF_ACK, if it was among the first ten outcomes, still is (`eof_outcome_iff`).
-/
import SelectiveReject.Lib.Machine
import SelectiveReject.Rcopy

namespace SelectiveReject

open Machine

/-! ## Poll outcomes -/

def IsEofAck : PollEvent → Prop
  | .timeout => False
  | .recv _ packet => checkPacket packet = true ∧ getFlag packet = flagEofAck

/-- A valid RR or SREJ, from anybody. -/
def IsLeftover : PollEvent → Prop
  | .timeout => False
  | .recv _ packet =>
      checkPacket packet = true ∧ (getFlag packet = flagRr ∨ getFlag packet = flagSrej)

theorem not_isEofAck_of_isLeftover {ev : PollEvent} (h : IsLeftover ev) : ¬ IsEofAck ev := by
  cases ev with
  | timeout => exact fun hack => hack
  | recv src packet =>
      rintro ⟨_, hack⟩
      rcases h.2 with hrr | hsrej
      · exact absurd (hack.symm.trans hrr) (by decide)
      · exact absurd (hack.symm.trans hsrej) (by decide)

def heard (info : RcopyInfo) : PollEvent → RcopyInfo
  | .timeout => info
  | .recv src _ => { info with server := src }

theorem hadError_heard (info : RcopyInfo) (ev : PollEvent) :
    (heard info ev).hadError = info.hadError := by
  cases ev <;> rfl

theorem window_heard (info : RcopyInfo) (ev : PollEvent) :
    (heard info ev).window = info.window := by
  cases ev <;> rfl

/-! ## The loop of `send_eof_state` -/

section Loop

variable {info : RcopyInfo} {packet : Bytes} {tries : Nat} {ev : PollEvent}

theorem rcopyStep_eofAck (h : IsEofAck ev) :
    rcopyStep ⟨.sendEofState packet tries, info⟩ ev
      = ⟨.done, sendFinalDone (heard info ev)⟩ := by
  cases ev with
  | timeout => exact h.elim
  | recv src inPacket => exact if_pos h

theorem rcopyStep_eofRetry (h : ¬ IsEofAck ev) :
    rcopyStep ⟨.sendEofState packet tries, info⟩ ev
      = sendEofRetry (heard info ev) packet tries := by
  cases ev with
  | timeout => rfl
  | recv src inPacket => exact if_neg h

end Loop

section Outcome

variable {info : RcopyInfo} {ev : Nat → PollEvent}

/-- Without an EOF_ACK every outcome is one try. -/
theorem after_sendEof (n : Nat) (hn : n < maxTries) (h : ∀ k < n, ¬ IsEofAck (ev k)) :
    ∃ info', after rcopyStep (sendEofState info) ev n
        = ⟨.sendEofState (builtPacket info.window.current flagEof []) n, info'⟩ ∧
      info'.hadError = info.hadError ∧ info'.window = info.window := by
  induction n with
  | zero => exact ⟨_, rfl, rfl, rfl⟩
  | succ n ih =>
      obtain ⟨info', hafter, herr, hwindow⟩ :=
        ih (Nat.lt_of_succ_lt hn) fun k hk => h k (Nat.lt_succ_of_lt hk)
      refine ⟨(heard info' (ev n)).safeSendto (builtPacket info.window.current flagEof []), ?_,
        (hadError_heard info' (ev n)).trans herr, (window_heard info' (ev n)).trans hwindow⟩
      show rcopyStep (after rcopyStep (sendEofState info) ev n) (ev n) = _
      rw [hafter, rcopyStep_eofRetry (h n (Nat.lt_succ_self n)), sendEofRetry, retryLoop,
        if_pos hn]

theorem after_done {rcopy : Rcopy} {n m : Nat} (h : (after rcopyStep rcopy ev n).state = .done)
    (hle : n ≤ m) : after rcopyStep rcopy ev m = after rcopyStep rcopy ev n := by
  induction m, hle using Nat.le_induction with
  | base => rfl
  | succ m _ ih =>
      show rcopyStep (after rcopyStep rcopy ev m) (ev m) = _
      rw [ih]
      generalize after rcopyStep rcopy ev n = last at h
      obtain ⟨state, info'⟩ := last
      obtain rfl : state = .done := h
      cases ev m <;> rfl

theorem processFile_unique {rcopy : Rcopy} {n m : Nat} {a b : Int}
    (ha : processFile (after rcopyStep rcopy ev n) = some a)
    (hb : processFile (after rcopyStep rcopy ev m) = some b) : a = b := by
  have hdone : ∀ {k c}, processFile (after rcopyStep rcopy ev k) = some c →
      (after rcopyStep rcopy ev k).state = .done := by
    intro k c hk
    simp only [processFile] at hk
    split at hk
    · assumption
    · cases hk
  rcases Nat.le_total n m with hle | hle
  · rw [after_done (hdone ha) hle] at hb
    exact Option.some.inj (ha.symm.trans hb)
  · rw [after_done (hdone hb) hle] at ha
    exact Option.some.inj (ha.symm.trans hb)

/-! ## The result -/

variable (info ev)

/-- The EOF is acknowledged: process_file returns 0, and the DONE was the last packet sent. -/
def EofAcknowledged : Prop :=
  ∃ n, processFile (after rcopyStep (sendEofState info) ev n) = some 0 ∧
    ∃ dst, (after rcopyStep (sendEofState info) ev n).info.sent.getLast?
      = some ⟨dst, builtPacket (info.window.current + 1) flagDone []⟩

/-- `had_error`: process_file returns -1. -/
def EofFailed : Prop :=
  ∃ n, processFile (after rcopyStep (sendEofState info) ev n) = some (-1)

variable {info ev}

theorem eofAcknowledged_of_first (herr : info.hadError = false) {n : Nat} (hn : n < maxTries)
    (hack : IsEofAck (ev n)) (hfirst : ∀ k < n, ¬ IsEofAck (ev k)) :
    EofAcknowledged info ev := by
  obtain ⟨info', hafter, herr', hwindow⟩ := after_sendEof n hn hfirst
  have hnext : after rcopyStep (sendEofState info) ev (n + 1)
      = ⟨.done, sendFinalDone (heard info' (ev n))⟩ := by
    show rcopyStep (after rcopyStep (sendEofState info) ev n) (ev n) = _
    rw [hafter, rcopyStep_eofAck hack]
  refine ⟨n + 1, ?_, (heard info' (ev n)).server, ?_⟩
  · rw [hnext]
    refine if_neg ?_
    show ¬ (heard info' (ev n)).hadError = true
    rw [hadError_heard, herr', herr]
    exact Bool.false_ne_true
  · rw [hnext]
    show ((heard info' (ev n)).sent ++ [_]).getLast? = _
    rw [List.getLast?_concat, window_heard, hwindow]

theorem eofFailed_of_none (h : ∀ n < maxTries, ¬ IsEofAck (ev n)) : EofFailed info ev := by
  obtain ⟨info', hafter, _, _⟩ :=
    @after_sendEof info ev 9 (by decide) fun k hk => h k (Nat.lt_trans hk (by decide))
  have hlast : after rcopyStep (sendEofState info) ev 10
      = ⟨.done, { heard info' (ev 9) with hadError := true }⟩ := by
    show rcopyStep (after rcopyStep (sendEofState info) ev 9) (ev 9) = _
    rw [hafter, rcopyStep_eofRetry (h 9 (by decide)), sendEofRetry, retryLoop,
      if_neg (by decide)]
  refine ⟨10, ?_⟩
  rw [hlast]
  rfl

theorem eofAcknowledged_iff (herr : info.hadError = false) :
    EofAcknowledged info ev ↔ ∃ n < maxTries, IsEofAck (ev n) := by
  classical
  constructor
  · rintro ⟨n, hzero, _⟩
    by_contra hnone
    push Not at hnone
    obtain ⟨m, hfail⟩ := @eofFailed_of_none info ev hnone
    exact absurd (processFile_unique hzero hfail) (by decide)
  · intro hex
    obtain ⟨hn, hack⟩ := Nat.find_spec hex
    refine eofAcknowledged_of_first herr hn hack fun k hk hack' => ?_
    exact Nat.find_min hex hk ⟨Nat.lt_trans hk hn, hack'⟩

theorem eofFailed_iff (herr : info.hadError = false) :
    EofFailed info ev ↔ ∀ n < maxTries, ¬ IsEofAck (ev n) := by
  constructor
  · rintro ⟨n, hfail⟩ k hk hack
    obtain ⟨m, hzero, _⟩ := (eofAcknowledged_iff herr).mpr ⟨k, hk, hack⟩
    exact absurd (processFile_unique hzero hfail) (by decide)
  · exact eofFailed_of_none

end Outcome

/-! ## Leftover control packets -/

/-- `fs` is `es` with RRs and SREJs inserted; the `n`-th outcome of `es` stands at `place n`. -/
structure LeftoversInserted (es fs : Nat → PollEvent) (place : Nat → Nat) : Prop where
  mono : StrictMono place
  kept : ∀ n, fs (place n) = es n
  inserted : ∀ m, (∀ n, place n ≠ m) → IsLeftover (fs m)

/-- The first EOF_ACK stays among the first ten outcomes, if it was. -/
def AckInTime (es : Nat → PollEvent) (place : Nat → Nat) : Prop :=
  ∀ n < maxTries, IsEofAck (es n) → (∀ k < n, ¬ IsEofAck (es k)) → place n < maxTries

def SameOutcome (info : RcopyInfo) (es fs : Nat → PollEvent) : Prop :=
  (EofAcknowledged info es ↔ EofAcknowledged info fs) ∧
    (EofFailed info es ↔ EofFailed info fs)

theorem LeftoversInserted.exists_place {es fs : Nat → PollEvent} {place : Nat → Nat}
    (h : LeftoversInserted es fs place) {m : Nat} (hack : IsEofAck (fs m)) :
    ∃ n ≤ m, place n = m ∧ IsEofAck (es n) := by
  by_contra hnone
  refine not_isEofAck_of_isLeftover (h.inserted m fun n hn => hnone ⟨n, ?_, hn, ?_⟩) hack
  · rw [← hn]
    exact h.mono.le_apply
  · rw [← h.kept n, hn]
    exact hack

/-- Inserted RRs and SREJs leave the result alone exactly when the first EOF_ACK still
comes in time. -/
theorem eof_outcome_iff {info : RcopyInfo} (herr : info.hadError = false)
    {es fs : Nat → PollEvent} {place : Nat → Nat} (h : LeftoversInserted es fs place) :
    SameOutcome info es fs ↔ AckInTime es place := by
  classical
  rw [SameOutcome, eofAcknowledged_iff herr, eofAcknowledged_iff herr, eofFailed_iff herr,
    eofFailed_iff herr]
  have hback : (∃ m < maxTries, IsEofAck (fs m)) → ∃ n < maxTries, IsEofAck (es n) := by
    rintro ⟨m, hm, hack⟩
    obtain ⟨n, hle, _, hack'⟩ := h.exists_place hack
    exact ⟨n, Nat.lt_of_le_of_lt hle hm, hack'⟩
  constructor
  · rintro ⟨hsame, _⟩ n hn hack hfirst
    obtain ⟨m, hm, hack'⟩ := hsame.mp ⟨n, hn, hack⟩
    obtain ⟨k, _, rfl, hk⟩ := h.exists_place hack'
    have hle : n ≤ k := Nat.le_of_not_lt fun hlt => hfirst k hlt hk
    exact Nat.lt_of_le_of_lt (h.mono.monotone hle) hm
  · intro htime
    have hforth : (∃ n < maxTries, IsEofAck (es n)) → ∃ m < maxTries, IsEofAck (fs m) := by
      intro hex
      obtain ⟨hn, hack⟩ := Nat.find_spec hex
      refine ⟨place (Nat.find hex), htime _ hn hack fun k hk hack' => ?_, ?_⟩
      · exact Nat.find_min hex hk ⟨Nat.lt_trans hk hn, hack'⟩
      · rw [h.kept]
        exact hack
    have hsame : (∃ n < maxTries, IsEofAck (es n)) ↔ ∃ m < maxTries, IsEofAck (fs m) :=
      ⟨hforth, hback⟩
    refine ⟨hsame, ?_⟩
    rw [← not_iff_not]
    push Not
    exact hsame

/-! ## An EOF_ACK behind `d` copies of an RR -/

def delayedAck (d n : Nat) : PollEvent :=
  if n < d then .recv (.child 0) (builtPacket 2 flagRr (htonl 3))
  else if n = d then .recv (.child 0) (builtPacket 3 flagEofAck [])
  else .timeout

theorem delayedAck_inserted (d : Nat) :
    LeftoversInserted (delayedAck 0) (delayedAck d) (fun n => n + d) := by
  refine ⟨fun a b hab => Nat.add_lt_add_right hab d, fun n => ?_, fun m hm => ?_⟩
  · cases n with
    | zero => simp [delayedAck]
    | succ n => simp [delayedAck]
  · have hlt : m < d := by
      by_contra hge
      exact hm (m - d) (Nat.sub_add_cancel (Nat.not_lt.mp hge))
    rw [delayedAck, if_pos hlt]
    exact ⟨by decide +kernel, .inl (by decide +kernel)⟩

theorem isEofAck_delayedAck (d n : Nat) : IsEofAck (delayedAck d n) ↔ n = d := by
  rw [delayedAck]
  rcases Nat.lt_trichotomy n d with hlt | rfl | hgt
  · rw [if_pos hlt]
    refine ⟨fun hack => absurd hack.2 (by decide +kernel), fun heq => absurd heq (Nat.ne_of_lt hlt)⟩
  · rw [if_neg (Nat.lt_irrefl _), if_pos rfl]
    exact ⟨fun _ => rfl, fun _ => ⟨by decide +kernel, by decide +kernel⟩⟩
  · rw [if_neg (Nat.not_lt.mpr (Nat.le_of_lt hgt)), if_neg (Nat.ne_of_gt hgt)]
    exact ⟨fun hack => hack.elim, fun heq => absurd heq (Nat.ne_of_gt hgt)⟩

/-- A file of one byte, sent and acknowledged: what `send_eof_state` starts from. -/
def drained : RcopyInfo :=
  let session : Session :=
    ⟨[111], 1, 1, [[65]], true, by decide, by decide, by decide, by decide⟩
  { (feed rcopyStep session.start
      [.recv (.child 0) (builtPacket 1 flagFilenameResp [0]),
        .recv (.child 0) (builtPacket 2 flagRr (htonl 3))]).info with fileDone := true }

/-- Nine leftovers ahead of the EOF_ACK: the last try. -/
theorem eof_outcome_nine : SameOutcome drained (delayedAck 0) (delayedAck 9) := by
  refine (eof_outcome_iff (by decide +kernel) (delayedAck_inserted 9)).mpr fun n _ hack _ => ?_
  rw [(isEofAck_delayedAck 0 n).mp hack]
  decide

/-- Ten: rcopy reports an error after a complete transfer. -/
theorem eof_outcome_ten :
    LeftoversInserted (delayedAck 0) (delayedAck 10) (fun n => n + 10) ∧
      ¬ SameOutcome drained (delayedAck 0) (delayedAck 10) := by
  refine ⟨delayedAck_inserted 10, fun hsame => ?_⟩
  have herr : drained.hadError = false := by decide +kernel
  have hshort : EofAcknowledged drained (delayedAck 0) :=
    (eofAcknowledged_iff herr).mpr ⟨0, by decide, (isEofAck_delayedAck 0 0).mpr rfl⟩
  obtain ⟨n, hn, hack⟩ := (eofAcknowledged_iff herr).mp (hsame.1.mp hshort)
  rw [(isEofAck_delayedAck 10 n).mp hack] at hn
  exact absurd hn (by decide)

end SelectiveReject
