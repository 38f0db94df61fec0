/-
# `SelectiveReject.ShortWrite` — a child whose `write` may take fewer bytes than it was given

`write(2)` answers -1 or a count, and the count may be short.  `buffer_write_ready` looks only
for -1: whatever the count, it clears the slot and moves `expected` on, and the RR that follows
lets the sender drop its copy.  `PartialFile` is a file whose `write` answers as it likes, call
by call.

For one packet the bytes written are those of the packets consumed exactly when no count of
the drain is short, or one of its calls fails and ends the process (`DrainsWhole`).
`short_write_iff` says so at every buffer the child can have, and that a run of such packets
has everything below `expected`, and below every RR when it was sent, in the file.
-/
import SelectiveReject.RejectDiscipline

namespace SelectiveReject

open Machine Reassembly

/-! ## The file -/

/-- A file behind a `write` that answers the `i`-th call from now on with `answers i`: -1 for
`none`, otherwise a count of at most so many bytes, which it appends. -/
structure PartialFile where
  contents : Bytes
  answers : Nat → Option Nat

def PartialFile.write (file : PartialFile) (data : Bytes) : Int × PartialFile :=
  match file.answers 0 with
  | none => (-1, { file with answers := fun i => file.answers (i + 1) })
  | some n =>
      ((data.take n).length,
        { contents := file.contents ++ data.take n, answers := fun i => file.answers (i + 1) })

def WholeCounts (answers : Nat → Option Nat) (datas : List Bytes) : Prop :=
  ∀ i data n, datas[i]? = some data → answers i = some n → data.length ≤ n

/-- No count is short, or one of the calls fails. -/
def WritesWhole (answers : Nat → Option Nat) (datas : List Bytes) : Prop :=
  (∃ i < datas.length, answers i = none) ∨ WholeCounts answers datas

theorem wholeCounts_cons {answers : Nat → Option Nat} {n : Nat} (h : answers 0 = some n)
    (data : Bytes) (datas : List Bytes) :
    WholeCounts answers (data :: datas)
      ↔ data.length ≤ n ∧ WholeCounts (fun i => answers (i + 1)) datas := by
  constructor
  · intro hwhole
    exact ⟨hwhole 0 data n rfl h, fun i data' n' hdata hn => hwhole (i + 1) data' n' hdata hn⟩
  · rintro ⟨hfirst, hrest⟩ i data' n' hdata hn
    cases i with
    | zero =>
        obtain rfl := Option.some.inj hdata
        obtain rfl := Option.some.inj (h.symm.trans hn)
        exact hfirst
    | succ i => exact hrest i data' n' hdata hn

/-- A drain ends at its first failing call; otherwise the file grows by the bytes drained
exactly when no count is short, and by fewer when one is. -/
theorem PartialFile.drain_write : ∀ (datas : List Bytes) (file : PartialFile),
    (drain PartialFile.write file datas = none ∧ ∃ i < datas.length, file.answers i = none) ∨
    ∃ file', drain PartialFile.write file datas = some file' ∧
      (∀ i < datas.length, file.answers i ≠ none) ∧
      file'.contents.length ≤ (file.contents ++ datas.flatten).length ∧
      (file'.contents = file.contents ++ datas.flatten ↔ WholeCounts file.answers datas)
  | [], file => by
      refine .inr ⟨file, rfl, fun i hi => absurd hi (Nat.not_lt_zero i), ?_, ?_⟩
      · rw [List.flatten_nil, List.append_nil]
      · rw [List.flatten_nil, List.append_nil]
        refine ⟨fun _ i data n hdata => ?_, fun _ => rfl⟩
        rw [List.getElem?_nil] at hdata
        cases hdata
  | data :: datas, file => by
      cases hanswer : file.answers 0 with
      | none =>
          refine .inl ⟨?_, 0, Nat.succ_pos _, hanswer⟩
          simp only [drain, PartialFile.write, hanswer]
          rfl
      | some n =>
          have hstep : drain PartialFile.write file (data :: datas)
              = drain PartialFile.write
                  ⟨file.contents ++ data.take n, fun i => file.answers (i + 1)⟩ datas := by
            have hnonneg : ¬ ((data.take n).length : Int) < 0 := by omega
            simp only [drain, PartialFile.write, hanswer, if_neg hnonneg]
          rw [hstep]
          rcases PartialFile.drain_write datas
              ⟨file.contents ++ data.take n, fun i => file.answers (i + 1)⟩ with
            ⟨hnone, i, hi, hfail⟩ | ⟨file', hsome, hok, hlen, hiff⟩
          · exact .inl ⟨hnone, i + 1, Nat.succ_lt_succ hi, hfail⟩
          refine .inr ⟨file', hsome, fun i hi => ?_, ?_, ?_⟩
          · cases i with
            | zero =>
                rw [hanswer]
                exact Option.some_ne_none n
            | succ i => exact hok i (Nat.lt_of_succ_lt_succ hi)
          · simp only [List.length_append, List.length_take, List.flatten_cons] at hlen ⊢
            omega
          · rw [wholeCounts_cons hanswer, List.flatten_cons, ← List.append_assoc]
            constructor
            · intro hcontents
              have hle : data.length ≤ n := by
                rw [hcontents] at hlen
                simp only [List.length_append, List.length_take] at hlen
                omega
              rw [← hiff, List.take_of_length_le hle]
              exact ⟨hle, hcontents⟩
            · rintro ⟨hle, hrest⟩
              rw [hiff.mpr hrest, List.take_of_length_le hle]

theorem PartialFile.drain_iff (file : PartialFile) (datas : List Bytes) :
    (∀ file', drain PartialFile.write file datas = some file' →
      file'.contents = file.contents ++ datas.flatten) ↔ WritesWhole file.answers datas := by
  rcases PartialFile.drain_write datas file with
    ⟨hnone, hfail⟩ | ⟨file', hsome, hok, _, hiff⟩
  · rw [hnone]
    exact ⟨fun _ => .inl hfail, fun _ => nofun⟩
  · rw [hsome]
    constructor
    · intro hall
      exact .inr (hiff.mp (hall file' rfl))
    · rintro (⟨i, hi, hfail⟩ | hwhole) file'' heq
      · exact absurd hfail (hok i hi)
      · rw [← Option.some.inj heq]
        exact hiff.mpr hwhole

/-! ## One data packet -/

def receiveShort (receiver : ServerInfo PartialFile × List (UInt32 × Bytes)) (packet : Bytes) :
    Option (ServerInfo PartialFile × List (UInt32 × Bytes)) :=
  (handleDataPacket PartialFile.write receiver.1 packet).toOption.map fun info =>
    (info, logAccepted receiver.1.buffer receiver.2 packet)

/-- The calls that drain the buffer once `packet` is in it are whole, or one fails: a
condition on what they answer and on the packets from `expected` to the first gap. -/
def DrainsWhole (receiver : ServerInfo PartialFile × List (UInt32 × Bytes)) (packet : Bytes) :
    Prop :=
  ∀ gap, IsGap (firstAccepted (logAccepted receiver.1.buffer receiver.2 packet)) 2 gap →
    WritesWhole receiver.1.outputFile.answers
      (pieces (firstAccepted (logAccepted receiver.1.buffer receiver.2 packet))
        receiver.1.buffer.expected.toNat gap)

theorem eq_of_isGap {got : Nat → Option Bytes} {lo gap gap' : Nat} (h : IsGap got lo gap)
    (h' : IsGap got lo gap') : gap = gap' :=
  h.isLeast.unique h'.isLeast

theorem receiveShort_cases {size : Int32} {info : ServerInfo PartialFile}
    {log : List (UInt32 × Bytes)} (h : BufferInv size (firstAccepted log) info.buffer)
    (packet : Bytes) :
    ∃ gap : UInt32, IsGap (firstAccepted (logAccepted info.buffer log packet)) 2 gap.toNat ∧
      (receiveShort (info, log) packet = none ∧
          drain PartialFile.write info.outputFile
            (pieces (firstAccepted (logAccepted info.buffer log packet))
              info.buffer.expected.toNat gap.toNat) = none ∨
        ∃ info', receiveShort (info, log) packet
            = some (info', logAccepted info.buffer log packet) ∧
          drain PartialFile.write info.outputFile
            (pieces (firstAccepted (logAccepted info.buffer log packet))
              info.buffer.expected.toNat gap.toNat) = some info'.outputFile ∧
          info'.buffer.expected = gap ∧
          BufferInv size (firstAccepted (logAccepted info.buffer log packet)) info'.buffer ∧
          Handled info (getSeq packet) info') := by
  have hdrain := @BufferInv.handle_drain _ PartialFile.write _ _ info h packet
  rw [h.accept_eq] at hdrain
  obtain ⟨gap, hgap, ⟨hnone, failed, hhandle⟩ | ⟨info', hsome, hhandle, heq, hinv, hhandled⟩⟩ := hdrain
  · exact ⟨gap, hgap, .inl ⟨by rw [receiveShort, hhandle]; rfl, hnone⟩⟩
  · exact ⟨gap, hgap, .inr ⟨info', by rw [receiveShort, hhandle]; rfl, hsome, heq, hinv, hhandled⟩⟩

theorem receive_drains_iff {size : Int32} {info : ServerInfo PartialFile}
    {log : List (UInt32 × Bytes)} (h : BufferInv size (firstAccepted log) info.buffer)
    (packet : Bytes) :
    (∀ receiver', receiveShort (info, log) packet = some receiver' →
      receiver'.1.outputFile.contents = info.outputFile.contents
        ++ joined (firstAccepted receiver'.2) info.buffer.expected.toNat
          receiver'.1.buffer.expected.toNat) ↔ DrainsWhole (info, log) packet := by
  obtain ⟨gap, hgap, hcases⟩ := receiveShort_cases h packet
  have hwhole : DrainsWhole (info, log) packet ↔ WritesWhole info.outputFile.answers
      (pieces (firstAccepted (logAccepted info.buffer log packet))
        info.buffer.expected.toNat gap.toNat) := by
    constructor
    · intro hall
      exact hall _ hgap
    · intro hwhole gap' hgap'
      rw [← eq_of_isGap hgap hgap']
      exact hwhole
  rw [hwhole, ← PartialFile.drain_iff]
  rcases hcases with ⟨hnone, hdrain⟩ | ⟨info', hsome, hdrain, rfl, _, _⟩
  · rw [hnone, hdrain]
    exact ⟨fun _ => nofun, fun _ => nofun⟩
  · rw [hsome, hdrain]
    constructor
    · rintro hall _ ⟨⟩
      exact hall _ rfl
    · rintro hall _ ⟨⟩
      exact hall _ rfl

/-! ## Every sequence of data packets -/

/-- Everything below `expected` is in the file, and so was everything below each RR when it
was sent. -/
structure WrittenInv (size : Int32) (info₀ : ServerInfo PartialFile)
    (receiver : ServerInfo PartialFile × List (UInt32 × Bytes)) : Prop where
  buffer : BufferInv size (firstAccepted receiver.2) receiver.1.buffer
  contents : receiver.1.outputFile.contents = info₀.outputFile.contents
    ++ joined (firstAccepted receiver.2) 2 receiver.1.buffer.expected.toNat
  log : ∃ new, receiver.1.log = info₀.log ++ new ∧ ∀ entry ∈ new, ∀ value,
    controlValue flagRr entry.sent.packet = some value →
      value ≤ receiver.1.buffer.expected ∧ entry.outputFile.contents
        = info₀.outputFile.contents ++ joined (firstAccepted receiver.2) 2 value.toNat

theorem writtenInv_init {ok : Bool} {size : Int32} {info₀ : ServerInfo PartialFile}
    (hinit : bufferInit ok size 2 = some info₀.buffer) : WrittenInv size info₀ (info₀, []) := by
  have hexpected : info₀.buffer.expected = 2 := by
    rw [(bufferInit_eq_some hinit).2]
  refine ⟨bufferInv_init hinit, ?_, [], (List.append_nil _).symm, nofun⟩
  rw [hexpected]
  exact (List.append_nil _).symm

theorem Answers.rr_eq {F : Type} {info info' : ServerInfo F} {seq value : UInt32} {sent : Sent}
    (h : Answers info info' seq sent) (hrr : controlValue flagRr sent.packet = some value) :
    value = info'.buffer.expected := by
  obtain ⟨_, num, hpacket | ⟨hpacket, _⟩⟩ := h
  · rw [hpacket, controlValue_builtPacket, if_pos rfl] at hrr
    exact (Option.some.inj hrr).symm
  · rw [hpacket, controlValue_builtPacket, if_neg (by decide)] at hrr
    cases hrr

theorem WrittenInv.step {size : Int32} {info₀ : ServerInfo PartialFile}
    {receiver receiver' : ServerInfo PartialFile × List (UInt32 × Bytes)} {packet : Bytes}
    (h : WrittenInv size info₀ receiver) (hwhole : DrainsWhole receiver packet)
    (hstep : receiveShort receiver packet = some receiver') :
    WrittenInv size info₀ receiver' := by
  obtain ⟨info, log⟩ := receiver
  have hgrow := (receive_drains_iff h.buffer packet).mpr hwhole receiver' hstep
  obtain ⟨gap, _, ⟨hnone, _⟩ | ⟨info', hsome, _, _, hinv, hhandled⟩⟩ :=
    receiveShort_cases h.buffer packet
  · rw [hnone] at hstep
    cases hstep
  obtain rfl := Option.some.inj (hsome.symm.trans hstep)
  -- what was accepted before keeps its payload
  have hkeep : ∀ k, firstAccepted log k ≠ none →
      firstAccepted (logAccepted info.buffer log packet) k = firstAccepted log k := by
    intro k hk
    rw [← h.buffer.accept_eq]
    exact accept_of_ne_none info.buffer packet hk
  have hjoined : ∀ value : UInt32, value ≤ info.buffer.expected →
      joined (firstAccepted (logAccepted info.buffer log packet)) 2 value.toNat
        = joined (firstAccepted log) 2 value.toNat := by
    intro value hvalue
    have hle := UInt32.le_iff_toNat_le.mp hvalue
    exact joined_congr fun k hlo hlt => hkeep k (h.buffer.gap.full k hlo (Nat.lt_of_lt_of_le hlt hle))
  have hle : info.buffer.expected ≤ info'.buffer.expected := by
    rw [← h.buffer.accept_eq] at hinv
    exact h.buffer.expected_le hinv
  have hcontents : info'.outputFile.contents = info₀.outputFile.contents
      ++ joined (firstAccepted (logAccepted info.buffer log packet)) 2
        info'.buffer.expected.toNat := by
    rw [joined_append h.buffer.gap.le (UInt32.le_iff_toNat_le.mp hle), hjoined _ (UInt32.le_refl _),
      ← List.append_assoc, ← h.contents]
    exact hgrow
  refine ⟨hinv, hcontents, ?_⟩
  obtain ⟨old, hold, hrrs⟩ := h.log
  obtain ⟨new, hnew, hanswers⟩ := hhandled.log
  refine ⟨old ++ new, ?_, fun entry hentry value hvalue => ?_⟩
  · show info'.log = _
    rw [hnew, ← List.append_assoc, ← hold]
  · rcases List.mem_append.mp hentry with hmem | hmem
    · obtain ⟨hvalue_le, hfile⟩ := hrrs entry hmem value hvalue
      refine ⟨UInt32.le_trans hvalue_le hle, ?_⟩
      rw [hfile]
      exact congrArg (info₀.outputFile.contents ++ ·) (hjoined value hvalue_le).symm
    · obtain ⟨hsent, hfile⟩ := hanswers entry hmem
      obtain rfl := hsent.rr_eq hvalue
      exact ⟨UInt32.le_refl _, hfile ▸ hcontents⟩

/-- The bytes of the packets consumed are written exactly when the drain of each packet is
whole; then no RR is ahead of the file. -/
theorem short_write_iff {ok : Bool} {size : Int32} {info₀ : ServerInfo PartialFile}
    (hinit : bufferInit ok size 2 = some info₀.buffer) :
    (∀ receiver packet, Steps receiveShort (fun _ _ => True) (info₀, []) receiver →
      ((∀ receiver', receiveShort receiver packet = some receiver' →
          receiver'.1.outputFile.contents = receiver.1.outputFile.contents
            ++ joined (firstAccepted receiver'.2) receiver.1.buffer.expected.toNat
              receiver'.1.buffer.expected.toNat) ↔
        DrainsWhole receiver packet)) ∧
    (∀ receiver, Steps receiveShort DrainsWhole (info₀, []) receiver →
      receiver.1.outputFile.contents = info₀.outputFile.contents
          ++ joined (firstAccepted receiver.2) 2 receiver.1.buffer.expected.toNat ∧
        ∃ new, receiver.1.log = info₀.log ++ new ∧ ∀ entry ∈ new, ∀ value,
          controlValue flagRr entry.sent.packet = some value →
            value ≤ receiver.1.buffer.expected ∧ entry.outputFile.contents
              = info₀.outputFile.contents ++ joined (firstAccepted receiver.2) 2 value.toNat) := by
  constructor
  · intro receiver packet hrun
    have hinv : BufferInv size (firstAccepted receiver.2) receiver.1.buffer := by
      refine @Steps.invariant _ _ _ _ _
        (fun receiver => BufferInv size (firstAccepted receiver.2) receiver.1.buffer)
        (show BufferInv size (firstAccepted []) info₀.buffer from bufferInv_init hinit) ?_ _ hrun
      rintro ⟨info, log⟩ packet receiver' h _ hstep
      obtain ⟨gap, _, ⟨hnone, _⟩ | ⟨info', hsome, _, _, hinv, _⟩⟩ := receiveShort_cases h packet
      · rw [hnone] at hstep
        cases hstep
      · obtain rfl := Option.some.inj (hsome.symm.trans hstep)
        exact hinv
    exact receive_drains_iff hinv packet
  · intro receiver hrun
    have hinv : WrittenInv size info₀ receiver :=
      hrun.invariant (writtenInv_init hinit) fun _ _ _ h hwhole hstep => h.step hwhole hstep
    exact ⟨hinv.contents, hinv.log⟩

/-- A child with a window of one whose calls all take at least 1400 bytes. -/
theorem short_write_iff_whole :
    let file : PartialFile := ⟨[], fun _ => some 1400⟩
    let child := childSetup
      (processClient (builtPacket 1 flagFilename (htonl 1 ++ htonl 1 ++ [111, 0])) .rcopy file)
      (some file) true
    ∀ receiver, Steps receiveShort DrainsWhole (child.info, []) receiver →
      receiver.1.outputFile.contents = child.info.outputFile.contents
        ++ joined (firstAccepted receiver.2) 2 receiver.1.buffer.expected.toNat := by
  intro file child receiver hrun
  exact ((@short_write_iff true 1 child.info (by decide +kernel)).2 receiver hrun).1

/-- A child with a window of one whose first call takes nothing: packet 2 is not in the file,
and an RR asks for packet 3. -/
theorem short_write_drops :
    let file : PartialFile := ⟨[], fun _ => some 0⟩
    let child := childSetup
      (processClient (builtPacket 1 flagFilename (htonl 1 ++ htonl 1 ++ [111, 0])) .rcopy file)
      (some file) true
    (∃ receiver, receiveShort (child.info, []) (builtPacket 2 flagData [5]) = some receiver ∧
      receiver.1.buffer.expected = 3 ∧
      ⟨.rcopy, builtPacket 2 flagRr (htonl 3)⟩ ∈ receiver.1.sent ∧
      receiver.1.outputFile.contents = []) ∧
    ¬ ∀ receiver, receiveShort (child.info, []) (builtPacket 2 flagData [5]) = some receiver →
      receiver.1.outputFile.contents = child.info.outputFile.contents
        ++ joined (firstAccepted receiver.2) child.info.buffer.expected.toNat
          receiver.1.buffer.expected.toNat := by
  intro file child
  have hchild : (receiveShort (child.info, []) (builtPacket 2 flagData [5])).map
      (fun receiver => (receiver.1.buffer.expected, receiver.1.sent))
      = some (3, [⟨.rcopy, builtPacket 1 flagFilenameResp [0]⟩,
          ⟨.rcopy, builtPacket 2 flagRr (htonl 3)⟩]) := by
    decide +kernel
  have hfile : (receiveShort (child.info, []) (builtPacket 2 flagData [5])).map
      (fun receiver => (receiver.1.outputFile.contents, receiver.2))
      = some ([], [(2, [5])]) := by
    decide +kernel
  obtain ⟨receiver, hstep, heq⟩ := Option.map_eq_some_iff.mp hchild
  rw [hstep, Option.map_some] at hfile
  obtain ⟨hexpected, hsent⟩ := Prod.mk.inj heq
  obtain ⟨hcontents, hlog⟩ := Prod.mk.inj (Option.some.inj hfile)
  refine ⟨⟨receiver, hstep, hexpected, ?_, hcontents⟩, fun hall => ?_⟩
  · rw [hsent]
    exact List.mem_cons_of_mem _ (List.mem_singleton_self _)
  · have hwritten := hall receiver hstep
    rw [hcontents, hlog, hexpected] at hwritten
    revert hwritten
    decide +kernel

end SelectiveReject
