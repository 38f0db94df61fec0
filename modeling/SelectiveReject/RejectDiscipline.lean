/-
# `SelectiveReject.RejectDiscipline` — what a child asks for, and how often

`missing_seq` and `missing_active` form a latch: `buffer_need_reject` sets it, the packet that was
asked for clears it.  Over any sequence of data packets the latch keeps one promise in two
directions:

* while it is set it names `expected`, and an SREJ for `expected` is in the log;
* while it is clear no SREJ of the log names `expected`.

Since `expected` never goes back and moves up whenever the latch is cleared, every SREJ
is for a higher number than the ones before it (`RejectLog.rejectIfNeeded`).  The RRs are simpler:
each carries the `expected` of its moment.

The log stores with every packet the buffer and the file at the moment it was
sent, so "neither written nor buffered when it is sent" is a statement about the log
(`SentAt.Justified`).
-/
import SelectiveReject.BufferRefine

namespace SelectiveReject

open Machine Reassembly

/-! ## The numbers in the log -/

/-- The number a packet with this flag carries; `none` for any other packet. -/
def controlValue (flag : UInt8) (packet : Bytes) : Option UInt32 :=
  if getFlag packet = flag then some (readU32 packet srejHeaderLen) else none

def controlValues (flag : UInt8) (log : List (SentAt OutFile)) : List UInt32 :=
  log.filterMap fun entry => controlValue flag entry.sent.packet

theorem controlValue_builtPacket (flag flag' : UInt8) (seq value : UInt32) :
    controlValue flag (builtPacket seq flag' (htonl value))
      = if flag' = flag then some value else none := by
  rw [controlValue, getFlag_builtPacket seq flag' (length_htonl_le value),
    readU32_builtPacket_htonl]

theorem controlValues_concat (flag : UInt8) (log : List (SentAt OutFile))
    (entry : SentAt OutFile) :
    controlValues flag (log ++ [entry])
      = controlValues flag log ++ (controlValue flag entry.sent.packet).toList := by
  rw [controlValues, List.filterMap_append, controlValues]
  cases hvalue : controlValue flag entry.sent.packet <;> simp [hvalue]

/-! ## The invariant of the log -/

/-- At the moment it was sent: an SREJ named a number neither written nor buffered, and
everything below an RR was in the file. -/
structure SentAt.Justified (got : Nat → Option Bytes) (entry : SentAt OutFile) : Prop where
  srej : ∀ value, controlValue flagSrej entry.sent.packet = some value →
    entry.buffer.expected ≤ value ∧ bufferHas entry.buffer value = false
  rr : ∀ value, controlValue flagRr entry.sent.packet = some value →
    entry.outputFile.contents = joined got 2 value.toNat ∧
      ∀ k, 2 ≤ k → k < value.toNat → got k ≠ none

theorem SentAt.Justified.mono {got got' : Nat → Option Bytes} {entry : SentAt OutFile}
    (h : entry.Justified got) (hsub : ∀ k, got k ≠ none → got' k = got k) :
    entry.Justified got' := by
  refine ⟨h.srej, fun value hvalue => ?_⟩
  obtain ⟨hcontents, hfull⟩ := h.rr value hvalue
  refine ⟨?_, fun k hlo hlt => ?_⟩
  · rw [hcontents]
    exact joined_congr fun k hlo hlt => (hsub k (hfull k hlo hlt)).symm
  · rw [hsub k (hfull k hlo hlt)]
    exact hfull k hlo hlt

/-- `log` is what a child with this `buffer` has sent since the buffer was made. -/
structure RejectLog (got : Nat → Option Bytes) (buffer : Buffer) (log : List (SentAt OutFile)) :
    Prop where
  latch : buffer.missingActive = true →
    buffer.missingSeq = buffer.expected ∧ buffer.expected ∈ controlValues flagSrej log
  srej_sorted : (controlValues flagSrej log).Pairwise (· < ·)
  srej_le : ∀ value ∈ controlValues flagSrej log, value ≤ buffer.expected ∧
    (value = buffer.expected → buffer.missingActive = true)
  rr_sorted : (controlValues flagRr log).Pairwise (· ≤ ·)
  rr_le : ∀ value ∈ controlValues flagRr log, value ≤ buffer.expected
  justified : ∀ entry ∈ log, entry.Justified got

namespace RejectLog

variable {got : Nat → Option Bytes} {buffer : Buffer} {log : List (SentAt OutFile)}

theorem mono {got' : Nat → Option Bytes} (h : RejectLog got buffer log)
    (hsub : ∀ k, got k ≠ none → got' k = got k) : RejectLog got' buffer log :=
  { h with justified := fun entry hentry => (h.justified entry hentry).mono hsub }

theorem justified_concat (h : RejectLog got buffer log) {entry : SentAt OutFile}
    (hentry : entry.Justified got) : ∀ e ∈ log ++ [entry], e.Justified got := by
  intro e he
  rcases List.mem_append.mp he with hold | hnew
  · exact h.justified e hold
  · rw [List.mem_singleton.mp hnew]
    exact hentry

theorem concat_rr (h : RejectLog got buffer log) {entry : SentAt OutFile}
    (hrr : controlValue flagRr entry.sent.packet = some buffer.expected)
    (hsrej : controlValue flagSrej entry.sent.packet = none) (hentry : entry.Justified got) :
    RejectLog got buffer (log ++ [entry]) := by
  have hsrejs : controlValues flagSrej (log ++ [entry]) = controlValues flagSrej log := by
    rw [controlValues_concat, hsrej, Option.toList_none, List.append_nil]
  refine { latch := ?_, srej_sorted := ?_, srej_le := ?_, rr_sorted := ?_, rr_le := ?_,
           justified := h.justified_concat hentry }
  · rw [hsrejs]
    exact h.latch
  · rw [hsrejs]
    exact h.srej_sorted
  · rw [hsrejs]
    exact h.srej_le
  · rw [controlValues_concat, hrr, Option.toList_some, List.pairwise_append]
    refine ⟨h.rr_sorted, List.pairwise_singleton _ _, fun value hvalue last hlast => ?_⟩
    rw [List.mem_singleton.mp hlast]
    exact h.rr_le value hvalue
  · rw [controlValues_concat, hrr, Option.toList_some]
    intro value hvalue
    rcases List.mem_append.mp hvalue with hold | hnew
    · exact h.rr_le value hold
    · exact UInt32.le_of_eq (List.mem_singleton.mp hnew)

/-- Setting the latch and asking for `expected`: while the latch was clear no SREJ had
named it. -/
theorem concat_srej (h : RejectLog got buffer log) (hclear : buffer.missingActive = false)
    {entry : SentAt OutFile}
    (hsrej : controlValue flagSrej entry.sent.packet = some buffer.expected)
    (hrr : controlValue flagRr entry.sent.packet = none) (hentry : entry.Justified got) :
    RejectLog got { buffer with missingActive := true, missingSeq := buffer.expected }
      (log ++ [entry]) := by
  have hrrs : controlValues flagRr (log ++ [entry]) = controlValues flagRr log := by
    rw [controlValues_concat, hrr, Option.toList_none, List.append_nil]
  have hsrejs : controlValues flagSrej (log ++ [entry])
      = controlValues flagSrej log ++ [buffer.expected] := by
    rw [controlValues_concat, hsrej, Option.toList_some]
  refine { latch := ?_, srej_sorted := ?_, srej_le := ?_, rr_sorted := ?_, rr_le := ?_,
           justified := h.justified_concat hentry }
  · intro _
    rw [hsrejs]
    exact ⟨rfl, List.mem_append_right _ (List.mem_singleton_self _)⟩
  · rw [hsrejs, List.pairwise_append]
    refine ⟨h.srej_sorted, List.pairwise_singleton _ _, fun value hvalue last hlast => ?_⟩
    rw [List.mem_singleton.mp hlast]
    obtain ⟨hle, hne⟩ := h.srej_le value hvalue
    refine UInt32.lt_of_le_of_ne hle fun heq => ?_
    rw [hne heq] at hclear
    cases hclear
  · rw [hsrejs]
    intro value hvalue
    rcases List.mem_append.mp hvalue with hold | hnew
    · exact ⟨(h.srej_le value hold).1, fun _ => rfl⟩
    · exact ⟨UInt32.le_of_eq (List.mem_singleton.mp hnew), fun _ => rfl⟩
  · rw [hrrs]
    exact h.rr_sorted
  · rw [hrrs]
    exact h.rr_le

theorem advance (h : RejectLog got buffer log) {gap : UInt32} (hlt : buffer.expected < gap)
    (entry : List BufferEntry) :
    (bufferClearReject buffer buffer.expected).missingActive = false ∧
      RejectLog got
        { bufferClearReject buffer buffer.expected with entry := entry, expected := gap } log := by
  have hclear : (bufferClearReject buffer buffer.expected).missingActive = false := by
    simp only [bufferClearReject]
    split
    · rfl
    · rename_i hnot
      cases hactive : buffer.missingActive with
      | false => rfl
      | true => exact absurd ⟨hactive, (h.latch hactive).1⟩ hnot
  refine ⟨hclear, { latch := ?_, srej_sorted := h.srej_sorted, srej_le := ?_,
                    rr_sorted := h.rr_sorted, rr_le := ?_, justified := h.justified }⟩
  · intro hactive
    exact absurd (hclear.symm.trans hactive) Bool.false_ne_true
  · intro value hvalue
    have hvalue_lt := UInt32.lt_of_le_of_lt (h.srej_le value hvalue).1 hlt
    exact ⟨UInt32.le_of_lt hvalue_lt, fun heq => absurd heq (UInt32.ne_of_lt hvalue_lt)⟩
  · intro value hvalue
    exact UInt32.le_of_lt (UInt32.lt_of_le_of_lt (h.rr_le value hvalue) hlt)

end RejectLog

/-! ## One data packet -/

/-- A gap with something behind it has been asked for. -/
def Requested (buffer : Buffer) : Prop :=
  bufferHasLater buffer = true → buffer.missingActive = true

theorem BufferTable.hasLater_of_mem {buffer : Buffer} {m : Nat → Option Bytes}
    (h : BufferTable buffer m) {entry : BufferEntry} (hentry : entry ∈ buffer.entry)
    (hused : entry.used = true) (hlt : buffer.expected < entry.seq) :
    bufferHasLater buffer = true := by
  obtain ⟨i, hi, rfl⟩ := List.mem_iff_getElem.mp hentry
  have hat : buffer.at i = buffer.entry[i] := by
    rw [Buffer.at, List.getD_eq_getElem?_getD, List.getElem?_eq_getElem hi, Option.getD_some]
  have hi' : i < buffer.size.toInt.toNat := by
    rw [← h.length_eq]
    exact hi
  simp only [bufferHasLater, List.any_eq_true, List.mem_range, decide_eq_true_eq]
  exact ⟨i, hi', by rw [hat]; exact ⟨hused, hlt⟩⟩

section Step

variable {size : Int32} {got : Nat → Option Bytes} {info : ServerInfo OutFile}
  {log : List (SentAt OutFile)}

theorem receiverInv_rejectIfNeeded :
    ReceiverInv size got (rejectIfNeeded info) ↔ ReceiverInv size got info := by
  constructor <;> rintro ⟨hbuffer, hend, hcontents⟩
  · simp only [buffer_rejectIfNeeded, outputFile_rejectIfNeeded, expected_bufferNeedReject,
      bufferInv_needReject] at hbuffer hend hcontents
    exact ⟨hbuffer, hend, hcontents⟩
  · refine ⟨?_, ?_, ?_⟩
    · rw [buffer_rejectIfNeeded]
      exact bufferInv_needReject.mpr hbuffer
    · rw [outputFile_rejectIfNeeded]
      exact hend
    · rw [outputFile_rejectIfNeeded, buffer_rejectIfNeeded, expected_bufferNeedReject]
      exact hcontents

theorem RejectLog.sendRr (h : RejectLog got info.buffer log) (hrec : ReceiverInv size got info) :
    ∃ entry, (SelectiveReject.sendRr info).log = info.log ++ [entry] ∧
      RejectLog got info.buffer (log ++ [entry]) := by
  refine ⟨_, rfl, h.concat_rr ?_ ?_ ⟨fun value hvalue => ?_, fun value hvalue => ?_⟩⟩
  · exact (controlValue_builtPacket _ _ _ _).trans (if_pos rfl)
  · exact (controlValue_builtPacket _ _ _ _).trans (if_neg (by decide))
  · rw [controlValue_builtPacket, if_neg (by decide)] at hvalue
    cases hvalue
  · rw [controlValue_builtPacket, if_pos rfl] at hvalue
    obtain rfl := Option.some.inj hvalue
    exact ⟨hrec.contents, hrec.buffer.gap.full⟩

/-- After `rejectIfNeeded` the latch is set, by this call or an earlier one. -/
theorem RejectLog.rejectIfNeeded (h : RejectLog got info.buffer log)
    (hrec : ReceiverInv size got (SelectiveReject.rejectIfNeeded info)) :
    ∃ new, (SelectiveReject.rejectIfNeeded info).log = info.log ++ new ∧
      RejectLog got (SelectiveReject.rejectIfNeeded info).buffer (log ++ new) ∧
      (SelectiveReject.rejectIfNeeded info).buffer.missingActive = true := by
  cases hactive : info.buffer.missingActive with
  | true =>
      have hset : ¬ (info.buffer.missingActive = false ∨
          info.buffer.missingSeq ≠ info.buffer.expected) := by
        rintro (hclear | hother)
        · rw [hactive] at hclear
          cases hclear
        · exact hother (h.latch hactive).1
      have hsame : SelectiveReject.rejectIfNeeded info = info := by
        simp only [SelectiveReject.rejectIfNeeded, bufferNeedReject, if_neg hset,
          Bool.false_eq_true, if_false]
      rw [hsame]
      exact ⟨[], (List.append_nil _).symm, by rwa [List.append_nil], hactive⟩
  | false =>
      have hsend : SelectiveReject.rejectIfNeeded info
          = sendReject { info with
              buffer := { info.buffer with
                missingActive := true, missingSeq := info.buffer.expected } }
              info.buffer.expected := by
        simp only [SelectiveReject.rejectIfNeeded, bufferNeedReject, hactive, true_or, if_true,
          bufferExpected]
      rw [hsend] at hrec ⊢
      refine ⟨_, rfl, h.concat_srej hactive ?_ ?_ ⟨fun value hvalue => ?_, fun value hvalue => ?_⟩,
        rfl⟩
      · exact (controlValue_builtPacket _ _ _ _).trans (if_pos rfl)
      · exact (controlValue_builtPacket _ _ _ _).trans (if_neg (by decide))
      · rw [controlValue_builtPacket, if_pos rfl] at hvalue
        obtain rfl := Option.some.inj hvalue
        refine ⟨UInt32.le_refl _, ?_⟩
        rw [← Bool.not_eq_true]
        exact fun hhas => (hrec.buffer.has_iff_got (Nat.le_refl _)).mp hhas hrec.buffer.gap.missing
      · rw [controlValue_builtPacket, if_neg (by decide)] at hvalue
        cases hvalue

theorem RejectLog.handle {got' : Nat → Option Bytes} {info' : ServerInfo OutFile} {seq : UInt32}
    (h : RejectLog got info.buffer log) (hreq : Requested info.buffer)
    (hrec : ReceiverInv size got info) (hrec' : ReceiverInv size got' info')
    (hsub : ∀ k, got k ≠ none → got' k = got k) (hhandled : Handled info seq info') :
    ∃ new, info'.log = info.log ++ new ∧ RejectLog got' info'.buffer (log ++ new) ∧
      Requested info'.buffer := by
  cases hhandled with
  | outside hout =>
      obtain ⟨entry, hlog, h'⟩ := h.sendRr hrec
      exact ⟨[entry], hlog, h'.mono hsub, hreq⟩
  | ahead hin hlt entry =>
      have hsame : RejectLog got' { info.buffer with entry := entry } log :=
        { h.mono hsub with }
      have hreject := @RejectLog.rejectIfNeeded size got'
        { info with buffer := { info.buffer with entry := entry } } log hsame hrec'
      obtain ⟨new, hlog, h', hactive⟩ := hreject
      exact ⟨new, hlog, h', fun _ => hactive⟩
  | @fills hin heq entry gap hlt file filled hfilled =>
      obtain ⟨_, hmoved⟩ := (h.mono hsub).advance hlt entry
      rw [← heq] at hmoved
      have hrec_filled : ReceiverInv size got' filled := by
        split at hrec'
        · exact receiverInv_rejectIfNeeded.mp hrec'
        · exact hrec'
      have hrr := @RejectLog.sendRr size got'
        { info with
          buffer := { bufferClearReject info.buffer seq with entry := entry, expected := gap }
          outputFile := file } log hmoved (by
            rw [hfilled] at hrec_filled
            exact ⟨hrec_filled.buffer, hrec_filled.at_end, hrec_filled.contents⟩)
      obtain ⟨rr, hlog, h'⟩ := hrr
      rw [← hfilled] at hlog
      have hbuffer : filled.buffer
          = { bufferClearReject info.buffer seq with entry := entry, expected := gap } := by
        rw [hfilled]
        rfl
      have h' : RejectLog got' filled.buffer (log ++ [rr]) := by
        rw [hbuffer]
        exact h'
      split at hrec' <;> rename_i hlater
      · -- the next gap has something behind it
        obtain ⟨new, hnew, h'', hactive⟩ := h'.rejectIfNeeded hrec'
        refine ⟨rr :: new, ?_, ?_, ?_⟩
        · rw [if_pos hlater, hnew, hlog, List.append_assoc]
          rfl
        · rw [if_pos hlater, List.append_cons]
          exact h''
        · rw [if_pos hlater]
          exact fun _ => hactive
      · rw [if_neg hlater]
        exact ⟨[rr], hlog, h', fun h => absurd h hlater⟩

end Step

/-! ## Every sequence of data packets -/

theorem RejectLog.receive {size : Int32} : ∀ (packets : List Bytes) {info : ServerInfo OutFile}
    {accepted : List (UInt32 × Bytes)} {log : List (SentAt OutFile)},
    ReceiverInv size (firstAccepted accepted) info →
    RejectLog (firstAccepted accepted) info.buffer log → Requested info.buffer →
    ∃ info' accepted' new, exec receiveStep (info, accepted) packets = some (info', accepted') ∧
      info'.log = info.log ++ new ∧ ReceiverInv size (firstAccepted accepted') info' ∧
      RejectLog (firstAccepted accepted') info'.buffer (log ++ new) ∧ Requested info'.buffer
  | [], info, accepted, log, hrec, h, hreq =>
      ⟨info, accepted, [], rfl, (List.append_nil _).symm, hrec, by rwa [List.append_nil], hreq⟩
  | packet :: packets, info, accepted, log, hrec, h, hreq => by
      obtain ⟨info₁, hhandle, hrec₁, hhandled⟩ := hrec.handle packet
      have hsub : ∀ k, firstAccepted accepted k ≠ none →
          accept info.buffer (firstAccepted accepted) packet k = firstAccepted accepted k :=
        fun k hk => accept_of_ne_none info.buffer packet hk
      obtain ⟨new₁, hlog₁, h₁, hreq₁⟩ := h.handle hreq hrec hrec₁ hsub hhandled
      rw [hrec.buffer.accept_eq] at hrec₁ h₁
      obtain ⟨info', accepted', new, hrest, hlog, hrec', h', hreq'⟩ :=
        RejectLog.receive packets hrec₁ h₁ hreq₁
      refine ⟨info', accepted', new₁ ++ new, ?_, ?_, hrec', ?_, hreq'⟩
      · have hstep := receiveStep_of_ok hhandle accepted
        simp only [exec, List.foldlM_cons, hstep, Option.bind_eq_bind, Option.bind_some]
        exact hrest
      · rw [hlog, hlog₁, List.append_assoc]
      · rw [← List.append_assoc]
        exact h'

/-- The selective-reject discipline of a child: every gap with something behind it is
asked for, once; and the RRs only ever go up, each after the writes it reports. -/
theorem reject_discipline {ok : Bool} {size : Int32} {info₀ : ServerInfo OutFile}
    (hinit : bufferInit ok size 2 = some info₀.buffer) (hfile : info₀.outputFile = ⟨[], 0⟩)
    (packets : List Bytes) :
    ∃ info accepted new, exec receiveStep (info₀, []) packets = some (info, accepted) ∧
      info.log = info₀.log ++ new ∧
      (∀ entry ∈ info.buffer.entry, entry.used = true → info.buffer.expected < entry.seq →
        info.buffer.missingActive = true ∧ info.buffer.missingSeq = info.buffer.expected ∧
          info.buffer.expected ∈ controlValues flagSrej new) ∧
      (controlValues flagSrej new).Pairwise (· < ·) ∧
      (∀ sent ∈ new, ∀ value, controlValue flagSrej sent.sent.packet = some value →
        sent.buffer.expected ≤ value ∧ bufferHas sent.buffer value = false) ∧
      (controlValues flagRr new).Pairwise (· ≤ ·) ∧
      (∀ sent ∈ new, ∀ value, controlValue flagRr sent.sent.packet = some value →
        sent.outputFile.contents = joined (firstAccepted accepted) 2 value.toNat ∧
          ∀ k, 2 ≤ k → k < value.toNat → firstAccepted accepted k ≠ none) := by
  have hrec : ReceiverInv size (firstAccepted []) info₀ := receiverInv_init hinit hfile
  have hinactive : info₀.buffer.missingActive = false := by
    rw [(bufferInit_eq_some hinit).2]
  have hlog : RejectLog (firstAccepted []) info₀.buffer [] := by
    refine { latch := fun hactive => ?_, srej_sorted := .nil, srej_le := nofun, rr_sorted := .nil,
             rr_le := nofun, justified := nofun }
    rw [hinactive] at hactive
    cases hactive
  have hreq : Requested info₀.buffer := by
    intro hlater
    obtain ⟨k, _, hk⟩ := hrec.buffer.hasLater_iff.mp hlater
    exact absurd rfl (of_ahead_ne_none hk).2
  obtain ⟨info, accepted, new, hrun, hnew, hrec', h, hreq'⟩ :=
    RejectLog.receive packets hrec hlog hreq
  rw [List.nil_append] at h
  refine ⟨info, accepted, new, hrun, hnew, ?_, h.srej_sorted,
    fun sent hsent => (h.justified sent hsent).srej, h.rr_sorted,
    fun sent hsent => (h.justified sent hsent).rr⟩
  intro entry hentry hused hlt
  have hactive := hreq' (hrec'.buffer.hasLater_of_mem hentry hused hlt)
  exact ⟨hactive, h.latch hactive⟩

/-- A window of four: packets 4, 2 and 5 leave one gap, 3, which is asked for. -/
theorem reject_discipline_four :
    let child := childSetup
      (processClient (builtPacket 1 flagFilename (htonl 4 ++ htonl 1 ++ [111, 0])) .rcopy ⟨[], 0⟩)
      (some (⟨[], 0⟩ : OutFile)) true
    ∃ info accepted new, exec receiveStep (child.info, [])
        [builtPacket 4 flagData [7], builtPacket 2 flagData [5], builtPacket 5 flagData [8]]
          = some (info, accepted) ∧
      info.log = child.info.log ++ new ∧ (controlValues flagSrej new).Pairwise (· < ·) := by
  intro child
  obtain ⟨info, accepted, new, hrun, hlog, _, hsorted, _⟩ :=
    @reject_discipline true 4 child.info (by decide +kernel) (by decide +kernel)
      [builtPacket 4 flagData [7], builtPacket 2 flagData [5], builtPacket 5 flagData [8]]
  exact ⟨info, accepted, new, hrun, hlog, hsorted⟩

end SelectiveReject
