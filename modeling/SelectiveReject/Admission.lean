/-
# `SelectiveReject.Admission` — when a success response means that the child can serve

The answer of `filename_state` says only that `open` succeeded.  It is sent before
`buffer_init` asks for memory, and nothing looks at the fields of the datagram, although
rcopy, at the other end, holds its own arguments to a range (`check_number_args`):

    open    fields and name   calloc     answer   then
    fails   any               -          1        DONE, no file touched
    works   complete          works      0        RECV_DATA, as announced
    works   complete          fails      0        exit(-1)
    works   incomplete        any        0        the file is truncated all the same

A window of 0 is the plain case of the last line: `calloc` may return an empty array, and
`buffer_in_window` then refuses every packet.
-/
import SelectiveReject.FirstPacket

namespace SelectiveReject

def windowField (packet : Bytes) : Int32 := (readU32 packet srejHeaderLen).toInt32

/-- The datagram has both numbers and a name, and its window size passes the test rcopy makes of
its own. -/
def Complete (packet : Bytes) : Prop :=
  srejHeaderLen + 8 < packet.length ∧ packet.getD (srejHeaderLen + 8) 0 ≠ 0 ∧
    ¬ (windowField packet ≤ 0 ∨ 1073741824 ≤ windowField packet)
deriving Decidable

def Answered {F : Type} (child : Child F) (value : UInt8) : Prop :=
  ∃ sent ∈ child.info.sent, getFlag sent.packet = flagFilenameResp ∧
    sent.packet.drop srejHeaderLen = [value]

/-- What a response promises.  `open` is called with `O_TRUNC`, so a file it opens is a
file it empties. -/
structure SetupSound {F : Type} (packet : Bytes) (opened : Option F) (child : Child F) : Prop where
  served : Answered child 0 → Complete packet ∧ child.state = .recvData ∧
    child.info.buffer.size = windowField packet ∧
    child.info.buffer.entry.length = (windowField packet).toInt.toNat ∧
    bufferInWindow child.info.buffer firstDataSeq = true
  others : ¬ Complete packet → ¬ Answered child 0 ∧ opened = none

theorem answered_sendFilenameResponse {F : Type} {info : ServerInfo F} (hlog : info.log = [])
    {state : ServerAt} (value value' : UInt8) :
    Answered ⟨state, sendFilenameResponse info value⟩ value' ↔ value' = value := by
  have hsent : (sendFilenameResponse info value).sent
      = [⟨info.client, builtPacket info.controlSeq flagFilenameResp [value]⟩] := by
    show (info.log ++ [_]).map SentAt.sent = _
    rw [hlog]
    rfl
  have hlen : [value].length ≤ srejMaxData := Nat.le_add_left 1 1399
  simp only [Answered, hsent, List.mem_singleton, exists_eq_left,
    getFlag_builtPacket _ _ hlen, drop_builtPacket _ _ hlen, List.cons.injEq, and_true, true_and]
  exact eq_comm

theorem bufferInit_of_size {size : Int32} (h : ¬ (size ≤ 0 ∨ 1073741824 ≤ size)) :
    ∃ buffer, bufferInit true size 2 = some buffer ∧ buffer.size = size ∧
      buffer.entry.length = size.toInt.toNat ∧ bufferInWindow buffer 2 = true := by
  obtain ⟨hpos, hsmall⟩ := not_or.mp h
  have hnonneg : 0 ≤ size := Int32.le_of_lt (Int32.not_le.mp hpos)
  have hcalloc := @calloc_ok BufferEntry size sizeofBufferEntry .zero hnonneg (by decide)
  refine ⟨⟨List.replicate size.toInt.toNat .zero, size, 2, 0, false⟩, ?_, rfl,
    List.length_replicate, decide_eq_true ⟨UInt32.le_refl _, ?_⟩⟩
  · simp only [bufferInit, hcalloc]
  · have hpos' : (0 : Int) < size.toInt := Int32.lt_iff_toInt_lt.mp (Int32.not_le.mp hpos)
    have hsmall' := Int32.lt_iff_toInt_lt.mp (Int32.not_le.mp hsmall)
    have hlimit : (1073741824 : Int32).toInt = 1073741824 := by decide
    have htwo : (2 : UInt32).toNat = 2 := rfl
    rw [Counter.lt_add_iff (UInt32.le_refl _), Counter.toNat_toUInt32 hnonneg, htwo]
    omega

theorem ok_of_bufferInit {ok : Bool} {size : Int32} {startSeq : UInt32} {buffer : Buffer}
    (h : bufferInit ok size startSeq = some buffer) : ok = true := by
  cases ok with
  | true => rfl
  | false => cases h

/-- A child keeps the promise of its answer exactly when it could not open the file, or the
datagram is complete and there is memory. -/
theorem setup_sound_iff {F : Type} {packet : Bytes} {client : Addr} {unopened : F}
    {child : Child F} (haccepted : processServer packet client unopened = some child)
    (opened : Option F) (callocOk : Bool) :
    SetupSound packet opened (childSetup child opened callocOk) ↔
      opened = none ∨ Complete packet ∧ callocOk = true := by
  obtain rfl := eq_of_accepted haccepted
  have hsetup : childSetup (processClient packet client unopened) opened callocOk
      = filenameState (processClient packet client unopened).info opened callocOk := rfl
  have hwindow : (readU32 (processClient packet client unopened).info.firstPacket
      srejHeaderLen).toInt32 = windowField packet :=
    congrArg UInt32.toInt32 (readU32_cleared packet srejHeaderLen)
  rw [hsetup]
  cases opened with
  | none =>
      obtain ⟨w, b, hdone⟩ :=
        filenameState_none (processClient packet client unopened).info callocOk
      have hzero : ¬ Answered (filenameState (processClient packet client unopened).info none
          callocOk) 0 := by
        rw [hdone, answered_sendFilenameResponse rfl]
        decide
      exact ⟨fun _ => .inl rfl, fun _ => ⟨fun h => absurd h hzero, fun _ => ⟨hzero, rfl⟩⟩⟩
  | some file =>
      obtain ⟨w, b, hopened⟩ :=
        filenameState_some (processClient packet client unopened).info file callocOk
      rw [hwindow] at hopened
      rw [hopened]
      have hzero := @answered_sendFilenameResponse F
        ((processClient packet client unopened).info.configure w b file) rfl
      cases hinit : bufferInit callocOk (windowField packet) 2 with
      | none =>
          -- the response has gone out, and the child is gone too
          constructor
          · intro hsound
            cases (hsound.served ((hzero 0 0).mpr rfl)).2.1
          · rintro (hnone | ⟨hcomplete, rfl⟩)
            · cases hnone
            · obtain ⟨buffer, hsome, _⟩ := bufferInit_of_size hcomplete.2.2
              cases hinit.symm.trans hsome
      | some buffer =>
          constructor
          · intro hsound
            exact .inr ⟨(hsound.served ((@hzero .recvData 0 0).mpr rfl)).1,
              ok_of_bufferInit hinit⟩
          · rintro (hnone | ⟨hcomplete, rfl⟩)
            · cases hnone
            · obtain ⟨buffer', hsome, hready⟩ := bufferInit_of_size hcomplete.2.2
              obtain rfl := Option.some.inj (hinit.symm.trans hsome)
              exact ⟨fun _ => ⟨hcomplete, rfl, hready⟩, fun hnot => absurd hcomplete hnot⟩

theorem setup_sound_letter :
    let packet := builtPacket 1 flagFilename (filenamePayload 1 1 [111])
    SetupSound packet (some ()) (childSetup (processClient packet .rcopy ()) (some ()) true) :=
  (@setup_sound_iff Unit (builtPacket 1 flagFilename (filenamePayload 1 1 [111])) .rcopy () _
    (by decide +kernel) (some ()) true).mpr (.inr ⟨by decide +kernel, rfl⟩)

/-- A window of zero: the child answers 0, has truncated the file, and will never accept packet
2. -/
theorem setup_unsound_zero : ∃ child,
    processServer (builtPacket 1 flagFilename (filenamePayload 0 1 [111])) .rcopy () = some child ∧
      ¬ SetupSound (builtPacket 1 flagFilename (filenamePayload 0 1 [111])) (some ())
        (childSetup child (some ()) true) := by
  refine ⟨processClient (builtPacket 1 flagFilename (filenamePayload 0 1 [111])) .rcopy (),
    by decide +kernel, fun hsound => ?_⟩
  have hcomplete : ¬ Complete (builtPacket 1 flagFilename (filenamePayload 0 1 [111])) := by
    decide +kernel
  exact absurd (hsound.others hcomplete).2 nofun

end SelectiveReject
