/-
# `SelectiveReject.FirstPacket` — what a child reads in the datagram it was forked for

`process_client` copies the FILENAME datagram into `first_packet`, which `memset` has
cleared, and `filename_state` reads two numbers and a C string from it:

    bytes 7..10    window size
    bytes 11..14   buffer size
    bytes 15..     the name, up to a NUL

For a packet rcopy built, these are the values it put there (`firstPacket_filename` and what
follows from it).  For any other datagram the name ends inside `first_packet` exactly when the
datagram leaves room for a zero or carries one (`name_inside_iff`): the array has the size of the
largest datagram, and nothing behind it is the child's to read.
-/
import SelectiveReject.Server

namespace SelectiveReject

/-! ## The C string -/

/-- The C string at `place`. -/
def cString (memory : Bytes) (place : Nat) : Bytes := (memory.drop place).takeWhile (· ≠ 0)

theorem takeWhile_append_of_zero_mem {l : Bytes} (h : 0 ∈ l) (r : Bytes) :
    (l ++ r).takeWhile (· ≠ 0) = l.takeWhile (· ≠ 0) := by
  rw [List.takeWhile_append, if_neg]
  intro hlen
  have hall := (List.takeWhile_prefix (fun b : UInt8 => decide (b ≠ 0))).eq_of_length hlen
  have hzero := List.takeWhile_eq_self_iff.mp hall 0 h
  exact absurd rfl (of_decide_eq_true hzero)

theorem takeWhile_append_zero_cons (l r : Bytes) :
    (l ++ 0 :: r).takeWhile (· ≠ 0) = l.takeWhile (· ≠ 0) := by
  rw [List.takeWhile_append]
  split
  · rename_i hlen
    rw [(List.takeWhile_prefix _).eq_of_length hlen]
    exact List.append_nil _
  · rfl

/-! ## `first_packet` -/

theorem memcpy_cleared (packet : Bytes) :
    memcpy (List.replicate srejMaxPacket 0) 0 packet
      = packet ++ List.replicate (srejMaxPacket - packet.length) 0 := by
  rw [memcpy, List.take_zero, List.nil_append, Nat.zero_add, List.drop_replicate]

section Filename

variable (seq : UInt32) (windowSize bufferSize : Int32) {outName : Bytes}

def filenamePayload (windowSize bufferSize : Int32) (outName : Bytes) : Bytes :=
  htonl windowSize.toUInt32 ++ htonl bufferSize.toUInt32 ++ (outName ++ [0])

theorem length_filenamePayload (hname : outName.length ≤ srejMaxName) :
    (filenamePayload windowSize bufferSize outName).length ≤ srejMaxData := by
  simp only [filenamePayload, srejMaxName, srejMaxData, List.length_append, length_htonl,
    List.length_singleton] at hname ⊢
  omega

theorem firstPacket_filename (hname : outName.length ≤ srejMaxName) : ∃ checksum rest,
    memcpy (List.replicate srejMaxPacket 0) 0
        (builtPacket seq flagFilename (filenamePayload windowSize bufferSize outName))
      = header seq checksum flagFilename ++
        (htonl windowSize.toUInt32 ++ (htonl bufferSize.toUInt32 ++ (outName ++ 0 :: rest))) := by
  have hlen := length_filenamePayload windowSize bufferSize hname
  refine ⟨headerCksum seq flagFilename (filenamePayload windowSize bufferSize outName),
    List.replicate (srejMaxPacket - (builtPacket seq flagFilename
      (filenamePayload windowSize bufferSize outName)).length) 0, ?_⟩
  rw [memcpy_cleared, builtPacket_eq _ _ hlen]
  simp only [filenamePayload, List.append_assoc, List.cons_append, List.nil_append]

variable {seq windowSize bufferSize} {first : Bytes} {checksum : UInt16} {rest : Bytes}
  (h : first = header seq checksum flagFilename ++
    (htonl windowSize.toUInt32 ++ (htonl bufferSize.toUInt32 ++ (outName ++ 0 :: rest))))

include h

theorem readU32_windowSize : (readU32 first srejHeaderLen).toInt32 = windowSize := by
  rw [h]
  show (readU32 _ (7 + 0)).toInt32 = _
  rw [← length_header seq flagFilename checksum, readU32_append, readU32_htonl]
  rfl

theorem readU32_bufferSize : (readU32 first (srejHeaderLen + 4)).toInt32 = bufferSize := by
  rw [h, ← List.append_assoc]
  show (readU32 _ (11 + 0)).toInt32 = _
  have hlen : (header seq checksum flagFilename ++ htonl windowSize.toUInt32).length = 11 := rfl
  rw [← hlen, readU32_append, readU32_htonl]
  rfl

theorem takeWhile_outName (hname : 0 ∉ outName) :
    (first.drop (srejHeaderLen + 8)).takeWhile (· ≠ 0) = outName := by
  have hdrop : first.drop (srejHeaderLen + 8) = outName ++ 0 :: rest := by
    rw [h]
    rfl
  rw [hdrop, takeWhile_append_zero_cons, List.takeWhile_eq_self_iff]
  intro b hb
  exact decide_eq_true fun hzero => hname (hzero ▸ hb)

end Filename

/-! ## `filename_state` -/

/-- What `filename_state` stores before it answers. -/
def ServerInfo.configure {F : Type} (info : ServerInfo F) (windowSize bufferSize : Int32)
    (file : F) : ServerInfo F :=
  { info with windowSize := windowSize, bufferSize := bufferSize, outputFile := file }

theorem filenameState_none {F : Type} (info : ServerInfo F) (callocOk : Bool) :
    ∃ windowSize bufferSize, filenameState info none callocOk
      = ⟨.done, sendFilenameResponse
          (info.configure windowSize bufferSize info.outputFile) 1⟩ :=
  ⟨_, _, rfl⟩

theorem filenameState_some {F : Type} (info : ServerInfo F) (file : F) (callocOk : Bool) :
    ∃ windowSize bufferSize, filenameState info (some file) callocOk =
      match bufferInit callocOk (readU32 info.firstPacket srejHeaderLen).toInt32 2 with
      | none => ⟨.exited, sendFilenameResponse (info.configure windowSize bufferSize file) 0⟩
      | some buffer =>
          ⟨.recvData,
            { sendFilenameResponse (info.configure windowSize bufferSize file) 0 with
              buffer := buffer }⟩ :=
  ⟨_, _, rfl⟩

/-! ## Any datagram -/

theorem eq_of_accepted {F : Type} {packet : Bytes} {client : Addr} {unopened : F}
    {child : Child F} (h : processServer packet client unopened = some child) :
    child = processClient packet client unopened := by
  simp only [processServer] at h
  split at h
  · exact (Option.some.inj h).symm
  · cases h

theorem getD_cleared (packet : Bytes) (n i : Nat) :
    (packet ++ List.replicate n 0).getD i 0 = packet.getD i 0 := by
  rw [List.getD_eq_getElem?_getD, List.getD_eq_getElem?_getD]
  rcases Nat.lt_or_ge i packet.length with hlt | hge
  · rw [List.getElem?_append_left hlt]
  · rw [List.getElem?_append_right hge, List.getElem?_eq_none hge, List.getElem?_replicate]
    split <;> rfl

theorem readU32_cleared (packet : Bytes) (place : Nat) :
    readU32 (memcpy (List.replicate srejMaxPacket 0) 0 packet) place = readU32 packet place := by
  rw [memcpy_cleared]
  simp only [readU32, getD_cleared]

/-- The name ends with a NUL inside `first_packet`, so it is the datagram's own bytes up to a
NUL or to its end, whatever memory lies behind the array. -/
def NameInside {F : Type} (packet : Bytes) (info : ServerInfo F) : Prop :=
  (∃ i, srejHeaderLen + 8 ≤ i ∧ i < srejMaxPacket ∧ info.firstPacket[i]? = some 0) ∧
    ∀ behind, cString (info.firstPacket ++ behind) (srejHeaderLen + 8)
      = (packet.drop (srejHeaderLen + 8)).takeWhile (· ≠ 0)

/-- The name ends inside `first_packet` unless the datagram fills the array and has no
NUL from byte 15 on. -/
theorem name_inside_iff {F : Type} {packet : Bytes} {client : Addr} {unopened : F}
    {child : Child F} (hlen : srejHeaderLen ≤ packet.length ∧ packet.length ≤ srejMaxPacket)
    (haccepted : processServer packet client unopened = some child) :
    NameInside packet child.info ↔
      packet.length < srejMaxPacket ∨ 0 ∈ packet.drop (srejHeaderLen + 8) := by
  have hfirst : child.info.firstPacket
      = packet ++ List.replicate (srejMaxPacket - packet.length) 0 := by
    rw [eq_of_accepted haccepted]
    exact memcpy_cleared packet
  rw [NameInside, hfirst]
  constructor
  · rintro ⟨⟨i, hi, hi', hzero⟩, _⟩
    rcases Nat.lt_or_ge packet.length srejMaxPacket with hlt | hge
    · exact .inl hlt
    · -- nothing was padded: the NUL is the datagram's
      refine .inr (List.mem_of_getElem? (i := i - (srejHeaderLen + 8)) ?_)
      rw [List.getElem?_append_left (by omega)] at hzero
      rw [List.getElem?_drop, Nat.add_sub_cancel' hi, hzero]
  · rintro (hlt | hmem)
    · -- the cleared rest of the array ends the name
      have hplace : max (srejHeaderLen + 8) packet.length < srejMaxPacket :=
        Nat.max_lt.mpr ⟨by decide, hlt⟩
      refine ⟨⟨max (srejHeaderLen + 8) packet.length, Nat.le_max_left _ _, hplace, ?_⟩,
        fun behind => ?_⟩
      · rw [List.getElem?_append_right (Nat.le_max_right _ _), List.getElem?_replicate,
          if_pos (by omega)]
      · obtain ⟨k, hk⟩ : ∃ k,
            srejMaxPacket - packet.length - (srejHeaderLen + 8 - packet.length) = k + 1 :=
          Nat.exists_eq_succ_of_ne_zero (by simp only [srejMaxPacket, srejHeaderLen] at *; omega)
        rw [cString, List.append_assoc, List.drop_append, List.drop_append,
          List.drop_replicate, hk, List.replicate_succ, List.cons_append]
        exact takeWhile_append_zero_cons _ _
    · obtain ⟨i, hzero⟩ := List.mem_iff_getElem?.mp hmem
      rw [List.getElem?_drop] at hzero
      obtain ⟨hi, _⟩ := List.getElem?_eq_some_iff.mp hzero
      refine ⟨⟨srejHeaderLen + 8 + i, Nat.le_add_right _ _, by omega, ?_⟩, fun behind => ?_⟩
      · rw [List.getElem?_append_left hi, hzero]
      · rw [cString, List.append_assoc, List.drop_append]
        exact takeWhile_append_of_zero_mem hmem _

theorem name_inside_letter :
    NameInside (builtPacket 1 flagFilename (filenamePayload 1 1 [111]))
      (processClient (builtPacket 1 flagFilename (filenamePayload 1 1 [111])) .rcopy ()).info :=
  (@name_inside_iff Unit _ .rcopy () _ (by decide +kernel) (by decide +kernel)).mpr
    (.inl (by decide +kernel))

/-- The largest datagram, without a NUL: the name runs off the end of `first_packet`. -/
theorem name_outside : ∃ child,
    processServer (builtPacket 1 flagFilename (List.replicate srejMaxData 1)) .rcopy ()
      = some child ∧
      ¬ NameInside (builtPacket 1 flagFilename (List.replicate srejMaxData 1)) child.info := by
  refine ⟨_, (by decide +kernel : processServer _ .rcopy () = some (processClient
    (builtPacket 1 flagFilename (List.replicate srejMaxData 1)) .rcopy ())), ?_⟩
  rintro ⟨⟨i, hi, _, hzero⟩, _⟩
  rw [← Nat.add_sub_cancel' hi, ← List.getElem?_drop] at hzero
  exact absurd (List.mem_of_getElem? hzero) (by decide +kernel)

end SelectiveReject
