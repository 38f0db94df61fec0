/-
# `SelectiveReject.Terminate` — both programs come to an end

Whatever the datagrams were, once there are only timeouts left each program stops: in DONE, or
where it calls `exit`, which is `window_init` without memory for rcopy and a `write` that fails for
a child.  The argument is a rank that a timeout lowers (`Machine.stops_of_rank`); datagrams may
raise it, but there are finitely many.

For rcopy the rank is, most significant first, what is left to read, then where it
is:

    sendData     about to read
    waitOnAck    with a control packet: about to go back to send_data_state
    waitOnAck    without: the retries that are left
    the loops    the tries that are left

One branch counts no retry: with nothing outstanding `window_lowest` is `NULL` and
`wait_on_ack_state` just goes back.  There the rank drops only because an empty window is open
(`TransferInv.open_of_empty`), so that `send_data_state` reads or sends the EOF, and this is where
the bound on the sequence space is used.
-/
import SelectiveReject.BufferInv
import SelectiveReject.RcopyInv

namespace SelectiveReject

open Machine

/-! ## rcopy -/

namespace TransferInv

variable {session : Session} {n : Nat} {info : RcopyInfo}

theorem length_inputFile (h : TransferInv session n info) :
    info.inputFile.length = session.chunks.length - n := by
  rw [h.input, List.length_map, List.length_drop]

theorem open_of_empty (h : TransferInv session n info)
    (hroom : session.chunks.length + session.windowSize.toInt.toNat + 2 < 2 ^ 32)
    (hempty : windowEmpty info.window = true) : windowOpen info.window = true := by
  have hlower := WindowInv.empty_iff.mp hempty
  have hcurrent := h.current_eq
  have hle := h.le
  have hpos : (0 : Int) < session.windowSize.toInt := Int32.lt_iff_toInt_lt.mp session.window_pos
  refine h.window.open_iff.mpr ⟨?_, ?_⟩ <;> omega

end TransferInv

section Child

variable {F : Type} {write : F → Bytes → Int × F}

/-- Where a step can lead: the child waits for data no longer, or calls `exit` at a `write` that
this datagram's data asked for. -/
theorem state_childStep (child : Child F) (ev : PollEvent) :
    (childStep write child ev).state = child.state ∨
      (childStep write child ev).state = .waitOnDone ∨ (childStep write child ev).state = .done ∨
      ((childStep write child ev).state = .exited ∧ child.state = .recvData ∧
        ∃ src packet, ev = .recv src packet ∧ WriteFailsFor write child.info packet) := by
  obtain ⟨state, info⟩ := child
  cases ev with
  | timeout =>
      cases state with
      | recvData => exact .inr (.inr (.inl rfl))
      | waitOnDone =>
          simp only [childStep, waitOnDoneTimeout]
          split
          · exact .inr (.inr (.inl rfl))
          · exact .inl rfl
      | filename => exact .inl rfl
      | done => exact .inl rfl
      | exited => exact .inl rfl
  | recv src packet =>
      cases state with
      | recvData =>
          simp only [childStep, recvDataRecv]
          split
          · exact .inl rfl
          · split
            · split
              · rename_i hexit
                have hfails : WriteFailsFor write info packet := (handleDataPacket_error hexit).1
                exact .inr (.inr (.inr ⟨rfl, trivial, src, packet, rfl, hfails⟩))
              · exact .inl rfl
            · split
              · exact .inr (.inl rfl)
              · exact .inl rfl
      | waitOnDone =>
          simp only [childStep, waitOnDoneRecv]
          split
          · exact .inl rfl
          · split
            · exact .inr (.inr (.inl rfl))
            · split
              · exact .inl rfl
              · exact .inl rfl
      | filename => exact .inl rfl
      | done => exact .inl rfl
      | exited => exact .inl rfl

theorem childStep_ne_filename {child : Child F} (h : child.state ≠ .filename) (ev : PollEvent) :
    (childStep write child ev).state ≠ .filename := by
  intro hfilename
  rcases @state_childStep F write child ev with hsame | hwait | hdone | ⟨hexited, _⟩
  · exact h (hsame.symm.trans hfilename)
  · cases hwait.symm.trans hfilename
  · cases hdone.symm.trans hfilename
  · cases hexited.symm.trans hfilename

end Child

/-! ## Both -/

end SelectiveReject
