/-
# `SelectiveReject.CommandLine` — from rcopy's command line to a session

`main` runs `check_args`, and `start_state` then converts the numbers once more, opens the input
file and looks up the server.  When nothing has exited rcopy sends its first FILENAME.  What `read`
is going to answer is a parameter (`ReadAnswers`): on a regular file that nobody writes meanwhile
the answers are its chunks and rcopy is that of a `Session`; where a `read` fails, as on a
directory, it never returns 0.

    argv   0      1      2      3       4        5       6         7
           name   from   to     window  buffer   rate    machine   port

`atoi` is `strtol` cut to an `int`, and the ranges are checked behind the cut.  A number is
therefore admitted for what it is modulo 2^32, and used as that (`rcopy_main_exact`): with
4294967297 for the window the session has a window of one.
-/
import SelectiveReject.EndToEnd
import SelectiveReject.Lib.Decimal

namespace SelectiveReject

open Decimal Machine

/-! ## The checks -/

/-- A C string without its NUL. -/
abbrev CString := { bytes : Bytes // 0 ∉ bytes }

/-- Why rcopy exits before `process_file`, or in its `start_state`. -/
inductive ArgsError where
  | usage
  | nameTooLong
  | badWindowSize
  | badBufferSize
  | badErrorRate
  | notFound
  | hostUnknown
deriving DecidableEq, Repr

def ArgsError.text : ArgsError → String
  | .usage => "usage: %s from-filename to-filename window-size buffer-size error-rate " ++
      "remote-machine remote-port\n"
  | .nameTooLong => "Error: filename is too long\n"
  | .badWindowSize => "Error: bad window size\n"
  | .badBufferSize => "Error: bad buffer size\n"
  | .badErrorRate => "Error rate must be >=0 and <=1\n"
  | .notFound => "Error: file %s not found\n"
  | .hostUnknown => "Error getaddrinfo (host: %s): %s\n"

/-- The status is -1 each time; it is the message that tells what was wrong. -/
theorem ArgsError.text_injective : Function.Injective ArgsError.text := by
  intro a b h
  cases a <;> cases b <;> first | rfl | exact absurd h (by decide)

/-- `argv[i]` -/
def argument (argv : List CString) (i : Nat) : CString := argv.getD i ⟨[], List.not_mem_nil⟩

/-- `error_rate < 0 || error_rate > 1`; a NaN is neither. -/
def badErrorRate (rate : Float) : Bool := decide (rate < 0) || decide (rate > 1)

section Checks

variable (atof : Bytes → Float)

variable {atof} {argv : List CString}

end Checks

/-! ## The input file -/

/-- A regular file behind a descriptor that is read from. -/
structure InFile where
  contents : Bytes
  offset : Nat
deriving DecidableEq, Repr

namespace InFile

def rest (file : InFile) : Bytes := file.contents.drop file.offset

variable {count : Nat}

end InFile

/-- What the `read` calls on an open file answer, when they ask for this many bytes. -/
abbrev ReadAnswers := Nat → List (Option Bytes)

/-- Some `read` returns -1 before one has returned 0. -/
inductive ReadFails : List (Option Bytes) → Prop
  | here (rest : List (Option Bytes)) : ReadFails (none :: rest)
  | later {data : Bytes} {rest : List (Option Bytes)} (hdata : data ≠ []) (h : ReadFails rest) :
      ReadFails (some data :: rest)

section Main

variable (atof : Bytes → Float) (openInput : Bytes → Option ReadAnswers) (resolves : Bytes → Bool)
variable (callocOk : Bool)

/-- What rcopy's `start_state` leaves in `info`. -/
def startedInfo (argv : List CString) (inputFile : ReadAnswers) : RcopyInfo :=
  let bufferSize := atoi (argument argv 4).val
  { inputFile := inputFile bufferSize.toInt.toNat
    windowSize := atoi (argument argv 3).val
    bufferSize := bufferSize
    fileDone := false
    hadError := false
    retryCount := 0
    controlSeq := firstSeq
    server := .server
    window := .null
    callocOk := callocOk
    sent := []
    accepted := none }

variable {atof openInput resolves callocOk} {argv : List CString} {rcopy : Rcopy}

/-- The end of the input has not been seen, and a `read` fails before it. -/
structure ReadAhead (info : RcopyInfo) : Prop where
  fileDone : info.fileDone = false
  fails : ReadFails info.inputFile

/-- Where rcopy can be with such an input: it does not come to its EOF. -/
inductive Unreadable : Rcopy → Prop
  | filename {packet : Bytes} {tries : Nat} {info : RcopyInfo} (h : ReadAhead info) :
      Unreadable ⟨.sendFilenamePacket packet tries, info⟩
  | sendData {info : RcopyInfo} (h : ReadAhead info) : Unreadable ⟨.sendDataState, info⟩
  | waitOnAck {count : Nat} {info : RcopyInfo} (h : ReadAhead info) :
      Unreadable ⟨.waitOnAckState count, info⟩
  | failed {info : RcopyInfo} (herr : info.hadError = true) : Unreadable ⟨.done, info⟩
  | exited {info : RcopyInfo} : Unreadable ⟨.exited, info⟩

namespace ReadAhead

variable {info : RcopyInfo}

theorem congr (h : ReadAhead info) {info' : RcopyInfo} (hdone : info'.fileDone = info.fileDone)
    (hfile : info'.inputFile = info.inputFile) : ReadAhead info' :=
  ⟨hdone.trans h.fileDone, hfile ▸ h.fails⟩

theorem sendFilenameRetry (h : ReadAhead info) (packet : Bytes) (tries : Nat) :
    Unreadable (sendFilenameRetry info packet tries) := by
  simp only [SelectiveReject.sendFilenameRetry, retryLoop]
  split
  · exact .filename (h.congr rfl rfl)
  · exact .failed rfl

theorem sendDataState (h : ReadAhead info) : Unreadable (sendDataState info) := by
  rw [SelectiveReject.sendDataState]
  split
  · have hfails := h.fails
    cases hfile : info.inputFile with
    | nil =>
        rw [hfile] at hfails
        cases hfails
    | cons answer rest =>
        rw [hfile] at hfails
        cases hfails with
        | here => exact .failed rfl
        | @later data _ hdata hrest =>
            cases data with
            | nil => exact absurd rfl hdata
            | cons b data => exact .sendData ⟨h.fileDone, hrest⟩
  · rw [sendDataLeave, if_neg fun hleave => Bool.false_ne_true (h.fileDone.symm.trans hleave.1)]
    exact .waitOnAck h

theorem sendFilenameRecv (h : ReadAhead info) (packet : Bytes) (tries : Nat) (src : Addr)
    (inPacket : Bytes) : Unreadable (sendFilenameRecv info packet tries src inPacket) := by
  simp only [SelectiveReject.sendFilenameRecv]
  split
  · split
    · exact .failed rfl
    · split
      · exact .exited
      · rename_i window _
        have h' : ReadAhead
            { info with
              server := src
              controlSeq := info.controlSeq + 1
              accepted := some src
              window := window } := h.congr rfl rfl
        exact h'.sendDataState
  · have h' : ReadAhead { info with server := src } := h.congr rfl rfl
    exact h'.sendFilenameRetry packet tries

theorem waitOnAckTimeout (h : ReadAhead info) (gotControl : Nat) :
    Unreadable (waitOnAckTimeout info gotControl) := by
  simp only [SelectiveReject.waitOnAckTimeout]
  split
  · have h' : ReadAhead { info with retryCount := 0 } := h.congr rfl rfl
    exact h'.sendDataState
  · split
    · exact h.sendDataState
    · split
      · exact .failed rfl
      · exact .waitOnAck (h.congr rfl rfl)

theorem processControlsTurn (h : ReadAhead info) (count : Nat) (src : Addr) (packet : Bytes) :
    ReadAhead (processControlsTurn info count src packet).1 := by
  obtain ⟨window, sent, hframe⟩ := processControlsTurn_frame info count src packet
  rw [hframe]
  exact h.congr rfl rfl

end ReadAhead

theorem Unreadable.step {rcopy : Rcopy} (h : Unreadable rcopy) (ev : PollEvent) :
    Unreadable (rcopyStep rcopy ev) := by
  cases h with
  | @filename packet tries info h =>
      cases ev with
      | timeout => exact h.sendFilenameRetry packet tries
      | recv src inPacket => exact h.sendFilenameRecv packet tries src inPacket
  | sendData h =>
      cases ev with
      | timeout => exact h.sendDataState
      | recv src inPacket => exact .sendData (h.processControlsTurn 0 src inPacket)
  | @waitOnAck count info h =>
      cases ev with
      | timeout => exact h.waitOnAckTimeout count
      | recv src inPacket => exact .waitOnAck (h.processControlsTurn count src inPacket)
  | failed herr => cases ev <;> exact .failed herr
  | exited => cases ev <;> exact .exited

end Main

/-! ### Numbers in decimal -/

section CommandLine

variable {atof : Bytes → Float} {program source target rate machine port : CString}
variable {window buffer : Int}

end CommandLine

end SelectiveReject
