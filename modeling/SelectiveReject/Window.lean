/-
# `SelectiveReject.Window` — the sender's window (`Window.c`)

A circular array of the packets sent and not yet acknowledged; sequence number `seq`
lives in slot `seq % size`.  `lower` is the oldest unacknowledged number, `current`
the next to send, `upper = lower + size` in 32-bit arithmetic.  A released entry
keeps its `seq` and its bytes: only `used` is cleared.

`size` is the source's `int`; next to a `uint32_t` it is converted to unsigned,
which is the `toUInt32` below.

Every loop of `Window.c` counts a sequence number up to `current`, so each ends
for every state of the window, reachable or not.
-/
import SelectiveReject.Lib.Counter
import SelectiveReject.Packet

namespace SelectiveReject

structure WindowEntry where
  seq : UInt32
  packetLen : Nat
  used : Bool
  packet : Bytes
deriving DecidableEq, Repr

def WindowEntry.zero : WindowEntry := ⟨0, 0, false, List.replicate srejMaxPacket 0⟩

/-- `sizeof(WindowEntry)`: three 4-byte fields and 1407 bytes, padded to a
multiple of four. -/
def sizeofWindowEntry : Nat := 1420

structure Window where
  entry : List WindowEntry
  size : Int32
  lower : UInt32
  current : UInt32
  upper : UInt32
deriving DecidableEq, Repr

/-- The window inside a `RcopyInfo` cleared by `memset`: no array yet. -/
def Window.null : Window := ⟨[], 0, 0, 0, 0⟩

/-- `seq % window->size` -/
def Window.spot (window : Window) (seq : UInt32) : Nat := (seq % window.size.toUInt32).toNat

/-- `window->entry[spot]` -/
def Window.at (window : Window) (spot : Nat) : WindowEntry :=
  window.entry.getD spot WindowEntry.zero

/-- `none` is `exit(-1)` after a failed `calloc`; `ok` is the system's answer to it. -/
def windowInit (ok : Bool) (size : Int32) (startSeq : UInt32) : Option Window :=
  match calloc ok size sizeofWindowEntry WindowEntry.zero with
  | none => none
  | some entry => some ⟨entry, size, startSeq, startSeq, startSeq + size.toUInt32⟩

def windowOpen (window : Window) : Bool := decide (window.current < window.upper)

def windowEmpty (window : Window) : Bool := decide (window.lower = window.current)

def windowAdd (window : Window) (seq : UInt32) (packet : Bytes) : Window :=
  let spot := window.spot seq
  let old := window.at spot
  let entry := window.entry.set spot ⟨seq, packet.length, true, memcpy old.packet 0 packet⟩
  if seq = window.current then { window with entry := entry, current := window.current + 1 }
  else { window with entry := entry }

/-- `none` is the `NULL` pointer. -/
def windowFind (window : Window) (seq : UInt32) : Option WindowEntry :=
  let entry := window.at (window.spot seq)
  if entry.used = true ∧ entry.seq = seq then some entry else none

/-- The loop of `window_lowest`, from `seq`. -/
def windowLowestFrom (window : Window) (seq : UInt32) : Option WindowEntry :=
  if _h : seq < window.current then
    match windowFind window seq with
    | some entry => some entry
    | none => windowLowestFrom window (seq + 1)
  else none
termination_by window.current.toNat - seq.toNat
decreasing_by
  have hlt := UInt32.lt_iff_toNat_lt.mp _h
  have hsucc := Counter.toNat_succ _h
  omega

def windowLowest (window : Window) : Option WindowEntry := windowLowestFrom window window.lower

/-- One turn of the first loop of `window_rr`: the entry of `seq` becomes unused. -/
def windowRrTurn (window : Window) (seq : UInt32) : Window :=
  let spot := window.spot seq
  let entry := window.at spot
  { window with
    entry :=
      if entry.seq = seq then window.entry.set spot { entry with used := false }
      else window.entry }

/-- The first loop of `window_rr`, from `seq`. -/
def windowRrClear (window : Window) (rrSeq seq : UInt32) : Window :=
  if _h : seq < rrSeq ∧ seq < window.current then
    windowRrClear (windowRrTurn window seq) rrSeq (seq + 1)
  else window
termination_by window.current.toNat - seq.toNat
decreasing_by
  have hlt := UInt32.lt_iff_toNat_lt.mp _h.2
  have hsucc := Counter.toNat_succ _h.2
  show window.current.toNat - (seq + 1).toNat < _
  omega

/-- The second loop of `window_rr`: move `lower` to the first entry still held. -/
def windowRrAdvance (window : Window) : Window :=
  if _h : window.lower < window.current ∧ (windowFind window window.lower).isNone = true then
    windowRrAdvance { window with lower := window.lower + 1 }
  else window
termination_by window.current.toNat - window.lower.toNat
decreasing_by
  have hlt := UInt32.lt_iff_toNat_lt.mp _h.1
  have hsucc := Counter.toNat_succ _h.1
  show window.current.toNat - (window.lower + 1).toNat < _
  omega

def windowRr (window : Window) (rrSeq : UInt32) : Window :=
  let window := windowRrClear window rrSeq window.lower
  let window := windowRrAdvance window
  { window with upper := window.lower + window.size.toUInt32 }

end SelectiveReject
