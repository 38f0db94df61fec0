/-
# `SelectiveReject.Posix` — what the two programs ask of the system

Memory, addresses, the poll-and-receive pair, and a file behind a descriptor.
Where the system may answer in more than one way (`calloc`, `open`, `write`, `poll`), the
answer is an argument of the model, so a statement about every run is a statement
about every answer.
-/
import SelectiveReject.Lib.Counter

namespace SelectiveReject

abbrev Bytes := List UInt8

/-! ## Memory -/

/-- `memcpy(dst + place, src, len)` for a `src` of exactly `len` bytes. -/
def memcpy (dst : Bytes) (place : Nat) (src : Bytes) : Bytes :=
  dst.take place ++ src ++ dst.drop (place + src.length)

theorem take_memcpy_zero (dst src : Bytes) : (memcpy dst 0 src).take src.length = src := by
  simp [memcpy]

/-- An `int` argument converted to `size_t`: sign extension, so a negative one is
huge. -/
def sizeT (n : Int32) : Nat := n.toInt64.toUInt64.toNat

/-- `calloc(n, size)` for an array of zeroed elements.  `ok` is the system's answer
when the byte count fits; it never succeeds when the count overflows. -/
def calloc {α : Type} (ok : Bool) (n : Int32) (size : Nat) (zero : α) : Option (List α) :=
  if ok = true ∧ sizeT n * size < 2 ^ 64 then some (List.replicate (sizeT n) zero) else none

theorem calloc_eq_some {α : Type} {ok : Bool} {n : Int32} {size : Nat} {zero : α} {l : List α}
    (hsize : 2 ≤ size) (h : calloc ok n size zero = some l) :
    0 ≤ n ∧ l = List.replicate n.toInt.toNat zero := by
  simp only [calloc] at h
  split at h
  · rename_i hc
    have hn : 0 ≤ n := by
      refine Int32.not_lt.mp fun hneg => ?_
      have hbig : 2 ^ 63 ≤ sizeT n := Counter.le_toNat_toUInt64 hneg
      have : 2 ^ 63 * 2 ≤ sizeT n * size := Nat.mul_le_mul hbig hsize
      omega
    refine ⟨hn, ?_⟩
    rw [← Option.some.inj h, sizeT, Counter.toNat_toUInt64 hn]
  · cases h

/-- Memory for a non-negative `int` number of elements of at most a million bytes never
overflows the byte count. -/
theorem calloc_ok {α : Type} {n : Int32} {size : Nat} {zero : α} (hn : 0 ≤ n)
    (hsize : size ≤ 2 ^ 20) :
    calloc true n size zero = some (List.replicate n.toInt.toNat zero) := by
  have hlt : n.toInt.toNat < 2 ^ 32 := by
    rw [← Counter.toNat_toUInt32 hn]
    exact n.toUInt32.toNat_lt
  have hbytes : n.toInt.toNat * size < 2 ^ 64 :=
    calc n.toInt.toNat * size ≤ n.toInt.toNat * 2 ^ 20 := Nat.mul_le_mul_left _ hsize
      _ < 2 ^ 64 := by omega
  simp only [calloc, sizeT, Counter.toNat_toUInt64 hn, true_and, if_pos hbytes]

/-! ## Sockets -/

/-- The `sockaddr_in6` of a socket: rcopy's, the one the server is bound to, the
one the `n`-th forked child opens, or anybody else's. -/
inductive Addr where
  | rcopy
  | server
  | child (n : Nat)
  | other (n : Nat)
deriving DecidableEq, Repr

/-- One `safeSendto`: where to and which bytes. -/
structure Sent where
  dst : Addr
  packet : Bytes
deriving DecidableEq, Repr

/-- What a `pollCall` comes back with: a timeout, or a ready socket, from which
`safeRecvfrom` then takes one datagram and its source address. -/
inductive PollEvent where
  | timeout
  | recv (src : Addr) (packet : Bytes)
deriving DecidableEq, Repr

/-! ## Files -/

/-- A file seen through one descriptor: its contents and the descriptor's
offset. -/
structure OutFile where
  contents : Bytes
  offset : Nat
deriving DecidableEq, Repr

/-- A `write` of all the bytes: they go to the offset, over what is there, after a gap
of zeros where the file is shorter. -/
def OutFile.write (file : OutFile) (data : Bytes) : Int × OutFile :=
  let before := file.contents.take file.offset
  let gap := List.replicate (file.offset - file.contents.length) 0
  let behind := file.contents.drop (file.offset + data.length)
  (data.length, ⟨before ++ gap ++ data ++ behind, file.offset + data.length⟩)

theorem OutFile.write_append (file : OutFile) (data : Bytes)
    (h : file.offset = file.contents.length) :
    (file.write data).1 = data.length ∧
      (file.write data).2 = ⟨file.contents ++ data, (file.contents ++ data).length⟩ := by
  simp [OutFile.write, h]

end SelectiveReject
