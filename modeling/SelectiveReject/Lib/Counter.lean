/-
# `Counter` — 32-bit counters compared with `<`

A sliding window keeps its bounds in 32-bit counters and compares them with the
plain order, so a bound that passes `2 ^ 32` comes out small and the window closes.
`lt_add_iff` says exactly that: above the lower bound `lo`, the test `s < lo + n`
holds when `s` is within `n` of `lo` *and* `lo + n` did not wrap.

The rest moves between a counter and the natural number it stands for, and between
a C `int` and the two unsigned types it is converted to.
-/
import Mathlib

namespace Counter

theorem toNat_succ {a b : UInt32} (h : a < b) : (a + 1).toNat = a.toNat + 1 := by
  have hlt := UInt32.lt_iff_toNat_lt.mp h
  have hb := b.toNat_lt
  rw [UInt32.toNat_add, UInt32.toNat_one]
  omega

theorem toNat_succ_of_lt {a : UInt32} (h : a.toNat + 1 < 2 ^ 32) :
    (a + 1).toNat = a.toNat + 1 := by
  rw [UInt32.toNat_add, UInt32.toNat_one]
  omega

theorem toNat_ofNat {n : Nat} (h : n < 2 ^ 32) : (UInt32.ofNat n).toNat = n := by
  rw [UInt32.toNat_ofNat']
  omega

theorem ofNat_eq_of_toNat {a : UInt32} {n : Nat} (h : a.toNat = n) : a = UInt32.ofNat n := by
  rw [← h, UInt32.ofNat_toNat]

/-- Above the lower bound, the window test fails for everything once its upper
bound wraps. -/
theorem lt_add_iff {lo s n : UInt32} (h : lo ≤ s) :
    s < lo + n ↔ lo.toNat + n.toNat < 2 ^ 32 ∧ s.toNat < lo.toNat + n.toNat := by
  have hle := UInt32.le_iff_toNat_le.mp h
  have hlo := lo.toNat_lt
  have hn := n.toNat_lt
  have hs := s.toNat_lt
  rw [UInt32.lt_iff_toNat_lt, UInt32.toNat_add]
  omega

theorem toNat_max (a b : UInt32) : (max a b).toNat = max a.toNat b.toNat := by
  rw [show max a b = if a ≤ b then b else a from rfl]
  split
  · rename_i h
    exact (max_eq_right (UInt32.le_iff_toNat_le.mp h)).symm
  · rename_i h
    exact (max_eq_left (UInt32.le_iff_toNat_le.mp (UInt32.le_of_lt (UInt32.not_le.mp h)))).symm

theorem toNat_min (a b : UInt32) : (min a b).toNat = min a.toNat b.toNat := by
  rw [show min a b = if a ≤ b then a else b from rfl]
  split
  · rename_i h
    exact (min_eq_left (UInt32.le_iff_toNat_le.mp h)).symm
  · rename_i h
    exact (min_eq_right (UInt32.le_iff_toNat_le.mp (UInt32.le_of_lt (UInt32.not_le.mp h)))).symm

/-! ## `int` -/

theorem toNat_toUInt32 {n : Int32} (h : 0 ≤ n) : n.toUInt32.toNat = n.toInt.toNat := by
  have h0 : (0 : Int) ≤ n.toInt := Int32.le_iff_toInt_le.mp h
  show n.toBitVec.toNat = n.toBitVec.toInt.toNat
  have hint : n.toBitVec.toInt = n.toInt := rfl
  rw [BitVec.toInt_eq_toNat_cond] at hint ⊢
  split <;> rename_i hc
  · omega
  · have hb := n.toBitVec.isLt
    rw [if_neg hc] at hint
    omega

theorem toNat_toUInt64 {n : Int32} (h : 0 ≤ n) : n.toInt64.toUInt64.toNat = n.toInt.toNat := by
  have h0 : (0 : Int) ≤ n.toInt := Int32.le_iff_toInt_le.mp h
  have hint : n.toInt64.toInt = n.toInt := Int32.toInt_toInt64 n
  show n.toInt64.toBitVec.toNat = _
  have hb : n.toInt64.toBitVec.toInt = n.toInt64.toInt := rfl
  rw [hint, BitVec.toInt_eq_toNat_cond] at hb
  have hlt := n.toInt64.toBitVec.isLt
  split at hb <;> omega

/-- A negative `int` becomes a `size_t` no array can have. -/
theorem le_toNat_toUInt64 {n : Int32} (h : n < 0) : 2 ^ 63 ≤ n.toInt64.toUInt64.toNat := by
  have h0 : n.toInt < (0 : Int) := Int32.lt_iff_toInt_lt.mp h
  have hint : n.toInt64.toInt = n.toInt := Int32.toInt_toInt64 n
  show 2 ^ 63 ≤ n.toInt64.toBitVec.toNat
  have hb : n.toInt64.toBitVec.toInt = n.toInt64.toInt := rfl
  rw [hint, BitVec.toInt_eq_toNat_cond] at hb
  split at hb <;> omega

end Counter
