/-
# `Rand48` — the C library's `drand48`, and indices drawn with it

The generator is a linear congruence on 48 bits.  `srand48` puts the low 32 bits of its
seed above the constant `0x330E`; `drand48` steps the generator and reads the state as a
fraction of `2 ^ 48`, so a draw is given here by its numerator.

C code picks one of `n` things by `(int)(n * drand48())`.  The product of a number of a few bits and
a 48-bit fraction may need more bits than a `double` has and is rounded (`roundBits`); rounding
up to `n` itself would pick a thing that is not there.  `pick_lt` is the proof that this does not
happen as long as the format holds the 48 bits of the draw.

Where a draw is compared with something it is a `double`, or a `float` that it was assigned to
(`doubleToFloat`); these are Lean's `Float` and `Float32`, with their NaN and infinities.
-/
import Mathlib.Data.Nat.Log
import Mathlib.Tactic.Ring

/-! ## Rounding -/

/-- The distance between neighbours around `m` in a format of `p` significant bits. -/
def ulp (p m : Nat) : Nat := 2 ^ (m.log2 + 1 - p)

/-- `m` to the nearest number of `p` significant bits, ties to even. -/
def roundBits (p m : Nat) : Nat :=
  let low := m % ulp p m
  if ulp p m < 2 * low ∨ (ulp p m = 2 * low ∧ m / ulp p m % 2 = 1) then m - low + ulp p m
  else m - low

/-- Rounding moves a number by at most half the distance between neighbours. -/
theorem two_mul_roundBits_le (p m : Nat) : 2 * roundBits p m ≤ 2 * m + ulp p m := by
  have hlow : m % ulp p m ≤ m := Nat.mod_le _ _
  simp only [roundBits]
  split
  · rename_i hup
    rcases hup with hmore | ⟨htie, _⟩ <;> omega
  · omega

theorem roundBits_of_ulp_eq_one {p m : Nat} (h : ulp p m = 1) : roundBits p m = m := by
  simp [roundBits, h, Nat.mod_one]

/-- Where neighbours are more than one apart, all `p` bits are in use. -/
theorem ulp_mul_le {p m : Nat} (hp : 0 < p) (h : ulp p m ≠ 1) : ulp p m * 2 ^ (p - 1) ≤ m := by
  have hm : m ≠ 0 := by
    rintro rfl
    apply h
    simp [ulp, Nat.sub_eq_zero_of_le (Nat.succ_le_of_lt hp)]
  have hlong : m.log2 + 1 - p ≠ 0 := fun hzero => h (by rw [ulp, hzero, pow_zero])
  calc ulp p m * 2 ^ (p - 1) = 2 ^ (m.log2 + 1 - p + (p - 1)) := (pow_add _ _ _).symm
    _ = 2 ^ m.log2 := by congr 1; omega
    _ ≤ m := Nat.log2_self_le hm

/-! ## `double` and `float` -/

open Float.Model in
/-- The conversion to `float` by an assignment or a call: to the nearest, ties to even; what is too
large becomes infinite. -/
def doubleToFloat (x : Float) : Float32 :=
  .ofModel (.pack (match x.toModel.unpack with
    | .infinity sign => .infinity sign
    | .notANumber => .notANumber
    | .zero sign => .zero sign
    | .finite sign mantissa exponent _ => .round .binary32 sign mantissa exponent))

-- a rate of 0.1 is kept as 13421773 / 2 ^ 27
example : doubleToFloat 0.1 = 13421773 / 134217728 := by decide +kernel

/-! ## The generator -/

structure Rand48 where
  x : BitVec 48
deriving DecidableEq, Repr

namespace Rand48

/-- `srand48(seed)` -/
def srand48 (seed : Int) : Rand48 := ⟨BitVec.ofInt 32 seed ++ 0x330E#16⟩

/-- `drand48()`: the numerator of the draw over `2 ^ 48`, and the generator after it. -/
def drand48 (rand : Rand48) : Nat × Rand48 :=
  let x := rand.x * 0x5DEECE66D#48 + 0xB#48
  (x.toNat, ⟨x⟩)

/-- The draw of numerator `draw`, which a `double` holds exactly. -/
def asDouble (draw : Nat) : Float :=
  .ofModel (.pack (.normalize .binary64 draw (-48) .positive))

theorem drand48_lt (rand : Rand48) : rand.drand48.1 < 2 ^ 48 := BitVec.isLt _

/-- `(int)(n * d)` for the draw `d` of numerator `draw`, the product rounded to `p` bits. -/
def pick (p n draw : Nat) : Nat := roundBits p (n * draw) / 2 ^ 48

theorem pick_lt {p n draw : Nat} (hp : 48 ≤ p) (hn : 0 < n) (hdraw : draw < 2 ^ 48) :
    pick p n draw < n := by
  refine Nat.div_lt_of_lt_mul ?_
  have hprod : n * (draw + 1) ≤ n * 2 ^ 48 := Nat.mul_le_mul_left n hdraw
  rw [Nat.mul_add, Nat.mul_one] at hprod
  rw [Nat.mul_comm (2 ^ 48) n]
  by_cases hexact : ulp p (n * draw) = 1
  · rw [roundBits_of_ulp_eq_one hexact]
    omega
  · -- half the distance between neighbours is less than the `n` that are to spare
    have hulp : ulp p (n * draw) < 2 * n := by
      have hpow : 2 ^ p = 2 * 2 ^ (p - 1) := by
        rw [← pow_succ']
        congr 1
        omega
      refine Nat.lt_of_mul_lt_mul_right (a := 2 ^ (p - 1)) ?_
      calc ulp p (n * draw) * 2 ^ (p - 1) ≤ n * draw := ulp_mul_le (by omega) hexact
        _ < n * 2 ^ 48 := Nat.mul_lt_mul_of_pos_left hdraw hn
        _ ≤ n * 2 ^ p := Nat.mul_le_mul_left n (Nat.pow_le_pow_right (by omega) hp)
        _ = 2 * n * 2 ^ (p - 1) := by rw [hpow]; ring
    have hround := two_mul_roundBits_le p (n * draw)
    omega

end Rand48
