/-
# `OnesComplement` — folding a sum of 16-bit words

The arithmetic under an Internet checksum: a sum of 16-bit words is folded by
adding its upper half to its lower half, twice, and cut to 16 bits.  Below `2 ^ 32`
two folds are enough (`fold_modEq`), so the folded sum is the residue modulo
`2 ^ 16 - 1`, with zero only for the zero sum (`fold_eq_zero`).  From that, adding
the complement of the folded sum makes the sum fold to all ones
(`fold_add_compl`), which is what a receiver tests; and no change of a single byte
passes that test (`wordSum_set_mod_ne`).
-/
import Mathlib

namespace OnesComplement

/-- The sum of the little-endian 16-bit words of a byte string; a last odd byte
counts as a word of its own. -/
def wordSum : List UInt8 → Nat
  | lo :: hi :: w => lo.toNat + 256 * hi.toNat + wordSum w
  | [b] => b.toNat
  | [] => 0

/-- Two folds of the upper half into the lower, cut to 16 bits. -/
def fold (sum : Nat) : Nat :=
  let once := sum / 2 ^ 16 + sum % 2 ^ 16
  (once + once / 2 ^ 16) % 2 ^ 16

theorem wordSum_le : ∀ w : List UInt8, wordSum w ≤ 65535 * ((w.length + 1) / 2)
  | [] => Nat.le_refl _
  | [b] => by
      have := b.toNat_lt
      simp only [wordSum, List.length_cons, List.length_nil]
      omega
  | lo :: hi :: w => by
      have hlo := lo.toNat_lt
      have hhi := hi.toNat_lt
      have ih := wordSum_le w
      simp only [wordSum, List.length_cons]
      omega

theorem wordSum_eq_zero : ∀ {w : List UInt8}, wordSum w = 0 ↔ ∀ b ∈ w, b = 0
  | [] => ⟨fun _ => nofun, fun _ => rfl⟩
  | [b] => by
      rw [List.forall_mem_singleton, ← UInt8.toNat_inj]
      rfl
  | lo :: hi :: w => by
      have ih := @wordSum_eq_zero w
      rw [List.forall_mem_cons, List.forall_mem_cons, ← ih, ← UInt8.toNat_inj,
        ← UInt8.toNat_inj, wordSum, UInt8.toNat_zero]
      omega

def weight : Nat → Nat
  | 0 => 1
  | 1 => 256
  | i + 2 => weight i

theorem weight_cases : ∀ i, weight i = 1 ∨ weight i = 256
  | 0 => .inl rfl
  | 1 => .inr rfl
  | i + 2 => weight_cases i

theorem wordSum_set : ∀ (w : List UInt8) {i : Nat} (hi : i < w.length) (b : UInt8),
    wordSum (w.set i b) + weight i * w[i].toNat = wordSum w + weight i * b.toNat
  | [_], 0, _, b => by
      simp only [List.set_cons_zero, wordSum, List.getElem_cons_zero, weight]
      omega
  | lo :: hi :: w, 0, _, b => by
      simp only [List.set_cons_zero, wordSum, List.getElem_cons_zero, weight]
      omega
  | lo :: hi :: w, 1, _, b => by
      simp only [List.set_cons_succ, List.set_cons_zero, wordSum, List.getElem_cons_succ,
        List.getElem_cons_zero, weight]
      omega
  | lo :: hi :: w, i + 2, hi', b => by
      have ih := wordSum_set w (Nat.lt_of_add_lt_add_right hi') b
      simp only [List.set_cons_succ, wordSum, List.getElem_cons_succ, weight]
      omega

/-- A changed byte is always seen modulo `65535`: it moves the sum, and by less than that. -/
theorem wordSum_set_mod_ne {w : List UInt8} {i : Nat} (hi : i < w.length) {b : UInt8}
    (hb : b ≠ w[i]) : wordSum (w.set i b) % 65535 ≠ wordSum w % 65535 := by
  have hset := wordSum_set w hi b
  have hne : b.toNat ≠ w[i].toNat := fun h => hb (UInt8.toNat_inj.mp h)
  have hlt := b.toNat_lt
  have hlt' := w[i].toNat_lt
  rcases weight_cases i with hweight | hweight
  · rw [hweight] at hset
    omega
  · rw [hweight] at hset
    omega

/-- The second fold carries at most once, so it is a subtraction of `65535`
or nothing. -/
theorem fold_eq_ite {q r : Nat} (hq : q < 2 ^ 16) (hr : r < 2 ^ 16) :
    fold (2 ^ 16 * q + r) = if q + r < 2 ^ 16 then q + r else q + r - 65535 := by
  have honce : (2 ^ 16 * q + r) / 2 ^ 16 + (2 ^ 16 * q + r) % 2 ^ 16 = q + r := by omega
  simp only [fold, honce]
  split <;> omega

theorem fold_le (sum : Nat) : fold sum ≤ 65535 := by
  have : fold sum < 2 ^ 16 := Nat.mod_lt _ (by decide)
  omega

/-- Two folds suffice below `2 ^ 32`: nothing is lost modulo `65535`. -/
theorem fold_modEq {sum : Nat} (h : sum < 2 ^ 32) : fold sum % 65535 = sum % 65535 := by
  obtain ⟨q, r, hr, rfl⟩ : ∃ q r, r < 2 ^ 16 ∧ sum = 2 ^ 16 * q + r :=
    ⟨sum / 2 ^ 16, sum % 2 ^ 16, Nat.mod_lt _ (by decide), (Nat.div_add_mod _ _).symm⟩
  rw [fold_eq_ite (by omega) hr]
  split <;> omega

theorem fold_eq_zero {sum : Nat} (h : sum < 2 ^ 32) : fold sum = 0 ↔ sum = 0 := by
  obtain ⟨q, r, hr, rfl⟩ : ∃ q r, r < 2 ^ 16 ∧ sum = 2 ^ 16 * q + r :=
    ⟨sum / 2 ^ 16, sum % 2 ^ 16, Nat.mod_lt _ (by decide), (Nat.div_add_mod _ _).symm⟩
  rw [fold_eq_ite (by omega) hr]
  split <;> omega

theorem fold_eq_max {sum : Nat} (h : sum < 2 ^ 32) :
    fold sum = 65535 ↔ 0 < sum ∧ sum % 65535 = 0 := by
  have hle := fold_le sum
  have hmod := fold_modEq h
  have hzero := fold_eq_zero h
  omega

theorem fold_add_compl {sum : Nat} (h : sum + 65535 < 2 ^ 32) :
    fold (sum + (65535 - fold sum)) = 65535 := by
  have hle := fold_le sum
  have hsum : sum < 2 ^ 32 := by omega
  have hmod := fold_modEq hsum
  have hzero := fold_eq_zero hsum
  refine (fold_eq_max (by omega)).mpr ⟨?_, ?_⟩
  · by_contra hs
    omega
  · omega

/-- One more word leaves the folded sum as it is only when it counts for nothing modulo `65535`;
all ones do, except on top of the zero sum. -/
theorem fold_add_eq_iff {sum word : Nat} (hword : word ≤ 65535) (h : sum + word < 2 ^ 32) :
    fold (sum + word) = fold sum ↔ word = 0 ∨ word = 65535 ∧ 0 < sum := by
  have hsum : sum < 2 ^ 32 := by omega
  have hle := fold_le sum
  have hle' := fold_le (sum + word)
  have hmod := fold_modEq hsum
  have hmod' := fold_modEq h
  have hzero := fold_eq_zero hsum
  have hzero' := fold_eq_zero h
  omega

/-- The complement of the folded sum of `sum + word` completes `sum` under the same
condition. -/
theorem add_compl_fold_iff {sum word : Nat} (hword : word ≤ 65535) (h : sum + word < 2 ^ 32) :
    (0 < sum + (65535 - fold (sum + word)) ∧ (sum + (65535 - fold (sum + word))) % 65535 = 0) ↔
      word = 0 ∨ word = 65535 ∧ 0 < sum := by
  have hle := fold_le (sum + word)
  have hmod := fold_modEq h
  have hzero := fold_eq_zero h
  omega

end OnesComplement
