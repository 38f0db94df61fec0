/-
# `Reassembly` — putting numbered pieces back in order

Pieces of a sequence arrive under consecutive numbers from `lo` on, in any order and
with gaps: a partial map `got` from numbers to pieces.  The first gap is the least
number not there yet, and `joined got lo hi` is what can be delivered when everything
below `hi` is.  Nothing here says how the pieces are kept.
-/
import Mathlib

namespace Reassembly

universe u

variable {α : Type u}

/-- `gap` is the first number from `lo` on that is missing. -/
structure IsGap (got : Nat → Option (List α)) (lo gap : Nat) : Prop where
  le : lo ≤ gap
  full : ∀ k, lo ≤ k → k < gap → got k ≠ none
  missing : got gap = none

/-- The pieces `lo ≤ k < hi`, in order of their numbers. -/
def pieces (got : Nat → Option (List α)) (lo hi : Nat) : List (List α) :=
  (List.range' lo (hi - lo)).map fun k => (got k).getD []

/-- The same, joined. -/
def joined (got : Nat → Option (List α)) (lo hi : Nat) : List α := (pieces got lo hi).flatten

theorem IsGap.isLeast {got : Nat → Option (List α)} {lo gap : Nat} (h : IsGap got lo gap) :
    IsLeast {k | lo ≤ k ∧ got k = none} gap := by
  refine ⟨⟨h.le, h.missing⟩, ?_⟩
  rintro k ⟨hlo, hk⟩
  by_contra hlt
  exact h.full k hlo (Nat.lt_of_not_le hlt) hk

@[simp] theorem pieces_self (got : Nat → Option (List α)) (lo : Nat) : pieces got lo lo = [] := by
  simp [pieces]

theorem pieces_append {got : Nat → Option (List α)} {lo mid hi : Nat} (h₁ : lo ≤ mid)
    (h₂ : mid ≤ hi) : pieces got lo hi = pieces got lo mid ++ pieces got mid hi := by
  obtain ⟨a, rfl⟩ := Nat.exists_eq_add_of_le h₁
  obtain ⟨b, rfl⟩ := Nat.exists_eq_add_of_le h₂
  rw [pieces, pieces, pieces, ← List.map_append]
  rw [show lo + a + b - lo = a + b by omega, show lo + a - lo = a by omega,
    show lo + a + b - (lo + a) = b by omega, List.range'_append_1]

theorem pieces_succ_self (got : Nat → Option (List α)) (lo : Nat) :
    pieces got lo (lo + 1) = [(got lo).getD []] := by
  simp [pieces]

theorem pieces_congr {got got' : Nat → Option (List α)} {lo hi : Nat}
    (h : ∀ k, lo ≤ k → k < hi → got k = got' k) : pieces got lo hi = pieces got' lo hi := by
  refine List.map_congr_left fun k hk => ?_
  obtain ⟨hlo, hhi⟩ := List.mem_range'_1.mp hk
  rw [h k hlo (by omega)]

@[simp] theorem joined_self (got : Nat → Option (List α)) (lo : Nat) : joined got lo lo = [] := by
  simp [joined]

theorem joined_append {got : Nat → Option (List α)} {lo mid hi : Nat} (h₁ : lo ≤ mid)
    (h₂ : mid ≤ hi) : joined got lo hi = joined got lo mid ++ joined got mid hi := by
  rw [joined, pieces_append h₁ h₂, List.flatten_append]
  rfl

theorem joined_succ {got : Nat → Option (List α)} {lo hi : Nat} (h : lo ≤ hi) :
    joined got lo (hi + 1) = joined got lo hi ++ (got hi).getD [] := by
  rw [joined_append h (Nat.le_succ hi)]
  simp [joined, pieces_succ_self]

theorem joined_congr {got got' : Nat → Option (List α)} {lo hi : Nat}
    (h : ∀ k, lo ≤ k → k < hi → got k = got' k) : joined got lo hi = joined got' lo hi := by
  rw [joined, pieces_congr h]
  rfl

/-! ## Accepting a piece -/

/-- `got` with a piece under `k`, unless there is one already. -/
def keepFirst (got : Nat → Option (List α)) (k : Nat) (piece : List α) : Nat → Option (List α) :=
  Function.update got k (some ((got k).getD piece))

/-- The pieces from `gap` on. -/
def ahead (got : Nat → Option (List α)) (gap k : Nat) : Option (List α) :=
  if gap ≤ k then got k else none

theorem keepFirst_of_ne {got : Nat → Option (List α)} {k k' : Nat} (h : k' ≠ k) (piece : List α) :
    keepFirst got k piece k' = got k' :=
  Function.update_of_ne h _ _

theorem keepFirst_self (got : Nat → Option (List α)) (k : Nat) (piece : List α) :
    keepFirst got k piece k = some ((got k).getD piece) :=
  Function.update_self _ _ _

theorem keepFirst_of_some {got : Nat → Option (List α)} {k : Nat} (h : got k ≠ none)
    (piece : List α) : keepFirst got k piece = got := by
  obtain ⟨old, hold⟩ := Option.ne_none_iff_exists'.mp h
  rw [keepFirst, hold, Option.getD_some, ← hold, Function.update_eq_self]

theorem keepFirst_of_none {got : Nat → Option (List α)} {k : Nat} (h : got k = none)
    (piece : List α) : keepFirst got k piece = Function.update got k (some piece) := by
  rw [keepFirst, h, Option.getD_none]

/-- Only the number accepted can be new. -/
theorem of_keepFirst_ne_none {got : Nat → Option (List α)} {k k' : Nat} {piece : List α}
    (h : keepFirst got k piece k' ≠ none) : k' = k ∨ got k' ≠ none := by
  by_cases hk : k' = k
  · exact .inl hk
  · rw [keepFirst_of_ne hk] at h
    exact .inr h

theorem keepFirst_ne_none {got : Nat → Option (List α)} {k' : Nat} (h : got k' ≠ none) (k : Nat)
    (piece : List α) : keepFirst got k piece k' ≠ none := by
  by_cases hk : k' = k
  · rw [hk, keepFirst_self]
    nofun
  · rwa [keepFirst_of_ne hk]

theorem ahead_of_le {got : Nat → Option (List α)} {gap k : Nat} (h : gap ≤ k) :
    ahead got gap k = got k :=
  if_pos h

theorem of_ahead_ne_none {got : Nat → Option (List α)} {gap k : Nat}
    (h : ahead got gap k ≠ none) : gap ≤ k ∧ got k ≠ none := by
  by_cases hk : gap ≤ k
  · rw [ahead_of_le hk] at h
    exact ⟨hk, h⟩
  · exact absurd (if_neg hk) h

/-- A piece that does not belong at the gap leaves the gap where it is. -/
theorem IsGap.keepFirst {got : Nat → Option (List α)} {lo gap k : Nat} (h : IsGap got lo gap)
    (hk : k ≠ gap) (piece : List α) : IsGap (keepFirst got k piece) lo gap := by
  refine ⟨h.le, fun k' hlo hlt => keepFirst_ne_none (h.full k' hlo hlt) k piece, ?_⟩
  rw [keepFirst_of_ne hk.symm]
  exact h.missing

/-- The first gap from `mid` on is the first gap, when there is none below `mid`. -/
theorem IsGap.of_ahead {got : Nat → Option (List α)} {lo mid gap : Nat}
    (hfull : ∀ k, lo ≤ k → k < mid → got k ≠ none) (hle : lo ≤ mid)
    (h : IsGap (ahead got mid) mid gap) : IsGap got lo gap := by
  refine ⟨Nat.le_trans hle h.le, fun k hlo hlt => ?_, ?_⟩
  · rcases Nat.lt_or_ge k mid with hk | hk
    · exact hfull k hlo hk
    · have hahead := h.full k hk hlt
      rwa [ahead_of_le hk] at hahead
  · rw [← h.missing, ahead_of_le h.le]

theorem pieces_ahead {got : Nat → Option (List α)} {mid hi : Nat} :
    pieces (ahead got mid) mid hi = pieces got mid hi :=
  pieces_congr fun _ hk _ => ahead_of_le hk

/-! ## The pieces of a list -/

/-- When the pieces are those of a list, a prefix of the list has been joined. -/
theorem joined_eq_flatten_take {got : Nat → Option (List α)} {pieces : List (List α)} {lo hi : Nat}
    (hle : lo ≤ hi) (hlen : hi ≤ lo + pieces.length)
    (h : ∀ k, lo ≤ k → k < hi → got k = pieces[k - lo]?) :
    joined got lo hi = (pieces.take (hi - lo)).flatten := by
  induction hi with
  | zero =>
      obtain rfl := Nat.le_zero.mp hle
      simp
  | succ hi ih =>
      rcases Nat.lt_or_ge hi lo with hlt | hge
      · obtain rfl : lo = hi + 1 := by omega
        simp
      · have hidx : hi - lo < pieces.length := by omega
        have hsub : hi + 1 - lo = hi - lo + 1 := by omega
        rw [joined_succ hge, ih hge (by omega) fun k hk hk' => h k hk (Nat.lt_succ_of_lt hk'),
          h hi hge (Nat.lt_succ_self hi), hsub, List.take_add_one, List.flatten_append,
          List.getElem?_eq_getElem hidx]
        simp

end Reassembly
