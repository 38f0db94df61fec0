/-
# `DirectMap` — a direct-mapped slot table stores a partial map

A table of `n` slots keyed by natural numbers, where key `k` may only live in
slot `k % n`.  A slot is any type `E` with a `view`: what it holds at the
moment, `some (key, value)`, or nothing.  A cleared slot may keep old contents;
the view is what says they do not count.

`Stores view t m` reads: the table `t` holds exactly the partial map `m`.  Infinitely
many keys share a slot, so the three operations need one thing of the keys that
are present, `Alone n m k`: nobody else in `m` has the home of `k`.  A map whose keys
lie in one stretch of `n` consecutive numbers has it for every `k` of the
stretch (`Within.alone`), which is how a sliding window uses the table.
-/
import Mathlib

namespace DirectMap

universe u v

variable {E : Type u} {α : Type v}

/-- The table `t` holds exactly the partial map `m`. -/
def Stores (view : E → Option (Nat × α)) (t : List E) (m : Nat → Option α) : Prop :=
  ∀ i k a, (∃ e, t[i]? = some e ∧ view e = some (k, a)) ↔ (i = k % t.length ∧ m k = some a)

/-- No other key present in `m` shares the home of `k`. -/
def Alone (n : Nat) (m : Nat → Option α) (k : Nat) : Prop :=
  ∀ k', m k' ≠ none → k' % n = k % n → k' = k

/-- Every key present in `m` lies in the `n` numbers from `lo` on. -/
def Within (lo n : Nat) (m : Nat → Option α) : Prop :=
  ∀ k, m k ≠ none → lo ≤ k ∧ k < lo + n

/-- Two numbers of one stretch of length `n` have different homes. -/
theorem eq_of_mod_eq {lo n a b : Nat} (ha : lo ≤ a) (ha' : a < lo + n)
    (hb : lo ≤ b) (hb' : b < lo + n) (h : a % n = b % n) : a = b := by
  have hmod : (a - lo) % n = (b - lo) % n := by
    have : a - lo + lo ≡ b - lo + lo [MOD n] := by
      rw [Nat.sub_add_cancel ha, Nat.sub_add_cancel hb]
      exact h
    exact Nat.ModEq.add_right_cancel' lo this
  rw [Nat.mod_eq_of_lt (by omega), Nat.mod_eq_of_lt (by omega)] at hmod
  omega

theorem Within.alone {lo n k : Nat} {m : Nat → Option α} (h : Within lo n m)
    (hk : lo ≤ k) (hk' : k < lo + n) : Alone n m k := by
  intro k' hm hmod
  obtain ⟨h1, h2⟩ := h k' hm
  exact eq_of_mod_eq h1 h2 hk hk' hmod

theorem Within.mono {lo n : Nat} {m m' : Nat → Option α} (h : Within lo n m)
    (hsub : ∀ k, m' k ≠ none → m k ≠ none) : Within lo n m' :=
  fun k hk => h k (hsub k hk)

/-! ## Reading -/

variable {view : E → Option (Nat × α)} {t : List E} {m : Nat → Option α}

theorem Stores.empty (h : ∀ e ∈ t, view e = none) : Stores view t (fun _ => none) := by
  intro i k a
  constructor
  · rintro ⟨e, he, hv⟩
    rw [h e (List.mem_of_getElem? he)] at hv
    cases hv
  · rintro ⟨_, hm⟩
    cases hm

theorem Stores.congr {m' : Nat → Option α} (h : Stores view t m) (hm : ∀ k, m k = m' k) :
    Stores view t m' := by
  rw [← funext hm]
  exact h

theorem view_getD {d : E} (hd : view d = none) {i k : Nat} {a : α} :
    view (t.getD i d) = some (k, a) ↔ ∃ e, t[i]? = some e ∧ view e = some (k, a) := by
  rw [List.getD_eq_getElem?_getD]
  cases ht : t[i]? with
  | none => simp [hd]
  | some e => simp

theorem Stores.find {d : E} (h : Stores view t m) (hd : view d = none) {k : Nat} {a : α} :
    view (t.getD (k % t.length) d) = some (k, a) ↔ m k = some a := by
  rw [view_getD hd, h]
  exact ⟨fun hm => hm.2, fun hm => ⟨rfl, hm⟩⟩

/-- What the home slot of `k` shows is always a key that lives there. -/
theorem Stores.home {d : E} (h : Stores view t m) (hd : view d = none) {k k' : Nat} {a : α}
    (hv : view (t.getD (k % t.length) d) = some (k', a)) :
    k' % t.length = k % t.length ∧ m k' = some a := by
  obtain ⟨hk, hm⟩ := (h _ k' a).mp ((view_getD hd).mp hv)
  exact ⟨hk.symm, hm⟩

/-- The home slot of a key nobody competes for shows that key or nothing. -/
theorem Stores.home_alone {d : E} (h : Stores view t m) (hd : view d = none) {k k' : Nat}
    {a : α} (halone : Alone t.length m k)
    (hv : view (t.getD (k % t.length) d) = some (k', a)) : k' = k := by
  obtain ⟨hmod, hm⟩ := h.home hd hv
  exact halone k' (by rw [hm]; nofun) hmod

/-! ## Writing -/

theorem getElem?_set_view {e : E} {i j : Nat} (hi : i < t.length) {k : Nat} {a : α} :
    (∃ e', (t.set i e)[j]? = some e' ∧ view e' = some (k, a)) ↔
      if i = j then view e = some (k, a)
      else ∃ e', t[j]? = some e' ∧ view e' = some (k, a) := by
  rw [List.getElem?_set]
  by_cases hij : i = j
  · simp [hij ▸ hi, hij]
  · simp [hij]

theorem Stores.put {e : E} {k : Nat} {a : α} (h : Stores view t m)
    (hlen : 0 < t.length) (halone : Alone t.length m k) (he : view e = some (k, a)) :
    Stores view (t.set (k % t.length) e) (Function.update m k (some a)) := by
  intro j k' a'
  rw [getElem?_set_view (Nat.mod_lt _ hlen), List.length_set, he, h j k' a']
  by_cases hkk : k' = k
  · subst hkk
    rw [Function.update_self]
    by_cases hj : k' % t.length = j
    · subst hj
      simp
    · simp [hj, Ne.symm hj]
  · rw [Function.update_of_ne hkk]
    by_cases hj : k % t.length = j
    · subst hj
      simp only [if_true, Option.some.injEq, Prod.mk.injEq]
      constructor
      · rintro ⟨rfl, _⟩
        exact absurd rfl hkk
      · rintro ⟨hmod, hm⟩
        exact absurd (halone k' (by rw [hm]; nofun) hmod.symm) hkk
    · simp [hj]

theorem Stores.drop {e : E} {k : Nat} (h : Stores view t m)
    (halone : Alone t.length m k) (he : view e = none) :
    Stores view (t.set (k % t.length) e) (Function.update m k none) := by
  intro j k' a'
  rcases Nat.eq_zero_or_pos t.length with hlen | hlen
  · -- an empty table stores the empty map only
    have hnil : t = [] := List.length_eq_zero_iff.mp hlen
    have hnone := (h (k' % t.length) k' a').not.mp (by simp [hnil])
    by_cases hkk : k' = k
    · simp [hnil, hkk]
    · rw [Function.update_of_ne hkk]
      simpa [hnil] using fun hj hm => hnone ⟨rfl, hm⟩
  · rw [getElem?_set_view (Nat.mod_lt _ hlen), List.length_set, he, h j k' a']
    by_cases hkk : k' = k
    · subst hkk
      rw [Function.update_self]
      by_cases hj : k' % t.length = j
      · simp [hj]
      · simp [hj, Ne.symm hj]
    · rw [Function.update_of_ne hkk]
      by_cases hj : k % t.length = j
      · subst hj
        simp only [if_true, reduceCtorEq, false_iff, not_and]
        intro hmod hm
        exact hkk (halone k' (by rw [hm]; nofun) hmod.symm)
      · simp [hj]

end DirectMap
