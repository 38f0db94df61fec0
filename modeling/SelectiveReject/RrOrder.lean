/-
# `SelectiveReject.RrOrder` — RRs may be lost, repeated and reordered

An RR is cumulative, so only the largest value seen should matter, and for a reachable
window it does: `window_rr` of one value and then of another leaves the same record,
slot by slot, as `window_rr` of the larger one (`WindowInv.rr_rr`).  Two facts about the first
loop carry it: run from where an earlier one stopped it goes on as one loop
(`windowRrClear_clear`), and it leaves every slot alone that none of its numbers lives in
(`windowRrClear_at`).
-/
import SelectiveReject.WindowInv

namespace SelectiveReject

open DirectMap Machine

/-! ## The first loop of `window_rr` -/

theorem windowRrClear_next {window : Window} {rrSeq seq : UInt32}
    (h : seq < rrSeq ∧ seq < window.current) :
    windowRrClear window rrSeq seq
      = windowRrClear (windowRrTurn window seq) rrSeq (seq + 1) := by
  rw [windowRrClear, dif_pos h]

theorem windowRrClear_stop {window : Window} {rrSeq seq : UInt32}
    (h : ¬ (seq < rrSeq ∧ seq < window.current)) : windowRrClear window rrSeq seq = window := by
  rw [windowRrClear, dif_neg h]

theorem windowRrClear_bounds (window : Window) (rrSeq seq lower upper : UInt32) :
    windowRrClear { window with lower := lower, upper := upper } rrSeq seq
      = { windowRrClear window rrSeq seq with lower := lower, upper := upper } := by
  induction window, seq using windowRrClear.induct rrSeq with
  | case1 window seq hc ih =>
      have hnext := @windowRrClear_next { window with lower := lower, upper := upper } rrSeq seq hc
      rw [hnext, windowRrClear_next hc]
      exact ih
  | case2 window seq hc =>
      rw [windowRrClear_stop hc]
      exact windowRrClear_stop hc

/-- From a number that two RR values agree on, they clear the same. -/
theorem windowRrClear_max {window : Window} {r₁ r₂ seq : UInt32}
    (h : r₁ ≤ seq ∨ window.current ≤ seq) :
    windowRrClear window r₂ seq = windowRrClear window (max r₁ r₂) seq := by
  have hmax : (max r₁ r₂).toNat = max r₁.toNat r₂.toNat := Counter.toNat_max r₁ r₂
  rw [UInt32.le_iff_toNat_le, UInt32.le_iff_toNat_le] at h
  by_cases hgo : seq < r₂ ∧ seq < window.current
  · -- the second value is then the larger one
    have hr := UInt32.lt_iff_toNat_lt.mp hgo.1
    have hcurrent := UInt32.lt_iff_toNat_lt.mp hgo.2
    have hr₂ : max r₁ r₂ = r₂ := UInt32.toNat_inj.mp (by omega)
    rw [hr₂]
  · have hstop : ¬ (seq < max r₁ r₂ ∧ seq < window.current) := by
      rw [UInt32.lt_iff_toNat_lt, UInt32.lt_iff_toNat_lt] at hgo ⊢
      omega
    rw [windowRrClear_stop hgo, windowRrClear_stop hstop]

theorem windowRrClear_clear {window : Window} {r₁ r₂ seq stop : UInt32}
    (hstop : stop.toNat = max seq.toNat (min r₁.toNat window.current.toNat)) :
    windowRrClear (windowRrClear window r₁ seq) r₂ stop
      = windowRrClear window (max r₁ r₂) seq := by
  induction window, seq using windowRrClear.induct r₁ with
  | case1 window seq hc ih =>
      have hr := UInt32.lt_iff_toNat_lt.mp hc.1
      have hcurrent := UInt32.lt_iff_toNat_lt.mp hc.2
      have hsucc := Counter.toNat_succ hc.2
      have hmax : (max r₁ r₂).toNat = max r₁.toNat r₂.toNat := Counter.toNat_max r₁ r₂
      have hc' : seq < max r₁ r₂ ∧ seq < window.current :=
        ⟨UInt32.lt_iff_toNat_lt.mpr (by omega), hc.2⟩
      have hnext : stop.toNat
          = max (seq + 1).toNat (min r₁.toNat (windowRrTurn window seq).current.toNat) := by
        show stop.toNat = max (seq + 1).toNat (min r₁.toNat window.current.toNat)
        omega
      rw [windowRrClear_next hc, ih hnext, windowRrClear_next hc']
  | case2 window seq hc =>
      have hnat := hc
      rw [UInt32.lt_iff_toNat_lt, UInt32.lt_iff_toNat_lt] at hnat
      obtain rfl : stop = seq := UInt32.toNat_inj.mp (by omega)
      rw [windowRrClear_stop hc]
      refine windowRrClear_max ?_
      rw [UInt32.le_iff_toNat_le, UInt32.le_iff_toNat_le]
      omega

theorem windowRrTurn_at {window : Window} {seq : UInt32} {spot : Nat}
    (h : window.spot seq ≠ spot) : (windowRrTurn window seq).at spot = window.at spot := by
  by_cases hseq : (window.at (window.spot seq)).seq = seq
  · simp only [windowRrTurn, if_pos hseq]
    rw [Window.at, List.getD_eq_getElem?_getD, List.getElem?_set_ne h,
      ← List.getD_eq_getElem?_getD]
    rfl
  · simp only [windowRrTurn, if_neg hseq]

theorem windowRrClear_at {window : Window} {rrSeq seq : UInt32} {spot : Nat}
    (h : ∀ k, seq ≤ k → k < rrSeq → k < window.current → window.spot k ≠ spot) :
    (windowRrClear window rrSeq seq).at spot = window.at spot := by
  induction window, seq using windowRrClear.induct rrSeq with
  | case1 window seq hc ih =>
      have hsucc := Counter.toNat_succ hc.2
      have hrest : ∀ k, seq + 1 ≤ k → k < rrSeq → k < (windowRrTurn window seq).current →
          (windowRrTurn window seq).spot k ≠ spot := by
        intro k hk
        refine h k ?_
        rw [UInt32.le_iff_toNat_le] at hk ⊢
        omega
      rw [windowRrClear_next hc, ih hrest]
      exact windowRrTurn_at (h seq (UInt32.le_refl _) hc.1 hc.2)
  | case2 window seq hc => rw [windowRrClear_stop hc]

/-! ## One RR -/

namespace WindowInv

variable {size : Int32} {history : List Bytes} {window : Window}

theorem rr_lower (h : WindowInv size history window) (r : UInt32) :
    (windowRr window r).lower = max window.lower (min r window.current) := by
  apply UInt32.toNat_inj.mp
  exact (h.toNat_rr_lower r).trans
    (by rw [Counter.toNat_max, Counter.toNat_min, rrLower])

/-- The slots below the new `lower` are released, and the others keep all they hold. -/
theorem find_rr (h : WindowInv size history window) (r seq : UInt32) :
    windowFind (windowRr window r) seq
      = if seq < (windowRr window r).lower then none else windowFind window seq := by
  have h' := h.rr r
  split
  · rename_i hlt
    refine Option.eq_none_iff_forall_ne_some.mpr fun entry hfind => ?_
    have hin := (h'.find_isSome_iff seq).mp (by rw [hfind]; rfl)
    exact UInt32.not_lt.mpr hin.1 hlt
  · rename_i hge
    have hlower := UInt32.le_iff_toNat_le.mp (UInt32.not_lt.mp hge)
    rw [h.toNat_rr_lower, rrLower] at hlower
    cases hfind : windowFind window seq with
    | none =>
        refine Option.eq_none_iff_forall_ne_some.mpr fun entry hfind' => ?_
        have hin := (h'.find_isSome_iff seq).mp (by rw [hfind']; rfl)
        have hin' : window.lower ≤ seq ∧ seq < window.current := by
          rw [h.rr_current] at hin
          exact ⟨UInt32.le_iff_toNat_le.mpr (by omega), hin.2⟩
        have hsome := (h.find_isSome_iff seq).mpr hin'
        rw [hfind] at hsome
        cases hsome
    | some entry =>
        have hin := (h.find_isSome_iff seq).mp (by rw [hfind]; rfl)
        have hspan := h.span
        have hlo := UInt32.le_iff_toNat_le.mp hin.1
        have hcurrent := UInt32.lt_iff_toNat_lt.mp hin.2
        -- the cleared numbers lie below `seq` in the same stretch
        have hother : ∀ k, window.lower ≤ k → k < r → k < window.current →
            window.spot k ≠ window.spot seq := by
          intro k hk hkr hkc hspot
          rw [UInt32.le_iff_toNat_le] at hk
          rw [UInt32.lt_iff_toNat_lt] at hkr hkc
          rw [h.spot_eq, h.spot_eq, h.length_entry] at hspot
          have := @eq_of_mod_eq window.lower.toNat _ k.toNat seq.toNat hk (by omega) hlo
            (by omega) hspot
          omega
        have hentry : (windowRr window r).entry
            = (windowRrClear window r window.lower).entry := by
          rw [h.rr_eq]
        have hat : (windowRr window r).at (window.spot seq) = window.at (window.spot seq) := by
          rw [← windowRrClear_at hother, Window.at, hentry]
          rfl
        have hspot : (windowRr window r).spot seq = window.spot seq := by
          rw [h.rr_eq]
          rfl
        rw [← hfind, windowFind, windowFind, hspot, hat]

theorem rr_of_le (h : WindowInv size history window) {r : UInt32} (hr : r ≤ window.lower) :
    windowRr window r = window := by
  have hle := h.lower_le
  have hlower : UInt32.ofNat (rrLower window r) = window.lower := by
    rw [UInt32.le_iff_toNat_le] at hr
    rw [rrLower, max_eq_left (by omega), UInt32.ofNat_toNat]
  have hclear : windowRrClear window r window.lower = window :=
    windowRrClear_stop fun hc => UInt32.not_lt.mpr hr hc.1
  have hupper : window.lower + window.size.toUInt32 = window.upper := by
    rw [h.size_eq, h.upper_eq]
  rw [h.rr_eq, hlower, hclear, hupper]

/-! ## Several RRs -/

theorem rr_rr (h : WindowInv size history window) (r₁ r₂ : UInt32) :
    windowRr (windowRr window r₁) r₂ = windowRr window (max r₁ r₂) := by
  have h₁ := h.rr r₁
  have hfirst := h.rr_eq r₁
  have hsecond := h₁.rr_eq r₂
  have hsize : (windowRr window r₁).size = window.size := by rw [hfirst]
  have hcurrent := h.rr_current r₁
  have hmax : (max r₁ r₂).toNat = max r₁.toNat r₂.toNat := Counter.toNat_max r₁ r₂
  have hlower : rrLower (windowRr window r₁) r₂ = rrLower window (max r₁ r₂) := by
    have hrr : rrLower window r₁
        = max window.lower.toNat (min r₁.toNat window.current.toNat) := rfl
    have hrr' : rrLower window (max r₁ r₂)
        = max window.lower.toNat (min (max r₁ r₂).toNat window.current.toNat) := rfl
    rw [rrLower, h.toNat_rr_lower, hcurrent, hrr, hrr', hmax]
    omega
  have hentry : (windowRrClear (windowRr window r₁) r₂ (windowRr window r₁).lower).entry
      = (windowRrClear window (max r₁ r₂) window.lower).entry := by
    rw [← windowRrClear_clear (h.toNat_rr_lower r₁)]
    have hframe := windowRrClear_frame window r₁ window.lower
    have hcongr := windowRrClear_bounds (windowRrClear window r₁ window.lower) r₂
      (windowRr window r₁).lower (windowRr window r₁).lower (windowRr window r₁).upper
    have hwindow : windowRr window r₁
        = { windowRrClear window r₁ window.lower with
            lower := (windowRr window r₁).lower, upper := (windowRr window r₁).upper } := by
      rw [hframe, hfirst]
    rw [← hwindow] at hcongr
    rw [hcongr]
  rw [hsecond, hentry, hlower, hsize, hcurrent, h.rr_eq (max r₁ r₂)]

/-- Any list of RRs leaves what its largest value alone would leave. -/
theorem foldl_rr (h : WindowInv size history window) : ∀ (rs : List UInt32) (r : UInt32),
    rs.foldl windowRr (windowRr window r) = windowRr window (rs.foldl max r)
  | [], _ => rfl
  | r' :: rs, r => by
      rw [List.foldl_cons, List.foldl_cons, h.rr_rr r r']
      exact h.foldl_rr rs (max r r')

end WindowInv

/-- What an RR does to a reachable window, and that RRs commute and repeat without effect. -/
theorem rr_order_insensitive {ok : Bool} {size : Int32} {window₀ window : Window}
    {ops : List WindowOp} (hsize : 0 < size) (hinit : windowInit ok size 2 = some window₀)
    (hrun : exec windowStep window₀ ops = some window) :
    (∀ r, (windowRr window r).lower = max window.lower (min r window.current) ∧
      (windowRr window r).upper = (windowRr window r).lower + size.toUInt32 ∧
      (windowRr window r).current = window.current ∧
      ∀ seq, windowFind (windowRr window r) seq
        = if seq < (windowRr window r).lower then none else windowFind window seq) ∧
    (∀ r₁ r₂, windowRr (windowRr window r₁) r₂ = windowRr window (max r₁ r₂)) ∧
    (∀ r, r ≤ window.lower → windowRr window r = window) ∧
    (∀ rs : List UInt32, rs.foldl windowRr window = windowRr window (rs.foldl max 0)) := by
  obtain ⟨packets, h, _⟩ := (windowInv_init hsize hinit).exec hrun
  have hzero : windowRr window 0 = window :=
    h.rr_of_le (UInt32.le_iff_toNat_le.mpr (Nat.zero_le _))
  refine ⟨fun r => ⟨h.rr_lower r, (h.rr r).upper_eq, h.rr_current r, h.find_rr r⟩, h.rr_rr,
    fun r hr => h.rr_of_le hr, fun rs => ?_⟩
  rw [← h.foldl_rr rs 0, hzero]

/-- A window of two with two packets in it: an old RR behind a new one. -/
theorem rr_order_insensitive_two :
    ∃ window, exec windowStep ⟨[WindowEntry.zero, WindowEntry.zero], 2, 2, 2, 4⟩
        [.add [1], .add [2]] = some window ∧
      windowRr (windowRr window 4) 3 = windowRr window 4 := by
  obtain ⟨window, hrun, _⟩ := Option.map_eq_some_iff.mp
    (show (exec windowStep ⟨[WindowEntry.zero, WindowEntry.zero], 2, 2, 2, 4⟩
        [.add [1], .add [2]]).map Window.current = some 4 by decide +kernel)
  have horder := @rr_order_insensitive true 2 _ window _ (by decide) (by decide +kernel) hrun
  exact ⟨window, hrun, horder.2.1 4 3⟩

end SelectiveReject
