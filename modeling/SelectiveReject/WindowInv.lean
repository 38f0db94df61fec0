/-
# `SelectiveReject.WindowInv` — the sender's window holds an interval of the packets sent

The abstract window is two numbers and a history: `history` lists the packets given
to `window_add` so far, number `k` being `history[k - 2]`, and the window holds the
packets of `lower ≤ k < current`.  `WindowInv size history window` says that the circular array
stores exactly that partial map (in the sense of `DirectMap.Stores`) and that the
three 32-bit bounds stand for the numbers they should.

Each operation of `Window.c` restores it: `windowInv_init`, `WindowInv.add` when `window_open`
holds, `WindowInv.rr` for an RR value of any kind, old, inside the window, or beyond `current`.  The
one fact about 32-bit arithmetic used is that an open window has not wrapped
(`WindowInv.open_iff`): once `lower + size` reaches `2 ^ 32`, `window_open` is false and nothing is
added any more, so `current` itself never wraps.
-/
import SelectiveReject.Lib.DirectMap
import SelectiveReject.Lib.Machine
import SelectiveReject.Window

namespace SelectiveReject

open DirectMap Machine

/-! ## What an entry shows -/

/-- A used entry shows its number, its length and that many of its bytes. -/
def WindowEntry.view (entry : WindowEntry) : Option (Nat × Nat × Bytes) :=
  if entry.used = true then
    some (entry.seq.toNat, entry.packetLen, entry.packet.take entry.packetLen)
  else none

@[simp] theorem WindowEntry.view_zero : WindowEntry.zero.view = none := rfl

@[simp] theorem WindowEntry.view_clear (entry : WindowEntry) :
    WindowEntry.view { entry with used := false } = none := rfl

theorem WindowEntry.view_eq_some {entry : WindowEntry} {k : Nat} {a : Nat × Bytes} :
    entry.view = some (k, a) ↔ entry.used = true ∧ entry.seq.toNat = k ∧
      entry.packetLen = a.1 ∧ entry.packet.take entry.packetLen = a.2 := by
  obtain ⟨len, bytes⟩ := a
  cases hu : entry.used <;> simp [WindowEntry.view, hu]

/-- The array of `window` stores the partial map `m` of packets, each with its
length. -/
structure WindowTable (window : Window) (m : Nat → Option (Nat × Bytes)) : Prop where
  size_pos : 0 < window.size
  length_eq : window.entry.length = window.size.toInt.toNat
  stores : Stores WindowEntry.view window.entry m

namespace WindowTable

variable {window : Window} {m : Nat → Option (Nat × Bytes)}

theorem length_eq_unsigned (h : WindowTable window m) :
    window.size.toUInt32.toNat = window.entry.length := by
  rw [h.length_eq, Counter.toNat_toUInt32 (Int32.le_of_lt h.size_pos)]

theorem length_pos (h : WindowTable window m) : 0 < window.entry.length := by
  have hpos : (0 : Int) < window.size.toInt := Int32.lt_iff_toInt_lt.mp h.size_pos
  rw [h.length_eq]
  omega

theorem spot_eq (h : WindowTable window m) (seq : UInt32) :
    window.spot seq = seq.toNat % window.entry.length := by
  rw [Window.spot, UInt32.toNat_mod, h.length_eq_unsigned]

theorem find_iff (h : WindowTable window m) {seq : UInt32} {a : Nat × Bytes} :
    (∃ entry, windowFind window seq = some entry ∧ entry.packetLen = a.1 ∧
      entry.packet.take entry.packetLen = a.2) ↔ m seq.toNat = some a := by
  rw [← h.stores.find WindowEntry.view_zero, ← h.spot_eq]
  show _ ↔ (window.at (window.spot seq)).view = _
  rw [WindowEntry.view_eq_some]
  constructor
  · rintro ⟨entry, hfind, hlen, hbytes⟩
    simp only [windowFind] at hfind
    split at hfind
    · rename_i hc
      obtain rfl := Option.some.inj hfind
      exact ⟨hc.1, congrArg UInt32.toNat hc.2, hlen, hbytes⟩
    · cases hfind
  · rintro ⟨hused, hseq, hlen, hbytes⟩
    refine ⟨window.at (window.spot seq), ?_, hlen, hbytes⟩
    rw [windowFind, if_pos ⟨hused, UInt32.toNat_inj.mp hseq⟩]

theorem find_isSome (h : WindowTable window m) (seq : UInt32) :
    (windowFind window seq).isSome = true ↔ m seq.toNat ≠ none := by
  constructor
  · intro hsome
    obtain ⟨entry, hfind⟩ := Option.isSome_iff_exists.mp hsome
    have hm := h.find_iff.mp ⟨entry, hfind, rfl, (rfl : _ = (entry.packetLen, _).2)⟩
    rw [hm]
    nofun
  · intro hne
    obtain ⟨a, ha⟩ := Option.ne_none_iff_exists'.mp hne
    obtain ⟨entry, hfind, _⟩ := h.find_iff.mpr ha
    rw [hfind]
    rfl

/-- The slot of a number nobody in the map competes for, and which is not in the
map itself, is unused. -/
theorem unused_of_alone (h : WindowTable window m) {seq : UInt32}
    (halone : Alone window.entry.length m seq.toNat) (hnone : m seq.toNat = none) :
    (window.at (window.spot seq)).used = false := by
  cases hu : (window.at (window.spot seq)).used with
  | false => rfl
  | true =>
      obtain ⟨k, a, hv⟩ : ∃ k a, (window.at (window.spot seq)).view = some (k, a) :=
        ⟨_, (_, _), WindowEntry.view_eq_some.mpr ⟨hu, rfl, rfl, rfl⟩⟩
      rw [h.spot_eq] at hv
      obtain ⟨_, hm⟩ := h.stores.home WindowEntry.view_zero hv
      rw [h.stores.home_alone WindowEntry.view_zero halone hv, hnone] at hm
      cases hm

end WindowTable

/-! ## The first loop of `window_rr` -/

theorem WindowTable.rrTurn {window : Window} {m : Nat → Option (Nat × Bytes)}
    (h : WindowTable window m) {seq : UInt32} (halone : Alone window.entry.length m seq.toNat) :
    WindowTable (windowRrTurn window seq) (Function.update m seq.toNat none) := by
  simp only [windowRrTurn]
  split
  · refine ⟨h.size_pos, List.length_set.trans h.length_eq, ?_⟩
    rw [h.spot_eq]
    exact h.stores.drop halone (WindowEntry.view_clear _)
  · -- the slot belongs to another number, so `seq` was not in the map
    rename_i hne
    have hnone : m seq.toNat = none := by
      by_contra hsome
      obtain ⟨a, ha⟩ := Option.ne_none_iff_exists'.mp hsome
      have hv := (h.stores.find WindowEntry.view_zero).mpr ha
      rw [← h.spot_eq] at hv
      exact hne (UInt32.toNat_inj.mp (WindowEntry.view_eq_some.mp hv).2.1)
    rw [Function.update_eq_self_iff.mpr hnone.symm]
    exact h

@[simp] theorem length_entry_windowRrTurn (window : Window) (seq : UInt32) :
    (windowRrTurn window seq).entry.length = window.entry.length := by
  simp only [windowRrTurn]
  split
  · exact List.length_set
  · rfl

theorem windowRrClear_frame (window : Window) (rrSeq seq : UInt32) :
    windowRrClear window rrSeq seq
      = { window with entry := (windowRrClear window rrSeq seq).entry } := by
  induction window, seq using windowRrClear.induct rrSeq with
  | case1 window seq hc ih =>
      rw [windowRrClear, dif_pos hc]
      exact ih
  | case2 window seq hc => rw [windowRrClear, dif_neg hc]

/-- The loop removes what lies below the RR value and below `current`. -/
theorem WindowTable.rrClear {window : Window} {rrSeq seq : UInt32} :
    ∀ {m : Nat → Option (Nat × Bytes)}, WindowTable window m →
      (∀ k, seq.toNat ≤ k → k < window.current.toNat → Alone window.entry.length m k) →
      WindowTable (windowRrClear window rrSeq seq)
        (fun k => if seq.toNat ≤ k ∧ k < rrSeq.toNat ∧ k < window.current.toNat then none
          else m k) := by
  induction window, seq using windowRrClear.induct rrSeq with
  | case1 window seq hc ih =>
      intro m h halone
      have hrr := UInt32.lt_iff_toNat_lt.mp hc.1
      have hcur := UInt32.lt_iff_toNat_lt.mp hc.2
      have hsucc := Counter.toNat_succ hc.2
      have hstep := h.rrTurn (halone seq.toNat (Nat.le_refl _) hcur)
      have hrest : ∀ k, (seq + 1).toNat ≤ k → k < window.current.toNat →
          Alone (windowRrTurn window seq).entry.length (Function.update m seq.toNat none) k := by
        intro k hk hk' k' hm hmod
        rw [length_entry_windowRrTurn] at hmod
        refine halone k (by omega) hk' k' (fun hnone => hm ?_) hmod
        by_cases hk0 : k' = seq.toNat
        · rw [hk0, Function.update_self]
        · rw [Function.update_of_ne hk0, hnone]
      have hclear := ih hstep hrest
      rw [windowRrClear, dif_pos hc]
      refine ⟨hclear.size_pos, hclear.length_eq, hclear.stores.congr fun k => ?_⟩
      rw [hsucc]
      by_cases hk0 : k = seq.toNat
      · subst hk0
        simp [hrr, hcur]
      · have hk1 : seq.toNat + 1 ≤ k ↔ seq.toNat ≤ k := by omega
        simp only [Function.update_of_ne hk0, hk1]
        rfl
  | case2 window seq hc =>
      intro m h _
      have hstop : ¬ (seq.toNat < rrSeq.toNat ∧ seq.toNat < window.current.toNat) := by
        rwa [UInt32.lt_iff_toNat_lt, UInt32.lt_iff_toNat_lt] at hc
      rw [windowRrClear, dif_neg hc]
      refine ⟨h.size_pos, h.length_eq, h.stores.congr fun k => ?_⟩
      rw [if_neg (by omega)]

/-! ## The second loop of `window_rr` -/

/-- When exactly the numbers below `r` are gone, `lower` stops at `r`, or at `current` if that
comes first. -/
theorem WindowTable.rrAdvance {window : Window} {m : Nat → Option (Nat × Bytes)} {r : Nat} :
    WindowTable window m → window.lower.toNat ≤ window.current.toNat →
      (∀ k, window.lower.toNat ≤ k → k < window.current.toNat → (m k = none ↔ k < r)) →
      windowRrAdvance window
        = { window with
            lower := UInt32.ofNat (max window.lower.toNat (min r window.current.toNat)) } := by
  induction window using windowRrAdvance.induct with
  | case1 window hc ih =>
      intro h hle hm
      obtain ⟨hlt, hnone⟩ := hc
      have hlt' := UInt32.lt_iff_toNat_lt.mp hlt
      have hsucc := Counter.toNat_succ hlt
      have hgone : m window.lower.toNat = none := by
        by_contra hne
        have hsome := (h.find_isSome window.lower).mpr hne
        rw [Option.isNone_iff_eq_none.mp hnone] at hsome
        cases hsome
      have hr := (hm _ (Nat.le_refl _) hlt').mp hgone
      rw [windowRrAdvance, dif_pos ⟨hlt, hnone⟩]
      refine (ih ⟨h.size_pos, h.length_eq, h.stores⟩ ?_ ?_).trans ?_
      · show (window.lower + 1).toNat ≤ window.current.toNat
        omega
      · intro k hk hk'
        have hk1 : (window.lower + 1).toNat ≤ k := hk
        exact hm k (by omega) hk'
      · have hmax : max (window.lower.toNat + 1) (min r window.current.toNat)
            = max window.lower.toNat (min r window.current.toNat) := by omega
        simp only [hsucc, hmax]
  | case2 window hc =>
      intro h hle hm
      rw [windowRrAdvance, dif_neg hc]
      have hstop : max window.lower.toNat (min r window.current.toNat) = window.lower.toNat := by
        by_cases hlt : window.lower < window.current
        · have hlt' := UInt32.lt_iff_toNat_lt.mp hlt
          have hheld : m window.lower.toNat ≠ none := by
            refine (h.find_isSome window.lower).mp ?_
            by_contra hnone
            exact hc ⟨hlt, by simpa using hnone⟩
          have := (hm _ (Nat.le_refl _) hlt').not.mp hheld
          omega
        · have := UInt32.lt_iff_toNat_lt.not.mp hlt
          omega
      rw [hstop, UInt32.ofNat_toNat]

/-! ## The invariant -/

/-- The packets of the numbers `lo ≤ k < hi`, each with its length. -/
def heldPackets (history : List Bytes) (lo hi : Nat) (k : Nat) : Option (Nat × Bytes) :=
  if lo ≤ k ∧ k < hi then (history[k - 2]?).map fun packet => (packet.length, packet) else none

theorem heldPackets_of_mem {history : List Bytes} {lo hi k : Nat} (hlo : lo ≤ k) (hhi : k < hi) :
    heldPackets history lo hi k
      = (history[k - 2]?).map fun packet => (packet.length, packet) :=
  if_pos ⟨hlo, hhi⟩

theorem heldPackets_of_notMem {history : List Bytes} {lo hi k : Nat} (h : ¬ (lo ≤ k ∧ k < hi)) :
    heldPackets history lo hi k = none :=
  if_neg h

theorem heldPackets_within {history : List Bytes} {lo hi n : Nat} (h : hi ≤ lo + n) :
    Within lo n (heldPackets history lo hi) := by
  intro k hk
  by_cases hc : lo ≤ k ∧ k < hi
  · exact ⟨hc.1, Nat.lt_of_lt_of_le hc.2 h⟩
  · exact absurd (heldPackets_of_notMem hc) hk

/-- `window` holds the packets `lower` up to `current` of `history`. -/
structure WindowInv (size : Int32) (history : List Bytes) (window : Window) : Prop
    extends WindowTable window
      (heldPackets history window.lower.toNat window.current.toNat) where
  size_eq : window.size = size
  first_le : 2 ≤ window.lower.toNat
  lower_le : window.lower.toNat ≤ window.current.toNat
  current_eq : window.current.toNat = 2 + history.length
  span : window.current.toNat ≤ window.lower.toNat + size.toInt.toNat
  upper_eq : window.upper = window.lower + size.toUInt32

theorem windowInv_init {ok : Bool} {size : Int32} {window : Window} (hsize : 0 < size)
    (h : windowInit ok size 2 = some window) : WindowInv size [] window := by
  simp only [windowInit] at h
  split at h
  · cases h
  · rename_i entry hcalloc
    obtain rfl := Option.some.inj h
    obtain ⟨_, rfl⟩ := calloc_eq_some (by decide) hcalloc
    refine { size_pos := hsize, length_eq := List.length_replicate, stores := ?_, size_eq := rfl,
             first_le := Nat.le_refl _, lower_le := Nat.le_refl _, current_eq := rfl,
             span := Nat.le_add_right _ _, upper_eq := rfl }
    have hnone : ∀ k, none = heldPackets [] 2 2 k := fun k =>
      (heldPackets_of_notMem (by omega)).symm
    refine (Stores.empty fun e he => ?_).congr hnone
    rw [List.eq_of_mem_replicate he]
    rfl

namespace WindowInv

variable {size : Int32} {history : List Bytes} {window : Window}

theorem size_toUInt32 (h : WindowInv size history window) :
    size.toUInt32.toNat = size.toInt.toNat := by
  rw [← h.size_eq]
  exact Counter.toNat_toUInt32 (Int32.le_of_lt h.size_pos)

theorem length_entry (h : WindowInv size history window) :
    window.entry.length = size.toInt.toNat := by
  rw [h.length_eq, h.size_eq]

theorem open_iff (h : WindowInv size history window) :
    windowOpen window = true ↔ window.lower.toNat + size.toInt.toNat < 2 ^ 32 ∧
      window.current.toNat < window.lower.toNat + size.toInt.toNat := by
  have hle : window.lower ≤ window.current := UInt32.le_iff_toNat_le.mpr h.lower_le
  rw [windowOpen, decide_eq_true_eq, h.upper_eq, Counter.lt_add_iff hle, h.size_toUInt32]

theorem empty_iff : windowEmpty window = true ↔ window.lower.toNat = window.current.toNat := by
  rw [windowEmpty, decide_eq_true_eq, UInt32.toNat_inj]

theorem alone (h : WindowInv size history window) {k : Nat} (hk : window.lower.toNat ≤ k)
    (hk' : k < window.lower.toNat + size.toInt.toNat) :
    Alone window.entry.length (heldPackets history window.lower.toNat window.current.toNat) k := by
  rw [h.length_entry]
  exact (heldPackets_within h.span).alone hk hk'

theorem find_isSome_iff (h : WindowInv size history window) (seq : UInt32) :
    (windowFind window seq).isSome = true ↔ window.lower ≤ seq ∧ seq < window.current := by
  rw [h.find_isSome, UInt32.le_iff_toNat_le, UInt32.lt_iff_toNat_lt]
  have hlen := h.current_eq
  have hfirst := h.first_le
  by_cases hc : window.lower.toNat ≤ seq.toNat ∧ seq.toNat < window.current.toNat
  · have hin : seq.toNat - 2 < history.length := by omega
    simp [heldPackets_of_mem hc.1 hc.2, List.getElem?_eq_getElem hin, hc]
  · simp [heldPackets_of_notMem hc, hc]

theorem find_eq_some (h : WindowInv size history window) {seq : UInt32} {entry : WindowEntry}
    (hfind : windowFind window seq = some entry) :
    ∃ packet, history[seq.toNat - 2]? = some packet ∧ entry.packetLen = packet.length ∧
      entry.packet.take entry.packetLen = packet := by
  have hm := h.find_iff.mp ⟨entry, hfind, rfl, (rfl : _ = (entry.packetLen, _).2)⟩
  simp only [heldPackets] at hm
  split at hm
  · obtain ⟨packet, hget, heq⟩ := Option.map_eq_some_iff.mp hm
    obtain ⟨hlen, hbytes⟩ := Prod.mk.inj heq
    exact ⟨packet, hget, hlen.symm, hbytes.symm⟩
  · cases hm

/-- The slot `window_add` is about to use is free. -/
theorem unused_of_open (h : WindowInv size history window) (hopen : windowOpen window = true) :
    (window.at (window.spot window.current)).used = false := by
  have hlt := (h.open_iff.mp hopen).2
  refine h.unused_of_alone (h.alone h.lower_le hlt) ?_
  exact if_neg (by omega)

theorem lowest_eq (h : WindowInv size history window) :
    windowLowest window =
      if window.lower < window.current then windowFind window window.lower else none := by
  rw [windowLowest, windowLowestFrom]
  by_cases hlt : window.lower < window.current
  · -- the first entry the loop looks at is held
    obtain ⟨entry, hfind⟩ := Option.isSome_iff_exists.mp
      ((h.find_isSome_iff window.lower).mpr ⟨UInt32.le_refl _, hlt⟩)
    simp only [dif_pos hlt, if_pos hlt, hfind]
  · simp only [dif_neg hlt, if_neg hlt]

theorem add_current (window : Window) (packet : Bytes) :
    (windowAdd window window.current packet).current = window.current + 1 := by
  simp [windowAdd]

theorem add_lower (window : Window) (seq : UInt32) (packet : Bytes) :
    (windowAdd window seq packet).lower = window.lower := by
  simp only [windowAdd]
  split <;> rfl

theorem toNat_add_current (h : WindowInv size history window) (hopen : windowOpen window = true)
    (packet : Bytes) :
    (windowAdd window window.current packet).current.toNat = window.current.toNat + 1 := by
  obtain ⟨hnowrap, hlt⟩ := h.open_iff.mp hopen
  rw [add_current, Counter.toNat_succ_of_lt (by omega)]

theorem add (h : WindowInv size history window) (hopen : windowOpen window = true)
    (packet : Bytes) :
    WindowInv size (history ++ [packet]) (windowAdd window window.current packet) := by
  obtain ⟨_, hlt⟩ := h.open_iff.mp hopen
  have hcur := h.toNat_add_current hopen packet
  have hlower := add_lower window window.current packet
  have hlen := h.current_eq
  have hfirst := h.first_le
  have hput := h.stores.put h.length_pos (h.alone h.lower_le hlt)
    (e := ⟨window.current, packet.length, true,
      memcpy (window.at (window.spot window.current)).packet 0 packet⟩)
    (a := (packet.length, packet))
    (WindowEntry.view_eq_some.mpr ⟨rfl, rfl, rfl, take_memcpy_zero _ _⟩)
  rw [← h.spot_eq] at hput
  have hentry : (windowAdd window window.current packet).entry
      = window.entry.set (window.spot window.current) ⟨window.current, packet.length, true,
          memcpy (window.at (window.spot window.current)).packet 0 packet⟩ := by
    simp [windowAdd]
  refine { size_pos := ?_, length_eq := ?_, stores := ?_, size_eq := ?_, first_le := ?_,
           lower_le := ?_, current_eq := ?_, span := ?_, upper_eq := ?_ }
  · simpa [windowAdd] using h.size_pos
  · rw [hentry, List.length_set, h.length_eq]
    simp [windowAdd]
  · rw [hentry, hlower, hcur]
    refine hput.congr fun k => ?_
    by_cases hk : k = window.current.toNat
    · subst hk
      have hidx : window.current.toNat - 2 = history.length := by omega
      rw [Function.update_self, heldPackets_of_mem h.lower_le (Nat.lt_succ_self _), hidx]
      simp
    · rw [Function.update_of_ne hk]
      by_cases hc : window.lower.toNat ≤ k ∧ k < window.current.toNat
      · have hidx : k - 2 < history.length := by omega
        rw [heldPackets_of_mem hc.1 hc.2, heldPackets_of_mem hc.1 (by omega),
          List.getElem?_append_left hidx]
      · rw [heldPackets_of_notMem hc, heldPackets_of_notMem (by omega)]
  · simpa [windowAdd] using h.size_eq
  · rw [hlower]
    exact h.first_le
  · rw [hlower, hcur]
    exact Nat.le_succ_of_le h.lower_le
  · rw [hcur, List.length_append, List.length_singleton]
    omega
  · rw [hlower, hcur]
    omega
  · rw [hlower]
    simpa [windowAdd] using h.upper_eq

/-- Where an RR leaves `lower`: old values change nothing, and values beyond
`current` count as `current`. -/
def rrLower (window : Window) (rrSeq : UInt32) : Nat :=
  max window.lower.toNat (min rrSeq.toNat window.current.toNat)

theorem rrClear (h : WindowInv size history window) (rrSeq : UInt32) :
    WindowTable (windowRrClear window rrSeq window.lower)
      (fun k => if window.lower.toNat ≤ k ∧ k < rrSeq.toNat ∧ k < window.current.toNat then none
        else heldPackets history window.lower.toNat window.current.toNat k) := by
  have hspan := h.span
  exact h.toWindowTable.rrClear fun k hk hk' => h.alone hk (by omega)

theorem rr_eq (h : WindowInv size history window) (rrSeq : UInt32) :
    windowRr window rrSeq
      = { window with
          entry := (windowRrClear window rrSeq window.lower).entry
          lower := UInt32.ofNat (rrLower window rrSeq)
          upper := UInt32.ofNat (rrLower window rrSeq) + window.size.toUInt32 } := by
  have hfirst := h.first_le
  have hlen := h.current_eq
  have hspan := h.span
  have hclear := h.rrClear rrSeq
  rw [windowRrClear_frame] at hclear
  have hadvance := hclear.rrAdvance (r := rrSeq.toNat) h.lower_le fun k hk hk' => by
    have hin : k - 2 < history.length := by
      have : k < window.current.toNat := hk'
      have : window.lower.toNat ≤ k := hk
      omega
    have hheld : heldPackets history window.lower.toNat window.current.toNat k
        = some ((history[k - 2]).length, history[k - 2]) := by
      rw [heldPackets_of_mem hk hk', List.getElem?_eq_getElem hin]
      rfl
    by_cases hr : k < rrSeq.toNat
    · have hc : window.lower.toNat ≤ k ∧ k < rrSeq.toNat ∧ k < window.current.toNat :=
        ⟨hk, hr, hk'⟩
      rw [if_pos hc]
      exact ⟨fun _ => hr, fun _ => rfl⟩
    · have hc : ¬ (window.lower.toNat ≤ k ∧ k < rrSeq.toNat ∧ k < window.current.toNat) :=
        fun hc => hr hc.2.1
      rw [if_neg hc, hheld]
      exact ⟨nofun, fun hr' => absurd hr' hr⟩
  simp only [windowRr]
  rw [windowRrClear_frame, hadvance]
  rfl

theorem rrLower_lt (h : WindowInv size history window) (rrSeq : UInt32) :
    rrLower window rrSeq < 2 ^ 32 := by
  have := window.current.toNat_lt
  have := h.lower_le
  simp only [rrLower]
  omega

theorem toNat_rr_lower (h : WindowInv size history window) (rrSeq : UInt32) :
    (windowRr window rrSeq).lower.toNat = rrLower window rrSeq := by
  rw [h.rr_eq]
  exact Counter.toNat_ofNat (h.rrLower_lt rrSeq)

theorem rr_current (h : WindowInv size history window) (rrSeq : UInt32) :
    (windowRr window rrSeq).current = window.current := by
  rw [h.rr_eq]

/-- An RR of any value keeps the invariant, with the same history. -/
theorem rr (h : WindowInv size history window) (rrSeq : UInt32) :
    WindowInv size history (windowRr window rrSeq) := by
  have hfirst := h.first_le
  have hle := h.lower_le
  have hspan := h.span
  have hclear := h.rrClear rrSeq
  have hlower := h.toNat_rr_lower rrSeq
  have hcur := h.rr_current rrSeq
  have hrr := h.rr_eq rrSeq
  have hlen := hclear.length_eq
  rw [windowRrClear_frame] at hlen
  refine { size_pos := ?_, length_eq := ?_, stores := ?_, size_eq := ?_, first_le := ?_,
           lower_le := ?_, current_eq := ?_, span := ?_, upper_eq := ?_ }
  · rw [hrr]
    exact h.size_pos
  · rw [hrr]
    exact hlen
  · rw [hlower, hcur]
    have hentry : (windowRr window rrSeq).entry
        = (windowRrClear window rrSeq window.lower).entry := by rw [hrr]
    rw [hentry]
    refine hclear.stores.congr fun k => ?_
    have hrrLower : rrLower window rrSeq
        = max window.lower.toNat (min rrSeq.toNat window.current.toNat) := rfl
    split
    · rename_i hgone
      rw [heldPackets_of_notMem (by omega)]
    · rename_i hkept
      by_cases hc : window.lower.toNat ≤ k ∧ k < window.current.toNat
      · rw [heldPackets_of_mem hc.1 hc.2, heldPackets_of_mem (by omega) hc.2]
      · rw [heldPackets_of_notMem hc, heldPackets_of_notMem (by omega)]
  · rw [hrr]
    exact h.size_eq
  · rw [hlower]
    simp only [rrLower]
    omega
  · rw [hlower, hcur]
    simp only [rrLower]
    omega
  · rw [hcur]
    exact h.current_eq
  · rw [hlower, hcur]
    simp only [rrLower]
    omega
  · rw [hrr, ← h.size_eq]

end WindowInv

/-! ## Windows reachable through the interface -/

/-- One use of the window as `rcopy.c` uses it: `window_add` at `current`, or `window_rr`. -/
inductive WindowOp where
  | add (packet : Bytes)
  | rr (seq : UInt32)

/-- `window_add` is called only while `window_open` holds. -/
def windowStep (window : Window) : WindowOp → Option Window
  | .add packet =>
      if windowOpen window = true then some (windowAdd window window.current packet) else none
  | .rr seq => some (windowRr window seq)

/-- The `window_add` calls of a run: the sequence number and the bytes of each. -/
def windowAdds (window : Window) : List WindowOp → List (UInt32 × Bytes)
  | [] => []
  | op :: ops =>
      match windowStep window op with
      | none => []
      | some window' =>
          match op with
          | .add packet => (window.current, packet) :: windowAdds window' ops
          | .rr _ => windowAdds window' ops

/-- Along a run the history grows by the packets added, and each is added under
its own position in the history. -/
theorem WindowInv.exec {size : Int32} : ∀ {ops : List WindowOp} {history : List Bytes}
    {window window' : Window}, WindowInv size history window →
    exec windowStep window ops = some window' →
    ∃ packets, WindowInv size (history ++ packets) window' ∧
      windowAdds window ops = packets.mapIdx fun i packet =>
        (UInt32.ofNat (2 + history.length + i), packet)
  | [], history, window, window', h, hexec => by
      obtain rfl : window = window' := by simpa [Machine.exec] using hexec
      exact ⟨[], by simpa using h, rfl⟩
  | op :: ops, history, window, window', h, hexec => by
      simp only [Machine.exec, List.foldlM_cons, Option.bind_eq_bind,
        Option.bind_eq_some_iff] at hexec
      obtain ⟨next, hnext, hrest⟩ := hexec
      cases op with
      | rr seq =>
          obtain rfl := Option.some.inj hnext
          obtain ⟨packets, hinv, hadds⟩ := WindowInv.exec (h.rr seq) hrest
          exact ⟨packets, hinv, hadds⟩
      | add packet =>
          simp only [windowStep] at hnext
          split at hnext
          · rename_i hopen
            obtain rfl := Option.some.inj hnext
            obtain ⟨packets, hinv, hadds⟩ := WindowInv.exec (h.add hopen packet) hrest
            refine ⟨packet :: packets, by simpa using hinv, ?_⟩
            have hfirst : window.current = UInt32.ofNat (2 + history.length) :=
              Counter.ofNat_eq_of_toNat h.current_eq
            simp only [windowAdds, windowStep, if_pos hopen, hadds, List.mapIdx_cons,
              Nat.add_zero, ← hfirst, List.length_append, List.length_singleton]
            congr 2
            funext i p
            rw [show 2 + (history.length + 1) + i = 2 + history.length + (i + 1) by omega]
          · cases hnext

/-- Adding leaves every held entry as it is: the slot it writes is free. -/
theorem WindowInv.find_add {size : Int32} {history : List Bytes} {window : Window}
    (h : WindowInv size history window) (hopen : windowOpen window = true) (packet : Bytes)
    {seq : UInt32} {entry : WindowEntry} (hfind : windowFind window seq = some entry) :
    windowFind (windowAdd window window.current packet) seq = some entry := by
  have hused : (window.at (window.spot seq)).used = true := by
    simp only [windowFind] at hfind
    split at hfind
    · rename_i hc
      exact hc.1
    · cases hfind
  have hne : window.spot window.current ≠ window.spot seq := by
    intro hspot
    rw [← hspot, h.unused_of_open hopen] at hused
    cases hused
  have hat : (windowAdd window window.current packet).at (window.spot seq)
      = window.at (window.spot seq) := by
    simp [windowAdd, Window.at, List.getD_eq_getElem?_getD, List.getElem?_set_ne hne]
  have hspot : (windowAdd window window.current packet).spot seq = window.spot seq := by
    simp [windowAdd, Window.spot]
  rw [← hfind]
  simp only [windowFind, hspot, hat]

/-- Every window reachable through the interface holds exactly the packets between
`lower` and `current`, under the numbers and with the bytes they were added with. -/
theorem window_holds_interval {ok : Bool} {size : Int32} {window₀ window : Window}
    {ops : List WindowOp} (hsize : 0 < size) (hinit : windowInit ok size 2 = some window₀)
    (hrun : exec windowStep window₀ ops = some window) :
    (window.lower ≤ window.current ∧
      window.current.toNat - window.lower.toNat ≤ size.toInt.toNat) ∧
    (∀ seq, (windowFind window seq).isSome = true ↔
      window.lower ≤ seq ∧ seq < window.current) ∧
    (∀ seq entry, windowFind window seq = some entry →
      ∀ packet, (seq, packet) ∈ windowAdds window₀ ops ↔
        packet.length = entry.packetLen ∧ packet = entry.packet.take entry.packetLen) ∧
    (windowLowest window =
      if window.lower < window.current then windowFind window window.lower else none) ∧
    (windowOpen window = true → ∀ packet seq entry, windowFind window seq = some entry →
      windowFind (windowAdd window window.current packet) seq = some entry) := by
  obtain ⟨packets, h, hadds⟩ := (windowInv_init hsize hinit).exec hrun
  rw [List.nil_append] at h
  have hlen := h.current_eq
  have hspan := h.span
  refine ⟨⟨UInt32.le_iff_toNat_le.mpr h.lower_le, by omega⟩, h.find_isSome_iff, ?_,
    h.lowest_eq, fun hopen packet seq entry hfind => h.find_add hopen packet hfind⟩
  intro seq entry hfind packet
  obtain ⟨sent, hget, hsentLen, hbytes⟩ := h.find_eq_some hfind
  have hin := (h.find_isSome_iff seq).mp (by rw [hfind]; rfl)
  have hlo := UInt32.le_iff_toNat_le.mp hin.1
  have hcur := window.current.toNat_lt
  have hfirst := h.first_le
  rw [hbytes, hsentLen, hadds]
  -- a number determines its position in the history
  constructor
  · intro hmem
    obtain ⟨i, hi, heq⟩ := List.mem_mapIdx.mp hmem
    obtain ⟨hseq, rfl⟩ := Prod.mk.inj heq
    have hidx : seq.toNat - 2 = i := by
      rw [← hseq, List.length_nil, Counter.toNat_ofNat (by omega)]
      omega
    rw [hidx, List.getElem?_eq_getElem hi] at hget
    obtain rfl := Option.some.inj hget
    exact ⟨rfl, rfl⟩
  · rintro ⟨_, rfl⟩
    obtain ⟨hi, hget'⟩ := List.getElem?_eq_some_iff.mp hget
    refine List.mem_mapIdx.mpr ⟨seq.toNat - 2, hi, ?_⟩
    have hseq : 2 + ([] : List Bytes).length + (seq.toNat - 2) = seq.toNat := by
      simp only [List.length_nil]
      omega
    rw [hseq, UInt32.ofNat_toNat, hget']

/-- A window of two: two packets added, the first acknowledged, a third added in
its slot. -/
theorem window_holds_interval_two :
    ∃ window, exec windowStep
        ⟨[WindowEntry.zero, WindowEntry.zero], 2, 2, 2, 4⟩ [.add [1], .add [2], .rr 3, .add [3]]
          = some window ∧
      (windowFind window 4).isSome = true := by
  obtain ⟨window, hrun, hbounds⟩ := Option.map_eq_some_iff.mp
    (show (exec windowStep ⟨[WindowEntry.zero, WindowEntry.zero], 2, 2, 2, 4⟩
        [.add [1], .add [2], .rr 3, .add [3]]).map (fun window => (window.lower, window.current))
          = some (3, 5) by decide +kernel)
  obtain ⟨hlower, hcurrent⟩ := Prod.mk.inj hbounds
  have hinterval := @window_holds_interval true 2 _ window _ (by decide) (by decide +kernel) hrun
  refine ⟨window, hrun, (hinterval.2.1 4).mpr ?_⟩
  rw [hlower, hcurrent]
  decide

end SelectiveReject
