/-
# `SelectiveReject.PollLib` — which descriptor `pollCall` returns (`pollLib.c`)

The set is an array indexed by descriptor.  A descriptor that was never added, or was removed, keeps
its entry: `fd` 0 and no events.  `poll` looks at that entry all the same, as one more
entry for descriptor 0, and reports an error or a hangup there whatever the events are.

    pollCall = the lowest i below maxFileDescriptor such that

        i in the set        descriptor i is readable, in error or hung up
        i not in the set    descriptor 0 is in error or hung up, or is closed

(`poll_call_exact`), for any history of the four calls: `maxFileDescriptor` never comes down
again, growing zeroes what `realloc` leaves, and no access is outside the array as long as only
what has been added is removed.

The machines of the two programs take `pollCall` to come back with a timeout or a datagram.  For a
process with one socket that is what it does while its standard input is open
(`poll_call_one_socket`); with standard input hung up every call returns 0 at once.
-/
import Mathlib

namespace SelectiveReject

def pollSetSize : Nat := 10

def pollIn : Int16 := 0x01
def pollErr : Int16 := 0x08
def pollHup : Int16 := 0x10
def pollNval : Int16 := 0x20

/-- What `poll` reports without being asked. -/
def pollAlways : Int16 := pollErr ||| pollHup ||| pollNval

/-- `struct pollfd`; a descriptor is never negative here. -/
structure PollFd where
  fd : Nat
  events : Int16
  revents : Int16
deriving DecidableEq, Repr

structure PollSet where
  pollFileDescriptors : List PollFd
  maxFileDescriptor : Nat
  currentPollSetSize : Nat
deriving DecidableEq, Repr

/-- `exit(-1)`, or an access outside the array. -/
inductive PollFault where
  | exited
  | outOfBounds
deriving DecidableEq, Repr

/-! ## The calls -/

/-- `poll` on these entries, with `status` the conditions that hold on each descriptor at that
moment.  It waits until it has something to report or the time is over. -/
def poll (status : Nat → Int16) (fds : List PollFd) : Nat × List PollFd :=
  let polled := fds.map fun entry =>
    { entry with revents := status entry.fd &&& (entry.events ||| pollAlways) }
  (polled.countP fun entry => decide (entry.revents ≠ 0), polled)

def setupPollSet (callocOk : Bool) : Except PollFault PollSet :=
  if callocOk = true then .ok ⟨List.replicate pollSetSize ⟨0, 0, 0⟩, 0, pollSetSize⟩
  else .error .exited

/-- `grown` is what `realloc` gives: nothing, or memory that holds anything. -/
def growPollSet (set : PollSet) (newSetSize : Nat) (grown : Option (Nat → PollFd)) :
    Except PollFault PollSet :=
  if newSetSize ≤ set.currentPollSetSize then .error .exited
  else
    match grown with
    | none => .error .exited
    | some memory =>
        -- the loop leaves `revents` as it found it
        let elements := (List.range' set.currentPollSetSize
          (newSetSize - set.currentPollSetSize)).map fun i =>
            { memory i with fd := 0, events := 0 }
        .ok { set with
          pollFileDescriptors := set.pollFileDescriptors ++ elements
          currentPollSetSize := newSetSize }

/-- `pollFileDescriptors[socketNumber].fd = fd`, and the same for `events`. -/
def PollSet.setEntry (set : PollSet) (socketNumber fd : Nat) (events : Int16) :
    Except PollFault PollSet :=
  match set.pollFileDescriptors[socketNumber]? with
  | none => .error .outOfBounds
  | some entry =>
      .ok { set with
        pollFileDescriptors :=
          set.pollFileDescriptors.set socketNumber { entry with fd := fd, events := events } }

def addToPollSet (set : PollSet) (socketNumber : Nat) (grown : Option (Nat → PollFd)) :
    Except PollFault PollSet := do
  let set ←
    if set.currentPollSetSize ≤ socketNumber then
      growPollSet set (socketNumber + pollSetSize) grown
    else .ok set
  let set :=
    if set.maxFileDescriptor ≤ socketNumber + 1 then
      { set with maxFileDescriptor := socketNumber + 1 }
    else set
  set.setEntry socketNumber socketNumber pollIn

def removeFromPollSet (set : PollSet) (socketNumber : Nat) : Except PollFault PollSet :=
  set.setEntry socketNumber 0 0

/-- `failed`: `poll` returned -1. -/
def pollCall (set : PollSet) (failed : Bool) (status : Nat → Int16) :
    Except PollFault (Int × PollSet) :=
  if set.pollFileDescriptors.length < set.maxFileDescriptor then .error .outOfBounds
  else if failed = true then .error .exited
  else
    let (pollValue, polled) :=
      poll status (set.pollFileDescriptors.take set.maxFileDescriptor)
    let set := { set with
      pollFileDescriptors := polled ++ set.pollFileDescriptors.drop set.maxFileDescriptor }
    if 0 < pollValue then
      match polled.findIdx? fun entry => decide (0 < entry.revents) with
      | some i => .ok (i, set)
      | none => .ok (-1, set)
    else .ok (-1, set)

/-! ## Histories -/

inductive PollOp where
  | add (socketNumber : Nat) (grown : Option (Nat → PollFd))
  | remove (socketNumber : Nat)
  | call (failed : Bool) (status : Nat → Int16)

namespace PollOp

def run (set : PollSet) : PollOp → Except PollFault PollSet
  | .add socketNumber grown => addToPollSet set socketNumber grown
  | .remove socketNumber => removeFromPollSet set socketNumber
  | .call failed status => (pollCall set failed status).map Prod.snd

def members (sockets : Finset Nat) : PollOp → Finset Nat
  | .add socketNumber _ => insert socketNumber sockets
  | .remove socketNumber => sockets.erase socketNumber
  | .call _ _ => sockets

def top (behind : Nat) : PollOp → Nat
  | .add socketNumber _ => max behind (socketNumber + 1)
  | .remove _ | .call _ _ => behind

/-- What is removed is not above what has been added. -/
def Fits (behind : Nat) : PollOp → Prop
  | .remove socketNumber => socketNumber < behind
  | .add _ _ | .call _ _ => True

end PollOp

/-- `setupPollSet` and then these calls. -/
def pollRun (callocOk : Bool) (ops : List PollOp) : Except PollFault PollSet := do
  let set ← setupPollSet callocOk
  ops.foldlM PollOp.run set

def PollOps : Nat → List PollOp → Prop
  | _, [] => True
  | behind, op :: ops => op.Fits behind ∧ PollOps (op.top behind) ops

/-! ## What the array holds -/

structure PollEntry (sockets : Finset Nat) (i : Nat) (entry : PollFd) : Prop where
  fd : entry.fd = if i ∈ sockets then i else 0
  events : entry.events = if i ∈ sockets then pollIn else 0

structure PollInv (sockets : Finset Nat) (behind : Nat) (set : PollSet) : Prop where
  length_eq : set.pollFileDescriptors.length = set.currentPollSetSize
  max_eq : set.maxFileDescriptor = behind
  le : behind ≤ set.currentPollSetSize
  below : ∀ i ∈ sockets, i < behind
  entry : ∀ i entry, set.pollFileDescriptors[i]? = some entry → PollEntry sockets i entry

namespace PollInv

variable {sockets : Finset Nat} {behind : Nat} {set : PollSet}

theorem setup : PollInv ∅ 0 ⟨List.replicate pollSetSize ⟨0, 0, 0⟩, 0, pollSetSize⟩ := by
  refine ⟨List.length_replicate, rfl, Nat.zero_le _, fun i hi => ?_, fun i entry hget => ?_⟩
  · cases Finset.notMem_empty i hi
  · rw [List.eq_of_mem_replicate (List.mem_of_getElem? hget)]
    exact ⟨(if_neg (Finset.notMem_empty i)).symm, (if_neg (Finset.notMem_empty i)).symm⟩

theorem grow (h : PollInv sockets behind set) {newSetSize : Nat}
    (hlt : set.currentPollSetSize < newSetSize) (memory : Nat → PollFd) :
    ∃ set', growPollSet set newSetSize (some memory) = .ok set' ∧
      set'.currentPollSetSize = newSetSize ∧ PollInv sockets behind set' := by
  refine ⟨_, if_neg (Nat.not_le.mpr hlt), rfl, ?_, h.max_eq, Nat.le_trans h.le (Nat.le_of_lt hlt),
    h.below, fun i entry hget => ?_⟩
  · simp only [List.length_append, List.length_map, List.length_range', h.length_eq]
    omega
  · rcases Nat.lt_or_ge i set.pollFileDescriptors.length with hi | hi
    · rw [List.getElem?_append_left hi] at hget
      exact h.entry i entry hget
    · rw [List.getElem?_append_right hi] at hget
      obtain ⟨k, _, rfl⟩ := List.mem_map.mp (List.mem_of_getElem? hget)
      have hnot : i ∉ sockets := by
        intro hmem
        have hlt := h.below i hmem
        have hle := h.le
        rw [h.length_eq] at hi
        omega
      exact ⟨(if_neg hnot).symm, (if_neg hnot).symm⟩

theorem setEntry (h : PollInv sockets behind set) {i fd : Nat} {events : Int16}
    {sockets' : Finset Nat} (hi : i < set.currentPollSetSize)
    (hfd : fd = if i ∈ sockets' then i else 0)
    (hevents : events = if i ∈ sockets' then pollIn else 0)
    (hothers : ∀ k, k ≠ i → (k ∈ sockets' ↔ k ∈ sockets)) (hbelow : ∀ k ∈ sockets', k < behind) :
    ∃ set', set.setEntry i fd events = .ok set' ∧ PollInv sockets' behind set' := by
  have hlt : i < set.pollFileDescriptors.length := h.length_eq ▸ hi
  have hget := List.getElem?_eq_getElem hlt
  have hset : set.setEntry i fd events = .ok { set with
      pollFileDescriptors := set.pollFileDescriptors.set i
        { set.pollFileDescriptors[i] with fd := fd, events := events } } := by
    simp only [PollSet.setEntry, hget]
  refine ⟨_, hset, List.length_set.trans h.length_eq, h.max_eq, h.le, hbelow,
    fun k entry hk => ?_⟩
  rcases eq_or_ne k i with rfl | hne
  · rw [List.getElem?_set_self hlt] at hk
    obtain rfl := Option.some.inj hk
    exact ⟨hfd, hevents⟩
  · rw [List.getElem?_set_ne (Ne.symm hne)] at hk
    obtain ⟨hfd', hevents'⟩ := h.entry k entry hk
    exact ⟨hfd'.trans (if_congr (hothers k hne) rfl rfl).symm,
      hevents'.trans (if_congr (hothers k hne) rfl rfl).symm⟩

theorem add (h : PollInv sockets behind set) (socketNumber : Nat) (grown : Option (Nat → PollFd)) :
    addToPollSet set socketNumber grown = .error .exited ∨
      ∃ set', addToPollSet set socketNumber grown = .ok set' ∧
        PollInv (insert socketNumber sockets) (max behind (socketNumber + 1)) set' := by
  -- behind the `if`s there is an entry for the socket
  have hwrite : ∀ {set}, PollInv sockets behind set → socketNumber < set.currentPollSetSize →
      ∃ set', (if set.maxFileDescriptor ≤ socketNumber + 1 then
          { set with maxFileDescriptor := socketNumber + 1 }
        else set).setEntry socketNumber socketNumber pollIn = .ok set' ∧
        PollInv (insert socketNumber sockets) (max behind (socketNumber + 1)) set' := by
    intro set h hlt
    have hmax : PollInv sockets (max behind (socketNumber + 1))
        (if set.maxFileDescriptor ≤ socketNumber + 1 then
          { set with maxFileDescriptor := socketNumber + 1 }
        else set) := by
      have hle := h.le
      have hbelow : ∀ i ∈ sockets, i < max behind (socketNumber + 1) :=
        fun i hi => lt_max_of_lt_left (h.below i hi)
      split
      · rename_i hle'
        rw [h.max_eq] at hle'
        exact ⟨h.length_eq, (max_eq_right hle').symm, max_le h.le hlt, hbelow, h.entry⟩
      · rename_i hgt
        rw [h.max_eq] at hgt
        have hbehind := max_eq_left (Nat.le_of_not_le hgt)
        exact ⟨h.length_eq, h.max_eq.trans hbehind.symm, max_le h.le hlt, hbelow, h.entry⟩
    have hsize : socketNumber < (if set.maxFileDescriptor ≤ socketNumber + 1 then
        { set with maxFileDescriptor := socketNumber + 1 } else set).currentPollSetSize := by
      split
      · exact hlt
      · exact hlt
    have hself := Finset.mem_insert_self socketNumber sockets
    refine hmax.setEntry hsize (if_pos hself).symm (if_pos hself).symm (fun k hk => ?_)
      fun k hk => ?_
    · rw [Finset.mem_insert, or_iff_right hk]
    · rcases Finset.mem_insert.mp hk with rfl | hold
      · exact lt_max_of_lt_right (Nat.lt_succ_self k)
      · exact hmax.below k hold
  rw [addToPollSet]
  split
  · rename_i hle
    have hgrow : set.currentPollSetSize < socketNumber + pollSetSize := by
      rw [pollSetSize]
      omega
    cases grown with
    | none =>
        left
        rw [growPollSet, if_neg (Nat.not_le.mpr hgrow)]
        rfl
    | some memory =>
        obtain ⟨set', hgrown, hsize, h'⟩ := h.grow hgrow memory
        rw [hgrown]
        refine .inr (hwrite h' ?_)
        rw [hsize, pollSetSize]
        omega
  · rename_i hlt
    exact .inr (hwrite h (Nat.not_le.mp hlt))

theorem remove (h : PollInv sockets behind set) {socketNumber : Nat}
    (hfits : socketNumber < behind) : ∃ set', removeFromPollSet set socketNumber = .ok set' ∧
      PollInv (sockets.erase socketNumber) behind set' := by
  have hnot := Finset.notMem_erase socketNumber sockets
  refine h.setEntry (Nat.lt_of_lt_of_le hfits h.le) (if_neg hnot).symm (if_neg hnot).symm
    (fun k hk => ?_) fun k hk => h.below k (Finset.mem_of_mem_erase hk)
  rw [Finset.mem_erase, and_iff_right hk]

end PollInv

/-! ## One call -/

/-- `pollCall` sees something at place `i`. -/
def Shows (sockets : Finset Nat) (status : Nat → Int16) (i : Nat) : Prop :=
  if i ∈ sockets then status i &&& (pollIn ||| pollAlways) ≠ 0 else status 0 &&& pollAlways ≠ 0

/-- With a sign bit of 0 in the mask, what is not 0 is positive. -/
theorem pos_iff_ne_zero {status mask : Int16} (hmask : mask.toBitVec.msb = false) :
    0 < status &&& mask ↔ status &&& mask ≠ 0 := by
  have hmsb : (status &&& mask).toBitVec.msb = false := by
    rw [Int16.toBitVec_and, BitVec.msb_and, hmask, Bool.and_false]
  have hnonneg : 0 ≤ (status &&& mask).toInt := BitVec.toInt_nonneg_of_msb_false hmsb
  have hzero : (0 : Int16).toInt = 0 := Int16.toInt_zero
  rw [Int16.lt_iff_toInt_lt, hzero, Ne, ← Int16.toInt_inj, hzero]
  omega

theorem PollEntry.shows_iff {sockets : Finset Nat} {i : Nat} {entry : PollFd}
    (h : PollEntry sockets i entry) (status : Nat → Int16) :
    0 < status entry.fd &&& (entry.events ||| pollAlways) ↔ Shows sockets status i := by
  rw [h.fd, h.events, Shows]
  split
  · exact pos_iff_ne_zero rfl
  · rw [Int16.zero_or]
    exact pos_iff_ne_zero rfl

theorem PollInv.pollCall {sockets : Finset Nat} {behind : Nat} {set : PollSet}
    (h : PollInv sockets behind set) (status : Nat → Int16) :
    ∃ answer set', pollCall set false status = .ok (answer, set') ∧
      PollInv sockets behind set' ∧
      ((answer = -1 ∧ ∀ i < behind, ¬ Shows sockets status i) ∨
        ∃ i < behind, answer = (i : Int) ∧ Shows sockets status i ∧
          ∀ j < i, ¬ Shows sockets status j) := by
  have hle : set.maxFileDescriptor ≤ set.pollFileDescriptors.length := by
    rw [h.max_eq, h.length_eq]
    exact h.le
  obtain ⟨polled, hpolled⟩ : ∃ polled,
      poll status (set.pollFileDescriptors.take set.maxFileDescriptor)
        = (polled.countP fun entry : PollFd => decide (entry.revents ≠ 0), polled) := ⟨_, rfl⟩
  have hmap : (poll status (set.pollFileDescriptors.take set.maxFileDescriptor)).2 = polled :=
    congrArg Prod.snd hpolled
  have hlength : polled.length = behind := by
    rw [← hmap, poll, List.length_map, List.length_take, Nat.min_eq_left hle, h.max_eq]
  -- what is behind a place of the polled part
  have hentry : ∀ i entry, polled[i]? = some entry →
      PollEntry sockets i entry ∧ (0 < entry.revents ↔ Shows sockets status i) ∧
        (entry.revents ≠ 0 → Shows sockets status i) := by
    intro i entry hget
    rw [← hmap, poll, List.getElem?_map, Option.map_eq_some_iff] at hget
    obtain ⟨old, hold, rfl⟩ := hget
    have hlt := (List.getElem?_eq_some_iff.mp hold).1
    rw [List.length_take] at hlt
    rw [List.getElem?_take_of_lt (by omega)] at hold
    have hinv := h.entry i old hold
    have hshows := hinv.shows_iff status
    refine ⟨⟨hinv.fd, hinv.events⟩, hshows, fun hne => hshows.mp ?_⟩
    have hmask : (old.events ||| pollAlways).toBitVec.msb = false := by
      rw [hinv.events]
      split
      · rfl
      · rfl
    exact (pos_iff_ne_zero hmask).mpr hne
  obtain ⟨after, hafter⟩ : ∃ after : PollSet, after = { set with
      pollFileDescriptors := polled ++ set.pollFileDescriptors.drop set.maxFileDescriptor } :=
    ⟨_, rfl⟩
  have hkept : PollInv sockets behind after := by
    subst hafter
    refine ⟨?_, h.max_eq, h.le, h.below, fun i entry hget => ?_⟩
    · have hsize := h.length_eq
      have hmax := h.max_eq
      simp only [List.length_append, List.length_drop, hlength]
      omega
    · rcases Nat.lt_or_ge i polled.length with hi | hi
      · rw [List.getElem?_append_left hi] at hget
        exact (hentry i entry hget).1
      · rw [List.getElem?_append_right hi, List.getElem?_drop, hlength, h.max_eq,
          Nat.add_sub_cancel' (hlength ▸ hi)] at hget
        exact h.entry i entry hget
  have hcall : SelectiveReject.pollCall set false status
      = if 0 < polled.countP fun entry : PollFd => decide (entry.revents ≠ 0) then
          match polled.findIdx? fun entry => decide (0 < entry.revents) with
          | some i => .ok ((i : Int), after)
          | none => .ok (-1, after)
        else .ok (-1, after) := by
    rw [SelectiveReject.pollCall, if_neg (Nat.not_lt.mpr hle), if_neg Bool.false_ne_true, hpolled,
      hafter]
  rw [hcall]
  have hplace : ∀ i < behind, ∃ entry, polled[i]? = some entry := by
    intro i hi
    exact ⟨_, List.getElem?_eq_getElem (hlength ▸ hi)⟩
  split
  · split
    · rename_i i hfind
      obtain ⟨hi, hpos, hbefore⟩ := List.findIdx?_eq_some_iff_getElem.mp hfind
      refine ⟨i, after, rfl, hkept, .inr ⟨i, hlength ▸ hi, rfl, ?_, fun j hj => ?_⟩⟩
      · exact (hentry i _ (List.getElem?_eq_getElem hi)).2.1.mp (of_decide_eq_true hpos)
      · intro hshows
        have hj' := (hentry j _ (List.getElem?_eq_getElem (Nat.lt_trans hj hi))).2.1
        exact hbefore j hj (decide_eq_true (hj'.mpr hshows))
    · rename_i hfind
      refine ⟨-1, after, rfl, hkept, .inl ⟨rfl, fun i hi hshows => ?_⟩⟩
      obtain ⟨entry, hget⟩ := hplace i hi
      have hnone := List.findIdx?_eq_none_iff.mp hfind entry (List.mem_of_getElem? hget)
      exact of_decide_eq_false hnone ((hentry i entry hget).2.1.mpr hshows)
  · rename_i hzero
    refine ⟨-1, after, rfl, hkept, .inl ⟨rfl, fun i hi hshows => hzero ?_⟩⟩
    obtain ⟨entry, hget⟩ := hplace i hi
    have hpos := (hentry i entry hget).2.1.mpr hshows
    refine List.countP_pos_iff.mpr ⟨entry, List.mem_of_getElem? hget, decide_eq_true fun heq => ?_⟩
    rw [heq] at hpos
    exact absurd hpos (by decide)

/-! ## Every history -/

theorem PollInv.step {sockets : Finset Nat} {behind : Nat} {set : PollSet}
    (h : PollInv sockets behind set) {op : PollOp} (hfits : op.Fits behind) :
    op.run set = .error .exited ∨
      ∃ set', op.run set = .ok set' ∧ PollInv (op.members sockets) (op.top behind) set' := by
  cases op with
  | add socketNumber grown => exact h.add socketNumber grown
  | remove socketNumber => exact .inr (h.remove hfits)
  | call failed status =>
      cases failed with
      | false =>
          obtain ⟨answer, set', hcall, hkept, _⟩ := h.pollCall status
          refine .inr ⟨set', ?_, hkept⟩
          simp only [PollOp.run, hcall, Except.map]
      | true =>
          refine .inl ?_
          have hle : ¬ set.pollFileDescriptors.length < set.maxFileDescriptor := by
            rw [h.max_eq, h.length_eq]
            exact Nat.not_lt.mpr h.le
          simp only [PollOp.run, SelectiveReject.pollCall, if_neg hle, if_true, Except.map]

theorem PollInv.run {ops : List PollOp} :
    ∀ {sockets : Finset Nat} {behind : Nat} {set : PollSet}, PollInv sockets behind set →
      PollOps behind ops →
      ops.foldlM PollOp.run set = .error .exited ∨
        ∃ set', ops.foldlM PollOp.run set = .ok set' ∧
          PollInv (ops.foldl PollOp.members sockets) (ops.foldl PollOp.top behind) set' := by
  induction ops with
  | nil =>
      intro sockets behind set h _
      exact .inr ⟨set, rfl, h⟩
  | cons op ops ih =>
      intro sockets behind set h hops
      rw [List.foldlM_cons]
      rcases h.step hops.1 with hexit | ⟨set', hrun, h'⟩
      · rw [hexit]
        exact .inl rfl
      · rw [hrun]
        exact ih h' hops.2

/-- Every history ends with `exit(-1)` or with an array that holds what the history says. -/
theorem pollRun_inv {ops : List PollOp} (hops : PollOps 0 ops) (callocOk : Bool) :
    pollRun callocOk ops = .error .exited ∨ ∃ set, pollRun callocOk ops = .ok set ∧
      PollInv (ops.foldl PollOp.members ∅) (ops.foldl PollOp.top 0) set := by
  cases callocOk with
  | false => exact .inl rfl
  | true => exact PollInv.setup.run hops

/-- After any history: no access was outside the array, and `pollCall` returns the lowest place
at which there is something to see, or -1. -/
theorem poll_call_exact {ops : List PollOp} (hops : PollOps 0 ops) (callocOk : Bool) :
    pollRun callocOk ops ≠ .error .outOfBounds ∧
      ∀ set, pollRun callocOk ops = .ok set → ∀ status, ∃ answer set',
        pollCall set false status = .ok (answer, set') ∧
        ((answer = -1 ∧
            ∀ i < ops.foldl PollOp.top 0, ¬ Shows (ops.foldl PollOp.members ∅) status i) ∨
          ∃ i < ops.foldl PollOp.top 0, answer = (i : Int) ∧
            Shows (ops.foldl PollOp.members ∅) status i ∧
            ∀ j < i, ¬ Shows (ops.foldl PollOp.members ∅) status j) := by
  rcases pollRun_inv hops callocOk with hexit | ⟨set, hrun, hinv⟩
  · rw [hexit]
    refine ⟨fun heq => ?_, fun set hset => ?_⟩
    · cases Except.error.inj heq
    · cases hset
  · rw [hrun]
    refine ⟨fun heq => ?_, fun set' hset status => ?_⟩
    · cases heq
    · obtain rfl := Except.ok.inj hset
      obtain ⟨answer, set', hcall, _, hanswer⟩ := hinv.pollCall status
      exact ⟨answer, set', hcall, hanswer⟩

/-- Standard input is hung up, and socket 4 has nothing to read: `pollCall` returns 0. -/
theorem poll_call_exact_stdin :
    ∃ set set', pollRun true [.add 4 none] = .ok set ∧
      pollCall set false (fun fd => if fd = 0 then pollHup else 0) = .ok (0, set') := by
  obtain ⟨_, hexact⟩ := @poll_call_exact [.add 4 none] ⟨trivial, trivial⟩ true
  obtain ⟨answer, set', hcall, hanswer⟩ :=
    hexact _ rfl fun fd => if fd = 0 then pollHup else 0
  have hzero : Shows ([PollOp.add 4 none].foldl PollOp.members ∅)
      (fun fd => if fd = 0 then pollHup else 0) 0 := by
    rw [Shows, if_neg (by decide)]
    decide
  rcases hanswer with ⟨_, hnone⟩ | ⟨i, _, rfl, _, hbefore⟩
  · exact absurd hzero (hnone 0 (by decide))
  · obtain rfl : i = 0 := Nat.eq_zero_of_not_pos fun hpos => hbefore 0 hpos hzero
    exact ⟨_, set', rfl, hcall⟩

/-- rcopy, or a child, with its one socket: 0 when standard input is hung up, in error or closed,
and else the socket when there is something to receive. -/
theorem poll_call_one_socket {socketNumber : Nat} (hpos : 0 < socketNumber)
    {grown : Option (Nat → PollFd)} {set : PollSet}
    (hrun : pollRun true [.add socketNumber grown] = .ok set) (status : Nat → Int16) :
    ∃ set', pollCall set false status
      = .ok (if status 0 &&& pollAlways ≠ 0 then 0
          else if status socketNumber &&& (pollIn ||| pollAlways) ≠ 0 then (socketNumber : Int)
          else -1, set') := by
  have hinv : PollInv {socketNumber} (socketNumber + 1) set := by
    rcases @pollRun_inv [.add socketNumber grown] ⟨trivial, trivial⟩ true with
      hexit | ⟨set', hset, hinv⟩
    · rw [hexit] at hrun
      cases hrun
    · obtain rfl := Except.ok.inj (hset.symm.trans hrun)
      have hmax : max 0 (socketNumber + 1) = socketNumber + 1 := Nat.zero_max _
      rw [← hmax]
      exact hinv
  obtain ⟨answer, set', hcall, _, hanswer⟩ := hinv.pollCall status
  refine ⟨set', hcall.trans (congrArg (fun a => Except.ok (a, set')) ?_)⟩
  have hself : Shows {socketNumber} status socketNumber ↔
      status socketNumber &&& (pollIn ||| pollAlways) ≠ 0 := by
    rw [Shows, if_pos (Finset.mem_singleton_self _)]
  have hother : ∀ i, i ≠ socketNumber →
      (Shows {socketNumber} status i ↔ status 0 &&& pollAlways ≠ 0) := by
    intro i hi
    rw [Shows, if_neg (Finset.notMem_singleton.mpr hi)]
  have hzero := hother 0 (Nat.ne_of_lt hpos)
  rcases hanswer with ⟨rfl, hnone⟩ | ⟨i, hi, rfl, hshows, hbefore⟩
  · rw [if_neg fun hbroken => hnone 0 (Nat.succ_pos _) (hzero.mpr hbroken),
      if_neg fun hready => hnone socketNumber (Nat.lt_succ_self _) (hself.mpr hready)]
  · by_cases hbroken : status 0 &&& pollAlways ≠ 0
    · obtain rfl : i = 0 :=
        Nat.eq_zero_of_not_pos fun hlt => hbefore 0 hlt (hzero.mpr hbroken)
      rw [if_pos hbroken]
      rfl
    · obtain rfl : i = socketNumber := by
        by_contra hne
        exact hbroken ((hother i hne).mp hshows)
      rw [if_neg hbroken, if_pos (hself.mp hshows)]

end SelectiveReject
