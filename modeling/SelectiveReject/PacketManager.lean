/-
# `SelectiveReject.PacketManager` — inside `sendtoErr` (`libcpe464/PacketManager.cpp`)

Both programs are linked with libcpe464, so every `safeSendto` is a `sendtoErr`: the datagram is
copied, the copy goes past a list of events, and what is left of it, if anything, goes to
`sendto`.  The events (`MsgEvents/*.cpp`):

    errorDrop       withholds the datagram: every one, or those on a list of numbers
    errorFlipBits   complements one byte of it
    infoSeqNo       leaves it alone and keeps a journal of sequence numbers

Each event on the constant list sees every datagram, until one withholds it; one event of
the chance list, picked by `drand48`, sees it when another draw is within the error rate.

`IMsgEvent::run` and the functions above it return -1 for a NULL buffer; a buffer here is
never NULL.
-/
import SelectiveReject.Lib.Rand48
import SelectiveReject.Corruption

namespace SelectiveReject

open Rand48

/-- The return values of `IMsgEvent::run`: 0, 1 and 2. -/
inductive EventResult where
  | noChange
  | change
  | drop
deriving DecidableEq, Repr

/-- `std::map<uint32_t, uint32_t>` -/
abbrev No2Count := List (UInt32 × UInt32)

def No2Count.increment (seqNo : UInt32) : No2Count → No2Count
  | [] => [(seqNo, 1)]
  | (no, count) :: rest =>
      if no = seqNo then (no, count + 1) :: rest else (no, count) :: increment seqNo rest

inductive IMsgEvent where
  | errorDrop (dropAll : Bool) (dropList : List UInt32)
  | errorFlipBits
  | infoSeqNo (count : No2Count) (history : List UInt32)
deriving DecidableEq, Repr

/-- `run(pBuf, pLen, msgNo)`: the result, the event afterwards, the buffer, the generator. -/
def IMsgEvent.run (msgNo : UInt32) (buf : Bytes) (rand : Rand48) :
    IMsgEvent → EventResult × IMsgEvent × Bytes × Rand48
  | .errorDrop dropAll dropList =>
      let toDrop := dropAll || dropList.contains msgNo
      (if toDrop = true then .drop else .noChange, .errorDrop dropAll dropList, buf, rand)
  | .errorFlipBits =>
      let draw := rand.drand48
      let byteToFlip := pick 53 buf.length draw.1
      (.change, .errorFlipBits, SelectiveReject.errorFlipBits buf byteToFlip, draw.2)
  | .infoSeqNo count history =>
      let seqNo := readU32 buf 0
      (.noChange, .infoSeqNo (count.increment seqNo) (history ++ [seqNo]), buf, rand)

/-- What `sendto_Err` does not exit on. -/
abbrev Datagram := { buf : Bytes // buf ≠ [] }

structure PacketManager where
  errorRate : Float32
  msgNo : UInt32
  errorCaseConstant : List IMsgEvent
  errorCaseChance : List IMsgEvent
  /-- The generator behind `drand48`, which nothing else in the process draws from. -/
  rand : Rand48
deriving DecidableEq, Repr

structure MsgRun where
  result : EventResult
  events : List IMsgEvent
  buf : Bytes
  rand : Rand48
deriving DecidableEq, Repr

/-- `hasChanged` is the local of that name. -/
def runMsgEvents (msgNo : UInt32) : List IMsgEvent → Bool → Bytes → Rand48 → MsgRun
  | [], hasChanged, buf, rand => ⟨if hasChanged = true then .change else .noChange, [], buf, rand⟩
  | ev :: evs, hasChanged, buf, rand =>
      match ev.run msgNo buf rand with
      | (.drop, ev, buf, rand) => ⟨.drop, ev :: evs, buf, rand⟩
      | (.change, ev, buf, rand) =>
          let rest := runMsgEvents msgNo evs true buf rand
          { rest with events := ev :: rest.events }
      | (.noChange, ev, buf, rand) =>
          let rest := runMsgEvents msgNo evs hasChanged buf rand
          { rest with events := ev :: rest.events }

namespace PacketManager

/-- `(m_ErrorCase_Chance.size() > 0) && (randNum <= m_ErrorRate)`; `randNum` is a `float`, and with
a NaN for the rate the comparison fails. -/
def strikes (mgr : PacketManager) (draw : Nat) : Bool :=
  let randNum := doubleToFloat (asDouble draw)
  decide (0 < mgr.errorCaseChance.length ∧ randNum ≤ mgr.errorRate)

/-- `processEvents`: the result, the manager afterwards, the buffer. -/
def processEvents (mgr : PacketManager) (buf : Bytes) (msgNo : UInt32) :
    EventResult × PacketManager × Bytes :=
  let ran := runMsgEvents msgNo mgr.errorCaseConstant false buf mgr.rand
  let randNum := ran.rand.drand48
  let mgr := { mgr with errorCaseConstant := ran.events, rand := randNum.2 }
  if mgr.strikes randNum.1 = true then
    let randCase := mgr.rand.drand48
    let case := pick 53 mgr.errorCaseChance.length randCase.1
    match mgr.errorCaseChance[case]? with
    | some ev =>
        let (result, ev, buf, rand) := ev.run msgNo ran.buf randCase.2
        let mgr :=
          { mgr with
            errorCaseChance := mgr.errorCaseChance.set case ev
            rand := rand }
        -- the second result replaces the first, unless that one was a drop
        (if ran.result = .drop ∨ result = .drop then .drop else result, mgr, buf)
    -- there is always such an event (`pick_lt`), while `(float)size()` is exact: up to 2 ^ 24
    | none => (ran.result, { mgr with rand := randCase.2 }, ran.buf)
  else (ran.result, mgr, ran.buf)

/-- `sendto_Err`: the manager afterwards, the datagram handed to `sendto`, if any, and what is
returned; `lenSent` is what that `sendto` returns.  With `len == 0` it calls `exit(1)` before all
this: see `Datagram`. -/
def sendtoErr (mgr : PacketManager) (buf : Bytes) (lenSent : Bytes → Int) :
    PacketManager × Option Bytes × Int :=
  let mgr := { mgr with msgNo := mgr.msgNo + 1 }
  match mgr.processEvents buf mgr.msgNo with
  | (.drop, mgr, _) => (mgr, none, buf.length)
  | (_, mgr, bufTmp) =>
      (mgr, some bufTmp,
        if lenSent bufTmp = bufTmp.length then (buf.length : Int) else lenSent bufTmp)

def setRandSeed (mgr : PacketManager) (seed : Int) : PacketManager :=
  { mgr with rand := srand48 seed }

def setErrorRate (mgr : PacketManager) (rate : Float32) : PacketManager :=
  { mgr with errorRate := rate }

def addMsgEventStandard (mgr : PacketManager) (ev : IMsgEvent) : PacketManager :=
  { mgr with errorCaseConstant := mgr.errorCaseConstant ++ [ev] }

def addMsgEventRandom (mgr : PacketManager) (ev : IMsgEvent) : PacketManager :=
  { mgr with errorCaseChance := mgr.errorCaseChance ++ [ev] }

end PacketManager

/-! ## The events each list may hold -/

namespace IMsgEvent

def drops (msgNo : UInt32) : IMsgEvent → Bool
  | .errorDrop dropAll dropList => dropAll || dropList.contains msgNo
  | .errorFlipBits | .infoSeqNo _ _ => false

def record (seqNo : UInt32) : IMsgEvent → IMsgEvent
  | .infoSeqNo count history => .infoSeqNo (count.increment seqNo) (history ++ [seqNo])
  | .errorDrop dropAll dropList => .errorDrop dropAll dropList
  | .errorFlipBits => .errorFlipBits

/-- An event of the constant list draws no number and alters no byte. -/
inductive Standard : IMsgEvent → Prop
  | errorDrop (dropList : List UInt32) : Standard (.errorDrop false dropList)
  | infoSeqNo (count : No2Count) (history : List UInt32) : Standard (.infoSeqNo count history)

/-- An event of the chance list keeps no state. -/
inductive Random : IMsgEvent → Prop
  | errorDrop : Random (.errorDrop true [])
  | errorFlipBits : Random .errorFlipBits

theorem Standard.run {ev : IMsgEvent} (h : ev.Standard) (msgNo : UInt32) (buf : Bytes)
    (rand : Rand48) :
    ev.run msgNo buf rand
      = (if ev.drops msgNo = true then .drop else .noChange, ev.record (readU32 buf 0), buf,
          rand) := by
  cases h with
  | errorDrop dropList => rfl
  | infoSeqNo count history => rfl

theorem Standard.record {ev : IMsgEvent} (h : ev.Standard) (seqNo : UInt32) :
    (ev.record seqNo).Standard := by
  cases h with
  | errorDrop dropList => exact .errorDrop dropList
  | infoSeqNo count history => exact .infoSeqNo _ _

theorem Random.run {ev : IMsgEvent} (h : ev.Random) (msgNo : UInt32) (buf : Bytes)
    (rand : Rand48) : (ev.run msgNo buf rand).2.1 = ev := by
  cases h with
  | errorDrop => rfl
  | errorFlipBits => rfl

end IMsgEvent

namespace PacketManager

/-- A manager as the library sets it up. -/
structure Configured (mgr : PacketManager) : Prop where
  standard : ∀ ev ∈ mgr.errorCaseConstant, ev.Standard
  random : ∀ ev ∈ mgr.errorCaseChance, ev.Random

def listed (mgr : PacketManager) (msgNo : UInt32) : Bool :=
  mgr.errorCaseConstant.any (IMsgEvent.drops msgNo)

end PacketManager

/-- The constant events see a datagram in order; behind one that withholds it the others do not
run. -/
theorem runMsgEvents_standard (msgNo : UInt32) (buf : Bytes) (rand : Rand48) :
    ∀ {evs : List IMsgEvent}, (∀ ev ∈ evs, ev.Standard) →
      runMsgEvents msgNo evs false buf rand
        = ⟨if evs.any (IMsgEvent.drops msgNo) = true then .drop else .noChange,
            (evs.takeWhile (!IMsgEvent.drops msgNo ·)).map (IMsgEvent.record (readU32 buf 0)) ++
              evs.dropWhile (!IMsgEvent.drops msgNo ·), buf, rand⟩ := by
  intro evs h
  induction evs with
  | nil => rfl
  | cons ev evs ih =>
      have hev := h ev List.mem_cons_self
      have ih := ih fun e he => h e (List.mem_cons_of_mem ev he)
      rw [runMsgEvents, hev.run msgNo buf rand]
      cases hdrops : ev.drops msgNo with
      | true =>
          -- a drop list is not changed by the message it withholds
          have hkeep : ev.record (readU32 buf 0) = ev := by
            cases hev with
            | errorDrop dropList => rfl
            | infoSeqNo count history => cases hdrops
          simp [hdrops, hkeep]
      | false => simp [hdrops, ih]

namespace PacketManager

/-- The chance event that sees the next datagram, and the generator it draws from. -/
def struck (mgr : PacketManager) : Option (IMsgEvent × Rand48) :=
  let randNum := mgr.rand.drand48
  if mgr.strikes randNum.1 = true then
    let randCase := randNum.2.drand48
    match mgr.errorCaseChance[pick 53 mgr.errorCaseChance.length randCase.1]? with
    | some ev => some (ev, randCase.2)
    | none => none
  else none

theorem struck_random {mgr : PacketManager} (h : mgr.Configured) {ev : IMsgEvent} {rand : Rand48}
    (hstruck : mgr.struck = some (ev, rand)) : ev ∈ mgr.errorCaseChance ∧ ev.Random := by
  have hmem : ev ∈ mgr.errorCaseChance := by
    simp only [struck] at hstruck
    split at hstruck
    · split at hstruck
      · rename_i got hget
        obtain ⟨rfl, _⟩ := Prod.mk.inj (Option.some.inj hstruck)
        exact List.mem_of_getElem? hget
      · cases hstruck
    · cases hstruck
  exact ⟨hmem, h.random ev hmem⟩

def onWire (mgr : PacketManager) (buf : Bytes) : Option Bytes :=
  if mgr.listed (mgr.msgNo + 1) = true then none
  else
    match mgr.struck with
    | none => some buf
    | some (.errorFlipBits, rand) =>
        some (SelectiveReject.errorFlipBits buf (pick 53 buf.length rand.drand48.1))
    | some (_, _) => none

/-- The manager after the message `msgNo`: it has a line in the journals in front of the first drop
list with its number. -/
structure Sends (mgr : PacketManager) (msgNo : UInt32) (buf : Bytes) (mgr' : PacketManager) :
    Prop where
  errorRate : mgr'.errorRate = mgr.errorRate
  counted : mgr'.msgNo = msgNo
  constant : mgr'.errorCaseConstant
    = (mgr.errorCaseConstant.takeWhile (!IMsgEvent.drops msgNo ·)).map
        (IMsgEvent.record (readU32 buf 0)) ++
      mgr.errorCaseConstant.dropWhile (!IMsgEvent.drops msgNo ·)
  chance : mgr'.errorCaseChance = mgr.errorCaseChance

theorem set_eq_self {α : Type} {l : List α} {i : Nat} {a : α} (h : l[i]? = some a) :
    l.set i a = l := by
  obtain ⟨hi, rfl⟩ := List.getElem?_eq_some_iff.mp h
  exact List.set_getElem_self hi

/-- What `processEvents` answers when the chance event is `struck`. -/
structure Answers (mgr : PacketManager) (msgNo : UInt32) (buf : Bytes)
    (answer : EventResult × PacketManager × Bytes) : Prop where
  sends : Sends { mgr with msgNo := msgNo } msgNo buf answer.2.1
  drop : answer.1 = .drop ↔
    mgr.listed msgNo = true ∨ ∃ rand, mgr.struck = some (.errorDrop true [], rand)
  buf : answer.2.2 = match mgr.struck with
    | some (.errorFlipBits, rand) =>
        SelectiveReject.errorFlipBits buf (pick 53 buf.length rand.drand48.1)
    | _ => buf

theorem answers_processEvents {mgr : PacketManager} (h : mgr.Configured) (buf : Bytes)
    (msgNo : UInt32) :
    mgr.Answers msgNo buf (processEvents { mgr with msgNo := msgNo } buf msgNo) := by
  have hran := runMsgEvents_standard msgNo buf mgr.rand h.standard
  have hresult : ((if mgr.listed msgNo = true then EventResult.drop else .noChange) = .drop)
      ↔ mgr.listed msgNo = true := by
    split
    · rename_i hlisted
      exact ⟨fun _ => hlisted, fun _ => rfl⟩
    · rename_i hlisted
      exact ⟨nofun, fun hc => absurd hc hlisted⟩
  simp only [processEvents, hran]
  split
  · rename_i hstrikes
    have hstrikes : mgr.strikes mgr.rand.drand48.1 = true := hstrikes
    cases hget : mgr.errorCaseChance[pick 53 mgr.errorCaseChance.length
        mgr.rand.drand48.2.drand48.1]? with
    | none =>
        have hstruck : mgr.struck = none := by simp only [struck, hstrikes, if_true, hget]
        exact ⟨⟨rfl, rfl, rfl, rfl⟩, hresult.trans (by simp [hstruck]), by rw [hstruck]⟩
    | some ev =>
        have hstruck : mgr.struck = some (ev, mgr.rand.drand48.2.drand48.2) := by
          simp only [struck, hstrikes, if_true, hget]
        have hset := set_eq_self hget
        cases (struck_random h hstruck).2 with
        | errorDrop =>
            simp only [IMsgEvent.run, hset]
            exact ⟨⟨rfl, rfl, rfl, rfl⟩, by simp [hstruck], by rw [hstruck]⟩
        | errorFlipBits =>
            simp only [IMsgEvent.run, hset]
            exact ⟨⟨rfl, rfl, rfl, rfl⟩, by simp [listed, hstruck], by rw [hstruck]⟩
  · rename_i hstrikes
    have hstrikes : ¬ mgr.strikes mgr.rand.drand48.1 = true := hstrikes
    have hstruck : mgr.struck = none := by simp only [struck, if_neg hstrikes]
    exact ⟨⟨rfl, rfl, rfl, rfl⟩, hresult.trans (by simp [hstruck]), by rw [hstruck]⟩

/-- Everything one `sendtoErr` does. -/
theorem sendtoErr_spec {mgr : PacketManager} (h : mgr.Configured) (buf : Bytes)
    (lenSent : Bytes → Int) :
    mgr.Sends (mgr.msgNo + 1) buf (mgr.sendtoErr buf lenSent).1 ∧
      (mgr.sendtoErr buf lenSent).2.1 = mgr.onWire buf := by
  have hanswers := answers_processEvents h buf (mgr.msgNo + 1)
  simp only [sendtoErr, onWire]
  split
  · rename_i mgr' buf' hprocess
    obtain ⟨hsends, hdrop, _⟩ := hprocess ▸ hanswers
    refine ⟨⟨hsends.errorRate, hsends.counted, hsends.constant, hsends.chance⟩, ?_⟩
    rcases hdrop.mp rfl with hlisted | ⟨rand, hstruck⟩
    · rw [if_pos hlisted]
    · rw [hstruck]
      split <;> rfl
  · rename_i result mgr' buf' hne hprocess
    obtain ⟨hsends, hdrop, hbuf⟩ := hprocess ▸ hanswers
    refine ⟨⟨hsends.errorRate, hsends.counted, hsends.constant, hsends.chance⟩, ?_⟩
    have hkept := fun hc => hne (hdrop.mpr hc)
    have hbuf : buf' = _ := hbuf
    rw [if_neg fun hlisted => hkept (.inl hlisted), hbuf]
    cases hstruck : mgr.struck with
    | none => rfl
    | some struck =>
        obtain ⟨ev, rand⟩ := struck
        cases (struck_random h hstruck).2 with
        | errorDrop => exact absurd (.inr ⟨rand, hstruck⟩) hkept
        | errorFlipBits => rfl

end PacketManager

end SelectiveReject
