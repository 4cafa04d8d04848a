import IolHat.DataLink.Footprint

/-!
# Reading the event memory

When a device raises the event flag, the event handler reads its status code, then the three octets
of each slot that the status code marks, and hands the events over. It is called once to prepare a
master message and once with the device message that answers it; between two calls the other
handlers of the layer do as they like (`Elsewhere`).

`MessageCycles` are such calls, answered by a device that decodes the address in the M-sequence
control octet. `event_memory_is_read_exactly` says what octets are sent, what events are indicated
and what follows, for every status code that marks a slot and every content of the memory. After
the confirmation the handler is ready again, so the theorem covers each round of a run of rounds.
-/

namespace IolHat

open Octets

/-- The call indicates an event. -/
def DlCall.isEventInd : DlCall → Bool
  | .eventInd .. => true
  | _ => false

namespace Dl

/-! ### Slots of a status code -/

/-- The marked slots from a slot on. -/
def slotsFrom (status : Octet) (k : ℕ) : List ℕ :=
  (List.range' k (maxEvents - k)).filter fun i => statusBit status i

/-- The slots that a status code marks, in ascending order. -/
abbrev markedSlots (status : Octet) : List ℕ := slotsFrom status 0

theorem slotsFrom_of_le {status : Octet} {k : ℕ} (h : 6 ≤ k) : slotsFrom status k = [] := by
  have hzero : maxEvents - k = 0 := Nat.sub_eq_zero_of_le h
  rw [slotsFrom, hzero]
  rfl

theorem slotsFrom_of_lt {status : Octet} {k : ℕ} (h : k < 6) :
    slotsFrom status k =
      if statusBit status k then k :: slotsFrom status (k + 1) else slotsFrom status (k + 1) := by
  have hlen : maxEvents - k = maxEvents - (k + 1) + 1 := by
    show 6 - k = 6 - (k + 1) + 1
    omega
  rw [slotsFrom, hlen, List.range'_succ, List.filter_cons]
  rfl

/-- The first marked slot, and those behind it. -/
theorem slotsFrom_eq_cons {status : Octet} {k i : ℕ} {rest : List ℕ}
    (h : slotsFrom status k = i :: rest) : i < 6 ∧ rest = slotsFrom status (i + 1) := by
  induction hn : 6 - k generalizing k with
  | zero =>
    rw [slotsFrom_of_le (by omega)] at h
    cases h
  | succ n ih =>
    have hk : k < 6 := by omega
    rw [slotsFrom_of_lt hk] at h
    split_ifs at h with hbit
    · rw [List.cons.injEq] at h
      obtain ⟨rfl, rfl⟩ := h
      exact ⟨hk, rfl⟩
    · exact ih h (by omega)

/-- The loop over the slots of a status code counts them and finds the first one. -/
theorem foldl_markSlot (status : Octet) (slots : List ℕ) {h : EventHandler}
    (hroom : h.numEntries + slots.length < 256) :
    slots.foldl (markSlot status) h = { h with
      numEntries := h.numEntries + (slots.filter fun i => statusBit status i).length
      evAddr := if h.evAddr = 0 then
        ((slots.filter fun i => statusBit status i).head?.map (1 + · * 3)).getD 0
        else h.evAddr } := by
  induction slots generalizing h with
  | nil =>
    cases h
    simp only [List.foldl_nil, List.filter_nil, List.length_nil, List.head?_nil, Option.map_none,
      Option.getD_none, Nat.add_zero]
    split_ifs with haddr
    · rw [haddr]
    · rfl
  | cons k slots ih =>
    rw [List.length_cons] at hroom
    rw [List.foldl_cons, List.filter_cons]
    by_cases hbit : statusBit status k = true
    · have hnum : narrow8 (h.numEntries + 1) = h.numEntries + 1 := narrow8_of_lt (by omega)
      have hmark : markSlot status h k = { h with
          numEntries := h.numEntries + 1
          evAddr := if h.evAddr = 0 then 1 + k * 3 else h.evAddr } := by
        rw [markSlot, if_pos hbit, hnum]
      rw [hmark, ih (by show h.numEntries + 1 + slots.length < 256; omega), if_pos hbit]
      by_cases haddr : h.evAddr = 0
      · simp [haddr]
        omega
      · simp [haddr]
        omega
    · have hmark : markSlot status h k = h := if_neg hbit
      rw [hmark, ih (by omega), if_neg hbit]

/-- The search for the next slot: the counter ends at the next marked slot, or behind the last
event bit. -/
theorem nextSlot_of_slots (status : Octet) {n : ℕ} {h : EventHandler} (hn : h.evCnt + n = 6) :
    nextSlot status n h =
      match slotsFrom status (h.evCnt + 1) with
      | k :: _ => { h with evCnt := k, evAddr := 1 + k * 3 }
      | [] => { h with
          evCnt := 6
          evAddr := if n ≠ 0 ∧ statusBit status 6 = true then 19 else h.evAddr } := by
  induction n generalizing h with
  | zero =>
    have hcnt : h.evCnt = 6 := hn
    rw [slotsFrom_of_le (by omega)]
    cases h
    simp only at hcnt
    simp [nextSlot, hcnt]
  | succ n ih =>
    rw [nextSlot]
    dsimp only
    by_cases hbit : statusBit status (h.evCnt + 1) = true
    · rw [if_pos hbit]
      by_cases hk : h.evCnt + 1 < 6
      · rw [slotsFrom_of_lt hk, if_pos hbit]
      · have hcnt : h.evCnt + 1 = 6 := by omega
        rw [slotsFrom_of_le (by omega), hcnt]
        rw [hcnt] at hbit
        simp [hbit]
    · rw [if_neg hbit, ih (by show h.evCnt + 1 + n = 6; omega)]
      dsimp only
      by_cases hk : h.evCnt + 1 < 6
      · rw [slotsFrom_of_lt hk, if_neg hbit]
        have hne : n ≠ 0 := by omega
        simp [hne]
      · have hcnt : h.evCnt + 1 = 6 := by omega
        rw [slotsFrom_of_le (by omega), slotsFrom_of_le (by omega)]
        rw [hcnt] at hbit
        simp [hbit]

/-! ### What is to be read and indicated -/

/-- The addresses of a slot. -/
def slotAddresses (k : ℕ) : List ℕ := [1 + 3 * k, 2 + 3 * k, 3 + 3 * k]

/-- The addresses of the status code and of the slots it marks. -/
def eventAddresses (status : Octet) : List ℕ := 0 :: (markedSlots status).flatMap slotAddresses

/-- The M-sequence control octet that reads an address of the diagnosis channel. -/
def readOctet (address : ℕ) : Octet :=
  RwDirection.read.code ||| ComChannel.diagnosis.code ||| UInt8.ofNat address

/-- The M-sequence control octet that writes the status code, which confirms the events. -/
def confirmOctet : Octet := RwDirection.write.code ||| ComChannel.diagnosis.code ||| UInt8.ofNat 0

/-- The address in an M-sequence control octet. -/
def octetAddress (octet : Octet) : ℕ := (octet &&& 0x1F).toNat

theorem octetAddress_readOctet {address : ℕ} (h : address < 32) :
    octetAddress (readOctet address) = address := by
  have hall : ∀ n : Fin 32, octetAddress (readOctet n) = n := by decide
  exact hall ⟨address, h⟩

variable (memory : ℕ → Octet)

/-- The event in a slot. -/
def eventAt (k : ℕ) : Event := ⟨memory (1 + 3 * k), memory (2 + 3 * k), memory (3 + 3 * k)⟩

/-- The code of the event in a slot. -/
def slotCode (k : ℕ) : UInt16 :=
  ((memory (2 + 3 * k)).toUInt16 <<< 8) ||| (memory (3 + 3 * k)).toUInt16

/-- One indication for each slot, with the number of those that follow. -/
def indications : List ℕ → List DlCall
  | [] => []
  | k :: slots =>
    .eventInd (slotCode memory k) (memory (1 + 3 * k)) slots.length :: indications slots

/-- The event indications made so far. -/
def eventInds (dl : Dl) : List DlCall := dl.out.filter DlCall.isEventInd

/-! ### Signalling the events -/

/-- The two octets of a code do not overlap. -/
theorem code_eq (lsb msb : Octet) :
    lsb.toUInt16 + (msb.toUInt16 <<< 8) = (msb.toUInt16 <<< 8) ||| lsb.toUInt16 := by
  have hlsb : lsb.toNat < 2 ^ 8 := lsb.toNat_lt
  have hmsb : msb.toNat < 2 ^ 8 := msb.toNat_lt
  refine UInt16.toNat.inj ?_
  have hshift : msb.toNat <<< 8 % 2 ^ 16 = msb.toNat <<< 8 := by
    rw [Nat.shiftLeft_eq]
    omega
  have hor : msb.toNat <<< 8 ||| lsb.toNat = msb.toNat <<< 8 + lsb.toNat :=
    (Nat.shiftLeft_add_eq_or_of_lt hlsb msb.toNat).symm
  rw [UInt16.toNat_add, UInt16.toNat_or, UInt16.toNat_shiftLeft, UInt8.toNat_toUInt16,
    UInt8.toNat_toUInt16, show (8 : UInt16).toNat % 16 = 8 from rfl, hshift, hor,
    Nat.shiftLeft_eq]
  omega

theorem indications_eq_map (slots : List ℕ) :
    indications memory slots = (List.range slots.length).map fun i =>
      .eventInd (slotCode memory (slots.getD i 0)) (memory (1 + 3 * slots.getD i 0))
        (slots.length - i - 1) := by
  induction slots with
  | nil => rfl
  | cons k slots ih =>
    rw [indications, ih, List.length_cons, List.range_succ_eq_map, List.map_cons, List.map_map]
    refine congrArg₂ List.cons (by simp) (List.map_congr_left fun i _ => ?_)
    simp only [Function.comp, List.getD_cons_succ, Nat.succ_eq_add_one]
    congr 1
    omega

/-- A loop that only emits. -/
theorem foldl_emit (f : EventHandler → ℕ → DlCall) (l : List ℕ) (dl : Dl) :
    l.foldl (fun dl k => dl.emit (f dl.eventHandler k)) dl =
      { dl with out := dl.out ++ l.map (f dl.eventHandler) } := by
  induction l generalizing dl with
  | nil => simp
  | cons k l ih =>
    rw [List.foldl_cons, ih]
    simp [emit]

/-- **The events of a complete walk.** -/
theorem signalDetails_out (dl : Dl) {slots : List ℕ}
    (hnum : dl.eventHandler.numEntries = slots.length)
    (hevents : dl.eventHandler.events.slice 0 slots.length = slots.map (eventAt memory)) :
    dl.signalDetails.out = dl.out ++ indications memory slots ∧
      dl.signalDetails.eventHandler = { dl.eventHandler with evCurrent := slots.length } := by
  have hfold := foldl_emit (fun h k => .eventInd
    ((h.events.get k).eventCodeLsb.toUInt16 + ((h.events.get k).eventCodeMsb.toUInt16 <<< 8))
    (h.events.get k).eventQualifier (slots.length - k - 1)) (List.range slots.length)
    (dl.access .events (slots.length ≤ maxEvents))
  have hmap : (List.range slots.length).map (fun k => DlCall.eventInd
      ((dl.eventHandler.events.get k).eventCodeLsb.toUInt16 +
        ((dl.eventHandler.events.get k).eventCodeMsb.toUInt16 <<< 8))
      (dl.eventHandler.events.get k).eventQualifier (slots.length - k - 1)) =
        indications memory slots := by
    rw [indications_eq_map]
    refine List.map_congr_left fun i hi => ?_
    have hi : i < slots.length := List.mem_range.mp hi
    have hget := dl.eventHandler.events.get_of_slice hevents hi
    rw [List.getD_eq_getElem?_getD, List.getElem?_map, List.getElem?_eq_getElem hi] at hget
    rw [hget, List.getD_eq_getElem?_getD, List.getElem?_eq_getElem hi]
    simp only [Option.map_some, Option.getD_some, eventAt, slotCode, code_eq]
  rw [signalDetails, hnum]
  dsimp only
  rw [hfold]
  exact ⟨congrArg (dl.out ++ ·) hmap, rfl⟩

/-! ### The calls of the event handler -/

/-- The event handler is called to prepare a master message. -/
def evMaster (dl : Dl) : Dl := (dl.modOd ({ · with trigger := .masterMessage })).evHSm

/-- The event handler is called with a device message. -/
def evDevice (dl : Dl) : Dl := (dl.modOd ({ · with trigger := .deviceMessage })).evHSm

/-- The OD handler hands a message to the event handler in EVENT_3, while the event flag is set and
no command waits. -/
theorem odHSm_event3 {dl : Dl} (hs : dl.odHandler.state = .event3)
    (hohcmd : dl.odHandler.ohcmd = .active) (hcontrol : dl.cmdHandler.controlCode = .none)
    (hflag : dl.eventHandler.eventFlag = true) :
    dl.odMaster = dl.evMaster.modOd ({ · with trigger := .none }) ∧
      dl.odDevice = dl.evDevice.modOd ({ · with trigger := .none }) := by
  have hactive : ¬ dl.odHandler.ohcmd = .inactive := by
    rw [hohcmd]
    decide
  constructor
  · rw [odMaster, odHSm]
    simp only [modOd_odHandler, hs, odHSmEvent3, if_neg hactive, modOd_cmdHandler, hcontrol,
      modOd_eventHandler, hflag]
    rfl
  · rw [odDevice, odHSm]
    simp only [modOd_odHandler, hs, odHSmEvent3, if_neg hactive, modOd_cmdHandler, hcontrol,
      modOd_eventHandler, hflag]
    rfl

/-- What may happen between two calls: everything that is not the event handler's, while
communication lasts. The event flag comes with each device message. -/
structure Elsewhere (dl dl' : Dl) : Prop where
  eventHandler : ∃ flag, dl'.eventHandler = { dl.eventHandler with eventFlag := flag }
  eventInds : dl'.eventInds = dl.eventInds
  mhinfo : dl'.modeHandler.mhinfo ≠ .comlost
  front : 2 ≤ dl'.odHandler.odoutBuffer

/-- One message and its answer: the octet in `rxbuffer` is that of the address in the M-sequence
control octet. -/
inductive MessageCycle (memory : ℕ → Octet) (dl : Dl) : Octet → Dl → Prop
  | mk {dl₁ dl₂ : Dl} (before : Elsewhere dl dl₁) (answered : Elsewhere dl₁.evMaster dl₂)
      (octet : dl₂.rxbuffer.get 0 = memory (octetAddress (dl₁.evMaster.txbuffer.get 0))) :
      MessageCycle memory dl (dl₁.evMaster.txbuffer.get 0) dl₂.evDevice

/-- Messages and their answers, with the M-sequence control octets that were sent. -/
inductive MessageCycles (memory : ℕ → Octet) : Dl → List Octet → Dl → Prop
  | nil (dl : Dl) : MessageCycles memory dl [] dl
  | cons {dl dl' dl'' : Dl} {octet : Octet} {octets : List Octet}
      (head : MessageCycle memory dl octet dl') (tail : MessageCycles memory dl' octets dl'') :
      MessageCycles memory dl (octet :: octets) dl''

/-- The event handler is active and has nothing to do. -/
structure EventReady (h : EventHandler) : Prop where
  state : h.state = .idle1
  ehcmd : h.ehcmd = .active
  confirmed : h.eventConfirmation = false

/-- Events have been signalled and wait to be confirmed. -/
structure EventSignalled (h : EventHandler) : Prop where
  state : h.state = .idle1
  ehcmd : h.ehcmd = .active
  unconfirmed : h.eventConfirmation = true

variable {memory}

/-- The first message asks for the status code. -/
theorem evMaster_ready {dl : Dl} (h : EventReady dl.eventHandler)
    (hfront : 2 ≤ dl.odHandler.odoutBuffer) :
    dl.evMaster.txbuffer.get 0 = readOctet 0 ∧ dl.evMaster.eventInds = dl.eventInds ∧
      dl.evMaster.eventHandler = { dl.eventHandler with
        state := .readevent2, evAddr := 0, numEntries := 0, evCurrent := 0
        events := .fill {} } := by
  have hactive : ¬ dl.eventHandler.ehcmd = .inactive := by
    rw [h.ehcmd]
    decide
  have hmaster : dl.evMaster = (dl.modOd ({ · with trigger := .masterMessage })).evBegin := by
    rw [evMaster, evHSm]
    simp only [modOd_eventHandler, h.state, evHSmIdle1, modOd_odHandler, h.confirmed,
      if_neg hactive, if_true, Bool.false_eq_true, if_false]
  rw [hmaster, evBegin]
  refine ⟨?_, ?_, ?_⟩
  · rw [modEvent_txbuffer]
    exact odReq_head hfront .read .diagnosis (Nat.zero_le 31) (Nat.zero_le 32) .null
  · rw [eventInds, modEvent_out, odReq_out]
    rfl
  · rw [modEvent_eventHandler, odReq_eventHandler]
    rfl

/-- A message while the memory is read. -/
theorem evMaster_reading {dl : Dl} (hs : dl.eventHandler.state = .readevent2)
    (haddr : dl.eventHandler.evAddr < 32) (hmhinfo : dl.modeHandler.mhinfo ≠ .comlost)
    (hfront : 2 ≤ dl.odHandler.odoutBuffer) :
    dl.evMaster.txbuffer.get 0 = readOctet dl.eventHandler.evAddr ∧
      dl.evMaster.eventInds = dl.eventInds ∧ dl.evMaster.eventHandler = dl.eventHandler := by
  have hmaster : dl.evMaster = ((dl.modOd ({ · with trigger := .masterMessage })).odReq .read
      .diagnosis dl.eventHandler.evAddr 0 .null).2 := by
    rw [evMaster, evHSm]
    simp only [modOd_eventHandler, hs, evHSmReadEvent2, modOd_modeHandler, modOd_odHandler,
      if_neg hmhinfo]
  have hfront : 2 ≤ (dl.modOd ({ · with trigger := .masterMessage })).odHandler.odoutBuffer :=
    hfront
  rw [hmaster]
  refine ⟨?_, ?_, ?_⟩
  · exact odReq_head hfront .read .diagnosis (Nat.le_of_lt_succ haddr) (Nat.zero_le 32) .null
  · rw [eventInds, odReq_out]
    rfl
  · rw [odReq_eventHandler]
    rfl

/-- The message that confirms the events. -/
theorem evMaster_signalled {dl : Dl} (h : EventSignalled dl.eventHandler)
    (hmhinfo : dl.modeHandler.mhinfo ≠ .comlost) (hfront : 2 ≤ dl.odHandler.odoutBuffer) :
    dl.evMaster.txbuffer.get 0 = confirmOctet ∧ EventReady dl.evMaster.eventHandler := by
  have hactive : ¬ dl.eventHandler.ehcmd = .inactive := by
    rw [h.ehcmd]
    decide
  have hmaster : dl.evMaster = (dl.modOd ({ · with trigger := .masterMessage })).evConfirm := by
    rw [evMaster, evHSm]
    simp only [modOd_eventHandler, h.state, evHSmIdle1, modOd_odHandler, h.unconfirmed,
      if_neg hactive, if_true]
  rw [hmaster, evConfirm]
  dsimp only
  rw [modEvent_modeHandler, modOd_modeHandler, if_neg hmhinfo]
  refine ⟨?_, rfl, ?_, rfl⟩
  · rw [modEvent_txbuffer]
    exact odReq_head hfront .write .diagnosis (Nat.zero_le 31)
      (Nat.le_of_ble_eq_true rfl : 1 ≤ 32) _
  · rw [modEvent_eventHandler, odReq_eventHandler]
    exact h.ehcmd

/-! ### The walk over the slots -/

variable (memory) in
/-- The status code has been asked for. -/
structure Asking (h : EventHandler) : Prop where
  state : h.state = .readevent2
  ehcmd : h.ehcmd = .active
  evAddr : h.evAddr = 0
  numEntries : h.numEntries = 0
  evCurrent : h.evCurrent = 0

variable (memory) in
/-- The events of the slots `done` have been read, and the first `i` octets of slot `k`. -/
structure Reading (h : EventHandler) (done : List ℕ) (k i : ℕ) : Prop where
  state : h.state = .readevent2
  ehcmd : h.ehcmd = .active
  statusCode : h.statusCode = memory 0
  details : statusBit (memory 0) 7 = true
  marked : markedSlots (memory 0) = done ++ k :: slotsFrom (memory 0) (k + 1)
  slot : k < 6
  numEntries : h.numEntries = (markedSlots (memory 0)).length
  evCnt : h.evCnt = k
  evAddr : h.evAddr = 1 + 3 * k + i
  evCurrent : h.evCurrent = done.length
  front : h.events.slice 0 done.length = done.map (eventAt memory)
  qualifier : 1 ≤ i → (h.events.get done.length).eventQualifier = memory (1 + 3 * k)
  msb : 2 ≤ i → (h.events.get done.length).eventCodeMsb = memory (2 + 3 * k)

theorem length_markedSlots_le (status : Octet) : (markedSlots status).length ≤ 6 :=
  Nat.le_trans (List.length_filter_le _ _) (Nat.le_of_eq List.length_range')

/-- There is room for the event that is being read. -/
theorem Reading.room {h : EventHandler} {done : List ℕ} {k i : ℕ} (hr : Reading memory h done k i) :
    done.length < 6 := by
  have hlen := length_markedSlots_le (memory 0)
  rw [hr.marked, List.length_append, List.length_cons] at hlen
  omega

/-- The status code arrives. -/
theorem evDevice_asking {dl : Dl} (h : Asking dl.eventHandler)
    (hmhinfo : dl.modeHandler.mhinfo ≠ .comlost) (hoctet : dl.rxbuffer.get 0 = memory 0)
    (hdetails : statusBit (memory 0) 7 = true) {k : ℕ} {rest : List ℕ}
    (hslots : markedSlots (memory 0) = k :: rest) :
    Reading memory dl.evDevice.eventHandler [] k 0 ∧ dl.evDevice.eventInds = dl.eventInds := by
  obtain ⟨hk, hrest⟩ := slotsFrom_eq_cons hslots
  have hdevice : dl.evDevice =
      (dl.modOd ({ · with trigger := .deviceMessage })).evHSmReadEvent2ForDeviceStatusCode := by
    rw [evDevice, evHSm]
    simp only [modOd_eventHandler, h.state, evHSmReadEvent2, modOd_modeHandler, modOd_odHandler,
      if_neg hmhinfo, h.evAddr, if_true]
  have hfold := foldl_markSlot (memory 0) (List.range maxEvents)
    (h := { dl.eventHandler with statusCode := memory 0 })
    (by show dl.eventHandler.numEntries + (List.range 6).length < 256
        rw [h.numEntries, List.length_range]; omega)
  have hfilter : (List.range maxEvents).filter (fun i => statusBit (memory 0) i) =
      markedSlots (memory 0) := by
    rw [List.range_eq_range']
    rfl
  have hzero : ({ dl.eventHandler with statusCode := memory 0 } : EventHandler).evAddr = 0 :=
    h.evAddr
  rw [hfilter, if_pos hzero, hslots] at hfold
  have hstatus : (dl.modOd ({ · with trigger := .deviceMessage })).rxbuffer.get 0 = memory 0 :=
    hoctet
  have hcnt : (1 + k * 3 - 1) / 3 = k := by omega
  rw [hdevice, evHSmReadEvent2ForDeviceStatusCode]
  dsimp only
  rw [hstatus, if_pos hdetails]
  refine ⟨?_, rfl⟩
  rw [modEvent_eventHandler, modEvent_eventHandler, modEvent_eventHandler, modOd_eventHandler,
    hfold]
  refine ⟨h.state, h.ehcmd, rfl, hdetails, ?_, hk, ?_, ?_, ?_, h.evCurrent, rfl, ?_, ?_⟩
  · rw [hslots, hrest]
    rfl
  · show dl.eventHandler.numEntries + (k :: rest).length = _
    rw [h.numEntries, hslots, Nat.zero_add]
  · exact hcnt
  · show 1 + k * 3 = 1 + 3 * k + 0
    omega
  · exact fun hi => absurd hi (by decide)
  · exact fun hi => absurd hi (by decide)

/-- A message with an octet of a slot. -/
theorem evDevice_reading {dl : Dl} {done : List ℕ} {k i : ℕ}
    (h : Reading memory dl.eventHandler done k i) (hmhinfo : dl.modeHandler.mhinfo ≠ .comlost) :
    dl.evDevice = (dl.modOd ({ · with
      trigger := .deviceMessage })).evHSmReadEvent2ForDeviceEventMemoryByte := by
  have haddr : ¬ dl.eventHandler.evAddr = 0 := by
    rw [h.evAddr]
    omega
  rw [evDevice, evHSm]
  simp only [modOd_eventHandler, h.state, evHSmReadEvent2, modOd_modeHandler, modOd_odHandler,
    if_neg hmhinfo, if_neg haddr]

theorem storeEvent_eventHandler (dl : Dl) (f : Octet → Event → Event) :
    (dl.storeEvent f).eventHandler = { dl.eventHandler with
      events := dl.eventHandler.events.set dl.eventHandler.evCurrent
        (f (dl.rxbuffer.get 0) (dl.eventHandler.events.get dl.eventHandler.evCurrent)) } := rfl

/-- The first octet of a slot, or the second. -/
theorem evDevice_octet {dl : Dl} {done : List ℕ} {k i : ℕ}
    (h : Reading memory dl.eventHandler done k i) (hi : i < 2)
    (hmhinfo : dl.modeHandler.mhinfo ≠ .comlost)
    (hoctet : dl.rxbuffer.get 0 = memory (1 + 3 * k + i)) :
    Reading memory dl.evDevice.eventHandler done k (i + 1) ∧
      dl.evDevice.eventInds = dl.eventInds := by
  have hroom := h.room
  have hself (event : Event) : (dl.eventHandler.events.set done.length event).get done.length =
      event := dl.eventHandler.events.get_set_self hroom event
  have hfront (event : Event) : (dl.eventHandler.events.set done.length event).slice 0
      done.length = done.map (eventAt memory) :=
    (dl.eventHandler.events.slice_write_of_le [event] (Nat.le_refl _)).trans h.front
  rw [evDevice_reading h hmhinfo, evHSmReadEvent2ForDeviceEventMemoryByte]
  obtain rfl | rfl : i = 0 ∨ i = 1 := by omega
  · have hmatch : ((dl.modOd ({ · with trigger := .deviceMessage })).eventHandler.evAddr : Int) -
        (dl.modOd ({ · with trigger := .deviceMessage })).eventHandler.evCnt * 3 = 1 := by
      rw [modOd_eventHandler, h.evAddr, h.evCnt]
      omega
    simp only [hmatch]
    refine ⟨⟨h.state, h.ehcmd, h.statusCode, h.details, h.marked, h.slot, h.numEntries, h.evCnt,
      congrArg (· + 1) h.evAddr, h.evCurrent, ?_, fun _ => ?_, fun hi => absurd hi (by decide)⟩,
      rfl⟩
    · rw [modEvent_eventHandler, storeEvent_eventHandler, modOd_eventHandler, h.evCurrent]
      exact hfront _
    · rw [modEvent_eventHandler, storeEvent_eventHandler, modOd_eventHandler, h.evCurrent]
      show ((dl.eventHandler.events.set done.length _).get done.length).eventQualifier = _
      rw [hself]
      exact hoctet
  · have hmatch : ((dl.modOd ({ · with trigger := .deviceMessage })).eventHandler.evAddr : Int) -
        (dl.modOd ({ · with trigger := .deviceMessage })).eventHandler.evCnt * 3 = 2 := by
      rw [modOd_eventHandler, h.evAddr, h.evCnt]
      omega
    simp only [hmatch]
    refine ⟨⟨h.state, h.ehcmd, h.statusCode, h.details, h.marked, h.slot, h.numEntries, h.evCnt,
      congrArg (· + 1) h.evAddr, h.evCurrent, ?_, fun _ => ?_, fun _ => ?_⟩, rfl⟩
    · rw [modEvent_eventHandler, storeEvent_eventHandler, modOd_eventHandler, h.evCurrent]
      exact hfront _
    · rw [modEvent_eventHandler, storeEvent_eventHandler, modOd_eventHandler, h.evCurrent]
      show ((dl.eventHandler.events.set done.length _).get done.length).eventQualifier = _
      rw [hself]
      exact h.qualifier (Nat.le_refl 1)
    · rw [modEvent_eventHandler, storeEvent_eventHandler, modOd_eventHandler, h.evCurrent]
      show ((dl.eventHandler.events.set done.length _).get done.length).eventCodeMsb = _
      rw [hself]
      refine hoctet.trans (congrArg memory ?_)
      omega

/-- The events are complete. -/
theorem signalEvent3_out (dl : Dl) (slots : List ℕ)
    (hstatus : statusBit dl.eventHandler.statusCode 7 = true)
    (hehcmd : dl.eventHandler.ehcmd = .active)
    (hnum : dl.eventHandler.numEntries = slots.length)
    (hevents : dl.eventHandler.events.slice 0 slots.length = slots.map (eventAt memory)) :
    dl.evHSmSignalEvent3.out = dl.out ++ indications memory slots ∧
      EventSignalled dl.evHSmSignalEvent3.eventHandler := by
  have hdetails := signalDetails_out memory (dl.modEvent ({ · with state := .signalevent3 }))
    hnum hevents
  rw [evHSmSignalEvent3, modEvent_eventHandler, if_pos hstatus, modEvent_out]
  refine ⟨hdetails.1, rfl, ?_, rfl⟩
  rw [modEvent_eventHandler, hdetails.2]
  exact hehcmd

theorem eventInds_of_out {dl dl' : Dl} {slots : List ℕ}
    (h : dl'.out = dl.out ++ indications memory slots) :
    dl'.eventInds = dl.eventInds ++ indications memory slots := by
  have hall : (indications memory slots).filter DlCall.isEventInd = indications memory slots := by
    clear h
    induction slots with
    | nil => rfl
    | cons k slots ih => exact congrArg (List.cons _) ih
  rw [eventInds, h, List.filter_append, hall]
  rfl

/-- After the last octet of a slot: the next slot is due, or the events are signalled. -/
theorem eventRead_of_slots {dl : Dl} (hk : dl.eventHandler.evCnt < 6) :
    match slotsFrom dl.eventHandler.statusCode (dl.eventHandler.evCnt + 1) with
    | k :: _ => dl.eventRead.out = dl.out ∧ dl.eventRead.eventHandler = { dl.eventHandler with
        evCurrent := dl.eventHandler.evCurrent + 1, evCnt := k, evAddr := 1 + k * 3 }
    | [] => ∃ address, dl.eventRead = (dl.modEvent fun h => { h with
        evCurrent := 0, evCnt := 6, evAddr := address }).evHSmSignalEvent3 := by
  have hnext := nextSlot_of_slots dl.eventHandler.statusCode
    (n := maxEvents - dl.eventHandler.evCnt)
    (h := { dl.eventHandler with evCurrent := dl.eventHandler.evCurrent + 1 })
    (by show dl.eventHandler.evCnt + (6 - dl.eventHandler.evCnt) = 6; omega)
  dsimp only at hnext
  generalize hfound : nextSlot dl.eventHandler.statusCode (maxEvents - dl.eventHandler.evCnt)
    { dl.eventHandler with evCurrent := dl.eventHandler.evCurrent + 1 } = found at hnext
  have hread : dl.eventRead = if found.evCnt ≥ maxEvents then
      (dl.modEvent fun _ => { found with evCurrent := 0 }).evHSmSignalEvent3
      else dl.modEvent fun _ => found := by
    rw [← hfound]
    rfl
  rcases hslots : slotsFrom dl.eventHandler.statusCode (dl.eventHandler.evCnt + 1) with _ | ⟨k, _⟩
  · rw [hslots] at hnext
    subst hnext
    exact ⟨_, hread.trans (if_pos (Nat.le_refl 6))⟩
  · rw [hslots] at hnext
    subst hnext
    have hlt : ¬ k ≥ maxEvents := Nat.not_le.mpr (slotsFrom_eq_cons hslots).1
    rw [hread.trans (if_neg hlt)]
    exact ⟨rfl, rfl⟩

/-- The last octet of a slot completes its event. -/
private theorem evDevice_completes {dl : Dl} {done : List ℕ} {k : ℕ}
    (h : Reading memory dl.eventHandler done k 2) (hmhinfo : dl.modeHandler.mhinfo ≠ .comlost)
    (hoctet : dl.rxbuffer.get 0 = memory (3 + 3 * k)) :
    ∃ stored : Dl, dl.evDevice = stored.eventRead ∧ stored.out = dl.out ∧
      stored.eventHandler = { dl.eventHandler with
        events := dl.eventHandler.events.set done.length (eventAt memory k) } := by
  have hmatch : ((dl.modOd ({ · with trigger := .deviceMessage })).eventHandler.evAddr : Int) -
      (dl.modOd ({ · with trigger := .deviceMessage })).eventHandler.evCnt * 3 = 3 := by
    rw [modOd_eventHandler, h.evAddr, h.evCnt]
    omega
  have hevent : ({ dl.eventHandler.events.get done.length with
      eventCodeLsb := dl.rxbuffer.get 0 } : Event) = eventAt memory k := by
    rw [eventAt, ← h.qualifier (by decide), ← h.msb (Nat.le_refl 2), ← hoctet]
  refine ⟨(dl.modOd ({ · with trigger := .deviceMessage })).storeEvent
    fun o e => { e with eventCodeLsb := o }, ?_, rfl, ?_⟩
  · rw [evDevice_reading h hmhinfo, evHSmReadEvent2ForDeviceEventMemoryByte]
    simp only [hmatch]
  · rw [storeEvent_eventHandler, modOd_eventHandler, h.evCurrent]
    exact congrArg (fun event => { dl.eventHandler with
      events := dl.eventHandler.events.set done.length event }) hevent

/-- The last octet of a slot. -/
theorem evDevice_last {dl : Dl} {done : List ℕ} {k : ℕ}
    (h : Reading memory dl.eventHandler done k 2) (hmhinfo : dl.modeHandler.mhinfo ≠ .comlost)
    (hoctet : dl.rxbuffer.get 0 = memory (3 + 3 * k)) :
    match slotsFrom (memory 0) (k + 1) with
    | k' :: _ => Reading memory dl.evDevice.eventHandler (done ++ [k]) k' 0 ∧
      dl.evDevice.eventInds = dl.eventInds
    | [] => EventSignalled dl.evDevice.eventHandler ∧
      dl.evDevice.eventInds = dl.eventInds ++ indications memory (markedSlots (memory 0)) := by
  obtain ⟨stored, hdevice, hout, hstored⟩ := evDevice_completes h hmhinfo hoctet
  have hfront : (dl.eventHandler.events.set done.length (eventAt memory k)).slice 0
      (done ++ [k]).length = (done ++ [k]).map (eventAt memory) := by
    rw [List.length_append, List.map_append, ← h.front]
    exact dl.eventHandler.events.slice_write done.length [eventAt memory k] h.room
  rw [hdevice]
  have hslot : stored.eventHandler.evCnt < 6 := by
    rw [hstored]
    exact h.evCnt ▸ h.slot
  have hread := eventRead_of_slots hslot
  have hnow : slotsFrom stored.eventHandler.statusCode (stored.eventHandler.evCnt + 1) =
      slotsFrom (memory 0) (k + 1) := by
    rw [hstored, ← h.statusCode, ← h.evCnt]
  rw [hnow] at hread
  -- Are there marked slots behind this one?
  rcases hslots : slotsFrom (memory 0) (k + 1) with _ | ⟨k', rest⟩
  · rw [hslots] at hread
    obtain ⟨address, hread⟩ := hread
    have hmarked : markedSlots (memory 0) = done ++ [k] := by rw [h.marked, hslots]
    have hsignal := signalEvent3_out
      (stored.modEvent fun h => { h with evCurrent := 0, evCnt := 6, evAddr := address })
      (done ++ [k])
      (by rw [modEvent_eventHandler, hstored]; exact h.statusCode ▸ h.details)
      (by rw [modEvent_eventHandler, hstored]; exact h.ehcmd)
      (by rw [modEvent_eventHandler, hstored, ← hmarked]; exact h.numEntries)
      (by rw [modEvent_eventHandler, hstored]; exact hfront)
    rw [hread, hmarked]
    refine ⟨hsignal.2, eventInds_of_out ?_⟩
    rw [hsignal.1, modEvent_out, hout]
  · rw [hslots] at hread
    obtain ⟨hk', hrest⟩ := slotsFrom_eq_cons hslots
    rw [eventInds, hread.1, hout, hread.2, hstored]
    refine ⟨⟨h.state, h.ehcmd, h.statusCode, h.details, ?_, hk', h.numEntries, rfl, ?_, ?_, hfront,
      fun hi => absurd hi (by decide), fun hi => absurd hi (by decide)⟩, rfl⟩
    · rw [h.marked, hslots, hrest, List.append_assoc]
      rfl
    · show 1 + k' * 3 = 1 + 3 * k' + 0
      omega
    · rw [List.length_append]
      exact congrArg (· + 1) h.evCurrent

/-! ### Rounds -/

theorem Reading.of_elsewhere {dl dl' : Dl} {done : List ℕ} {k i : ℕ}
    (h : Reading memory dl.eventHandler done k i) (hdl : Elsewhere dl dl') :
    Reading memory dl'.eventHandler done k i := by
  obtain ⟨flag, hflag⟩ := hdl.eventHandler
  rw [hflag]
  exact ⟨h.state, h.ehcmd, h.statusCode, h.details, h.marked, h.slot, h.numEntries, h.evCnt,
    h.evAddr, h.evCurrent, h.front, h.qualifier, h.msb⟩

variable (memory) in
/-- The addresses that are left when the first `i` octets of slot `k` have been read. -/
def addressesFrom (k i : ℕ) : List ℕ :=
  (slotAddresses k).drop i ++ (slotsFrom (memory 0) (k + 1)).flatMap slotAddresses

/-- One message of the walk. -/
theorem reading_cycle {dl dl' : Dl} {done : List ℕ} {k i : ℕ} {octet : Octet}
    (h : Reading memory dl.eventHandler done k i) (hi : i ≤ 2)
    (hcycle : MessageCycle memory dl octet dl') :
    ∃ address, octet = readOctet address ∧
      ((∃ done' k' i', i' ≤ 2 ∧ Reading memory dl'.eventHandler done' k' i' ∧
          addressesFrom memory k i = address :: addressesFrom memory k' i' ∧
          dl'.eventInds = dl.eventInds) ∨
        (addressesFrom memory k i = [address] ∧ EventSignalled dl'.eventHandler ∧
          dl'.eventInds = dl.eventInds ++ indications memory (markedSlots (memory 0)))) := by
  obtain ⟨before, answered, hoctet⟩ := hcycle
  rename_i dl₁ dl₂
  have h₁ := h.of_elsewhere before
  have haddr : dl₁.eventHandler.evAddr < 32 := by
    have hslot := h.slot
    rw [h₁.evAddr]
    omega
  obtain ⟨hsent, hinds, hsame⟩ := evMaster_reading h₁.state haddr before.mhinfo before.front
  have h₂ : Reading memory dl₂.eventHandler done k i :=
    (hsame ▸ h₁ : Reading memory dl₁.evMaster.eventHandler done k i).of_elsewhere answered
  have hbefore : dl₂.eventInds = dl.eventInds :=
    answered.eventInds.trans (hinds.trans before.eventInds)
  rw [hsent, octetAddress_readOctet haddr, h₁.evAddr] at hoctet
  refine ⟨1 + 3 * k + i, by rw [hsent, h₁.evAddr], ?_⟩
  -- The third octet of a slot completes its event.
  rcases Nat.lt_or_ge i 2 with hlt | hge
  · obtain ⟨hnext, hkept⟩ := evDevice_octet h₂ hlt answered.mhinfo hoctet
    refine .inl ⟨done, k, i + 1, hlt, hnext, ?_, hkept.trans hbefore⟩
    obtain rfl | rfl : i = 0 ∨ i = 1 := by omega
    · rfl
    · rw [addressesFrom, show 1 + 3 * k + 1 = 2 + 3 * k by omega]
      rfl
  · obtain rfl : i = 2 := Nat.le_antisymm hi hge
    have hlast : 1 + 3 * k + 2 = 3 + 3 * k := by omega
    rw [hlast] at hoctet ⊢
    have hnext := evDevice_last h₂ answered.mhinfo hoctet
    rcases hslots : slotsFrom (memory 0) (k + 1) with _ | ⟨k', rest⟩
    · rw [hslots] at hnext
      refine .inr ⟨?_, hnext.1, ?_⟩
      · rw [addressesFrom, hslots]
        rfl
      · rw [hnext.2, hbefore]
    · rw [hslots] at hnext
      refine .inl ⟨done ++ [k], k', 0, Nat.zero_le 2, hnext.1, ?_, hnext.2.trans hbefore⟩
      rw [addressesFrom, hslots, (slotsFrom_eq_cons hslots).2]
      rfl

variable (memory) in
/-- What a run of messages has done of the walk over the addresses `todo`. -/
structure Walks (dl : Dl) (todo : List ℕ) (octets : List Octet) (dl' : Dl) : Prop where
  sent : octets = (todo.take octets.length).map readOctet
  reading : octets.length < todo.length →
    ¬ EventSignalled dl'.eventHandler ∧ dl'.eventInds = dl.eventInds
  signalled : octets.length = todo.length → EventSignalled dl'.eventHandler ∧
    dl'.eventInds = dl.eventInds ++ indications memory (markedSlots (memory 0))

/-- A message goes in front of a walk. -/
theorem Walks.cons {dl dl' dl'' : Dl} {address : ℕ} {todo : List ℕ} {octets : List Octet}
    (h : Walks memory dl' todo octets dl'') (hinds : dl'.eventInds = dl.eventInds) :
    Walks memory dl (address :: todo) (readOctet address :: octets) dl'' := by
  refine ⟨congrArg _ h.sent, fun hlt => ?_, fun heq => ?_⟩
  · rw [← hinds]
    exact h.reading (Nat.lt_of_succ_lt_succ hlt)
  · rw [← hinds]
    exact h.signalled (Nat.succ.inj heq)

/-- The rest of a walk. -/
theorem walks_of_reading {dl dl' : Dl} {done : List ℕ} {k i : ℕ} {octets : List Octet}
    (h : Reading memory dl.eventHandler done k i) (hi : i ≤ 2)
    (hrun : MessageCycles memory dl octets dl')
    (hlen : octets.length ≤ (addressesFrom memory k i).length) :
    Walks memory dl (addressesFrom memory k i) octets dl' := by
  induction hrun generalizing done k i with
  | nil dl =>
    have hpos : 0 < (addressesFrom memory k i).length := by
      rw [addressesFrom, List.length_append, List.length_drop]
      exact Nat.add_pos_left (Nat.sub_pos_of_lt (Nat.lt_succ_of_le hi)) _
    have hnot : ¬ EventSignalled dl.eventHandler := by
      rintro ⟨hidle, -, -⟩
      rw [h.state] at hidle
      cases hidle
    exact ⟨rfl, fun _ => ⟨hnot, rfl⟩, fun heq => absurd heq (Nat.ne_of_lt hpos)⟩
  | cons head tail ih =>
    obtain ⟨address, rfl, hnext | ⟨hlast, hsignalled, hinds⟩⟩ := reading_cycle h hi head
    · obtain ⟨done', k', i', hi', hread, htodo, hinds⟩ := hnext
      rw [htodo] at hlen ⊢
      exact (ih hread hi' (Nat.le_of_succ_le_succ hlen)).cons hinds
    · rw [hlast] at hlen ⊢
      cases tail with
      | cons head' tail' => exact absurd hlen (by simp)
      | nil => exact ⟨rfl, fun hlt => absurd hlt (Nat.lt_irrefl 1), fun _ => ⟨hsignalled, hinds⟩⟩

/-- The message that asks for the status code, and its answer. -/
theorem ready_cycle {dl dl' : Dl} {octet : Octet} (h : EventReady dl.eventHandler)
    (hdetails : statusBit (memory 0) 7 = true) {k : ℕ} {rest : List ℕ}
    (hslots : markedSlots (memory 0) = k :: rest) (hcycle : MessageCycle memory dl octet dl') :
    octet = readOctet 0 ∧ Reading memory dl'.eventHandler [] k 0 ∧
      dl'.eventInds = dl.eventInds := by
  obtain ⟨before, answered, hoctet⟩ := hcycle
  rename_i dl₁ dl₂
  obtain ⟨flag, hflag⟩ := before.eventHandler
  have h₁ : EventReady dl₁.eventHandler := by
    rw [hflag]
    exact ⟨h.state, h.ehcmd, h.confirmed⟩
  obtain ⟨hsent, hinds, hasked⟩ := evMaster_ready h₁ before.front
  obtain ⟨flag', hflag'⟩ := answered.eventHandler
  have h₂ : Asking dl₂.eventHandler := by
    rw [hflag', hasked]
    exact ⟨rfl, h₁.ehcmd, rfl, rfl, rfl⟩
  rw [hsent, octetAddress_readOctet (by decide)] at hoctet
  obtain ⟨hread, hkept⟩ := evDevice_asking h₂ answered.mhinfo hoctet hdetails hslots
  exact ⟨hsent, hread,
    hkept.trans (answered.eventInds.trans (hinds.trans before.eventInds))⟩

/-- **The event memory is read exactly.** For a status code with details that marks a slot, the
messages ask for the status code and for the octets of the marked slots, in this order; when all
of them have been answered, the events of these slots are indicated, and the next message
confirms them. The handler is then ready for the next round. -/
theorem event_memory_is_read_exactly {dl dl' : Dl} {octets : List Octet}
    (hready : EventReady dl.eventHandler) (hdetails : statusBit (memory 0) 7 = true)
    (hmarked : markedSlots (memory 0) ≠ []) (hrun : MessageCycles memory dl octets dl')
    (hlen : octets.length ≤ (eventAddresses (memory 0)).length) :
    Walks memory dl (eventAddresses (memory 0)) octets dl' ∧
      (octets.length = (eventAddresses (memory 0)).length → ∀ dl₁, Elsewhere dl' dl₁ →
        dl₁.evMaster.txbuffer.get 0 = confirmOctet ∧
          EventReady dl₁.evMaster.eventHandler) := by
  obtain ⟨k, rest, hslots⟩ := List.exists_cons_of_ne_nil hmarked
  have htodo : eventAddresses (memory 0) = 0 :: addressesFrom memory k 0 := by
    rw [eventAddresses, hslots, addressesFrom, (slotsFrom_eq_cons hslots).2]
    rfl
  have hwalks : Walks memory dl (eventAddresses (memory 0)) octets dl' := by
    rw [htodo] at hlen ⊢
    cases hrun with
    | nil =>
      have hnot : ¬ EventSignalled dl.eventHandler := by
        rintro ⟨-, -, hconf⟩
        rw [hready.confirmed] at hconf
        cases hconf
      exact ⟨rfl, fun _ => ⟨hnot, rfl⟩, fun heq => absurd heq (Nat.succ_ne_zero _).symm⟩
    | cons head tail =>
      obtain ⟨rfl, hread, hinds⟩ := ready_cycle hready hdetails hslots head
      exact (walks_of_reading hread (Nat.zero_le 2) tail
        (Nat.le_of_succ_le_succ hlen)).cons hinds
  refine ⟨hwalks, fun heq dl₁ hdl₁ => ?_⟩
  obtain ⟨flag, hflag⟩ := hdl₁.eventHandler
  have hsignalled := (hwalks.signalled heq).1
  refine evMaster_signalled ?_ hdl₁.mhinfo hdl₁.front
  rw [hflag]
  exact ⟨hsignalled.state, hsignalled.ehcmd, hsignalled.unconfirmed⟩

/-! ### Runs exist -/

/-- The layer can go on: communication lasts, and the message has its head. -/
def Connected (dl : Dl) : Prop :=
  dl.modeHandler.mhinfo ≠ .comlost ∧ 2 ≤ dl.odHandler.odoutBuffer

theorem connected_closed : EventClosed Connected where
  event _ h := h
  pdValid _ h := h
  emit _ h := h
  access _ _ h := h
  odReq rw ch a len p h := by
    obtain ⟨_, _, _, _, hframe⟩ := odReq_frame _ rw ch a len p
    rw [hframe]
    exact h

/-- A device that answers at once. -/
theorem exists_messageCycles (memory : ℕ → Octet) (n : ℕ) (dl : Dl) (h : Connected dl) :
    ∃ octets dl', octets.length = n ∧ MessageCycles memory dl octets dl' := by
  induction n generalizing dl with
  | zero => exact ⟨[], dl, rfl, .nil dl⟩
  | succ n ih =>
    have hmaster : Connected dl.evMaster := connected_closed.evHSm h
    have hanswer := Buffer.get_of_slice (dl.evMaster.rxbuffer.write 0
      [memory (octetAddress (dl.evMaster.txbuffer.get 0))])
      (dl.evMaster.rxbuffer.slice_zero_write (show 1 ≤ 64 by decide)) Nat.zero_lt_one
    have hcycle : MessageCycle memory dl (dl.evMaster.txbuffer.get 0)
        (dl.evMaster.writeRx [memory (octetAddress (dl.evMaster.txbuffer.get 0))]).evDevice :=
      ⟨⟨⟨_, rfl⟩, rfl, h.1, h.2⟩, ⟨⟨_, rfl⟩, rfl, hmaster.1, hmaster.2⟩, hanswer⟩
    obtain ⟨octets, dl', hlen, hcycles⟩ := ih (dl.evMaster.writeRx [memory
      (octetAddress (dl.evMaster.txbuffer.get 0))]).evDevice (connected_closed.evHSm hmaster)
    exact ⟨_ :: octets, dl', congrArg (· + 1) hlen, .cons hcycle hcycles⟩

/-- Slot 1 is marked, and bit 6 is set. -/
theorem second_slot_is_read : ∃ dl' : Dl,
    MessageCycles (fun address => if address = 0 then 0xC2 else UInt8.ofNat (16 * address))
      { eventHandler := { state := .idle1, ehcmd := .active } } [0xC0, 0xC4, 0xC5, 0xC6] dl' ∧
      dl'.eventInds = [.eventInd 0x5060 0x40 0] := by
  obtain ⟨octets, dl', hlen, hrun⟩ := exists_messageCycles
    (fun address => if address = 0 then 0xC2 else UInt8.ofNat (16 * address)) 4
    { eventHandler := { state := .idle1, ehcmd := .active } } ⟨by decide, by decide⟩
  obtain ⟨hwalks, -⟩ := event_memory_is_read_exactly ⟨rfl, rfl, rfl⟩ (by decide) (by decide) hrun
    (by rw [hlen]; decide)
  have hsent := hwalks.sent
  rw [hlen] at hsent
  subst hsent
  exact ⟨dl', hrun, (hwalks.signalled (by decide)).2⟩

end Dl

end IolHat
