import IolHat.DataLink.Isdu

/-!
# The on-request data handler

The on-request part of a message is shared by three handlers of `iolink_dl.c`: master commands
(`cmdHSm`), events (`evHSm`) and ISDUs (`isduHSm`). The OD handler (`odHSm`) decides for every
master message and every device message which of them is called.

* A master command is written to the page channel in one message.
* When the device raises the event flag, the event handler reads the status code and, if it has
  details, the three octets of every event slot marked in it; then it signals the events and
  confirms them.
-/

namespace IolHat

/-- A bit of a status code. -/
def statusBit (status : Octet) (k : ℕ) : Bool := status.toNat.testBit k

/-- The qualifier of an event without details: application, device, single shot, and the event
type. -/
def singleShotQualifier (type : Octet) : Octet :=
  (4 : Octet) ||| ((0 : Octet) <<< 3) ||| (type <<< 4) ||| ((1 : Octet) <<< 6)

/-- `event_info`: the code and the type of the events without details, by status code bit. -/
def eventInfo : List (UInt16 × Octet) :=
  [(0xFF80, 1), (0xFF80, 2), (0x6320, 3), (0xFF80, 3), (0xFF10, 3)]

namespace Dl

/-! ### The command handler -/

/-- `iolink_dl_cmd_h_sm`, in the state IDLE_1. -/
def cmdHSmIdle1 (dl : Dl) : Dl :=
  if dl.cmdHandler.chcmd = .inactive then dl.modCmd ({ · with state := .inactive0 })
  else match dl.cmdHandler.controlCode with
  | .pdoutvalid =>
    dl.modCmd ({ · with masterCommand := mastercmdDevicePdOutOp, state := .mastercommand2 })
  | .pdoutinvalid =>
    dl.modCmd ({ · with masterCommand := mastercmdDeviceOperate, state := .mastercommand2 })
  | .devicemode => dl.modCmd ({ · with state := .mastercommand2 })
  | _ => dl

/-- `iolink_dl_cmd_h_sm`. -/
def cmdHSm (dl : Dl) : Dl :=
  match dl.cmdHandler.state with
  | .inactive0 =>
    if dl.cmdHandler.chcmd = .active then dl.modCmd ({ · with state := .idle1 }) else dl
  | .idle1 => dl.cmdHSmIdle1
  | .mastercommand2 =>
    let dl := (dl.odReq .write .page 0 1 ⟨.txbuffer, [dl.cmdHandler.masterCommand]⟩).2
    dl.modCmd ({ · with controlCode := .none, state := .idle1 })

/-- `write_master_command`. -/
def writeMasterCommand (dl : Dl) (errorinfo : Status) : Dl :=
  let masterCommand := dl.cmdHandler.masterCommand
  let dl := dl.modCmd ({ · with masterCommand := 0 })
  if masterCommand = mastercmdDeviceOperate ∨ masterCommand = mastercmdDevicePreop ∨
      masterCommand = mastercmdFallback then
    dl.emit (.writeDevicemodeCnf errorinfo masterCommand)
  else dl

/-! ### The event handler -/

/-- The events of a status code with details, in the order of the slots that were read. -/
def signalDetails (dl : Dl) : Dl :=
  let num := dl.eventHandler.numEntries
  let dl := dl.access .events (num ≤ maxEvents)
  let dl := (List.range num).foldl (fun dl k =>
    let event := dl.eventHandler.events.get k
    dl.emit (.eventInd (event.eventCodeLsb.toUInt16 + (event.eventCodeMsb.toUInt16 <<< 8))
      event.eventQualifier (num - k - 1))) dl
  dl.modEvent ({ · with evCurrent := num })

/-- The events of a status code without details. -/
def signalNoDetails (dl : Dl) : Dl :=
  (List.range (maxEvents - 1)).foldl (fun dl k =>
    if statusBit dl.eventHandler.statusCode k then
      let dl := dl.modEvent fun h => { h with numEntries := narrow8 (h.numEntries + 255) }
      let info := eventInfo.getD k (0, 0)
      dl.emit (.eventInd info.1 (singleShotQualifier info.2) dl.eventHandler.numEntries)
    else dl) dl

/-- `iolink_dl_ev_h_sm_signal_event3`. -/
def evHSmSignalEvent3 (dl : Dl) : Dl :=
  let dl := dl.modEvent ({ · with state := .signalevent3 })
  let dl := if statusBit dl.eventHandler.statusCode 7 then dl.signalDetails else dl.signalNoDetails
  dl.modEvent ({ · with eventConfirmation := true, state := .idle1 })

/-- One round of the loop over the slots of a status code. -/
def markSlot (status : Octet) (h : EventHandler) (k : ℕ) : EventHandler :=
  if statusBit status k then
    { h with
      numEntries := narrow8 (h.numEntries + 1)
      evAddr := if h.evAddr = 0 then 1 + k * 3 else h.evAddr }
  else h

/-- `iolink_dl_ev_h_sm_read_event2_for_device_status_code`. -/
def evHSmReadEvent2ForDeviceStatusCode (dl : Dl) : Dl :=
  let status := dl.rxbuffer.get 0
  let dl := dl.modEvent ({ · with statusCode := status })
  if statusBit status 7 then
    let dl := dl.modEvent fun h => (List.range maxEvents).foldl (markSlot status) h
    dl.modEvent fun h => { h with evCnt := (h.evAddr - 1) / 3 }
  else
    let dl := dl.modPd ({ · with pdValid := !statusBit status 6 })
    let dl := dl.modEvent fun h => (List.range (maxEvents - 1)).foldl (fun h k =>
      if statusBit status k then { h with numEntries := narrow8 (h.numEntries + 1) } else h) h
    dl.evHSmSignalEvent3

/-- The loop that looks for the next slot, with the number of rounds left. -/
def nextSlot (status : Octet) : ℕ → EventHandler → EventHandler
  | 0, h => h
  | n + 1, h =>
    let h := { h with evCnt := h.evCnt + 1 }
    if statusBit status h.evCnt then { h with evAddr := 1 + h.evCnt * 3 }
    else nextSlot status n h

/-- The current event is complete. -/
def eventRead (dl : Dl) : Dl :=
  let dl := dl.modEvent fun h => { h with evCurrent := h.evCurrent + 1 }
  let dl := dl.modEvent fun h => nextSlot h.statusCode (maxEvents - h.evCnt) h
  if dl.eventHandler.evCnt ≥ maxEvents then
    (dl.modEvent ({ · with evCurrent := 0 })).evHSmSignalEvent3
  else dl

/-- Store one octet of the current event. -/
def storeEvent (dl : Dl) (f : Octet → Event → Event) : Dl :=
  let octet := dl.rxbuffer.get 0
  let dl := dl.access .events (dl.eventHandler.evCurrent < maxEvents)
  dl.modEvent fun h =>
    { h with events := h.events.set h.evCurrent (f octet (h.events.get h.evCurrent)) }

/-- `iolink_dl_ev_h_sm_read_event2_for_device_event_memory_byte`. -/
def evHSmReadEvent2ForDeviceEventMemoryByte (dl : Dl) : Dl :=
  let advance (dl : Dl) := dl.modEvent fun h => { h with evAddr := h.evAddr + 1 }
  match (dl.eventHandler.evAddr : Int) - dl.eventHandler.evCnt * 3 with
  | 1 => advance (dl.storeEvent fun o e => { e with eventQualifier := o })
  | 2 => advance (dl.storeEvent fun o e => { e with eventCodeMsb := o })
  | 3 => (dl.storeEvent fun o e => { e with eventCodeLsb := o }).eventRead
  | _ => dl

/-- `iolink_dl_ev_h_sm_inactive0`. -/
def evHSmInactive0 (dl : Dl) : Dl :=
  if dl.eventHandler.ehcmd = .active then dl.modEvent ({ · with state := .idle1 }) else dl

/-- `iolink_dl_ev_h_sm_idle1`, confirming the events. The octet written is the first one of
`txbuffer`, where `OD_req` has just put the M-sequence control octet. -/
def evConfirm (dl : Dl) : Dl :=
  let dl := dl.modEvent ({ · with state := .eventconfirmation4 })
  if dl.modeHandler.mhinfo = .comlost then dl.modEvent ({ · with state := .inactive0 })
  else
    let dl := (dl.odReq .write .diagnosis 0 1 ⟨.txbuffer, dl.mHeader .write .diagnosis 0⟩).2
    dl.modEvent ({ · with eventConfirmation := false, state := .idle1 })

/-- `iolink_dl_ev_h_sm_idle1`, beginning to read events. -/
def evBegin (dl : Dl) : Dl :=
  let dl := dl.modEvent
    ({ · with evAddr := 0, numEntries := 0, evCurrent := 0, events := .fill {} })
  let dl := (dl.odReq .read .diagnosis dl.eventHandler.evAddr 0 .null).2
  dl.modEvent ({ · with state := .readevent2 })

/-- `iolink_dl_ev_h_sm_idle1`. -/
def evHSmIdle1 (dl : Dl) : Dl :=
  if dl.eventHandler.ehcmd = .inactive then dl.modEvent ({ · with state := .inactive0 })
  else if dl.odHandler.trigger = .masterMessage then
    if dl.eventHandler.eventConfirmation then dl.evConfirm else dl.evBegin
  else dl

/-- `iolink_dl_ev_h_sm_read_event2`. -/
def evHSmReadEvent2 (dl : Dl) : Dl :=
  if dl.modeHandler.mhinfo = .comlost then dl.modEvent ({ · with state := .inactive0 })
  else match dl.odHandler.trigger with
  | .masterMessage => (dl.odReq .read .diagnosis dl.eventHandler.evAddr 0 .null).2
  | .deviceMessage =>
    if dl.eventHandler.evAddr = 0 then dl.evHSmReadEvent2ForDeviceStatusCode
    else dl.evHSmReadEvent2ForDeviceEventMemoryByte
  | .none => dl

/-- `iolink_dl_ev_h_sm`. -/
def evHSm (dl : Dl) : Dl :=
  match dl.eventHandler.state with
  | .inactive0 => dl.evHSmInactive0
  | .idle1 => dl.evHSmIdle1
  | .readevent2 => dl.evHSmReadEvent2
  | .signalevent3 | .eventconfirmation4 => dl

/-! ### The OD handler -/

/-- `iolink_dl_od_h_sm_inactive0`. -/
def odHSmInactive0 (dl : Dl) : Dl :=
  if dl.odHandler.ohcmd = .active then dl.modOd ({ · with state := .isdu1 }) else dl

/-- `iolink_dl_od_h_sm_isdu1`. -/
def odHSmIsdu1 (dl : Dl) : Dl :=
  if dl.odHandler.ohcmd = .inactive then dl.modOd ({ · with state := .inactive0 })
  else if dl.cmdHandler.controlCode ≠ .none ∧ dl.odHandler.trigger = .masterMessage then
    dl.cmdHSm.modOd ({ · with state := .command2 })
  else if dl.eventHandler.eventFlag then
    -- the message still belongs to the ISDU handler; the trigger is left standing
    dl.isduHSm.modOd ({ · with state := .event3 })
  else if dl.odHandler.trigger ≠ .none then dl.isduHSm.modOd ({ · with trigger := .none })
  else dl

/-- `iolink_dl_od_h_sm_command2`. -/
def odHSmCommand2 (dl : Dl) : Dl :=
  if dl.odHandler.ohcmd = .inactive then dl.modCmd ({ · with state := .inactive0 })
  else if dl.odHandler.trigger ≠ .none then
    let dl := dl.modOd ({ · with trigger := .none })
    if dl.cmdHandler.controlCode = .none then
      let dl := dl.writeMasterCommand .noError
      if dl.eventHandler.eventFlag then dl.modOd ({ · with state := .event3 })
      else dl.modOd ({ · with state := .isdu1 })
    else dl
  else dl

/-- `iolink_dl_od_h_sm_event3`. -/
def odHSmEvent3 (dl : Dl) : Dl :=
  if dl.odHandler.ohcmd = .inactive then dl.modOd ({ · with state := .inactive0 })
  else if dl.cmdHandler.controlCode ≠ .none ∧ dl.odHandler.trigger = .masterMessage then
    dl.cmdHSm.modOd ({ · with state := .command2 })
  else if !dl.eventHandler.eventFlag then dl.modOd ({ · with state := .isdu1 })
  else if dl.odHandler.trigger ≠ .none then dl.evHSm.modOd ({ · with trigger := .none })
  else dl

/-- `iolink_dl_od_h_sm`. -/
def odHSm (dl : Dl) : Dl :=
  match dl.odHandler.state with
  | .inactive0 => dl.odHSmInactive0
  | .isdu1 => dl.odHSmIsdu1
  | .command2 => dl.odHSmCommand2
  | .event3 => dl.odHSmEvent3

end Dl

end IolHat
