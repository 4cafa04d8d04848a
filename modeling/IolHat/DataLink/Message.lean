import IolHat.DataLink.OnRequest
import IolHat.DataLink.ProcessData

/-!
# The message handler

`iolink_dl_message_h_sm` and its states: the exchange of master and device messages in STARTUP
(states 2 to 5), PREOPERATE (6 to 10) and OPERATE (12 to 17). A call of the state machine finds
the reason for the call in the flags `dataready`, `rxerror`, `txerror`, `rxtimeout` and
`timerElapsed`, which the thread sets before the call and clears after it.

With the MAX14819 the physical layer sends a message as a whole, so the states between handing
over the message and receiving the answer are passed through at once.
-/

namespace IolHat

namespace Dl

/-- `IOLINK_MAX_RETRY`. -/
abbrev maxRetry : ℕ := 2

/-- The check/stat octet has the event flag: `getCKSEvFlag`. -/
def getCKSEvFlag (dl : Dl) : Bool := dl.messageHandler.cks &&& 0x80 ≠ 0

/-- `getCKSPDIn`. -/
def getCKSPDIn (dl : Dl) : ControlCode :=
  if dl.messageHandler.cks &&& 0x40 ≠ 0 then .invalid else .valid

/-- `start_timer_initcyc`. -/
def startTimerInitcyc (dl : Dl) : Dl :=
  let dl := dl.modVars ({ · with timerElapsed := false, timerType := .tinitcycMh })
  dl.modObjects ({ · with timerRunning := true })

/-- `os_timer_stop` of the timer for the initial cycle. -/
def stopTimer (dl : Dl) : Dl := dl.modObjects ({ · with timerRunning := false })

/-- `MHInfo_ind`. -/
def mhInfoInd (dl : Dl) (mhinfo : MhInfo) : Dl :=
  (dl.modMode ({ · with mhinfo := mhinfo })).modObjects ({ · with mdhEvent := true })

/-- `EventFlag_ind`. -/
def eventFlagInd (dl : Dl) (eventflag : Bool) : Dl :=
  dl.modEvent ({ · with eventFlag := eventflag })

/-- `PDInStatus_ind`, called with `VALID` or `INVALID` only. -/
def pdInStatusInd (dl : Dl) (status : ControlCode) : Dl := dl.emit (.controlInd status)

/-- `PL_Transfer_req` of a message without process data. -/
def transferOd (dl : Dl) : Dl :=
  let rx := narrow8 (dl.odHandler.odRxlen + 1)
  let tx := narrow8 (dl.odHandler.odTxlen + 2)
  (dl.access .txbuffer (tx ≤ rxtxBufferSize)).emit
    (.plTransferReq rx tx (dl.txbuffer.slice 0 tx))

/-- The lengths of a message with process data. -/
def pdMessageLengths (dl : Dl) : ℕ × ℕ :=
  (narrow8 (dl.odHandler.odRxlen + dl.pdHandler.pdRxlen + 1),
    narrow8 (dl.odHandler.odTxlen + dl.pdHandler.pdTxlen + 2))

/-- `PL_Transfer_req` of a message with process data. -/
def transferPd (dl : Dl) : Dl :=
  let len := dl.pdMessageLengths
  (dl.access .txbuffer (len.2 ≤ rxtxBufferSize)).emit
    (.plTransferReq len.1 len.2 (dl.txbuffer.slice 0 len.2))

/-- `PL_MessageDownload_req`. -/
def messageDownload (dl : Dl) : Dl :=
  let len := dl.pdMessageLengths
  (dl.access .txbuffer (len.2 ≤ rxtxBufferSize)).emit
    (.plMessageDownloadReq len.1 len.2 (dl.txbuffer.slice 0 len.2))

/-- `iolink_pl_get_error` into `cqerr` and `devdly`. -/
def getError (dl : Dl) : Dl :=
  let pl := dl.pl
  dl.modVars ({ · with cqerr := pl.cqerr, devdly := pl.devdly })

/-- An event that the state does not know: nothing but the error registers is read. -/
def unknownEvent (dl : Dl) : Dl := (dl.modVars ({ · with cqerr := 0, devdly := 0 })).getError

/-- The OD handler is called to prepare a master message. -/
def odMaster (dl : Dl) : Dl := (dl.modOd ({ · with trigger := .masterMessage })).odHSm

/-- The OD handler is called with a device message. -/
def odDevice (dl : Dl) : Dl := (dl.modOd ({ · with trigger := .deviceMessage })).odHSm

/-- The PD handler is called to prepare a master message. -/
def pdMaster (dl : Dl) : Dl := (dl.modPd ({ · with trigger := .masterMessage })).pdHSm

/-- The PD handler is called with a device message. -/
def pdDevice (dl : Dl) : Dl := (dl.modPd ({ · with trigger := .deviceMessage })).pdHSm

/-- `message_handler.state`. -/
def toMessage (dl : Dl) (state : MhSt) : Dl := dl.modMessage ({ · with state := state })

/-- The message is about to be sent for the first time. -/
def freshMessage (dl : Dl) : Dl :=
  (dl.modMessage ({ · with retry := 0 })).modVars ({ · with dataready := false })

/-! ### Lost communication -/

/-- `iolink_dl_mh_handle_com_lost`. -/
def mhHandleComLost (dl : Dl) : Dl :=
  let dl := dl.mhInfoInd .comlost
  let dl := dl.modMessage ({ · with rwcmd := .none })
  let dl := dl.emit .plDisableCycleTimer
  let dl := dl.stopTimer
  let dl := dl.modVars ({ · with
    timerType := .none, timerElapsed := false, timerTcycElapsed := false
    rxtimeout := false, rxerror := false, txerror := false })
  (dl.modMessage ({ · with retry := 0 })).toMessage .inactive0

/-! ### Establishing communication and STARTUP -/

/-- `iolink_dl_message_h_sm_inactive0`. -/
def messageHSmInactive0 (dl : Dl) : Dl := dl.emit .plDisableCycleTimer

/-- `iolink_dl_message_h_sm_await_reply1`. -/
def messageHSmAwaitReply1 (dl : Dl) : Dl :=
  if dl.vars.baudrate ≠ .none then
    let dl := dl.toMessage .startup2
    let dl := dl.emit (.readCnf dl.vars.cycbyte .noError)
    dl.modVars ({ · with tinitcyc := 0 })
  else dl.toMessage .inactive0

/-- `iolink_dl_message_h_sm_startup2`. -/
def messageHSmStartup2 (dl : Dl) : Dl :=
  if dl.messageHandler.mhcmd = .preoperate then dl.setMseqChange.toMessage .preoperate6
  else if dl.messageHandler.mhcmd = .operate then
    dl.startTimerInitcyc.setMseqChange.toMessage .operate12
  else if dl.messageHandler.rwcmd = .read ∨ dl.messageHandler.rwcmd = .write then
    let dl := dl.freshMessage
    let dl := dl.modVars fun v => { v with tinitcyc := v.tinitcyc + 1 }
    dl.transferOd.toMessage .response3
  else dl

/-- The confirmation of a direct parameter access in STARTUP. -/
def confirmStartupAccess (dl : Dl) (value : Octet) (errinfo : Status) : Dl :=
  match dl.messageHandler.rwcmd with
  | .read => (dl.modMessage ({ · with rwcmd := .none })).emit (.readCnf value errinfo)
  | .write => (dl.modMessage ({ · with rwcmd := .none })).emit (.writeCnf errinfo)
  | _ => dl

/-- A receive or transmit error is reported. -/
def errorReported (dl : Dl) : Bool := dl.vars.rxtimeout || dl.vars.rxerror || dl.vars.txerror

/-- `iolink_dl_message_h_sm_await_reply4`. -/
def messageHSmAwaitReply4 (dl : Dl) : Dl :=
  if dl.vars.dataready then
    let dl := dl.toMessage .startup2
    dl.confirmStartupAccess (dl.rxbuffer.get 0) .noError
  else if dl.errorReported then dl.startTimerInitcyc.toMessage .errorhandling5
  else dl

/-- `iolink_dl_message_h_sm_response3`. -/
def messageHSmResponse3 (dl : Dl) : Dl := (dl.toMessage .awReply4).messageHSmAwaitReply4

/-- The timer for a repetition has elapsed. -/
def repetitionDue (dl : Dl) : Bool := dl.vars.timerElapsed && dl.vars.timerType = .tinitcycMh

/-- The last message is sent again, and its answer awaited in the given state. -/
def resend (dl : Dl) (state : MhSt) : Dl :=
  let dl := dl.emit .plResend
  let dl := dl.modMessage fun h => { h with retry := h.retry + 1 }
  dl.toMessage state

/-- `iolink_dl_message_h_sm_error_handling5`. -/
def messageHSmErrorHandling5 (dl : Dl) : Dl :=
  if dl.messageHandler.retry ≥ maxRetry then
    let dl := dl.modVars ({ · with timerType := .none })
    let dl := (dl.mhInfoInd .comlost).toMessage .inactive0
    dl.confirmStartupAccess 0 .noComm
  else if dl.repetitionDue then dl.resend .awReply4
  else dl

/-! ### PREOPERATE -/

/-- There is something to be exchanged in PREOPERATE. -/
def preoperateWork (dl : Dl) : Bool :=
  dl.messageHandler.rwcmd = .readparam || dl.messageHandler.rwcmd = .writeparam ||
    dl.messageHandler.rwcmd = .isdutransport ||
    dl.cmdHandler.masterCommand = mastercmdDeviceOperate || dl.eventHandler.eventFlag

/-- `iolink_dl_message_h_sm_preoperate6`. -/
def messageHSmPreoperate6 (dl : Dl) : Dl :=
  if dl.messageHandler.mhcmd = .operate then
    dl.startTimerInitcyc.setMseqChange.toMessage .operate12
  else if dl.messageHandler.mhcmd = .startup then dl.setMseqChange.toMessage .startup2
  else if dl.messageHandler.mhcmd = .inactive then
    (dl.mhInfoInd .comlost).transferOd.toMessage .inactive0
  else if dl.preoperateWork then
    let dl := dl.modMessage ({ · with retry := 0 })
    let dl := dl.modOd ({ · with trigger := .masterMessage })
    (dl.toMessage .getod7).startTimerInitcyc
  else dl

/-- `iolink_dl_message_h_sm_get_od7`. -/
def messageHSmGetOd7 (dl : Dl) : Dl := dl.odHSm.freshMessage.transferOd.toMessage .response8

/-- `iolink_dl_message_h_sm_await_reply9`, with a device message. -/
def awaitReply9Received (dl : Dl) : Dl :=
  let dl := dl.modOd ({ · with trigger := .deviceMessage })
  let dl := (dl.eventFlagInd dl.getCKSEvFlag).odHSm
  if dl.isduHandler.state = .idle1 then
    if dl.messageHandler.mhcmd = .operate then dl.startTimerInitcyc.toMessage .awReply16
    else if !dl.eventHandler.eventFlag then dl.stopTimer.toMessage .preoperate6
    else dl
  else
    (dl.startTimerInitcyc.modOd ({ · with trigger := .masterMessage })).toMessage .getod7

/-- `iolink_dl_message_h_sm_await_reply9`. -/
def messageHSmAwaitReply9 (dl : Dl) : Dl :=
  if dl.vars.dataready then dl.awaitReply9Received
  else if dl.errorReported then dl.startTimerInitcyc.toMessage .errorhandling10
  else dl.unknownEvent

/-- `iolink_dl_message_h_sm_response8`. -/
def messageHSmResponse8 (dl : Dl) : Dl := dl.messageHSmAwaitReply9

/-- The negative confirmation of the pending access after the last repetition. -/
def confirmPreoperateAccess (dl : Dl) : Dl :=
  match dl.messageHandler.rwcmd with
  | .read => dl.emit (.readCnf 0 .noComm)
  | .write => dl.emit (.writeCnf .noComm)
  | .readparam => dl.emit (.readParamCnf 0 .noComm)
  | .writeparam => dl.emit (.writeParamCnf .noComm)
  | _ => dl

/-- `iolink_dl_message_h_sm_error_handling10`. -/
def messageHSmErrorHandling10 (dl : Dl) : Dl :=
  if dl.messageHandler.retry ≥ maxRetry then
    (dl.writeMasterCommand .noComm).confirmPreoperateAccess.mhHandleComLost
  else if dl.repetitionDue then dl.resend .awReply9
  else dl

/-! ### OPERATE -/

/-- `iolink_dl_message_h_sm_get_od14`. -/
def messageHSmGetOd14 (dl : Dl) : Dl :=
  let dl := if dl.messageHandler.interleave = .none then dl.odHSm else dl
  (dl.freshMessage.emit .plEnableCycleTimer).transferPd.toMessage .response15

/-- `iolink_dl_message_h_sm_get_pd13`. -/
def messageHSmGetPd13 (dl : Dl) : Dl :=
  let dl := dl.pdHSm
  let dl :=
    if dl.messageHandler.interleave = .none then dl.modOd ({ · with trigger := .masterMessage })
    else dl
  dl.messageHSmGetOd14

/-- `iolink_dl_message_h_sm_operate12`. -/
def messageHSmOperate12 (dl : Dl) : Dl :=
  if dl.messageHandler.mhcmd = .startup then
    (dl.emit .plDisableCycleTimer).setMseqChange.toMessage .startup2
  else if dl.messageHandler.mhcmd = .inactive then
    ((dl.mhInfoInd .comlost).emit .plDisableCycleTimer).toMessage .inactive0
  else if dl.vars.timerElapsed then
    (dl.modPd ({ · with trigger := .masterMessage })).messageHSmGetPd13
  else dl.messageHSmGetPd13

/-- `iolink_dl_message_h_sm_await_reply16`, a parameter being written: the message already
prepared is replaced. -/
def awaitReply16WriteParam (dl : Dl) : Dl :=
  dl.odMaster.freshMessage.messageDownload.toMessage .awReply9

/-- The check/stat octet of a message with process data. -/
def readCks (dl : Dl) : Dl :=
  let at_ := dl.odHandler.odRxlen + dl.pdHandler.pdRxlen
  let dl := dl.access .rxbuffer (at_ < rxtxBufferSize)
  dl.modMessage ({ · with cks := dl.rxbuffer.get at_ })

/-- The process data part of a device message. -/
def pdReceived (dl : Dl) : Dl :=
  if dl.messageHandler.interleave ≠ .od then
    let dl := dl.pdDevice
    if dl.messageHandler.interleave = .pd then dl.modMessage ({ · with interleave := .od }) else dl
  else dl

/-- The on-request part of a device message. -/
def odReceived (dl : Dl) : Dl :=
  if dl.messageHandler.interleave ≠ .pd then
    let dl := dl.odDevice
    if dl.messageHandler.interleave = .od then dl.modMessage ({ · with interleave := .pd }) else dl
  else dl

/-- `iolink_dl_message_h_sm_await_reply16`, with a device message. -/
def awaitReply16Received (dl : Dl) : Dl :=
  let dl := dl.readCks
  let dl := dl.eventFlagInd dl.getCKSEvFlag
  let dl := dl.pdInStatusInd dl.getCKSPDIn
  let dl := dl.pdReceived.odReceived
  -- the next message
  let dl := dl.pdMaster.odMaster.messageDownload
  (dl.toMessage .awReply16).modVars ({ · with dataready := false })

/-- `iolink_dl_message_h_sm_await_reply16`. -/
def messageHSmAwaitReply16 (dl : Dl) : Dl :=
  if dl.messageHandler.mhcmd = .startup then
    (dl.emit .plDisableCycleTimer).setMseqChange.toMessage .startup2
  else if dl.messageHandler.mhcmd = .inactive then
    ((dl.mhInfoInd .comlost).emit .plDisableCycleTimer).toMessage .inactive0
  else if dl.messageHandler.rwcmd = .writeparam then dl.awaitReply16WriteParam
  else if dl.vars.dataready then dl.awaitReply16Received
  else if dl.errorReported then dl.mhHandleComLost
  else dl.unknownEvent

/-- `iolink_dl_message_h_sm_response15`. -/
def messageHSmResponse15 (dl : Dl) : Dl := (dl.toMessage .awReply16).messageHSmAwaitReply16

/-- `iolink_dl_message_h_sm_error_handling17`, a state that no transition leads to. -/
def messageHSmErrorHandling17 (dl : Dl) : Dl :=
  if dl.messageHandler.retry ≥ maxRetry then dl.mhHandleComLost
  else if dl.vars.timerTcycElapsed then dl.resend .awReply16
  else if dl.vars.dataready then
    let dl := dl.readCks
    let dl := (dl.pdInStatusInd dl.getCKSPDIn).pdDevice
    let dl := dl.modOd ({ · with trigger := .deviceMessage })
    (dl.eventFlagInd dl.getCKSEvFlag).odHSm.toMessage .operate12
  else dl

/-- `iolink_dl_message_h_sm`. -/
def messageHSm (dl : Dl) : Dl :=
  match dl.messageHandler.state with
  | .inactive0 => dl.messageHSmInactive0
  | .awReply1 => dl.messageHSmAwaitReply1
  | .startup2 => dl.messageHSmStartup2
  | .response3 => dl.messageHSmResponse3
  | .awReply4 => dl.messageHSmAwaitReply4
  | .errorhandling5 => dl.messageHSmErrorHandling5
  | .preoperate6 => dl.messageHSmPreoperate6
  | .getod7 => dl.messageHSmGetOd7
  | .response8 => dl.messageHSmResponse8
  | .awReply9 => dl.messageHSmAwaitReply9
  | .errorhandling10 => dl.messageHSmErrorHandling10
  | .checkhandler11 => dl
  | .operate12 => dl.messageHSmOperate12
  | .getpd13 => dl.messageHSmGetPd13
  | .getod14 => dl.messageHSmGetOd14
  | .response15 => dl.messageHSmResponse15
  | .awReply16 => dl.messageHSmAwaitReply16
  | .errorhandling17 => dl.messageHSmErrorHandling17

end Dl

end IolHat
