import IolHat.DataLink.Message

/-!
# The mode handler, the services and the thread

The upper half of `iolink_dl.c`: the mode handler (`modeHSm`), which activates and deactivates the
other handlers, the services called by System Management and by the application layer, and the
loop of the thread (`dl_main`), which reacts to the events of the physical layer, to its timer and
to the events the layer sets itself.

`DlInput` collects everything that can happen to the layer, and `Dl.step` is one such input. The
services run on other threads; one step is one call.
-/

namespace IolHat

namespace Dl

/-! ### Configuring the handlers -/

/-- `CH_Conf`. -/
def chConf (dl : Dl) (cmd : HandlerCmd) : Dl := (dl.modCmd ({ · with chcmd := cmd })).cmdHSm

/-- `OH_Conf`. -/
def ohConf (dl : Dl) (cmd : HandlerCmd) : Dl := (dl.modOd ({ · with ohcmd := cmd })).odHSm

/-- `EH_Conf`. -/
def ehConf (dl : Dl) (cmd : HandlerCmd) : Dl := (dl.modEvent ({ · with ehcmd := cmd })).evHSm

/-- `PH_Conf`. -/
def phConf (dl : Dl) (cmd : PHCmd) : Dl :=
  let dl := dl.modPd ({ · with phcmd := cmd })
  (dl.modMessage ({ · with interleave := if cmd = .interleave then .pd else .none })).pdHSm

/-- `MH_Conf`. -/
def mhConf (dl : Dl) (cmd : MHCmd) : Dl := (dl.modMessage ({ · with mhcmd := cmd })).messageHSm

/-- `set_OH_IH_EH_Conf_active`. -/
def setOhIhEhConfActive (dl : Dl) (cmd : HandlerCmd) : Dl :=
  ((dl.ohConf cmd).ihConf cmd).ehConf cmd

/-! ### The mode handler -/

/-- `iolink_dl_mode_h_sm_goto_operate`. The test of the M-sequence type is a bit test, which the
interleaved type passes as well. -/
def modeHSmGotoOperate (dl : Dl) : Dl :=
  let dl :=
    if dl.vars.mseq.code &&& MSequenceType.type2X.code ≠ 0 then dl.phConf .single
    else if dl.vars.mseq = .type11 then dl.phConf .interleave
    else dl
  let dl := dl.mhConf .operate
  (dl.modMode ({ · with state := .operate4 })).emit (.modeInd .operate)

/-- `iolink_dl_mode_h_sm_goto_idle`. -/
def modeHSmGotoIdle (dl : Dl) (mode : MhMode) : Dl :=
  let dl := ((dl.setOhIhEhConfActive .inactive).chConf .inactive).mhConf .inactive
  (dl.modMode ({ · with mhinfo := .none, state := .idle0 })).emit (.modeInd mode)

/-- `iolink_dl_mode_h_sm_goto_startup`. -/
def modeHSmGotoStartup (dl : Dl) : Dl :=
  let dl := (dl.setOhIhEhConfActive .inactive).mhConf .startup
  (dl.modMode ({ · with state := .startup2 })).emit (.modeInd .startup)

/-- `iolink_dl_mode_h_sm_idle0`. -/
def modeHSmIdle0 (dl : Dl) : Dl :=
  if dl.modeHandler.dlMode = .startup ∧ dl.pl.initSdci = true then
    dl.modMode ({ · with state := .estcom1 })
  else dl

/-- `iolink_dl_mode_h_sm_startup2`. -/
def modeHSmStartup2 (dl : Dl) : Dl :=
  if dl.modeHandler.dlMode = .preoperate then
    let dl := (dl.setOhIhEhConfActive .active).mhConf .preoperate
    (dl.modMode ({ · with state := .preoperate3 })).emit (.modeInd .preoperate)
  else if dl.modeHandler.dlMode = .operate then
    (dl.setOhIhEhConfActive .active).modeHSmGotoOperate
  else if dl.modeHandler.dlMode = .inactive then dl.modeHSmGotoIdle .inactive
  else if dl.modeHandler.mhinfo = .comlost then dl.modeHSmGotoIdle .comlost
  else dl

/-- `iolink_dl_mode_h_sm_preoperate3`. -/
def modeHSmPreoperate3 (dl : Dl) : Dl :=
  if dl.modeHandler.dlMode = .startup then (dl.chConf .inactive).modeHSmGotoStartup
  else if dl.modeHandler.dlMode = .inactive then dl.mhConf .operate
  else if dl.modeHandler.mhinfo = .comlost then dl.modeHSmGotoIdle .comlost
  else if dl.modeHandler.dlMode = .operate then dl.modeHSmGotoOperate
  else dl

/-- `iolink_dl_mode_h_sm_operate4`. -/
def modeHSmOperate4 (dl : Dl) : Dl :=
  if dl.modeHandler.dlMode = .startup then (dl.phConf .inactive).modeHSmGotoStartup
  else if dl.modeHandler.dlMode = .inactive then
    (dl.phConf .inactive).modeHSmGotoIdle .inactive
  else if dl.modeHandler.mhinfo = .comlost then
    (dl.phConf .inactive).modeHSmGotoIdle .comlost
  else dl

/-- `iolink_dl_mode_h_sm`. -/
def modeHSm (dl : Dl) : Dl :=
  match dl.modeHandler.state with
  | .idle0 => dl.modeHSmIdle0
  | .estcom1 => dl
  | .startup2 => dl.modeHSmStartup2
  | .preoperate3 => dl.modeHSmPreoperate3
  | .operate4 => dl.modeHSmOperate4

/-! ### The services of System Management -/

/-- `IOL_DIR_PARAMA_MIN_CYCL`. -/
abbrev dirParamaMinCycl : ℕ := 0x02

/-- The negative confirmation of a refused access. -/
def refuseAccess (dl : Dl) (write : Bool) (errinfo : Status) : Dl :=
  if write then dl.emit (.writeCnf errinfo) else dl.emit (.readCnf 0 errinfo)

/-- `DL_ReadWrite_req`. -/
def readWriteReq (dl : Dl) (address : ℕ) (value : Octet) (write : Bool) : IolinkError × Dl :=
  if dl.messageHandler.state ≠ .startup2 then (.stateInvalid, dl.refuseAccess write .stateConflict)
  else if address > 15 then (.addressInvalid, dl.refuseAccess write .valueOutOfRange)
  else if !write && address = dirParamaMinCycl && dl.vars.firstReadMinCycl then
    -- the physical layer has read it while it established communication
    let dl := dl.modVars ({ · with firstReadMinCycl := false })
    (.none, dl.emit (.readCnf dl.vars.cycbyte .noError))
  else
    let direction : RwDirection := if write then .write else .read
    let head := direction.code ||| ComChannel.page.code ||| UInt8.ofNat address
    let dl := dl.writeTx 0 [head, (MSequenceType.type0.code &&& 0xF0) <<< 2]
    let dl := if write then dl.writeTx 2 [value] else dl
    let dl := dl.modOd ({ · with
      odRxlen := if write then 0 else 1, odTxlen := if write then 1 else 0 })
    let dl := dl.modMessage ({ · with rwcmd := if write then .write else .read })
    (.none, dl.modObjects ({ · with mhEvent := true }))

/-- `DL_Read_req`. -/
def readReq (dl : Dl) (address : ℕ) : IolinkError × Dl := dl.readWriteReq address 0 false

/-- `DL_Write_req`. -/
def writeReq (dl : Dl) (address : ℕ) (value : Octet) : IolinkError × Dl :=
  dl.readWriteReq address value true

/-- `DL_SetMode_req`. -/
def setModeReq (dl : Dl) (mode : DlMode) (valuelist : ModeVl) : Dl :=
  let dl := dl.modMode ({ · with dlMode := mode })
  let dl := dl.modVars ({ · with mseq := valuelist.type, cycbyte := valuelist.time })
  let dl :=
    if mode ≠ .inactive then
      dl.modMessage ({ · with
        pdRxlen := valuelist.pdinputlength, pdTxlen := valuelist.pdoutputlength
        odLen := valuelist.onreqdatalengthpermessage })
    else dl
  dl.modObjects ({ · with mdhEvent := true })

/-- `DL_Write_Devicemode_req`. -/
def writeDevicemodeReq (dl : Dl) (devicemode : DlMode) : IolinkError × Dl :=
  if dl.modeHandler.state = .startup2 then
    (.stateInvalid, dl.emit (.writeDevicemodeCnf .stateConflict mastercmdNone))
  else
    let masterCommand := match devicemode with
      | .inactive => mastercmdFallback
      | .startup => mastercmdDeviceStartup
      | .preoperate => mastercmdDevicePreop
      | .operate => mastercmdDeviceOperate
    let dl := dl.modCmd ({ · with masterCommand := masterCommand, controlCode := .devicemode })
    let dl := dl.cmdHSm
    (.none,
      if dl.modeHandler.state = .preoperate3 then
        if devicemode = .inactive then dl.emit (.writeDevicemodeCnf .noError mastercmdFallback)
        else dl.modObjects ({ · with mhEvent := true })
      else dl)

/-! ### The services of the application layer -/

/-- The negative confirmation of a refused direct parameter access. -/
def refuseParam (dl : Dl) (write : Bool) (errinfo : Status) : Dl :=
  if write then dl.emit (.writeParamCnf errinfo) else dl.emit (.readParamCnf 0 errinfo)

/-- `DL_ReadWriteParam_req`. The command is stored before the request is checked. -/
def readWriteParamReq (dl : Dl) (address : UInt16) (value : Octet) (write : Bool) :
    IolinkError × Dl :=
  let dl := dl.modMessage ({ · with rwcmd := if write then .writeparam else .readparam })
  if dl.messageHandler.state ≠ .preoperate6 ∧ dl.messageHandler.state ≠ .awReply16 then
    (.stateInvalid, dl.refuseParam write .stateConflict)
  else if address > 31 then (.addressInvalid, dl.refuseParam write .valueOutOfRange)
  else
    let dl := dl.modOd ({ · with dataAddr := address.toNat })
    let dl := if write then dl.modOd ({ · with dataValue := value }) else dl
    (.none,
      if dl.modeHandler.state = .preoperate3 then dl.modObjects ({ · with mhEvent := true })
      else dl)

/-- `DL_ReadParam_req`. -/
def readParamReq (dl : Dl) (address : UInt16) : IolinkError × Dl :=
  dl.readWriteParamReq address 0 false

/-- `DL_WriteParam_req`. -/
def writeParamReq (dl : Dl) (address : UInt16) (value : Octet) : IolinkError × Dl :=
  dl.readWriteParamReq address value true

/-- `DL_Control_req`. -/
def controlReq (dl : Dl) (controlcode : ControlCode) : IolinkError × Dl :=
  if controlcode = .none ∨ controlcode = .devicemode then (.controlcodeInvalid, dl)
  else (.none, (dl.modCmd ({ · with controlCode := controlcode })).cmdHSm)

/-! ### The thread -/

/-- `IOLINK_PL_EVENT_RXRDY`: the octets the receive buffer of the physical layer holds, at most
as many as a message has. -/
def rxrdy (dl : Dl) (octets : List Octet) : Dl :=
  let len := narrow8 (dl.messageHandler.odLen + dl.messageHandler.pdRxlen + 1)
  let octets := octets.take len
  if octets.isEmpty then dl
  else
    let dl := dl.access .rxbuffer (octets.length ≤ rxtxBufferSize)
    let dl := (dl.writeRx octets).modVars ({ · with dataready := true })
    dl.messageHSm.modVars ({ · with dataready := false })

/-- `iolink_dl_handle_error`. -/
def handleError (dl : Dl) : Dl :=
  let dl := dl.getError
  let dl := if dl.vars.devdly &&& 0x80 ≠ 0 then dl.modVars ({ · with rxtimeout := true }) else dl
  let dl := if dl.vars.cqerr &&& 0x0B ≠ 0 then dl.modVars ({ · with rxerror := true }) else dl
  let dl :=
    if dl.vars.cqerr &&& 0xF0 ≠ 0 then
      if dl.vars.cqerr &&& 0xB0 ≠ 0 then dl.modVars ({ · with txerror := true })
      else dl.modVars fun v => { v with tcyclErrCnt := v.tcyclErrCnt + 1 }
    else dl
  if dl.errorReported then
    dl.messageHSm.modVars ({ · with rxtimeout := false, rxerror := false, txerror := false })
  else dl

/-- The mode indicated for a baudrate, if it is one of the three. -/
def baudrateMode (baudrate : Baudrate) : Option MhMode :=
  match baudrate with
  | .com1 => some .com1
  | .com2 => some .com2
  | .com3 => some .com3
  | _ => none

/-- `iolink_dl_wurq_recv`, with communication established. -/
def wurqEstablished (dl : Dl) : Dl :=
  let cycletime := dl.pl.cycletime
  let dl := dl.modVars ({ · with cycbyte := cycletime })
  let dl := (dl.modMode ({ · with state := .startup2 })).toMessage .awReply1
  let dl := (dl.messageHSm.chConf .active).emit (.modeInd .startup)
  let dl := match baudrateMode dl.vars.baudrate with
    | some mode => dl.emit (.modeIndBaud mode)
    | none =>
      let dl := dl.emit (.modeIndBaud .inactive)
      ((dl.modMode ({ · with state := .idle0 })).toMessage .inactive0).chConf .inactive
  dl.getError.modObjects ({ · with mhEvent := true })

/-- `iolink_dl_wurq_recv`. -/
def wurqRecv (dl : Dl) : Dl :=
  let baudrate := dl.pl.baudrate
  let dl := dl.modVars ({ · with baudrate := baudrate })
  if dl.vars.baudrate = .none then
    (dl.modMode ({ · with state := .idle0, mhinfo := .none })).emit (.modeInd .inactive)
  else dl.wurqEstablished

/-- `iolink_dl_handle_timer_timeout`. -/
def handleTimerTimeout (dl : Dl) : Dl :=
  let dl :=
    if dl.vars.timerType = .tinitcycMh then
      let dl := dl.modVars ({ · with timerElapsed := true })
      dl.messageHSm.modVars ({ · with timerElapsed := false })
    else dl
  dl.modVars ({ · with timerType := .none })

/-- `iolink_dl_reset`. Buffers, operating system objects and the log stay. -/
def reset (dl : Dl) : Dl :=
  let cycletime := dl.pl.cycletime
  let dl := (dl.modMode fun _ => {}).modMessage fun _ => {}
  let dl := ((dl.modPd fun _ => {}).modOd fun _ => {}).modCmd fun _ => {}
  let dl := (dl.modIsdu fun _ => {}).modEvent fun _ => {}
  let dl := dl.modVars fun v => { cycbyte := cycletime, mseq := .type0, tinitcyc := v.tinitcyc }
  dl.stopTimer

end Dl

/-- Everything that can happen to the data link layer of a port. -/
inductive DlInput
  /-- The answers of the physical layer and the clock from now on. -/
  | surroundings (pl : PlAnswers)
  | rxrdy (octets : List Octet)
  | rxerr
  | txerr
  | wurq
  | mdh
  | mh
  | timeout
  | setMode (mode : DlMode) (valuelist : ModeVl)
  | read (address : ℕ)
  | write (address : ℕ) (value : Octet)
  | writeDevicemode (devicemode : DlMode)
  | control (controlcode : ControlCode)
  | pdOutputUpdate (outputdata : List Octet)
  | eventConf
  | reset

namespace Dl

/-- One input. The two events the layer sets itself are taken only when they are set. -/
def step (dl : Dl) : DlInput → Dl
  | .surroundings pl => { dl with pl := pl }
  | .rxrdy octets => dl.rxrdy octets
  | .rxerr => dl.handleError
  | .txerr => dl.handleError
  | .wurq => dl.wurqRecv
  | .mdh =>
    if dl.objects.mdhEvent then (dl.modObjects ({ · with mdhEvent := false })).modeHSm else dl
  | .mh =>
    if dl.objects.mhEvent then (dl.modObjects ({ · with mhEvent := false })).messageHSm else dl
  | .timeout => (dl.modObjects ({ · with timerRunning := false })).handleTimerTimeout
  | .setMode mode valuelist => dl.setModeReq mode valuelist
  | .read address => (dl.readReq address).2
  | .write address value => (dl.writeReq address value).2
  | .writeDevicemode devicemode => (dl.writeDevicemodeReq devicemode).2
  | .control controlcode => (dl.controlReq controlcode).2
  | .pdOutputUpdate outputdata => (dl.pdOutputUpdateReq outputdata).2
  | .eventConf => dl.modEvent ({ · with eventConfirmation := true })
  | .reset => dl.reset

end Dl

/-- An input of the layer, or a service that the application layer requests. -/
inductive LinkInput
  | dl (input : DlInput)
  | isduTransport (vl : IsduVl)
  | readParam (address : UInt16)
  | writeParam (address : UInt16) (value : Octet)

/-- The lengths are those a device can have. -/
structure ModeVl.Regular (vl : ModeVl) : Prop where
  pdinputlength : vl.pdinputlength ≤ 32
  pdoutputlength : vl.pdoutputlength ≤ 32
  onreqdatalength : vl.onreqdatalengthpermessage ≤ 32

instance (vl : ModeVl) : Decidable vl.Regular :=
  decidable_of_iff (_ ∧ _ ∧ _) ⟨fun h => ⟨h.1, h.2.1, h.2.2⟩, fun h => ⟨h.1, h.2, h.3⟩⟩

/-- Every value list that the layer is given is regular. -/
def LinkInput.Regular : LinkInput → Prop
  | .dl (.setMode _ valuelist) => valuelist.Regular
  | _ => True

instance : (i : LinkInput) → Decidable i.Regular
  | .dl (.setMode _ valuelist) => inferInstanceAs (Decidable valuelist.Regular)
  | .dl (.surroundings _) | .dl (.rxrdy _) | .dl .rxerr | .dl .txerr | .dl .wurq | .dl .mdh
  | .dl .mh | .dl .timeout | .dl (.read _) | .dl (.write _ _) | .dl (.writeDevicemode _)
  | .dl (.control _) | .dl (.pdOutputUpdate _) | .dl .eventConf | .dl .reset
  | .isduTransport _ | .readParam _ | .writeParam _ _ => inferInstanceAs (Decidable True)

namespace Dl

/-- One input, of either kind. -/
def linkStep (dl : Dl) : LinkInput → Dl
  | .dl input => dl.step input
  | .isduTransport vl => (dl.isduTransportReq vl).2
  | .readParam address => (dl.readParamReq address).2
  | .writeParam address value => (dl.writeParamReq address value).2

end Dl

end IolHat
