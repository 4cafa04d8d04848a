import IolHat.Types

/-!
# The state of a port's data link layer

`Dl` is `iolink_dl_t`: the records of the seven handlers (`mode_h_t`, `message_h_t`,
`pd_handler_t`, `od_handler_t`, `command_h_t`, `isdu_h_t`, `event_h_t`), the message buffers and
the flags `dl_main` works with. What the thread exchanges with its surroundings is made part of
the same record, so that every function of the layer is a function from `Dl` to `Dl`:

* `pl` holds the answers the physical layer and the clock will give (`iolink_pl_get_baudrate`,
  `os_get_current_time_us`, …). The environment sets them before each step.
* `out` is the log, newest last, of the calls the layer makes: confirmations and indications
  posted as jobs to the layers above, and requests to the physical layer.
* `faults` is the log of accesses that left their array. In C such an access is undefined
  behaviour; the model drops the octets outside and records the array, so that a theorem can say
  that it never happens (or when it does).

The scalar fields are collected in `DlVars`, the operating system objects in `DlObjects`. The
fields that point into `txbuffer` (`pdout_buffer`,
`odout_buffer`) are offsets into it.
-/

namespace IolHat

/-! ### Handler states and commands -/

/-- `dl_mdh_st_t`. -/
inductive MdhSt
  | idle0 | estcom1 | startup2 | preoperate3 | operate4
  deriving DecidableEq, Repr, Inhabited

/-- `dl_mh_st_t`. -/
inductive MhSt
  | inactive0 | awReply1 | startup2 | response3 | awReply4 | errorhandling5 | preoperate6
  | getod7 | response8 | awReply9 | errorhandling10 | checkhandler11 | operate12 | getpd13
  | getod14 | response15 | awReply16 | errorhandling17
  deriving DecidableEq, Repr, Inhabited

/-- `dl_interleave_t`. -/
inductive Interleave
  | none | pd | od
  deriving DecidableEq, Repr, Inhabited

/-- `dl_pdh_st_t`. -/
inductive PdhSt
  | inactive0 | pdsingle1 | pdininterleave2 | pdoutinterleave3
  deriving DecidableEq, Repr, Inhabited

/-- `dl_odh_st_t`. -/
inductive OdhSt
  | inactive0 | isdu1 | command2 | event3
  deriving DecidableEq, Repr, Inhabited

/-- `dl_isduh_st_t`. -/
inductive IsduhSt
  | inactive0 | idle1 | isdurequest2 | isduwait3 | isduerror4 | isduresponse5
  deriving DecidableEq, Repr, Inhabited

/-- `dl_cmdh_st_t`. -/
inductive CmdhSt
  | inactive0 | idle1 | mastercommand2
  deriving DecidableEq, Repr, Inhabited

/-- `dl_evh_st_t`. -/
inductive EvhSt
  | inactive0 | idle1 | readevent2 | signalevent3 | eventconfirmation4
  deriving DecidableEq, Repr, Inhabited

/-- `CHCmd_t`, `OHCmd_t`, `IHCmd_t` and `EHCmd_t`, which have the same two values. -/
inductive HandlerCmd
  | inactive | active
  deriving DecidableEq, Repr, Inhabited

/-- `PHCmd_t`. -/
inductive PHCmd
  | inactive | active | single | interleave
  deriving DecidableEq, Repr, Inhabited

/-- `MHCmd_t`. -/
inductive MHCmd
  | inactive | com1 | com2 | com3 | active | startup | preoperate | operate
  deriving DecidableEq, Repr, Inhabited

/-- `MHRWCmd`, the on-request data the message handler has to transfer. -/
inductive MHRWCmd
  | none | write | read | writeparam | readparam | isdutransport | isduabort | writedevicemode
  deriving DecidableEq, Repr, Inhabited

/-- `iol_trigger_t`. -/
inductive Trigger
  | none | deviceMessage | masterMessage
  deriving DecidableEq, Repr, Inhabited

/-- `dl_timer_t`, the values in use. -/
inductive DlTimer
  | none | tinitcycMh
  deriving DecidableEq, Repr, Inhabited

/-! ### Handler records -/

/-- `mode_h_t`. -/
structure ModeHandler where
  state : MdhSt := .idle0
  dlMode : DlMode := .inactive
  mhinfo : MhInfo := .none
  deriving DecidableEq, Inhabited

/-- `message_h_t`. -/
structure MessageHandler where
  state : MhSt := .inactive0
  mhcmd : MHCmd := .inactive
  rwcmd : MHRWCmd := .none
  pdRxlen : ℕ := 0
  pdTxlen : ℕ := 0
  odLen : ℕ := 0
  cks : Octet := 0
  retry : ℕ := 0
  interleave : Interleave := .none
  deriving DecidableEq, Inhabited

/-- `pd_handler_t`. -/
structure PdHandler where
  state : PdhSt := .inactive0
  phcmd : PHCmd := .inactive
  trigger : Trigger := .none
  pdAddress : ℕ := 0
  pdRxlen : ℕ := 0
  pdTxlen : ℕ := 0
  pdoutdata : Octets.Buffer Octet pdMaxSize := .fill 0
  pdindata : Octets.Buffer Octet pdMaxSize := .fill 0
  /-- Offset of `pdout_buffer` in `txbuffer`. -/
  pdoutBuffer : ℕ := 2
  pdValid : Bool := false
  deriving DecidableEq, Inhabited

/-- `od_handler_t`. -/
structure OdHandler where
  state : OdhSt := .inactive0
  ohcmd : HandlerCmd := .inactive
  trigger : Trigger := .none
  odRxlen : ℕ := 0
  odTxlen : ℕ := 0
  dataAddr : ℕ := 0
  dataValue : Octet := 0
  /-- Offset of `odout_buffer` in `txbuffer`. -/
  odoutBuffer : ℕ := 2
  deriving DecidableEq, Inhabited

/-- `command_h_t`. -/
structure CmdHandler where
  state : CmdhSt := .inactive0
  chcmd : HandlerCmd := .inactive
  controlCode : ControlCode := .none
  masterCommand : Octet := 0
  deriving DecidableEq, Inhabited

/-- `isdu_h_t`. -/
structure IsduHandler where
  state : IsduhSt := .inactive0
  ihcmd : HandlerCmd := .inactive
  totalIsduLen : ℕ := 0
  currentIsduSeg : ℕ := 0
  totalIsduSeg : ℕ := 0
  isduData : Octets.Buffer Octet isduMaxSize := .fill 0
  isduTimer : UInt32 := 0
  dataDirRead : Bool := false
  deriving DecidableEq, Inhabited

/-- `event_t`. -/
structure Event where
  eventQualifier : Octet := 0
  eventCodeMsb : Octet := 0
  eventCodeLsb : Octet := 0
  deriving DecidableEq, Repr, Inhabited

/-- `event_h_t`. -/
structure EventHandler where
  state : EvhSt := .inactive0
  ehcmd : HandlerCmd := .inactive
  eventFlag : Bool := false
  eventConfirmation : Bool := false
  evAddr : ℕ := 0
  statusCode : Octet := 0
  numEntries : ℕ := 0
  evCnt : ℕ := 0
  evCurrent : ℕ := 0
  events : Octets.Buffer Event maxEvents := .fill {}
  deriving DecidableEq, Inhabited

/-! ### Surroundings -/

/-- The answers of the physical layer and of the clock. -/
structure PlAnswers where
  /-- `os_get_current_time_us`. -/
  now : UInt32 := 0
  /-- `iolink_pl_init_sdci`. -/
  initSdci : Bool := false
  /-- `iolink_pl_get_baudrate`. -/
  baudrate : Baudrate := .none
  /-- `iolink_pl_get_cycletime`. -/
  cycletime : Octet := 0
  /-- `iolink_pl_get_error`, first result. -/
  cqerr : Octet := 0
  /-- `iolink_pl_get_error`, second result. -/
  devdly : Octet := 0
  deriving DecidableEq, Repr, Inhabited

/-- A pointer to octets of process data that have been received, with their length. -/
inductive PdPtr
  | rxbuffer (offset length : ℕ)
  | pdindata (length : ℕ)
  deriving DecidableEq, Repr

/-- The calls the data link layer makes. -/
inductive DlCall
  | readCnf (value : Octet) (errinfo : Status)
  | writeCnf (errinfo : Status)
  | writeDevicemodeCnf (errinfo : Status) (masterCommand : Octet)
  | readParamCnf (value : Octet) (errinfo : Status)
  | writeParamCnf (errinfo : Status)
  /-- `data` is `none` for a null pointer, otherwise the octets it points to. -/
  | isduTransportCnf (data : Option (List Octet)) (length : ℕ) (qualifier : Octet)
      (errinfo : Status)
  | controlInd (controlcode : ControlCode)
  | eventInd (eventcode : UInt16) (eventQualifier : Octet) (eventsleft : ℕ)
  /-- `data` is what the pointer points to at the time of the call. -/
  | pdInputTransportInd (pdinData : PdPtr) (data : List Octet)
  | modeInd (mode : MhMode)
  | modeIndBaud (mode : MhMode)
  | plTransferReq (rxbytes txbytes : ℕ) (data : List Octet)
  | plMessageDownloadReq (rxbytes txbytes : ℕ) (data : List Octet)
  | plResend
  | plEnableCycleTimer
  | plDisableCycleTimer
  deriving DecidableEq, Repr

/-- The arrays an access can leave, and the one subtraction that can wrap around. -/
inductive Fault
  | isduData | isduLength | txbuffer | rxbuffer | pdoutdata | pdindata | events
  deriving DecidableEq, Repr

/-- The scalar fields of `iolink_dl_t`. -/
structure DlVars where
  baudrate : Baudrate := .none
  cycbyte : Octet := 0
  mseq : MSequenceType := .type0
  timerType : DlTimer := .none
  timerElapsed : Bool := false
  timerTcycElapsed : Bool := false
  dataready : Bool := false
  rxerror : Bool := false
  txerror : Bool := false
  rxtimeout : Bool := false
  firstReadMinCycl : Bool := true
  devdly : Octet := 0
  cqerr : Octet := 0
  tcyclErrCnt : UInt32 := 0
  tinitcyc : ℕ := 0
  deriving DecidableEq, Repr, Inhabited

/-- The operating system objects of the port's thread. -/
structure DlObjects where
  /-- `IOLINK_DL_EVENT_MDH` is set in `event`. -/
  mdhEvent : Bool := false
  /-- `IOLINK_DL_EVENT_MH` is set in `event`. -/
  mhEvent : Bool := false
  /-- The one-shot `timer` has been started and neither stopped nor expired. -/
  timerRunning : Bool := false
  deriving DecidableEq, Repr, Inhabited

/-- `iolink_dl_t` with its surroundings. -/
structure Dl where
  modeHandler : ModeHandler := {}
  messageHandler : MessageHandler := {}
  pdHandler : PdHandler := {}
  odHandler : OdHandler := {}
  cmdHandler : CmdHandler := {}
  isduHandler : IsduHandler := {}
  eventHandler : EventHandler := {}
  vars : DlVars := {}
  objects : DlObjects := {}
  txbuffer : Octets.Buffer Octet rxtxBufferSize := .fill 0
  rxbuffer : Octets.Buffer Octet rxtxBufferSize := .fill 0
  pl : PlAnswers := {}
  out : List DlCall := []
  faults : List Fault := []
  deriving DecidableEq, Inhabited

namespace Dl

/-! ### Updates

Every function of the layer changes `Dl` through these; `simps` provides, for each of them, what
it does to each field. -/

/-- Update `mode_handler`. -/
@[simps] def modMode (dl : Dl) (f : ModeHandler → ModeHandler) : Dl :=
  { dl with modeHandler := f dl.modeHandler }

/-- Update `message_handler`. -/
@[simps] def modMessage (dl : Dl) (f : MessageHandler → MessageHandler) : Dl :=
  { dl with messageHandler := f dl.messageHandler }

/-- Update `pd_handler`. -/
@[simps] def modPd (dl : Dl) (f : PdHandler → PdHandler) : Dl :=
  { dl with pdHandler := f dl.pdHandler }

/-- Update `od_handler`. -/
@[simps] def modOd (dl : Dl) (f : OdHandler → OdHandler) : Dl :=
  { dl with odHandler := f dl.odHandler }

/-- Update `cmd_handler`. -/
@[simps] def modCmd (dl : Dl) (f : CmdHandler → CmdHandler) : Dl :=
  { dl with cmdHandler := f dl.cmdHandler }

/-- Update `isdu_handler`. -/
@[simps] def modIsdu (dl : Dl) (f : IsduHandler → IsduHandler) : Dl :=
  { dl with isduHandler := f dl.isduHandler }

/-- Update `event_handler`. -/
@[simps] def modEvent (dl : Dl) (f : EventHandler → EventHandler) : Dl :=
  { dl with eventHandler := f dl.eventHandler }

/-- Update the scalar fields. -/
@[simps] def modVars (dl : Dl) (f : DlVars → DlVars) : Dl := { dl with vars := f dl.vars }

/-- Update the operating system objects. -/
@[simps] def modObjects (dl : Dl) (f : DlObjects → DlObjects) : Dl :=
  { dl with objects := f dl.objects }

/-- Write octets into `txbuffer`. -/
@[simps] def writeTx (dl : Dl) (off : ℕ) (octets : List Octet) : Dl :=
  { dl with txbuffer := dl.txbuffer.write off octets }

/-- Octets arrive in `rxbuffer`. -/
@[simps] def writeRx (dl : Dl) (octets : List Octet) : Dl :=
  { dl with rxbuffer := dl.rxbuffer.write 0 octets }

/-- The clock advances. -/
@[simps] def atTime (dl : Dl) (now : UInt32) : Dl := { dl with pl := { dl.pl with now := now } }

/-- Append a call to the log. -/
@[simps] def emit (dl : Dl) (c : DlCall) : Dl := { dl with out := dl.out ++ [c] }

/-- Record an access that may leave its array. -/
@[simps -isSimp] def access (dl : Dl) (f : Fault) (inside : Bool) : Dl :=
  { dl with faults := dl.faults ++ if inside then [] else [f] }

attribute [simp] access_modeHandler access_messageHandler access_pdHandler access_odHandler
  access_cmdHandler access_isduHandler access_eventHandler access_vars access_objects
  access_txbuffer access_rxbuffer access_pl access_out

theorem access_of_inside (dl : Dl) (f : Fault) {inside : Bool} (h : inside = true) :
    dl.access f inside = dl := by
  simp [access, h]

@[simp]
theorem mem_faults_access {dl : Dl} {f g : Fault} {b : Bool} :
    g ∈ (dl.access f b).faults ↔ g ∈ dl.faults ∨ b = false ∧ g = f := by
  cases b <;> simp [access]

end Dl

end IolHat
