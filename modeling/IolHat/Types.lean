import IolHat.Lib.Buffer

/-!
# The shared types of the IO-Link master stack

The enumerations and constants of `iolink_types.h` and the parts of `iolink_main.h`,
`iolink_sm.h` and `iolink.h` that more than one layer of the stack uses. Enumerations are
inductive types in the order of the source; where the program computes with the numeric value
of an enumerator (message bytes, error codes) the value is kept, as an octet or as a 16-bit
word. Lengths and counters that the C code keeps in `uint8_t` are natural numbers, narrowed by
`narrow8` at the places where the code assigns them.
-/

namespace IolHat

/-- One octet of a message, a buffer or an ISDU. -/
abbrev Octet := UInt8

/-- Assignment of a length to a `uint8_t` variable. -/
def narrow8 (n : ℕ) : ℕ := n % 256

theorem narrow8_of_lt {n : ℕ} (h : n < 256) : narrow8 n = n := Nat.mod_eq_of_lt h

theorem narrow8_lt (n : ℕ) : narrow8 n < 256 := Nat.mod_lt _ (by decide)

/-! ### Sizes -/

/-- `IOLINK_RXTX_BUFFER_SIZE`. -/
abbrev rxtxBufferSize : ℕ := 64

/-- `IOLINK_OD_MAX_SIZE`. -/
abbrev odMaxSize : ℕ := 32

/-- `IOLINK_PD_MAX_SIZE`. -/
abbrev pdMaxSize : ℕ := 32

/-- `IOLINK_ISDU_MAX_DATA_SIZE`. -/
abbrev isduMaxDataSize : ℕ := 238

/-- `IOLINK_ISDU_MAX_SIZE`: I-Service and length, extended length, check sum. -/
abbrev isduMaxSize : ℕ := isduMaxDataSize + 3

/-- `IOLINK_MAX_EVENTS`. -/
abbrev maxEvents : ℕ := 6

/-! ### Modes -/

/-- `iolink_sm_target_mode_t`. -/
inductive SmTargetMode
  | cfgcom | autocom | inactive | di | do_
  deriving DecidableEq, Repr, Inhabited

/-- `iolink_dl_mode_t`. -/
inductive DlMode
  | inactive | startup | preoperate | operate
  deriving DecidableEq, Repr, Inhabited

/-- `iolink_baudrate_t`. -/
inductive Baudrate
  | none | auto | com1 | com2 | com3
  deriving DecidableEq, Repr, Inhabited

/-- `iolink_inspectionlevel_t`. -/
inductive InspectionLevel
  | noCheck | typeComp | identical
  deriving DecidableEq, Repr, Inhabited

/-- `iolink_mhmode_t`. -/
inductive MhMode
  | inactive | com1 | com2 | com3 | comlost | estabcom | startup | preoperate | operate
  deriving DecidableEq, Repr, Inhabited

/-- `iolink_sm_portmode_t`. -/
inductive SmPortMode
  | inactive | di | do_ | comready | operate | comlost | revisionFault | compFault
  | sernumFault | cyctimeFault
  deriving DecidableEq, Repr, Inhabited

/-- `iolink_status_t`, the outcome of a data link layer service. -/
inductive Status
  | noError | parityError | framingError | overrun | noComm | stateConflict | valid | invalid
  | parameterConflict | isduTimeout | isduNotSupported | valueOutOfRange | isduChecksumError
  | isduIllegalServicePrimitive | isduAbort
  deriving DecidableEq, Repr, Inhabited

/-- `iolink_mhinfo_t`. -/
inductive MhInfo
  | none | comlost | illegalMessagetype | checksumMismatch
  deriving DecidableEq, Repr, Inhabited

/-- `iolink_controlcode_t`. -/
inductive ControlCode
  | none | valid | invalid | pdoutvalid | pdoutinvalid | devicemode
  deriving DecidableEq, Repr, Inhabited

/-- `iolink_ds_fault_t`. -/
inductive DsFault
  | none | id | size | up | down | comErr | lock
  deriving DecidableEq, Repr, Inhabited

/-- `iolink_error_t`, the return code of a service request. -/
inductive IolinkError
  | none | pdinlength | pdoutlength | odlength | addressInvalid | comchannelInvalid
  | modeInvalid | statusInvalid | controlcodeInvalid | conditionsNotCorrect | incorrectData
  | stateInvalid | outOfMemory | parameterConflict | stateConflict
  deriving DecidableEq, Repr, Inhabited

/-! ### Message octets -/

/-- `iolink_rwdirection_t`. -/
inductive RwDirection
  | read | write
  deriving DecidableEq, Repr, Inhabited

/-- The direction bit of the M-sequence control octet. -/
def RwDirection.code : RwDirection → Octet
  | .read => 0x80
  | .write => 0x00

/-- `iolink_comchannel_t`. -/
inductive ComChannel
  | process | page | diagnosis | isdu
  deriving DecidableEq, Repr, Inhabited

/-- The channel bits of the M-sequence control octet. -/
def ComChannel.code : ComChannel → Octet
  | .process => 0x00
  | .page => 0x20
  | .diagnosis => 0x40
  | .isdu => 0x60

/-- `iolink_msequencetype_t`. -/
inductive MSequenceType
  | none | type0 | type11 | type12 | type1V | type1X | type21 | type22 | type23 | type24
  | type25 | type26 | type2V | type2X
  deriving DecidableEq, Repr, Inhabited

/-- The numeric value of a message sequence type. -/
def MSequenceType.code : MSequenceType → Octet
  | .none => 0x00
  | .type0 => 0x01
  | .type11 => 0x11
  | .type12 => 0x12
  | .type1V => 0x1E
  | .type1X => 0x1F
  | .type21 => 0x21
  | .type22 => 0x22
  | .type23 => 0x23
  | .type24 => 0x24
  | .type25 => 0x25
  | .type26 => 0x26
  | .type2V => 0x2E
  | .type2X => 0x2F

/-- `IOLINK_FLOWCTRL_START`. -/
abbrev flowctrlStart : ℕ := 0x10

/-- `IOLINK_FLOWCTRL_IDLE_1`. -/
abbrev flowctrlIdle1 : ℕ := 0x11

/-- `IOLINK_FLOWCTRL_ABORT`. -/
abbrev flowctrlAbort : ℕ := 0x1F

/-! ### I-Services

The I-service is the upper nibble of the first ISDU octet, so any of the sixteen values can
arrive from a device; the named ones are those of `iservice_t`. -/

/-- `IOL_ISERVICE_MASTER_NO_SERVICE` and `IOL_ISERVICE_DEVICE_NO_SERVICE`. -/
abbrev iserviceNoService : Octet := 0x0

/-- `IOL_ISERVICE_DEVICE_WRITE_RESPONSE_NEG`. -/
abbrev iserviceWriteResponseNeg : Octet := 0x4

/-- `IOL_ISERVICE_DEVICE_WRITE_RESPONSE_POS`. -/
abbrev iserviceWriteResponsePos : Octet := 0x5

/-- `IOL_ISERVICE_DEVICE_READ_RESPONSE_NEG`. -/
abbrev iserviceReadResponseNeg : Octet := 0xC

/-- `IOL_ISERVICE_DEVICE_READ_RESPONSE_POS`. -/
abbrev iserviceReadResponsePos : Octet := 0xD

/-! ### Master commands -/

/-- `IOL_MASTERCMD_NONE`. -/
abbrev mastercmdNone : Octet := 0x00

/-- `IOL_MASTERCMD_FALLBACK`. -/
abbrev mastercmdFallback : Octet := 0x5A

/-- `IOL_MASTERCMD_MASTER_IDENT`. -/
abbrev mastercmdMasterIdent : Octet := 0x95

/-- `IOL_MASTERCMD_DEVICE_STARTUP`. -/
abbrev mastercmdDeviceStartup : Octet := 0x97

/-- `IOL_MASTERCMD_DEVICE_PD_OUT_OP`. -/
abbrev mastercmdDevicePdOutOp : Octet := 0x98

/-- `IOL_MASTERCMD_DEVICE_OPERATE`. -/
abbrev mastercmdDeviceOperate : Octet := 0x99

/-- `IOL_MASTERCMD_DEVICE_PREOP`. -/
abbrev mastercmdDevicePreop : Octet := 0x9A

/-! ### Service arguments -/

/-- `iolink_mode_vl_t`, the value list of `DL_SetMode_req`. -/
structure ModeVl where
  time : Octet
  type : MSequenceType
  pdinputlength : ℕ
  pdoutputlength : ℕ
  onreqdatalengthpermessage : ℕ
  deriving DecidableEq, Repr, Inhabited

/-- `iolink_isdu_vl_t`, the value list of `DL_ISDUTransport_req`. The `length` of the source is
the length of `data`; a `uint8_t` holds it. -/
structure IsduVl where
  index : UInt16
  subindex : Octet
  data : List Octet
  /-- The length fits the `uint8_t` that carries it. -/
  length_lt : data.length < 256
  readwrite : RwDirection
  deriving DecidableEq

/-- `iolink_smp_parameterlist_t`. -/
structure SmpParameterlist where
  portnumber : Octet := 0
  cycletime : Octet := 0
  mode : SmTargetMode := .cfgcom
  revisionid : Octet := 0
  inspectionlevel : InspectionLevel := .noCheck
  vendorid : UInt16 := 0
  deviceid : UInt32 := 0
  functionid : UInt16 := 0
  serialnumber : List Octet := List.replicate 16 0
  deriving DecidableEq, Repr, Inhabited

/-! ### The Standardized Master Interface -/

/-- `iolink_arg_block_id_t`, a 16-bit code. -/
abbrev ArgBlockId := UInt16

namespace ArgBlockId

abbrev masterident : ArgBlockId := 0x0001
abbrev pdIn : ArgBlockId := 0x1001
abbrev pdOut : ArgBlockId := 0x1002
abbrev pdInOut : ArgBlockId := 0x1003
abbrev odWr : ArgBlockId := 0x3000
abbrev odRd : ArgBlockId := 0x3001
abbrev dsData : ArgBlockId := 0x7000
abbrev devParBat : ArgBlockId := 0x7001
abbrev portInxdexList : ArgBlockId := 0x7002
abbrev portCfgList : ArgBlockId := 0x8000
abbrev portStatusList : ArgBlockId := 0x9000
abbrev devEvent : ArgBlockId := 0xA000
abbrev portEvent : ArgBlockId := 0xA001
abbrev voidBlock : ArgBlockId := 0xFFF0
abbrev jobError : ArgBlockId := 0xFFFF

end ArgBlockId

/-- `iolink_portmode_t`; any other octet is `other`. -/
inductive PortMode
  | deactive | iolMan | iolAuto | diCq | doCq | other
  deriving DecidableEq, Repr, Inhabited

/-- `iolink_validation_check_t`; any other octet is `other`. -/
inductive ValidationCheck
  | no | v10 | v11 | v11BakRestore | v11Restore | other
  deriving DecidableEq, Repr, Inhabited

/-- `iolink_iq_behavior_t`; any other octet is `other`. -/
inductive IqBehavior
  | noSupport | di | do_ | res1 | res2 | power2 | other
  deriving DecidableEq, Repr, Inhabited

/-- `portconfiglist_t`, a port configuration as the application sends it. -/
structure PortConfigList where
  portmode : PortMode := .deactive
  validationBackup : ValidationCheck := .no
  iqBehavior : IqBehavior := .noSupport
  portCycleTime : Octet := 0
  vendorid : UInt16 := 0
  deviceid : UInt32 := 0
  inBufferLen : Octet := 0
  outBufferLen : Octet := 0
  deriving DecidableEq, Repr, Inhabited

/-! ### SMI error types

`iolink_smi_errortypes_t` is a 16-bit code: beside the named values, any code a device sends in
a negative response is passed on as it is. -/

/-- `iolink_smi_errortypes_t`. -/
abbrev SmiErrorType := UInt16

namespace SmiErrorType

abbrev none : SmiErrorType := 0x0000
abbrev appDev : SmiErrorType := 0x8000
abbrev idxNotavail : SmiErrorType := 0x8011
abbrev valLenovrrun : SmiErrorType := 0x8033
abbrev comErr : SmiErrorType := 0x1000
abbrev iServiceTimeout : SmiErrorType := 0x1100
abbrev mIsduChecksum : SmiErrorType := 0x5600
abbrev mIsduIllegal : SmiErrorType := 0x5700
abbrev argblockNotSupported : SmiErrorType := 0x4001
abbrev argblockInconsistent : SmiErrorType := 0x4002
abbrev devNotAccessible : SmiErrorType := 0x4003
abbrev serviceNotSupported : SmiErrorType := 0x4004
abbrev devNotInOperate : SmiErrorType := 0x4005
abbrev argblockLengthInvalid : SmiErrorType := 0x4034
abbrev serviceTempUnavailable : SmiErrorType := 0x4036

end SmiErrorType

/-! ### Confirmations of the application layer -/

/-- `al_read_cnf`, the confirmation of a read request. -/
structure ReadCnf where
  errortype : SmiErrorType
  /-- The receive buffer of the application layer, `data_read`, or a null pointer. -/
  data : Option (Octets.Buffer Octet isduMaxSize)
  /-- `data_len`. -/
  len : ℕ
  /-- The application layer only reports lengths that fit its buffer. -/
  len_le : len ≤ isduMaxSize
  /-- There is no data when a service has been refused or abandoned. -/
  null : data = none → len = 0 ∧ errortype ≠ SmiErrorType.none

namespace ReadCnf

/-- What `data` points to; a null pointer points to nothing. -/
def buffer (c : ReadCnf) : Octets.Buffer Octet isduMaxSize := c.data.getD (Octets.Buffer.fill 0)

theorem buffer_of_some {c : ReadCnf} {data : Octets.Buffer Octet isduMaxSize}
    (h : c.data = some data) : c.buffer = data := by
  rw [buffer, h, Option.getD_some]

/-- A confirmation with a length has data. -/
theorem data_of_pos {c : ReadCnf} (h : 0 < c.len) : c.data = some c.buffer := by
  cases hdata : c.data with
  | none => exact absurd (c.null hdata).1 (Nat.ne_of_gt h)
  | some data => rw [buffer_of_some hdata]

/-- A confirmation of success has data. -/
theorem data_of_success {c : ReadCnf} (h : c.errortype = SmiErrorType.none) :
    c.data = some c.buffer := by
  cases hdata : c.data with
  | none => exact absurd h (c.null hdata).2
  | some data => rw [buffer_of_some hdata]

/-- The octets a confirmation announces. -/
def value (c : ReadCnf) : List Octet := c.buffer.slice 0 c.len

theorem length_value (c : ReadCnf) : c.value.length = c.len :=
  Octets.Buffer.length_slice _ (by simpa using c.len_le)

/-- A confirmation with a value. -/
def ofValue (octets : List Octet) (h : octets.length ≤ isduMaxSize) : ReadCnf :=
  ⟨SmiErrorType.none, some ((Octets.Buffer.fill 0).write 0 octets), octets.length, h, nofun⟩

/-- A confirmation with a value of one octet. -/
def ofOctet (a : Octet) : ReadCnf := .ofValue [a] (Nat.succ_pos 240)

/-- A confirmation with an error and no octets. -/
def ofError (errortype : SmiErrorType) : ReadCnf :=
  ⟨errortype, some (Octets.Buffer.fill 0), 0, Nat.zero_le _, nofun⟩

/-- The answer of an application layer that is busy with another service. -/
def busy : ReadCnf :=
  ⟨SmiErrorType.serviceTempUnavailable, none, 0, Nat.zero_le _, fun _ => ⟨rfl, by decide⟩⟩

end ReadCnf

end IolHat
