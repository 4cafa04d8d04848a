import IolHat.Lib.Fsm
import IolHat.SystemManagement.Valuelist
import Mathlib.Tactic.Simps.Basic

/-!
# The System Management state machine

System Management (`iolink_sm.c`) starts the communication with a device. It reads the direct
parameter page octet by octet, compares it with the configuration, and takes the data link layer
through STARTUP, PREOPERATE and OPERATE; the Configuration Manager is told what has become of the
port.

The context is the record `Sm`. Every job of the layer is one `SmJob`, and `Sm.handle` is the
whole of a job; `calls` then holds the calls the layer made meanwhile, in order. No action has a
follow-up event: an event is one row of the table at most (`Sm.event_of_row`, `Sm.event_of_none`).
-/

namespace IolHat

open Octets

/-! ### States and events -/

/-- `iolink_sm_state_t`. -/
inductive SmState
  | portInactive | waitonDLPreoperate | checkSerNum | wait | smOperate | inspectionFault
  | waitonDLOperate | dido | readComParameter | checkCompV10 | checkVxy | checkComp
  | restartDevice | waitForFallback | writeMasterCycl | waitDevmodeCnf
  deriving DecidableEq, Repr, Inhabited

/-- `iolink_fsm_sm_event_t`. -/
inductive SmEvent
  | none | dlModeStartup | compOK | dlModeComlost | v10CompOK | v10CompFault | revisionFault
  | compFault | dlModePreoperate | dlModeOperate | serNumOK | serNumFault | smOperate
  | smOperateV10 | setPortConfigInactive | setPortConfigCfgcomOrAutocom | setPortConfigDiOrDo
  | cycTimeFault | cycTimeFaultV10 | v10 | notV10 | revisionOk | retryStartup | writeDone
  | cnfComlost | writeMasterCyclReq | writeMasterCyclDone
  deriving DecidableEq, Repr, Inhabited

/-- The events that `error_event` remembers. -/
inductive SmFault
  | v10CompFault | revisionFault | compFault | serNumFault | cycTimeFault | cycTimeFaultV10
  deriving DecidableEq, Repr

/-- The event of a fault. -/
def SmFault.event : SmFault → SmEvent
  | .v10CompFault => .v10CompFault
  | .revisionFault => .revisionFault
  | .compFault => .compFault
  | .serNumFault => .serNumFault
  | .cycTimeFault => .cycTimeFault
  | .cycTimeFaultV10 => .cycTimeFaultV10

/-- `iolink_pl_mode_t`. -/
inductive PlMode
  | inactive | do_ | di | sdci
  deriving DecidableEq, Repr, Inhabited

/-! ### The direct parameter page -/

/-- `IOL_DIR_PARAMA_MASTER_CMD`. -/
abbrev dirParamaMasterCmd : Octet := 0x00

/-- `IOL_DIR_PARAMA_MASTER_CYCL`. -/
abbrev dirParamaMasterCycl : Octet := 0x01

/-- `IOL_DIR_PARAMA_MIN_CYCL`. -/
abbrev dirParamaMinCycl : Octet := 0x02

/-- `IOL_DIR_PARAMA_MSEQ_CAP`. -/
abbrev dirParamaMseqCap : Octet := 0x03

/-- `IOL_DIR_PARAMA_REV_ID`. -/
abbrev dirParamaRevId : Octet := 0x04

/-- `IOL_DIR_PARAMA_PDI`. -/
abbrev dirParamaPdi : Octet := 0x05

/-- `IOL_DIR_PARAMA_PDO`. -/
abbrev dirParamaPdo : Octet := 0x06

/-- `IOL_DIR_PARAMA_VID_1`. -/
abbrev dirParamaVid1 : Octet := 0x07

/-- `IOL_DIR_PARAMA_VID_2`. -/
abbrev dirParamaVid2 : Octet := 0x08

/-- `IOL_DIR_PARAMA_DID_1`. -/
abbrev dirParamaDid1 : Octet := 0x09

/-- `IOL_DIR_PARAMA_DID_2`. -/
abbrev dirParamaDid2 : Octet := 0x0A

/-- `IOL_DIR_PARAMA_DID_3`. -/
abbrev dirParamaDid3 : Octet := 0x0B

/-- `IOL_DIR_PARAMA_FID_1`. -/
abbrev dirParamaFid1 : Octet := 0x0C

/-- `IOL_DIR_PARAMA_FID_2`. -/
abbrev dirParamaFid2 : Octet := 0x0D

/-- `IOL_DIR_PARAMA_DUMMY_WURQ`, for the first confirmation, which no request precedes. -/
abbrev dirParamaDummyWurq : Octet := 0xFF

/-- The parameters that are read from the device. -/
inductive DirParam
  | minCycl | mseqCap | revId | pdi | pdo | vid1 | vid2 | did1 | did2 | did3 | fid1 | fid2
  deriving DecidableEq, Repr

namespace DirParam

/-- The address of a parameter. -/
def addr : DirParam → Octet
  | .minCycl => dirParamaMinCycl
  | .mseqCap => dirParamaMseqCap
  | .revId => dirParamaRevId
  | .pdi => dirParamaPdi
  | .pdo => dirParamaPdo
  | .vid1 => dirParamaVid1
  | .vid2 => dirParamaVid2
  | .did1 => dirParamaDid1
  | .did2 => dirParamaDid2
  | .did3 => dirParamaDid3
  | .fid1 => dirParamaFid1
  | .fid2 => dirParamaFid2

/-- The parameters in the order of their addresses. -/
def all : List DirParam :=
  [.minCycl, .mseqCap, .revId, .pdi, .pdo, .vid1, .vid2, .did1, .did2, .did3, .fid1, .fid2]

/-- The parameter at an address. -/
def ofAddr (a : Octet) : Option DirParam := all.find? fun p => decide (p.addr = a)

theorem addr_of_ofAddr {a : Octet} {p : DirParam} (h : ofAddr a = some p) : p.addr = a :=
  of_decide_eq_true (List.find?_some h :)

end DirParam

/-- `IOL_MASTERCMD_DEVICE_IDENT`. -/
abbrev mastercmdDeviceIdent : Octet := 0x96

/-- `IOL_DIR_PARAM_REV_V10`. -/
abbrev dirParamRevV10 : Octet := 0x10

/-- `IOL_DIR_PARAM_REV_V11`. -/
abbrev dirParamRevV11 : Octet := 0x11

/-- `IOL_DEV_PARAMA_SERIAL_NUMBER`. -/
abbrev devParamaSerialNumber : UInt16 := 0x0015

/-! ### The context -/

/-- `iolink_dev_com_t`. -/
structure DevCom where
  mincycle : Octet := 0
  mseqCap : Octet := 0
  pdi : Octet := 0
  pdo : Octet := 0
  deriving DecidableEq, Repr, Inhabited

/-- The calls of the layer. -/
inductive SmCall
  | portModeInd (mode : SmPortMode)
  | plSetModeReq (mode : PlMode)
  | plSetCycletime (cycbyte : Octet)
  | dlSetModeReq (mode : DlMode) (valuelist : ModeVl)
  | dlReadReq (addr : Octet)
  | dlWriteReq (addr value : Octet)
  | dlWriteDevicemodeReq (mode : DlMode)
  | alReadReq (index : UInt16) (subindex : Octet)
  | alWriteReq (index : UInt16) (subindex : Octet) (data : List Octet)
  /-- `ds->ds_enable = false`. -/
  | dsDisable
  /-- `CC_ASSERT (0)`. -/
  | assertion
  deriving DecidableEq

/-- `iolink_sm_port_t`, with the calls made by the current job. -/
structure Sm where
  state : SmState := .portInactive
  mhMode : MhMode := .inactive
  comrate : MhMode := .inactive
  configParamlist : SmpParameterlist := {}
  realParamlist : SmpParameterlist := {}
  devCom : DevCom := {}
  dlAddr : Octet := dirParamaDummyWurq
  compRetry : Octet := 0
  /-- `error_event`; `none` is `SM_EVENT_NONE`. -/
  errorEvent : Option SmFault := none
  /-- `older_cycletime`, a static variable that all ports share. -/
  olderCycletime : Octet := 0
  calls : List SmCall := []
  deriving DecidableEq

namespace Sm

/-! ### Field updates -/

@[simps] def enter (s : SmState) (sm : Sm) : Sm := { sm with state := s }

/-- Calls, in order. -/
@[simps] def callAll (sm : Sm) (cs : List SmCall) : Sm := { sm with calls := sm.calls ++ cs }

/-- One call. -/
abbrev call (sm : Sm) (c : SmCall) : Sm := sm.callAll [c]

@[simps] def setDlAddr (sm : Sm) (addr : Octet) : Sm := { sm with dlAddr := addr }

@[simps] def setRetry (sm : Sm) (n : Octet) : Sm := { sm with compRetry := n }

@[simps] def setError (sm : Sm) (f : Option SmFault) : Sm := { sm with errorEvent := f }

@[simps] def setConfig (sm : Sm) (p : SmpParameterlist) : Sm := { sm with configParamlist := p }

@[simps] def modReal (sm : Sm) (f : SmpParameterlist → SmpParameterlist) : Sm :=
  { sm with realParamlist := f sm.realParamlist }

@[simps] def modDevCom (sm : Sm) (f : DevCom → DevCom) : Sm := { sm with devCom := f sm.devCom }

@[simps] def setComrate (sm : Sm) (mode : MhMode) : Sm := { sm with comrate := mode }

@[simps] def setMhMode (sm : Sm) (mode : MhMode) : Sm := { sm with mhMode := mode }

/-- A new job: no calls have been made yet. -/
@[simps] def newJob (sm : Sm) : Sm := { sm with calls := [] }

@[simps] def setOlder (sm : Sm) (cycletime : Octet) : Sm := { sm with olderCycletime := cycletime }

/-- `CC_ASSERT`. -/
abbrev assert (sm : Sm) (b : Bool) : Sm := sm.callAll (if b then [] else [.assertion])

/-! ### Requests to the data link layer -/

/-- `sm_DL_Read_req`. -/
def dlReadReq (sm : Sm) (addr : Octet) : Sm :=
  ((sm.setDlAddr addr).assert
    (decide (dirParamaMinCycl ≤ addr ∧ addr ≤ dirParamaFid2))).call (.dlReadReq addr)

/-- `sm_DL_Write_req`. -/
def dlWriteReq (sm : Sm) (addr value : Octet) : Sm :=
  ((sm.setDlAddr addr).assert (decide (addr ≤ dirParamaDid3))).call (.dlWriteReq addr value)

/-- `sm_DL_SetMode_req_startup`. -/
def dlSetModeReqStartup (sm : Sm) : Sm :=
  sm.call (.dlSetModeReq .startup (setValuelist 1 0 0 0 .type0))

/-- `sm_DL_SetMode_req_inactive`. -/
def dlSetModeReqInactive (sm : Sm) : Sm :=
  sm.call (.dlSetModeReq .inactive (setValuelist 0 0 0 0 .none))

/-- The value list of `sm_DL_SetMode_req_preop_op`; `none` where an assertion fails. -/
def preopOpValuelist (sm : Sm) (mode : DlMode) : Option ModeVl :=
  populateValuelist sm.devCom.mseqCap sm.realParamlist.revisionid sm.devCom.pdi sm.devCom.pdo
    sm.realParamlist.cycletime (decide (mode = .operate)) (setValuelist 1 0 0 0 .type0)

/-- `sm_DL_SetMode_req_preop_op`. -/
def dlSetModeReqPreopOp (sm : Sm) (mode : DlMode) : Sm :=
  sm.callAll (match sm.preopOpValuelist mode with
    | none => [.assertion]
    | some vl => (if vl.type = .type11 then [.dsDisable] else []) ++ [.dlSetModeReq mode vl])

/-! ### Actions -/

/-- `sm_wr_master_cycl`. -/
def wrMasterCycl (sm : Sm) : Sm :=
  sm.call (.alWriteReq dirParamaMasterCycl.toUInt16 0 [sm.realParamlist.cycletime])

/-- `sm_readcomparameter`. -/
def readcomparameter (sm : Sm) (event : SmEvent) : Sm :=
  (if event = .dlModeStartup then sm.setRetry 0 else sm).dlReadReq dirParamaMinCycl

/-- `sm_restartDevice`. -/
def restartDevice (sm : Sm) : Sm :=
  (sm.setRetry (sm.compRetry + 1)).dlWriteReq dirParamaRevId sm.configParamlist.revisionid

/-- `sm_portinactive`. -/
def portinactive (sm : Sm) (event : SmEvent) : Sm :=
  let sm := (sm.setDlAddr dirParamaDummyWurq).setError none
  match event with
  | .setPortConfigInactive => (sm.call (.portModeInd .inactive)).dlSetModeReqInactive -- T14
  | .setPortConfigCfgcomOrAutocom => (sm.call (.plSetModeReq .sdci)).dlSetModeReqStartup -- T15
  | _ => sm

/-- `sm_comlost`. -/
def comlost (sm : Sm) : Sm := sm.dlSetModeReqInactive.call (.portModeInd .comlost)

/-- `sm_inspectFault`. -/
def inspectFault (sm : Sm) : SmEvent → Sm
  | .v10CompFault => (sm.call (.portModeInd .compFault)).dlSetModeReqPreopOp .operate -- T5
  | .revisionFault => (sm.call (.portModeInd .revisionFault)).dlSetModeReqPreopOp .preoperate -- T6
  | .compFault => (sm.call (.portModeInd .compFault)).dlSetModeReqPreopOp .preoperate -- T7
  | .serNumFault => sm.call (.portModeInd .sernumFault) -- T11
  | .cycTimeFault => (sm.call (.portModeInd .cyctimeFault)).dlSetModeReqPreopOp .preoperate -- T17
  | .cycTimeFaultV10 => (sm.call (.portModeInd .cyctimeFault)).dlSetModeReqInactive -- T18
  | _ => sm

/-- `sm_smoperate_ind`. -/
def smoperateInd (sm : Sm) (event : SmEvent) : Sm :=
  if event = .dlModeOperate ∨ event = .smOperateV10 then sm.call (.portModeInd .operate) else sm

/-- `sm_dido`. -/
def didoAction (sm : Sm) : Sm :=
  let target := match sm.configParamlist.mode with
    | .di => (PlMode.di, SmPortMode.di)
    | .do_ => (PlMode.do_, SmPortMode.do_)
    | _ => (PlMode.inactive, SmPortMode.inactive)
  ((sm.call (.plSetModeReq target.1)).call (.portModeInd target.2)).dlSetModeReqInactive

/-- The actions of the transition table. -/
inductive Action
  | wrMasterCycl | checkCompV10 | readcomparameter | restartDevice | checkComp | checkVxy
  | writeMcmdPreop | fallback | portinactive | comlost | smoperateIgnore | waitonDLOp
  | inspectFault | checkSerNum | wait | writeDevmode | smoperateInd | dido | comlostIgnore
  deriving DecidableEq

/-- The action functions `sm_…`. -/
def perform : Action → Sm → SmEvent → Sm
  | .wrMasterCycl, sm, _ => sm.wrMasterCycl
  | .checkCompV10, sm, _ => sm.dlReadReq dirParamaVid1
  | .readcomparameter, sm, e => sm.readcomparameter e
  | .restartDevice, sm, _ => sm.restartDevice
  | .checkComp, sm, _ => sm.dlReadReq dirParamaVid1
  | .checkVxy, sm, _ => sm.dlWriteReq dirParamaMasterCmd mastercmdMasterIdent
  | .writeMcmdPreop, sm, _ => sm.dlWriteReq dirParamaMasterCmd mastercmdDevicePreop
  | .fallback, sm, _ => sm.call (.dlWriteDevicemodeReq .inactive)
  | .portinactive, sm, e => sm.portinactive e
  | .comlost, sm, _ => sm.comlost
  | .smoperateIgnore, sm, _ => sm
  | .waitonDLOp, sm, _ => sm.dlWriteReq dirParamaMasterCycl sm.realParamlist.cycletime
  | .inspectFault, sm, e => sm.inspectFault e
  | .checkSerNum, sm, _ => sm.call (.alReadReq devParamaSerialNumber 0)
  | .wait, sm, _ => sm.call (.portModeInd .comready)
  | .writeDevmode, sm, _ => sm.call (.dlWriteDevicemodeReq .operate)
  | .smoperateInd, sm, e => sm.smoperateInd e
  | .dido, sm, _ => sm.didoAction
  | .comlostIgnore, sm, _ => sm

/-! ### The transition table -/

/-- `iolink_sm_fsm`. -/
def transitions : SmState → List (Fsm.Transition SmState SmEvent Action)
  | .portInactive =>
    [⟨.dlModeStartup, .readComParameter, .readcomparameter⟩, -- T1
     ⟨.setPortConfigInactive, .portInactive, .portinactive⟩, -- T14
     ⟨.setPortConfigCfgcomOrAutocom, .portInactive, .portinactive⟩, -- T15
     ⟨.setPortConfigDiOrDo, .dido, .dido⟩, -- T16
     ⟨.smOperate, .portInactive, .smoperateIgnore⟩,
     ⟨.dlModeComlost, .portInactive, .comlostIgnore⟩]
  | .waitonDLPreoperate =>
    [⟨.dlModePreoperate, .checkSerNum, .checkSerNum⟩, -- T8
     ⟨.cnfComlost, .portInactive, .comlost⟩, -- T3
     ⟨.dlModeComlost, .waitonDLPreoperate, .comlostIgnore⟩]
  | .checkSerNum =>
    [⟨.serNumOK, .wait, .wait⟩, -- T10
     ⟨.serNumFault, .inspectionFault, .inspectFault⟩, -- T11
     ⟨.cnfComlost, .portInactive, .comlost⟩, -- T3
     ⟨.setPortConfigCfgcomOrAutocom, .portInactive, .portinactive⟩,
     ⟨.dlModeComlost, .checkSerNum, .comlostIgnore⟩,
     ⟨.setPortConfigInactive, .waitForFallback, .fallback⟩]
  | .wait =>
    [⟨.setPortConfigCfgcomOrAutocom, .portInactive, .portinactive⟩, -- T15
     ⟨.setPortConfigDiOrDo, .dido, .dido⟩, -- T16
     ⟨.smOperateV10, .smOperate, .smoperateInd⟩, -- T12 for v1.0
     ⟨.dlModeComlost, .portInactive, .comlost⟩, -- T3
     ⟨.writeMasterCyclReq, .writeMasterCycl, .wrMasterCycl⟩,
     ⟨.setPortConfigInactive, .waitForFallback, .fallback⟩]
  | .smOperate =>
    [⟨.dlModeComlost, .portInactive, .comlost⟩, -- T3
     ⟨.dlModeOperate, .smOperate, .smoperateInd⟩, -- T13
     ⟨.setPortConfigInactive, .waitForFallback, .fallback⟩,
     ⟨.setPortConfigCfgcomOrAutocom, .portInactive, .portinactive⟩, -- T15
     ⟨.setPortConfigDiOrDo, .dido, .dido⟩] -- T16
  | .inspectionFault =>
    [⟨.revisionFault, .inspectionFault, .inspectFault⟩, -- T6
     ⟨.compFault, .inspectionFault, .inspectFault⟩, -- T7
     ⟨.cycTimeFault, .inspectionFault, .inspectFault⟩, -- T17
     ⟨.setPortConfigInactive, .waitForFallback, .fallback⟩,
     ⟨.setPortConfigCfgcomOrAutocom, .portInactive, .portinactive⟩, -- T15
     ⟨.setPortConfigDiOrDo, .dido, .dido⟩, -- T16
     ⟨.dlModeComlost, .portInactive, .comlost⟩] -- T3
  | .waitonDLOperate =>
    [⟨.dlModeOperate, .checkSerNum, .checkSerNum⟩, -- T9
     ⟨.cnfComlost, .portInactive, .comlost⟩, -- T3
     ⟨.dlModeComlost, .portInactive, .comlost⟩] -- T3
  | .dido =>
    [⟨.setPortConfigInactive, .portInactive, .portinactive⟩, -- T14
     ⟨.setPortConfigCfgcomOrAutocom, .portInactive, .portinactive⟩, -- T15
     ⟨.setPortConfigDiOrDo, .dido, .dido⟩] -- T16
  | .readComParameter =>
    [⟨.notV10, .checkVxy, .checkVxy⟩, -- T21
     ⟨.v10, .checkCompV10, .checkCompV10⟩, -- T20
     ⟨.cnfComlost, .portInactive, .comlost⟩, -- T3
     ⟨.dlModeComlost, .readComParameter, .comlostIgnore⟩,
     ⟨.setPortConfigCfgcomOrAutocom, .portInactive, .portinactive⟩]
  | .checkCompV10 =>
    [⟨.v10CompOK, .waitonDLOperate, .waitonDLOp⟩, -- T4
     ⟨.v10CompFault, .inspectionFault, .inspectFault⟩, -- T5
     ⟨.cycTimeFaultV10, .inspectionFault, .inspectFault⟩, -- T18
     ⟨.cnfComlost, .portInactive, .comlost⟩, -- T3
     ⟨.dlModeComlost, .checkCompV10, .comlostIgnore⟩]
  | .checkVxy =>
    [⟨.revisionOk, .checkComp, .checkComp⟩, -- T22
     ⟨.retryStartup, .restartDevice, .restartDevice⟩, -- T25
     ⟨.revisionFault, .inspectionFault, .writeMcmdPreop⟩, -- T6
     ⟨.cnfComlost, .portInactive, .comlost⟩, -- T3
     ⟨.dlModeComlost, .checkVxy, .comlostIgnore⟩]
  | .checkComp =>
    [⟨.compOK, .waitonDLPreoperate, .writeMcmdPreop⟩, -- T2
     ⟨.retryStartup, .restartDevice, .restartDevice⟩, -- T23
     ⟨.compFault, .inspectionFault, .writeMcmdPreop⟩, -- T7
     ⟨.cycTimeFault, .inspectionFault, .writeMcmdPreop⟩, -- T17
     ⟨.cnfComlost, .portInactive, .comlost⟩, -- T3
     ⟨.dlModeComlost, .checkComp, .comlostIgnore⟩]
  | .restartDevice =>
    [⟨.writeDone, .readComParameter, .readcomparameter⟩, -- T24
     ⟨.cnfComlost, .restartDevice, .comlost⟩, -- T3
     ⟨.dlModeComlost, .checkComp, .comlostIgnore⟩]
  | .waitForFallback =>
    [⟨.setPortConfigInactive, .portInactive, .portinactive⟩, -- T14
     ⟨.dlModeComlost, .portInactive, .comlost⟩] -- T3
  | .writeMasterCycl =>
    [⟨.cnfComlost, .portInactive, .comlost⟩, -- T3
     ⟨.writeMasterCyclDone, .waitDevmodeCnf, .writeDevmode⟩,
     ⟨.dlModeComlost, .writeMasterCycl, .comlostIgnore⟩]
  | .waitDevmodeCnf =>
    [⟨.smOperateV10, .smOperate, .smoperateInd⟩, -- T12 for v1.0
     ⟨.smOperate, .smOperate, .smoperateInd⟩, -- T12
     ⟨.cnfComlost, .portInactive, .comlost⟩, -- T3
     ⟨.dlModeComlost, .waitDevmodeCnf, .comlostIgnore⟩]

/-- `iolink_sm_event` with its table `iolink_sm_fsm`. -/
def fsm : Fsm.Machine Sm SmState SmEvent Action where
  state := Sm.state
  enter := enter
  table := transitions
  perform a sm e := (perform a sm e, .none)
  idle := .none
  rank _ _ := 0
  state_enter _ _ := rfl
  rank_lt _ _ _ _ _ hnone := absurd rfl hnone

/-- `iolink_sm_event`. -/
def event (sm : Sm) (e : SmEvent) : Sm := fsm.drive sm e

/-- The row of the table for an event. -/
def row (sm : Sm) (e : SmEvent) : Option (Fsm.Transition SmState SmEvent Action) :=
  Fsm.lookup (transitions sm.state) e

/-- An event without a row is dropped. -/
theorem event_of_none {sm : Sm} {e : SmEvent} (h : sm.row e = none) : sm.event e = sm :=
  Fsm.Machine.drive_of_none h

/-- An event with a row is that row: its state is entered and its action performed. -/
theorem event_of_row {sm : Sm} {e : SmEvent} {t : Fsm.Transition SmState SmEvent Action}
    (h : sm.row e = some t) : sm.event e = perform t.action (sm.enter t.next) e :=
  Fsm.Machine.drive_of_row_idle h rfl

/-- No row has the event `SM_EVENT_NONE`. -/
theorem row_none (sm : Sm) : sm.row .none = none := by
  rw [row]
  cases sm.state <;> rfl

@[simp]
theorem event_none (sm : Sm) : sm.event .none = sm := event_of_none (row_none sm)

/-- What no action changes: the state that has been entered, the configuration and what is known
about the device. -/
theorem perform_frame (a : Action) (sm : Sm) (e : SmEvent) :
    (perform a sm e).state = sm.state ∧ (perform a sm e).configParamlist = sm.configParamlist ∧
      (perform a sm e).realParamlist = sm.realParamlist ∧ (perform a sm e).devCom = sm.devCom ∧
      (perform a sm e).comrate = sm.comrate := by
  cases a
  case readcomparameter =>
    rw [perform, readcomparameter]
    split_ifs <;> simp [dlReadReq]
  case smoperateInd =>
    rw [perform, smoperateInd]
    split_ifs <;> simp
  case portinactive =>
    rw [perform, portinactive.eq_def]
    dsimp only
    split <;> simp [dlSetModeReqInactive, dlSetModeReqStartup]
  case inspectFault =>
    rw [perform, inspectFault.eq_def]
    split <;> simp [dlSetModeReqInactive, dlSetModeReqPreopOp]
  all_goals simp [perform, wrMasterCycl, restartDevice, comlost, didoAction, dlReadReq, dlWriteReq,
    dlSetModeReqInactive]

@[simp]
theorem event_configParamlist (sm : Sm) (e : SmEvent) :
    (sm.event e).configParamlist = sm.configParamlist := by
  rcases hrow : sm.row e with _ | t
  · rw [event_of_none hrow]
  · rw [event_of_row hrow]
    exact (perform_frame t.action (sm.enter t.next) e).2.1

@[simp]
theorem event_realParamlist (sm : Sm) (e : SmEvent) :
    (sm.event e).realParamlist = sm.realParamlist := by
  rcases hrow : sm.row e with _ | t
  · rw [event_of_none hrow]
  · rw [event_of_row hrow]
    exact (perform_frame t.action (sm.enter t.next) e).2.2.1

/-- The state after an event: that of the row, or no change without one. -/
theorem event_state (sm : Sm) (e : SmEvent) :
    (sm.event e).state = ((sm.row e).map (·.next)).getD sm.state := by
  rcases hrow : sm.row e with _ | t
  · rw [event_of_none hrow]
    rfl
  · rw [event_of_row hrow]
    exact (perform_frame t.action (sm.enter t.next) e).1

/-! ### The comparison of a device with its configuration -/

/-- The configured cycle time is shorter than the device's. -/
def CycTimeShort (config real : SmpParameterlist) : Prop :=
  config.cycletime ≠ 0 ∧ config.cycletime < real.cycletime

instance (config real : SmpParameterlist) : Decidable (CycTimeShort config real) :=
  inferInstanceAs (Decidable (_ ∧ _))

/-- The outcome of a check is a fault, which is remembered. -/
def fault (sm : Sm) (f : SmFault) : Sm × SmEvent := (sm.setError (some f), f.event)

/-- `sm_do_check_comp_v10`. -/
def doCheckCompV10 (sm : Sm) : Sm × SmEvent :=
  let config := sm.configParamlist
  let real := sm.realParamlist
  if CycTimeShort config real then sm.fault .cycTimeFaultV10 -- T18
  else if config.inspectionlevel = .noCheck then (sm, .v10CompOK) -- T4
  else if config.vendorid = real.vendorid ∧ config.deviceid = real.deviceid then
    (sm, .v10CompOK) -- T4
  else sm.fault .v10CompFault -- T5

/-- `sm_do_check_comp`. -/
def doCheckComp (sm : Sm) : Sm × SmEvent :=
  let config := sm.configParamlist
  let real := sm.realParamlist
  if CycTimeShort config real then sm.fault .cycTimeFault -- T17
  else if config.inspectionlevel = .noCheck then (sm, .compOK) -- T2
  else if config.vendorid ≠ real.vendorid then sm.fault .compFault -- T7
  else if config.deviceid = real.deviceid then (sm, .compOK) -- T2
  else if sm.compRetry = 0 then (sm, .retryStartup) -- T23
  else sm.fault .compFault -- T7

/-- `sm_check_sernum`; it is only called after a successful read. -/
def checkSernum (sm : Sm) : Sm × SmEvent :=
  if sm.configParamlist.inspectionlevel ≠ .identical then (sm, .serNumOK) -- T10
  else if sm.configParamlist.serialnumber ≠ sm.realParamlist.serialnumber then
    sm.fault .serNumFault -- T11
  else (sm, .serNumOK) -- T10

/-! ### Confirmations of the data link layer

Every callback of a job ends with one call of `iolink_sm_event` at most. The functions from here on
return the context before this call together with its event, or with `SM_EVENT_NONE`, which no row
of the table has, if there is no call. -/

/-- `sm_DL_Read_cnf_read_com_param`. -/
def dlReadCnfReadComParam (sm : Sm) (addr : Octet) : Sm × SmEvent :=
  if addr ≠ dirParamaPdo then (sm.dlReadReq (addr + 1), .none)
  else (sm, if sm.realParamlist.revisionid = dirParamRevV10 then .v10 else .notV10)

/-- `sm_DL_Read_cnf_check_comp`. -/
def dlReadCnfCheckComp (sm : Sm) (addr : Octet) : Sm × SmEvent :=
  if addr ≠ dirParamaFid2 then (sm.dlReadReq (addr + 1), .none)
  else if sm.state = .checkCompV10 then sm.doCheckCompV10
  else sm.doCheckComp

/-- `sm_DL_Write_cnf_checkvxy`. -/
def dlWriteCnfCheckvxy (sm : Sm) : Sm × SmEvent :=
  if sm.configParamlist.revisionid = 0 ∨
      sm.configParamlist.revisionid = sm.realParamlist.revisionid then (sm, .revisionOk) -- T22
  else if sm.compRetry = 0 then (sm, .retryStartup) -- T25
  else sm.fault .revisionFault -- T6

/-- `sm_DL_Write_cnf_restart_dev`. -/
def dlWriteCnfRestartDev (sm : Sm) (addr : Octet) : Sm :=
  let deviceid := sm.configParamlist.deviceid
  if addr = dirParamaRevId then
    match sm.configParamlist.mode with
    | .cfgcom => sm.dlWriteReq dirParamaDid1 (deviceid >>> 16).toUInt8
    | .autocom => sm.dlWriteReq dirParamaMasterCmd mastercmdDeviceIdent
    | _ => sm.call .assertion
  else if addr = dirParamaDid1 then sm.dlWriteReq dirParamaDid2 (deviceid >>> 8).toUInt8
  else if addr = dirParamaDid2 then sm.dlWriteReq dirParamaDid3 deviceid.toUInt8
  else if addr = dirParamaDid3 then sm.dlWriteReq dirParamaMasterCmd mastercmdDeviceIdent
  else if addr = dirParamaMasterCmd then sm.dlReadReq dirParamaMinCycl -- dummy cycle
  else sm

/-- `sm_DL_Write_cnf_waiton_operate`. -/
def dlWriteCnfWaitonOperate (sm : Sm) (addr : Octet) : Sm :=
  if addr = dirParamaMasterCycl then sm.dlWriteReq dirParamaMasterCmd mastercmdDeviceOperate
  else if addr = dirParamaMasterCmd then sm.dlSetModeReqPreopOp .operate
  else sm

/-- The shortest cycle time of a transmission rate: `MIN_CYCL_TIME_1`, `MIN_CYCL_TIME_2_3`. -/
def minCyclTime (comrate : MhMode) : Octet := if comrate = .com1 then 92 else 80

/-- The cycle time that the confirmation of `MIN_CYCL` sets. -/
def newCycletime (sm : Sm) (value : Octet) : Octet :=
  if value < minCyclTime sm.comrate then minCyclTime sm.comrate else value

/-- The confirmation of `MIN_CYCL`. The cycle time of the driver is set unless a device of 4 ms
has been seen twice. -/
def storeMinCycl (sm : Sm) (value : Octet) : Sm :=
  let old := sm.realParamlist.cycletime
  let new := sm.newCycletime value
  (((sm.modReal ({ · with cycletime := new })).modDevCom ({ · with mincycle := value })).setOlder
    old).callAll
      (if value ≠ 40 ∨ new ≠ 80 ∨ old ≠ sm.olderCycletime then [.plSetCycletime new] else [])

/-- The octet of a parameter is stored: the first `switch` of `sm_DL_Read_cnf_cb`. -/
def storeParam (sm : Sm) (value : Octet) : DirParam → Sm
  | .minCycl => sm.storeMinCycl value
  | .mseqCap => sm.modDevCom ({ · with mseqCap := value })
  | .revId => sm.modReal ({ · with revisionid := value })
  | .pdi => sm.modDevCom ({ · with pdi := value })
  | .pdo => sm.modDevCom ({ · with pdo := value })
  | .vid1 => sm.modReal ({ · with vendorid := value.toUInt16 <<< 8 })
  | .vid2 => sm.modReal fun r => { r with vendorid := r.vendorid ||| value.toUInt16 }
  | .did1 => sm.modReal ({ · with deviceid := value.toUInt32 <<< 16 })
  | .did2 => sm.modReal fun r => { r with deviceid := r.deviceid ||| value.toUInt32 <<< 8 }
  | .did3 => sm.modReal fun r => { r with deviceid := r.deviceid ||| value.toUInt32 }
  | .fid1 => sm.modReal ({ · with functionid := value.toUInt16 <<< 8 })
  | .fid2 => sm.modReal fun r => { r with functionid := r.functionid ||| value.toUInt16 }

/-- The octet of an address is stored; the `default` of the first `switch` is an assertion. -/
def storePage (sm : Sm) (addr value : Octet) : Sm :=
  match DirParam.ofAddr addr with
  | some p => sm.storeParam value p
  | none => sm.call .assertion

/-- What follows an octet that has been stored: the second `switch` of `sm_DL_Read_cnf_cb`. -/
def afterRead (sm : Sm) (addr : Octet) : Sm × SmEvent :=
  match sm.state with
  | .readComParameter => sm.dlReadCnfReadComParam addr
  | .checkComp | .checkCompV10 => sm.dlReadCnfCheckComp addr
  | .restartDevice => (sm, .writeDone)
  | _ => (sm.call .assertion, .none)

/-- `sm_DL_Read_cnf_cb`. -/
def dlReadCnfCb (sm : Sm) (addr value : Octet) (stat : Status) : Sm × SmEvent :=
  if stat ≠ .noError then (sm, .cnfComlost)
  else if addr = dirParamaDummyWurq then (sm, .none)
  else (sm.storePage addr value).afterRead addr

/-- `sm_DL_Write_cnf_cb`. -/
def dlWriteCnfCb (sm : Sm) (addr : Octet) (stat : Status) : Sm × SmEvent :=
  if stat ≠ .noError then (sm, .cnfComlost)
  else
    match sm.state with
    | .waitonDLPreoperate => (sm.dlSetModeReqPreopOp .preoperate, .none) -- T2
    | .inspectionFault => (sm, (sm.errorEvent.map SmFault.event).getD .none)
    | .checkVxy => sm.dlWriteCnfCheckvxy
    | .restartDevice => (sm.dlWriteCnfRestartDev addr, .none)
    | .waitonDLOperate => (sm.dlWriteCnfWaitonOperate addr, .none)
    | _ => (sm.call .assertion, .none)

/-- `sm_DL_Write_Devmode_cnf`. -/
def dlWriteDevmodeCnf (sm : Sm) (errorinfo : Status) : Sm × SmEvent :=
  if errorinfo = .noError ∧ sm.state = .waitDevmodeCnf then
    (sm.dlSetModeReqPreopOp .operate,
      if sm.realParamlist.revisionid = dirParamRevV10 then .smOperateV10 else .smOperate) -- T12
  else if errorinfo = .noError ∧ sm.state = .waitForFallback then (sm, .setPortConfigInactive)
  else (sm, if sm.state = .waitDevmodeCnf then .cnfComlost else .dlModeComlost)

/-! ### Mode indications -/

/-- `sm_DL_Mode_ind_cb_inactive`. -/
def dlModeIndCbInactive (sm : Sm) (realmode : MhMode) : Sm × SmEvent :=
  match realmode with
  | .startup => (sm, .dlModeStartup) -- T1
  | .inactive =>
    if sm.configParamlist.mode = .inactive then (sm.call (.portModeInd .inactive), .none)
    else (sm.call (.portModeInd .comlost), .none) -- WURQ failed
  | _ => (sm, .none)

/-- The mode that is indicated is noted: a transmission rate in `comrate`, another mode in
`mh_mode`. -/
def noteMode (sm : Sm) (realmode : MhMode) : Sm :=
  if realmode = .com1 ∨ realmode = .com2 ∨ realmode = .com3 then sm.setComrate realmode
  else sm.setMhMode realmode

/-- The `switch` of `sm_DL_Mode_ind_cb`. -/
def modeInd (sm : Sm) (realmode : MhMode) : Sm × SmEvent :=
  if realmode = .comlost then
    match sm.state with
    | .portInactive | .dido => (sm, .none)
    | _ => (sm, .dlModeComlost)
  else
    match sm.state with
    | .portInactive => sm.dlModeIndCbInactive realmode
    | .waitonDLPreoperate => (sm, if realmode = .preoperate then .dlModePreoperate else .none)
    | .smOperate | .waitonDLOperate => (sm, if realmode = .operate then .dlModeOperate else .none)
    | .inspectionFault => (sm, .none)
    | _ => (sm, .dlModeComlost)

/-- `sm_DL_Mode_ind_cb`. -/
def dlModeIndCb (sm : Sm) (realmode : MhMode) : Sm × SmEvent :=
  (sm.noteMode realmode).modeInd realmode

/-- `DL_Mode_ind_baud`, called on the thread of the data link layer. -/
def dlModeIndBaud (sm : Sm) (realmode : MhMode) : Sm :=
  if realmode = .com1 ∨ realmode = .com2 ∨ realmode = .com3 then sm.setComrate realmode else sm

/-! ### Requests of the Configuration Manager -/

/-- `sm_operate_cb`. -/
def operateCb (sm : Sm) : Sm × SmEvent :=
  (sm, if sm.realParamlist.revisionid ≠ dirParamRevV10 ∨ sm.realParamlist.vendorid ≠ 0x014E
    then .writeMasterCyclReq else .smOperateV10)

/-- The states in which `sm_setportcfg_req_cb` looks at a configuration. -/
def allowsSetportcfg : SmState → Bool
  | .portInactive | .wait | .smOperate | .inspectionFault | .dido | .checkSerNum => true
  | _ => false

/-- The event of a configuration. -/
def setportcfgEvent : SmTargetMode → SmEvent
  | .cfgcom | .autocom => .setPortConfigCfgcomOrAutocom
  | .di | .do_ => .setPortConfigDiOrDo
  | .inactive => .setPortConfigInactive

/-- A configured serial number is kept. -/
def storeConfig (sm : Sm) (p : SmpParameterlist) : Sm :=
  sm.setConfig (if sm.configParamlist.serialnumber.headD 0 ≠ 0 then
    { p with serialnumber := sm.configParamlist.serialnumber } else p)

/-- `sm_setportcfg_req_cb`. -/
def setportcfgReqCb (sm : Sm) (p : SmpParameterlist) : Sm × SmEvent :=
  if allowsSetportcfg sm.state then (sm.storeConfig p, setportcfgEvent p.mode) else (sm, .none)

/-! ### Confirmations of the application layer -/

/-- `sm_AL_Read_cnf_cb`, for the serial number. -/
def alReadCnfCb (sm : Sm) (c : ReadCnf) : Sm × SmEvent :=
  if c.errortype = SmiErrorType.idxNotavail then
    (sm.modReal ({ · with serialnumber := List.replicate 16 0 })).checkSernum
  else if c.errortype ≠ SmiErrorType.none then
    (sm, if sm.realParamlist.revisionid = dirParamRevV11 then .cnfComlost else .dlModeComlost)
  else if 16 < c.len then (sm, .cnfComlost)
  else
    (sm.modReal ({ · with
      serialnumber := c.value ++ List.replicate (16 - c.len) 0 })).checkSernum

/-- `sm_write_cycl_cnf_cb`. -/
def writeCyclCnfCb (sm : Sm) (errortype : SmiErrorType) : Sm × SmEvent :=
  (sm, if errortype ≠ SmiErrorType.none then .cnfComlost else .writeMasterCyclDone)

end Sm

/-! ### The jobs of the layer -/

/-- The jobs of System Management. -/
inductive SmJob
  /-- `SM_SetPortConfig_req`. -/
  | setportcfg (paramlist : SmpParameterlist)
  /-- `SM_Operate`. -/
  | operate
  /-- `DL_Mode_ind`. -/
  | dlMode (realmode : MhMode)
  /-- `DL_Read_cnf`, with the address at the time it was posted. -/
  | dlReadCnf (addr value : Octet) (stat : Status)
  /-- `DL_Write_cnf`. -/
  | dlWriteCnf (addr : Octet) (stat : Status)
  /-- `DL_Write_Devicemode_cnf`. -/
  | dlWriteDevmodeCnf (errorinfo : Status)
  /-- `sm_AL_Read_cnf`. -/
  | alReadCnf (cnf : ReadCnf)
  /-- `sm_write_master_cycl_cnf`. -/
  | writeCyclCnf (errortype : SmiErrorType)

namespace Sm

/-- The callback of a job, up to its event. -/
def callback (sm : Sm) : SmJob → Sm × SmEvent
  | .setportcfg p => sm.setportcfgReqCb p
  | .operate => sm.operateCb
  | .dlMode realmode => sm.dlModeIndCb realmode
  | .dlReadCnf addr value stat => sm.dlReadCnfCb addr value stat
  | .dlWriteCnf addr stat => sm.dlWriteCnfCb addr stat
  | .dlWriteDevmodeCnf errorinfo => sm.dlWriteDevmodeCnf errorinfo
  | .alReadCnf c => sm.alReadCnfCb c
  | .writeCyclCnf errortype => sm.writeCyclCnfCb errortype

/-- The context in which a job raises its event. -/
def prepared (sm : Sm) (j : SmJob) : Sm := (sm.newJob.callback j).1

/-- The event a job raises, `SM_EVENT_NONE` if it raises none. -/
def raised (sm : Sm) (j : SmJob) : SmEvent := (sm.newJob.callback j).2

/-- One job: its callback, from an empty list of calls, and its event. -/
def handle (sm : Sm) (j : SmJob) : Sm := (sm.prepared j).event (sm.raised j)

end Sm

end IolHat
