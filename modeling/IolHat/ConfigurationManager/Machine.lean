import IolHat.Types
import IolHat.Lib.Fsm
import Mathlib.Tactic.Simps.Basic

/-!
# The Configuration Manager

The Configuration Manager (`iolink_cm.c`) takes the port configurations of the application, has
System Management start the port, Data Storage check the device, and then opens the exchange of
data. A configuration is confirmed as soon as it has been looked at, before any other layer has
heard of it.

The context is the record `Cm`; the configuration in it is one that has passed the check
(`AcceptedConfig`), so that its translation for System Management has no failing assertion. What the
layer reads of its neighbours is collected in `CmView`. Every job of the layer is one `CmJob`, and
`Cm.handle` is the callback of a job.

`DS_Change` has no caller: its event is in the table, but no job raises it.
-/

namespace IolHat

/-! ### States and events -/

/-- `iolink_cm_state_t`. -/
inductive CmState
  | checkPortMode | smStartup | dsParamManager | portFault | waitingOnOperate | portActive
  | portDIDO | portDeactivated
  deriving DecidableEq, Repr, Inhabited

/-- `iolink_fsm_cm_event_t`. -/
inductive CmEvent
  | none | iolManual | iolAutostart | smComready | smFault | dsReady | dsFault | smOperate
  | smComlost | diCq | doCq | deactivated | cfgChange | dsChange | unknown | smComlostDs
  deriving DecidableEq, Repr, Inhabited

/-! ### Port information -/

/-- `iolink_port_status_info_t`. -/
inductive PortStatusInfo
  | noDev | deactivated | portDiag | preop | op | di | do_
  deriving DecidableEq, Repr, Inhabited

/-- `iolink_transmission_rate_t`. -/
inductive TransmissionRate
  | notDetected | com1 | com2 | com3
  deriving DecidableEq, Repr, Inhabited

/-- `iolink_port_quality_info_t`, the values in use. -/
inductive PortQualityInfo
  | valid | invalid
  deriving DecidableEq, Repr, Inhabited

/-- `iolink_eventcode_t`, the codes of port events. -/
inductive Eventcode
  | none | noDev | badDid | backupInconSize | backupInconId | backupIncon | portStatusChange
  deriving DecidableEq, Repr, Inhabited

/-- `iolink_port_info_t`. -/
structure PortInfo where
  deviceid : UInt32 := 0
  vendorid : UInt16 := 0
  revisionid : Octet := 0
  cycletime : Octet := 0
  portQualityInfo : PortQualityInfo := .invalid
  portStatusInfo : PortStatusInfo := .deactivated
  transmissionRate : TransmissionRate := .notDetected
  deriving DecidableEq, Repr, Inhabited

/-! ### Configurations -/

/-- The event of a port mode: the first `switch` of `cm_check_mode`. -/
def PortMode.event : PortMode → CmEvent
  | .deactive => .deactivated -- T11
  | .diCq => .diCq -- T9
  | .doCq => .doCq -- T10
  | .iolAuto => .iolAutostart -- T2
  | .iolMan => .iolManual -- T1
  | .other => .unknown -- T16

/-- The event of a configuration: the three `switch`es of `cm_check_mode`. -/
def PortConfigList.event (cfg : PortConfigList) : CmEvent :=
  if cfg.validationBackup = .other ∨ cfg.iqBehavior = .other then .unknown
  else cfg.portmode.event

/-- A configuration that `cm_check_mode` accepts. -/
structure AcceptedConfig where
  list : PortConfigList := {}
  accepted : list.event ≠ .unknown

/-- The configuration of a port that has not been configured. -/
def AcceptedConfig.initial : AcceptedConfig := ⟨{}, CmEvent.noConfusion⟩

instance : Inhabited AcceptedConfig := ⟨.initial⟩

/-- `portmode_to_target_mode`. -/
def PortMode.targetMode : PortMode → SmTargetMode
  | .iolMan => .cfgcom
  | .iolAuto => .autocom
  | .diCq => .di
  | .doCq => .do_
  | .deactive | .other => .inactive

/-- `portconfiglist_to_parameterlist`. Neither of its assertions can fail for a configuration that
has been accepted. -/
def AcceptedConfig.parameterlist (cfg : AcceptedConfig) : SmpParameterlist :=
  { cycletime := cfg.list.portCycleTime
    vendorid := cfg.list.vendorid
    deviceid := cfg.list.deviceid
    mode := cfg.list.portmode.targetMode
    inspectionlevel := match cfg.list.validationBackup with
      | .no | .other => .noCheck
      | .v10 => .identical
      | .v11BakRestore | .v11Restore | .v11 => .typeComp
    revisionid := match cfg.list.validationBackup with
      | .no | .other => 0
      | .v10 => 0x10
      | .v11BakRestore | .v11Restore | .v11 => 0x11 }

/-- `iolink_smi_service_req_t` of the services of this layer; the configuration list is looked at
only by `SMI_PortConfiguration`. -/
structure CmRequest where
  exp : ArgBlockId
  argBlockLen : ℕ
  ref : ArgBlockId
  configlist : PortConfigList := {}
  deriving DecidableEq, Repr, Inhabited

/-! ### The context -/

/-- `arg_block_portstatuslist_t`. -/
structure PortStatusList where
  portStatusInfo : PortStatusInfo
  portQualityInfo : PortQualityInfo
  revisionId : Octet
  transmissionRate : TransmissionRate
  masterCycleTime : Octet
  vendorid : UInt16
  deviceid : UInt32
  deriving DecidableEq, Repr

/-- The arg blocks of this layer's answers. -/
inductive CmBlock
  /-- `arg_block_masterident_t`; the number of ports also decides its length. -/
  | masterident (maxNumberOfPorts : ℕ)
  | portCfgList (list : PortConfigList)
  | portStatusList (status : PortStatusList)
  deriving DecidableEq, Repr

/-- The calls of the layer. -/
inductive CmCall
  | smSetPortConfigReq (paramlist : SmpParameterlist)
  | smOperate
  | dsInit (cfg : PortConfigList)
  | dsDelete
  | dsStartup
  | odStart
  | odStop
  | pdStart
  | pdStop
  | portEvent (code : Eventcode)
  | voidblockCnf (ref : ArgBlockId)
  | joberrorInd (exp ref : ArgBlockId) (error : SmiErrorType)
  | cnf (ref : ArgBlockId) (argBlockLen : ℕ) (block : CmBlock)
  /-- `CC_ASSERT (0)`. -/
  | assertion
  deriving DecidableEq

/-- What the layer reads of its neighbours. -/
structure CmView where
  /-- `iolink_get_paramlist`. -/
  paramlist : SmpParameterlist := {}
  /-- `iolink_get_transmission_rate`. -/
  transmissionRate : TransmissionRate := .notDetected
  /-- The answer of `DS_Chk_Cfg`. -/
  dsChkCfg : Bool := false
  /-- `iolink_get_port_cnt`. -/
  portCnt : ℕ := 2
  deriving DecidableEq, Repr, Inhabited

/-- `iolink_cm_port_t`, with the port info, what the current job reads of other layers and the
calls it makes. -/
structure Cm where
  state : CmState := .portDeactivated
  smiReq : CmRequest := default
  cfgList : AcceptedConfig := .initial
  dsFault : DsFault := .none
  portInfo : PortInfo := {}
  view : CmView := {}
  calls : List CmCall := []

namespace Cm

/-! ### Field updates -/

@[simps] def enter (s : CmState) (cm : Cm) : Cm := { cm with state := s }

/-- Calls, in order. -/
@[simps] def callAll (cm : Cm) (cs : List CmCall) : Cm := { cm with calls := cm.calls ++ cs }

/-- One call. -/
abbrev call (cm : Cm) (c : CmCall) : Cm := cm.callAll [c]

@[simps] def setReq (cm : Cm) (r : CmRequest) : Cm := { cm with smiReq := r }

@[simps] def setCfgList (cm : Cm) (cfg : AcceptedConfig) : Cm := { cm with cfgList := cfg }

@[simps] def setDsFault (cm : Cm) (f : DsFault) : Cm := { cm with dsFault := f }

/-- A new job, with what it sees of the other layers. -/
@[simps] def newJob (cm : Cm) (view : CmView) : Cm := { cm with view := view, calls := [] }

@[simps] def modInfo (cm : Cm) (f : PortInfo → PortInfo) : Cm :=
  { cm with portInfo := f cm.portInfo }

/-! ### Actions -/

/-- The calls of `set_port_config`. -/
def setPortConfigCalls (cfg : AcceptedConfig) (dsInit : Bool) : List CmCall :=
  if dsInit then [.dsInit cfg.list, .smSetPortConfigReq cfg.parameterlist]
  else [.smSetPortConfigReq { cfg.parameterlist with mode := .cfgcom }]

/-- `cm_startup`. -/
def startup (cm : Cm) (event : CmEvent) : Cm :=
  cm.callAll ((if event = .iolAutostart ∨ cm.view.dsChkCfg = false then [.dsDelete] else []) ++
    setPortConfigCalls cm.cfgList true)

/-- `cm_dido`. -/
def dido (cm : Cm) (event : CmEvent) : Cm :=
  (cm.modInfo fun info =>
    { info with
      portStatusInfo := match event with
        | .diCq => .di
        | .doCq => .do_
        | _ => info.portStatusInfo
      revisionid := 0
      transmissionRate := .notDetected
      vendorid := 0
      deviceid := 0
      portQualityInfo := .invalid }).callAll (.dsDelete :: setPortConfigCalls cm.cfgList true)

/-- `cm_check_mode`. A configuration list that is accepted is stored and confirmed; any other is
refused. -/
def checkMode (cm : Cm) (event : CmEvent) : Cm × CmEvent :=
  if event = .cfgChange then
    let cfg := cm.smiReq.configlist
    (if h : cfg.event = .unknown then
      cm.callAll [.pdStop, .odStop,
        .joberrorInd cm.smiReq.exp cm.smiReq.ref SmiErrorType.argblockInconsistent]
    else
      (cm.setCfgList ⟨cfg, h⟩).callAll [.pdStop, .odStop, .voidblockCnf cm.smiReq.ref],
      cfg.event)
  else (cm, .none)

/-- `cm_comlost`. -/
def comlost (cm : Cm) (event : CmEvent) : Cm × CmEvent :=
  ((cm.modInfo ({ · with portStatusInfo := .noDev })).call (.portEvent .noDev)).checkMode event

/-- `cm_ds_change`. -/
def dsChange (cm : Cm) : Cm := cm.callAll (setPortConfigCalls cm.cfgList false)

/-- `init_port_info`. -/
def initPortInfo (cm : Cm) (status : PortStatusInfo) (quality : PortQualityInfo) : Cm :=
  cm.modInfo fun info =>
    if status = .deactivated then
      { info with
        portStatusInfo := status
        revisionid := 0
        transmissionRate := .notDetected
        vendorid := 0
        deviceid := 0
        cycletime := 0
        portQualityInfo := quality }
    else
      { info with
        portStatusInfo := status
        revisionid := cm.view.paramlist.revisionid
        transmissionRate := cm.view.transmissionRate
        vendorid := cm.view.paramlist.vendorid
        deviceid := cm.view.paramlist.deviceid
        portQualityInfo := quality
        cycletime := if status = .preop then cm.view.paramlist.cycletime else info.cycletime }

/-- `cm_start_ds`. -/
def startDs (cm : Cm) : Cm := (cm.initPortInfo .preop .invalid).call .dsStartup

/-- `cm_sm_operate`. -/
def smOperateAction (cm : Cm) : Cm :=
  (cm.initPortInfo .op .valid).callAll [.odStart, .pdStart, .portEvent .portStatusChange]

/-- The port event of a Data Storage fault. -/
def faultCode : DsFault → Eventcode
  | .id => .backupInconId
  | .size => .backupInconSize
  | .lock => .backupIncon
  | _ => .badDid

/-- `cm_port_fault`. -/
def portFault (cm : Cm) (event : CmEvent) : Cm × CmEvent :=
  match event with
  | .dsFault =>
    if cm.dsFault = .comErr then (cm, .smComlost)
    else ((cm.initPortInfo .portDiag .invalid).call (.portEvent (faultCode cm.dsFault)), .none)
  | .smFault => ((cm.initPortInfo .portDiag .invalid).call (.portEvent .badDid), .none)
  | _ => (cm.call .assertion, .none)

/-- `cm_deactivate`. -/
def deactivate (cm : Cm) (event : CmEvent) : Cm :=
  (cm.initPortInfo .deactivated .invalid).callAll
    ((if event = .unknown then [.dsDelete] else []) ++
      [.smSetPortConfigReq { mode := cm.cfgList.list.portmode.targetMode }])

/-- The actions of the transition table. -/
inductive Action
  | startup | dido | checkMode | comlost | comlostIgnore | cfgChangeIgnore | dsChange | startDs
  | dsReady | dsReadyIgnore | smOperate | portFault | deactivate
  deriving DecidableEq

/-- The action functions `cm_…`: the context after the action, and the follow-up event. -/
def perform : Action → Cm → CmEvent → Cm × CmEvent
  | .startup, cm, e => (cm.startup e, .none)
  | .dido, cm, e => (cm.dido e, .none)
  | .checkMode, cm, e => cm.checkMode e
  | .comlost, cm, e => cm.comlost e
  | .comlostIgnore, cm, _ => (cm, .none)
  | .cfgChangeIgnore, cm, _ => (cm, .none)
  | .dsChange, cm, _ => (cm.dsChange, .none)
  | .startDs, cm, _ => (cm.startDs, .none)
  | .dsReady, cm, _ => (cm.call .smOperate, .none)
  | .dsReadyIgnore, cm, _ => (cm, .none)
  | .smOperate, cm, _ => (cm.smOperateAction, .none)
  | .portFault, cm, e => cm.portFault e
  | .deactivate, cm, e => (cm.deactivate e, .none)

/-! ### The transition table -/

/-- `iolink_cm_fsm`. -/
def transitions : CmState → List (Fsm.Transition CmState CmEvent Action)
  | .checkPortMode =>
    [⟨.iolManual, .smStartup, .startup⟩, -- T1
     ⟨.iolAutostart, .smStartup, .startup⟩, -- T2
     ⟨.diCq, .portDIDO, .dido⟩, -- T9
     ⟨.doCq, .portDIDO, .dido⟩, -- T10
     ⟨.deactivated, .portDeactivated, .deactivate⟩, -- T11
     ⟨.unknown, .portDeactivated, .deactivate⟩, -- T16
     ⟨.cfgChange, .checkPortMode, .checkMode⟩,
     ⟨.smComlost, .checkPortMode, .comlost⟩]
  | .smStartup =>
    [⟨.smComready, .dsParamManager, .startDs⟩, -- T3
     ⟨.cfgChange, .checkPortMode, .checkMode⟩, -- T13
     ⟨.smFault, .portFault, .portFault⟩, -- T4
     ⟨.smComlost, .checkPortMode, .comlost⟩] -- T8
  | .dsParamManager =>
    [⟨.dsReady, .waitingOnOperate, .dsReady⟩, -- T5
     ⟨.dsChange, .smStartup, .dsChange⟩, -- T14
     ⟨.dsFault, .portFault, .portFault⟩, -- T6
     ⟨.cfgChange, .dsParamManager, .cfgChangeIgnore⟩,
     ⟨.smComlost, .dsParamManager, .comlostIgnore⟩]
  | .portFault =>
    [⟨.cfgChange, .checkPortMode, .checkMode⟩, -- T13
     ⟨.dsChange, .smStartup, .dsChange⟩, -- T14
     ⟨.smComlost, .checkPortMode, .comlost⟩] -- T8
  | .waitingOnOperate =>
    [⟨.smOperate, .portActive, .smOperate⟩, -- T7
     ⟨.cfgChange, .checkPortMode, .checkMode⟩, -- T13
     ⟨.dsChange, .smStartup, .dsChange⟩, -- T14
     ⟨.smComlost, .checkPortMode, .comlost⟩, -- T8
     ⟨.dsFault, .portFault, .portFault⟩]
  | .portActive =>
    [⟨.cfgChange, .checkPortMode, .checkMode⟩, -- T13
     ⟨.dsChange, .smStartup, .dsChange⟩, -- T14
     ⟨.smComlost, .checkPortMode, .comlost⟩, -- T8
     ⟨.dsReady, .portActive, .dsReadyIgnore⟩,
     ⟨.dsFault, .portFault, .portFault⟩]
  | .portDIDO => [⟨.cfgChange, .checkPortMode, .checkMode⟩] -- T12
  | .portDeactivated => [⟨.cfgChange, .checkPortMode, .checkMode⟩] -- T15

/-- Only a new configuration and a Data Storage fault have follow-up events. -/
def eventRank (_ : CmState) : CmEvent → ℕ
  | .cfgChange | .dsFault => 1
  | _ => 0

/-- The follow-up event of each action has a lower rank, if there is one. -/
private theorem perform_rank (a : Action) (cm : Cm) (e : CmEvent)
    (hnone : (perform a cm e).2 ≠ .none) (s s' : CmState) :
    eventRank s' (perform a cm e).2 < eventRank s e := by
  have hcfg : ∀ cfg : PortConfigList, eventRank s' cfg.event = 0 := by
    intro cfg
    rw [PortConfigList.event]
    split_ifs
    · rfl
    · cases cfg.portmode <;> rfl
  have hcheck : ∀ cm : Cm, (cm.checkMode e).2 ≠ .none →
      eventRank s' (cm.checkMode e).2 < eventRank s e := by
    intro cm
    rw [checkMode]
    split_ifs with he
    · subst he
      intro _
      rw [hcfg]
      exact Nat.zero_lt_one
    · exact fun h => absurd rfl h
  cases a with
  | checkMode => exact hcheck _ hnone
  | comlost => exact hcheck _ hnone
  | portFault =>
    cases e with
    | dsFault =>
      simp only [perform, portFault] at hnone ⊢
      split_ifs at hnone ⊢ with hf
      · exact Nat.zero_lt_one
      · exact absurd rfl hnone
    | _ => exact absurd rfl hnone
  | _ => exact absurd rfl hnone

/-- `iolink_cm_event` with its table `iolink_cm_fsm`. -/
def fsm : Fsm.Machine Cm CmState CmEvent Action where
  state := Cm.state
  enter := enter
  table := transitions
  perform := perform
  idle := .none
  rank := eventRank
  state_enter _ _ := rfl
  rank_lt cm e t _ _ hnone := perform_rank t.action (enter t.next cm) e hnone _ _

/-- `iolink_cm_event`. -/
def event (cm : Cm) (e : CmEvent) : Cm := fsm.drive cm e

/-! ### The jobs of the layer -/

/-- The event of `cm_sm_port_mode_ind_cb`. -/
def portModeEvent : SmPortMode → CmEvent
  | .comready => .smComready -- T3
  | .revisionFault | .compFault | .sernumFault | .cyctimeFault => .smFault -- T4
  | .operate => .smOperate -- T7
  | .comlost => .smComlost -- T8
  | .inactive | .di | .do_ => .none

/-- `cm_sm_port_mode_ind_cb`. -/
def smPortModeIndCb (cm : Cm) (mode : SmPortMode) : Cm :=
  let cm := if mode = .inactive ∧ cm.portInfo.portStatusInfo ≠ .deactivated then
      (cm.modInfo ({ · with portStatusInfo := .deactivated })).call
        (.portEvent .portStatusChange)
    else cm
  if portModeEvent mode ≠ .none then cm.event (portModeEvent mode) else cm

/-- `cm_ds_ready_cb`. -/
def dsReadyCb (cm : Cm) : Cm := cm.event .dsReady

/-- `cm_ds_fault_cb`. -/
def dsFaultCb (cm : Cm) (fault : DsFault) : Cm := (cm.setDsFault fault).event .dsFault

/-- The error `check_arg_block` reports for a request, `none` for a request that passes. An
unexpected answer block is not reported when its `errortype` is `IOLINK_SMI_ERRORTYPE_NONE`. -/
def checkArgBlock (r : CmRequest) (ref : ArgBlockId) (argBlockLen : ℕ) (exp : ArgBlockId)
    (errortype : SmiErrorType) : Option SmiErrorType :=
  if r.ref ≠ ref then some SmiErrorType.argblockNotSupported
  else if r.argBlockLen ≠ argBlockLen then some SmiErrorType.argblockLengthInvalid
  else if r.exp ≠ exp then some errortype
  else none

/-- A request that has been checked: refused with the error of the check, if there is one to
report, and otherwise served. -/
def serve (cm : Cm) (r : CmRequest) (check : Option SmiErrorType) (f : Cm → Cm) : Cm :=
  match check with
  | some error =>
    if error = SmiErrorType.none then cm else cm.call (.joberrorInd r.exp r.ref error)
  | none => f cm

/-- `sizeof (arg_block_void_t)`. -/
abbrev sizeofArgBlockVoid : ℕ := 2

/-- `sizeof (arg_block_portconfiglist_t)`. -/
abbrev sizeofArgBlockPortconfiglist : ℕ := 14

/-- `sizeof (arg_block_masterident_head_t)`. -/
abbrev sizeofArgBlockMasteridentHead : ℕ := 12

/-- `sizeof (arg_block_portstatuslist_t)`, whose last field is a pointer of 32 bits. -/
abbrev sizeofArgBlockPortstatuslist : ℕ := 19

/-- `cm_smi_portconfiguration_cb`. -/
def smiPortconfigurationCb (cm : Cm) (r : CmRequest) : Cm :=
  cm.serve r (checkArgBlock r ArgBlockId.portCfgList sizeofArgBlockPortconfiglist
    ArgBlockId.voidBlock SmiErrorType.argblockInconsistent) fun cm =>
      (cm.setReq r).event .cfgChange

/-- `cm_smi_masterident_cb`. -/
def smiMasteridentCb (cm : Cm) (r : CmRequest) : Cm :=
  cm.serve r (checkArgBlock r ArgBlockId.voidBlock sizeofArgBlockVoid ArgBlockId.masterident
    SmiErrorType.none) fun cm =>
      cm.call (.cnf r.ref (narrow8 (sizeofArgBlockMasteridentHead + cm.view.portCnt))
        (.masterident cm.view.portCnt))

/-- `cm_smi_readbackportconfiguration_cb`. -/
def smiReadbackportconfigurationCb (cm : Cm) (r : CmRequest) : Cm :=
  cm.serve r (checkArgBlock r ArgBlockId.voidBlock sizeofArgBlockVoid ArgBlockId.portCfgList
    SmiErrorType.argblockInconsistent) fun cm =>
      cm.call (.cnf r.ref sizeofArgBlockPortconfiglist (.portCfgList cm.cfgList.list))

/-- The port status that is reported: there is no cycle time without a device. -/
def portStatus (info : PortInfo) : PortStatusList where
  portStatusInfo := info.portStatusInfo
  portQualityInfo := info.portQualityInfo
  revisionId := info.revisionid
  transmissionRate := info.transmissionRate
  masterCycleTime := match info.portStatusInfo with
    | .noDev | .deactivated | .di | .do_ => 0
    | _ => info.cycletime
  vendorid := info.vendorid
  deviceid := info.deviceid

/-- `cm_smi_portstatus_cb`. -/
def smiPortstatusCb (cm : Cm) (r : CmRequest) : Cm :=
  cm.serve r (checkArgBlock r ArgBlockId.voidBlock sizeofArgBlockVoid ArgBlockId.portStatusList
    SmiErrorType.none) fun cm =>
      cm.call (.cnf r.ref sizeofArgBlockPortstatuslist (.portStatusList (portStatus cm.portInfo)))

end Cm

/-- The jobs of the Configuration Manager. -/
inductive CmJob
  | smiMasterident (r : CmRequest)
  | smiPortconfiguration (r : CmRequest)
  | smiReadbackportconfiguration (r : CmRequest)
  | smiPortstatus (r : CmRequest)
  /-- `SM_PortMode_ind`. -/
  | smPortModeInd (mode : SmPortMode)
  /-- `DS_Ready`. -/
  | dsReady
  /-- `DS_Fault`. -/
  | dsFault (fault : DsFault)
  deriving DecidableEq

namespace Cm

/-- The callback of a job. -/
def callback (cm : Cm) : CmJob → Cm
  | .smiMasterident r => cm.smiMasteridentCb r
  | .smiPortconfiguration r => cm.smiPortconfigurationCb r
  | .smiReadbackportconfiguration r => cm.smiReadbackportconfigurationCb r
  | .smiPortstatus r => cm.smiPortstatusCb r
  | .smPortModeInd mode => cm.smPortModeIndCb mode
  | .dsReady => cm.dsReadyCb
  | .dsFault fault => cm.dsFaultCb fault

/-- One job: its callback, with what it sees of the other layers. -/
def handle (cm : Cm) (view : CmView) (j : CmJob) : Cm :=
  (cm.newJob view).callback j

end Cm

end IolHat
