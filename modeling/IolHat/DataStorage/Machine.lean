import IolHat.Types
import IolHat.Lib.Fsm
import IolHat.Lib.Run
import Mathlib.Tactic.Simps.Basic

/-!
# The Data Storage state machine

The Data Storage layer (`iolink_ds.c`) keeps a copy of a device's parameters in the master. An
*upload* reads the device's index list and then every parameter in it into `master_ds.data`; a
*download* writes the stored parameters back. Both are driven by one table of transitions, whose
actions send read and write requests to the application layer and wait for the confirmations.

The context is the record `Ds`. Every job of the layer is one `DsInput`: a confirmation of the
application layer, a call of another component, or the direct call `ds_SMI_ParServToDS_req`.
`Ds.step` processes one input; `calls` then holds the calls the layer made meanwhile, in order.

A write request carries a *pointer*: the command octet or a place in `master_ds.data`. The
application layer follows it after the job has been processed, which is what `Ds.outputs`
does.
-/

namespace IolHat

open Octets

/-! ### States, events and commands -/

/-- `iolink_ds_state_t`. -/
inductive DsState
  | checkActivationState | waitingOnDsActivity | off
  | checkIdentity | checkMemSize | checkUpload | checkDsValidity | checkChecksum | dsReady | dsFault
  | decomposeIl | readParameter | storeDataSet | uploadFault
  | decomposeSet | writeParameter | downloadDone | downloadFault
  deriving DecidableEq, Repr, Inhabited

/-- `iolink_fsm_ds_event_t`. -/
inductive DsEvent
  | none | enable | startup | ready | upload | faultDone | faultId | faultSize | faultUl | faultDl
  | faultLock | enableCom | clrDisa | enableNoC | delete | clear | disable | passed | doUpload
  | noUpload | download | moreData | readDone | storeData | ulDone | devErr | comErr | wrDone
  | dlDone | init
  deriving DecidableEq, Repr, Inhabited

/-- `iolink_ds_command_t`. -/
inductive DsCommand
  | res | ulStart | ulEnd | dlStart | dlEnd | break_
  deriving DecidableEq, Repr, Inhabited

/-- The octet of a Data Storage command. -/
def DsCommand.code : DsCommand → Octet
  | .res => 0x00
  | .ulStart => 0x01
  | .ulEnd => 0x02
  | .dlStart => 0x03
  | .dlEnd => 0x04
  | .break_ => 0x05

/-- `IOLINK_DS_MAX_SIZE`. -/
abbrev dsMaxSize : ℕ := 2048

/-- `DS_INDEX_LIST_MAX_ENTRIES`. -/
abbrev dsIndexListMaxEntries : ℕ := 70

/-- `DS_PARAM_INDEX`, the index of the Data Storage parameters. -/
abbrev dsParamIndex : UInt16 := 0x0003

abbrev dsParamSubindexCmd : Octet := 1
abbrev dsParamSubindexState : Octet := 2
abbrev dsParamSubindexSize : Octet := 3
abbrev dsParamSubindexChecksum : Octet := 4
abbrev dsParamSubindexIndexList : Octet := 5

/-- `DS_STATE_PROPERTY_STATE_MASK`, which is also the value of a locked storage. -/
abbrev dsStatePropertyStateMask : Octet := 0x06

/-- `DS_STATE_PROPERTY_UPLOAD_REQ`. -/
abbrev dsStatePropertyUploadReq : Octet := 0x80

/-! ### The context -/

/-- `ds_index_list_entry_t`. -/
structure IndexEntry where
  index : UInt16
  subindex : Octet
  deriving DecidableEq, Repr, Inhabited

/-- `index_list`: what to read, and how far the upload has come. -/
structure IndexList where
  /-- The number of entries, which the code only sets below the size of the array. -/
  count : ℕ
  count_lt : count < dsIndexListMaxEntries
  pos : ℕ
  entries : Buffer IndexEntry dsIndexListMaxEntries
  deriving DecidableEq

instance : Inhabited IndexList := ⟨⟨0, Nat.succ_pos 69, 0, default⟩⟩

/-- `device_ds`, what the device has told about its storage. -/
structure DeviceDs where
  cs : UInt32 := 0
  sizeMax : UInt32 := 0
  stateProperty : Octet := 0
  deriving DecidableEq

/-- `master_ds`, the stored set. -/
structure MasterDs where
  cs : UInt32 := 0
  vid : UInt16 := 0
  did : UInt32 := 0
  fid : UInt16 := 0
  valid : Bool := false
  size : ℕ := 0
  sizeMax : ℕ := dsMaxSize
  /-- Position in `data`. -/
  pos : ℕ := 0
  data : Buffer Octet dsMaxSize := Buffer.fill 0
  deriving DecidableEq

/-- A vendor id and a device id. -/
structure PortId where
  vendorid : UInt16 := 0
  deviceid : UInt32 := 0
  deriving DecidableEq, Repr, Inhabited

/-- What the data pointer of a write request points to. -/
inductive WriteData
  | command
  | data (pos len : ℕ)
  deriving DecidableEq, Repr

/-- A call of the Data Storage layer, with data of type `δ` in write requests. -/
inductive DsCall (δ : Type)
  | alReadReq (index : UInt16) (subindex : Octet)
  | alWriteReq (index : UInt16) (subindex : Octet) (data : δ)
  | dsReady
  | dsFault (fault : DsFault)
  | smiVoidblockCnf (ref : ArgBlockId)
  | smiJoberrorInd (exp ref : ArgBlockId) (error : SmiErrorType)
  /-- `CC_ASSERT (0)`. -/
  | assertion
  /-- A null pointer is followed, and the process is killed by a signal: what comes after it is no
  run of the code. -/
  | nullPointer
  deriving DecidableEq, Repr

/-- Replace the data of a write request. -/
def DsCall.map {δ ε : Type} (f : δ → ε) : DsCall δ → DsCall ε
  | .alReadReq index subindex => .alReadReq index subindex
  | .alWriteReq index subindex data => .alWriteReq index subindex (f data)
  | .dsReady => .dsReady
  | .dsFault fault => .dsFault fault
  | .smiVoidblockCnf ref => .smiVoidblockCnf ref
  | .smiJoberrorInd exp ref error => .smiJoberrorInd exp ref error
  | .assertion => .assertion
  | .nullPointer => .nullPointer

/-- `iolink_ds_port_t`, with the identity CM keeps in the port info and the calls made by the
current job. -/
structure Ds where
  state : DsState := .checkActivationState
  fault : DsFault := .none
  dsEnable : Bool := false
  dsUpload : Bool := false
  dsDownload : Bool := false
  deviceDs : DeviceDs := {}
  masterDs : MasterDs := {}
  indexList : IndexList := default
  command : DsCommand := .res
  currentIndex : UInt16 := 0
  currentSubindex : Octet := 0
  pendingId : PortId := {}
  portInfo : PortId := {}
  calls : List (DsCall WriteData) := []
  /-- No access has left `master_ds.data`. -/
  inside : Bool := true

/-- The 32-bit number in the first four octets of a buffer, most significant octet first. -/
def wordOf (data : Buffer Octet isduMaxSize) : UInt32 :=
  ((data.get 0).toUInt32 <<< 24) + ((data.get 1).toUInt32 <<< 16) +
    ((data.get 2).toUInt32 <<< 8) + (data.get 3).toUInt32

/-- `arg_block_ds_data_t`, with the octets at `ds_data`. -/
structure ArgBlockDsData where
  id : ArgBlockId
  vid : UInt16
  did : UInt32
  fid : UInt16
  dsData : List Octet

namespace MasterDs

/-- Store octets at the position, one assignment or `memcpy`, and advance it. -/
def append (m : MasterDs) (octets : List Octet) : MasterDs :=
  { m with data := m.data.write m.pos octets, pos := m.pos + octets.length }

@[simp]
theorem append_sizeMax (m : MasterDs) (octets : List Octet) :
    (m.append octets).sizeMax = m.sizeMax := rfl

/-- The stored octets, `data[0..size)`. -/
def stored (m : MasterDs) : List Octet := m.data.slice 0 m.size

end MasterDs

namespace Ds

/-! ### Field updates -/

/-- The driver enters a state. -/
@[simps] def enter (s : DsState) (ds : Ds) : Ds := { ds with state := s }

/-- One more call. -/
@[simps] def call (ds : Ds) (c : DsCall WriteData) : Ds := { ds with calls := ds.calls ++ [c] }

/-- A change of the stored set. -/
@[simps] def modMaster (ds : Ds) (f : MasterDs → MasterDs) : Ds :=
  { ds with masterDs := f ds.masterDs }

/-- A change of the index list. -/
@[simps] def modList (ds : Ds) (f : IndexList → IndexList) : Ds :=
  { ds with indexList := f ds.indexList }

/-- A change of what is known about the device. -/
@[simps] def modDevice (ds : Ds) (f : DeviceDs → DeviceDs) : Ds :=
  { ds with deviceDs := f ds.deviceDs }

/-- The parameter that is read or written. -/
@[simps] def setCurrent (ds : Ds) (index : UInt16) (subindex : Octet) : Ds :=
  { ds with currentIndex := index, currentSubindex := subindex }

/-- The command octet that is written. -/
@[simps] def setCommand (ds : Ds) (cmd : DsCommand) : Ds := { ds with command := cmd }

/-- An access to `master_ds.data` that may leave it. -/
@[simps] def access (ds : Ds) (fits : Bool) : Ds := { ds with inside := ds.inside && fits }

/-- `ds_AL_Read_req`. -/
def alReadReq (ds : Ds) (index : UInt16) (subindex : Octet) : Ds :=
  (ds.setCurrent index subindex).call (.alReadReq index subindex)

/-- `ds_AL_Write_ds_cmd_req`. -/
def alWriteDsCmdReq (ds : Ds) (cmd : DsCommand) : Ds :=
  ((ds.setCurrent dsParamIndex dsParamSubindexCmd).setCommand cmd).call
    (.alWriteReq dsParamIndex dsParamSubindexCmd .command)

/-! ### Actions -/

/-- `ds_delete`. -/
def delete (ds : Ds) : Ds :=
  ds.modMaster fun m => { m with vid := 0, did := 0, cs := 0, valid := false, pos := 0 }

/-- `ds_fault`. -/
def faultAction (ds : Ds) : DsEvent → Ds × DsEvent
  | .faultId => (ds.call (.dsFault .id), .faultDone)
  | .faultSize => (ds.call (.dsFault .size), .faultDone)
  | .faultUl => ({ ds with fault := .up }.alWriteDsCmdReq .break_, .none)
  | .faultDl => ({ ds with fault := .down }.alWriteDsCmdReq .break_, .none)
  | .faultLock => ({ ds with dsEnable := false }.call (.dsFault .lock), .faultDone)
  | _ => (ds, .none)

/-- `ds_off`. -/
def offAction (ds : Ds) : DsEvent → Ds × DsEvent
  | .startup => (ds.call .dsReady, .none)
  | _ => (ds, .none)

/-- `ds_check_vid_did`. -/
def checkVidDid (ds : Ds) : Bool :=
  decide (ds.masterDs.vid = 0 ∨
    ds.masterDs.vid = ds.portInfo.vendorid ∧ ds.masterDs.did = ds.portInfo.deviceid)

/-- `ds_chk_id`. -/
def chkId (ds : Ds) : Ds × DsEvent :=
  if ds.checkVidDid then (ds.alReadReq dsParamIndex dsParamSubindexSize, .none)
  else (ds, .faultId)

/-- `ds_chk_mem_size`. -/
def chkMemSize (ds : Ds) : Ds × DsEvent :=
  if ds.masterDs.sizeMax < ds.deviceDs.sizeMax.toNat then (ds, .faultSize)
  else (ds.alReadReq dsParamIndex dsParamSubindexState, .none)

/-- `ds_chk_upload`. -/
def chkUpload (ds : Ds) : Ds × DsEvent :=
  let uploadFlag := ds.deviceDs.stateProperty &&& dsStatePropertyUploadReq ≠ 0
  if ds.deviceDs.stateProperty &&& dsStatePropertyStateMask = dsStatePropertyStateMask then
    (ds, .faultLock)
  else if uploadFlag ∧ ds.dsUpload then (ds.alWriteDsCmdReq .ulStart, .none)
  else (ds.alReadReq dsParamIndex dsParamSubindexChecksum, .none)

/-- `ds_upload`. -/
def uploadAction (ds : Ds) : DsEvent → Ds × DsEvent
  | .doUpload =>
    (((ds.modMaster ({ · with pos := 0 })).modList ({ · with pos := 0 })).setCurrent
      dsParamIndex dsParamSubindexIndexList, .moreData)
  | .readDone =>
    if ds.indexList.pos < ds.indexList.count then
      let entry := ds.indexList.entries.get ds.indexList.pos
      ((ds.setCurrent entry.index entry.subindex).modList ({ · with pos := ds.indexList.pos + 1 }),
        .moreData)
    else
      ((ds.modMaster ({ · with size := ds.masterDs.pos })).alReadReq
        dsParamIndex dsParamSubindexChecksum, .storeData)
  | _ => (ds, .none)

/-- `ds_chk_validity`. -/
def chkValidity (ds : Ds) : Ds × DsEvent :=
  if ds.masterDs.valid then (ds, .passed) else (ds.alWriteDsCmdReq .ulStart, .none)

/-- `ds_chk_csum`. -/
def chkCsum (ds : Ds) : Ds × DsEvent :=
  if ds.dsDownload ∧ ds.masterDs.cs ≠ ds.deviceDs.cs then (ds, .download) else (ds, .ready)

/-- `ds_write_param`. The record at the position is index, subindex, length and value. -/
def writeParam (ds : Ds) : Ds :=
  let m := ds.masterDs
  let index := ((m.data.get m.pos).toUInt16 <<< 8) + (m.data.get (m.pos + 1)).toUInt16
  let subindex := m.data.get (m.pos + 2)
  let len := (m.data.get (m.pos + 3)).toNat
  (((ds.access (decide (m.pos + 4 + len ≤ dsMaxSize))).modMaster
    ({ · with pos := m.pos + 4 + len })).setCurrent dsParamIndex subindex).call
      (.alWriteReq index subindex (.data (m.pos + 4) len))

/-- `ds_decompose_set`. -/
def decomposeSet (ds : Ds) (event : DsEvent) : Ds × DsEvent :=
  let ds := if event = .download then ds.modMaster ({ · with pos := 0 }) else ds
  (ds, if ds.masterDs.size ≤ ds.masterDs.pos then .dlDone else .moreData)

/-- The actions of the transition table. -/
inductive Action
  | delete | todo | ulFault | dlFault | fault | off | chkId | chkMemSize | chkUpload | upload
  | chkValidity | chkCsum | writeParam | waitDsAct | dlDone | readparam | storeData | ready
  | decomposeSet | initDl | reinit
  deriving DecidableEq

/-- The action functions `ds_…`: the context after the action, and the follow-up event. -/
def perform : Action → Ds → DsEvent → Ds × DsEvent
  | .delete, ds, _ => (ds.delete, .none)
  | .todo, ds, _ => (ds.call .assertion, .none)
  | .ulFault, ds, _ => (ds, .faultUl)
  | .dlFault, ds, _ => (ds, .faultDl)
  | .fault, ds, e => ds.faultAction e
  | .off, ds, e => ds.offAction e
  | .chkId, ds, _ => ds.chkId
  | .chkMemSize, ds, _ => ds.chkMemSize
  | .chkUpload, ds, _ => ds.chkUpload
  | .upload, ds, e => ds.uploadAction e
  | .chkValidity, ds, _ => ds.chkValidity
  | .chkCsum, ds, _ => ds.chkCsum
  | .writeParam, ds, _ => (ds.writeParam, .none)
  | .waitDsAct, ds, _ => (ds, .none)
  | .dlDone, ds, _ => (ds.alWriteDsCmdReq .dlEnd, .none)
  | .readparam, ds, _ => (ds.alReadReq ds.currentIndex ds.currentSubindex, .none)
  | .storeData, ds, _ => (ds, .none)
  | .ready, ds, _ => (ds.call .dsReady, .ready)
  | .decomposeSet, ds, e => ds.decomposeSet e
  | .initDl, ds, _ => (ds.alWriteDsCmdReq .dlStart, .none)
  | .reinit, ds, _ => (ds, if ds.dsEnable then .enable else .clrDisa)

/-! ### The transition table -/

/-- `iolink_ds_fsm`, the rows of each state. -/
def transitions : DsState → List (Fsm.Transition DsState DsEvent Action)
  | .checkActivationState =>
    [⟨.enable, .waitingOnDsActivity, .waitDsAct⟩, -- T1
     ⟨.clrDisa, .off, .off⟩, -- T7
     ⟨.delete, .checkActivationState, .delete⟩,
     ⟨.init, .checkActivationState, .reinit⟩]
  | .waitingOnDsActivity =>
    [⟨.startup, .checkIdentity, .chkId⟩, -- T2
     ⟨.upload, .checkIdentity, .chkId⟩, -- T4
     ⟨.delete, .waitingOnDsActivity, .delete⟩, -- T9
     ⟨.clear, .off, .todo⟩, -- T11
     ⟨.disable, .off, .todo⟩, -- T12
     ⟨.init, .checkActivationState, .reinit⟩]
  | .off =>
    [⟨.enableCom, .checkIdentity, .todo⟩, -- T6
     ⟨.enableNoC, .waitingOnDsActivity, .todo⟩, -- T8
     ⟨.delete, .off, .delete⟩, -- T10
     ⟨.upload, .off, .off⟩, -- T13
     ⟨.startup, .off, .off⟩, -- T14
     ⟨.init, .checkActivationState, .reinit⟩]
  | .checkIdentity =>
    [⟨.passed, .checkMemSize, .chkMemSize⟩, -- T16
     ⟨.faultId, .dsFault, .fault⟩, -- T15
     ⟨.init, .checkActivationState, .reinit⟩]
  | .checkMemSize =>
    [⟨.passed, .checkUpload, .chkUpload⟩, -- T18
     ⟨.faultSize, .dsFault, .fault⟩, -- T17
     ⟨.init, .checkActivationState, .reinit⟩]
  | .checkUpload =>
    [⟨.doUpload, .decomposeIl, .upload⟩, -- T19
     ⟨.noUpload, .checkDsValidity, .chkValidity⟩, -- T20 or T43
     ⟨.faultLock, .dsFault, .fault⟩] -- T29
  | .checkDsValidity =>
    [⟨.doUpload, .decomposeIl, .upload⟩, -- T21
     ⟨.passed, .checkChecksum, .chkCsum⟩] -- T22
  | .checkChecksum =>
    [⟨.download, .decomposeSet, .initDl⟩, -- T24
     ⟨.ready, .dsReady, .ready⟩] -- T25 + T3
  | .dsReady =>
    [⟨.ready, .waitingOnDsActivity, .waitDsAct⟩] -- T3
  | .dsFault =>
    [⟨.faultDone, .waitingOnDsActivity, .waitDsAct⟩, -- T5
     ⟨.comErr, .waitingOnDsActivity, .waitDsAct⟩]
  | .decomposeIl =>
    [⟨.moreData, .readParameter, .readparam⟩, -- T30
     ⟨.storeData, .storeDataSet, .storeData⟩, -- T35
     ⟨.comErr, .uploadFault, .ulFault⟩] -- T34
  | .readParameter =>
    [⟨.readDone, .decomposeIl, .upload⟩, -- T31
     ⟨.devErr, .uploadFault, .ulFault⟩, -- T32
     ⟨.comErr, .uploadFault, .ulFault⟩] -- T33
  | .storeDataSet =>
    [⟨.ulDone, .dsReady, .ready⟩, -- T26 + T3
     ⟨.comErr, .uploadFault, .ulFault⟩] -- T36
  | .uploadFault =>
    [⟨.faultUl, .dsFault, .fault⟩] -- T23
  | .decomposeSet =>
    [⟨.moreData, .writeParameter, .writeParam⟩, -- T37
     ⟨.download, .decomposeSet, .decomposeSet⟩, -- T24
     ⟨.dlDone, .downloadDone, .dlDone⟩] -- T41
  | .writeParameter =>
    [⟨.wrDone, .decomposeSet, .decomposeSet⟩, -- T38
     ⟨.devErr, .downloadFault, .dlFault⟩, -- T39
     ⟨.comErr, .downloadFault, .dlFault⟩] -- T40
  | .downloadDone =>
    [⟨.ready, .dsReady, .ready⟩, -- T27 + T3
     ⟨.comErr, .downloadFault, .dlFault⟩] -- T42
  | .downloadFault =>
    [⟨.faultDl, .dsFault, .fault⟩] -- T28

/-- How many rounds an event can still cause. The only event that is passed on unchanged is
`DS_EVENT_READY`, from `CheckChecksum` to `DS_Ready`. -/
def eventRank : DsState → DsEvent → ℕ
  | .dsReady, .ready => 0
  | _, .noUpload => 3
  | _, .passed | _, .startup | _, .upload | _, .ulDone => 2
  | _, .ready | _, .faultId | _, .faultSize | _, .faultLock | _, .doUpload | _, .readDone
  | _, .devErr | _, .comErr | _, .download | _, .wrDone | _, .init => 1
  | _, _ => 0

/-- No action changes the state of the machine. -/
@[simp]
theorem perform_state (a : Action) (ds : Ds) (e : DsEvent) :
    (perform a ds e).1.state = ds.state := by
  cases a <;> simp only [perform, delete, chkId, chkMemSize, chkUpload, chkValidity, chkCsum,
    writeParam, decomposeSet, alReadReq, alWriteDsCmdReq, modMaster_state, call_state,
    setCurrent_state, setCommand_state, access_state]
  case fault => cases e <;> simp [faultAction, alWriteDsCmdReq]
  case off => cases e <;> simp [offAction]
  case upload =>
    cases e <;> simp only [uploadAction, setCurrent_state, modList_state, modMaster_state]
    split <;> simp [alReadReq]
  all_goals split_ifs <;> simp

/-- The events an action can be followed by. -/
def followUps : Action → DsEvent → List DsEvent
  | .ulFault, _ => [.faultUl]
  | .dlFault, _ => [.faultDl]
  | .fault, .faultId | .fault, .faultSize | .fault, .faultLock => [.faultDone]
  | .chkId, _ => [.none, .faultId]
  | .chkMemSize, _ => [.none, .faultSize]
  | .chkUpload, _ => [.none, .faultLock]
  | .upload, .doUpload => [.moreData]
  | .upload, .readDone => [.moreData, .storeData]
  | .chkValidity, _ => [.none, .passed]
  | .chkCsum, _ => [.download, .ready]
  | .ready, _ => [.ready]
  | .decomposeSet, _ => [.dlDone, .moreData]
  | .reinit, _ => [.enable, .clrDisa]
  | _, _ => [.none]

theorem perform_followUp (a : Action) (ds : Ds) (e : DsEvent) :
    (perform a ds e).2 ∈ followUps a e := by
  cases a <;> simp only [perform, followUps, chkId, chkMemSize, chkUpload, chkValidity, chkCsum,
    decomposeSet, List.mem_cons, List.not_mem_nil, or_false]
  case fault => cases e <;> simp [faultAction]
  case off => cases e <;> simp [offAction]
  case upload =>
    cases e <;> simp only [uploadAction, List.mem_singleton]
    split <;> simp
  all_goals split_ifs <;> simp

/-- The follow-up events of each row have a lower rank. -/
private theorem followUps_rank (s : DsState) : ∀ t ∈ transitions s,
    ∀ e ∈ followUps t.action t.event, e ≠ .none → eventRank t.next e < eventRank s t.event := by
  cases s <;> decide

/-- `iolink_ds_event` with its table `iolink_ds_fsm`. -/
def fsm : Fsm.Machine Ds DsState DsEvent Action where
  state := Ds.state
  enter := enter
  table := transitions
  perform := perform
  idle := .none
  rank := eventRank
  state_enter _ _ := rfl
  rank_lt ds e t ht he hnone := by
    subst he
    rw [perform_state]
    exact followUps_rank _ t ht _ (perform_followUp _ _ _) hnone

/-- `iolink_ds_event`. -/
def event (ds : Ds) (e : DsEvent) : Ds := fsm.drive ds e

/-- What no action changes: the flags of the configuration, of which only `ds_enable` may be
cleared, and the capacity of the array. -/
structure Kept (ds ds' : Ds) : Prop where
  dsUpload : ds'.dsUpload = ds.dsUpload
  dsDownload : ds'.dsDownload = ds.dsDownload
  dsEnable : ds'.dsEnable = true → ds.dsEnable = true
  sizeMax : ds'.masterDs.sizeMax = ds.masterDs.sizeMax

theorem Kept.refl (ds : Ds) : ds.Kept ds := ⟨rfl, rfl, id, rfl⟩

theorem Kept.trans {ds ds' ds'' : Ds} (h : ds.Kept ds') (h' : ds'.Kept ds'') : ds.Kept ds'' :=
  ⟨h'.dsUpload.trans h.dsUpload, h'.dsDownload.trans h.dsDownload, h.dsEnable ∘ h'.dsEnable,
    h'.sizeMax.trans h.sizeMax⟩

theorem perform_kept (a : Action) (ds : Ds) (e : DsEvent) : ds.Kept (perform a ds e).1 := by
  cases a
  case fault => cases e <;> first | exact ⟨rfl, rfl, id, rfl⟩ | exact ⟨rfl, rfl, nofun, rfl⟩
  case off => cases e <;> exact ⟨rfl, rfl, id, rfl⟩
  case upload =>
    cases e
    case readDone => simp only [perform, uploadAction]; split_ifs <;> exact ⟨rfl, rfl, id, rfl⟩
    all_goals exact ⟨rfl, rfl, id, rfl⟩
  case chkId => simp only [perform, chkId]; split_ifs <;> exact ⟨rfl, rfl, id, rfl⟩
  case chkMemSize => simp only [perform, chkMemSize]; split_ifs <;> exact ⟨rfl, rfl, id, rfl⟩
  case chkUpload => simp only [perform, chkUpload]; split_ifs <;> exact ⟨rfl, rfl, id, rfl⟩
  case chkValidity => simp only [perform, chkValidity]; split_ifs <;> exact ⟨rfl, rfl, id, rfl⟩
  case chkCsum => simp only [perform, chkCsum]; split_ifs <;> exact ⟨rfl, rfl, id, rfl⟩
  case decomposeSet => simp only [perform, decomposeSet]; split_ifs <;> exact ⟨rfl, rfl, id, rfl⟩
  all_goals exact ⟨rfl, rfl, id, rfl⟩

theorem event_kept (ds : Ds) (e : DsEvent) : ds.Kept (ds.event e) := by
  refine Fsm.Machine.drive_induction (M := fsm) (P := fun c => ds.Kept c) (fun c e t _ h => ?_)
    (Kept.refl ds)
  have henter : c.Kept (c.enter t.next) := ⟨rfl, rfl, id, rfl⟩
  exact (h.trans henter).trans (perform_kept t.action (c.enter t.next) e)

end Ds

/-! ### The jobs of the layer -/

/-- The loop of `ds_read_cnf_cb` over a received index list, `n` entries before its end. A zero
index terminates the list; without one the count keeps its old value. -/
def IndexList.parseFrom (data : Buffer Octet isduMaxSize) :
    (n : ℕ) → n ≤ dsIndexListMaxEntries → IndexList → IndexList
  | 0, _, list => list
  | n + 1, h, list =>
    let i := dsIndexListMaxEntries - (n + 1)
    let index := ((data.get (3 * i)).toUInt16 <<< 8) + (data.get (3 * i + 1)).toUInt16
    if index = 0 then
      { list with count := i, count_lt := Nat.sub_lt (Nat.succ_pos 69) (Nat.succ_pos n) }
    else
      parseFrom data n (Nat.le_of_succ_le h)
        { list with entries := list.entries.set i ⟨index, data.get (3 * i + 2)⟩ }

/-- A received index list. -/
def IndexList.parse (list : IndexList) (data : Buffer Octet isduMaxSize) : IndexList :=
  list.parseFrom data dsIndexListMaxEntries (Nat.le_refl _)

/-- The inputs of the Data Storage layer. -/
inductive DsInput
  | readCnf (c : ReadCnf)
  | writeCnf (errortype : SmiErrorType)
  | startup
  | delete
  | init (cfg : PortConfigList)
  | upload
  /-- `ds_SMI_ParServToDS_req`, called by the application. -/
  | parServToDs (exp : ArgBlockId) (argBlockLen : ℕ) (block : ArgBlockDsData)
  /-- CM changes the identity in the port info. -/
  | portInfo (id : PortId)
  /-- SM sets a mode with the M-sequence TYPE_1_1, for which it clears `ds_enable`. -/
  | setModeType11

namespace Ds

/-- The value of a parameter is stored as one record, when there is room for it. -/
def storeParam (ds : Ds) (c : ReadCnf) : Ds :=
  if ds.masterDs.pos + 2 + 1 + c.len < dsMaxSize then
    ds.modMaster fun m =>
      ((((m.append [(ds.currentIndex >>> 8).toUInt8]).append [ds.currentIndex.toUInt8]).append
        [ds.currentSubindex]).append [UInt8.ofNat c.len]).append c.value
  else ds

/-- The pointer of a confirmation is followed. -/
def follow (ds : Ds) (c : ReadCnf) (f : Buffer Octet isduMaxSize → Ds) : Ds :=
  match c.data with
  | none => ds.call .nullPointer
  | some data => f data

/-- The reading of a checksum: too short a response is reported to the state machine, and its
octets are taken all the same. -/
def readChecksum (ds : Ds) (c : ReadCnf) (f : Ds → Ds) : Ds :=
  let ds := if c.len < 4 then ds.event .comErr else ds
  ds.follow c fun data => f (ds.modDevice ({ · with cs := wordOf data }))

/-- `ds_read_cnf_cb`. -/
def readCnfCb (ds : Ds) (c : ReadCnf) : Ds :=
  if c.errortype = SmiErrorType.comErr then ds.event .comErr
  else
    match ds.state with
    | .checkIdentity =>
      if c.errortype ≠ SmiErrorType.none ∨ c.len < 4 then ds.event .faultId
      else ds.follow c fun data => (ds.modDevice ({ · with sizeMax := wordOf data })).event .passed
    | .checkMemSize =>
      if c.errortype ≠ SmiErrorType.none ∨ c.len ≠ 1 then ds.event .faultSize
      else
        ds.follow c fun data =>
          (ds.modDevice ({ · with stateProperty := data.get 0 })).event .passed
    | .readParameter =>
      if c.errortype ≠ SmiErrorType.none then ds.event .devErr
      else if ds.currentIndex = dsParamIndex ∧ ds.currentSubindex = dsParamSubindexIndexList then
        ds.follow c fun data => (ds.modList fun list => list.parse data).event .readDone
      else (ds.storeParam c).event .readDone
    | .checkUpload => ds.readChecksum c (·.event .noUpload)
    | .storeDataSet => ds.readChecksum c (·.alWriteDsCmdReq .ulEnd)
    | .downloadDone => ds.readChecksum c (·.event .ready)
    | _ => ds

section

variable {ds : Ds} {c : ReadCnf} {f : Buffer Octet isduMaxSize → Ds} {g : Ds → Ds}

/-- The pointer of a confirmation of success leads somewhere. -/
theorem follow_of_success (h : c.errortype = SmiErrorType.none) : ds.follow c f = f c.buffer := by
  rw [follow, ReadCnf.data_of_success h]

/-- What is not changed by following a pointer, whether it leads somewhere or not. -/
theorem follow_rule {P : Ds → Prop} (hnull : P (ds.call .nullPointer))
    (hdata : ∀ data, P (f data)) : P (ds.follow c f) := by
  rw [follow]
  split
  · exact hnull
  · exact hdata _

/-- A checksum that has arrived. -/
theorem readChecksum_of_le (hlen : 4 ≤ c.len) :
    ds.readChecksum c g = g (ds.modDevice ({ · with cs := wordOf c.buffer })) := by
  have hpos : 0 < c.len := Nat.lt_of_lt_of_le (Nat.succ_pos 3) hlen
  have hdata : c.data = some c.buffer := ReadCnf.data_of_pos hpos
  rw [readChecksum, if_neg (Nat.not_lt.mpr hlen), follow, hdata]

/-- A response that is too short. -/
theorem readChecksum_of_short (hlen : c.len < 4) {data : Buffer Octet isduMaxSize}
    (hdata : c.data = some data) :
    ds.readChecksum c g = g ((ds.event .comErr).modDevice ({ · with cs := wordOf data })) := by
  rw [readChecksum, if_pos hlen, follow, hdata]

/-- A response without data. -/
theorem readChecksum_of_null (hdata : c.data = none) :
    ds.readChecksum c g = (ds.event .comErr).call .nullPointer := by
  have hlen : c.len < 4 := by
    rw [(c.null hdata).1]
    exact Nat.succ_pos 3
  rw [readChecksum, if_pos hlen, follow, hdata]

end

/-- `ds_write_cnf_cb`. -/
def writeCnfCb (ds : Ds) (errortype : SmiErrorType) : Ds :=
  if errortype ≠ SmiErrorType.none then ds.event .comErr
  else
    match ds.state with
    | .checkUpload | .checkDsValidity => ds.event .doUpload
    | .writeParameter => ds.event .wrDone
    | .storeDataSet =>
      (ds.modMaster fun m => { m with
        vid := ds.pendingId.vendorid, did := ds.pendingId.deviceid, cs := ds.deviceDs.cs,
        valid := true }).event .ulDone
    | .decomposeSet => ds.event .download
    | .downloadDone => ds.alReadReq dsParamIndex dsParamSubindexChecksum
    | .dsFault => (ds.call (.dsFault ds.fault)).event .faultDone
    | _ => ds

/-- The configuration part of `ds_init_cb`. `ds_enable` is set here and not cleared. -/
def configure (ds : Ds) (cfg : PortConfigList) : Ds :=
  let restore : Bool := decide (cfg.portmode = .iolMan ∧
    (cfg.validationBackup = .v11BakRestore ∨ cfg.validationBackup = .v11Restore))
  { ds with
    dsUpload := decide (cfg.portmode = .iolMan ∧ cfg.validationBackup = .v11BakRestore)
    dsDownload := restore
    dsEnable := ds.dsEnable || restore
    fault := .none
    pendingId := ⟨cfg.vendorid, cfg.deviceid⟩ }

/-- `sizeof (arg_block_ds_data_t)`. -/
abbrev sizeofArgBlockDsData : ℕ := 14

/-- `ds_SMI_ParServToDS_req`. The length of the set is kept in a `uint8_t`. -/
def smiParServToDsReq (ds : Ds) (exp : ArgBlockId) (argBlockLen : ℕ) (block : ArgBlockDsData) :
    Ds :=
  let len := narrow8 (argBlockLen + 256 - sizeofArgBlockDsData)
  if exp ≠ ArgBlockId.voidBlock ∨ block.id ≠ ArgBlockId.dsData then
    ds.call (.smiJoberrorInd exp block.id SmiErrorType.argblockNotSupported)
  else if ds.masterDs.sizeMax < len then
    ds.call (.smiJoberrorInd exp block.id SmiErrorType.argblockInconsistent)
  else
    (ds.modMaster fun m => { m with
      data := m.data.write 0 (block.dsData.takeD len 0), cs := 0, vid := block.vid,
      did := block.did, fid := block.fid, valid := true, size := len }).call
        (.smiVoidblockCnf block.id)

/-- One input. -/
def handle (ds : Ds) : DsInput → Ds
  | .readCnf c => ds.readCnfCb c
  | .writeCnf errortype => ds.writeCnfCb errortype
  | .startup => ds.event .startup
  | .delete => ds.event .delete
  | .init cfg => (ds.configure cfg).event .init
  | .upload => ds.event .upload
  | .parServToDs exp argBlockLen block => ds.smiParServToDsReq exp argBlockLen block
  | .portInfo id => { ds with portInfo := id }
  | .setModeType11 => { ds with dsEnable := false }

/-- Process one input; `calls` are those made for it. -/
def step (ds : Ds) (i : DsInput) : Ds := { ds with calls := [] }.handle i

private theorem alWriteDsCmdReq_kept (ds : Ds) (cmd : DsCommand) :
    ds.Kept (ds.alWriteDsCmdReq cmd) :=
  ⟨rfl, rfl, id, rfl⟩

theorem kept_event {ds ds' : Ds} (h : ds.Kept ds') (e : DsEvent) : ds.Kept (ds'.event e) :=
  h.trans (ds'.event_kept e)

private theorem modMaster_kept {ds : Ds} {f : MasterDs → MasterDs}
    (h : (f ds.masterDs).sizeMax = ds.masterDs.sizeMax) : ds.Kept (ds.modMaster f) :=
  ⟨rfl, rfl, id, h⟩

private theorem modDevice_kept (ds : Ds) (f : DeviceDs → DeviceDs) : ds.Kept (ds.modDevice f) :=
  ⟨rfl, rfl, id, rfl⟩

private theorem storeParam_kept (ds : Ds) (c : ReadCnf) : ds.Kept (ds.storeParam c) := by
  rw [storeParam]
  split_ifs
  · exact modMaster_kept (by simp only [MasterDs.append_sizeMax])
  · exact Kept.refl ds

private theorem call_kept (ds : Ds) (c : DsCall WriteData) : ds.Kept (ds.call c) :=
  ⟨rfl, rfl, id, rfl⟩

private theorem readChecksum_kept (ds : Ds) (c : ReadCnf) {g : Ds → Ds}
    (hg : ∀ ds : Ds, ds.Kept (g ds)) : ds.Kept (ds.readChecksum c g) := by
  have hshort : ds.Kept (if c.len < 4 then ds.event .comErr else ds) := by
    split_ifs
    · exact ds.event_kept _
    · exact Kept.refl ds
  refine hshort.trans (follow_rule (call_kept _ _) fun data => ?_)
  exact (modDevice_kept _ _).trans (hg _)

theorem readCnfCb_kept (ds : Ds) (c : ReadCnf) : ds.Kept (ds.readCnfCb c) := by
  have hlist (f : IndexList → IndexList) : ds.Kept (ds.modList f) := ⟨rfl, rfl, id, rfl⟩
  rw [readCnfCb]
  by_cases hcom : c.errortype = SmiErrorType.comErr
  · rw [if_pos hcom]
    exact ds.event_kept _
  rw [if_neg hcom]
  cases ds.state
  case checkIdentity =>
    dsimp only
    split_ifs
    · exact ds.event_kept _
    · exact follow_rule (ds.call_kept _) fun _ => kept_event (ds.modDevice_kept _) _
  case checkMemSize =>
    dsimp only
    split_ifs
    · exact ds.event_kept _
    · exact follow_rule (ds.call_kept _) fun _ => kept_event (ds.modDevice_kept _) _
  case readParameter =>
    dsimp only
    split_ifs
    · exact ds.event_kept _
    · exact follow_rule (ds.call_kept _) fun _ => kept_event (hlist _) _
    · exact kept_event (ds.storeParam_kept c) _
  case checkUpload => exact ds.readChecksum_kept c fun ds => ds.event_kept _
  case storeDataSet => exact ds.readChecksum_kept c fun ds => alWriteDsCmdReq_kept ds _
  case downloadDone => exact ds.readChecksum_kept c fun ds => ds.event_kept _
  all_goals exact Kept.refl ds

theorem writeCnfCb_kept (ds : Ds) (errortype : SmiErrorType) :
    ds.Kept (ds.writeCnfCb errortype) := by
  rw [writeCnfCb]
  by_cases herr : errortype ≠ SmiErrorType.none
  · rw [if_pos herr]
    exact ds.event_kept _
  rw [if_neg herr]
  cases ds.state
  case checkUpload => exact ds.event_kept _
  case checkDsValidity => exact ds.event_kept _
  case writeParameter => exact ds.event_kept _
  case storeDataSet =>
    refine kept_event ?_ _
    exact ⟨rfl, rfl, id, rfl⟩
  case decomposeSet => exact ds.event_kept _
  case downloadDone => exact ⟨rfl, rfl, id, rfl⟩
  case dsFault =>
    refine kept_event ?_ _
    exact ⟨rfl, rfl, id, rfl⟩
  all_goals exact Kept.refl ds

/-- Only a configuration changes the flags, apart from clearing `ds_enable`. -/
theorem step_kept (ds : Ds) (i : DsInput) (hinit : ∀ cfg, i ≠ .init cfg) : ds.Kept (ds.step i) := by
  have hfresh : ds.Kept { ds with calls := [] } := ⟨rfl, rfl, id, rfl⟩
  cases i with
  | readCnf c => exact hfresh.trans (readCnfCb_kept _ c)
  | writeCnf errortype => exact hfresh.trans (writeCnfCb_kept _ errortype)
  | startup => exact kept_event hfresh _
  | delete => exact kept_event hfresh _
  | init cfg => exact absurd rfl (hinit cfg)
  | upload => exact kept_event hfresh _
  | parServToDs exp argBlockLen block =>
    refine hfresh.trans ?_
    show Kept _ (smiParServToDsReq _ exp argBlockLen block)
    rw [smiParServToDsReq]
    split_ifs <;> exact ⟨rfl, rfl, id, rfl⟩
  | portInfo id => exact ⟨rfl, rfl, fun h => h, rfl⟩
  | setModeType11 => exact ⟨rfl, rfl, nofun, rfl⟩

/-- The capacity of the array never changes. -/
theorem sizeMax_step (ds : Ds) (i : DsInput) :
    (ds.step i).masterDs.sizeMax = ds.masterDs.sizeMax := by
  by_cases hinit : ∃ cfg, i = .init cfg
  · obtain ⟨cfg, rfl⟩ := hinit
    exact (event_kept ({ ds with calls := [] }.configure cfg) .init).sizeMax
  · exact (ds.step_kept i fun cfg h => hinit ⟨cfg, h⟩).sizeMax

/-- What the data pointer of a write request reaches. -/
def fetch (ds : Ds) : WriteData → List Octet
  | .command => [ds.command.code]
  | .data pos len => ds.masterDs.data.slice pos len

/-- The calls made for an input, with the octets the application layer reads through the
pointers. -/
def outputs (ds : Ds) (i : DsInput) : List (DsCall (List Octet)) :=
  (ds.step i).calls.map (DsCall.map (ds.step i).fetch)

end Ds

end IolHat
