import IolHat.Types
import IolHat.Lib.Fsm
import Mathlib.Tactic.Simps.Basic

/-!
# The application layer

The application layer (`iolink_al.c`) takes one read or write service at a time. Index 0 and 1 are
the direct parameter pages; every other index is carried by an ISDU. The confirmation of the data
link layer is turned into an error type, and the callback of the service is called with it.

The callbacks have the type `κ`: a service remembers the one it was given, and no function looks
at it. `DL_ISDUTransport_cnf` stores the response as soon as the data link layer calls it, before
the job it posts is handled; `Al.isduTransportCnf` is this part of it.
-/

namespace IolHat

open Octets

/-! ### Services -/

/-- The arguments of `AL_Read_req` and `AL_Write_req`. -/
inductive AlRwReq (κ : Type)
  | read (index : UInt16) (subindex : Octet) (callback : κ)
  | write (index : UInt16) (subindex : Octet) (data : List Octet) (callback : κ)
  deriving DecidableEq

/-- The callback of a request. -/
def AlRwReq.callback {κ : Type} : AlRwReq κ → κ
  | .read _ _ k => k
  | .write _ _ _ k => k

/-- The calls of the layer. -/
inductive AlCall (κ : Type)
  /-- `DL_ReadParam_req`. -/
  | readParamReq (address : UInt16)
  /-- `DL_WriteParam_req`; a service without data has no first octet. -/
  | writeParamReq (address : UInt16) (value : Option Octet)
  /-- `DL_ISDUTransport_req`. -/
  | isduTransportReq (valuelist : IsduVl)
  /-- `al_read_cnf_cb`, with the receive buffer, or without data. -/
  | readCnf (callback : κ) (len : Octet) (data : Option (Buffer Octet isduMaxSize))
      (errortype : SmiErrorType)
  /-- `al_write_cnf_cb`. -/
  | writeCnf (callback : κ) (errortype : SmiErrorType)
  /-- An octet is stored behind `data_read`. -/
  | overrun
  /-- `CC_ASSERT (0)`. -/
  | assertion
  deriving DecidableEq

/-- `al->service`. The two callbacks share their memory. -/
structure AlService (κ : Type) where
  index : UInt16 := 0
  subindex : Octet := 0
  direction : RwDirection := .write
  dataRead : Buffer Octet isduMaxSize := .fill 0
  /-- The octets at `data_write`. -/
  dataWrite : List Octet := []
  dataLen : Octet := 0
  errinfo : Status := .noError
  qualifier : Octet := 0
  jobReq : Option (AlRwReq κ) := none
  callback : Option κ := none

/-- `iolink_al_od_state_t`. -/
inductive AlOdState
  | onReqIdle | buildDlService | awaitDlParamCnf | awaitDlIsduCnf
  deriving DecidableEq, Repr, Inhabited

/-- `iolink_fsm_al_od_event_t`. -/
inductive AlOdEvent
  | none | service | argErr | paramRead | paramWrite1 | paramWrite2 | isduRead | isduWrite | abort
  | rwparam | readparamCnf | writeparamCnf | isdutransportCnf | abortPort
  deriving DecidableEq, Repr, Inhabited

/-- The on-request data part of `iolink_al_port_t`, with the calls made by the current job. -/
structure Al (κ : Type) where
  odState : AlOdState := .onReqIdle
  service : AlService κ := {}
  calls : List (AlCall κ) := []

/-! ### Error types -/

/-- `al_status_to_errortype`. -/
def alStatusToErrortype : Status → SmiErrorType
  | .noError => SmiErrorType.none
  | .isduIllegalServicePrimitive => SmiErrorType.mIsduIllegal
  | .invalid => SmiErrorType.comErr
  | .isduChecksumError => SmiErrorType.mIsduChecksum
  | .isduTimeout => SmiErrorType.iServiceTimeout
  | _ => SmiErrorType.appDev

namespace AlService

variable {κ : Type} (s : AlService κ)

/-- The error type in a negative response of two octets. -/
def deviceError : SmiErrorType :=
  if s.dataLen = 2 then ((s.dataRead.get 0).toUInt16 <<< 8) ||| (s.dataRead.get 1).toUInt16
  else SmiErrorType.appDev

/-- The error type found in a response before the status is looked at. -/
def isduErrortype : SmiErrorType :=
  if s.errinfo = .isduChecksumError then SmiErrorType.mIsduChecksum
  else
    match s.direction with
    | .read =>
      if s.qualifier = iserviceReadResponseNeg then s.deviceError
      else if s.qualifier = iserviceReadResponsePos then SmiErrorType.none
      else SmiErrorType.appDev
    | .write =>
      if s.qualifier = iserviceWriteResponseNeg then s.deviceError
      else if s.qualifier = iserviceWriteResponsePos then SmiErrorType.none
      else if s.qualifier = iserviceNoService ∧ s.errinfo = .noError then SmiErrorType.comErr
      else SmiErrorType.none

/-- `al_err_to_errortype`. -/
def errToErrortype (isIsdu : Bool) : SmiErrorType :=
  if isIsdu ∧ s.isduErrortype ≠ SmiErrorType.none then s.isduErrortype
  else alStatusToErrortype s.errinfo

/-- The status of a confirmation is stored. -/
@[simps] def confirmed (qualifier : Octet) (stat : Status) : AlService κ :=
  { s with errinfo := stat, qualifier := qualifier }

/-- The responses that `DL_ISDUTransport_cnf` stores. -/
def Stores (qualifier : Octet) (errinfo : Status) : Prop :=
  s.direction = .read ∧ errinfo = .noError ∨
    s.direction = .write ∧ qualifier = iserviceWriteResponseNeg

instance (qualifier : Octet) (errinfo : Status) : Decidable (s.Stores qualifier errinfo) :=
  inferInstanceAs (Decidable (_ ∧ _ ∨ _ ∧ _))

/-- The value list of `al_od_isdu_read_write`. Its `data_read` and `data_write` share their
memory. -/
def valuelist (rwdirection : RwDirection) : IsduVl where
  index := s.index
  subindex := s.subindex
  data := (match rwdirection with
    | .read => s.dataRead.cells
    | .write => s.dataWrite).take s.dataLen.toNat
  length_lt := Nat.lt_of_le_of_lt (List.length_take_le _ _) s.dataLen.toNat_lt
  readwrite := rwdirection

end AlService

namespace Al

variable {κ : Type}

/-! ### Field updates -/

@[simps] def enter (s : AlOdState) (al : Al κ) : Al κ := { al with odState := s }

@[simps] def call (al : Al κ) (c : AlCall κ) : Al κ := { al with calls := al.calls ++ [c] }

@[simps] def modService (al : Al κ) (f : AlService κ → AlService κ) : Al κ :=
  { al with service := f al.service }

/-- A new job: no calls have been made yet. -/
@[simps] def newJob (al : Al κ) : Al κ := { al with calls := [] }

/-- The callback is called; a null pointer is not called. -/
def answer (al : Al κ) (c : κ → AlCall κ) : Al κ :=
  al.call ((al.service.callback.map c).getD .assertion)

/-! ### Actions -/

/-- `al_od_busy`. -/
def odBusy (al : Al κ) : Al κ :=
  match al.service.jobReq with
  | some (.read _ _ k) => al.call (.readCnf k 0 none SmiErrorType.serviceTempUnavailable)
  | some (.write _ _ _ k) => al.call (.writeCnf k SmiErrorType.serviceTempUnavailable)
  | none => al.call .assertion

/-- The event of a request. There is no write service on index 0. -/
def requestEvent : AlRwReq κ → AlOdEvent
  | .read index _ _ => if index ≤ 1 then .paramRead else .isduRead
  | .write index _ _ _ =>
    if index = 1 then .paramWrite1 else if 2 ≤ index then .isduWrite else .argErr

/-- The service of a request. -/
def serviceOf (s : AlService κ) : AlRwReq κ → AlService κ
  | .read index subindex k =>
    { s with dataLen := 0, index, subindex, direction := .read, callback := some k }
  | .write index subindex data k =>
    { s with
      index, subindex, dataLen := UInt8.ofNat data.length, direction := .write, dataWrite := data,
      callback := some k }

/-- `al_od_build_dl_service`. -/
def odBuildDlService (al : Al κ) : Al κ × AlOdEvent :=
  match al.service.jobReq with
  | none => (al.call .assertion, .argErr)
  | some r =>
    let al := al.modService (serviceOf · r)
    (if requestEvent r = .argErr then al.modService ({ · with errinfo := .parameterConflict })
      else al, requestEvent r)

/-- The negative confirmation of a service that is not carried out. -/
def negativeCnf (al : Al κ) : Al κ :=
  let e := al.service.errToErrortype false
  match al.service.direction with
  | .read => al.answer (.readCnf · 0 none e)
  | .write => al.answer (.writeCnf · e)

/-- `al_od_send_al_cnf`. -/
def odSendAlCnf (al : Al κ) (event : AlOdEvent) : Al κ :=
  let s := al.service
  match event with
  | .abort | .argErr => al.negativeCnf -- T2, T9, T11
  | .readparamCnf => -- T13
    al.answer (.readCnf · s.dataLen (some s.dataRead) (s.errToErrortype false))
  | .isdutransportCnf => -- T15
    match s.direction with
    | .read => al.answer (.readCnf · s.dataLen (some s.dataRead) (s.errToErrortype true))
    | .write => al.answer (.writeCnf · (s.errToErrortype true))
  | .writeparamCnf => al.answer (.writeCnf · (s.errToErrortype false)) -- T14
  | _ => al.call .assertion

/-- `al_od_param_write`. -/
def odParamWrite (al : Al κ) (event : AlOdEvent) : Al κ :=
  let s := al.service
  let al := if event = .paramWrite1 ∧ s.index = 1 ∨ event = .paramWrite2 ∧ s.index = 2 then al
    else al.call .assertion
  al.call (.writeParamReq s.index (s.dataWrite.take s.dataLen.toNat).head?)

/-- The actions of the transition table. -/
inductive Action
  | odBusy | odBuildDlService | odSendAlCnf | odSendAbortAlCnf | odIsduRead | odIsduWrite
  | odParamRead | odParamWrite | odParamNextRw
  deriving DecidableEq

/-- The action functions `al_…`. -/
def perform : Action → Al κ → AlOdEvent → Al κ × AlOdEvent
  | .odBusy, al, _ => (al.odBusy, .none)
  | .odBuildDlService, al, _ => al.odBuildDlService
  | .odSendAlCnf, al, e => (al.odSendAlCnf e, .none)
  | .odSendAbortAlCnf, al, _ => (al, .none)
  | .odIsduRead, al, _ => (al.call (.isduTransportReq (al.service.valuelist .read)), .none)
  | .odIsduWrite, al, _ => (al.call (.isduTransportReq (al.service.valuelist .write)), .none)
  | .odParamRead, al, _ => (al.call (.readParamReq al.service.index), .none)
  | .odParamWrite, al, e => (al.odParamWrite e, .none)
  | .odParamNextRw, al, _ => (al, .none)

/-- No action changes the state of the machine. -/
theorem perform_state (a : Action) (al : Al κ) (e : AlOdEvent) :
    (perform a al e).1.odState = al.odState := by
  have hnegative : al.negativeCnf.odState = al.odState := by
    rw [negativeCnf.eq_def]
    split <;> rfl
  cases a
  case odBusy =>
    rw [perform, odBusy]
    split <;> rfl
  case odBuildDlService =>
    rw [perform, odBuildDlService]
    split
    · rfl
    · dsimp only
      split_ifs <;> rfl
  case odSendAlCnf =>
    rw [perform, odSendAlCnf.eq_def]
    dsimp only
    split
    · exact hnegative
    · exact hnegative
    · rfl
    · split <;> rfl
    · rfl
    · rfl
  case odParamWrite =>
    rw [perform, odParamWrite]
    dsimp only
    split_ifs <;> rfl
  all_goals rfl

/-! ### The transition table -/

/-- `iolink_al_od_fsm`. -/
def transitions : AlOdState → List (Fsm.Transition AlOdState AlOdEvent Action)
  | .onReqIdle =>
    [⟨.service, .buildDlService, .odBuildDlService⟩, -- T1
     ⟨.abortPort, .onReqIdle, .odSendAbortAlCnf⟩] -- T17
  | .buildDlService =>
    [⟨.argErr, .onReqIdle, .odSendAlCnf⟩, -- T2 + T16
     ⟨.paramRead, .awaitDlParamCnf, .odParamRead⟩, -- T3
     ⟨.paramWrite1, .awaitDlParamCnf, .odParamWrite⟩, -- T4
     ⟨.paramWrite2, .awaitDlParamCnf, .odParamWrite⟩, -- T5
     ⟨.isduRead, .awaitDlIsduCnf, .odIsduRead⟩, -- T6
     ⟨.isduWrite, .awaitDlIsduCnf, .odIsduWrite⟩] -- T7
  | .awaitDlParamCnf =>
    [⟨.service, .awaitDlParamCnf, .odBusy⟩, -- T8
     ⟨.abort, .onReqIdle, .odSendAlCnf⟩, -- T9 + T16
     ⟨.rwparam, .awaitDlParamCnf, .odParamNextRw⟩, -- T10
     ⟨.readparamCnf, .onReqIdle, .odSendAlCnf⟩, -- T13 + T16
     ⟨.writeparamCnf, .onReqIdle, .odSendAlCnf⟩] -- T14 + T16
  | .awaitDlIsduCnf =>
    [⟨.abort, .onReqIdle, .odSendAlCnf⟩, -- T11 + T16
     ⟨.service, .awaitDlIsduCnf, .odBusy⟩, -- T12
     ⟨.isdutransportCnf, .onReqIdle, .odSendAlCnf⟩] -- T15 + T16

/-- Only a service that is built has a follow-up event. -/
def eventRank (s : AlOdState) : AlOdEvent → ℕ
  | .service => if s = .onReqIdle then 1 else 0
  | _ => 0

theorem requestEvent_ne_service (r : AlRwReq κ) : requestEvent r ≠ .service := by
  cases r with
  | read => rw [requestEvent]; split_ifs <;> nofun
  | write => rw [requestEvent]; split_ifs <;> nofun

theorem odBuildDlService_ne_service (al : Al κ) : al.odBuildDlService.2 ≠ .service := by
  rw [odBuildDlService]
  split
  · nofun
  · exact requestEvent_ne_service _

/-- A service is built in one row only. -/
theorem build_rows (s : AlOdState) : ∀ t ∈ transitions s, t.action = .odBuildDlService →
    s = .onReqIdle ∧ t.event = .service := by
  cases s <;> decide

/-- Every other action ends the loop. -/
theorem perform_event {a : Action} (ha : a ≠ .odBuildDlService) (al : Al κ)
    (e : AlOdEvent) : (perform a al e).2 = .none := by
  cases a
  case odBuildDlService => exact absurd rfl ha
  all_goals rfl

private theorem eventRank_of_ne (s : AlOdState) {e : AlOdEvent} (he : e ≠ .service) :
    eventRank s e = 0 := by
  cases e
  case service => exact absurd rfl he
  all_goals rfl

/-- The follow-up event of each row has a lower rank. -/
private theorem perform_rank (al : Al κ) {s : AlOdState}
    {t : Fsm.Transition AlOdState AlOdEvent Action} (ht : t ∈ transitions s)
    (hnone : (perform t.action al t.event).2 ≠ .none) (s' : AlOdState) :
    eventRank s' (perform t.action al t.event).2 < eventRank s t.event := by
  have hbuild : t.action = .odBuildDlService := by
    by_contra ha
    exact hnone (perform_event ha al t.event)
  obtain ⟨rfl, hevent⟩ := build_rows s t ht hbuild
  rw [hbuild, hevent]
  have hne : (perform .odBuildDlService al .service).2 ≠ .service := al.odBuildDlService_ne_service
  rw [eventRank_of_ne s' hne]
  exact Nat.zero_lt_one

/-- `iolink_al_od_event` with its table `iolink_al_od_fsm`. -/
def fsm : Fsm.Machine (Al κ) AlOdState AlOdEvent Action where
  state := Al.odState
  enter := enter
  table := transitions
  perform := perform
  idle := .none
  rank := eventRank
  state_enter _ _ := rfl
  rank_lt al e t ht he hnone := by
    subst he
    exact perform_rank _ ht hnone _

/-- `iolink_al_od_event`. -/
def odEvent (al : Al κ) (e : AlOdEvent) : Al κ := fsm.drive al e

theorem odEvent_of_row {al : Al κ} {e : AlOdEvent} {t : Fsm.Transition AlOdState AlOdEvent Action}
    (h : fsm.row al e = some t) (ha : t.action ≠ .odBuildDlService) :
    al.odEvent e = (perform t.action (al.enter t.next) e).1 :=
  Fsm.Machine.drive_of_row_idle h (Prod.ext rfl (perform_event ha _ _))

theorem odEvent_of_none {al : Al κ} {e : AlOdEvent} (h : fsm.row al e = none) :
    al.odEvent e = al := Fsm.Machine.drive_of_none h

/-- The row of a state and an event. -/
theorem row_eq (al : Al κ) (e : AlOdEvent) :
    fsm.row al e = Fsm.lookup (transitions al.odState) e := rfl

/-- A request has a row once its service is built. -/
theorem build_row (r : AlRwReq κ) :
    ∃ t, Fsm.lookup (transitions .buildDlService) (requestEvent r) = some t ∧
      t.action ≠ .odBuildDlService ∧ requestEvent r ≠ .none := by
  cases r with
  | read => rw [requestEvent]; split_ifs <;> exact ⟨_, rfl, nofun, nofun⟩
  | write => rw [requestEvent]; split_ifs <;> exact ⟨_, rfl, nofun, nofun⟩

/-! ### The jobs of the layer -/

/-- `al_read_write_cb`. -/
def readWriteCb (al : Al κ) (r : AlRwReq κ) : Al κ :=
  (al.modService ({ · with jobReq := some r })).odEvent .service

/-- `al_dl_readparam_cnf_cb`. -/
def dlReadparamCnfCb (al : Al κ) (val : Octet) (stat : Status) : Al κ :=
  let len := al.service.dataLen
  let al := if len.toNat < isduMaxSize then al else al.call .overrun
  (al.modService fun s => { s with
    dataRead := s.dataRead.set len.toNat val, dataLen := len + 1, errinfo := stat }).odEvent
      .readparamCnf

/-- `al_dl_writeparam_cnf_cb`; no octets are left. -/
def dlWriteparamCnfCb (al : Al κ) (stat : Status) : Al κ :=
  (al.modService ({ · with errinfo := stat })).odEvent .writeparamCnf

/-- `al_dl_isdu_transport_cnf_cb`. -/
def dlIsduTransportCnfCb (al : Al κ) (qualifier : Octet) (stat : Status) : Al κ :=
  (al.modService (·.confirmed qualifier stat)).odEvent .isdutransportCnf

/-- `al_abort_cb`. -/
def abortCb (al : Al κ) : Al κ :=
  let al := al.modService ({ · with errinfo := .isduAbort, dataLen := 0 })
  al.odEvent (if al.odState = .onReqIdle then .abortPort else .abort)

/-- `DL_ISDUTransport_cnf`, up to the job it posts: a response that fits is stored, for a read that
succeeded and for a write that was refused. -/
def isduTransportCnf (al : Al κ) (data : Option (List Octet)) (length : ℕ) (qualifier : Octet)
    (errinfo : Status) : Al κ :=
  match data with
  | none => al
  | some octets =>
    if al.service.Stores qualifier errinfo ∧ length ≤ isduMaxSize then
      al.modService fun s => { s with
        dataRead := s.dataRead.write 0 octets, dataLen := UInt8.ofNat length }
    else al

end Al

/-- The jobs of the layer. -/
inductive AlJob (κ : Type)
  /-- `AL_Read_req`, `AL_Write_req`. -/
  | service (r : AlRwReq κ)
  /-- `DL_ReadParam_cnf`. -/
  | readParamCnf (value : Octet) (stat : Status)
  /-- `DL_WriteParam_cnf`. -/
  | writeParamCnf (stat : Status)
  /-- `DL_ISDUTransport_cnf`. -/
  | isduTransportCnf (qualifier : Octet) (stat : Status)
  /-- `AL_Abort`. -/
  | abort

namespace Al

variable {κ : Type}

/-- One job. -/
def handle (al : Al κ) : AlJob κ → Al κ
  | .service r => al.newJob.readWriteCb r
  | .readParamCnf value stat => al.newJob.dlReadparamCnfCb value stat
  | .writeParamCnf stat => al.newJob.dlWriteparamCnfCb stat
  | .isduTransportCnf qualifier stat => al.newJob.dlIsduTransportCnfCb qualifier stat
  | .abort => al.newJob.abortCb

end Al

end IolHat
