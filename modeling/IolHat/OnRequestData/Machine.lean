import IolHat.Types
import IolHat.Lib.Fsm
import Mathlib.Tactic.Simps.Basic

/-!
# On-request Data Exchange

The layer (`iolink_ode.c`) passes one read or write service of the application at a time to the
application layer and reports its result. The service under way is kept in one record, `smiReq`,
which a confirmation changes *before* the state machine is asked whether anybody waits for it.

Requests carry a number, `tag`, which the program does not have: it is copied wherever the
program copies the request, and says for which request an answer has been made. No function
looks at it.
-/

namespace IolHat

open Octets

/-! ### Requests and answers -/

/-- `arg_block_od_t`, with the octets at `data`. -/
structure ArgBlockOd where
  id : ArgBlockId := ArgBlockId.odRd
  index : UInt16 := 0
  subindex : Octet := 0
  data : List Octet := []
  deriving DecidableEq

/-- `sizeof (arg_block_od_t)`. -/
abbrev sizeofArgBlockOd : ℕ := 5

/-- `iolink_smi_service_req_t`. -/
structure SmiServiceReq where
  exp : ArgBlockId := ArgBlockId.odRd
  argBlockLen : ℕ := 0
  argBlock : ArgBlockOd := {}
  result : SmiErrorType := SmiErrorType.none
  /-- The number of the request. -/
  tag : ℕ := 0
  deriving DecidableEq

/-- What the application is told: `iolink_smi_cnf`, `iolink_smi_voidblock_cnf` or
`iolink_smi_joberror_ind`. -/
inductive SmiAnswer
  | cnf (ref : ArgBlockId) (argBlockLen : ℕ) (argBlock : ArgBlockOd)
  | voidblock (ref : ArgBlockId)
  | joberror (exp ref : ArgBlockId) (error : SmiErrorType)
  deriving DecidableEq

/-- The calls of the layer. -/
inductive OdeCall
  | alReadReq (tag : ℕ) (index : UInt16) (subindex : Octet)
  | alWriteReq (tag : ℕ) (index : UInt16) (subindex : Octet) (data : List Octet)
  | answer (tag : ℕ) (a : SmiAnswer)
  /-- `CC_ASSERT (0)`. -/
  | assertion
  deriving DecidableEq

/-! ### The context -/

/-- `iolink_ode_state_t`. -/
inductive OdeState
  | inactive | odActive | odBlocked
  deriving DecidableEq, Repr, Inhabited

/-- `iolink_fsm_ode_event_t`. -/
inductive OdeEvent
  | none | smiDevRw1 | odStart | odStop | smiDevRw4 | odBlock | smiDevRw6 | odUnblock
  deriving DecidableEq, Repr, Inhabited

/-- `iolink_ode_port_t`, with the calls made by the current job. -/
structure Ode where
  state : OdeState := .inactive
  smiReq : SmiServiceReq := {}
  /-- `job_smi_req_busy`. -/
  jobSmiReqBusy : SmiServiceReq := {}
  calls : List OdeCall := []

namespace SmiServiceReq

/-- The service is a read. -/
abbrev IsRead (r : SmiServiceReq) : Prop :=
  r.exp = ArgBlockId.odRd ∧ r.argBlock.id = ArgBlockId.odRd

/-- The service is a write. -/
abbrev IsWrite (r : SmiServiceReq) : Prop :=
  r.exp = ArgBlockId.voidBlock ∧ r.argBlock.id = ArgBlockId.odWr

/-- The octets a read may return, `arg_block_data_len`. -/
def readRoom (r : SmiServiceReq) : ℕ := narrow8 (narrow8 r.argBlockLen + 256 - sizeofArgBlockOd)

/-- The octets a write sends. -/
def writeLen (r : SmiServiceReq) : ℕ :=
  if sizeofArgBlockOd ≤ narrow8 r.argBlockLen then narrow8 r.argBlockLen - sizeofArgBlockOd else 0

/-- The data of a confirmation goes to the arg block, if there is room for it. -/
def fill (r : SmiServiceReq) (c : ReadCnf) : SmiServiceReq :=
  if c.len ≤ r.readRoom then
    { r with
      argBlock := { r.argBlock with
        data := overwrite (overwrite r.argBlock.data 0 (List.replicate r.readRoom 0)) 0 c.value }
      argBlockLen := narrow8 (c.len + sizeofArgBlockOd) }
  else { r with result := SmiErrorType.argblockLengthInvalid }

end SmiServiceReq

namespace Ode

@[simps] def enter (s : OdeState) (ode : Ode) : Ode := { ode with state := s }

@[simps] def call (ode : Ode) (c : OdeCall) : Ode := { ode with calls := ode.calls ++ [c] }

@[simps] def setReq (ode : Ode) (r : SmiServiceReq) : Ode := { ode with smiReq := r }

@[simps] def setBusy (ode : Ode) (r : SmiServiceReq) : Ode := { ode with jobSmiReqBusy := r }

/-- A new job: no calls have been made yet. -/
@[simps] def newJob (ode : Ode) : Ode := { ode with calls := [] }

/-- An answer made for a request. -/
def answer (ode : Ode) (r : SmiServiceReq) (a : SmiAnswer) : Ode := ode.call (.answer r.tag a)

/-! ### Actions -/

/-- The services that are not supported. -/
abbrev Batch (ref : ArgBlockId) : Prop :=
  ref = ArgBlockId.portInxdexList ∨ ref = ArgBlockId.devParBat

/-- The error `ode_smi_od_err` reports for a service that is refused. -/
def odErrType (event : OdeEvent) (ref : ArgBlockId) : SmiErrorType :=
  if ref = ArgBlockId.odRd ∨ ref = ArgBlockId.odWr ∨ Batch ref then
    if Batch ref then SmiErrorType.serviceNotSupported
    else if event = .smiDevRw1 then SmiErrorType.idxNotavail
    else SmiErrorType.serviceTempUnavailable
  else SmiErrorType.argblockNotSupported

/-- `ode_smi_od_err`. -/
def smiOdErr (ode : Ode) (event : OdeEvent) : Ode :=
  let r := ode.jobSmiReqBusy
  let ode := if Batch r.argBlock.id ∨ event = .smiDevRw1 ∨ event = .smiDevRw6 then ode
    else ode.call .assertion
  ode.answer r (.joberror r.exp r.argBlock.id (odErrType event r.argBlock.id))

/-- `ode_AL_Read_req`. -/
def alReadReq (ode : Ode) : Ode :=
  ode.call (.alReadReq ode.smiReq.tag ode.smiReq.argBlock.index ode.smiReq.argBlock.subindex)

/-- `ode_AL_Write_req`. -/
def alWriteReq (ode : Ode) : Ode :=
  let r := ode.smiReq
  ode.call (.alWriteReq r.tag r.argBlock.index r.argBlock.subindex
    (r.argBlock.data.take r.writeLen))

/-- `ode_smi_rw`. -/
def smiRw (ode : Ode) : Ode × OdeEvent :=
  let r := ode.smiReq
  if r.IsRead then (ode.alReadReq, .odBlock)
  else if r.IsWrite then (ode.alWriteReq, .odBlock)
  else
    (ode.answer r (.joberror r.exp r.argBlock.id
      (if Batch r.argBlock.id then SmiErrorType.serviceNotSupported
       else SmiErrorType.argblockNotSupported)), .none)

/-- `ode_smi_done`. -/
def smiDone (ode : Ode) : Ode :=
  let r := ode.smiReq
  if r.result ≠ SmiErrorType.none then ode.answer r (.joberror r.exp r.argBlock.id r.result)
  else if r.IsRead then ode.answer r (.cnf r.argBlock.id r.argBlockLen r.argBlock)
  else if r.IsWrite then ode.answer r (.voidblock r.argBlock.id)
  else ode.call .assertion

/-- The actions of the transition table. -/
inductive Action
  | smiOdErr | odStart | odStop | smiRw | smiDone | wait
  deriving DecidableEq

/-- The action functions `ode_…`. -/
def perform : Action → Ode → OdeEvent → Ode × OdeEvent
  | .smiOdErr, ode, e => (ode.smiOdErr e, .none)
  | .odStart, ode, _ => (ode, .none)
  | .odStop, ode, _ => (ode, .none)
  | .smiRw, ode, _ => ode.smiRw
  | .smiDone, ode, _ => (ode.smiDone, .none)
  | .wait, ode, _ => (ode, .none)

/-- No action changes the state of the machine. -/
theorem perform_state (a : Action) (ode : Ode) (e : OdeEvent) :
    (perform a ode e).1.state = ode.state := by
  cases a
  case smiOdErr =>
    rw [perform, smiOdErr]
    dsimp only
    split_ifs <;> rfl
  case smiRw =>
    rw [perform, smiRw]
    split_ifs <;> rfl
  case smiDone =>
    rw [perform, smiDone]
    split_ifs <;> rfl
  all_goals rfl

/-! ### The transition table -/

/-- `iolink_ode_fsm`. -/
def transitions : OdeState → List (Fsm.Transition OdeState OdeEvent Action)
  | .inactive =>
    [⟨.odStart, .odActive, .odStart⟩, -- T2
     ⟨.smiDevRw1, .inactive, .smiOdErr⟩, -- T1
     ⟨.odStop, .inactive, .odStop⟩]
  | .odActive =>
    [⟨.smiDevRw4, .odActive, .smiRw⟩, -- T4
     ⟨.odBlock, .odBlocked, .wait⟩, -- T5
     ⟨.odStop, .inactive, .odStop⟩] -- T3
  | .odBlocked =>
    [⟨.odUnblock, .odActive, .smiDone⟩, -- T7
     ⟨.smiDevRw6, .odBlocked, .smiOdErr⟩, -- T6
     ⟨.odStop, .inactive, .odStop⟩]

/-- Only a service that is passed on has a follow-up event. -/
def eventRank (_ : OdeState) : OdeEvent → ℕ
  | .smiDevRw4 => 1
  | _ => 0

theorem smiRw_event (ode : Ode) : ode.smiRw.2 = .odBlock ∨ ode.smiRw.2 = .none := by
  rw [smiRw]
  split_ifs <;> simp

/-- The follow-up event of each row has a lower rank. -/
private theorem perform_rank (ode : Ode) {s : OdeState}
    {t : Fsm.Transition OdeState OdeEvent Action} (ht : t ∈ transitions s)
    (hnone : (perform t.action ode t.event).2 ≠ .none) (s' : OdeState) :
    eventRank s' (perform t.action ode t.event).2 < eventRank s t.event := by
  have hrw : t = ⟨.smiDevRw4, .odActive, .smiRw⟩ := by
    cases s <;> simp only [transitions, List.mem_cons, List.not_mem_nil, or_false] at ht
    all_goals
      rcases ht with rfl | rfl | rfl
      all_goals first | rfl | exact absurd rfl hnone
  subst hrw
  rcases smiRw_event ode with h | h
  · show eventRank s' ode.smiRw.2 < 1
    rw [h]
    exact Nat.zero_lt_one
  · exact absurd h hnone

/-- `iolink_ode_event` with its table `iolink_ode_fsm`. -/
def fsm : Fsm.Machine Ode OdeState OdeEvent Action where
  state := Ode.state
  enter := enter
  table := transitions
  perform := perform
  idle := .none
  rank := eventRank
  state_enter _ _ := rfl
  rank_lt ode e t ht he hnone := by
    subst he
    exact perform_rank _ ht hnone _

/-- `iolink_ode_event`. -/
def event (ode : Ode) (e : OdeEvent) : Ode := fsm.drive ode e

/-! ### The jobs of the layer -/

/-- `SMI_rw_req_cb`. -/
def smiRwReqCb (ode : Ode) (r : SmiServiceReq) : Ode :=
  match ode.state with
  | .odActive => (ode.setReq { r with result := SmiErrorType.none }).event .smiDevRw4
  | .inactive => (ode.setBusy r).event .smiDevRw1
  | .odBlocked => (ode.setBusy r).event .smiDevRw6

/-- `ode_read_cnf_cb`. -/
def readCnfCb (ode : Ode) (c : ReadCnf) : Ode :=
  let r := { ode.smiReq with result := c.errortype }
  (ode.setReq (if c.errortype = SmiErrorType.none then r.fill c else r)).event .odUnblock

/-- `ode_write_cnf_cb`. -/
def writeCnfCb (ode : Ode) (errortype : SmiErrorType) : Ode :=
  (ode.setReq (if errortype ≠ SmiErrorType.none then { ode.smiReq with result := errortype }
    else ode.smiReq)).event .odUnblock

/-- `od_start_cb`. -/
def odStartCb (ode : Ode) : Ode := ode.event .odStart

/-- `od_stop_cb`. -/
def odStopCb (ode : Ode) : Ode := ode.event .odStop

end Ode

/-! ### The services -/

/-- The services of the layer. -/
inductive OdeService
  | deviceRead | deviceWrite | paramReadBatch | paramWriteBatch
  deriving DecidableEq, Repr

/-- The return value of `ode_SMI_DeviceRead_req` and its siblings; only with
`IOLINK_ERROR_NONE` has a job been posted. -/
def OdeService.request : OdeService → SmiServiceReq → IolinkError
  | .deviceRead, r => if r.exp ≠ ArgBlockId.odRd then .parameterConflict else .none
  | .deviceWrite, r => if r.exp ≠ ArgBlockId.voidBlock then .parameterConflict else .none
  | .paramReadBatch, _ => .none
  | .paramWriteBatch, _ => .none

end IolHat
