import IolHat.Types
import IolHat.Lib.Fsm

/-!
# Event batches in the application layer

The data link layer hands the events of a device over one job each; the last event of a batch says
that none is left. The application layer collects the batch in `al->event.events` and hands it to
`AL_Event_ind` when it is complete. The array is used again for the next batch once the job of
`AL_Event_rsp` has been handled, which `AL_Event_ind` posts itself.
-/

namespace IolHat

open Octets

/-! ### Events -/

/-- `diag_entry_t`. -/
structure DiagEntry where
  eventQualifier : Octet := 0
  eventCode : UInt16 := 0
  deriving DecidableEq, Inhabited

/-- `IOLINK_EVENTCODE_DEV_DS_UPLOAD_REQ`. -/
def eventcodeDevDsUploadReq : UInt16 := 0xFF91

/-- One of the events asks for an upload of the parameters. -/
def RequestsUpload (events : List DiagEntry) : Prop :=
  ∃ event ∈ events, event.eventCode = eventcodeDevDsUploadReq

instance (events : List DiagEntry) : Decidable (RequestsUpload events) :=
  inferInstanceAs (Decidable (∃ event ∈ events, _))

theorem requestsUpload_append {events events' : List DiagEntry} :
    RequestsUpload (events ++ events') ↔ RequestsUpload events ∨ RequestsUpload events' := by
  simp only [RequestsUpload, List.mem_append, or_and_right, exists_or]

theorem RequestsUpload.mono {events events' : List DiagEntry} (h : RequestsUpload events)
    (hsub : ∀ event ∈ events, event ∈ events') : RequestsUpload events' := by
  obtain ⟨event, hmem, hcode⟩ := h
  exact ⟨event, hsub event hmem, hcode⟩

/-- `arg_block_devevent_t`. -/
structure ArgBlockDevevent where
  diagEntry : Buffer DiagEntry maxEvents := .fill {}
  eventCount : ℕ := 0
  deriving DecidableEq

/-- The events in the block. -/
def ArgBlockDevevent.events (block : ArgBlockDevevent) : List DiagEntry :=
  block.diagEntry.slice 0 block.eventCount

/-- The calls of the layer. -/
inductive AlEventCall
  /-- `AL_Event_rsp`, which posts a job. -/
  | eventRsp
  /-- `DS_Upload`. -/
  | dsUpload
  /-- `iolink_smi_cnf` with the block of a device event. -/
  | smiCnf (ref : ArgBlockId) (block : ArgBlockDevevent)
  /-- A failing `CC_ASSERT`. -/
  | assertion
  deriving DecidableEq

/-- The batch that a call reports. -/
def AlEventCall.reported : AlEventCall → Option (List DiagEntry)
  | .smiCnf _ block => some block.events
  | _ => none

/-- `iolink_al_event_state_t`. -/
inductive AlEventState
  | eventInactive | eventIdle | readEventSet | duEventHandling
  deriving DecidableEq, Repr, Inhabited

/-- `iolink_fsm_al_event_event_t`. -/
inductive AlEventEvent
  | none | dlEventIndMore | dlEventIndDone | alEventRsp | alEventReq
  deriving DecidableEq, Repr, Inhabited

/-- The event part of `iolink_al_port_t` after `iolink_al_init`, with the calls made by the current
job. -/
structure AlEvents where
  eventState : AlEventState := .eventIdle
  eventCnt : ℕ := 0
  events : Buffer DiagEntry maxEvents := .fill {}
  calls : List AlEventCall := []

namespace AlEvents

/-! ### Actions -/

def enter (s : AlEventState) (al : AlEvents) : AlEvents := { al with eventState := s }

def call (al : AlEvents) (c : AlEventCall) : AlEvents := { al with calls := al.calls ++ [c] }

/-- A new job: no calls have been made yet. -/
def newJob (al : AlEvents) : AlEvents := { al with calls := [] }

/-- `AL_Event_ind` with the arguments `event_cnt` and `events` of the layer. -/
def alEventInd (al : AlEvents) : AlEvents :=
  let al := al.call .eventRsp
  -- all six slots are looked at, not only the first `event_cnt`
  if RequestsUpload al.events.cells then al.call .dsUpload
  else if 6 < al.eventCnt then al
  else al.call (.smiCnf ArgBlockId.voidBlock
    { diagEntry := (Buffer.fill {}).write 0 (al.events.slice 0 al.eventCnt)
      eventCount := al.eventCnt })

/-- `al_event_idle`. -/
def alEventIdle (al : AlEvents) (event : AlEventEvent) : AlEvents :=
  let al := match event with
    | .alEventRsp | .alEventReq => al
    | _ => al.call .assertion
  { al with eventCnt := 0 }

/-- The actions of the transition table. -/
inductive Action
  | waitRead | duHandle | idle
  deriving DecidableEq

/-- The action functions `al_event_…`. -/
def perform : Action → AlEvents → AlEventEvent → AlEvents × AlEventEvent
  | .waitRead, al, _ => (al, .none)
  | .duHandle, al, _ => (al.alEventInd, .none)
  | .idle, al, event => (al.alEventIdle event, .none)

/-- `iolink_al_event_fsm`. -/
def transitions : AlEventState → List (Fsm.Transition AlEventState AlEventEvent Action)
  | .eventInactive => []
  | .eventIdle =>
    [⟨.dlEventIndMore, .readEventSet, .waitRead⟩, -- T3
     ⟨.dlEventIndDone, .duEventHandling, .duHandle⟩, -- T3 + T5
     ⟨.alEventReq, .eventIdle, .idle⟩] -- T7
  | .readEventSet =>
    [⟨.dlEventIndMore, .readEventSet, .waitRead⟩, -- T4
     ⟨.dlEventIndDone, .duEventHandling, .duHandle⟩] -- T5
  | .duEventHandling => [⟨.alEventRsp, .eventIdle, .idle⟩] -- T6

private theorem perform_idle (a : Action) (al : AlEvents) (event : AlEventEvent) :
    (perform a al event).2 = .none := by
  cases a <;> rfl

/-- `iolink_al_event_event` with its table. No action has a follow-up event. -/
def fsm : Fsm.Machine AlEvents AlEventState AlEventEvent Action where
  state := eventState
  enter := enter
  table := transitions
  perform := perform
  idle := .none
  rank _ _ := 0
  state_enter _ _ := rfl
  rank_lt _ _ _ _ _ hidle := absurd (perform_idle _ _ _) hidle

/-- `iolink_al_event_event`. -/
def event (al : AlEvents) (e : AlEventEvent) : AlEvents := fsm.drive al e

/-! ### The jobs of the layer -/

/-- An event is stored behind those of its batch. -/
def store (al : AlEvents) (evt : DiagEntry) : AlEvents :=
  { al with events := al.events.set al.eventCnt evt, eventCnt := al.eventCnt + 1 }

/-- `al_dl_event_ind_cb`. -/
def dlEventIndCb (al : AlEvents) (evt : DiagEntry) (eventsleft : Octet) : AlEvents :=
  if al.eventCnt < 6 then
    (al.store evt).event (if eventsleft ≠ 0 then .dlEventIndMore else .dlEventIndDone)
  else al.call .assertion

/-- `al_event_rsp_cb`. -/
def eventRspCb (al : AlEvents) : AlEvents := al.event .alEventRsp

end AlEvents

/-- The jobs of the layer. Nothing calls `AL_Event_req`. -/
inductive AlEventJob
  /-- `DL_Event_ind`. -/
  | dlEventInd (evt : DiagEntry) (eventsleft : Octet)
  /-- `AL_Event_rsp`. -/
  | eventRsp
  deriving DecidableEq

namespace AlEvents

/-- One job. -/
def handle (al : AlEvents) : AlEventJob → AlEvents
  | .dlEventInd evt eventsleft => al.newJob.dlEventIndCb evt eventsleft
  | .eventRsp => al.newJob.eventRspCb

/-! ### What a job does -/

/-- The layer takes events: no response is waited for. -/
def Takes (al : AlEvents) : Prop := al.eventState = .eventIdle ∨ al.eventState = .readEventSet

/-- The array is full. -/
theorem handle_full {al : AlEvents} (hcnt : 6 ≤ al.eventCnt) (evt : DiagEntry)
    (eventsleft : Octet) :
    (al.handle (.dlEventInd evt eventsleft)).calls = [.assertion] := by
  have hge : ¬ al.newJob.eventCnt < 6 := Nat.not_lt.mpr hcnt
  rw [handle, dlEventIndCb, if_neg hge]
  rfl

/-- An event with others to follow. -/
theorem handle_more {al : AlEvents} (hs : al.Takes) (hcnt : al.eventCnt < 6) (evt : DiagEntry)
    {eventsleft : Octet} (hleft : eventsleft ≠ 0) :
    al.handle (.dlEventInd evt eventsleft) = (al.newJob.store evt).enter .readEventSet := by
  have hlt : al.newJob.eventCnt < 6 := hcnt
  rw [handle, dlEventIndCb, if_pos hlt, if_pos hleft]
  have hrow : fsm.row (al.newJob.store evt) .dlEventIndMore =
      some ⟨.dlEventIndMore, .readEventSet, .waitRead⟩ := by
    rcases hs with hs | hs
    · exact Fsm.Machine.row_of_state hs rfl
    · exact Fsm.Machine.row_of_state hs rfl
  exact Fsm.Machine.drive_of_row_idle hrow rfl

/-- The last event of a batch. -/
theorem handle_done {al : AlEvents} (hs : al.Takes) (hcnt : al.eventCnt < 6) (evt : DiagEntry) :
    al.handle (.dlEventInd evt 0) =
      ((al.newJob.store evt).enter .duEventHandling).alEventInd := by
  have hlt : al.newJob.eventCnt < 6 := hcnt
  rw [handle, dlEventIndCb, if_pos hlt, if_neg (by decide)]
  have hrow : fsm.row (al.newJob.store evt) .dlEventIndDone =
      some ⟨.dlEventIndDone, .duEventHandling, .duHandle⟩ := by
    rcases hs with hs | hs
    · exact Fsm.Machine.row_of_state hs rfl
    · exact Fsm.Machine.row_of_state hs rfl
  exact Fsm.Machine.drive_of_row_idle hrow rfl

/-- An event that arrives while a response is waited for is stored and not looked at. -/
theorem handle_early {al : AlEvents} (hs : al.eventState = .duEventHandling)
    (hcnt : al.eventCnt < 6) (evt : DiagEntry) (eventsleft : Octet) :
    al.handle (.dlEventInd evt eventsleft) = al.newJob.store evt := by
  have hlt : al.newJob.eventCnt < 6 := hcnt
  rw [handle, dlEventIndCb, if_pos hlt]
  refine Fsm.Machine.drive_of_none (M := fsm) (Fsm.Machine.row_of_state hs ?_)
  split_ifs <;> rfl

/-- The response: the array is used again. -/
theorem handle_eventRsp {al : AlEvents} (hs : al.eventState = .duEventHandling) :
    al.handle .eventRsp = { al.newJob.enter .eventIdle with eventCnt := 0 } := by
  have hrow : fsm.row al.newJob .alEventRsp = some ⟨.alEventRsp, .eventIdle, .idle⟩ :=
    Fsm.Machine.row_of_state hs rfl
  exact Fsm.Machine.drive_of_row_idle hrow rfl

/-- A response that is not waited for. -/
theorem handle_eventRsp_of_takes {al : AlEvents} (hs : al.Takes) :
    al.handle .eventRsp = al.newJob := by
  refine Fsm.Machine.drive_of_none (M := fsm) ?_
  rcases hs with hs | hs
  · exact Fsm.Machine.row_of_state hs rfl
  · exact Fsm.Machine.row_of_state hs rfl

/-! ### A complete batch -/

/-- The batches that the calls of a job report. -/
def reported (al : AlEvents) : List (List DiagEntry) := al.calls.filterMap AlEventCall.reported

/-- A slot that asks for an upload hides the batch. -/
theorem alEventInd_upload {al : AlEvents} (h : RequestsUpload al.events.cells) :
    al.alEventInd = (al.call .eventRsp).call .dsUpload := by
  have hcells : RequestsUpload (al.call .eventRsp).events.cells := h
  rw [alEventInd, if_pos hcells]

/-- Without such a slot the batch is reported. -/
theorem alEventInd_report {al : AlEvents} (h : ¬ RequestsUpload al.events.cells)
    (hcnt : al.eventCnt ≤ 6) :
    ∃ block : ArgBlockDevevent, block.events = al.events.slice 0 al.eventCnt ∧
      al.alEventInd = (al.call .eventRsp).call (.smiCnf ArgBlockId.voidBlock block) := by
  have hcells : ¬ RequestsUpload (al.call .eventRsp).events.cells := h
  have hge : ¬ 6 < (al.call .eventRsp).eventCnt := Nat.not_lt.mpr hcnt
  refine ⟨_, ?_, by rw [alEventInd, if_neg hcells, if_neg hge]⟩
  have hlen : (al.events.slice 0 al.eventCnt).length = al.eventCnt :=
    al.events.length_slice (by show 0 + al.eventCnt ≤ 6; omega)
  have hfits : (al.events.slice 0 al.eventCnt).length ≤ maxEvents := hlen.symm ▸ hcnt
  have hfront := Buffer.slice_zero_write (n := maxEvents) (.fill {}) hfits
  rwa [hlen] at hfront

/-- The front of the array after an event has been stored. -/
theorem slice_store {al : AlEvents} (hcnt : al.eventCnt < 6) (evt : DiagEntry) :
    (al.newJob.store evt).events.slice 0 (al.newJob.store evt).eventCnt =
      al.events.slice 0 al.eventCnt ++ [evt] :=
  al.events.slice_write al.eventCnt [evt] hcnt

/-- All slots after an event has been stored. -/
theorem cells_store {al : AlEvents} (hcnt : al.eventCnt < 6) (evt : DiagEntry) :
    (al.newJob.store evt).events.cells = al.events.slice 0 al.eventCnt ++ [evt] ++
      al.events.slice (al.eventCnt + 1) (maxEvents - (al.eventCnt + 1)) := by
  have hall : (al.newJob.store evt).events.cells = (al.newJob.store evt).events.slice 0
      ((al.newJob.store evt).eventCnt + (maxEvents - (al.eventCnt + 1))) := by
    have hsum : (al.newJob.store evt).eventCnt + (maxEvents - (al.eventCnt + 1)) = maxEvents :=
      Nat.add_sub_cancel' hcnt
    rw [hsum]
    exact (List.take_of_length_le (Nat.le_of_eq (Buffer.length_cells _))).symm
  rw [hall, Buffer.slice_add, slice_store hcnt, Nat.zero_add]
  exact congrArg (_ ++ ·) (Buffer.slice_write_of_disjoint al.events [evt] (.inl (Nat.le_refl _)))

/-- The slots ask for an upload only if they did before or the stored event does. -/
theorem requestsUpload_store {al : AlEvents} {evt : DiagEntry}
    (h : RequestsUpload (al.newJob.store evt).events.cells) :
    RequestsUpload al.events.cells ∨ evt.eventCode = eventcodeDevDsUploadReq := by
  obtain ⟨event, hmem, hcode⟩ := h
  rcases Buffer.mem_cells_write hmem with hmem | hmem
  · exact .inl ⟨event, hmem, hcode⟩
  · rw [List.mem_singleton] at hmem
    exact .inr (hmem ▸ hcode)

end AlEvents

end IolHat
