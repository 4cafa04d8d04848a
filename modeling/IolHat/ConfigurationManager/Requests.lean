import IolHat.ConfigurationManager.Deactivation
import IolHat.Application.Port
import IolHat.Master.Machine
import IolHat.Lib.Ledger

/-!
# Is every request to the Configuration Manager answered?

The application sends its requests to a port by number; a request that passes the first check
becomes a job in the mailbox of the master's thread, behind the jobs of other services and those of
System Management and Data Storage, which come at any time. `CmSys` is the Configuration Managers of
all ports with this mailbox.

`Promise` says of an input that a request is refused at once or posted for a port that exists, and
that every request posted so far is still in the mailbox or has been answered once. `promise_iff`
says in which runs all inputs keep the promise. There are four exceptions (`Served`): the number
after that of the last port, which passes the check; a request for which no free job is left; a
configuration that arrives while Data Storage is at work, which is dropped; and two services whose
requests are dropped when they expect the wrong arg block.
-/

namespace IolHat

/-! ### Answers of the layer -/

/-- The call answers the application. -/
def CmCall.isAnswer : CmCall → Bool
  | .voidblockCnf _ | .joberrorInd .. | .cnf .. => true
  | _ => false

namespace Cm

/-- The answers among the calls made so far. -/
def answers (cm : Cm) : List CmCall := cm.calls.filter CmCall.isAnswer

theorem answers_callAll (cm : Cm) (cs : List CmCall) :
    (cm.callAll cs).answers = cm.answers ++ cs.filter CmCall.isAnswer := List.filter_append ..

/-- Calls of other layers. -/
theorem answers_callAll_of_none {cm : Cm} {cs : List CmCall}
    (hcs : cs.filter CmCall.isAnswer = []) : (cm.callAll cs).answers = cm.answers := by
  rw [answers_callAll, hcs, List.append_nil]

theorem setPortConfigCalls_answers (cfg : AcceptedConfig) (dsInit : Bool) :
    (setPortConfigCalls cfg dsInit).filter CmCall.isAnswer = [] := by
  unfold setPortConfigCalls
  split_ifs <;> rfl

theorem answers_startup (cm : Cm) (e : CmEvent) : (cm.startup e).answers = cm.answers := by
  refine answers_callAll_of_none ?_
  rw [List.filter_append, setPortConfigCalls_answers, List.append_nil]
  split_ifs <;> rfl

theorem answers_dido (cm : Cm) (e : CmEvent) : (cm.dido e).answers = cm.answers := by
  refine answers_callAll_of_none ?_
  rw [List.filter_cons_of_neg Bool.false_ne_true]
  exact setPortConfigCalls_answers _ _

theorem answers_deactivate (cm : Cm) (e : CmEvent) : (cm.deactivate e).answers = cm.answers := by
  refine answers_callAll_of_none ?_
  split_ifs <;> rfl

theorem checkMode_of_ne {e : CmEvent} (he : e ≠ .cfgChange) (cm : Cm) :
    cm.checkMode e = (cm, .none) := if_neg he

/-- An action answers nothing unless it is about a new configuration, and no such event follows. -/
theorem answers_perform (a : Action) (cm : Cm) {e : CmEvent} (he : e ≠ .cfgChange) :
    (perform a cm e).1.answers = cm.answers ∧ (perform a cm e).2 ≠ .cfgChange := by
  cases a with
  | startup => exact ⟨answers_startup cm e, CmEvent.noConfusion⟩
  | dido => exact ⟨answers_dido cm e, CmEvent.noConfusion⟩
  | checkMode =>
    rw [perform, checkMode_of_ne he]
    exact ⟨rfl, CmEvent.noConfusion⟩
  | comlost =>
    rw [perform, comlost, checkMode_of_ne he]
    exact ⟨answers_callAll_of_none rfl, CmEvent.noConfusion⟩
  | dsChange =>
    exact ⟨answers_callAll_of_none (setPortConfigCalls_answers _ _), CmEvent.noConfusion⟩
  | startDs => exact ⟨answers_callAll_of_none rfl, CmEvent.noConfusion⟩
  | dsReady => exact ⟨answers_callAll_of_none rfl, CmEvent.noConfusion⟩
  | smOperate => exact ⟨answers_callAll_of_none rfl, CmEvent.noConfusion⟩
  | portFault =>
    cases e with
    | dsFault =>
      rw [perform, portFault]
      split_ifs
      · exact ⟨rfl, CmEvent.noConfusion⟩
      · exact ⟨answers_callAll_of_none rfl, CmEvent.noConfusion⟩
    | _ => exact ⟨answers_callAll_of_none rfl, CmEvent.noConfusion⟩
  | deactivate => exact ⟨answers_deactivate cm e, CmEvent.noConfusion⟩
  | _ => exact ⟨rfl, CmEvent.noConfusion⟩

/-- **Only a new configuration is answered.** -/
theorem answers_event (cm : Cm) {e : CmEvent} (he : e ≠ .cfgChange) :
    (cm.event e).answers = cm.answers := by
  refine Fsm.Machine.drive_rule (P := fun (c : Cm) (e : CmEvent) =>
    c.answers = cm.answers ∧ e ≠ .cfgChange) (fun _ _ _ h => h.1) ?_ ?_ ⟨rfl, he⟩
  · intro c e t _ h _
    exact (answers_perform t.action _ h.2).1.trans h.1
  · intro c e t _ h _
    exact ⟨(answers_perform t.action _ h.2).1.trans h.1, (answers_perform t.action _ h.2).2⟩

/-- A new configuration is answered once, or dropped. -/
theorem answers_cfgChange (cm : Cm) : ∃ as, (cm.event .cfgChange).answers = cm.answers ++ as ∧
    as.length = if cm.state = .dsParamManager then 0 else 1 := by
  by_cases hs : cm.state = .dsParamManager
  · rw [if_pos hs, event_cfgChange_ignored hs]
    exact ⟨[], (List.append_nil _).symm, rfl⟩
  -- the event that a configuration leads to is none of those that bring one
  · have hnext : cm.smiReq.configlist.event ≠ .cfgChange := by
      intro h
      have hmem := PortConfigList.event_mem cm.smiReq.configlist
      rw [h] at hmem
      exact absurd hmem (by decide)
    rw [if_neg hs, event_cfgChange hs, answers_event _ hnext, checkMode, if_pos rfl]
    dsimp only
    split_ifs
    · rw [answers_callAll]
      exact ⟨_, rfl, rfl⟩
    · rw [answers_callAll]
      exact ⟨_, rfl, rfl⟩

end Cm

/-! ### The services -/

/-- The services of this layer. -/
inductive CmService
  | masterIdentification | portConfiguration | readbackPortConfiguration | portStatus
  deriving DecidableEq

/-- The job of a service. -/
def CmService.job : CmService → CmRequest → CmJob
  | .masterIdentification, r => .smiMasterident r
  | .portConfiguration, r => .smiPortconfiguration r
  | .readbackPortConfiguration, r => .smiReadbackportconfiguration r
  | .portStatus, r => .smiPortstatus r

namespace Cm

/-- The request is dropped: it expects the wrong arg block, or it brings a configuration while Data
Storage is at work. -/
def Drops (cm : Cm) (service : CmService) (r : CmRequest) : Prop :=
  match service with
  | .masterIdentification => r.ref = ArgBlockId.voidBlock ∧ r.argBlockLen = sizeofArgBlockVoid ∧
      r.exp ≠ ArgBlockId.masterident
  | .portStatus => r.ref = ArgBlockId.voidBlock ∧ r.argBlockLen = sizeofArgBlockVoid ∧
      r.exp ≠ ArgBlockId.portStatusList
  | .portConfiguration => checkPortconfiguration r = none ∧ cm.state = .dsParamManager
  | .readbackPortConfiguration => False

instance (cm : Cm) (r : CmRequest) : (service : CmService) → Decidable (cm.Drops service r)
  | .masterIdentification | .portStatus => inferInstanceAs (Decidable (_ ∧ _ ∧ _))
  | .portConfiguration => inferInstanceAs (Decidable (_ ∧ _))
  | .readbackPortConfiguration => inferInstanceAs (Decidable False)

/-- An answer of a check. -/
theorem answers_serve {cm : Cm} {r : CmRequest} {check : Option SmiErrorType} {f : Cm → Cm}
    (hnil : cm.answers = []) {n : ℕ} (hf : (f cm).answers.length = n) :
    (cm.serve r check f).answers.length =
      if check = none then n else if check = some SmiErrorType.none then 0 else 1 := by
  cases check with
  | none => exact hf
  | some error =>
    simp only [serve, reduceCtorEq, if_false, Option.some.injEq]
    split_ifs
    · rw [hnil]
      rfl
    · rw [answers_callAll, hnil]
      rfl

/-- The check refuses a request without a word. -/
theorem checkArgBlock_silent_iff (r : CmRequest) (ref : ArgBlockId) (len : ℕ) (exp : ArgBlockId)
    (errortype : SmiErrorType) :
    checkArgBlock r ref len exp errortype = some SmiErrorType.none ↔
      errortype = SmiErrorType.none ∧ r.ref = ref ∧ r.argBlockLen = len ∧ r.exp ≠ exp := by
  unfold checkArgBlock
  split_ifs with href hlen hexp
  · exact iff_of_false (by decide) fun h => href h.2.1
  · exact iff_of_false (by decide) fun h => hlen h.2.2.1
  · rw [Option.some.injEq]
    exact ⟨fun h => ⟨h, not_not.mp href, not_not.mp hlen, hexp⟩, fun h => h.1⟩
  · exact iff_of_false id fun h => hexp h.2.2.2

/-- A service that answers what passes its check, and refuses some requests without a word. -/
private theorem answers_silent {cm : Cm} {view : CmView} {r : CmRequest} {ref exp : ArgBlockId}
    {len : ℕ} {f : Cm → Cm} (hf : (f (cm.newJob view)).answers.length = 1) :
    ((cm.newJob view).serve r (checkArgBlock r ref len exp SmiErrorType.none) f).answers.length =
      if r.ref = ref ∧ r.argBlockLen = len ∧ r.exp ≠ exp then 0 else 1 := by
  have hsilent := checkArgBlock_silent_iff r ref len exp SmiErrorType.none
  rw [answers_serve rfl hf]
  split_ifs with hnone hdrops hword hdrops'
  · exact absurd ((hsilent.mpr ⟨rfl, hdrops⟩).symm.trans hnone) (Option.some_ne_none _)
  · rfl
  · rfl
  · exact absurd (hsilent.mp hword).2 hdrops'
  · exact absurd (hsilent.mpr ⟨rfl, ‹_›⟩) hword
  · rfl

/-- A service whose check reports every error. -/
private theorem answers_reported {cm : Cm} {view : CmView} {r : CmRequest} {ref exp : ArgBlockId}
    {len n : ℕ} {errortype : SmiErrorType} (herror : errortype ≠ SmiErrorType.none) {f : Cm → Cm}
    (hf : (f (cm.newJob view)).answers.length = n) :
    ((cm.newJob view).serve r (checkArgBlock r ref len exp errortype) f).answers.length =
      if checkArgBlock r ref len exp errortype = none then n else 1 := by
  rw [answers_serve rfl hf]
  split_ifs with hnone hword
  · rfl
  · exact absurd ((checkArgBlock_silent_iff ..).mp hword).1 herror
  · rfl

/-- **A request is answered once**, unless it is dropped. -/
theorem answers_request (cm : Cm) (view : CmView) (service : CmService) (r : CmRequest) :
    (cm.handle view (service.job r)).answers.length = if cm.Drops service r then 0 else 1 := by
  have hinconsistent : SmiErrorType.argblockInconsistent ≠ SmiErrorType.none := by decide
  cases service with
  | masterIdentification => exact answers_silent rfl
  | portStatus => exact answers_silent rfl
  | readbackPortConfiguration =>
    refine (answers_reported hinconsistent rfl).trans ((ite_self _).trans ?_)
    exact (if_neg id).symm
  | portConfiguration =>
    obtain ⟨as, has, hlen⟩ := answers_cfgChange ((cm.newJob view).setReq r)
    have hf : (((cm.newJob view).setReq r).event .cfgChange).answers.length =
        if cm.state = .dsParamManager then 0 else 1 := by
      rw [has]
      exact hlen
    refine (answers_reported hinconsistent hf).trans ?_
    change (if checkPortconfiguration r = none then _ else _) =
      if checkPortconfiguration r = none ∧ cm.state = .dsParamManager then 0 else 1
    by_cases hcheck : checkPortconfiguration r = none
    · rw [if_pos hcheck]
      simp only [hcheck, true_and]
    · rw [if_neg hcheck, if_neg fun h => hcheck h.1]

end Cm

/-! ### The jobs of System Management and Data Storage -/

/-- The jobs that come from other layers. -/
inductive CmNotice
  | smPortModeInd (mode : SmPortMode)
  | dsReady
  | dsFault (fault : DsFault)
  deriving DecidableEq

def CmNotice.job : CmNotice → CmJob
  | .smPortModeInd mode => .smPortModeInd mode
  | .dsReady => .dsReady
  | .dsFault fault => .dsFault fault

/-! ### The application, the mailbox and the ports -/

/-- `arg_block_t`, as far as this layer reads it. -/
structure CmArgBlock where
  id : ArgBlockId
  configlist : PortConfigList := {}
  deriving DecidableEq

/-- A call of a service; the arg block may be a null pointer. -/
structure SmiCall where
  service : CmService
  portnumber : Octet
  exp : ArgBlockId
  argBlockLen : UInt16
  argBlock : Option CmArgBlock
  deriving DecidableEq

/-- The job of a call. It has a pointer to the arg block, which the caller keeps until it has the
answer. -/
def SmiCall.request (r : SmiCall) (b : CmArgBlock) : CmRequest where
  exp := r.exp
  argBlockLen := r.argBlockLen.toNat
  ref := b.id
  configlist := b.configlist

/-- A job in the mailbox: it answers the call with this number, it comes from another layer, or it
is one of another service of the application. -/
inductive CmEntry
  | smi (tag port : ℕ) (service : CmService) (r : CmRequest)
  | notice (port : ℕ) (n : CmNotice)
  | other
  deriving DecidableEq

/-- The job comes from `mbox_api_avail`. -/
def CmEntry.isApi : CmEntry → Bool
  | .smi .. | .other => true
  | .notice .. => false

/-- The call that waits for the job. -/
def CmEntry.tag : CmEntry → Option ℕ
  | .smi tag .. => some tag
  | .notice .. | .other => none

/-- The Configuration Managers of all ports with the mailbox of the master's thread. -/
structure CmSys where
  portCnt : ℕ
  /-- `ports`. -/
  port : ℕ → Cm := fun _ => {}
  mbox : List CmEntry := []
  /-- The calls that have been accepted, by number. -/
  accepted : List SmiCall := []
  /-- The answers to them. -/
  answers : List (ℕ × CmCall) := []
  /-- There was no free job. -/
  asserted : Bool := false

/-- What can happen. -/
inductive CmInput
  | call (r : SmiCall)
  /-- A call of a service of another layer. -/
  | other
  /-- A job of System Management or Data Storage. -/
  | notice (port : ℕ) (n : CmNotice)
  /-- The master's thread takes the next job. -/
  | serve (view : CmView)

namespace CmSys

/-- The jobs of the application in the mailbox. -/
def apiJobs (s : CmSys) : ℕ := s.mbox.countP CmEntry.isApi

/-- `common_smi_check`. -/
def commonSmiCheck (s : CmSys) (r : SmiCall) : IolinkError :=
  if portnumberToIolinkport s.portCnt r.portnumber.toNat ≠ .none then
    portnumberToIolinkport s.portCnt r.portnumber.toNat
  else if r.argBlock = none then .parameterConflict
  else .none

/-- `init_and_post_job`. -/
def initAndPostJob (s : CmSys) (r : SmiCall) (b : CmArgBlock) : CmSys :=
  if s.apiJobs = masterJobApiCnt then { s with asserted := true }
  else
    { s with
      mbox := s.mbox ++
        [.smi s.accepted.length (r.portnumber.toNat - 1) r.service (r.request b)]
      accepted := s.accepted ++ [r] }

/-- `SMI_common_req`. -/
def smiCommonReq (s : CmSys) (r : SmiCall) : IolinkError × CmSys :=
  match s.commonSmiCheck r, r.argBlock with
  | .none, some b => (.none, s.initAndPostJob r b)
  | e, _ => (e, s)

/-- The callback of a job, and its answers. -/
def callback (s : CmSys) (view : CmView) (port : ℕ) (j : CmJob) : CmSys :=
  { s with port := Function.update s.port port ((s.port port).handle view j) }

/-- `iolink_main`, one job. -/
def serveEntry (s : CmSys) (view : CmView) : CmEntry → CmSys
  | .smi tag port service r =>
    let s := s.callback view port (service.job r)
    { s with answers := s.answers ++ (s.port port).answers.map (tag, ·) }
  | .notice port n => s.callback view port n.job
  | .other => s

/-- One input. -/
def step (s : CmSys) : CmInput → CmSys
  | .call r => (s.smiCommonReq r).2
  | .other => if s.apiJobs = masterJobApiCnt then s else { s with mbox := s.mbox ++ [.other] }
  | .notice port n => { s with mbox := s.mbox ++ [.notice port n] }
  | .serve view =>
    match s.mbox with
    | [] => s
    | e :: rest => { s with mbox := rest }.serveEntry view e

/-- The book of calls and answers. -/
def ledger (s : CmSys) : Ledger SmiCall CmCall :=
  ⟨s.accepted, s.mbox.filterMap CmEntry.tag, s.answers⟩

/-! ### What the application is promised -/

/-- The port number is one of `1..n`. -/
def PortExists (s : CmSys) (r : SmiCall) : Prop :=
  1 ≤ r.portnumber.toNat ∧ r.portnumber.toNat ≤ s.portCnt

instance (s : CmSys) (r : SmiCall) : Decidable (s.PortExists r) := by
  unfold PortExists
  infer_instance

/-- The call is refused at once, and nothing is touched. -/
def Refuses (s : CmSys) (r : SmiCall) : Prop :=
  (s.smiCommonReq r).1 ≠ .none ∧ (s.smiCommonReq r).2 = s

/-- The call is accepted, and its job is in the mailbox. -/
def Posts (s : CmSys) (r : SmiCall) : Prop :=
  (s.smiCommonReq r).1 = .none ∧ (s.smiCommonReq r).2.accepted = s.accepted ++ [r] ∧
    s.accepted.length ∈ (s.smiCommonReq r).2.ledger.pending

/-- What the application is promised of an input. -/
structure Promise (s : CmSys) (i : CmInput) : Prop where
  /-- A call is refused, or it is for a port that exists and is posted. -/
  call : ∀ r, i = .call r → s.Refuses r ∨ s.PortExists r ∧ s.Posts r
  /-- What has been posted is in the mailbox, or it has been answered once. -/
  once : ∀ t < (s.step i).accepted.length,
    (s.step i).ledger.pending.count t + (s.step i).ledger.answerCount t = 1

/-- The input meets none of the four exceptions. -/
def Served (s : CmSys) : CmInput → Prop
  | .call r => r.argBlock ≠ none →
      r.portnumber.toNat ≠ s.portCnt + 1 ∧ (s.PortExists r → s.apiJobs ≠ masterJobApiCnt)
  | .serve _ => ∀ tag port service r, s.mbox.head? = some (.smi tag port service r) →
      ¬ (s.port port).Drops service r
  | _ => True

variable {s : CmSys}

/-- The check lets one number through that does not exist. -/
theorem commonSmiCheck_eq_none_iff (r : SmiCall) : s.commonSmiCheck r = .none ↔
    r.argBlock ≠ none ∧ (s.PortExists r ∨ r.portnumber.toNat = s.portCnt + 1) := by
  have hconflict : IolinkError.parameterConflict ≠ .none := IolinkError.noConfusion
  unfold commonSmiCheck portnumberToIolinkport PortExists
  by_cases hport : r.portnumber.toNat = 0 ∨ s.portCnt < r.portnumber.toNat - 1
  · rw [if_pos hport, if_pos hconflict]
    exact iff_of_false hconflict fun h => by omega
  · rw [if_neg hport, if_neg fun h => h rfl]
    by_cases hnone : r.argBlock = none
    · rw [if_pos hnone]
      exact iff_of_false hconflict fun h => h.1 hnone
    · rw [if_neg hnone]
      exact iff_of_true rfl ⟨hnone, by omega⟩

theorem smiCommonReq_of_error {r : SmiCall} (h : s.commonSmiCheck r ≠ .none) :
    s.smiCommonReq r = (s.commonSmiCheck r, s) := by
  unfold smiCommonReq
  split
  · next hnone _ => exact absurd hnone h
  · rfl

theorem smiCommonReq_of_block {r : SmiCall} (h : s.commonSmiCheck r = .none) {b : CmArgBlock}
    (hb : r.argBlock = some b) : s.smiCommonReq r = (.none, s.initAndPostJob r b) := by
  rw [smiCommonReq, h, hb]

/-! ### Calls -/

/-- A call that passes the check and finds a job. -/
theorem ledger_initAndPostJob {r : SmiCall} (b : CmArgBlock) (hfree : s.apiJobs ≠ masterJobApiCnt) :
    (s.initAndPostJob r b).ledger = s.ledger.issue r := by
  rw [initAndPostJob, if_neg hfree]
  simp only [ledger, Ledger.issue, List.filterMap_append, List.filterMap_cons, List.filterMap_nil,
    CmEntry.tag]

theorem balanced_call (h : s.ledger.Balanced) (r : SmiCall) :
    (s.step (.call r)).ledger.Balanced := by
  rw [step]
  by_cases hcheck : s.commonSmiCheck r = .none
  · obtain ⟨b, hb⟩ := Option.ne_none_iff_exists'.mp (commonSmiCheck_eq_none_iff r |>.mp hcheck).1
    rw [smiCommonReq_of_block hcheck hb]
    by_cases hfree : s.apiJobs = masterJobApiCnt
    · rw [initAndPostJob, if_pos hfree]
      exact h
    · rw [ledger_initAndPostJob b hfree]
      exact h.issue r
  · rw [smiCommonReq_of_error hcheck]
    exact h

/-- **A call.** -/
theorem call_iff (r : SmiCall) :
    s.Refuses r ∨ s.PortExists r ∧ s.Posts r ↔ s.Served (.call r) := by
  -- The check passes for existing ports, and for a port that is one too many.
  by_cases hcheck : s.commonSmiCheck r = .none
  · obtain ⟨hsome, hport⟩ := commonSmiCheck_eq_none_iff r |>.mp hcheck
    obtain ⟨b, hb⟩ := Option.ne_none_iff_exists'.mp hsome
    have hrefuses : ¬ s.Refuses r := fun h => h.1 (by rw [smiCommonReq_of_block hcheck hb])
    have hposts : s.Posts r ↔ s.apiJobs ≠ masterJobApiCnt := by
      rw [Posts, smiCommonReq_of_block hcheck hb]
      constructor
      · intro h hfree
        have hlen := congrArg List.length h.2.1
        rw [initAndPostJob, if_pos hfree, List.length_append, List.length_singleton] at hlen
        exact absurd hlen (Nat.ne_of_lt (Nat.lt_succ_self _))
      · intro hfree
        refine ⟨rfl, ?_, ?_⟩
        · rw [initAndPostJob, if_neg hfree]
        · rw [ledger_initAndPostJob b hfree]
          exact List.mem_append_right _ (List.mem_singleton_self _)
    rw [or_iff_right hrefuses, hposts]
    constructor
    · rintro ⟨hexists, hfree⟩ -
      refine ⟨?_, fun _ => hfree⟩
      have := hexists.2
      omega
    · intro h
      have hexists := hport.resolve_right (h hsome).1
      exact ⟨hexists, (h hsome).2 hexists⟩
  · have hrefused := smiCommonReq_of_error hcheck
    refine iff_of_true (.inl ⟨?_, ?_⟩) fun hsome => ⟨fun hport => ?_, fun hexists => ?_⟩
    · rw [hrefused]
      exact hcheck
    · rw [hrefused]
    · exact absurd ((commonSmiCheck_eq_none_iff r).mpr ⟨hsome, .inr hport⟩) hcheck
    · exact absurd ((commonSmiCheck_eq_none_iff r).mpr ⟨hsome, .inl hexists⟩) hcheck

/-! ### Jobs -/

/-- Entries that nobody waits for. -/
theorem balanced_of_ledger {s' : CmSys} (h : s.ledger.Balanced) (hledger : s'.ledger = s.ledger) :
    s'.ledger.Balanced := by
  rw [hledger]
  exact h

theorem ledger_append {e : CmEntry} (he : e.tag = none) :
    { s with mbox := s.mbox ++ [e] }.ledger = s.ledger := by
  simp only [ledger, List.filterMap_append, List.filterMap_cons_none he, List.filterMap_nil,
    List.append_nil]

/-- A job that nobody waits for is taken. -/
theorem ledger_serve_other (view : CmView) {e : CmEntry} {rest : List CmEntry}
    (hmbox : s.mbox = e :: rest) (he : e.tag = none) :
    (s.step (.serve view)).ledger = s.ledger := by
  rw [step, hmbox]
  cases e with
  | smi => exact absurd he (Option.some_ne_none _)
  | notice => simp only [serveEntry, callback, ledger, hmbox, List.filterMap_cons, CmEntry.tag]
  | other => simp only [serveEntry, ledger, hmbox, List.filterMap_cons, CmEntry.tag]

/-- The job of a call is taken: it leaves the mailbox, and it is answered once unless it is
dropped. -/
theorem ledger_serve_smi (view : CmView) {tag port : ℕ} {service : CmService} {r : CmRequest}
    {rest : List CmEntry} (hmbox : s.mbox = .smi tag port service r :: rest) :
    (s.step (.serve view)).ledger = ⟨s.accepted, rest.filterMap CmEntry.tag,
      s.answers ++ ((s.port port).handle view (service.job r)).answers.map (tag, ·)⟩ := by
  rw [step, hmbox]
  simp only [serveEntry, callback, ledger, Function.update_self]

theorem balanced_serve_smi (h : s.ledger.Balanced) (view : CmView) {tag port : ℕ}
    {service : CmService} {r : CmRequest} {rest : List CmEntry}
    (hmbox : s.mbox = .smi tag port service r :: rest)
    (hdrops : ¬ (s.port port).Drops service r) : (s.step (.serve view)).ledger.Balanced := by
  have hlen := Cm.answers_request (s.port port) view service r
  rw [if_neg hdrops] at hlen
  obtain ⟨a, ha⟩ := List.length_eq_one_iff.mp hlen
  have hpending : s.ledger.pending = tag :: rest.filterMap CmEntry.tag := by
    simp only [ledger, hmbox, List.filterMap_cons, CmEntry.tag]
  have hsettle := h.settle (hpending ▸ List.mem_cons_self) a
  rw [Ledger.settle, hpending, List.erase_cons_head] at hsettle
  rw [ledger_serve_smi view hmbox, ha]
  exact hsettle

/-- A call whose job is dropped is never answered. -/
theorem count_eq_zero_of_drops (h : s.ledger.Balanced) (view : CmView) {tag port : ℕ}
    {service : CmService} {r : CmRequest} {rest : List CmEntry}
    (hmbox : s.mbox = .smi tag port service r :: rest) (hdrops : (s.port port).Drops service r) :
    tag < (s.step (.serve view)).accepted.length ∧
      (s.step (.serve view)).ledger.pending.count tag +
        (s.step (.serve view)).ledger.answerCount tag = 0 := by
  have hlen := Cm.answers_request (s.port port) view service r
  rw [if_pos hdrops] at hlen
  have hpending : s.ledger.pending = tag :: rest.filterMap CmEntry.tag := by
    simp only [ledger, hmbox, List.filterMap_cons, CmEntry.tag]
  have hlt : tag < s.accepted.length := h.lt_of_pending (hpending ▸ List.mem_cons_self)
  have hcount := h.count_eq_one hlt
  rw [hpending, List.count_cons_self] at hcount
  have hledger := ledger_serve_smi view hmbox
  rw [List.length_eq_zero_iff.mp hlen, List.map_nil, List.append_nil] at hledger
  have haccepted : (s.step (.serve view)).accepted = s.accepted :=
    congrArg Ledger.requests hledger
  rw [haccepted, hledger]
  refine ⟨hlt, ?_⟩
  have hanswered : s.ledger.answerCount tag = 0 ∧ (rest.filterMap CmEntry.tag).count tag = 0 := by
    omega
  exact Nat.add_eq_zero_iff.mpr ⟨hanswered.2, hanswered.1⟩

/-! ### Every input -/

theorem balanced_step (h : s.ledger.Balanced) {i : CmInput} (hserved : s.Served i) :
    (s.step i).ledger.Balanced := by
  cases i with
  | call r => exact balanced_call h r
  | other =>
    rw [step]
    split_ifs
    · exact h
    · exact balanced_of_ledger h (ledger_append rfl)
  | notice port n => exact balanced_of_ledger h (ledger_append rfl)
  | serve view =>
    cases hmbox : s.mbox with
    | nil =>
      rw [step, hmbox]
      exact h
    | cons e rest =>
      cases e with
      | smi tag port service r =>
        exact balanced_serve_smi h view hmbox (hserved tag port service r (by rw [hmbox]; rfl))
      | notice port n => exact balanced_of_ledger h (ledger_serve_other view hmbox rfl)
      | other => exact balanced_of_ledger h (ledger_serve_other view hmbox rfl)

/-- **When an input keeps the promise.** -/
theorem promise_iff_served (h : s.ledger.Balanced) {i : CmInput} : s.Promise i ↔ s.Served i := by
  constructor
  · intro hpromise
    cases i with
    | call r => exact (call_iff r).mp (hpromise.call r rfl)
    | other => trivial
    | notice port n => trivial
    | serve view =>
      intro tag port service r hhead hdrops
      obtain ⟨rest, hmbox⟩ := List.head?_eq_some_iff.mp hhead
      obtain ⟨hlt, hzero⟩ := count_eq_zero_of_drops h view hmbox hdrops
      exact absurd ((hpromise.once tag hlt).symm.trans hzero) Nat.one_ne_zero
  · intro hserved
    refine ⟨?_, fun t ht => (balanced_step h hserved).count_eq_one ht⟩
    rintro r rfl
    exact (call_iff r).mpr hserved

/-- A master with `n` ports. -/
def init (n : ℕ) : CmSys where
  portCnt := n

/-- **When every call is answered once**: in exactly those runs in which no call is for the port
after the last one or finds no free job, no configuration arrives while Data Storage is at work,
and no call that is otherwise in order expects the wrong arg block. -/
theorem promise_iff (n : ℕ) (is : List CmInput) :
    Runs.Admissible step Promise (init n) is ↔ Runs.Admissible step Served (init n) is :=
  Runs.admissible_iff_of_invariant (I := fun s => s.ledger.Balanced)
    (fun _ _ h => promise_iff_served h)
    (fun _ _ h hpromise => balanced_step h ((promise_iff_served h).mp hpromise))
    Ledger.balanced_nil is

/-! ### Calls that are never answered -/

/-- The application configures port 1 for communication. -/
def configureManual : CmInput := .call
  { service := .portConfiguration, portnumber := 1, exp := ArgBlockId.voidBlock, argBlockLen := 14
    argBlock := some { id := ArgBlockId.portCfgList, configlist := { portmode := .iolMan } } }

/-- It does so once more while Data Storage checks the device. -/
def configuredTwice : List CmInput :=
  [configureManual, .serve {}, .notice 0 (.smPortModeInd .comready), .serve {}, configureManual,
    .serve {}]

/-- It asks for the status of a port, or expects something else of the call. -/
def askStatus (portnumber : Octet) (exp : ArgBlockId) : CmInput := .call
  { service := .portStatus, portnumber := portnumber, exp := exp, argBlockLen := 2
    argBlock := some { id := ArgBlockId.voidBlock } }

/-- **Three calls that go wrong**, on a master with two ports. The second configuration and the
status with the wrong arg block are taken from the mailbox and not answered, and the status of
port 3 is posted. -/
theorem unanswered_calls :
    ¬ Runs.Admissible step Promise (init 2) configuredTwice ∧
      ¬ Runs.Admissible step Promise (init 2) [askStatus 1 ArgBlockId.voidBlock, .serve {}] ∧
      ¬ Runs.Admissible step Promise (init 2) [askStatus 3 ArgBlockId.portStatusList] := by
  refine ⟨fun h => ?_, fun h => ?_, fun h => ?_⟩
  · have honce := h.2.2.2.2.2.1.once 1 (by decide +kernel)
    exact absurd honce (by decide +kernel)
  · have honce := h.2.1.once 0 (by decide +kernel)
    exact absurd honce (by decide +kernel)
  · obtain hrefuses | hexists := h.1.call _ rfl
    · exact hrefuses.1 rfl
    · exact absurd hexists.1 (by decide)

end CmSys

end IolHat
