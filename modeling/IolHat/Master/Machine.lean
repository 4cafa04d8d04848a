import IolHat.Lib.Ring
import IolHat.Lib.Run

/-!
# The jobs of the master

The threads of the stack talk to the master's thread through jobs. There are forty for the stack
itself and ten for the application; the free ones wait in one mailbox for each kind, and those that
have been posted wait in the work mailbox, which the master's thread serves. A posting function
takes a free job, fills it in and posts it; the master's thread runs its callback and returns it to
a free mailbox that it chooses by the type of the job.

A thread can be interrupted between taking a job and posting it, and the master's thread while it
serves one. Each of these is therefore a step of its own (`Master.step`). What a job carries besides
its type, and what its callback does besides posting further jobs, has no part in where it goes and
is left out.
-/

namespace IolHat

open Rings

/-- The types of a job. -/
inductive JobType
  | none
  | pdEvent
  | smOperateReq
  | smSetPortCfgReq
  | dlModeInd
  | dlReadCnf
  | dlWriteCnf
  | dlWriteDevmodeCnf
  | dlReadparamCnf
  | dlWriteparamCnf
  | dlIsduTransCnf
  | dlPdinputTransInd
  | smPortModeInd
  | dlEventInd
  | dlControlInd
  | dsStartup
  | dsDelete
  | dsInit
  | dsUpload
  | dsReady
  | dsChange
  | dsFault
  | odStart
  | odStop
  | alControlCnf
  | alReadReq
  | alReadCnf
  | alWriteCnf
  | alWriteReq
  | alAbort
  | alEventRsp
  | alEventReq
  | smiMasterident
  | smiPortconfiguration
  | smiReadbackportconfiguration
  | smiPortstatus
  | smiDeviceWrite
  | smiDeviceRead
  | smiParamRead
  | smiParamWrite
  | periodic
  | exit
  deriving DecidableEq

/-- `IOLINK_MASTER_JOB_CNT`. -/
abbrev masterJobCnt : ℕ := 40

/-- `IOLINK_MASTER_JOB_API_CNT`. -/
abbrev masterJobApiCnt : ℕ := 10

/-- A pointer to a job: into the array `job`, into the array `job_api`, or to the job that
`iolink_m_deinit` has on its stack. -/
inductive Job
  | job (i : ℕ)
  | jobApi (i : ℕ)
  | deinit
  deriving DecidableEq, Inhabited

/-- The two mailboxes for free jobs. -/
inductive Pool
  | mboxAvail
  | mboxApiAvail
  deriving DecidableEq

/-- The free mailbox a job starts in. -/
def Job.pool : Job → Option Pool
  | .job _ => some .mboxAvail
  | .jobApi _ => some .mboxApiAvail
  | .deinit => Option.none

/-- The free mailbox that `iolink_main` returns a job to; none for the job that ends the loop and
for the types that its switch does not know. -/
def JobType.returnPool : JobType → Option Pool
  | .pdEvent => some .mboxAvail
  | .smOperateReq | .smSetPortCfgReq | .dlModeInd | .dlReadCnf | .dlWriteCnf | .dlWriteDevmodeCnf
  | .dlReadparamCnf | .dlWriteparamCnf | .dlIsduTransCnf | .dlPdinputTransInd | .alControlCnf
  | .alReadReq | .alReadCnf | .alWriteReq | .alWriteCnf | .smPortModeInd | .dlEventInd
  | .dlControlInd | .dsStartup | .dsDelete | .dsInit | .dsUpload | .dsReady | .dsChange | .dsFault
  | .odStart | .odStop | .alEventRsp => some .mboxAvail
  | .alAbort | .smiMasterident | .smiPortconfiguration | .smiReadbackportconfiguration
  | .smiPortstatus | .smiDeviceRead | .smiDeviceWrite | .smiParamRead | .smiParamWrite =>
    some .mboxApiAvail
  | .exit | .none | .alEventReq | .periodic => Option.none

/-! ### The posting functions -/

/-- The functions of the stack that post a job, by the module they are in. -/
inductive PostingFunction
  -- iolink_al.c
  | alReadReq
  | alWriteReq
  | dlEventInd
  | dlControlInd
  | dlReadParamCnf
  | dlWriteParamCnf
  | dlISDUTransportCnf
  | dlPDInputTransportInd
  | alAbort
  | alEventRsp
  | alEventReq
  -- iolink_sm.c
  | smWriteMasterCyclCnf
  | smAlReadCnf
  | smOperate
  | smSetPortConfigReq
  | dlReadCnf
  | dlWriteCnf
  | dlWriteDevicemodeCnf
  | dlModeInd
  -- iolink_cm.c
  | smPortModeInd
  | dsReady
  | dsChange
  | dsFault
  | cmSmiMasterIdentificationReq
  | cmSmiPortConfigurationReq
  | cmSmiReadbackPortConfigurationReq
  | cmSmiPortStatusReq
  -- iolink_ds.c
  | dsAlReadCnf
  | dsAlWriteCnf
  | dsDelete
  | dsStartup
  | dsUpload
  | dsInit
  -- iolink_ode.c
  | odeSmiDeviceWriteReq
  | odeSmiDeviceReadReq
  | odeSmiParamWriteBatchReq
  | odeSmiParamReadBatchReq
  | odeAlReadCnf
  | odeAlWriteCnf
  | odStart
  | odStop
  deriving DecidableEq

namespace PostingFunction

/-- The mailbox a function takes its job from: `iolink_fetch_avail_api_job` for the services of the
application, `iolink_fetch_avail_job` otherwise. -/
def pool : PostingFunction → Pool
  | .alAbort | .alEventReq => .mboxApiAvail
  | .cmSmiMasterIdentificationReq | .cmSmiPortConfigurationReq | .cmSmiReadbackPortConfigurationReq
  | .cmSmiPortStatusReq => .mboxApiAvail
  | .odeSmiDeviceWriteReq | .odeSmiDeviceReadReq | .odeSmiParamWriteBatchReq
  | .odeSmiParamReadBatchReq => .mboxApiAvail
  | _ => .mboxAvail

/-- The type a function gives its job. -/
def jobType : PostingFunction → JobType
  | .alReadReq => .alReadReq
  | .alWriteReq => .alWriteReq
  | .dlEventInd => .dlEventInd
  | .dlControlInd => .dlControlInd
  | .dlReadParamCnf => .dlReadparamCnf
  | .dlWriteParamCnf => .dlWriteparamCnf
  | .dlISDUTransportCnf => .dlIsduTransCnf
  | .dlPDInputTransportInd => .pdEvent
  | .alAbort => .alAbort
  | .alEventRsp => .alEventRsp
  | .alEventReq => .alEventReq
  | .smWriteMasterCyclCnf => .alWriteCnf
  | .smAlReadCnf => .alReadCnf
  | .smOperate => .smOperateReq
  | .smSetPortConfigReq => .smSetPortCfgReq
  | .dlReadCnf => .dlReadCnf
  | .dlWriteCnf => .dlWriteCnf
  | .dlWriteDevicemodeCnf => .dlWriteDevmodeCnf
  | .dlModeInd => .dlModeInd
  | .smPortModeInd => .smPortModeInd
  | .dsReady => .dsReady
  | .dsChange => .dsChange
  | .dsFault => .dsFault
  | .cmSmiMasterIdentificationReq => .smiMasterident
  | .cmSmiPortConfigurationReq => .smiPortconfiguration
  | .cmSmiReadbackPortConfigurationReq => .smiReadbackportconfiguration
  | .cmSmiPortStatusReq => .smiPortstatus
  | .dsAlReadCnf => .alReadCnf
  | .dsAlWriteCnf => .alWriteCnf
  | .dsDelete => .dsDelete
  | .dsStartup => .dsStartup
  | .dsUpload => .dsUpload
  | .dsInit => .dsStartup
  | .odeSmiDeviceWriteReq => .smiDeviceWrite
  | .odeSmiDeviceReadReq => .smiDeviceRead
  | .odeSmiParamWriteBatchReq => .smiParamWrite
  | .odeSmiParamReadBatchReq => .smiParamRead
  | .odeAlReadCnf => .alReadCnf
  | .odeAlWriteCnf => .alWriteCnf
  | .odStart => .odStart
  | .odStop => .odStop

/-- Only `iolink_post_job_pd_event` waits for a free job; the other functions assert that there is
one. -/
def waits : PostingFunction → Bool
  | .dlPDInputTransportInd => true
  | _ => false

end PostingFunction

/-! ### The mailboxes -/

/-- `os_mbox_post` at the end of its timeout: whether it has timed out, and the mailbox. -/
def osMboxPost {n : ℕ} (mbox : Ring Job n) (job : Job) : Bool × Ring Job n :=
  match mbox.post job with
  | some mbox' => (false, mbox')
  | none => (true, mbox)

/-- A thread: the master's own, that of a port, or one of the application. -/
inductive ThreadId
  | master
  | dl (port : ℕ)
  | application (n : ℕ)
  deriving DecidableEq

/-- A posting function that has taken its job and not posted it yet. -/
structure Posting where
  thread : ThreadId
  function : PostingFunction
  job : Job
  deriving DecidableEq

/-- The assertions on jobs: that there is a free one, that posting does not time out, and that
`iolink_main` knows the type. -/
inductive JobAssertion
  | fetch
  | post
  | jobType
  deriving DecidableEq

/-- The state of the jobs. -/
structure Master where
  mbox : Ring Job (masterJobCnt + masterJobApiCnt)
  mboxAvail : Ring Job masterJobCnt
  mboxApiAvail : Ring Job masterJobApiCnt
  /-- The field `type` of each job. -/
  jobType : Job → JobType
  /-- The posting functions on their way. -/
  postings : List Posting
  /-- The job that `iolink_main` is serving. -/
  serving : Option Job
  /-- `iolink_m_deinit` has been called. -/
  deiniting : Bool
  /-- `iolink_main` is in its loop. -/
  running : Bool
  /-- The assertion that has failed. -/
  asserted : Option JobAssertion

namespace Master

/-- The jobs of the array `job`. -/
def jobs : List Job := (List.range masterJobCnt).map Job.job

/-- The jobs of the array `job_api`. -/
def jobsApi : List Job := (List.range masterJobApiCnt).map Job.jobApi

/-- A mailbox of `n` cells into which the jobs of a list have been posted. -/
def filled {n : ℕ} (hn : 0 < n) (js : List Job) : Ring Job n :=
  js.foldl (fun mbox j => (osMboxPost mbox j).2) (Ring.empty hn)

/-- `iolink_m_init`. -/
def init : Master where
  mbox := Ring.empty (Nat.succ_pos _)
  mboxAvail := filled (Nat.succ_pos _) jobs
  mboxApiAvail := filled (Nat.succ_pos _) jobsApi
  jobType := fun _ => .none
  postings := []
  serving := none
  deiniting := false
  running := true
  asserted := none

/-- Change the type of a job. -/
def setType (m : Master) (j : Job) (t : JobType) : Job → JobType :=
  fun i => if i = j then t else m.jobType i

@[simp]
theorem setType_self (m : Master) (j : Job) (t : JobType) : m.setType j t j = t := if_pos rfl

theorem setType_of_ne {m : Master} {i j : Job} {t : JobType} (hne : i ≠ j) :
    m.setType j t i = m.jobType i := if_neg hne

/-- A posting function that has found a free job holds it. -/
def hold (m : Master) (thread : ThreadId) (f : PostingFunction) : Option (Job × Master) → Master
  | some (j, m') => { m' with postings := ⟨thread, f, j⟩ :: m'.postings }
  | none => if f.waits then m else { m with asserted := some .fetch }

/-- `os_mbox_fetch` on a free mailbox. -/
def fetchFrom (m : Master) : Pool → Option (Job × Master)
  | .mboxAvail => m.mboxAvail.fetch.map fun (j, q) => (j, { m with mboxAvail := q })
  | .mboxApiAvail => m.mboxApiAvail.fetch.map fun (j, q) => (j, { m with mboxApiAvail := q })

/-- `os_mbox_post` on a free mailbox, whose result `iolink_main` does not look at. -/
def returnTo (m : Master) (j : Job) : Pool → Master
  | .mboxAvail => { m with mboxAvail := (osMboxPost m.mboxAvail j).2 }
  | .mboxApiAvail => { m with mboxApiAvail := (osMboxPost m.mboxApiAvail j).2 }

/-- The first half of a posting function: `iolink_fetch_avail_job` or `iolink_fetch_avail_api_job`.
A thread runs one posting function at a time. -/
def fetch (m : Master) (thread : ThreadId) (f : PostingFunction) : Master :=
  if m.postings.any (·.thread = thread) then m else m.hold thread f (m.fetchFrom f.pool)

/-- Post a job to the work mailbox and assert that this has not timed out. -/
def postJob (m : Master) (j : Job) : Master :=
  match osMboxPost m.mbox j with
  | (false, mbox) => { m with mbox := mbox }
  | (true, _) => { m with asserted := some .post }

/-- The second half of a posting function: `iolink_post_job_with_type_and_callback`, or the end of
`iolink_post_job_pd_event`. -/
def post (m : Master) (thread : ThreadId) : Master :=
  match m.postings.find? (·.thread = thread) with
  | some p =>
    { m with
      postings := m.postings.erase p
      jobType := m.setType p.job p.function.jobType }.postJob p.job
  | none => m

/-- What `iolink_main` does with the type of the job it has fetched. -/
def serve (m : Master) (j : Job) : Master :=
  if m.jobType j = .exit then { m with running := false }
  else
    match (m.jobType j).returnPool with
    | some _ => { m with serving := some j }
    | none => { m with asserted := some .jobType }

/-- The head of the loop of `iolink_main`. -/
def mainFetch (m : Master) : Master :=
  if m.running = true ∧ m.serving = none then
    match m.mbox.fetch with
    | some (j, q) => { m with mbox := q }.serve j
    | none => m
  else m

/-- The end of a case of `iolink_main`, after the callback has returned. -/
def mainReturn (m : Master) : Master :=
  match m.serving with
  | some j =>
    if m.postings.any (·.thread = .master) then m
    else
      match (m.jobType j).returnPool with
      | some pool => { m with serving := none, jobType := m.setType j .none }.returnTo j pool
      | none => m
  | none => m

/-- `iolink_m_deinit` up to where it waits for `has_exited`. -/
def deinit (m : Master) : Master :=
  if m.deiniting then m
  else { m with deiniting := true, jobType := m.setType .deinit .exit }.postJob .deinit

end Master

/-- The steps of the threads. -/
inductive MasterStep
  | fetch (thread : ThreadId) (f : PostingFunction)
  | post (thread : ThreadId)
  | mainFetch
  | mainReturn
  | deinit

/-- One step of one thread. A failed assertion ends the program. -/
def Master.step (m : Master) (i : MasterStep) : Master :=
  match m.asserted with
  | some _ => m
  | none =>
    match i with
    | .fetch thread f => m.fetch thread f
    | .post thread => m.post thread
    | .mainFetch => m.mainFetch
    | .mainReturn => m.mainReturn
    | .deinit => m.deinit

end IolHat
