import IolHat.ApplicationLayer.Events
import IolHat.Lib.Run

/-!
# Which event batches are reported?

`Reporting` watches the application layer together with the events of the batch that is being
collected and the responses that have been posted and not been handled. `reports_batches_iff` says
in which runs every batch is reported as it was: those without a request to upload the parameters,
in which no event is handled while a response is outstanding. The first is what the slots that are
never cleared come to: without a request no slot ever holds one. `reports_or_uploads` is about runs
with requests: as long as the events wait for the responses, a batch has the parameters uploaded
exactly if it or an older slot asks for it, and is reported otherwise.
-/

namespace IolHat

open Octets

/-! ### Runs with the batch that is being collected -/

/-- The layer, watched together with the events of the batch so far and the number of responses
that have been posted and not been handled. -/
structure Reporting where
  al : AlEvents := {}
  batch : List DiagEntry := []
  outstanding : ℕ := 0

namespace Reporting

/-- The batch that a job completes. -/
def completed (r : Reporting) : AlEventJob → Option (List DiagEntry)
  | .dlEventInd evt eventsleft => if eventsleft = 0 then some (r.batch ++ [evt]) else none
  | .eventRsp => none

/-- One job. -/
def step (r : Reporting) (j : AlEventJob) : Reporting where
  al := r.al.handle j
  batch := match j with
    | .dlEventInd evt eventsleft => if eventsleft = 0 then [] else r.batch ++ [evt]
    | .eventRsp => r.batch
  outstanding := (match j with
    | .dlEventInd _ _ => r.outstanding
    | .eventRsp => r.outstanding - 1) + (r.al.handle j).calls.count .eventRsp

/-- The jobs that can come next: a batch has at most six events, and a response is handled after
it has been posted. -/
def Proper (r : Reporting) : AlEventJob → Prop
  | .dlEventInd _ eventsleft =>
    r.batch.length < maxEvents ∧ (eventsleft ≠ 0 → r.batch.length + 1 < maxEvents)
  | .eventRsp => 0 < r.outstanding

instance (r : Reporting) : (j : AlEventJob) → Decidable (r.Proper j)
  | .dlEventInd _ _ => inferInstanceAs (Decidable (_ ∧ _))
  | .eventRsp => inferInstanceAs (Decidable (0 < _))

/-- A job reports the batch it completes and no other, has the parameters uploaded exactly if this
batch asks for it, and fails no assertion. -/
structure ReportsExactly (r : Reporting) (j : AlEventJob) : Prop where
  reported : (r.step j).al.reported = (r.completed j).toList
  upload : .dsUpload ∈ (r.step j).al.calls ↔ ∃ batch ∈ r.completed j, RequestsUpload batch
  stored : .assertion ∉ (r.step j).al.calls

/-- An event is handled while no response is outstanding, and does not ask for an upload. -/
def Undisturbed (r : Reporting) : AlEventJob → Prop
  | .dlEventInd evt _ => r.outstanding = 0 ∧ evt.eventCode ≠ eventcodeDevDsUploadReq
  | .eventRsp => True

/-! ### Clause by clause -/

/-- The slots behind the event of a job: what is left of other batches. -/
def stale (r : Reporting) : List DiagEntry :=
  r.al.events.slice (r.batch.length + 1) (maxEvents - (r.batch.length + 1))

/-- No event is handled while a response is outstanding. -/
def Waits (r : Reporting) : AlEventJob → Prop
  | .dlEventInd _ _ => r.outstanding = 0
  | .eventRsp => True

/-- A batch that asks for an upload, or is followed by a slot that does, has the parameters
uploaded; every other one is reported as it was. -/
structure ReportsOrUploads (r : Reporting) (j : AlEventJob) : Prop where
  reported : (r.step j).al.reported =
    (r.completed j).toList.filter fun batch => ¬ RequestsUpload (batch ++ r.stale)
  upload : .dsUpload ∈ (r.step j).al.calls ↔
    ∃ batch ∈ r.completed j, RequestsUpload (batch ++ r.stale)
  stored : .assertion ∉ (r.step j).al.calls

/-- **A batch that asks triggers the upload** when no older slot does, and no other batch does. -/
theorem ReportsOrUploads.upload_iff {r : Reporting} {j : AlEventJob} (h : r.ReportsOrUploads j)
    (hstale : ¬ RequestsUpload r.stale) :
    .dsUpload ∈ (r.step j).al.calls ↔ ∃ batch ∈ r.completed j, RequestsUpload batch := by
  have happend (batch : List DiagEntry) :
      RequestsUpload (batch ++ r.stale) ↔ RequestsUpload batch :=
    ⟨fun hup => (requestsUpload_append.mp hup).resolve_right hstale,
      fun hup => requestsUpload_append.mpr (.inl hup)⟩
  simp only [h.upload, happend]

/-- Where neither asks, the batch is reported. -/
theorem ReportsOrUploads.exactly {r : Reporting} {j : AlEventJob} (h : r.ReportsOrUploads j)
    (hclear : ∀ batch ∈ r.completed j, ¬ RequestsUpload (batch ++ r.stale)) :
    r.ReportsExactly j where
  reported := by
    rw [h.reported, List.filter_eq_self]
    exact fun batch hbatch => decide_eq_true (hclear batch (Option.mem_toList.mp hbatch))
  upload := by
    refine h.upload.trans (iff_of_false ?_ ?_)
    · rintro ⟨batch, hbatch, hup⟩
      exact hclear batch hbatch hup
    · rintro ⟨batch, hbatch, hup⟩
      exact hclear batch hbatch (requestsUpload_append.mpr (.inl hup))
  stored := h.stored

/-- A job that completes no batch and makes no call. -/
private theorem reportsOrUploads_of_calls_nil {r : Reporting} {j : AlEventJob}
    (hnone : r.completed j = none) (hcalls : (r.step j).al.calls = []) : r.ReportsOrUploads j where
  reported := by
    rw [AlEvents.reported, hcalls, hnone]
    rfl
  upload := by
    rw [hcalls, hnone]
    simp
  stored := by
    rw [hcalls]
    exact List.not_mem_nil

/-- A batch is collected: its events are at the front of the array. -/
structure Gathering (r : Reporting) : Prop where
  takes : r.al.Takes
  outstanding : r.outstanding = 0
  cnt : r.al.eventCnt = r.batch.length
  front : r.al.events.slice 0 r.al.eventCnt = r.batch

/-- A batch is complete, and the response is waited for. -/
structure Awaiting (r : Reporting) : Prop where
  waits : r.al.eventState = .duEventHandling
  outstanding : r.outstanding = 1
  batch : r.batch = []

theorem Gathering.cnt_lt {r : Reporting} (h : r.Gathering) {evt : DiagEntry} {eventsleft : Octet}
    (hp : r.Proper (.dlEventInd evt eventsleft)) : r.al.eventCnt < 6 := by
  rw [h.cnt]
  exact hp.1

/-- The slots, when the last event of a batch has been stored. -/
theorem Gathering.cells {r : Reporting} (h : r.Gathering) (hcnt : r.al.eventCnt < 6)
    (evt : DiagEntry) :
    (r.al.newJob.store evt).events.cells = r.batch ++ [evt] ++ r.stale := by
  rw [AlEvents.cells_store hcnt, h.front, stale, h.cnt]

/-- The events of a batch are stored one behind the other. -/
private theorem gathering_more {r : Reporting} (h : r.Gathering) {evt : DiagEntry}
    {eventsleft : Octet} (hp : r.Proper (.dlEventInd evt eventsleft)) (hleft : eventsleft ≠ 0) :
    r.ReportsOrUploads (.dlEventInd evt eventsleft) ∧
      (r.step (.dlEventInd evt eventsleft)).Gathering := by
  have hcnt := h.cnt_lt hp
  have hal : (r.step (.dlEventInd evt eventsleft)).al =
      (r.al.newJob.store evt).enter .readEventSet := AlEvents.handle_more h.takes hcnt evt hleft
  have hbatch : (r.step (.dlEventInd evt eventsleft)).batch = r.batch ++ [evt] := if_neg hleft
  have hcalls : (r.step (.dlEventInd evt eventsleft)).al.calls = [] := by rw [hal]; rfl
  refine ⟨reportsOrUploads_of_calls_nil (if_neg hleft) hcalls, ⟨?_, ?_, ?_, ?_⟩⟩
  · rw [hal]
    exact .inr rfl
  · have hcount : (r.al.handle (.dlEventInd evt eventsleft)).calls = [] := hcalls
    show r.outstanding + (r.al.handle (.dlEventInd evt eventsleft)).calls.count .eventRsp = 0
    rw [hcount, h.outstanding]
    rfl
  · rw [hal, hbatch, List.length_append]
    exact congrArg (· + 1) h.cnt
  · rw [hal, hbatch]
    refine (AlEvents.slice_store hcnt evt).trans ?_
    exact congrArg (· ++ [evt]) h.front

/-- A batch that asks for an upload. -/
private theorem reportsOrUploads_of_upload {r : Reporting} {evt : DiagEntry}
    (hcalls : (r.step (.dlEventInd evt 0)).al.calls = [.eventRsp, .dsUpload])
    (hup : RequestsUpload (r.batch ++ [evt] ++ r.stale)) :
    r.ReportsOrUploads (.dlEventInd evt 0) where
  reported := by
    rw [AlEvents.reported, hcalls]
    refine (List.filter_eq_nil_iff.mpr fun batch hbatch => ?_).symm
    rw [List.mem_singleton.mp hbatch]
    simpa using hup
  upload := by
    rw [hcalls]
    exact iff_of_true (by simp) ⟨_, rfl, hup⟩
  stored := by
    rw [hcalls]
    simp

/-- A batch that is reported. -/
private theorem reportsOrUploads_of_report {r : Reporting} {evt : DiagEntry}
    {block : ArgBlockDevevent}
    (hcalls : (r.step (.dlEventInd evt 0)).al.calls =
      [.eventRsp, .smiCnf ArgBlockId.voidBlock block])
    (hevents : block.events = r.batch ++ [evt])
    (hup : ¬ RequestsUpload (r.batch ++ [evt] ++ r.stale)) :
    r.ReportsOrUploads (.dlEventInd evt 0) where
  reported := by
    rw [AlEvents.reported, hcalls]
    refine (congrArg (fun batch => [batch]) hevents).trans (List.filter_eq_self.mpr ?_).symm
    intro batch hbatch
    rw [List.mem_singleton.mp hbatch]
    exact decide_eq_true hup
  upload := by
    rw [hcalls]
    refine iff_of_false (by simp) ?_
    rintro ⟨batch, hbatch, hup'⟩
    exact hup (Option.some.inj hbatch ▸ hup')
  stored := by
    rw [hcalls]
    simp

/-- The response is waited for, whatever the last call has been. -/
private theorem awaiting_of_done {r : Reporting} (hzero : r.outstanding = 0) {evt : DiagEntry}
    {last : AlEventCall} (hlast : last ≠ .eventRsp)
    (hal : (r.step (.dlEventInd evt 0)).al =
      (((r.al.newJob.store evt).enter .duEventHandling).call .eventRsp).call last) :
    (r.step (.dlEventInd evt 0)).Awaiting where
  waits := by rw [hal]; rfl
  outstanding := by
    have hcalls : (r.al.handle (.dlEventInd evt 0)).calls = [.eventRsp, last] :=
      congrArg AlEvents.calls hal
    show r.outstanding + (r.al.handle (.dlEventInd evt 0)).calls.count .eventRsp = 1
    rw [hcalls, hzero, List.count_cons_self, List.count_singleton,
      if_neg (beq_eq_false_iff_ne.mpr hlast ▸ Bool.false_ne_true)]
  batch := rfl

/-- The last event of a batch. -/
private theorem gathering_done {r : Reporting} (h : r.Gathering) {evt : DiagEntry}
    (hp : r.Proper (.dlEventInd evt 0)) :
    r.ReportsOrUploads (.dlEventInd evt 0) ∧ (r.step (.dlEventInd evt 0)).Awaiting ∧
      (r.step (.dlEventInd evt 0)).al.events = (r.al.newJob.store evt).events := by
  have hcnt := h.cnt_lt hp
  have hcells := h.cells hcnt evt
  have hdone : (r.step (.dlEventInd evt 0)).al =
      ((r.al.newJob.store evt).enter .duEventHandling).alEventInd :=
    AlEvents.handle_done h.takes hcnt evt
  by_cases hup : RequestsUpload (r.batch ++ [evt] ++ r.stale)
  · have hal := hdone.trans (AlEvents.alEventInd_upload (hcells ▸ hup))
    exact ⟨reportsOrUploads_of_upload (congrArg AlEvents.calls hal) hup,
      awaiting_of_done h.outstanding AlEventCall.noConfusion hal,
      (congrArg AlEvents.events hal).trans rfl⟩
  · have hclear : ¬ RequestsUpload
        ((r.al.newJob.store evt).enter .duEventHandling).events.cells := hcells ▸ hup
    obtain ⟨block, hblock, hind⟩ := AlEvents.alEventInd_report hclear hcnt
    have hevents : block.events = r.batch ++ [evt] := by
      refine hblock.trans ((AlEvents.slice_store hcnt evt).trans ?_)
      exact congrArg (· ++ [evt]) h.front
    have hal := hdone.trans hind
    exact ⟨reportsOrUploads_of_report (congrArg AlEvents.calls hal) hevents hup,
      awaiting_of_done h.outstanding AlEventCall.noConfusion hal,
      (congrArg AlEvents.events hal).trans rfl⟩

/-- The response lets the next batch begin. -/
private theorem awaiting_rsp {r : Reporting} (h : r.Awaiting) :
    r.ReportsOrUploads .eventRsp ∧ (r.step .eventRsp).Gathering := by
  have hal : (r.step .eventRsp).al = { r.al.newJob.enter .eventIdle with eventCnt := 0 } :=
    AlEvents.handle_eventRsp h.waits
  have hcalls : (r.step .eventRsp).al.calls = [] := by rw [hal]; rfl
  have hbatch : (r.step .eventRsp).batch = [] := h.batch
  refine ⟨reportsOrUploads_of_calls_nil rfl hcalls, ⟨?_, ?_, ?_, ?_⟩⟩
  · rw [hal]
    exact .inl rfl
  · have hcount : (r.al.handle .eventRsp).calls = [] := hcalls
    show r.outstanding - 1 + (r.al.handle .eventRsp).calls.count .eventRsp = 0
    rw [hcount, h.outstanding]
    rfl
  · rw [hal, hbatch]
    rfl
  · rw [hal, hbatch]
    rfl

/-- One job of a run whose events wait for the responses. -/
private theorem reportsOrUploads_of_waits {r : Reporting} (hr : r.Gathering ∨ r.Awaiting)
    {j : AlEventJob} (hp : r.Proper j) (hj : r.Waits j) :
    r.ReportsOrUploads j ∧ ((r.step j).Gathering ∨ (r.step j).Awaiting) := by
  cases j with
  | eventRsp =>
    rcases hr with hr | hr
    · have hpos : 0 < r.outstanding := hp
      rw [hr.outstanding] at hpos
      exact absurd hpos (Nat.lt_irrefl 0)
    · exact (awaiting_rsp hr).imp_right .inl
  | dlEventInd evt eventsleft =>
    rcases hr with hr | hr
    · by_cases hleft : eventsleft = 0
      · subst hleft
        obtain ⟨hreports, hawaiting, -⟩ := gathering_done hr hp
        exact ⟨hreports, .inr hawaiting⟩
      · exact (gathering_more hr hp hleft).imp_right .inl
    · have hzero : r.outstanding = 0 := hj
      rw [hr.outstanding] at hzero
      exact absurd hzero Nat.one_ne_zero

private theorem reports_or_uploads_from {r : Reporting} (hr : r.Gathering ∨ r.Awaiting)
    {jobs : List AlEventJob} (hproper : Runs.Admissible step Proper r jobs)
    (hwaits : Runs.Admissible step Waits r jobs) :
    Runs.Admissible step ReportsOrUploads r jobs := by
  induction jobs generalizing r with
  | nil => trivial
  | cons j jobs ih =>
    obtain ⟨hreports, hr'⟩ := reportsOrUploads_of_waits hr hproper.1 hwaits.1
    exact ⟨hreports, ih hr' hproper.2 hwaits.2⟩

/-- **Every batch is reported or has the parameters uploaded**, if the events wait for the
responses. -/
theorem reports_or_uploads (jobs : List AlEventJob)
    (hproper : Runs.Admissible step Proper {} jobs) (hwaits : Runs.Admissible step Waits {} jobs) :
    Runs.Admissible step ReportsOrUploads {} jobs :=
  reports_or_uploads_from (.inl ⟨.inl rfl, rfl, rfl, rfl⟩) hproper hwaits

/-! ### Batches that are collected -/

/-- A batch is collected; no slot asks for an upload. -/
structure Collecting (r : Reporting) : Prop extends Gathering r where
  clear : ¬ RequestsUpload r.al.events.cells

/-- A batch has been reported, and the response is waited for. -/
structure Answering (r : Reporting) : Prop extends Awaiting r where
  clear : ¬ RequestsUpload r.al.events.cells

/-- The batch that is being collected cannot be reported any more: one of its events has been
dropped or asks for an upload. -/
structure Lost (r : Reporting) : Prop where
  batch : r.batch ≠ []
  lost : r.al.eventState = .duEventHandling ∨
    r.al.Takes ∧ (r.al.eventCnt < r.batch.length ∨
      RequestsUpload (r.al.events.slice 0 r.al.eventCnt))

/-- An event that does not ask for an upload. -/
private theorem Collecting.clear_store {r : Reporting} (h : r.Collecting) {evt : DiagEntry}
    (hcode : evt.eventCode ≠ eventcodeDevDsUploadReq) :
    ¬ RequestsUpload (r.al.newJob.store evt).events.cells :=
  fun hup => (AlEvents.requestsUpload_store hup).elim h.clear hcode

/-- The events of a batch are stored one behind the other. -/
private theorem collecting_more {r : Reporting} (h : r.Collecting) {evt : DiagEntry}
    {eventsleft : Octet} (hp : r.Proper (.dlEventInd evt eventsleft)) (hleft : eventsleft ≠ 0)
    (hcode : evt.eventCode ≠ eventcodeDevDsUploadReq) :
    r.ReportsExactly (.dlEventInd evt eventsleft) ∧
      (r.step (.dlEventInd evt eventsleft)).Collecting := by
  have hnone : r.completed (.dlEventInd evt eventsleft) = none := if_neg hleft
  have hal : (r.step (.dlEventInd evt eventsleft)).al =
      (r.al.newJob.store evt).enter .readEventSet :=
    AlEvents.handle_more h.takes (h.cnt_lt hp) evt hleft
  obtain ⟨hreports, hgathering⟩ := gathering_more h.toGathering hp hleft
  refine ⟨hreports.exactly fun batch hbatch => ?_, hgathering, ?_⟩
  · rw [hnone] at hbatch
    cases hbatch
  · rw [hal]
    exact h.clear_store hcode

/-- A complete batch is reported as it was. -/
private theorem collecting_done {r : Reporting} (h : r.Collecting) {evt : DiagEntry}
    (hp : r.Proper (.dlEventInd evt 0)) (hcode : evt.eventCode ≠ eventcodeDevDsUploadReq) :
    r.ReportsExactly (.dlEventInd evt 0) ∧ (r.step (.dlEventInd evt 0)).Answering := by
  have hclear := h.clear_store hcode
  obtain ⟨hreports, hawaiting, hevents⟩ := gathering_done h.toGathering hp
  refine ⟨hreports.exactly fun batch hbatch => ?_, hawaiting, hevents ▸ hclear⟩
  rwa [← Option.some.inj hbatch, ← h.cells (h.cnt_lt hp)]

/-- The response lets the next batch begin. -/
private theorem answering_rsp {r : Reporting} (h : r.Answering) :
    r.ReportsExactly .eventRsp ∧ (r.step .eventRsp).Collecting := by
  have hal : (r.step .eventRsp).al = { r.al.newJob.enter .eventIdle with eventCnt := 0 } :=
    AlEvents.handle_eventRsp h.waits
  obtain ⟨hreports, hgathering⟩ := awaiting_rsp h.toAwaiting
  refine ⟨hreports.exactly fun batch hbatch => ?_, hgathering, ?_⟩
  · cases hbatch
  · rw [hal]
    exact h.clear

/-! ### Batches that are lost -/

/-- A job that does what it should finds room for its event. -/
private theorem cnt_lt_of_reports {r : Reporting} {evt : DiagEntry} {eventsleft : Octet}
    (h : r.ReportsExactly (.dlEventInd evt eventsleft)) : r.al.eventCnt < 6 := by
  by_contra hge
  refine h.stored ?_
  have hcalls : (r.step (.dlEventInd evt eventsleft)).al.calls = [.assertion] :=
    AlEvents.handle_full (Nat.not_lt.mp hge) evt eventsleft
  rw [hcalls]
  exact List.mem_singleton_self _

/-- The last event of a batch some of which is missing in the array, or asks for an upload: the
batch is not reported. -/
private theorem reported_done_ne {r : Reporting} {evt : DiagEntry} (hs : r.al.Takes)
    (hcnt : r.al.eventCnt < 6)
    (hlost : r.al.eventCnt < r.batch.length ∨
      RequestsUpload (r.al.events.slice 0 r.al.eventCnt ++ [evt])) :
    (r.al.handle (.dlEventInd evt 0)).reported ≠ [r.batch ++ [evt]] := by
  have hdone := AlEvents.handle_done hs hcnt evt
  have hfront := AlEvents.slice_store hcnt evt
  by_cases hup : RequestsUpload ((r.al.newJob.store evt).enter .duEventHandling).events.cells
  · rw [hdone, AlEvents.alEventInd_upload hup]
    exact (List.cons_ne_nil _ _).symm
  · obtain ⟨block, hblock, hind⟩ := AlEvents.alEventInd_report hup hcnt
    rw [hdone, hind]
    intro heq
    have heq : block.events = r.batch ++ [evt] := List.singleton_inj.mp heq
    rcases hlost with hlt | hup'
    · have hslice : r.al.events.slice 0 r.al.eventCnt = r.batch :=
        List.append_cancel_right (hfront.symm.trans (hblock.symm.trans heq))
      have hlen : (r.al.events.slice 0 r.al.eventCnt).length = r.al.eventCnt :=
        r.al.events.length_slice (by show 0 + r.al.eventCnt ≤ 6; omega)
      rw [hslice] at hlen
      omega
    · refine hup (hup'.mono fun event hmem => ?_)
      rw [← hfront] at hmem
      exact Buffer.mem_cells_of_mem_slice hmem

/-- The next event does not save its batch. -/
private theorem lost_of_doomed {r : Reporting} {evt : DiagEntry} {eventsleft : Octet}
    (hlost : r.al.eventState = .duEventHandling ∨
      r.al.Takes ∧ (r.al.eventCnt < r.batch.length ∨
        RequestsUpload (r.al.events.slice 0 r.al.eventCnt ++ [evt])))
    (h : r.ReportsExactly (.dlEventInd evt eventsleft)) :
    (r.step (.dlEventInd evt eventsleft)).Lost := by
  have hcnt := cnt_lt_of_reports h
  by_cases hleft : eventsleft = 0
  · subst hleft
    have hdone : (r.al.handle (.dlEventInd evt 0)).reported = [r.batch ++ [evt]] := h.reported
    rcases hlost with hs | ⟨hs, hlost⟩
    · rw [AlEvents.handle_early hs hcnt evt 0] at hdone
      exact absurd hdone (List.cons_ne_nil _ _).symm
    · exact absurd hdone (reported_done_ne hs hcnt hlost)
  · have hbatch : (r.step (.dlEventInd evt eventsleft)).batch = r.batch ++ [evt] := if_neg hleft
    refine ⟨by rw [hbatch]; simp, ?_⟩
    rcases hlost with hs | ⟨hs, hlost⟩
    · have hal : (r.step (.dlEventInd evt eventsleft)).al = r.al.newJob.store evt :=
        AlEvents.handle_early hs hcnt evt eventsleft
      rw [hal]
      exact .inl hs
    · have hal : (r.step (.dlEventInd evt eventsleft)).al =
          (r.al.newJob.store evt).enter .readEventSet := AlEvents.handle_more hs hcnt evt hleft
      rw [hal, hbatch]
      refine .inr ⟨.inr rfl, hlost.imp ?_ ?_⟩
      · intro hlt
        rw [List.length_append]
        exact Nat.succ_lt_succ hlt
      · intro hup
        rwa [← AlEvents.slice_store hcnt evt] at hup

/-- An event that is dropped or asks for an upload has its batch lost. -/
private theorem lost_of_disturbed {r : Reporting} (hr : r.Collecting ∨ r.Answering)
    {j : AlEventJob} (hj : ¬ r.Undisturbed j) (h : r.ReportsExactly j) : (r.step j).Lost := by
  cases j with
  | eventRsp => exact absurd trivial hj
  | dlEventInd evt eventsleft =>
    refine lost_of_doomed ?_ h
    rcases hr with hr | hr
    · have hcode : evt.eventCode = eventcodeDevDsUploadReq := by
        by_contra hcode
        exact hj ⟨hr.outstanding, hcode⟩
      exact .inr ⟨hr.takes, .inr ⟨evt, List.mem_append_right _ (List.mem_singleton_self evt),
        hcode⟩⟩
    · exact .inl hr.waits

/-- A lost batch stays lost: no job that does what it should completes it. -/
private theorem lost_step {r : Reporting} (hr : r.Lost) {j : AlEventJob}
    (h : r.ReportsExactly j) : (r.step j).Lost := by
  obtain ⟨hbatch, hlost⟩ := hr
  cases j with
  | eventRsp =>
    refine ⟨hbatch, ?_⟩
    rcases hlost with hs | ⟨hs, hlost⟩
    · have hal : (r.step .eventRsp).al = { r.al.newJob.enter .eventIdle with eventCnt := 0 } :=
        AlEvents.handle_eventRsp hs
      rw [hal]
      exact .inr ⟨.inl rfl, .inl (List.length_pos_iff.mpr hbatch)⟩
    · have hal : (r.step .eventRsp).al = r.al.newJob := AlEvents.handle_eventRsp_of_takes hs
      rw [hal]
      exact .inr ⟨hs, hlost⟩
  | dlEventInd evt eventsleft =>
    refine lost_of_doomed (hlost.imp_right fun ⟨hs, hlost⟩ => ⟨hs, hlost.imp_right ?_⟩) h
    exact fun hup => hup.mono fun _ hmem => List.mem_append_left _ hmem

/-- The batch of a run that loses it is never completed. -/
private theorem batch_ne_nil_of_lost {r : Reporting} (hr : r.Lost) {jobs : List AlEventJob}
    (h : Runs.Admissible step ReportsExactly r jobs) : (Runs.run step r jobs).batch ≠ [] := by
  induction jobs generalizing r with
  | nil => exact hr.batch
  | cons j jobs ih => exact ih (lost_step hr h.1) h.2

/-! ### Runs of whole batches -/

/-- An undisturbed job does what it should. -/
private theorem reports_of_undisturbed {r : Reporting} (hr : r.Collecting ∨ r.Answering)
    {j : AlEventJob} (hp : r.Proper j) (hj : r.Undisturbed j) :
    r.ReportsExactly j ∧ ((r.step j).Collecting ∨ (r.step j).Answering) := by
  cases j with
  | eventRsp =>
    rcases hr with hr | hr
    · have hpos : 0 < r.outstanding := hp
      rw [hr.outstanding] at hpos
      exact absurd hpos (Nat.lt_irrefl 0)
    · exact (answering_rsp hr).imp_right .inl
  | dlEventInd evt eventsleft =>
    rcases hr with hr | hr
    · by_cases hleft : eventsleft = 0
      · subst hleft
        exact (collecting_done hr hp hj.2).imp_right .inr
      · exact (collecting_more hr hp hleft hj.2).imp_right .inl
    · have hzero : r.outstanding = 0 := hj.1
      rw [hr.outstanding] at hzero
      exact absurd hzero Nat.one_ne_zero

private theorem reports_batches_iff_from {r : Reporting} (hr : r.Collecting ∨ r.Answering)
    {jobs : List AlEventJob} (hproper : Runs.Admissible step Proper r jobs)
    (hwhole : (Runs.run step r jobs).batch = []) :
    Runs.Admissible step ReportsExactly r jobs ↔ Runs.Admissible step Undisturbed r jobs := by
  induction jobs generalizing r with
  | nil => exact Iff.rfl
  | cons j jobs ih =>
    obtain ⟨hp, hps⟩ := hproper
    constructor
    · rintro ⟨h, hs⟩
      have hj : r.Undisturbed j := by
        by_contra hj
        exact batch_ne_nil_of_lost (lost_of_disturbed hr hj h) hs hwhole
      exact ⟨hj, (ih (reports_of_undisturbed hr hp hj).2 hps hwhole).mp hs⟩
    · rintro ⟨hj, hjs⟩
      obtain ⟨h, hr'⟩ := reports_of_undisturbed hr hp hj
      exact ⟨h, (ih hr' hps hwhole).mpr hjs⟩

/-- **Which batches are reported as they were.** In a run of whole batches every job does what it
should exactly if no event asks for an upload and none is handled while a response is
outstanding. -/
theorem reports_batches_iff (jobs : List AlEventJob)
    (hproper : Runs.Admissible step Proper {} jobs)
    (hwhole : (Runs.run step {} jobs).batch = []) :
    Runs.Admissible step ReportsExactly {} jobs ↔ Runs.Admissible step Undisturbed {} jobs := by
  refine reports_batches_iff_from (.inl ⟨⟨.inl rfl, rfl, rfl, rfl⟩, ?_⟩) hproper hwhole
  decide

/-- The events of two batches of different sizes. -/
theorem two_calm_batches_are_reported :
    Runs.Admissible step ReportsExactly {}
      [.dlEventInd ⟨0x41, 0x1801⟩ 1, .dlEventInd ⟨0x42, 0x1802⟩ 0, .eventRsp,
       .dlEventInd ⟨0x43, 0x1803⟩ 0, .eventRsp] := by
  refine (reports_batches_iff _ (by decide) (by decide)).mpr ⟨⟨rfl, ?_⟩, ⟨rfl, ?_⟩, trivial,
    ⟨rfl, ?_⟩, trivial, trivial⟩ <;> decide

/-- **An old request hides a batch.** The batch of a single event follows one that asked for an
upload. The request is still in its slot: the parameters are uploaded again, and the event is not
reported. -/
theorem old_request_hides_a_batch :
    ¬ Runs.Admissible step ReportsExactly {}
      [.dlEventInd ⟨0x41, 0x1801⟩ 1, .dlEventInd ⟨0x42, eventcodeDevDsUploadReq⟩ 0, .eventRsp,
       .dlEventInd ⟨0x43, 0x1803⟩ 0] := by
  rintro ⟨-, -, -, h, -⟩
  obtain ⟨batch, hbatch, hup⟩ := h.upload.mp (by decide)
  have hbatch : [⟨0x43, 0x1803⟩] = batch := Option.some.inj hbatch
  subst hbatch
  exact absurd hup (by decide)

end Reporting

end IolHat
