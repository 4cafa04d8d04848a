import IolHat.DataStorage.Upload

/-!
# A checksum that cannot be read

The checksum of the device's set is read in three states: before a set is compared
(`CheckUpload`), after an upload (`StoreDataSet`) and after a download (`Download_Done`). An answer
that is an error or too short is meant to end the matter: the stored data stays as it is, the
device is told to break off, and one fault is reported.

`AbortsCleanly` says what that takes until the device has confirmed the break, with any other jobs
of the layer in between. `abortsCleanly_iff` says when it happens: only a communication error is
handled before the checksum is taken, and `CheckUpload` has no row for it. Any other answer is
taken for the checksum, and the application layer gives no data with the answers it makes up itself:
a null pointer is followed then (`nullPointer_mem_outputs`).
-/

namespace IolHat

/-- The first four octets behind the pointer of a confirmation. -/
def ReadCnf.word (c : ReadCnf) : Option UInt32 := c.data.map wordOf

/-- A confirmation of the application layer. -/
def DsInput.Confirms : DsInput → Prop
  | .readCnf _ | .writeCnf _ => True
  | _ => False

/-- A fault that is reported to CM. -/
def DsCall.isFault {δ : Type} : DsCall δ → Bool
  | .dsFault _ => true
  | _ => false

@[simp]
theorem DsCall.isFault_map {δ ε : Type} (f : δ → ε) (c : DsCall δ) :
    (c.map f).isFault = c.isFault := by
  cases c <;> rfl

namespace Ds

/-! ### Rows of the states that read a checksum -/

/-- The machine leaves a download with an error. -/
def failDownload (ds : Ds) : Ds :=
  { (ds.enter .downloadFault).enter .dsFault with fault := .down }.alWriteDsCmdReq .break_

/-- T42, then T28. -/
theorem event_comErr_downloadDone {ds : Ds} (h : ds.state = .downloadDone) :
    ds.event .comErr = ds.failDownload := by
  have hrow : fsm.row ds .comErr = some ⟨.comErr, .downloadFault, .dlFault⟩ :=
    Fsm.Machine.row_of_state h rfl
  exact Fsm.Machine.drive_of_rows hrow rfl (by decide) (Fsm.Machine.row_of_state rfl rfl) rfl

/-- T27, then T3: the download has succeeded. -/
theorem event_ready_downloadDone {ds : Ds} (h : ds.state = .downloadDone) :
    ds.event .ready = ((ds.enter .dsReady).call .dsReady).enter .waitingOnDsActivity := by
  have hrow : fsm.row ds .ready = some ⟨.ready, .dsReady, .ready⟩ :=
    Fsm.Machine.row_of_state h rfl
  exact Fsm.Machine.drive_of_rows hrow rfl (by decide) (Fsm.Machine.row_of_state rfl rfl) rfl

/-- Where the machine can pass from `CheckUpload` on, when no upload is asked for. -/
private def onward : List (DsState × DsEvent) :=
  [(.checkUpload, .noUpload), (.checkDsValidity, .passed), (.checkChecksum, .download),
   (.checkChecksum, .ready), (.dsReady, .ready)]

private theorem onward_closed : ∀ p ∈ onward, p.1 ≠ .dsFault ∧
    ∀ t ∈ transitions p.1, t.event = p.2 → t.next ≠ .dsFault ∧
      ∀ e ∈ followUps t.action t.event, e ≠ .none → (t.next, e) ∈ onward := by
  decide

/-- T20 or T43: whatever the flags, the machine goes on. -/
theorem event_noUpload_state {ds : Ds} (h : ds.state = .checkUpload) :
    (ds.event .noUpload).state ≠ .dsFault := by
  have hstart : (ds.state, DsEvent.noUpload) ∈ onward := by
    rw [h]
    decide
  have hround {c : Ds} {e : DsEvent} {t : Fsm.Transition DsState DsEvent Action}
      (hrow : fsm.row c e = some t) : (fsm.round t c e).1.state = t.next := perform_state _ _ _
  refine Fsm.Machine.drive_rule (M := fsm) (Q := fun c => c.state ≠ .dsFault)
    (P := fun c e => (c.state, e) ∈ onward) (fun c e _ hc => (onward_closed _ hc).1)
    (fun c e t hrow hc _ => ?_) (fun c e t hrow hc hidle => ?_) hstart
  · obtain ⟨hmem, hev⟩ := Fsm.Machine.mem_of_row hrow
    rw [hround hrow]
    exact ((onward_closed _ hc).2 t hmem hev).1
  · obtain ⟨hmem, rfl⟩ := Fsm.Machine.mem_of_row hrow
    rw [hround hrow]
    exact ((onward_closed _ hc).2 t hmem rfl).2 _ (perform_followUp _ _ _) hidle

/-! ### Until the break is confirmed -/

/-- Neither a fault nor a success is reported. -/
def Unreported {δ : Type} (calls : List (DsCall δ)) : Prop :=
  ∀ c ∈ calls, c.isFault = false ∧ c ≠ .dsReady

theorem Unreported.append {δ : Type} {calls others : List (DsCall δ)} (h : Unreported calls)
    (h' : Unreported others) : Unreported (calls ++ others) := by
  intro c hc
  rcases List.mem_append.mp hc with hc | hc
  · exact h c hc
  · exact h' c hc

theorem Unreported.countP {δ : Type} {calls : List (DsCall δ)} (h : Unreported calls) :
    calls.countP DsCall.isFault = 0 :=
  List.countP_eq_zero.mpr fun c hc => by rw [(h c hc).1]; exact Bool.false_ne_true

/-- Following the pointers does not change what is reported. -/
private theorem unreported_outputs {ds : Ds} {i : DsInput} (h : Unreported (ds.step i).calls) :
    Unreported (ds.outputs i) := by
  intro c hc
  obtain ⟨d, hd, rfl⟩ := List.mem_map.mp hc
  obtain ⟨hfault, hready⟩ := h d hd
  refine ⟨by rw [DsCall.isFault_map, hfault], fun heq => hready ?_⟩
  cases d <;> first | rfl | cases heq

/-- A machine that waits for the confirmation of the break, after a job that has reported
nothing. -/
structure Breaking (ds : Ds) : Prop where
  state : ds.state = .dsFault
  command : ds.command = .break_
  unreported : Unreported ds.calls

private theorem breaking_call {ds : Ds} (h : ds.Breaking) {c : DsCall WriteData}
    (hc : c.isFault = false ∧ c ≠ .dsReady) : (ds.call c).Breaking := by
  refine ⟨h.state, h.command, h.unreported.append fun d hd => ?_⟩
  rw [List.mem_singleton.mp hd]
  exact hc

/-- The other jobs of the layer do not touch it. -/
theorem Breaking.step {ds : Ds} (hs : ds.state = .dsFault) (hcmd : ds.command = .break_)
    {i : DsInput} (hi : ¬ i.Confirms) : (ds.step i).Breaking := by
  have hfresh : ds.fresh.Breaking := ⟨hs, hcmd, fun c hc => absurd hc List.not_mem_nil⟩
  have hdrop {ds' : Ds} {e : DsEvent} (h : ds'.Breaking)
      (hrow : Fsm.lookup (transitions .dsFault) e = none) : (ds'.event e).Breaking := by
    rwa [event_dropped h.state hrow]
  cases i with
  | readCnf c => exact absurd trivial hi
  | writeCnf e => exact absurd trivial hi
  | startup => exact hdrop hfresh rfl
  | delete => exact hdrop hfresh rfl
  | init cfg =>
    have hconf : (ds.fresh.configure cfg).Breaking := ⟨hs, hcmd, hfresh.unreported⟩
    exact hdrop hconf rfl
  | upload => exact hdrop hfresh rfl
  | parServToDs exp argBlockLen block =>
    have hmaster (f : MasterDs → MasterDs) : (ds.fresh.modMaster f).Breaking :=
      ⟨hs, hcmd, hfresh.unreported⟩
    show (ds.fresh.smiParServToDsReq exp argBlockLen block).Breaking
    rw [smiParServToDsReq]
    split_ifs
    · exact breaking_call hfresh ⟨rfl, by rintro ⟨⟩⟩
    · exact breaking_call hfresh ⟨rfl, by rintro ⟨⟩⟩
    · exact breaking_call (hmaster _) ⟨rfl, by rintro ⟨⟩⟩
  | portInfo id => exact ⟨hs, hcmd, hfresh.unreported⟩
  | setModeType11 => exact ⟨hs, hcmd, hfresh.unreported⟩

/-- A whole run without confirmations. -/
theorem breaking_run {ds : Ds} (hs : ds.state = .dsFault) (hcmd : ds.command = .break_)
    {others : List DsInput} (hothers : ∀ i ∈ others, ¬ i.Confirms) :
    (Runs.run Ds.step ds others).state = .dsFault ∧
      (Runs.run Ds.step ds others).command = .break_ ∧
      Unreported (Runs.trace Ds.step Ds.outputs ds others) := by
  induction others generalizing ds with
  | nil => exact ⟨hs, hcmd, fun c hc => absurd hc List.not_mem_nil⟩
  | cons i is ih =>
    have hstep := Breaking.step hs hcmd (hothers i List.mem_cons_self)
    obtain ⟨hs', hcmd', hquiet⟩ :=
      ih hstep.state hstep.command fun j hj => hothers j (List.mem_cons_of_mem i hj)
    exact ⟨hs', hcmd', (unreported_outputs hstep.unreported).append hquiet⟩

/-- The confirmation itself: the fault is reported, unless the break could not be written. -/
theorem outputs_writeCnf_dsFault {ds : Ds} (hs : ds.state = .dsFault) (e : SmiErrorType) :
    ds.outputs (.writeCnf e) = if e = SmiErrorType.none then [.dsFault ds.fault] else [] := by
  have hleave {ds' : Ds} {ev : DsEvent} (h : ds'.state = .dsFault)
      (hrow : Fsm.lookup (transitions .dsFault) ev = some ⟨ev, .waitingOnDsActivity, .waitDsAct⟩) :
      ds'.event ev = ds'.enter .waitingOnDsActivity :=
    Fsm.Machine.drive_of_row_idle (Fsm.Machine.row_of_state h hrow) rfl
  have hstate : ds.fresh.state = .dsFault := hs
  rw [outputs]
  by_cases he : e = SmiErrorType.none
  · have hstep : ds.step (.writeCnf e) =
        (ds.fresh.call (.dsFault ds.fault)).enter .waitingOnDsActivity := by
      show ds.fresh.writeCnfCb e = _
      simp only [writeCnfCb, he, ne_eq, not_true_eq_false, if_false, hstate]
      exact hleave hs rfl
    rw [hstep, if_pos he]
    rfl
  · have hstep : ds.step (.writeCnf e) = ds.fresh.enter .waitingOnDsActivity := by
      show ds.fresh.writeCnfCb e = _
      rw [writeCnfCb, if_pos he]
      exact hleave hs rfl
    rw [hstep, if_neg he]
    rfl

/-! ### Clean aborts -/

/-- The response to a request for the checksum, when the machine takes the failure transition
only: nothing is taken from the response, `BREAK` is the one request that follows and what is
written when the application layer follows the pointer, and one fault is reported once it has
been confirmed. The jobs `others` arrive in between. -/
structure AbortsCleanly (ds : Ds) (c : ReadCnf) (others : List DsInput) (e : SmiErrorType) :
    Prop where
  cs : (ds.step (.readCnf c)).deviceDs.cs = ds.deviceDs.cs
  masterDs : (ds.step (.readCnf c)).masterDs = ds.masterDs
  failure : (ds.step (.readCnf c)).state = .dsFault
  request : ds.outputs (.readCnf c) =
    [.alWriteReq dsParamIndex dsParamSubindexCmd [DsCommand.break_.code]]
  transmitted : ∀ is, is <+: others →
    (Runs.run Ds.step (ds.step (.readCnf c)) is).command = .break_
  success : .dsReady ∉
    Runs.trace Ds.step Ds.outputs ds (.readCnf c :: (others ++ [.writeCnf e]))
  fault : (Runs.trace Ds.step Ds.outputs ds
    (.readCnf c :: (others ++ [.writeCnf e]))).countP DsCall.isFault = 1

/-- The states in which a response is taken for the checksum. -/
def AwaitsChecksum (ds : Ds) : Prop :=
  ds.state = .checkUpload ∨ ds.state = .storeDataSet ∨ ds.state = .downloadDone

/-- Everything that is reported until the break has been confirmed. -/
theorem trace_of_break {ds : Ds} {c : ReadCnf} {others : List DsInput} (e : SmiErrorType)
    (hs : (ds.step (.readCnf c)).state = .dsFault)
    (hcmd : (ds.step (.readCnf c)).command = .break_)
    (hout : ds.outputs (.readCnf c) =
      [.alWriteReq dsParamIndex dsParamSubindexCmd [DsCommand.break_.code]])
    (hothers : ∀ i ∈ others, ¬ i.Confirms) :
    .dsReady ∉ Runs.trace Ds.step Ds.outputs ds (.readCnf c :: (others ++ [.writeCnf e])) ∧
      (Runs.trace Ds.step Ds.outputs ds
        (.readCnf c :: (others ++ [.writeCnf e]))).countP DsCall.isFault =
          if e = SmiErrorType.none then 1 else 0 := by
  obtain ⟨hstate, -, hquiet⟩ := breaking_run hs hcmd hothers
  have hbreak : Unreported (ds.outputs (.readCnf c)) := by
    rw [hout]
    intro d hd
    rw [List.mem_singleton.mp hd]
    exact ⟨rfl, by rintro ⟨⟩⟩
  have hbefore := hbreak.append hquiet
  have htrace : Runs.trace Ds.step Ds.outputs ds (.readCnf c :: (others ++ [.writeCnf e])) =
      (ds.outputs (.readCnf c) ++
        Runs.trace Ds.step Ds.outputs (ds.step (.readCnf c)) others) ++
          if e = SmiErrorType.none then
            [.dsFault (Runs.run Ds.step (ds.step (.readCnf c)) others).fault] else [] := by
    rw [← outputs_writeCnf_dsFault hstate e]
    simp [Runs.trace_append]
  rw [htrace, List.countP_append, hbefore.countP]
  constructor
  · intro hmem
    rcases List.mem_append.mp hmem with hmem | hmem
    · exact (hbefore _ hmem).2 rfl
    · split_ifs at hmem
      · cases List.mem_singleton.mp hmem
      · cases hmem
  · split_ifs <;> rfl

/-- The failure transition, confirmed. -/
private theorem abortsCleanly_of_break {ds : Ds} {c : ReadCnf} {others : List DsInput}
    (hs : (ds.step (.readCnf c)).state = .dsFault)
    (hcmd : (ds.step (.readCnf c)).command = .break_)
    (hcalls : (ds.step (.readCnf c)).calls =
      [.alWriteReq dsParamIndex dsParamSubindexCmd .command])
    (hcs : (ds.step (.readCnf c)).deviceDs.cs = ds.deviceDs.cs)
    (hmaster : (ds.step (.readCnf c)).masterDs = ds.masterDs)
    (hothers : ∀ i ∈ others, ¬ i.Confirms) :
    AbortsCleanly ds c others SmiErrorType.none := by
  have hout : ds.outputs (.readCnf c) =
      [.alWriteReq dsParamIndex dsParamSubindexCmd [DsCommand.break_.code]] := by
    rw [outputs, hcalls, List.map_singleton, DsCall.map, fetch, hcmd]
  obtain ⟨hsuccess, hfault⟩ := trace_of_break SmiErrorType.none hs hcmd hout hothers
  refine ⟨hcs, hmaster, hs, hout, fun is his => ?_, hsuccess, hfault⟩
  exact (breaking_run hs hcmd fun i hi => hothers i (his.subset hi)).2.1

/-- A communication error is handled before the state is looked at. -/
private theorem step_comErr {ds : Ds} {c : ReadCnf} (hcom : c.errortype = SmiErrorType.comErr) :
    ds.step (.readCnf c) = ds.fresh.event .comErr :=
  if_pos hcom

section

variable {ds : Ds} {c : ReadCnf}

private theorem step_checkUpload (h : ds.state = .checkUpload)
    (hcom : c.errortype ≠ SmiErrorType.comErr) :
    ds.step (.readCnf c) = ds.fresh.readChecksum c (·.event .noUpload) := by
  show ds.fresh.readCnfCb c = _
  simp only [readCnfCb, if_neg hcom, fresh_state, h]

private theorem step_storeDataSet (h : ds.state = .storeDataSet)
    (hcom : c.errortype ≠ SmiErrorType.comErr) :
    ds.step (.readCnf c) = ds.fresh.readChecksum c (·.alWriteDsCmdReq .ulEnd) := by
  show ds.fresh.readCnfCb c = _
  simp only [readCnfCb, if_neg hcom, fresh_state, h]

private theorem step_downloadDone (h : ds.state = .downloadDone)
    (hcom : c.errortype ≠ SmiErrorType.comErr) :
    ds.step (.readCnf c) = ds.fresh.readChecksum c (·.event .ready) := by
  show ds.fresh.readCnfCb c = _
  simp only [readCnfCb, if_neg hcom, fresh_state, h]

/-- **A response without data is fatal.** Unless it is a communication error, its pointer is
followed in every state that reads a checksum. -/
theorem nullPointer_mem_outputs (hds : ds.AwaitsChecksum)
    (hcom : c.errortype ≠ SmiErrorType.comErr) (hdata : c.data = none) :
    .nullPointer ∈ ds.outputs (.readCnf c) := by
  have hread : ds.step (.readCnf c) = (ds.fresh.event .comErr).call .nullPointer := by
    rcases hds with hs | hs | hs
    · rw [step_checkUpload hs hcom, readChecksum_of_null hdata]
    · rw [step_storeDataSet hs hcom, readChecksum_of_null hdata]
    · rw [step_downloadDone hs hcom, readChecksum_of_null hdata]
  have hcall : .nullPointer ∈ (ds.step (.readCnf c)).calls := by
    rw [hread]
    exact List.mem_append_right _ (List.mem_singleton.mpr rfl)
  exact List.mem_map.mpr ⟨_, hcall, rfl⟩

theorem not_abortsCleanly_of_null {others : List DsInput} {e : SmiErrorType}
    (hds : ds.AwaitsChecksum) (hcom : c.errortype ≠ SmiErrorType.comErr) (hdata : c.data = none) :
    ¬ AbortsCleanly ds c others e := by
  intro h
  have hmem := nullPointer_mem_outputs hds hcom hdata
  rw [h.request] at hmem
  cases List.mem_singleton.mp hmem

/-- In `CheckUpload` the machine goes on, whatever the response. -/
private theorem checkUpload_goes_on (h : ds.state = .checkUpload) :
    (ds.step (.readCnf c)).state ≠ .dsFault := by
  have hfresh : ds.fresh.state = .checkUpload := h
  have hdrop : ds.fresh.event .comErr = ds.fresh := event_dropped hfresh rfl
  have hkept : ds.fresh.state ≠ .dsFault := by
    rw [hfresh]
    decide
  by_cases hcom : c.errortype = SmiErrorType.comErr
  · rwa [step_comErr hcom, hdrop]
  · rw [step_checkUpload h hcom, readChecksum, hdrop, ite_self]
    exact follow_rule (P := fun ds => ds.state ≠ .dsFault) hkept fun data => event_noUpload_state h

/-- A response to the last request of a download that is too short: the failure transition is
taken, and the checksum with it. -/
private theorem step_downloadDone_short (h : ds.state = .downloadDone)
    (hcom : c.errortype ≠ SmiErrorType.comErr) (hlen : c.len < 4)
    {data : Octets.Buffer Octet isduMaxSize} (hdata : c.data = some data) :
    ds.step (.readCnf c) = ds.fresh.failDownload.modDevice ({ · with cs := wordOf data }) := by
  have hfresh : ds.fresh.state = .downloadDone := h
  rw [step_downloadDone h hcom, readChecksum_of_short hlen hdata, event_comErr_downloadDone hfresh]
  exact event_dropped rfl rfl

private theorem step_downloadDone_long (h : ds.state = .downloadDone)
    (hcom : c.errortype ≠ SmiErrorType.comErr) (hlen : ¬ c.len < 4) :
    (ds.step (.readCnf c)).state ≠ .dsFault := by
  have hstate : (ds.fresh.modDevice ({ · with cs := wordOf c.buffer })).state = .downloadDone := h
  rw [step_downloadDone h hcom, readChecksum_of_le (Nat.not_lt.mp hlen),
    event_ready_downloadDone hstate]
  rintro ⟨⟩

/-- **When a failed checksum read is a clean abort.** The response must be a communication error
outside `CheckUpload`, or it has data and ends a download with the checksum that is known already;
and the break must be written without an error. -/
theorem abortsCleanly_iff {others : List DsInput} (e : SmiErrorType) (hds : ds.AwaitsChecksum)
    (hothers : ∀ i ∈ others, ¬ i.Confirms) :
    AbortsCleanly ds c others e ↔
      (c.errortype = SmiErrorType.comErr ∧ ds.state ≠ .checkUpload ∨
        ds.state = .downloadDone ∧ c.len < 4 ∧ c.word = some ds.deviceDs.cs) ∧
      e = SmiErrorType.none := by
  constructor
  · intro h
    have he : e = SmiErrorType.none := by
      by_contra hne
      have hcount := (trace_of_break e h.failure (h.transmitted [] List.nil_prefix) h.request
        hothers).2
      rw [h.fault, if_neg hne] at hcount
      exact absurd hcount (by decide)
    refine ⟨?_, he⟩
    have hnot : ds.state ≠ .checkUpload := fun hs => checkUpload_goes_on hs h.failure
    by_cases hcom : c.errortype = SmiErrorType.comErr
    · exact .inl ⟨hcom, hnot⟩
    cases hdata : c.data with
    | none => exact absurd h (not_abortsCleanly_of_null hds hcom hdata)
    | some data =>
    rcases hds with hs | hs | hs
    · exact absurd hs hnot
    · -- the command octet has been overwritten
      have hcmd : (ds.step (.readCnf c)).command = .break_ := h.transmitted [] List.nil_prefix
      rw [step_storeDataSet hs hcom, readChecksum, follow, hdata] at hcmd
      cases hcmd
    · have hlen : c.len < 4 := by
        by_contra hlong
        exact step_downloadDone_long hs hcom hlong h.failure
      have hcs : wordOf data = ds.deviceDs.cs := by
        rw [← h.cs, step_downloadDone_short hs hcom hlen hdata]
        rfl
      exact .inr ⟨hs, hlen, by rw [ReadCnf.word, hdata, Option.map_some, hcs]⟩
  · rintro ⟨⟨hcom, hnot⟩ | ⟨hs, hlen, hword⟩, rfl⟩
    · have hstep : ds.step (.readCnf c) = _ := step_comErr hcom
      rcases hds with hs | hs | hs
      · exact absurd hs hnot
      · have hup : ds.fresh.Uploading := .inr hs
        rw [event_comErr hup] at hstep
        refine abortsCleanly_of_break ?_ ?_ ?_ ?_ ?_ hothers <;> rw [hstep] <;> rfl
      · rw [event_comErr_downloadDone (show ds.fresh.state = .downloadDone from hs)] at hstep
        refine abortsCleanly_of_break ?_ ?_ ?_ ?_ ?_ hothers <;> rw [hstep] <;> rfl
    · by_cases hcom : c.errortype = SmiErrorType.comErr
      · have hstep : ds.step (.readCnf c) = _ := step_comErr hcom
        rw [event_comErr_downloadDone (show ds.fresh.state = .downloadDone from hs)] at hstep
        refine abortsCleanly_of_break ?_ ?_ ?_ ?_ ?_ hothers <;> rw [hstep] <;> rfl
      · obtain ⟨data, hdata, hcs⟩ := Option.map_eq_some_iff.mp hword
        have hstep := step_downloadDone_short hs hcom hlen hdata
        refine abortsCleanly_of_break ?_ ?_ ?_ ?_ ?_ hothers <;> rw [hstep]
        · rfl
        · rfl
        · rfl
        · exact hcs
        · rfl

/-- An upload has read all parameters, and its checksum is asked for. -/
def afterParameters : Ds :=
  Runs.run step beforeUpload
    [.writeCnf SmiErrorType.none, listOfOneEntry, .readCnf (.ofOctet 7)]

/-- A lost connection at the end of an upload, with a new start-up before the break is
confirmed. -/
theorem lost_connection_aborts_cleanly :
    AbortsCleanly afterParameters (.ofError SmiErrorType.comErr) [.startup, .upload]
      SmiErrorType.none :=
  (abortsCleanly_iff SmiErrorType.none (.inr (.inl (by decide +kernel)))
    (by simp [DsInput.Confirms])).mpr ⟨.inl ⟨rfl, by decide +kernel⟩, rfl⟩

/-- What the application layer answers while it is busy with another service is no clean abort. -/
example : ¬ AbortsCleanly afterParameters .busy [] SmiErrorType.none :=
  not_abortsCleanly_of_null (.inr (.inl (by decide +kernel))) (by decide) rfl

/-- **The upload ends although its checksum is missing.** After a response without octets the
command octet is `UL_END` when the application layer follows the pointer of the break. -/
theorem short_checksum_ends_the_upload :
    ¬ AbortsCleanly afterParameters (.ofValue [] (Nat.zero_le _)) [] SmiErrorType.none := by
  intro h
  have hcmd : (afterParameters.step (.readCnf (.ofValue [] (Nat.zero_le _)))).command = .break_ :=
    h.transmitted [] List.nil_prefix
  exact absurd hcmd (by decide +kernel)

end

end Ds

end IolHat
