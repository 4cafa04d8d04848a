import IolHat.SystemManagement.Machine

/-!
# One job of System Management

What a single job can do to the state, to the configuration and to the reports of System
Management. A job that brings no configuration keeps the configuration and raises at most one event
(`Sm.prepared_callback`); what an event does is read off the table, once for each question
(`Sm.event_moves`, `Sm.event_reports`). A job that brings one has three cases,
`Sm.setportcfg_takes`, `Sm.setportcfg_refuses` and `Sm.setportcfg_overwrites`.
-/

namespace IolHat

/-! ### Classes of states, events and calls -/

/-- The reports that a device runs, among the calls. -/
def SmCall.report : SmCall → Option SmPortMode
  | .portModeInd .comready => some .comready
  | .portModeInd .operate => some .operate
  | _ => none

/-- The events of a configuration. -/
def SmEvent.isSetPortConfig : SmEvent → Bool
  | .setPortConfigInactive | .setPortConfigCfgcomOrAutocom | .setPortConfigDiOrDo => true
  | _ => false

/-- The states of a start-up and of the communication that follows it. -/
def SmState.communicating : SmState → Bool
  | .portInactive | .waitForFallback | .dido => false
  | _ => true

/-- The states in which a port with the target mode can be. A port that has been set inactive may
still be taking its device back to SIO mode. -/
def SmTargetMode.runs : SmTargetMode → SmState → Bool
  | .inactive, s => s = .portInactive || s = .waitForFallback
  | .di, s | .do_, s => s = .dido
  | .cfgcom, s | .autocom, s => !(s = .dido || s = .waitForFallback)

/-- The state changes that need no configuration. -/
def SmState.Moves (s s' : SmState) (startup : Prop) : Prop :=
  s' = s ∨ s' = .portInactive ∧ s ≠ .dido ∨ s.communicating = true ∧ s'.communicating = true ∨
    s = .portInactive ∧ s' = .readComParameter ∧ startup

namespace Sm

/-- The reports made so far. -/
def reports (sm : Sm) : List SmPortMode := sm.calls.filterMap SmCall.report

/-- The state and the configuration are the same, and no report has been made. -/
structure Kept (sm sm' : Sm) : Prop where
  state : sm'.state = sm.state
  config : sm'.configParamlist = sm.configParamlist
  reports : sm'.reports = sm.reports

theorem Kept.of_calls {sm sm' : Sm} (cs : List SmCall) (hcalls : sm'.calls = sm.calls ++ cs)
    (hstate : sm'.state = sm.state) (hconfig : sm'.configParamlist = sm.configParamlist)
    (hcs : cs.filterMap SmCall.report = []) : Kept sm sm' := by
  refine ⟨hstate, hconfig, ?_⟩
  simp [Sm.reports, hcalls, hcs]

theorem Kept.of_same {sm sm' : Sm} (hcalls : sm'.calls = sm.calls)
    (hstate : sm'.state = sm.state) (hconfig : sm'.configParamlist = sm.configParamlist) :
    Kept sm sm' :=
  ⟨hstate, hconfig, congrArg (List.filterMap SmCall.report) hcalls⟩

/-- The rows of the table that need no configuration. -/
private theorem moves_rows (s : SmState) : ∀ t ∈ transitions s,
    t.event.isSetPortConfig = false ∨ s = .waitForFallback →
      t.next = s ∨ t.next = .portInactive ∧ s ≠ .dido ∨
        s.communicating = true ∧ t.next.communicating = true ∨
          s = .portInactive ∧ t.next = .readComParameter ∧ t.event = .dlModeStartup := by
  cases s <;> decide

/-- Reports are made in the states of a communication only. -/
private theorem report_rows (s : SmState) : s.communicating = false → ∀ t ∈ transitions s,
    t.action ∈ [Action.readcomparameter, .portinactive, .dido, .smoperateIgnore, .comlost,
      .comlostIgnore] := by
  cases s <;> decide

/-- The state an event leads to, if it is not the event of a configuration. -/
theorem event_moves {sm : Sm} {e : SmEvent}
    (he : e.isSetPortConfig = false ∨ sm.state = .waitForFallback) :
    sm.state.Moves (sm.event e).state (e = .dlModeStartup) := by
  rw [event_state]
  rcases hrow : sm.row e with _ | t
  · exact Or.inl rfl
  · obtain ⟨hmem, rfl⟩ := Fsm.Machine.mem_of_row (M := fsm) hrow
    exact moves_rows _ t hmem he

theorem reports_callAll (sm : Sm) (cs : List SmCall) :
    (sm.callAll cs).reports = sm.reports ++ cs.filterMap SmCall.report := by
  simp [reports]

@[simp]
theorem reports_dlReadReq (sm : Sm) (addr : Octet) : (sm.dlReadReq addr).reports = sm.reports := by
  rw [dlReadReq, reports_callAll, reports_callAll]
  split_ifs <;> simp [SmCall.report, reports]

@[simp]
theorem reports_dlWriteReq (sm : Sm) (addr value : Octet) :
    (sm.dlWriteReq addr value).reports = sm.reports := by
  rw [dlWriteReq, reports_callAll, reports_callAll]
  split_ifs <;> simp [SmCall.report, reports]

@[simp]
theorem reports_dlSetModeReqPreopOp (sm : Sm) (mode : DlMode) :
    (sm.dlSetModeReqPreopOp mode).reports = sm.reports := by
  rw [dlSetModeReqPreopOp, reports_callAll]
  split
  · simp [SmCall.report]
  · split_ifs <;> simp [SmCall.report]

/-- The actions of the other states report nothing. -/
theorem reports_perform {a : Action}
    (ha : a ∈ [Action.readcomparameter, .portinactive, .dido, .smoperateIgnore, .comlost,
      .comlostIgnore]) (sm : Sm) (e : SmEvent) : (perform a sm e).reports = sm.reports := by
  simp only [List.mem_cons, List.not_mem_nil, or_false] at ha
  rcases ha with rfl | rfl | rfl | rfl | rfl | rfl
  · rw [perform, readcomparameter, reports_dlReadReq]
    split_ifs <;> rfl
  · cases e <;> simp [perform, portinactive, reports, SmCall.report, dlSetModeReqInactive,
      dlSetModeReqStartup]
  · rw [perform, didoAction]
    cases sm.configParamlist.mode <;>
      simp [reports, SmCall.report, dlSetModeReqInactive]
  · rfl
  · simp [perform, comlost, reports, SmCall.report, dlSetModeReqInactive]
  · rfl

theorem event_reports {sm : Sm} (hs : sm.state.communicating = false) (e : SmEvent) :
    (sm.event e).reports = sm.reports := by
  rcases hrow : sm.row e with _ | t
  · rw [event_of_none hrow]
  · obtain ⟨hmem, rfl⟩ := Fsm.Machine.mem_of_row (M := fsm) hrow
    rw [event_of_row hrow, reports_perform (report_rows _ hs t hmem)]
    rfl

/-- What a job that brings no configuration has done when it raises its event: state and
configuration are the same, and the event is not that of a configuration, unless the port is
falling back to be inactive. -/
structure Prepared (sm : Sm) (j : SmJob) (r : Sm × SmEvent) : Prop where
  kept : Kept sm r.1
  event : r.2.isSetPortConfig = false ∨ sm.state = .waitForFallback
  startup : r.2 = .dlModeStartup → j = .dlMode .startup

theorem Kept.refl (sm : Sm) : Kept sm sm := ⟨rfl, rfl, rfl⟩

variable {sm sm' : Sm} {j : SmJob}

/-- An event that is neither that of a configuration nor that of a start-up. -/
private theorem Prepared.raise (h : Kept sm sm') {e : SmEvent}
    (he : e.isSetPortConfig = false ∧ e ≠ .dlModeStartup) : Prepared sm j (sm', e) :=
  ⟨h, Or.inl he.1, fun h => absurd h he.2⟩

/-- No event. -/
private theorem Prepared.quiet (h : Kept sm sm') : Prepared sm j (sm', .none) :=
  ⟨h, Or.inl rfl, nofun⟩

private theorem Prepared.fault (h : Kept sm sm') (f : SmFault) : Prepared sm j (sm'.fault f) := by
  have hset : Kept sm (sm'.setError (some f)) := ⟨h.state, h.config, h.reports⟩
  exact .raise hset (by cases f <;> decide)

private theorem prepared_doCheckCompV10 (h : Kept sm sm') : Prepared sm j sm'.doCheckCompV10 := by
  rw [doCheckCompV10]
  split_ifs
  · exact .fault h _
  · exact .raise h (by decide)
  · exact .raise h (by decide)
  · exact .fault h _

private theorem prepared_doCheckComp (h : Kept sm sm') : Prepared sm j sm'.doCheckComp := by
  rw [doCheckComp]
  split_ifs
  · exact .fault h _
  · exact .raise h (by decide)
  · exact .fault h _
  · exact .raise h (by decide)
  · exact .raise h (by decide)
  · exact .fault h _

private theorem prepared_checkSernum (h : Kept sm sm') : Prepared sm j sm'.checkSernum := by
  rw [checkSernum]
  split_ifs
  · exact .raise h (by decide)
  · exact .fault h _
  · exact .raise h (by decide)

/-- A request to the data link layer. -/
private theorem Kept.dlReadReq (h : Kept sm sm') (addr : Octet) : Kept sm (sm'.dlReadReq addr) :=
  ⟨h.state, h.config, (reports_dlReadReq sm' addr).trans h.reports⟩

private theorem Kept.dlWriteReq (h : Kept sm sm') (addr value : Octet) :
    Kept sm (sm'.dlWriteReq addr value) :=
  ⟨h.state, h.config, (reports_dlWriteReq sm' addr value).trans h.reports⟩

private theorem Kept.dlSetModeReqPreopOp (h : Kept sm sm') (mode : DlMode) :
    Kept sm (sm'.dlSetModeReqPreopOp mode) :=
  ⟨h.state, h.config, (reports_dlSetModeReqPreopOp sm' mode).trans h.reports⟩

private theorem Kept.call (h : Kept sm sm') {c : SmCall} (hc : c.report = none) :
    Kept sm (sm'.call c) := by
  refine ⟨h.state, h.config, ?_⟩
  rw [reports_callAll, h.reports]
  simp [hc]

private theorem kept_storeParam (sm : Sm) (value : Octet) (p : DirParam) :
    Kept sm (sm.storeParam value p) := by
  cases p
  case minCycl =>
    refine .of_calls _ rfl rfl rfl ?_
    split_ifs <;> rfl
  all_goals
    refine .of_same ?_ ?_ ?_
    all_goals simp only [storeParam, modReal_calls, modReal_state, modReal_configParamlist,
      modDevCom_calls, modDevCom_state, modDevCom_configParamlist]

theorem kept_storePage (sm : Sm) (addr value : Octet) :
    Kept sm (sm.storePage addr value) := by
  rw [storePage]
  split
  · exact kept_storeParam sm value _
  · exact .of_calls [.assertion] rfl rfl rfl rfl

private theorem prepared_dlReadCnfCb (sm : Sm) (addr value : Octet) (stat : Status) :
    Prepared sm j (sm.dlReadCnfCb addr value stat) := by
  have hkept := kept_storePage sm addr value
  rw [dlReadCnfCb]
  split_ifs
  · exact .raise (Kept.refl sm) (by decide)
  · exact .quiet (Kept.refl sm)
  have hcomp : Prepared sm j ((sm.storePage addr value).dlReadCnfCheckComp addr) := by
    rw [dlReadCnfCheckComp]
    split_ifs
    · exact .quiet (hkept.dlReadReq _)
    · exact prepared_doCheckCompV10 hkept
    · exact prepared_doCheckComp hkept
  rw [afterRead]
  split
  · rw [dlReadCnfReadComParam]
    split_ifs
    · exact .quiet (hkept.dlReadReq _)
    · exact .raise hkept (by decide)
    · exact .raise hkept (by decide)
  · exact hcomp
  · exact hcomp
  · exact .raise hkept (by decide)
  · exact .quiet (hkept.call rfl)

private theorem kept_dlWriteCnfRestartDev (sm : Sm) (addr : Octet) :
    Kept sm (sm.dlWriteCnfRestartDev addr) := by
  have hrefl := Kept.refl sm
  rw [dlWriteCnfRestartDev]
  split_ifs
  · cases sm.configParamlist.mode with
    | cfgcom => exact hrefl.dlWriteReq _ _
    | autocom => exact hrefl.dlWriteReq _ _
    | _ => exact hrefl.call rfl
  · exact hrefl.dlWriteReq _ _
  · exact hrefl.dlWriteReq _ _
  · exact hrefl.dlWriteReq _ _
  · exact hrefl.dlReadReq _
  · exact hrefl

private theorem prepared_dlWriteCnfCb (sm : Sm) (addr : Octet) (stat : Status) :
    Prepared sm j (sm.dlWriteCnfCb addr stat) := by
  have hrefl := Kept.refl sm
  rw [dlWriteCnfCb]
  split_ifs
  · exact .raise hrefl (by decide)
  split
  · exact .quiet (hrefl.dlSetModeReqPreopOp _)
  · rcases sm.errorEvent with _ | f
    · exact .quiet hrefl
    · exact .raise hrefl (by cases f <;> decide)
  · rw [dlWriteCnfCheckvxy]
    split_ifs
    · exact .raise hrefl (by decide)
    · exact .raise hrefl (by decide)
    · exact .fault hrefl _
  · exact .quiet (kept_dlWriteCnfRestartDev sm addr)
  · rw [dlWriteCnfWaitonOperate]
    split_ifs
    · exact .quiet (hrefl.dlWriteReq _ _)
    · exact .quiet (hrefl.dlSetModeReqPreopOp _)
    · exact .quiet hrefl
  · exact .quiet (hrefl.call rfl)

private theorem prepared_dlWriteDevmodeCnf (sm : Sm) (errorinfo : Status) :
    Prepared sm j (sm.dlWriteDevmodeCnf errorinfo) := by
  have hrefl := Kept.refl sm
  rw [dlWriteDevmodeCnf]
  split_ifs with _ _ h
  · exact .raise (hrefl.dlSetModeReqPreopOp _) (by decide)
  · exact .raise (hrefl.dlSetModeReqPreopOp _) (by decide)
  · exact ⟨hrefl, Or.inr h.2, nofun⟩
  · exact .raise hrefl (by decide)
  · exact .raise hrefl (by decide)

private theorem kept_noteMode (sm : Sm) (realmode : MhMode) : Kept sm (sm.noteMode realmode) := by
  rw [noteMode]
  split_ifs <;> exact ⟨rfl, rfl, rfl⟩

private theorem prepared_dlModeIndCb (sm : Sm) (realmode : MhMode) :
    Prepared sm (.dlMode realmode) (sm.dlModeIndCb realmode) := by
  have hkept := kept_noteMode sm realmode
  rw [dlModeIndCb, modeInd]
  by_cases hlost : realmode = .comlost
  · rw [if_pos hlost]
    split
    · exact .quiet hkept
    · exact .quiet hkept
    · exact .raise hkept (by decide)
  rw [if_neg hlost]
  split
  · cases realmode with
    | startup => exact ⟨hkept, Or.inl rfl, fun _ => rfl⟩
    | inactive =>
      simp only [dlModeIndCbInactive]
      split_ifs
      · exact .quiet (hkept.call rfl)
      · exact .quiet (hkept.call rfl)
    | _ => exact .quiet hkept
  · split_ifs
    · exact .raise hkept (by decide)
    · exact .quiet hkept
  · split_ifs
    · exact .raise hkept (by decide)
    · exact .quiet hkept
  · split_ifs
    · exact .raise hkept (by decide)
    · exact .quiet hkept
  · exact .quiet hkept
  · exact .raise hkept (by decide)

private theorem prepared_alReadCnfCb (sm : Sm) (c : ReadCnf) :
    Prepared sm j (sm.alReadCnfCb c) := by
  have hkept : ∀ f, Kept sm (sm.modReal f) := fun _ => ⟨rfl, rfl, rfl⟩
  rw [alReadCnfCb]
  split_ifs
  · exact prepared_checkSernum (hkept _)
  · exact .raise (Kept.refl sm) (by decide)
  · exact .raise (Kept.refl sm) (by decide)
  · exact .raise (Kept.refl sm) (by decide)
  · exact prepared_checkSernum (hkept _)

/-- **What a job has done when it raises its event**, if it brings no configuration. -/
theorem prepared_callback (hj : ∀ p, j ≠ .setportcfg p) (sm : Sm) :
    Prepared sm j (sm.callback j) := by
  cases j with
  | setportcfg p => exact absurd rfl (hj p)
  | operate =>
    rw [callback, operateCb]
    split_ifs
    · exact .raise (Kept.refl sm) (by decide)
    · exact .raise (Kept.refl sm) (by decide)
  | dlMode realmode => exact prepared_dlModeIndCb sm realmode
  | dlReadCnf addr value stat => exact prepared_dlReadCnfCb sm addr value stat
  | dlWriteCnf addr stat => exact prepared_dlWriteCnfCb sm addr stat
  | dlWriteDevmodeCnf errorinfo => exact prepared_dlWriteDevmodeCnf sm errorinfo
  | alReadCnf c => exact prepared_alReadCnfCb sm c
  | writeCyclCnf errortype =>
    rw [callback, writeCyclCnfCb]
    split_ifs
    · exact .raise (Kept.refl sm) (by decide)
    · exact .raise (Kept.refl sm) (by decide)

/-- **A job that brings no configuration** keeps the configuration, changes the state along the
table only, and reports nothing outside a communication. -/
theorem handle_keeps (hj : ∀ p, j ≠ .setportcfg p) (sm : Sm) :
    (sm.handle j).configParamlist = sm.configParamlist ∧
      sm.state.Moves (sm.handle j).state (j = .dlMode .startup) ∧
      (sm.state.communicating = false → (sm.handle j).reports = []) := by
  obtain ⟨hkept, he, hstartup⟩ := prepared_callback hj sm.newJob
  have hstate : (sm.prepared j).state = sm.state := hkept.state
  have hconfig : (sm.prepared j).configParamlist = sm.configParamlist := hkept.config
  have he : (sm.raised j).isSetPortConfig = false ∨ (sm.prepared j).state = .waitForFallback := by
    rw [hstate]
    exact he
  refine ⟨(event_configParamlist _ _).trans hconfig, ?_, fun hs => ?_⟩
  · have hmoves := event_moves he
    rw [hstate] at hmoves
    exact hmoves.imp_right (Or.imp_right (Or.imp_right fun h => ⟨h.1, h.2.1, hstartup h.2.2⟩))
  · rw [handle, event_reports (by rw [hstate, hs])]
    exact hkept.reports

/-- A start-up begins in `PortInactive`, whatever the configuration says. -/
theorem handle_startup (hs : sm.state = .portInactive) :
    (sm.handle (.dlMode .startup)).state = .readComParameter := by
  have hstate : (sm.newJob.noteMode .startup).state = .portInactive :=
    (kept_noteMode sm.newJob .startup).state.trans hs
  have hcallback : sm.newJob.callback (.dlMode .startup) =
      (sm.newJob.noteMode .startup, .dlModeStartup) := by
    rw [callback, dlModeIndCb, modeInd, if_neg nofun, hstate]
    rfl
  have hevent : sm.handle (.dlMode .startup) =
      (sm.newJob.noteMode .startup).event .dlModeStartup := by
    rw [handle, prepared, raised, hcallback]
  rw [hevent, event_state, row, hstate]
  rfl

/-! ### A job that brings a configuration -/

/-- The state looks at configurations and the table has a row for this one. -/
def Takes (sm : Sm) (p : SmpParameterlist) : Prop :=
  allowsSetportcfg sm.state = true ∧ (sm.row (setportcfgEvent p.mode)).isSome = true

instance (sm : Sm) (p : SmpParameterlist) : Decidable (sm.Takes p) :=
  inferInstanceAs (Decidable (_ ∧ _))

/-- The rows of a configuration end in a state of its mode, outside any communication. -/
private theorem setportcfg_rows (s : SmState) (mode : SmTargetMode) :
    allowsSetportcfg s = true → ∀ t ∈ transitions s, t.event = setportcfgEvent mode →
      mode.runs t.next = true ∧ t.next.communicating = false := by
  cases s <;> cases mode <;> decide

/-- The one gap of the table. -/
private theorem setportcfg_gap (s : SmState) (mode : SmTargetMode) :
    allowsSetportcfg s = true →
      Fsm.lookup (transitions s) (setportcfgEvent mode) = none →
        s = .checkSerNum ∧ (mode = .di ∨ mode = .do_) := by
  cases s <;> cases mode <;> decide

/-- A configuration is stored as it is when no serial number is kept. -/
theorem storeConfig_configParamlist {sm : Sm}
    (h : sm.configParamlist.serialnumber = List.replicate 16 0) (p : SmpParameterlist) :
    (sm.storeConfig p).configParamlist = p := by
  rw [storeConfig, h]
  rfl

variable {p : SmpParameterlist}

/-- **A configuration that is taken** is stored, and the state is one of its mode. -/
theorem setportcfg_takes (h : sm.Takes p) :
    (sm.handle (.setportcfg p)).configParamlist = (sm.storeConfig p).configParamlist ∧
      p.mode.runs (sm.handle (.setportcfg p)).state = true ∧
      (sm.handle (.setportcfg p)).state.communicating = false := by
  obtain ⟨hallows, hrow⟩ := h
  obtain ⟨t, ht⟩ := Option.isSome_iff_exists.mp hrow
  have ht' : (sm.newJob.storeConfig p).row (setportcfgEvent p.mode) = some t := ht
  have hallows' : allowsSetportcfg sm.newJob.state = true := hallows
  have hcallback : sm.newJob.callback (.setportcfg p) =
      (sm.newJob.storeConfig p, setportcfgEvent p.mode) := by
    rw [callback, setportcfgReqCb, if_pos hallows']
  rw [handle, prepared, raised, hcallback]
  refine ⟨event_configParamlist _ _, ?_⟩
  rw [event_state, ht']
  obtain ⟨hmem, hevent⟩ := Fsm.Machine.mem_of_row (M := fsm) ht
  exact setportcfg_rows _ _ hallows t hmem hevent

/-- **A configuration that is refused** changes nothing. -/
theorem setportcfg_refuses (h : allowsSetportcfg sm.state = false) :
    sm.handle (.setportcfg p) = sm.newJob := by
  have h' : allowsSetportcfg sm.newJob.state = false := h
  have hcallback : sm.newJob.callback (.setportcfg p) = (sm.newJob, .none) := by
    rw [callback, setportcfgReqCb, h']
    rfl
  rw [handle, prepared, raised, hcallback, event_none]

/-- **A configuration without a row** is stored although nothing follows from it. This happens in
`checkSerNum` only, with the modes DI and DO. -/
theorem setportcfg_overwrites (hallows : allowsSetportcfg sm.state = true) (h : ¬ sm.Takes p) :
    (sm.state = .checkSerNum ∧ (p.mode = .di ∨ p.mode = .do_)) ∧
      sm.handle (.setportcfg p) = sm.newJob.storeConfig p := by
  have hrow : sm.row (setportcfgEvent p.mode) = none := by
    refine Option.not_isSome_iff_eq_none.mp fun hsome => h ⟨hallows, hsome⟩
  have hrow' : (sm.newJob.storeConfig p).row (setportcfgEvent p.mode) = none := hrow
  have hallows' : allowsSetportcfg sm.newJob.state = true := hallows
  have hcallback : sm.newJob.callback (.setportcfg p) =
      (sm.newJob.storeConfig p, setportcfgEvent p.mode) := by
    rw [callback, setportcfgReqCb, if_pos hallows']
  refine ⟨setportcfg_gap _ _ hallows hrow, ?_⟩
  rw [handle, prepared, raised, hcallback, event_of_none hrow']

end Sm

end IolHat
