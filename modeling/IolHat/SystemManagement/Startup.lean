import IolHat.SystemManagement.Evidence

/-!
# One job during a start-up

What a single job does to the evidence about a device. `Knows` is what System Management knows in
each state of a start-up, with the address of the read that is under way.

* An octet of the page takes it further (`Sm.continues_read`), and so does the confirmation of a
  write (`Sm.continues_write`).
* The answer to the read of the serial number ends the start-up (`Sm.serial_handle`), and only this
  answer can report that the device is ready (`Sm.comready_handle`).
* Every other job leaves alone what is known, as long as the start-up goes on (`Sm.rests_handle`,
  `Sm.rests_setportcfg`), and a start-up begins in one way only (`Sm.startup_handle`).
-/

namespace IolHat

/-- The states in which octets of the page are read. -/
def SmState.reading : SmState → Bool
  | .readComParameter | .checkCompV10 | .checkComp | .restartDevice => true
  | _ => false

/-- The states of a start-up after the checks. -/
def SmState.checked : SmState → Bool
  | .waitonDLPreoperate | .waitonDLOperate | .checkSerNum => true
  | _ => false

/-- The address of a read. -/
def PageRequest.readAddr : PageRequest → Option Octet
  | .read addr => some addr
  | .write _ => none

/-- A successful confirmation of a request to the data link layer. The first one after the wake-up
carries the dummy address, and no request precedes it. -/
def SmJob.answersPage : SmJob → Bool
  | .dlReadCnf addr _ stat => stat = .noError && addr ≠ dirParamaDummyWurq
  | .dlWriteCnf _ stat => stat = .noError
  | _ => false

/-- The serial number of the device; a device without one is told by the error type. -/
def SmJob.answersSerial : SmJob → Bool
  | .alReadCnf c => c.errortype = SmiErrorType.none || c.errortype = SmiErrorType.idxNotavail
  | _ => false

/-- What is known of the device in a state of a start-up, with the address of the read that is
under way. -/
inductive Knows (config real : SmpParameterlist) (page : Page) : SmState → Option Octet → Prop
  | reading {s : SmState} {a : Octet} (hs : s.reading = true) (h : Collected real page a) :
    Knows config real page s (some a)
  | between {s : SmState} (hs : s.reading = true) : Knows config real page s none
  | checkVxy (h : CycletimeRead page real.cycletime) : Knows config real page .checkVxy none
  | checked {s : SmState} (hs : s.checked = true) (h : Matched config real page) :
    Knows config real page s none

variable {config real : SmpParameterlist} {page : Page} {s : SmState} {r : Option Octet}

/-- After the checks no octet is read, and the device matches. -/
theorem Knows.matched (h : Knows config real page s r) (hs : s.checked = true) :
    r = none ∧ Matched config real page := by
  have hnot : ∀ s : SmState, s.checked = true → s.reading ≠ true := by
    rintro (_ | _) <;> decide
  cases h with
  | reading hr => exact absurd hr (hnot _ hs)
  | between hr => exact absurd hr (hnot _ hs)
  | checkVxy => exact absurd hs (by decide)
  | checked _ hm => exact ⟨rfl, hm⟩

/-- An octet is only read in a state for it, with all octets below its address collected. -/
theorem Knows.collected {a : Octet} (h : Knows config real page s (some a)) :
    s.reading = true ∧ Collected real page a := by
  cases h with
  | reading hs h => exact ⟨hs, h⟩

namespace Sm

variable {sm st : Sm} {page : Page}

/-! ### Events -/

/-- An event that the table has a row for, the state being known. -/
theorem event_at {s : SmState} {e : SmEvent} {t : Fsm.Transition SmState SmEvent Action}
    (hs : sm.state = s) (ht : Fsm.lookup (transitions s) e = some t) :
    sm.event e = perform t.action (sm.enter t.next) e :=
  event_of_row (by rw [row, hs, ht])

theorem handle_of_callback {j : SmJob} {e : SmEvent} (h : sm.newJob.callback j = (st, e)) :
    sm.handle j = st.event e := by
  rw [handle, prepared, raised, h]

/-- A job without an event. -/
theorem handle_of_none {j : SmJob} (h : sm.newJob.callback j = (st, .none)) :
    sm.handle j = st := by
  rw [handle_of_callback h, event_none]

/-! ### The report that a device is ready -/

/-- `sm_wait` is called for one event in one state. -/
private theorem wait_rows (s : SmState) : ∀ t ∈ transitions s, t.action = .wait →
    s = .checkSerNum ∧ t.event = .serNumOK := by
  cases s <;> decide

/-- The other actions do not report it. -/
private theorem comready_perform {a : Action} (ha : a ≠ .wait) (e : SmEvent)
    (h : SmPortMode.comready ∉ sm.reports) : SmPortMode.comready ∉ (perform a sm e).reports := by
  by_cases hquiet : a ∈ [Action.readcomparameter, .portinactive, .dido, .smoperateIgnore, .comlost,
      .comlostIgnore]
  · rw [reports_perform hquiet]
    exact h
  · cases a with
    | wait => exact absurd rfl ha
    | inspectFault =>
      cases e <;> simpa [perform, inspectFault, dlSetModeReqInactive, reports_callAll,
        SmCall.report] using h
    | smoperateInd =>
      rw [perform, smoperateInd]
      split_ifs
      · simpa [reports_callAll, SmCall.report] using h
      · exact h
    | restartDevice =>
      rw [perform, restartDevice, reports_dlWriteReq]
      exact h
    | readcomparameter | portinactive | dido | smoperateIgnore | comlost | comlostIgnore =>
      exact absurd (by decide) hquiet
    | _ => simpa [perform, wrMasterCycl, reports_callAll, SmCall.report] using h

theorem comready_event {e : SmEvent} (h : SmPortMode.comready ∉ sm.reports)
    (hready : SmPortMode.comready ∈ (sm.event e).reports) :
    sm.state = .checkSerNum ∧ e = .serNumOK := by
  rcases hrow : sm.row e with _ | t
  · rw [event_of_none hrow] at hready
    exact absurd hready h
  · rw [event_of_row hrow] at hready
    obtain ⟨hmem, hevent⟩ := Fsm.Machine.mem_of_row (M := fsm) hrow
    by_contra hne
    refine comready_perform (fun ha => hne ?_) e (by exact h) hready
    rw [← hevent]
    exact wait_rows _ t hmem ha

/-- A change of the mode asks for no comparison. -/
private theorem dlModeIndCb_ne_serNumOK (realmode : MhMode) :
    (sm.dlModeIndCb realmode).2 ≠ .serNumOK := by
  rw [dlModeIndCb, modeInd]
  intro h
  by_cases hlost : realmode = .comlost
  · rw [if_pos hlost] at h
    split at h <;> exact SmEvent.noConfusion h
  rw [if_neg hlost] at h
  split at h
  · cases realmode
    case inactive =>
      rw [dlModeIndCbInactive] at h
      split_ifs at h
    all_goals exact SmEvent.noConfusion h
  · split_ifs at h
  · split_ifs at h
  · split_ifs at h
  · exact SmEvent.noConfusion h
  · exact SmEvent.noConfusion h

/-- The compatibility check does not reach the serial number. -/
private theorem dlReadCnfCheckComp_ne_serNumOK (addr : Octet) :
    (sm.dlReadCnfCheckComp addr).2 ≠ .serNumOK := by
  rw [dlReadCnfCheckComp]
  split_ifs
  · exact SmEvent.noConfusion
  · rw [doCheckCompV10]
    split_ifs <;> exact SmEvent.noConfusion
  · rw [doCheckComp]
    split_ifs <;> exact SmEvent.noConfusion

private theorem dlReadCnfCb_ne_serNumOK (addr value : Octet) (stat : Status) :
    (sm.dlReadCnfCb addr value stat).2 ≠ .serNumOK := by
  rw [dlReadCnfCb]
  intro h
  split_ifs at h
  rw [afterRead] at h
  split at h
  · rw [dlReadCnfReadComParam] at h
    split_ifs at h
  · exact dlReadCnfCheckComp_ne_serNumOK addr h
  · exact dlReadCnfCheckComp_ne_serNumOK addr h
  · exact SmEvent.noConfusion h
  · exact SmEvent.noConfusion h

private theorem dlWriteCnfCb_ne_serNumOK (addr : Octet) (stat : Status) :
    (sm.dlWriteCnfCb addr stat).2 ≠ .serNumOK := by
  rw [dlWriteCnfCb]
  intro h
  split_ifs at h
  split at h
  · exact SmEvent.noConfusion h
  · -- the fault that the restart was to clear is reported again
    cases hfault : sm.errorEvent with
    | none =>
      rw [hfault] at h
      exact SmEvent.noConfusion h
    | some f =>
      rw [hfault] at h
      cases f <;> exact SmEvent.noConfusion h
  · rw [dlWriteCnfCheckvxy] at h
    split_ifs at h
    exact SmEvent.noConfusion h
  · exact SmEvent.noConfusion h
  · exact SmEvent.noConfusion h
  · exact SmEvent.noConfusion h

/-- The event is the outcome of a comparison with the serial number of the device. -/
theorem raised_serNumOK {j : SmJob} (h : sm.raised j = .serNumOK) :
    ∃ c, j = .alReadCnf c ∧ j.answersSerial = true := by
  rw [raised] at h
  cases j with
  | alReadCnf c =>
    refine ⟨c, rfl, ?_⟩
    rw [callback, alReadCnfCb] at h
    split_ifs at h with hnotavail herror hlen
    · simp [SmJob.answersSerial, hnotavail]
    · simp [SmJob.answersSerial, not_not.mp herror]
  | setportcfg p =>
    rw [callback, setportcfgReqCb] at h
    split_ifs at h
    cases hmode : p.mode <;> rw [hmode] at h <;> exact SmEvent.noConfusion h
  | operate =>
    rw [callback, operateCb] at h
    split_ifs at h
  | dlMode realmode => exact absurd h (dlModeIndCb_ne_serNumOK realmode)
  | dlReadCnf addr value stat => exact absurd h (dlReadCnfCb_ne_serNumOK addr value stat)
  | dlWriteCnf addr stat => exact absurd h (dlWriteCnfCb_ne_serNumOK addr stat)
  | dlWriteDevmodeCnf errorinfo =>
    rw [callback, dlWriteDevmodeCnf] at h
    split_ifs at h
  | writeCyclCnf errortype =>
    rw [callback, writeCyclCnfCb] at h
    split_ifs at h

/-- **Only the answer to the read of the serial number** reports that the device is ready. -/
theorem comready_handle {j : SmJob} (h : SmPortMode.comready ∈ (sm.handle j).reports) :
    sm.state = .checkSerNum ∧ ∃ c, j = .alReadCnf c ∧ j.answersSerial = true := by
  have hnone : SmPortMode.comready ∉ (sm.prepared j).reports := by
    by_cases hj : ∃ p, j = .setportcfg p
    · obtain ⟨p, rfl⟩ := hj
      rw [prepared, callback, setportcfgReqCb]
      split_ifs <;> exact List.not_mem_nil
    · rw [prepared, (prepared_callback (fun p hp => hj ⟨p, hp⟩) sm.newJob).kept.reports]
      exact List.not_mem_nil
  obtain ⟨hs, he⟩ := comready_event hnone h
  rw [prepared_state] at hs
  exact ⟨hs, raised_serNumOK he⟩

/-! ### Nothing asked for yet -/

/-- The job has asked for nothing and reported nothing, and the configuration is the same. -/
structure Silent (sm st : Sm) : Prop where
  config : st.configParamlist = sm.configParamlist
  request : st.request = none
  serial : st.readsSerial = false

theorem silent_newJob (sm : Sm) : sm.Silent sm.newJob := ⟨rfl, rfl, rfl⟩

/-- An octet of the page is stored in silence. -/
theorem silent_storePage (sm : Sm) (a o : Octet) : sm.Silent (sm.newJob.storePage a o) := by
  have hreal : ∀ f, sm.Silent (sm.newJob.modReal f) := fun _ => ⟨rfl, rfl, rfl⟩
  have hdevCom : ∀ f, sm.Silent (sm.newJob.modDevCom f) := fun _ => ⟨rfl, rfl, rfl⟩
  cases hp : DirParam.ofAddr a with
  | none =>
    rw [storePage, hp]
    exact ⟨rfl, rfl, rfl⟩
  | some p =>
    have hstore : sm.newJob.storePage a o = sm.newJob.storeParam o p := by rw [storePage, hp]
    rw [hstore]
    cases p with
    | minCycl =>
      dsimp only [storeParam, storeMinCycl]
      refine ⟨rfl, ?_, ?_⟩
      · split_ifs <;> rfl
      · split_ifs <;> rfl
    | mseqCap | pdi | pdo =>
      rw [storeParam]
      exact hdevCom _
    | _ =>
      rw [storeParam]
      exact hreal _

theorem Silent.enter (h : sm.Silent st) (s : SmState) : sm.Silent (st.enter s) :=
  ⟨h.config, h.request, h.serial⟩

theorem Silent.setRetry (h : sm.Silent st) (n : Octet) : sm.Silent (st.setRetry n) :=
  ⟨h.config, h.request, h.serial⟩

/-- Calls of another kind. -/
theorem Silent.callAll (h : sm.Silent st) {cs : List SmCall}
    (hrequest : cs.filterMap SmCall.pageRequest = [])
    (hserial : cs.any SmCall.readsSerial = false) : sm.Silent (st.callAll cs) := by
  refine ⟨h.config, (request_callAll hrequest).trans h.request, ?_⟩
  rw [readsSerial_callAll, h.serial, hserial]
  rfl

theorem Silent.dlSetModeReqPreopOp (h : sm.Silent st) (mode : DlMode) :
    sm.Silent (st.dlSetModeReqPreopOp mode) := by
  unfold Sm.dlSetModeReqPreopOp
  cases st.preopOpValuelist mode with
  | none => exact h.callAll rfl rfl
  | some vl =>
    dsimp only
    split_ifs
    · exact h.callAll rfl rfl
    · exact h.callAll rfl rfl

theorem Silent.read (h : sm.Silent st) (addr : Octet) :
    sm.Asks (st.dlReadReq addr) (some (.read addr)) false where
  config := h.config
  request := request_dlReadReq st addr
  addr b hb := by
    cases hb
    rfl
  serial := (readsSerial_dlReadReq st addr).trans h.serial

theorem Silent.write (h : sm.Silent st) (addr value : Octet) :
    sm.Asks (st.dlWriteReq addr value) (some (.write addr)) false where
  config := h.config
  request := request_dlWriteReq st addr value
  addr b hb := by cases hb
  serial := (readsSerial_dlWriteReq st addr value).trans h.serial

theorem Silent.asks (h : sm.Silent st) : sm.Asks st none false where
  config := h.config
  request := h.request
  addr b hb := by cases hb
  serial := h.serial

/-! ### An octet of the page -/

/-- As long as the start-up goes on, the job has asked for no serial number, and what is known fits
the state and the request that has been made. -/
def Continues (sm : Sm) (page : Page) (sm' : Sm) : Prop :=
  sm'.state.startingUp = true → ∃ r, sm.Asks sm' r false ∧
    Knows sm.configParamlist sm'.realParamlist page sm'.state (r.bind PageRequest.readAddr)

/-- A start-up that has failed. -/
theorem Continues.of_fault {sm' : Sm} (h : sm'.state = .inspectionFault) :
    sm.Continues page sm' := by
  intro hs
  rw [h] at hs
  exact absurd hs (by decide)

/-- The next octet is read. -/
private theorem continues_next {a : Octet} (hstate : st.state.reading = true)
    (hst : sm.Silent st) (h : Collected st.realParamlist page (a + 1)) :
    sm.Continues page (st.dlReadReq (a + 1)) :=
  fun _ => ⟨_, hst.read (a + 1), .reading hstate h⟩

/-- The octets that are read first. -/
private theorem continues_readComParam {a : Octet} (hstate : st.state = .readComParameter)
    (hst : sm.Silent st) (h : Collected st.realParamlist page (a + 1)) :
    sm.Continues page ((st.dlReadCnfReadComParam a).1.event (st.dlReadCnfReadComParam a).2) := by
  unfold dlReadCnfReadComParam
  split_ifs with hlast hv10
  · rw [event_none]
    exact continues_next (congrArg SmState.reading hstate) hst h
  · obtain rfl := not_not.mp hlast
    rw [event_at (t := ⟨.v10, .checkCompV10, .checkCompV10⟩) hstate rfl]
    exact fun _ => ⟨_, (hst.enter _).read dirParamaVid1, .reading rfl h⟩
  · obtain rfl := not_not.mp hlast
    rw [event_at (t := ⟨.notV10, .checkVxy, .checkVxy⟩) hstate rfl]
    exact fun _ => ⟨_, (hst.enter _).write _ _, .checkVxy (h.cycletime (by decide))⟩

/-- The octets of the ids. The last of them is followed by the check. -/
private theorem continues_checkComp {a : Octet}
    (hstate : st.state = .checkComp ∨ st.state = .checkCompV10) (hst : sm.Silent st)
    (h : Collected st.realParamlist page (a + 1)) :
    sm.Continues page ((st.dlReadCnfCheckComp a).1.event (st.dlReadCnfCheckComp a).2) := by
  have hreading : st.state.reading = true := by
    obtain hs | hs := hstate
    · rw [hs]
      rfl
    · rw [hs]
      rfl
  unfold dlReadCnfCheckComp
  split_ifs with hlast hv10
  · rw [event_none]
    exact continues_next hreading hst h
  · obtain rfl := not_not.mp hlast
    obtain ⟨hok, hmatched⟩ | hfault | hfault := doCheckCompV10_cases h
    · rw [hok, event_at (t := ⟨.v10CompOK, .waitonDLOperate, .waitonDLOp⟩) hv10 rfl]
      exact fun _ => ⟨_, (hst.enter _).write _ _, .checked rfl (hst.config ▸ hmatched)⟩
    · rw [hfault]
      exact .of_fault (by rw [fault, event_state, row, setError_state, hv10]; rfl)
    · rw [hfault]
      exact .of_fault (by rw [fault, event_state, row, setError_state, hv10]; rfl)
  · obtain rfl := not_not.mp hlast
    have hcomp := hstate.resolve_right hv10
    obtain ⟨hok, hmatched⟩ | hretry | hfault | hfault := doCheckComp_cases h
    · rw [hok, event_at (t := ⟨.compOK, .waitonDLPreoperate, .writeMcmdPreop⟩) hcomp rfl]
      exact fun _ => ⟨_, (hst.enter _).write _ _, .checked rfl (hst.config ▸ hmatched)⟩
    · rw [hretry, event_at (t := ⟨.retryStartup, .restartDevice, .restartDevice⟩) hcomp rfl]
      exact fun _ => ⟨_, ((hst.enter _).setRetry _).write _ _, .between rfl⟩
    · rw [hfault]
      exact .of_fault (by rw [fault, event_state, row, setError_state, hcomp]; rfl)
    · rw [hfault]
      exact .of_fault (by rw [fault, event_state, row, setError_state, hcomp]; rfl)

/-- **An octet of the page** that was asked for, in a state in which octets are read. -/
theorem continues_read {a o : Octet} (hs : sm.state.reading = true) (ha : a ≠ dirParamaDummyWurq)
    (h : Collected sm.realParamlist page a) (ho : page a = some o) :
    sm.Continues page (sm.handle (.dlReadCnf a o .noError)) := by
  obtain ⟨st, hst⟩ : ∃ st, st = sm.newJob.storePage a o := ⟨_, rfl⟩
  have hcallback : sm.newJob.callback (.dlReadCnf a o .noError) = st.afterRead a := by
    rw [callback, dlReadCnfCb, if_neg (not_not.mpr rfl), if_neg ha, hst]
  have hsilent : sm.Silent st := hst ▸ silent_storePage sm a o
  have hstate : st.state = sm.state := hst ▸ (kept_storePage sm.newJob a o).state
  have h' : Collected sm.newJob.realParamlist page a := h
  have hmore : Collected st.realParamlist page (a + 1) := hst ▸ collected_storePage h' ho
  have hhandle : sm.handle (.dlReadCnf a o .noError) =
      (st.afterRead a).1.event (st.afterRead a).2 := by
    rw [handle, prepared, raised, hcallback]
  rw [hhandle, afterRead, hstate]
  cases hs' : sm.state with
  | readComParameter => exact continues_readComParam (hstate.trans hs') hsilent hmore
  | checkComp => exact continues_checkComp (.inl (hstate.trans hs')) hsilent hmore
  | checkCompV10 => exact continues_checkComp (.inr (hstate.trans hs')) hsilent hmore
  | restartDevice =>
    dsimp only
    rw [event_at (t := ⟨.writeDone, .readComParameter, .readcomparameter⟩) (hstate.trans hs') rfl]
    exact fun _ => ⟨_, (hsilent.enter _).read dirParamaMinCycl, .reading rfl .minCycl⟩
  | _ =>
    rw [hs'] at hs
    exact absurd hs (by decide)

/-! ### The confirmation of an octet that has been written -/

/-- The next step of a restart. -/
private theorem continues_restartDev (hs : sm.state = .restartDevice) (addr : Octet) :
    sm.Continues page (sm.newJob.dlWriteCnfRestartDev addr) := by
  have hsilent := silent_newJob sm
  have hreading : sm.state.reading = true := by
    rw [hs]
    rfl
  unfold dlWriteCnfRestartDev
  dsimp only
  split_ifs
  · cases sm.newJob.configParamlist.mode with
    | cfgcom => exact fun _ => ⟨_, hsilent.write _ _, .between hreading⟩
    | autocom => exact fun _ => ⟨_, hsilent.write _ _, .between hreading⟩
    | _ => exact fun _ => ⟨_, (hsilent.callAll rfl rfl).asks, .between hreading⟩
  · exact fun _ => ⟨_, hsilent.write _ _, .between hreading⟩
  · exact fun _ => ⟨_, hsilent.write _ _, .between hreading⟩
  · exact fun _ => ⟨_, hsilent.write _ _, .between hreading⟩
  · exact fun _ => ⟨_, hsilent.read _, .reading hreading .minCycl⟩
  · exact fun _ => ⟨_, hsilent.asks, .between hreading⟩

/-- The check of the revision. -/
private theorem continues_checkvxy (hs : sm.state = .checkVxy)
    (h : CycletimeRead page sm.realParamlist.cycletime) :
    sm.Continues page (sm.newJob.dlWriteCnfCheckvxy.1.event sm.newJob.dlWriteCnfCheckvxy.2) := by
  have hsilent := silent_newJob sm
  have hs' : sm.newJob.state = .checkVxy := hs
  unfold dlWriteCnfCheckvxy
  split_ifs
  · rw [event_at (t := ⟨.revisionOk, .checkComp, .checkComp⟩) hs' rfl]
    exact fun _ => ⟨_, (hsilent.enter _).read dirParamaVid1,
      .reading rfl (.of_cycletimeRead h (by decide))⟩
  · rw [event_at (t := ⟨.retryStartup, .restartDevice, .restartDevice⟩) hs' rfl]
    exact fun _ => ⟨_, ((hsilent.enter _).setRetry _).write _ _, .between rfl⟩
  · exact .of_fault (by rw [fault, event_state, row, setError_state, hs']; rfl)

/-- **The confirmation of a write** while no octet is being read. -/
theorem continues_write (addr : Octet)
    (h : Knows sm.configParamlist sm.realParamlist page sm.state none) :
    sm.Continues page (sm.handle (.dlWriteCnf addr .noError)) := by
  have hsilent := silent_newJob sm
  obtain ⟨r, hr⟩ : ∃ r, r = sm.newJob.callback (.dlWriteCnf addr .noError) := ⟨_, rfl⟩
  have hhandle : sm.handle (.dlWriteCnf addr .noError) = r.1.event r.2 := by
    rw [handle, prepared, raised, ← hr]
  rw [hhandle]
  rw [callback, dlWriteCnfCb, if_neg (not_not.mpr rfl)] at hr
  -- a confirmation that nobody waits for, and one that is followed by no event
  have hstay : ∀ {st : Sm}, sm.Silent st → st.state = sm.state →
      st.realParamlist = sm.realParamlist → sm.Continues page st := by
    intro st hst hstate hreal _
    refine ⟨_, hst.asks, ?_⟩
    rw [hreal, hstate]
    exact h
  cases hs : sm.state with
  | waitonDLPreoperate =>
    have hs' : sm.newJob.state = .waitonDLPreoperate := hs
    rw [hr, hs', event_none]
    exact hstay (hsilent.dlSetModeReqPreopOp _) rfl rfl
  | waitonDLOperate =>
    have hs' : sm.newJob.state = .waitonDLOperate := hs
    rw [hr, hs', event_none]
    unfold dlWriteCnfWaitonOperate
    split_ifs
    · exact fun _ => ⟨_, hsilent.write _ _, h⟩
    · exact hstay (hsilent.dlSetModeReqPreopOp _) rfl rfl
    · exact hstay hsilent rfl rfl
  | checkVxy =>
    have hs' : sm.newJob.state = .checkVxy := hs
    rw [hr, hs']
    refine continues_checkvxy hs ?_
    rw [hs] at h
    cases h with
    | between hno => exact absurd hno (by decide)
    | checkVxy h => exact h
    | checked hno => exact absurd hno (by decide)
  | restartDevice =>
    have hs' : sm.newJob.state = .restartDevice := hs
    rw [hr, hs', event_none]
    exact continues_restartDev hs addr
  | inspectionFault =>
    rw [hs] at h
    cases h with
    | between hno => exact absurd hno (by decide)
    | checked hno => exact absurd hno (by decide)
  | _ =>
    have hr' : r = (sm.newJob.call .assertion, .none) := by
      rw [hr, newJob_state, hs]
    rw [hr', event_none]
    exact hstay (hsilent.callAll rfl rfl) rfl rfl

/-- In `checkSerNum` nobody waits for it. -/
theorem state_write (hs : sm.state = .checkSerNum) (addr : Octet) :
    (sm.handle (.dlWriteCnf addr .noError)).state = .checkSerNum := by
  have hcallback : sm.newJob.callback (.dlWriteCnf addr .noError) =
      (sm.newJob.call .assertion, .none) := by
    rw [callback, dlWriteCnfCb, if_neg (not_not.mpr rfl), newJob_state, hs]
  rw [handle_of_none hcallback]
  exact hs

/-! ### The other jobs -/

/-- As long as the start-up goes on, the job has left alone what is known. It may have reached the
state in which the serial number is asked for. -/
structure Rests (sm sm' : Sm) : Prop where
  real : sm'.realParamlist = sm.realParamlist
  addr : sm'.dlAddr = sm.dlAddr
  asks : ∃ b, sm.Asks sm' none b ∧ (sm'.state = .checkSerNum ↔ sm.state = .checkSerNum ∨ b = true) ∧
    (b = true → sm.state ≠ .checkSerNum)
  knows : ∀ {page : Page} {r : Option Octet},
    Knows sm.configParamlist sm.realParamlist page sm.state r →
      Knows sm.configParamlist sm.realParamlist page sm'.state r

/-- The events of the other jobs, apart from those of the mode the port waits for. -/
private def idleEvents : List SmEvent :=
  [.none, .cnfComlost, .dlModeComlost, .writeMasterCyclReq, .smOperateV10, .writeMasterCyclDone]

/-- They lead out of the start-up, or nowhere; only the restart of a device ends in a check. -/
private theorem idle_rows (s : SmState) : s.startingUp = true → ∀ t ∈ transitions s,
    t.event ∈ idleEvents → (t.action = .comlost ∨ t.action = .comlostIgnore) ∧
      (t.next = s ∨ t.next.startingUp = false ∨ s = .restartDevice ∧ t.next = .checkComp) := by
  cases s <;> decide

/-- A callback that has asked for nothing, before its event. -/
structure Idle (sm st : Sm) : Prop where
  silent : sm.Silent st
  state : st.state = sm.state
  real : st.realParamlist = sm.realParamlist
  addr : st.dlAddr = sm.dlAddr

theorem idle_newJob (sm : Sm) : sm.Idle sm.newJob := ⟨silent_newJob sm, rfl, rfl, rfl⟩

/-- Nothing has happened. -/
theorem Idle.rests (h : sm.Idle st) : sm.Rests st where
  real := h.real
  addr := h.addr
  asks := ⟨false, h.silent.asks, by rw [h.state]; simp, fun hb => absurd hb (by decide)⟩
  knows hk := h.state ▸ hk

theorem Idle.event (h : sm.Idle st) (hs : sm.state.startingUp = true) {e : SmEvent}
    (he : e ∈ idleEvents) (hs' : (st.event e).state.startingUp = true) :
    sm.Rests (st.event e) := by
  rcases hrow : st.row e with _ | t
  · rw [event_of_none hrow]
    exact h.rests
  · rw [event_of_row hrow] at hs' ⊢
    obtain ⟨hmem, rfl⟩ := Fsm.Machine.mem_of_row (M := fsm) hrow
    have hmem' : t ∈ transitions sm.state := h.state ▸ hmem
    obtain ⟨haction, hnext⟩ := idle_rows _ hs t hmem' he
    have hstate : (perform t.action (st.enter t.next) t.event).state = t.next :=
      (perform_frame _ _ _).1
    have hnext' := hnext.imp_right fun h => h.resolve_left fun hno => by
      rw [hstate, hno] at hs'
      exact absurd hs' (by decide)
    have hsilent : sm.Silent (perform t.action (st.enter t.next) t.event) := by
      obtain ha | ha := haction
      · rw [ha]
        exact (h.silent.enter _).callAll rfl rfl |>.callAll rfl rfl
      · rw [ha]
        exact h.silent.enter _
    have haddr : (perform t.action (st.enter t.next) t.event).dlAddr = sm.dlAddr := by
      obtain ha | ha := haction
      · rw [ha]
        exact h.addr
      · rw [ha]
        exact h.addr
    refine ⟨(perform_frame _ _ _).2.2.1.trans h.real, haddr, ⟨false, hsilent.asks, ?_, ?_⟩, ?_⟩
    · rw [hstate]
      obtain hn | ⟨hr, hn⟩ := hnext'
      · rw [hn]
        simp
      · rw [hn, hr]
        decide
    · exact fun hb => absurd hb (by decide)
    · intro page r hk
      rw [hstate]
      obtain hn | ⟨hr, hn⟩ := hnext'
      · rw [hn]
        exact hk
      · rw [hr] at hk
        rw [hn]
        cases hk with
        | reading _ h => exact .reading rfl h
        | between => exact .between rfl
        | checked hno => exact absurd hno (by decide)

/-- The device has reached the mode that the port has waited for. -/
theorem Idle.checkSerNum (h : sm.Idle st)
    (hs : sm.state = .waitonDLPreoperate ∨ sm.state = .waitonDLOperate) :
    sm.Rests ((st.enter .checkSerNum).call (.alReadReq devParamaSerialNumber 0)) where
  real := h.real
  addr := h.addr
  asks := by
    refine ⟨true, ⟨h.silent.config, ?_, fun _ hr => absurd hr (Option.some_ne_none _).symm, ?_⟩,
      ?_, fun _ hno => ?_⟩
    · exact (request_callAll rfl).trans h.silent.request
    · rw [readsSerial_callAll]
      exact Bool.or_true _
    · exact iff_of_true rfl (.inr rfl)
    · rw [hno] at hs
      exact absurd hs (by decide)
  knows hk := by
    obtain ⟨rfl, hm⟩ := hk.matched (by obtain hs | hs := hs <;> rw [hs] <;> rfl)
    exact .checked rfl hm

theorem idle_noteMode (sm : Sm) (realmode : MhMode) : sm.Idle (sm.newJob.noteMode realmode) := by
  unfold noteMode
  split_ifs
  · exact ⟨⟨rfl, rfl, rfl⟩, rfl, rfl, rfl⟩
  · exact ⟨⟨rfl, rfl, rfl⟩, rfl, rfl, rfl⟩

/-- What a mode indication comes to during a start-up. -/
private theorem modeInd_cases (hs : st.state.startingUp = true) (realmode : MhMode) :
    (st.modeInd realmode = (st, .none) ∨ st.modeInd realmode = (st, .dlModeComlost)) ∨
      st.modeInd realmode = (st, .dlModePreoperate) ∧ st.state = .waitonDLPreoperate ∨
        st.modeInd realmode = (st, .dlModeOperate) ∧ st.state = .waitonDLOperate := by
  rw [modeInd]
  by_cases hlost : realmode = .comlost
  · rw [if_pos hlost]
    split
    · exact .inl (.inl rfl)
    · exact .inl (.inl rfl)
    · exact .inl (.inr rfl)
  rw [if_neg hlost]
  split
  next hstate =>
    rw [hstate] at hs
    exact absurd hs (by decide)
  next hstate =>
    by_cases hmode : realmode = .preoperate
    · rw [if_pos hmode]
      exact .inr (.inl ⟨rfl, hstate⟩)
    · rw [if_neg hmode]
      exact .inl (.inl rfl)
  next hstate =>
    rw [hstate] at hs
    exact absurd hs (by decide)
  next hstate =>
    by_cases hmode : realmode = .operate
    · rw [if_pos hmode]
      exact .inr (.inr ⟨rfl, hstate⟩)
    · rw [if_neg hmode]
      exact .inl (.inl rfl)
  · exact .inl (.inl rfl)
  · exact .inl (.inr rfl)

/-- A mode indication. -/
private theorem rests_dlMode (hs : sm.state.startingUp = true) (realmode : MhMode)
    (hs' : (sm.handle (.dlMode realmode)).state.startingUp = true) :
    sm.Rests (sm.handle (.dlMode realmode)) := by
  obtain ⟨st, hst⟩ : ∃ st, st = sm.newJob.noteMode realmode := ⟨_, rfl⟩
  have hidle : sm.Idle st := hst ▸ idle_noteMode sm realmode
  have hcallback : sm.newJob.callback (.dlMode realmode) = st.modeInd realmode := by
    rw [callback, dlModeIndCb, hst]
  obtain (hnone | hlost) | ⟨hpre, hstate⟩ | ⟨hop, hstate⟩ :=
    modeInd_cases (hidle.state ▸ hs) realmode
  · rw [handle_of_none (hcallback.trans hnone)]
    exact hidle.rests
  · rw [handle_of_callback (hcallback.trans hlost)] at hs' ⊢
    exact hidle.event hs (by decide) hs'
  · rw [handle_of_callback (hcallback.trans hpre),
      event_at (t := ⟨.dlModePreoperate, .checkSerNum, .checkSerNum⟩) hstate rfl]
    exact hidle.checkSerNum (.inl (hidle.state.symm.trans hstate))
  · rw [handle_of_callback (hcallback.trans hop),
      event_at (t := ⟨.dlModeOperate, .checkSerNum, .checkSerNum⟩) hstate rfl]
    exact hidle.checkSerNum (.inr (hidle.state.symm.trans hstate))

/-- **Every other job** that brings no configuration leaves alone what is known, as long as the
start-up goes on. -/
theorem rests_handle {j : SmJob} (hs : sm.state.startingUp = true) (hpage : j.answersPage = false)
    (hserial : j.answersSerial = false) (hcfg : ∀ p, j ≠ .setportcfg p)
    (hs' : (sm.handle j).state.startingUp = true) : sm.Rests (sm.handle j) := by
  have hidle := idle_newJob sm
  -- a job with one of the idle events
  have hevent : ∀ {e : SmEvent}, sm.newJob.callback j = (sm.newJob, e) → e ∈ idleEvents →
      sm.Rests (sm.handle j) := by
    intro e hcallback he
    rw [handle_of_callback hcallback] at hs' ⊢
    exact hidle.event hs he hs'
  cases j with
  | setportcfg p => exact absurd rfl (hcfg p)
  | operate =>
    refine hevent rfl ?_
    split_ifs <;> decide
  | dlMode realmode => exact rests_dlMode hs realmode hs'
  | dlReadCnf addr value stat =>
    by_cases hstat : stat = .noError
    · have hdummy : addr = dirParamaDummyWurq := by
        by_contra hne
        rw [SmJob.answersPage, hstat, decide_eq_true hne] at hpage
        exact absurd hpage (by decide)
      refine hevent (e := .none) ?_ (by decide)
      rw [callback, dlReadCnfCb, if_neg (not_not.mpr hstat), if_pos hdummy]
    · refine hevent (e := .cnfComlost) ?_ (by decide)
      rw [callback, dlReadCnfCb, if_pos hstat]
  | dlWriteCnf addr stat =>
    have hstat : stat ≠ .noError := of_decide_eq_false hpage
    refine hevent (e := .cnfComlost) ?_ (by decide)
    rw [callback, dlWriteCnfCb, if_pos hstat]
  | dlWriteDevmodeCnf errorinfo =>
    have hwait : sm.newJob.state ≠ .waitDevmodeCnf := fun h => by
      rw [← newJob_state, h] at hs
      exact absurd hs (by decide)
    have hfallback : sm.newJob.state ≠ .waitForFallback := fun h => by
      rw [← newJob_state, h] at hs
      exact absurd hs (by decide)
    refine hevent (e := .dlModeComlost) ?_ (by decide)
    rw [callback, dlWriteDevmodeCnf, if_neg fun h => hwait h.2, if_neg fun h => hfallback h.2,
      if_neg hwait]
  | alReadCnf c =>
    have hboth : c.errortype ≠ SmiErrorType.none ∧ c.errortype ≠ SmiErrorType.idxNotavail := by
      simpa [SmJob.answersSerial] using hserial
    have hcallback : sm.newJob.callback (.alReadCnf c) = (sm.newJob,
        if sm.newJob.realParamlist.revisionid = dirParamRevV11 then .cnfComlost
        else .dlModeComlost) := by
      rw [callback, alReadCnfCb, if_neg hboth.2, if_pos hboth.1]
    refine hevent hcallback ?_
    split_ifs <;> decide
  | writeCyclCnf errortype =>
    refine hevent rfl ?_
    split_ifs <;> decide

/-- A configuration ends a start-up or is refused, but for the gap in the table. -/
theorem rests_setportcfg {p : SmpParameterlist}
    (hgap : ¬ (sm.state = .checkSerNum ∧ (p.mode = .di ∨ p.mode = .do_)))
    (hs' : (sm.handle (.setportcfg p)).state.startingUp = true) :
    sm.Rests (sm.handle (.setportcfg p)) := by
  cases hallows : allowsSetportcfg sm.state with
  | false =>
    rw [setportcfg_refuses hallows]
    exact (idle_newJob sm).rests
  | true =>
    by_cases htakes : sm.Takes p
    · have hends : ∀ s : SmState, s.communicating = false → s.startingUp = false := by
        rintro (_ | _) <;> decide
      rw [hends _ (setportcfg_takes htakes).2.2] at hs'
      exact absurd hs' (by decide)
    · exact absurd (setportcfg_overwrites hallows htakes).1 hgap

/-! ### The serial number -/

theorem checkSernum_cases (sm : Sm) :
    (sm.checkSernum = (sm, .serNumOK) ∧ (sm.configParamlist.inspectionlevel = .identical →
      sm.configParamlist.serialnumber = sm.realParamlist.serialnumber)) ∨
      sm.checkSernum = sm.fault .serNumFault := by
  unfold checkSernum
  split_ifs with hlevel hserial
  · exact .inl ⟨rfl, fun h => absurd h hlevel⟩
  · exact .inr rfl
  · exact .inl ⟨rfl, fun _ => not_not.mp hserial⟩

/-- The comparison with a serial number ends the start-up. -/
private theorem checked_serial (hs : sm.state = .checkSerNum) (serial : List Octet)
    {j : SmJob} (hcallback : sm.newJob.callback j =
      (sm.newJob.modReal ({ · with serialnumber := serial })).checkSernum) :
    (sm.handle j).state.startingUp = false ∧
      (SmPortMode.comready ∈ (sm.handle j).reports →
        (sm.handle j).realParamlist.cycletime = sm.realParamlist.cycletime ∧
          (sm.configParamlist.inspectionlevel = .identical →
            sm.configParamlist.serialnumber = serial)) := by
  obtain ⟨st, hst⟩ : ∃ st, st = sm.newJob.modReal ({ · with serialnumber := serial }) := ⟨_, rfl⟩
  have hstate : st.state = .checkSerNum := by rw [hst, modReal_state, newJob_state, hs]
  rw [← hst] at hcallback
  obtain ⟨hok, hserial⟩ | hfault := checkSernum_cases st
  · rw [handle_of_callback (hcallback.trans hok),
      event_at (t := ⟨.serNumOK, .wait, .wait⟩) hstate rfl]
    refine ⟨rfl, fun _ => ⟨?_, ?_⟩⟩
    · rw [hst]
      rfl
    · rw [hst] at hserial
      exact hserial
  · have hstate' : (st.setError (some .serNumFault)).state = .checkSerNum := hstate
    rw [handle_of_callback (hcallback.trans hfault), SmFault.event,
      event_at (t := ⟨.serNumFault, .inspectionFault, .inspectFault⟩) hstate' rfl]
    refine ⟨rfl, fun hready => absurd hready ?_⟩
    exact comready_perform (by decide) _ (by rw [hst]; exact List.not_mem_nil)

end Sm

/-- The serial number that a confirmation brings, empty for a device without one. -/
def ReadCnf.serialnumber (c : ReadCnf) : List Octet :=
  if c.errortype = SmiErrorType.idxNotavail then [] else c.value

/-- Zeros fill a serial number up to 16 octets. -/
def paddedSerial (serial : List Octet) : List Octet :=
  serial ++ List.replicate (16 - serial.length) 0

namespace Sm

variable {sm : Sm}

/-- **The answer to the read of the serial number** ends the start-up, and the device is reported
ready only if it is the configured one. -/
theorem serial_handle {c : ReadCnf} (hs : sm.state = .checkSerNum)
    (hc : (SmJob.alReadCnf c).answersSerial = true) :
    (sm.handle (.alReadCnf c)).state.startingUp = false ∧
      (SmPortMode.comready ∈ (sm.handle (.alReadCnf c)).reports →
        (sm.handle (.alReadCnf c)).realParamlist.cycletime = sm.realParamlist.cycletime ∧
          (sm.configParamlist.inspectionlevel = .identical →
            sm.configParamlist.serialnumber = paddedSerial c.serialnumber)) := by
  by_cases hnotavail : c.errortype = SmiErrorType.idxNotavail
  · have hcallback : sm.newJob.callback (.alReadCnf c) = (sm.newJob.modReal ({ · with
        serialnumber := List.replicate 16 0 })).checkSernum := by
      rw [callback, alReadCnfCb, if_pos hnotavail]
    rw [ReadCnf.serialnumber, if_pos hnotavail]
    exact checked_serial hs _ hcallback
  · have hnone : ¬ c.errortype ≠ SmiErrorType.none := by
      simpa [SmJob.answersSerial, hnotavail] using hc
    by_cases hlen : 16 < c.len
    · have hcallback : sm.newJob.callback (.alReadCnf c) = (sm.newJob, .cnfComlost) := by
        rw [callback, alReadCnfCb, if_neg hnotavail, if_neg hnone, if_pos hlen]
      have hs' : sm.newJob.state = .checkSerNum := hs
      rw [handle_of_callback hcallback,
        event_at (t := ⟨.cnfComlost, .portInactive, .comlost⟩) hs' rfl]
      exact ⟨rfl, fun hready => absurd hready (comready_perform (by decide) _ List.not_mem_nil)⟩
    · have hcallback : sm.newJob.callback (.alReadCnf c) = (sm.newJob.modReal ({ · with
          serialnumber := c.value ++ List.replicate (16 - c.len) 0 })).checkSernum := by
        rw [callback, alReadCnfCb, if_neg hnotavail, if_neg hnone, if_neg hlen]
      rw [ReadCnf.serialnumber, if_neg hnotavail, paddedSerial, c.length_value]
      exact checked_serial hs _ hcallback

/-! ### The beginning of a start-up -/

/-- A start-up begins in one way only. -/
private theorem startup_rows (s : SmState) : s.startingUp = false → ∀ t ∈ transitions s,
    t.next.startingUp = true → s = .portInactive ∧
      t = ⟨.dlModeStartup, .readComParameter, .readcomparameter⟩ := by
  cases s <;> decide

/-- **A start-up begins** in `PortInactive`, and the first octet of the page is asked for. -/
theorem startup_handle {j : SmJob} (hs : sm.state.startingUp = false)
    (hs' : (sm.handle j).state.startingUp = true) :
    sm.state = .portInactive ∧ (sm.handle j).state = .readComParameter ∧
      sm.Asks (sm.handle j) (some (.read dirParamaMinCycl)) false := by
  rw [handle_state] at hs'
  rcases ht : sm.taken j with _ | t
  · rw [ht] at hs'
    exact absurd hs' (by rw [Option.map_none, Option.getD_none, hs]; decide)
  · rw [ht] at hs'
    obtain ⟨hmem, hevent⟩ := mem_of_taken ht
    obtain ⟨hinactive, rfl⟩ := startup_rows _ hs t hmem hs'
    have hj : ∀ p, j ≠ .setportcfg p := by
      rintro p rfl
      rw [raised, callback, setportcfgReqCb] at hevent
      split_ifs at hevent
      cases hmode : p.mode <;> rw [hmode] at hevent <;> exact SmEvent.noConfusion hevent
    obtain rfl := (prepared_callback hj sm.newJob).startup hevent.symm
    have hidle := idle_noteMode sm .startup
    have hstate := hidle.state.trans hinactive
    have hcallback : sm.newJob.callback (.dlMode .startup) =
        (sm.newJob.noteMode .startup, .dlModeStartup) := by
      rw [callback, dlModeIndCb, modeInd, if_neg (by decide), hstate]
      rfl
    rw [handle_of_callback hcallback,
      event_at (t := ⟨.dlModeStartup, .readComParameter, .readcomparameter⟩) hstate rfl]
    exact ⟨hinactive, rfl, ((hidle.silent.enter _).setRetry 0).read dirParamaMinCycl⟩

end Sm

end IolHat
