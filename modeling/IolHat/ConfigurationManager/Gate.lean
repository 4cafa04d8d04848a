import IolHat.ConfigurationManager.Deactivation
import IolHat.OnRequestData.Answers
import IolHat.Lib.Ledger

/-!
# When a device can be reached

The Configuration Manager opens the exchange of data with a device (`OD_Start`, `PD_Start`) and
closes it (`OD_Stop`, `PD_Stop`). `PD_Start` and `PD_Stop` take effect at once; `OD_Start` and
`OD_Stop` are jobs, which On-request Data Exchange gets through the same mailbox as the requests of
the application. A configuration is confirmed while the job that closes the exchange is still in the
mailbox.

`PortGate` is both layers with their mailbox. Its log says what the Configuration Manager has got
and called, and what has become of the requests. `Way` is the way of a port into operation, with
all that has to happen on it. `access_needs_operation`: a request is executed if the port was in
operation when it was made, whatever is in the mailbox, and otherwise it is refused.
-/

namespace IolHat

/-! ### The jobs of the Configuration Manager -/

/-- The exchange of on-request data is opened or closed. -/
def CmCall.gate : CmCall → Option Bool
  | .odStart => some true
  | .odStop => some false
  | _ => none

/-- The exchange of process data is opened or closed. -/
def CmCall.pdGate : CmCall → Option Bool
  | .pdStart => some true
  | .pdStop => some false
  | _ => none

namespace Cm

/-- A call that neither opens nor closes anything. -/
abbrev Plain (c : CmCall) : Prop := c.gate = none ∧ c.pdGate = none

/-- What a job does to the exchange of data, in the state `s`. -/
inductive Moves (s : CmState) (cm' : Cm) : CmJob → Prop
  /-- Nothing; the port may leave operation. -/
  | rest {j : CmJob} (hcalls : ∀ c ∈ cm'.calls, Plain c)
      (hstate : cm'.state = s ∨ cm'.state = .portFault ∨ cm'.state = .checkPortMode) :
      Moves s cm' j
  /-- T3. -/
  | comready (hcalls : cm'.calls = [.dsStartup]) (hfrom : s = .smStartup)
      (hto : cm'.state = .dsParamManager) : Moves s cm' (.smPortModeInd .comready)
  /-- T5. -/
  | dsReady (hcalls : cm'.calls = [.smOperate]) (hfrom : s = .dsParamManager)
      (hto : cm'.state = .waitingOnOperate) : Moves s cm' .dsReady
  /-- T7. -/
  | operate (hcalls : cm'.calls = [.odStart, .pdStart, .portEvent .portStatusChange])
      (hfrom : s = .waitingOnOperate) (hto : cm'.state = .portActive) :
      Moves s cm' (.smPortModeInd .operate)
  /-- A new configuration. -/
  | configured {r : CmRequest} (cs : List CmCall) (hcalls : cm'.calls = [.pdStop, .odStop] ++ cs)
      (hrest : ∀ c ∈ cs, Plain c)
      (hto : cm'.state = .smStartup ∧ (r.configlist.event = .iolManual ∨
          r.configlist.event = .iolAutostart) ∧ cm'.cfgList.list = r.configlist ∧
          (∃ cs', cs = cs' ++ [.smSetPortConfigReq cm'.cfgList.parameterlist]) ∨
        cm'.state = .portDIDO ∨ cm'.state = .portDeactivated) :
      Moves s cm' (.smiPortconfiguration r)

/-! ### Reports of other layers -/

/-- No call opens or closes anything. -/
def Harmless (cm : Cm) : Prop := ∀ c ∈ cm.calls, Plain c

theorem Harmless.callAll {cm : Cm} (h : cm.Harmless) {cs : List CmCall} (hcs : ∀ c ∈ cs, Plain c) :
    (cm.callAll cs).Harmless := by
  intro c hc
  rcases List.mem_append.mp hc with hc | hc
  · exact h c hc
  · exact hcs c hc

theorem Harmless.call {cm : Cm} (h : cm.Harmless) {c : CmCall} (hc : Plain c) :
    (cm.call c).Harmless := h.callAll fun _ hmem => List.mem_singleton.mp hmem ▸ hc

/-- The port leaves operation, or nothing happens. -/
def Leaves (s : CmState) (cm : Cm) : Prop :=
  cm.Harmless ∧ (cm.state = s ∨ cm.state = .portFault ∨ cm.state = .checkPortMode)

/-- The events that report that something is wrong. -/
def faultEvent : CmEvent → Bool
  | .smFault | .smComlost | .dsFault => true
  | _ => false

private theorem fault_rows (s : CmState) : ∀ t ∈ transitions s, faultEvent t.event = true →
    t.action ∈ [Action.comlost, .comlostIgnore, .portFault] ∧
      (t.next = s ∨ t.next = .portFault ∨ t.next = .checkPortMode) := by
  cases s <;> decide

private theorem harmless_comlost {cm : Cm} (h : cm.Harmless) {e : CmEvent} (he : e ≠ .cfgChange) :
    (cm.comlost e).1.Harmless ∧ (cm.comlost e).2 = .none := by
  rw [Cm.comlost, checkMode, if_neg he]
  exact ⟨Harmless.call (by exact h) ⟨rfl, rfl⟩, rfl⟩

private theorem harmless_portFault {cm : Cm} (h : cm.Harmless) (e : CmEvent) :
    (cm.portFault e).1.Harmless ∧
      ((cm.portFault e).2 = .none ∨ (cm.portFault e).2 = .smComlost) := by
  have hcall : ∀ (cm : Cm) (c : CmCall), cm.Harmless → Plain c → (cm.call c).Harmless :=
    fun _ _ h hc => h.call hc
  cases e with
  | dsFault =>
    rw [Cm.portFault]
    split_ifs
    · exact ⟨h, .inr rfl⟩
    · refine ⟨hcall _ _ ?_ ⟨rfl, rfl⟩, .inl rfl⟩
      exact h
  | smFault =>
    refine ⟨hcall _ _ ?_ ⟨rfl, rfl⟩, .inl rfl⟩
    exact h
  | _ => exact ⟨hcall _ _ h ⟨rfl, rfl⟩, .inl rfl⟩

/-- T4, T6 and T8. -/
theorem leaves_event (cm : Cm) (h : cm.Harmless) {e : CmEvent} (he : faultEvent e = true) :
    Leaves cm.state (cm.event e) := by
  have hround {c : Cm} {e : CmEvent} {t : Fsm.Transition CmState CmEvent Action}
      (hrow : fsm.row c e = some t) (hc : Leaves cm.state c) (he : faultEvent e = true) :
      Leaves cm.state (fsm.round t c e).1 ∧
        ((fsm.round t c e).2 = .none ∨ (fsm.round t c e).2 = .smComlost) := by
    obtain ⟨hmem, rfl⟩ := Fsm.Machine.mem_of_row hrow
    obtain ⟨haction, hnext⟩ := fault_rows _ t hmem he
    have hstate : (fsm.round t c t.event).1.state = t.next := perform_state _ _ _
    have hwhere : t.next = cm.state ∨ t.next = .portFault ∨ t.next = .checkPortMode := by
      rcases hnext with hnext | hnext
      · exact hnext.symm ▸ hc.2
      · exact .inr hnext
    have hne : t.event ≠ .cfgChange := by
      intro h
      rw [h] at he
      cases he
    have hentered : (c.enter t.next).Harmless := hc.1
    rw [Leaves, hstate]
    simp only [List.mem_cons, List.not_mem_nil, or_false] at haction
    simp only [Fsm.Machine.round, fsm]
    rcases haction with ha | ha | ha <;> rw [ha]
    · obtain ⟨hharmless, hnone⟩ := harmless_comlost hentered hne
      exact ⟨⟨hharmless, hwhere⟩, .inl hnone⟩
    · exact ⟨⟨hentered, hwhere⟩, .inl rfl⟩
    · obtain ⟨hharmless, hnext⟩ := harmless_portFault hentered t.event
      exact ⟨⟨hharmless, hwhere⟩, hnext⟩
  refine Fsm.Machine.drive_rule (P := fun c e => Leaves cm.state c ∧ faultEvent e = true)
    (fun _ _ _ h => h.1) (fun c e t hrow h _ => (hround hrow h.1 h.2).1) ?_ ⟨⟨h, .inl rfl⟩, he⟩
  intro c e t hrow hc hidle
  obtain ⟨hleaves, hnext⟩ := hround hrow hc.1 hc.2
  refine ⟨hleaves, ?_⟩
  rw [hnext.resolve_left hidle]
  rfl

/-- An event without a row. -/
theorem event_of_none {cm : Cm} {e : CmEvent} (h : Fsm.lookup (transitions cm.state) e = none) :
    cm.event e = cm := Fsm.Machine.drive_of_none h

/-- T3. -/
theorem event_smComready (cm : Cm) :
    cm.state = .smStartup ∧ cm.event .smComready = (cm.enter .dsParamManager).startDs ∨
      cm.event .smComready = cm := by
  cases hs : cm.state with
  | smStartup =>
    exact .inl ⟨rfl, Fsm.Machine.drive_of_row_idle (Fsm.Machine.row_of_state hs rfl) rfl⟩
  | _ => exact .inr (event_of_none (by rw [hs]; rfl))

/-- T5. -/
theorem event_dsReady (cm : Cm) :
    cm.state = .dsParamManager ∧
        cm.event .dsReady = (cm.enter .waitingOnOperate).call .smOperate ∨
      cm.event .dsReady = cm.enter cm.state := by
  cases hs : cm.state with
  | dsParamManager =>
    exact .inl ⟨rfl, Fsm.Machine.drive_of_row_idle (Fsm.Machine.row_of_state hs rfl) rfl⟩
  | portActive =>
    exact .inr (Fsm.Machine.drive_of_row_idle (Fsm.Machine.row_of_state hs rfl) rfl)
  | _ =>
    refine .inr ((event_of_none (by rw [hs]; rfl)).trans ?_)
    rw [enter, ← hs]

/-- T7. -/
theorem event_smOperate (cm : Cm) :
    cm.state = .waitingOnOperate ∧
        cm.event .smOperate = (cm.enter .portActive).smOperateAction ∨
      cm.event .smOperate = cm := by
  cases hs : cm.state with
  | waitingOnOperate =>
    exact .inl ⟨rfl, Fsm.Machine.drive_of_row_idle (Fsm.Machine.row_of_state hs rfl) rfl⟩
  | _ => exact .inr (event_of_none (by rw [hs]; rfl))

/-- The first calls of a job. -/
theorem harmless_of_nil {cm : Cm} (h : cm.calls = []) : cm.Harmless := by
  intro c hc
  rw [h] at hc
  cases hc

/-- A fault that System Management or Data Storage reports. -/
theorem moves_of_leaves {s : CmState} {cm' : Cm} {j : CmJob} (h : Leaves s cm') : Moves s cm' j :=
  .rest h.1 h.2

/-- A report of System Management. -/
theorem moves_smPortModeIndCb {cm : Cm} (h : cm.calls = []) (mode : SmPortMode) :
    Moves cm.state (cm.smPortModeIndCb mode) (.smPortModeInd mode) := by
  have hharmless := harmless_of_nil h
  by_cases hinactive : mode = .inactive
  · subst hinactive
    have hevent : portModeEvent .inactive = .none := rfl
    simp only [smPortModeIndCb, hevent, ne_eq, not_true, if_false]
    split_ifs
    · exact .rest (Harmless.call (by exact hharmless) ⟨rfl, rfl⟩) (.inl rfl)
    · exact .rest hharmless (.inl rfl)
  have hcb : cm.smPortModeIndCb mode =
      if portModeEvent mode ≠ .none then cm.event (portModeEvent mode) else cm := by
    simp only [smPortModeIndCb, hinactive, false_and, if_false]
  rw [hcb]
  cases mode with
  | comready =>
    show Moves cm.state (cm.event .smComready) _
    rcases event_smComready cm with ⟨hfrom, heq⟩ | heq
    · rw [heq]
      exact .comready (congrArg (· ++ [CmCall.dsStartup]) h) hfrom rfl
    · rw [heq]
      exact .rest hharmless (.inl rfl)
  | operate =>
    show Moves cm.state (cm.event .smOperate) _
    rcases event_smOperate cm with ⟨hfrom, heq⟩ | heq
    · rw [heq]
      exact .operate
        (congrArg (· ++ [CmCall.odStart, .pdStart, .portEvent .portStatusChange]) h) hfrom rfl
    · rw [heq]
      exact .rest hharmless (.inl rfl)
  | revisionFault | compFault | sernumFault | cyctimeFault =>
    exact moves_of_leaves (leaves_event cm (e := .smFault) hharmless rfl)
  | comlost => exact moves_of_leaves (leaves_event cm (e := .smComlost) hharmless rfl)
  | inactive => exact absurd rfl hinactive
  | di | do_ => exact .rest hharmless (.inl rfl)

/-! ### Requests -/

/-- A request that is refused, or served. -/
theorem moves_serve {cm : Cm} (h : cm.calls = []) {r : CmRequest} (check : Option SmiErrorType)
    {f : Cm → Cm} {j : CmJob} (hf : Moves cm.state (f cm) j) :
    Moves cm.state (cm.serve r check f) j := by
  have hharmless := harmless_of_nil h
  cases check with
  | none => exact hf
  | some error =>
    simp only [serve]
    split_ifs
    · exact .rest hharmless (.inl rfl)
    · exact .rest (hharmless.call ⟨rfl, rfl⟩) (.inl rfl)

/-- What the event of a configuration leads to. -/
theorem event_configured {cm : Cm} (hs : cm.state = .checkPortMode) {e : CmEvent}
    (he : e ∈ [CmEvent.iolManual, .iolAutostart, .diCq, .doCq, .deactivated, .unknown]) :
    ∃ cs, (cm.event e).calls = cm.calls ++ cs ∧ (∀ c ∈ cs, Plain c) ∧
      (cm.event e).cfgList = cm.cfgList ∧
      ((cm.event e).state = .smStartup ∧ (e = .iolManual ∨ e = .iolAutostart) ∧
          (∃ cs', cs = cs' ++ [.smSetPortConfigReq cm.cfgList.parameterlist]) ∨
        (cm.event e).state = .portDIDO ∨ (cm.event e).state = .portDeactivated) := by
  -- Each of the events has its own row, and the action of the row is the last one.
  have hstartup : (e = .iolManual ∨ e = .iolAutostart) →
      cm.event e = (cm.enter .smStartup).startup e := by
    rintro (rfl | rfl)
    · exact Fsm.Machine.drive_of_row_idle (Fsm.Machine.row_of_state hs rfl) rfl
    · exact Fsm.Machine.drive_of_row_idle (Fsm.Machine.row_of_state hs rfl) rfl
  have hdido : (e = .diCq ∨ e = .doCq) → cm.event e = (cm.enter .portDIDO).dido e := by
    rintro (rfl | rfl)
    · exact Fsm.Machine.drive_of_row_idle (Fsm.Machine.row_of_state hs rfl) rfl
    · exact Fsm.Machine.drive_of_row_idle (Fsm.Machine.row_of_state hs rfl) rfl
  simp only [List.mem_cons, List.not_mem_nil, or_false] at he
  by_cases hiol : e = .iolManual ∨ e = .iolAutostart
  · rw [hstartup hiol, startup]
    refine ⟨_, rfl, ?_, rfl, .inl ⟨rfl, hiol, _, (List.append_assoc _ [_] [_]).symm⟩⟩
    intro c hc
    rcases List.mem_append.mp hc with hc | hc
    · split_ifs at hc
      · exact List.mem_singleton.mp hc ▸ ⟨rfl, rfl⟩
      · cases hc
    · simp only [setPortConfigCalls, if_true, List.mem_cons, List.not_mem_nil, or_false] at hc
      rcases hc with rfl | rfl <;> exact ⟨rfl, rfl⟩
  by_cases hdi : e = .diCq ∨ e = .doCq
  · rw [hdido hdi, dido]
    refine ⟨_, rfl, ?_, rfl, .inr (.inl rfl)⟩
    intro c hc
    simp only [setPortConfigCalls, if_true, List.mem_cons, List.not_mem_nil, or_false] at hc
    rcases hc with rfl | rfl | rfl <;> exact ⟨rfl, rfl⟩
  · have hdeact : e = .deactivated ∨ e = .unknown := by tauto
    rw [event_deactivating hs hdeact, deactivate]
    refine ⟨_, rfl, ?_, rfl, .inr (.inr rfl)⟩
    intro c hc
    rcases List.mem_append.mp hc with hc | hc
    · split_ifs at hc
      · exact List.mem_singleton.mp hc ▸ ⟨rfl, rfl⟩
      · cases hc
    · exact List.mem_singleton.mp hc ▸ ⟨rfl, rfl⟩

/-- A new configuration. -/
theorem moves_cfgChange (cm : Cm) (h : cm.calls = []) :
    Moves cm.state (cm.event .cfgChange) (.smiPortconfiguration cm.smiReq) := by
  by_cases hs : cm.state = .dsParamManager
  · rw [event_cfgChange_ignored hs]
    exact .rest (harmless_of_nil h) (.inl hs.symm)
  have hchecked : ∀ {cm' : Cm} {c : CmCall}, cm'.state = .checkPortMode →
      cm'.calls = [.pdStop, .odStop, c] → Plain c →
      (cm.smiReq.configlist.event = .unknown ∨ cm'.cfgList.list = cm.smiReq.configlist) →
      Moves cm.state (cm'.event cm.smiReq.configlist.event) (.smiPortconfiguration cm.smiReq) := by
    intro cm' c hstate hcalls hc hcfg
    obtain ⟨cs, hcs, hplain, hlist, hto⟩ := event_configured hstate
      (PortConfigList.event_mem cm.smiReq.configlist)
    refine .configured (c :: cs) (by rw [hcs, hcalls]; rfl) ?_ ?_
    · exact List.forall_mem_cons.mpr ⟨hc, hplain⟩
    · refine hto.imp_left ?_
      rintro ⟨hstartup, hiol, cs', rfl⟩
      have haccepted : cm'.cfgList.list = cm.smiReq.configlist := by
        refine hcfg.resolve_left fun hunknown => ?_
        rw [hunknown] at hiol
        simp at hiol
      rw [hlist]
      exact ⟨hstartup, hiol, haccepted, c :: cs', rfl⟩
  rw [event_cfgChange hs, checkMode, if_pos rfl]
  dsimp only
  split_ifs with hcfg
  · exact hchecked rfl (congrArg (· ++ _) h) ⟨rfl, rfl⟩ (.inl hcfg)
  · exact hchecked rfl (congrArg (· ++ _) h) ⟨rfl, rfl⟩ (.inr rfl)

/-- **What a job of the Configuration Manager does to the exchange of data.** -/
theorem handle_moves (cm : Cm) (view : CmView) (j : CmJob) :
    Moves cm.state (cm.handle view j) j := by
  have hharmless : (cm.newJob view).Harmless := harmless_of_nil rfl
  have hcnf : ∀ {ref : ArgBlockId} {len : ℕ} {block : CmBlock} {j : CmJob},
      Moves (cm.newJob view).state ((cm.newJob view).call (.cnf ref len block)) j :=
    .rest (hharmless.call ⟨rfl, rfl⟩) (.inl rfl)
  show Moves (cm.newJob view).state ((cm.newJob view).callback j) j
  cases j with
  | smiMasterident r =>
    rw [callback, smiMasteridentCb]
    exact moves_serve rfl _ hcnf
  | smiPortconfiguration r =>
    rw [callback, smiPortconfigurationCb]
    exact moves_serve rfl _ (moves_cfgChange ((cm.newJob view).setReq r) rfl)
  | smiReadbackportconfiguration r =>
    rw [callback, smiReadbackportconfigurationCb]
    exact moves_serve rfl _ hcnf
  | smiPortstatus r =>
    rw [callback, smiPortstatusCb]
    exact moves_serve rfl _ hcnf
  | smPortModeInd mode => exact moves_smPortModeIndCb rfl mode
  | dsReady =>
    show Moves _ ((cm.newJob view).event .dsReady) _
    rcases event_dsReady (cm.newJob view) with ⟨hfrom, heq⟩ | heq
    · rw [heq]
      exact .dsReady rfl hfrom rfl
    · rw [heq]
      exact .rest (by exact hharmless) (.inl rfl)
  | dsFault fault =>
    exact moves_of_leaves (leaves_event ((cm.newJob view).setDsFault fault)
      (by exact hharmless) (e := .dsFault) rfl)

end Cm

/-! ### The two layers and their mailbox -/

/-- A job in the mailbox. -/
inductive GateJob
  | cm (j : CmJob)
  | odStart
  | odStop
  /-- `SMI_rw_req_cb`. -/
  | smiRw (r : SmiServiceReq)

/-- What `OD_Start` and `OD_Stop` do to On-request Data Exchange. -/
def GateJob.gate : GateJob → Option Bool
  | .odStart => some true
  | .odStop => some false
  | _ => none

/-- The jobs of `OD_Start` and `OD_Stop`. -/
def CmCall.jobs : CmCall → List GateJob
  | .odStart => [.odStart]
  | .odStop => [.odStop]
  | _ => []

/-- What happens at a port. -/
inductive GateEntry
  /-- The Configuration Manager gets a job. -/
  | job (j : CmJob)
  | call (c : CmCall)
  /-- A request is made; requests are numbered. -/
  | posted (tag : ℕ)
  /-- A request is passed on to the application layer. -/
  | passedOn (tag : ℕ)
  /-- A request is refused because On-request Data Exchange has not been started. -/
  | refused (tag : ℕ)

/-- The calls that open and close the exchange. -/
def GateEntry.gate : GateEntry → Option Bool
  | .call c => c.gate
  | _ => none

/-- The number of a request that is made. -/
def GateEntry.postedTag : GateEntry → Option ℕ
  | .posted tag => some tag
  | _ => none

/-- The Configuration Manager, On-request Data Exchange and their mailbox. -/
structure PortGate where
  cm : Cm := {}
  ode : Ode := {}
  /-- The `state` of Process Data Exchange is `PD_STATE_PDactive`. -/
  pdActive : Bool := false
  mailbox : List GateJob := []
  /-- How many requests have been made. -/
  requests : ℕ := 0
  log : List GateEntry := []

/-- The inputs. -/
inductive GateInput
  /-- A job for the Configuration Manager, from another layer or the application. -/
  | indicate (j : CmJob)
  | request (service : OdeService) (r : SmiServiceReq)
  | readCnf (c : ReadCnf)
  | writeCnf (errortype : SmiErrorType)
  /-- The master takes the next job. -/
  | handle (view : CmView)

/-- On-request Data Exchange has been started. -/
def Ode.started (ode : Ode) : Bool := ode.state ≠ .inactive

namespace PortGate

variable (s : PortGate)

/-- A call of the Configuration Manager. -/
def deliver (c : CmCall) : PortGate :=
  { s with
    pdActive := c.pdGate.getD s.pdActive
    mailbox := s.mailbox ++ c.jobs
    log := s.log ++ [.call c] }

/-- What becomes of a request. -/
def outcome (r : SmiServiceReq) : List GateEntry :=
  if s.ode.started then
    ((s.ode.newJob.smiRwReqCb r).calls.filterMap OdeCall.alRequest).map (.passedOn ·.tag)
  else [.refused r.tag]

/-- The callback of a job. -/
def serve (view : CmView) : GateJob → PortGate
  | .cm j => (s.cm.handle view j).calls.foldl deliver
      { s with cm := s.cm.handle view j, log := s.log ++ [.job j] }
  | .odStart => { s with ode := s.ode.newJob.odStartCb }
  | .odStop => { s with ode := s.ode.newJob.odStopCb }
  | .smiRw r => { s with ode := s.ode.newJob.smiRwReqCb r, log := s.log ++ s.outcome r }

/-- One input. -/
def step : GateInput → PortGate
  | .indicate j => { s with mailbox := s.mailbox ++ [.cm j] }
  | .request service r =>
    if service.request r = .none then
      { s with
        requests := s.requests + 1
        mailbox := s.mailbox ++ [.smiRw { r with tag := s.requests }]
        log := s.log ++ [.posted s.requests] }
    else s
  | .readCnf c => { s with ode := s.ode.newJob.readCnfCb c }
  | .writeCnf errortype => { s with ode := s.ode.newJob.writeCnfCb errortype }
  | .handle view =>
    match s.mailbox with
    | [] => s
    | j :: rest => serve { s with mailbox := rest } view j

/-- What can become of a port. -/
abbrev Reaches : PortGate → Prop := Runs.Reaches step (fun _ _ => True) {}

end PortGate

/-! ### The way into operation -/

/-- **The way of a port into operation.** It has been configured for communication, and System
Management has been asked to start it so; System Management has reported COMREADY, and Data Storage
has been started; Data Storage is ready, and System Management has been asked to go on; and it has
reported OPERATE. Since then no configuration has been looked at. -/
inductive Way (p : SmpParameterlist) : CmState → List GateEntry → Prop
  | configured {l : List GateEntry} {r : CmRequest} {cfg : AcceptedConfig} {cs : List CmCall}
      (hcfg : cfg.list = r.configlist) (hp : cfg.parameterlist = p)
      (hiol : r.configlist.event = .iolManual ∨ r.configlist.event = .iolAutostart) :
      Way p .smStartup (l ++ .job (.smiPortconfiguration r) ::
        (CmCall.pdStop :: .odStop :: cs ++ [CmCall.smSetPortConfigReq p]).map .call)
  | comready {l : List GateEntry} (h : Way p .smStartup l) :
      Way p .dsParamManager (l ++ [.job (.smPortModeInd .comready), .call .dsStartup])
  | dsReady {l : List GateEntry} (h : Way p .dsParamManager l) :
      Way p .waitingOnOperate (l ++ [.job .dsReady, .call .smOperate])
  | operate {l : List GateEntry} (h : Way p .waitingOnOperate l) :
      Way p .portActive (l ++ [.job (.smPortModeInd .operate), .call .odStart, .call .pdStart])
  | other {s : CmState} {l : List GateEntry} (h : Way p s l) {e : GateEntry}
      (he : e ≠ .call .odStop) : Way p s (l ++ [e])

/-- The port is in operation, as far as the Configuration Manager is concerned. -/
def Operating (log : List GateEntry) : Prop := ∃ p, Way p .portActive log

namespace Ode

/-! ### When On-request Data Exchange has been started -/

theorem started_odStartCb (ode : Ode) : ode.odStartCb.started = true := by
  rw [odStartCb_eq, started]
  split_ifs with hs
  · rfl
  · simpa using hs

theorem started_odStopCb (ode : Ode) : ode.odStopCb.started = false := by
  rw [odStopCb_eq]
  rfl

theorem started_event_odUnblock (ode : Ode) : (ode.event .odUnblock).started = ode.started := by
  rcases hs : ode.state with _ | _ | _
  · have hnone : ode.event .odUnblock = ode :=
      Fsm.Machine.drive_of_none (Fsm.Machine.row_of_state (M := fsm) hs rfl)
    rw [hnone]
  · have hnone : ode.event .odUnblock = ode :=
      Fsm.Machine.drive_of_none (Fsm.Machine.row_of_state (M := fsm) hs rfl)
    rw [hnone]
  · have hdone : (ode.enter .odActive).smiDone.state = .odActive :=
      perform_state .smiDone (ode.enter .odActive) .odUnblock
    rw [event_odUnblock hs, started, started, hdone, hs]
    rfl

/-- A request: it is passed on only by a layer that has been started. -/
theorem smiRwReqCb_started (ode : Ode) (hcalls : ode.calls = []) (r : SmiServiceReq) :
    (ode.smiRwReqCb r).started = ode.started ∧
      ∀ q ∈ (ode.smiRwReqCb r).calls.filterMap OdeCall.alRequest, q.tag = r.tag := by
  have hrefused : ode.Refuses (ode.smiRwReqCb r) r → (ode.smiRwReqCb r).started = ode.started ∧
      ∀ q ∈ (ode.smiRwReqCb r).calls.filterMap OdeCall.alRequest, q.tag = r.tag := by
    rintro ⟨hstate, -, e, hanswer⟩
    refine ⟨by rw [started, started, hstate], fun q hq => ?_⟩
    rw [hanswer, hcalls] at hq
    cases hq
  by_cases hactive : ode.state = .odActive
  swap
  · exact hrefused (smiRwReqCb_refused hactive)
  by_cases hread : r.IsRead
  · rw [smiRwReqCb_read hactive hread]
    refine ⟨by rw [started, started, hactive]; rfl, fun q hq => ?_⟩
    have hq : q ∈ (ode.calls ++ [OdeCall.alReadReq r.tag r.argBlock.index
        r.argBlock.subindex]).filterMap OdeCall.alRequest := hq
    rw [hcalls] at hq
    exact List.mem_singleton.mp hq ▸ rfl
  by_cases hwrite : r.IsWrite
  · rw [smiRwReqCb_write hactive hwrite]
    refine ⟨by rw [started, started, hactive]; rfl, fun q hq => ?_⟩
    have hq : q ∈ (ode.calls ++ [OdeCall.alWriteReq r.tag r.argBlock.index r.argBlock.subindex
        (r.argBlock.data.take r.writeLen)]).filterMap OdeCall.alRequest := hq
    rw [hcalls] at hq
    exact List.mem_singleton.mp hq ▸ rfl
  · exact hrefused (smiRwReqCb_other hactive hread hwrite)

end Ode

/-! ### The invariant -/

/-- The port is open: the last call was to open the exchange. -/
def isOpen (log : List GateEntry) : Bool := Log.switch GateEntry.gate false log

theorem isOpen_append (l m : List GateEntry) :
    isOpen (l ++ m) = Log.switch GateEntry.gate (isOpen l) m := Log.switch_append

namespace Way

variable {p : SmpParameterlist} {st : CmState} {l : List GateEntry}

theorem append (h : Way p st l) {m : List GateEntry} (hm : .call .odStop ∉ m) :
    Way p st (l ++ m) := by
  induction m generalizing l with
  | nil => rwa [List.append_nil]
  | cons e m ih =>
    obtain ⟨hne, hm⟩ := not_or.mp (List.mem_cons.not.mp hm)
    have hall := ih (h.other (e := e) (Ne.symm hne)) hm
    rwa [List.append_assoc] at hall

/-- A port in operation is open. -/
theorem isOpen (h : Way p .portActive l) : isOpen l = true := by
  generalize hst : CmState.portActive = st at h
  induction h with
  | configured | comready | dsReady => cases hst
  | operate => exact isOpen_append _ _
  | @other _ _ _ e he ih =>
    rw [isOpen_append, ih hst]
    rcases e with _ | c | _ | _ | _
    case call =>
      cases c
      case odStop => exact absurd rfl he
      all_goals rfl
    all_goals rfl

end Way

/-- A request was made when the port was open, or when it was not. -/
def PostedWhen (b : Bool) (tag : ℕ) (log : List GateEntry) : Prop :=
  ∃ l₁ l₂, log = l₁ ++ .posted tag :: l₂ ∧ (b = true ↔ Operating l₁)

/-- What may become of a request. -/
def GateEntry.Allowed (l : List GateEntry) : GateEntry → Prop
  | .passedOn tag => PostedWhen true tag l
  | .refused tag => PostedWhen false tag l
  | _ => True

namespace PortGate

/-- The requests in the mailbox find the port as it was when they were made. -/
def Seen (log : List GateEntry) (b : Bool) (before : List GateJob) : GateJob → Prop
  | .smiRw r => PostedWhen (Log.switch GateJob.gate b before) r.tag log
  | _ => True

/-- The invariant of the runs. -/
structure Inv (s : PortGate) : Prop where
  way : s.cm.state ∈ [CmState.smStartup, .dsParamManager, .waitingOnOperate, .portActive] →
    ∃ p, Way p s.cm.state s.log
  operating : isOpen s.log = true → Operating s.log
  pd : s.pdActive = isOpen s.log
  mailbox : Log.switch GateJob.gate s.ode.started s.mailbox = isOpen s.log
  seen : Log.Justified (Seen s.log s.ode.started) s.mailbox
  allowed : Log.Justified GateEntry.Allowed s.log
  tags : s.log.filterMap GateEntry.postedTag = List.range s.requests

variable {s : PortGate}

theorem isOpen_iff_operating (h : s.Inv) : isOpen s.log = true ↔ Operating s.log :=
  ⟨h.operating, fun ⟨_, hp⟩ => hp.isOpen⟩

/-- More has happened. -/
theorem PostedWhen.append {b : Bool} {tag : ℕ} {l : List GateEntry} (h : PostedWhen b tag l)
    (m : List GateEntry) : PostedWhen b tag (l ++ m) := by
  obtain ⟨l₁, l₂, rfl, hb⟩ := h
  exact ⟨l₁, l₂ ++ m, by simp, hb⟩

theorem Seen.append {l : List GateEntry} {b : Bool} {before : List GateJob} {j : GateJob}
    (h : Seen l b before j) (m : List GateEntry) : Seen (l ++ m) b before j := by
  cases j with
  | smiRw r => exact PostedWhen.append h m
  | _ => trivial

/-! ### Calls -/

theorem foldl_deliver (cs : List CmCall) (s : PortGate) : cs.foldl deliver s =
    { s with
      pdActive := Log.switch CmCall.pdGate s.pdActive cs
      mailbox := s.mailbox ++ cs.flatMap CmCall.jobs
      log := s.log ++ cs.map .call } := by
  induction cs generalizing s with
  | nil => simp
  | cons c cs ih =>
    rw [List.foldl_cons, ih]
    simp [deliver]

theorem switch_jobs (cs : List CmCall) (b : Bool) :
    Log.switch GateJob.gate b (cs.flatMap CmCall.jobs) = Log.switch CmCall.gate b cs := by
  induction cs generalizing b with
  | nil => rfl
  | cons c cs ih =>
    rw [List.flatMap_cons, Log.switch_append, Log.switch_cons, ih]
    cases c <;> rfl

theorem switch_calls (cs : List CmCall) (b : Bool) :
    Log.switch GateEntry.gate b (cs.map .call) = Log.switch CmCall.gate b cs := by
  induction cs generalizing b with
  | nil => rfl
  | cons c cs ih =>
    rw [List.map_cons, Log.switch_cons, Log.switch_cons, ih]
    rfl

/-- A job of the Configuration Manager, as far as its calls go. -/
theorem Inv.calls (h : s.Inv) {j : CmJob} {rest : List GateJob} (hm : s.mailbox = .cm j :: rest)
    (cm : Cm) (hpd : ∀ b, Log.switch CmCall.pdGate b cm.calls = Log.switch CmCall.gate b cm.calls)
    (hway : cm.state ∈ [CmState.smStartup, .dsParamManager, .waitingOnOperate, .portActive] →
      ∃ p, Way p cm.state (s.log ++ .job j :: cm.calls.map .call))
    (hoperating : Log.switch CmCall.gate (isOpen s.log) cm.calls = true →
      Operating (s.log ++ .job j :: cm.calls.map .call)) :
    (cm.calls.foldl deliver
      { s with mailbox := rest, cm := cm, log := s.log ++ [.job j] }).Inv := by
  have hopen : isOpen (s.log ++ .job j :: cm.calls.map .call) =
      Log.switch CmCall.gate (isOpen s.log) cm.calls := by
    rw [isOpen_append, Log.switch_cons, switch_calls]
    rfl
  have hmailbox := h.mailbox
  have hseen := h.seen
  rw [hm] at hmailbox hseen
  -- No call posts a job of the application.
  have htags : (GateEntry.job j :: cm.calls.map .call).filterMap GateEntry.postedTag = [] := by
    refine List.filterMap_eq_nil_iff.mpr fun e he => ?_
    rcases List.mem_cons.mp he with rfl | he
    · rfl
    · obtain ⟨c, -, rfl⟩ := List.mem_map.mp he
      rfl
  rw [foldl_deliver]
  refine ⟨?_, ?_, ?_, ?_, ?_, ?_, ?_⟩ <;> dsimp only
  all_goals try rw [List.append_assoc, List.singleton_append]
  · exact hway
  · rw [hopen]
    exact hoperating
  · rw [hopen, hpd, h.pd]
  · rw [hopen, Log.switch_append, switch_jobs, ← hmailbox]
    rfl
  · refine (hseen.tail.mono fun _ _ hs => Seen.append hs _).append fun l₁ x l₂ hx => ?_
    obtain ⟨c, -, hc⟩ := List.mem_flatMap.mp (hx ▸ List.mem_append_right l₁ List.mem_cons_self)
    have hjob : x = .odStart ∨ x = .odStop := by
      cases c <;> simp [CmCall.jobs] at hc <;> simp [hc]
    rcases hjob with rfl | rfl <;> trivial
  · refine h.allowed.append fun l₁ x l₂ hx => ?_
    have hmem : x ∈ GateEntry.job j :: cm.calls.map .call := hx ▸ by simp
    rcases List.mem_cons.mp hmem with rfl | hmem
    · trivial
    · obtain ⟨c, -, rfl⟩ := List.mem_map.mp hmem
      trivial
  · rw [List.filterMap_append, htags, List.append_nil, h.tags]

/-- Calls that open and close nothing. -/
theorem switch_of_plain {cs : List CmCall} (h : ∀ c ∈ cs, Cm.Plain c) (b : Bool) :
    Log.switch CmCall.gate b cs = b ∧ Log.switch CmCall.pdGate b cs = b :=
  ⟨Log.switch_of_none fun c hc => (h c hc).1, Log.switch_of_none fun c hc => (h c hc).2⟩

/-- The entries of a job that opens and closes nothing. -/
theorem odStop_not_mem {cs : List CmCall} (h : ∀ c ∈ cs, Cm.Plain c) (j : CmJob) :
    GateEntry.call .odStop ∉ GateEntry.job j :: cs.map .call := by
  intro hmem
  rcases List.mem_cons.mp hmem with hj | hmem
  · cases hj
  · obtain ⟨c, hc, heq⟩ := List.mem_map.mp hmem
    cases heq
    have hplain := (h _ hc).1
    cases hplain

theorem Inv.serveCm (h : s.Inv) {j : CmJob} {rest : List GateJob} (hm : s.mailbox = .cm j :: rest)
    (view : CmView) : (serve { s with mailbox := rest } view (.cm j)).Inv := by
  have hmoves := s.cm.handle_moves view j
  unfold serve
  dsimp only
  generalize s.cm.handle view j = cm at hmoves ⊢
  -- Calls that neither start nor stop anything leave both switches and the way behind.
  have hplain : (∀ c ∈ cm.calls, Cm.Plain c) →
      (∀ b, Log.switch CmCall.pdGate b cm.calls = Log.switch CmCall.gate b cm.calls) ∧
        (Log.switch CmCall.gate (isOpen s.log) cm.calls = true →
          Operating (s.log ++ .job j :: cm.calls.map .call)) := by
    intro hcs
    refine ⟨fun b => by rw [(switch_of_plain hcs b).1, (switch_of_plain hcs b).2], ?_⟩
    rw [(switch_of_plain hcs _).1]
    intro hopen
    obtain ⟨p, hp⟩ := h.operating hopen
    exact ⟨p, hp.append (odStop_not_mem hcs j)⟩
  cases hmoves with
  | rest hcalls hstate =>
    refine h.calls hm cm (hplain hcalls).1 (fun hs => ?_) (hplain hcalls).2
    rcases hstate with hstate | hstate | hstate
    · rw [hstate] at hs ⊢
      obtain ⟨p, hp⟩ := h.way hs
      exact ⟨p, hp.append (odStop_not_mem hcalls j)⟩
    · rw [hstate] at hs
      simp at hs
    · rw [hstate] at hs
      simp at hs
  | comready hcalls hfrom hto =>
    have hcs : ∀ c ∈ cm.calls, Cm.Plain c := by
      rw [hcalls]
      decide
    obtain ⟨hpd, hoperating⟩ := hplain hcs
    refine h.calls hm cm hpd (fun _ => ?_) hoperating
    obtain ⟨p, hp⟩ := h.way (by rw [hfrom]; simp)
    rw [hto, hcalls]
    exact ⟨p, .comready (hfrom ▸ hp)⟩
  | dsReady hcalls hfrom hto =>
    have hcs : ∀ c ∈ cm.calls, Cm.Plain c := by
      rw [hcalls]
      decide
    obtain ⟨hpd, hoperating⟩ := hplain hcs
    refine h.calls hm cm hpd (fun _ => ?_) hoperating
    obtain ⟨p, hp⟩ := h.way (by rw [hfrom]; simp)
    rw [hto, hcalls]
    exact ⟨p, .dsReady (hfrom ▸ hp)⟩
  | operate hcalls hfrom hto =>
    have hway : ∃ p, Way p .portActive
        (s.log ++ .job (.smPortModeInd .operate) :: cm.calls.map .call) := by
      obtain ⟨p, hp⟩ := h.way (by rw [hfrom]; simp)
      have hoperate := (Way.operate (hfrom ▸ hp)).other
        (e := .call (.portEvent .portStatusChange)) (by simp)
      rw [List.append_assoc] at hoperate
      rw [hcalls]
      exact ⟨p, hoperate⟩
    exact h.calls hm cm (fun b => by rw [hcalls]; rfl) (fun _ => hto ▸ hway) fun _ => hway
  -- A configuration stops whatever ran, so both switches are off behind its calls.
  | configured cs hcalls hrest hto =>
    have hclosed : ∀ b, Log.switch CmCall.gate b cm.calls = false ∧
        Log.switch CmCall.pdGate b cm.calls = false := by
      intro b
      rw [hcalls, Log.switch_append, Log.switch_append]
      exact switch_of_plain hrest false
    have htogether : ∀ b, Log.switch CmCall.pdGate b cm.calls =
        Log.switch CmCall.gate b cm.calls := fun b => by rw [(hclosed b).1, (hclosed b).2]
    refine h.calls hm cm htogether (fun hs => ?_) fun hopen => ?_
    · rcases hto with ⟨hstate, hiol, hlist, cs', rfl⟩ | hstate | hstate
      · rw [hstate, hcalls]
        exact ⟨cm.cfgList.parameterlist, .configured hlist rfl hiol⟩
      · rw [hstate] at hs
        simp at hs
      · rw [hstate] at hs
        simp at hs
    · rw [(hclosed _).1] at hopen
      cases hopen

/-! ### The other jobs -/

/-- On-request Data Exchange has taken the first job. -/
theorem Inv.ode (h : s.Inv) {j : GateJob} {rest : List GateJob} (hm : s.mailbox = j :: rest)
    {ode : Ode} (hode : ode.started = j.gate.getD s.ode.started) {m : List GateEntry}
    (hgate : ∀ e ∈ m, e.gate = none ∧ e.postedTag = none)
    (hallowed : ∀ e ∈ m, ∀ l, GateEntry.Allowed (s.log ++ l) e) :
    Inv { s with ode := ode, mailbox := rest, log := s.log ++ m } := by
  have hopen : isOpen (s.log ++ m) = isOpen s.log :=
    (isOpen_append _ _).trans (Log.switch_of_none fun e he => (hgate e he).1)
  have hstop : GateEntry.call .odStop ∉ m := fun hmem => by cases (hgate _ hmem).1
  have hmailbox := h.mailbox
  have hseen := h.seen
  rw [hm] at hmailbox hseen
  refine ⟨fun hs => ?_, fun ho => ?_, h.pd.trans hopen.symm, ?_, ?_, ?_, ?_⟩
  · obtain ⟨p, hp⟩ := h.way hs
    exact ⟨p, hp.append hstop⟩
  · obtain ⟨p, hp⟩ := h.operating (hopen.symm.trans ho)
    exact ⟨p, hp.append hstop⟩
  · show Log.switch GateJob.gate ode.started rest = isOpen (s.log ++ m)
    rw [hode, hopen, ← hmailbox, Log.switch_cons]
  · refine hseen.tail.mono fun before x hx => ?_
    cases x with
    | smiRw r =>
      have hx : PostedWhen (Log.switch GateJob.gate s.ode.started (j :: before)) r.tag s.log := hx
      rw [Log.switch_cons, ← hode] at hx
      exact PostedWhen.append hx m
    | _ => trivial
  · refine h.allowed.append fun l₁ e l₂ he => hallowed e (he ▸ ?_) l₁
    exact List.mem_append_right l₁ List.mem_cons_self
  · rw [List.filterMap_append, List.filterMap_eq_nil_iff.mpr fun e he => (hgate e he).2,
      List.append_nil]
    exact h.tags

theorem Inv.serve (h : s.Inv) {j : GateJob} {rest : List GateJob} (hm : s.mailbox = j :: rest)
    (view : CmView) : (serve { s with mailbox := rest } view j).Inv := by
  cases j with
  | cm j => exact h.serveCm hm view
  | odStart =>
    have hstarted := h.ode hm (Ode.started_odStartCb s.ode.newJob) (m := []) (by simp) (by simp)
    rwa [List.append_nil] at hstarted
  | odStop =>
    have hstopped := h.ode hm (Ode.started_odStopCb s.ode.newJob) (m := []) (by simp) (by simp)
    rwa [List.append_nil] at hstopped
  | smiRw r =>
    obtain ⟨hstarted, htags⟩ := Ode.smiRwReqCb_started s.ode.newJob rfl r
    have hposted : PostedWhen s.ode.started r.tag s.log := h.seen [] _ rest hm
    refine h.ode (j := .smiRw r) hm hstarted (m := s.outcome r) ?_ ?_
    · intro e he
      unfold outcome at he
      split_ifs at he
      · obtain ⟨q, -, rfl⟩ := List.mem_map.mp he
        exact ⟨rfl, rfl⟩
      · exact List.mem_singleton.mp he ▸ ⟨rfl, rfl⟩
    · intro e he l
      unfold outcome at he
      split_ifs at he with hs
      · obtain ⟨q, hq, rfl⟩ := List.mem_map.mp he
        rw [htags q hq]
        exact PostedWhen.append (hs ▸ hposted) l
      · rw [List.mem_singleton.mp he]
        rw [Bool.not_eq_true] at hs
        exact PostedWhen.append (hs ▸ hposted) l

/-- A confirmation. -/
theorem Inv.confirmed (h : s.Inv) {ode : Ode} (hode : ode.started = s.ode.started) :
    Inv { s with ode := ode } where
  way := h.way
  operating := h.operating
  pd := h.pd
  mailbox := by
    rw [hode]
    exact h.mailbox
  seen := by
    rw [hode]
    exact h.seen
  allowed := h.allowed
  tags := h.tags

theorem Inv.step (h : s.Inv) (i : GateInput) : (s.step i).Inv := by
  cases i with
  | indicate j =>
    refine { h with mailbox := ?_, seen := h.seen.concat trivial }
    exact Log.switch_append.trans h.mailbox
  | request service r =>
    unfold PortGate.step
    dsimp only
    split_ifs
    swap
    · exact h
    have hopen : isOpen (s.log ++ [.posted s.requests]) = isOpen s.log := isOpen_append _ _
    have hstop : GateEntry.call .odStop ∉ [GateEntry.posted s.requests] := by simp
    refine ⟨fun hs => ?_, fun ho => ?_, h.pd.trans hopen.symm, ?_, ?_, h.allowed.concat trivial, ?_⟩
    · obtain ⟨p, hp⟩ := h.way hs
      exact ⟨p, hp.append hstop⟩
    · obtain ⟨p, hp⟩ := h.operating (hopen.symm.trans ho)
      exact ⟨p, hp.append hstop⟩
    · exact (Log.switch_append.trans h.mailbox).trans hopen.symm
    · refine (h.seen.mono fun _ _ hs => Seen.append hs _).concat ?_
      refine ⟨s.log, [], rfl, ?_⟩
      rw [h.mailbox]
      exact isOpen_iff_operating h
    · rw [List.filterMap_append, h.tags, List.range_succ]
      rfl
  | readCnf c => exact h.confirmed (Ode.started_event_odUnblock _)
  | writeCnf e => exact h.confirmed (Ode.started_event_odUnblock _)
  | handle view =>
    unfold PortGate.step
    dsimp only
    split
    · exact h
    · rename_i j rest hm
      exact h.serve hm view

theorem inv_nil : Inv {} where
  way hs := by simp at hs
  operating ho := by cases ho
  pd := rfl
  mailbox := rfl
  seen := Log.justified_nil
  allowed := Log.justified_nil
  tags := rfl

/-- **A device is reached only in operation.** Whatever the other layers report, whatever the
application asks and however full the mailbox is: process data are exchanged exactly while the port
is in operation; an on-request service is passed on only if the port was in operation when it was
made, and refused for want of a device only if it was not. So a service that is made behind the
confirmation of a new configuration waits for the device of this configuration. -/
theorem access_needs_operation (h : Reaches s) :
    (s.pdActive = true ↔ Operating s.log) ∧
      (∀ l₁ l₂ tag, s.log = l₁ ++ .passedOn tag :: l₂ →
        ∃ a b, l₁ = a ++ .posted tag :: b ∧ Operating a) ∧
      (∀ l₁ l₂ tag, s.log = l₁ ++ .refused tag :: l₂ →
        ∃ a b, l₁ = a ++ .posted tag :: b ∧ ¬ Operating a) ∧
      s.log.filterMap GateEntry.postedTag = List.range s.requests := by
  have hinv : s.Inv := h.invariant Inv inv_nil fun _ i hi _ => hi.step i
  refine ⟨?_, fun l₁ l₂ tag hlog => ?_, fun l₁ l₂ tag hlog => ?_, hinv.tags⟩
  · rw [hinv.pd]
    exact isOpen_iff_operating hinv
  · obtain ⟨a, b, hl, hb⟩ : PostedWhen true tag l₁ := hinv.allowed l₁ _ l₂ hlog
    exact ⟨a, b, hl, hb.mp rfl⟩
  · obtain ⟨a, b, hl, hb⟩ : PostedWhen false tag l₁ := hinv.allowed l₁ _ l₂ hlog
    exact ⟨a, b, hl, fun ho => Bool.noConfusion (hb.mpr ho)⟩

/-- A configuration for communication. -/
def configureIol : GateInput :=
  .indicate (.smiPortconfiguration
    { exp := ArgBlockId.voidBlock, argBlockLen := 14, ref := ArgBlockId.portCfgList,
      configlist := { portmode := .iolAuto } })

/-- A read of the device. -/
def readDevice : GateInput :=
  .request .deviceRead
    { exp := ArgBlockId.odRd, argBlockLen := 36,
      argBlock := { id := ArgBlockId.odRd, index := 16 } }

/-- A port that goes into operation, and two reads: the first is made when a new configuration is
already in the mailbox, the second when it has been confirmed. -/
def readAroundConfirmation : List GateInput :=
  [configureIol, .handle {}, .indicate (.smPortModeInd .comready), .indicate .dsReady,
    .indicate (.smPortModeInd .operate), .handle {}, .handle {}, .handle {}, .handle {}, .handle {},
    configureIol, readDevice, .handle {}, readDevice, .handle {}, .handle {}, .handle {}]

/-- What it leads to. -/
def afterConfirmation : PortGate := Runs.run step {} readAroundConfirmation

theorem access_needs_operation_aroundConfirmation :
    (∃ a b, afterConfirmation.log.take 24 = a ++ .posted 0 :: b ∧ Operating a) ∧
      ∃ a b, afterConfirmation.log.take 25 = a ++ .posted 1 :: b ∧ ¬ Operating a := by
  have hreaches : Reaches afterConfirmation := Runs.reaches_run_true _ _
  have hneeds := access_needs_operation hreaches
  exact ⟨hneeds.2.1 _ (afterConfirmation.log.drop 25) 0 rfl,
    hneeds.2.2.1 _ (afterConfirmation.log.drop 26) 1 rfl⟩

end PortGate

end IolHat
